import FrameFlow.Proofs.Replay.Consuming
import FrameFlow.Proofs.Replay.Frames
import FrameFlow.Proofs.Session.Stamping
import Mathlib.Order.Nat

/-!
Replays whose frames are stamped a step apart. Stamps go up until one of them is the greatest
timestamp of all; the frame after that one is refused, and ends the replay with an error once
everything before it was written.
-/

namespace FrameFlow

namespace Replay

variable {plan : ReplayPlan} {replay next : Replay} {step : Int} {count : Nat}

theorem micros_stepTimestamp (positive : 0 < step) (index : Nat) :
    (stepTimestamp step index).micros = min (step * (index + 1)) (2 ^ 63 - 1) := by
  have above : 0 ≤ step * (index + 1) := Int.mul_nonneg (Int.le_of_lt positive) (by omega)
  simp only [stepTimestamp, Timestamp.micros_clamp, Timestamp.leastMicros,
    Timestamp.greatestMicros]
  omega

/-- Timestamps go up as long as the one before is not the greatest of all. -/
theorem stepTimestamp_lt (positive : 0 < step) {index : Nat}
    (below : step * (index + 1 : Nat) < 2 ^ 63 - 1) :
    stepTimestamp step index < stepTimestamp step (index + 1) := by
  have next : step * ((index + 1 : Nat) + 1) = step * (index + 1 : Nat) + step := by
    rw [Int.mul_add, Int.mul_one]
  rw [Timestamp.lt_def, micros_stepTimestamp positive, micros_stepTimestamp positive, next]
  rw [Int.natCast_succ] at below ⊢
  omega

/-- The stamp of the latest of a number of frames. -/
def latestStamp (step : Int) : Nat → Option Timestamp
  | 0 => none
  | last + 1 => some (stepTimestamp step last)

/-- A frame that comes in time may be fed. -/
theorem checkStamp_stepTimestamp {lifecycle : Lifecycle} (running : lifecycle.state = .running)
    (stamped : lifecycle.lastTimestamp = latestStamp step count) (positive : 0 < step)
    (inTime : count ≠ 0 → step * count < 2 ^ 63 - 1) :
    lifecycle.checkStamp (stepTimestamp step count) = .ok () := by
  refine Lifecycle.checkStamp_eq_ok_iff.mpr ⟨running, fun previous last => ?_⟩
  rw [stamped] at last
  cases count with
  | zero => contradiction
  | succ before =>
      cases last
      exact stepTimestamp_lt positive (inTime (Nat.succ_ne_zero before))

/-- A replay that came about by calls of the session that its plan opens. -/
structure Arises (plan : ReplayPlan) (replay : Replay) : Prop where
  follows : replay.plan = plan
  unfed : replay.fed = 0
  called : ∃ actions, replay.session = (freshSession plan).after actions
  own : replay.HasOwnQueues

theorem Arises.exists_called (arises : replay.Arises plan) {action : Action}
    {session : Session SessionEngine} (performed : (replay.session.perform action).2 = session) :
    ∃ actions, session = (freshSession plan).after actions := by
  obtain ⟨actions, same⟩ := arises.called
  refine ⟨actions ++ [action], ?_⟩
  rw [Session.after_append, ← same, ← performed]
  rfl

theorem Arises.called_by (arises : replay.Arises plan) (action : Action)
    {session : Session SessionEngine} (performed : (replay.session.perform action).2 = session) :
    { replay with session }.Arises plan :=
  ⟨arises.follows, arises.unfed, arises.exists_called performed, arises.own⟩

theorem Arises.bindPort (arises : replay.Arises plan) {port : Port}
    (bound : replay.bindPort port = .ok next) : next.Arises plan := by
  simp only [Replay.bindPort] at bound
  split at bound
  · split at bound
    · contradiction
    · rename_i session binds
      cases bound
      refine arises.called_by (.bindCallback port listener) ?_
      rw [Session.perform, Session.answered_snd, binds]
  · split at bound
    · contradiction
    · rename_i poller session binds
      cases bound
      have performed : replay.session.perform (.bindPoller port) = (.outputs poller, session) := by
        rw [Session.perform, binds]
        rfl
      refine ⟨arises.follows, arises.unfed,
        arises.exists_called (congrArg Prod.snd performed), fun consumer member => ?_⟩
      rcases List.mem_append.mp member with old | new
      · exact arises.own consumer old
      · rw [List.mem_singleton.mp new]
        exact Session.hasOwnQueues_of_bindPoller (congrArg Prod.fst performed)

theorem Arises.bindPorts {ports : List Port} (arises : replay.Arises plan)
    (bound : bindPorts ports replay = .ok next) : next.Arises plan := by
  induction ports generalizing replay with
  | nil =>
      cases bound
      exact arises
  | cons port rest ih =>
      simp only [Replay.bindPorts] at bound
      split at bound
      · split at bound
        · contradiction
        · rename_i binds
          exact ih (arises.bindPort binds) bound
      · exact ih arises bound

theorem Arises.bindPreview (arises : replay.Arises plan)
    (bound : replay.bindPreview = .ok next) : next.Arises plan := by
  simp only [Replay.bindPreview] at bound
  split at bound
  · split at bound
    · contradiction
    · rename_i session binds
      cases bound
      refine arises.called_by (.bindPreview listener) ?_
      rw [Session.perform, Session.answered_snd, binds]
  · cases bound
    exact arises

/-- A replay that was fed a number of frames, a step apart. -/
structure IsPaced (plan : ReplayPlan) (step : Int) (count : Nat) (replay : Replay) : Prop where
  follows : replay.plan = plan
  running : replay.session.state = .running
  coupled : replay.session.Coupled
  settled : replay.session.Settled
  rests : replay.session.Rests
  config : replay.session.config.pollerCapacity = plan.pollerCapacity
  stamped : replay.session.lifecycle.lastTimestamp = latestStamp step count
  fed : replay.fed = count
  own : replay.HasOwnQueues

/-- Consumers that go on do not change how far a replay has come. -/
theorem IsPaced.catchUp (paced : replay.IsPaced plan step count) :
    replay.catchUp.IsPaced plan step count := by
  obtain ⟨sameplan, samefed, tended⟩ := replay.tends_catchUp
  refine ⟨sameplan.trans paced.follows, ?_, tended.coupled paced.coupled,
    tended.settled paced.settled, tended.rests paced.rests, ?_, ?_, samefed.trans paced.fed,
    paced.own.catchUp⟩
  · rw [Session.state, tended.lifecycle]
    exact paced.running
  · rw [tended.config]
    exact paced.config
  · rw [tended.lifecycle]
    exact paced.stamped

section Feeding

theorem IsPaced.feedSession_eq (paced : replay.IsPaced plan step count)
    (stepped : plan.timestampStep = some step) (frame : Frame) (now : Timestamp) :
    replay.feedSession frame now = replay.session.feedAt ⟨stepTimestamp step count, frame⟩ := by
  rw [feedSession, paced.follows, stepped, paced.fed]

/-- A frame that comes in time is fed, whatever consumers there are. -/
theorem IsPaced.feed (paced : replay.IsPaced plan step count)
    (stepped : plan.timestampStep = some step) (positive : 0 < step)
    (inTime : count ≠ 0 → step * count < 2 ^ 63 - 1) (frame : Frame) (now : Timestamp) :
    ∃ next, replay.feed frame now = (.ok (), next) ∧ next.IsPaced plan step (count + 1) := by
  let input : StampedFrame := ⟨stepTimestamp step count, frame⟩
  have checked : replay.session.lifecycle.checkStamp input.timestamp = .ok () :=
    checkStamp_stepTimestamp paced.running paced.stamped positive inTime
  obtain ⟨run, fed⟩ := paced.coupled.agrees.feedAt_of_checked paced.running checked
  have performed := replay.session.perform_step (.feedAt input)
  simp only [Session.perform, fed, Session.answered] at performed
  have coupled := paced.coupled.step performed
  have settled := paced.settled.step paced.coupled performed
  let given : Replay := { replay with
    session := Session.settle { replay.session with
      engine := replay.session.engine.accept run input
      lifecycle := replay.session.lifecycle.accepted input.timestamp
      outlets := replay.session.outlets.countFed }
    fed := replay.fed + 1 }
  have next : given.IsPaced plan step (count + 1) :=
    ⟨paced.follows, paced.running, coupled, settled, Session.rests_settle _, paced.config, rfl,
      congrArg (· + 1) paced.fed, paced.own⟩
  refine ⟨given.catchUp, ?_, next.catchUp⟩
  rw [Replay.feed, paced.feedSession_eq stepped, fed]

theorem stepTimestamp_eq_greatest (positive : 0 < step) {index : Nat}
    (late : 2 ^ 63 - 1 ≤ step * (index + 1 : Nat)) : stepTimestamp step index = .greatest := by
  refine Timestamp.ext ?_
  rw [micros_stepTimestamp positive, Timestamp.micros_greatest]
  rw [Int.natCast_succ] at late
  exact Int.min_eq_right late

/-- Why a frame behind the greatest timestamp of all is not fed. -/
def staleFrame : Failure := .ofSession (.outOfOrderFrame .greatest .greatest)

/-- Behind the greatest timestamp of all a frame is refused, and counted as such. -/
theorem IsPaced.feed_of_late (paced : replay.IsPaced plan step count)
    (stepped : plan.timestampStep = some step) (positive : 0 < step) (fed : count ≠ 0)
    (late : 2 ^ 63 - 1 ≤ step * count) (frame : Frame) (now : Timestamp) :
    ∃ rejected, replay.feed frame now = (.error staleFrame, replay.withRejected rejected) := by
  obtain ⟨before, rfl⟩ := Nat.exists_eq_add_one_of_ne_zero fed
  have next : step * (before + 1 : Nat) ≤ step * (before + 1 + 1 : Nat) :=
    Int.mul_le_mul_of_nonneg_left (by omega) (Int.le_of_lt positive)
  have stamp : stepTimestamp step (before + 1) = .greatest :=
    stepTimestamp_eq_greatest positive (Int.le_trans late next)
  have last : replay.session.lifecycle.lastTimestamp = some .greatest :=
    paced.stamped.trans (congrArg some (stepTimestamp_eq_greatest positive late))
  have refused := Lifecycle.checkStamp_of_greatest paced.running last
  let refusal : SessionError := .outOfOrderFrame .greatest .greatest
  refine ⟨replay.session.outlets.metrics.framesRejected.bump refusal.label, ?_⟩
  rw [Replay.feed, paced.feedSession_eq stepped, stamp]
  simp only [Session.feedAt, refused, Session.reject]
  rfl

end Feeding

/-- The frames that are taken from a source and fed, each with the stamp that the session keeps of
it. -/
def fedFrames (clock : Nat → Timestamp) (limit : Option Nat) :
    Nat → FrameSource → Replay → List StampedFrame
  | 0, _, _ => []
  | turns + 1, source, replay =>
      match source.next?, replay.turn (clock replay.fed) limit source with
      | some (.ok frame, _), .fed rest next =>
          (next.session.lifecycle.lastTimestamp.map (⟨·, frame⟩)).toList ++
            fedFrames clock limit turns rest next
      | _, _ => []

/-- The number of frames after which the next stamp would not be later any more. -/
def IsReach (step : Int) (most : Nat) : Prop :=
  IsLeast { number : Nat | 1 ≤ number ∧ 2 ^ 63 - 1 ≤ step * number } most

theorem IsReach.inTime {most : Nat} (reach : IsReach step most) {number : Nat}
    (before : number < most) (some : number ≠ 0) : step * number < 2 ^ 63 - 1 := by
  refine Int.not_le.mp fun late => ?_
  exact Nat.not_le_of_lt before (reach.2 ⟨Nat.one_le_iff_ne_zero.mpr some, late⟩)

theorem isComplete_iff {limit : Option Nat} :
    isComplete limit replay = true ↔ ∃ most, limit = some most ∧ most ≤ replay.fed := by
  simp [isComplete, Option.any_eq_true]

theorem remaining_of_complete {limit : Option Nat} (complete : isComplete limit replay = true)
    (available : Nat) : remaining limit replay.fed available = 0 := by
  obtain ⟨most, rfl, reached⟩ := isComplete_iff.mp complete
  exact remaining_of_le reached available

theorem remaining_of_incomplete {limit : Option Nat}
    (incomplete : ¬ isComplete limit replay = true) (available : Nat) :
    remaining limit replay.fed (available + 1) =
      remaining limit (replay.fed + 1) available + 1 := by
  refine remaining_succ (fun most limited => Nat.lt_of_not_le fun reached => incomplete ?_)
    available
  exact isComplete_iff.mpr ⟨most, limited, reached⟩

section Turns

variable {limit : Option Nat} {source after : FrameSource} {clock : Nat → Timestamp}
  {frame : Frame}

theorem feedAll_of_none (none : source.next? = none) (turns : Nat) :
    replay.feedAll clock limit turns source = (.ok (), replay) ∧
      replay.fedFrames clock limit turns source = [] := by
  cases turns with
  | zero => exact ⟨rfl, rfl⟩
  | succ turns => simp only [feedAll, fedFrames, turn, none, and_self]

/-- Where feeding has come to its end, no more turns make a difference. -/
theorem feedAll_of_ended {result : Except Failure Unit}
    (ended : replay.turn (clock replay.fed) limit source = .ended result next) (turns : Nat) :
    replay.feedAll clock limit (turns + 1) source = (result, next) ∧
      replay.fedFrames clock limit (turns + 1) source = [] := by
  simp only [feedAll, fedFrames, ended]
  exact ⟨trivial, by split <;> trivial⟩

theorem turn_of_complete {item : Except CaptureError Frame}
    (gives : source.next? = some (item, after)) (complete : isComplete limit replay = true)
    (now : Timestamp) : replay.turn now limit source = .ended (.ok ()) replay := by
  simp only [turn, gives, complete, if_true]

theorem turn_of_feed {answer : Except Failure Unit} {now : Timestamp}
    (gives : source.next? = some (.ok frame, after)) (complete : ¬ isComplete limit replay = true)
    (fed : replay.feed frame now = (answer, next)) :
    replay.turn now limit source =
      match answer with
      | .error failure => .ended (.error failure) next
      | .ok () => .fed after next := by
  simp only [turn, gives, complete, fed]
  cases answer <;> rfl

theorem feedAll_of_fed {stamp : Timestamp} (clock : Nat → Timestamp)
    (gives : source.next? = some (.ok frame, after))
    (fed : replay.turn (clock replay.fed) limit source = .fed after next)
    (stamped : next.session.lifecycle.lastTimestamp = some stamp) (turns : Nat) :
    replay.feedAll clock limit (turns + 1) source = next.feedAll clock limit turns after ∧
      replay.fedFrames clock limit (turns + 1) source =
        ⟨stamp, frame⟩ :: next.fedFrames clock limit turns after := by
  simp only [feedAll, fedFrames, fed, gives, stamped]
  exact ⟨trivial, rfl⟩

end Turns

/-- All frames that come before the greatest timestamp was used are fed, and none after. -/
theorem IsPaced.feedAll {most : Nat} {frames : List Frame} {source : FrameSource}
    {turns : Nat} (paced : replay.IsPaced plan step count)
    (stepped : plan.timestampStep = some step) (positive : 0 < step) (reach : IsReach step most)
    (within : count ≤ most) (yields : source.Yields (frames.map .ok))
    (enough : frames.length ≤ turns) (limit : Option Nat) (clock : Nat → Timestamp) :
    let last := min (count + remaining limit count frames.length) most
    ∃ first rejected, first.IsPaced plan step last ∧
      replay.feedAll clock (some last) turns source = (.ok (), first) ∧
      (replay.feedAll clock limit turns source =
        if count + remaining limit count frames.length ≤ most then (.ok (), first)
        else (.error staleFrame, first.withRejected rejected)) ∧
      replay.fedFrames clock limit turns source = (frames.take (last - count)).mapIdx
        fun index frame => ⟨stepTimestamp step (count + index), frame⟩ := by
  induction frames generalizing replay count source turns with
  | nil =>
      have none : source.next? = none := by
        cases yields with
        | ends none => exact none
      have still (limit : Option Nat) :
          replay.feedAll clock limit turns source = (.ok (), replay) ∧
            replay.fedFrames clock limit turns source = [] := feedAll_of_none none turns
      intro last
      have same : last = count := by
        simp only [last, List.length_nil, remaining_zero]
        omega
      refine ⟨replay, {}, same ▸ paced, (still _).1, ?_, ?_⟩
      · rw [(still _).1, List.length_nil, remaining_zero,
          if_pos (show count + 0 ≤ most from within)]
      · rw [(still _).2, List.take_nil, List.mapIdx_nil]
  | cons frame rest ih =>
      cases yields with
      | @gives _ after _ _ gives later =>
      obtain ⟨turns, rfl⟩ := Nat.exists_eq_add_one_of_ne_zero (Nat.ne_zero_of_lt enough)
      intro last
      have complete_self : isComplete (some count) replay = true :=
        isComplete_iff.mpr ⟨count, rfl, Nat.le_of_eq paced.fed.symm⟩
      have limited : replay.feedAll clock (some count) (turns + 1) source = (.ok (), replay) :=
        (feedAll_of_ended (turn_of_complete gives complete_self _) turns).1
      by_cases complete : isComplete limit replay = true
      · obtain ⟨ended, nothing⟩ :=
          feedAll_of_ended (turn_of_complete gives complete (clock replay.fed)) turns
        have none : remaining limit count (frame :: rest).length = 0 :=
          paced.fed ▸ remaining_of_complete complete _
        have same : last = count := by simp only [last, none]; omega
        refine ⟨replay, {}, same ▸ paced, same ▸ limited, ?_, ?_⟩
        · rw [ended, none, if_pos (show count + 0 ≤ most from within)]
        · rw [nothing, same, Nat.sub_self]
          rfl
      · have number : remaining limit count (frame :: rest).length =
            remaining limit (count + 1) rest.length + 1 :=
          paced.fed ▸ remaining_of_incomplete complete rest.length
        by_cases full : count = most
        · subst full
          obtain ⟨⟨some, late⟩, _⟩ := reach
          obtain ⟨rejected, refused⟩ := paced.feed_of_late stepped positive
            (Nat.one_le_iff_ne_zero.mp some) late frame (clock replay.fed)
          obtain ⟨ended, nothing⟩ :=
            feedAll_of_ended (turn_of_feed gives complete refused) turns
          have same : last = count := by simp only [last, number]; omega
          refine ⟨replay, rejected, same ▸ paced, same ▸ limited, ?_, ?_⟩
          · rw [ended, number, if_neg (by omega)]
          · rw [nothing, same, Nat.sub_self]
            rfl
        · have early : count < most := Nat.lt_of_le_of_ne within full
          obtain ⟨next, fed, later_paced⟩ := paced.feed stepped positive (reach.inTime early)
            frame (clock replay.fed)
          obtain ⟨first, rejected, further, stopped, ended, given⟩ := ih later_paced early later
            (Nat.le_of_succ_le_succ enough)
          have total : count + (remaining limit (count + 1) rest.length + 1) =
              count + 1 + remaining limit (count + 1) rest.length := by omega
          have same : last = min (count + 1 + remaining limit (count + 1) rest.length) most := by
            simp only [last, number, total]
          have incomplete : ¬ isComplete (some last) replay = true := by
            intro reached
            obtain ⟨few, known, reached⟩ := isComplete_iff.mp reached
            rw [← Option.some.inj known, paced.fed] at reached
            omega
          obtain ⟨goes, gets⟩ := feedAll_of_fed clock gives (turn_of_feed gives complete fed)
            later_paced.stamped turns
          obtain ⟨limited, _⟩ := feedAll_of_fed clock gives (turn_of_feed gives incomplete fed)
            later_paced.stamped turns
          refine ⟨first, rejected, same ▸ further, ?_, ?_, ?_⟩
          · rw [limited, same, stopped]
          · rw [goes, ended, number, total]
          · have one : last - count = last - (count + 1) + 1 := by omega
            rw [gets, given, one, List.take_succ_cons, List.mapIdx_cons, ← same]
            simp only [Nat.add_zero, Nat.add_right_comm count 1, Nat.add_assoc]

/-- When a replay has ended, everything is written, unless queues have a bound and the engine
waits for room in a full one. -/
theorem IsPaced.isWritten_or (paced : replay.IsPaced plan step count) :
    replay.ended.IsWritten ∨ plan.pollerCapacity ≠ none ∧ replay.ended.session.IsHeldUp := by
  rcases ended_isWritten_or paced.own paced.running paced.coupled paced.settled with
    written | held
  · exact .inl written
  · refine .inr ⟨fun unbounded => ?_, held⟩
    obtain ⟨worker, _, holdsUp⟩ := held
    have performed := replay.session.stop_step
    have tended := replay.tends_ended
    have settled := tended.settled (paced.settled.step paced.coupled performed)
    refine settled.not_holdsUp ?_ worker holdsUp
    rw [tended.config]
    exact (congrArg _ performed.config).trans (paced.config.trans unbounded)

/-- The frames that are fed from a plan's input, each with its stamp. -/
def fedInput (files : String → FileAccess) (clock : Nat → Timestamp) (replay : Replay) :
    List StampedFrame :=
  match openInput replay.plan files with
  | .error _ => []
  | .ok (source, limit) => replay.fedFrames clock limit source.bound source

/-- Feeds a plan's input as if there were no more than some number of frames. -/
def feedFirst (most : Nat) (files : String → FileAccess) (clock : Nat → Timestamp)
    (replay : Replay) : Except Failure Unit × Replay :=
  match openInput replay.plan files with
  | .error failure => (.error failure, replay)
  | .ok (source, _) => replay.feedAll clock (some most) source.bound source

/-- A plan asks for stamps a step apart, and its input has some frames. -/
structure Steps (plan : ReplayPlan) (step : Int) (files : String → FileAccess) (count : Nat) :
    Prop where
  solid : plan.width ≠ 0 ∧ plan.height ≠ 0
  sized : 0 < frameBytes plan.width plan.height
  stepped : plan.timestampStep = some step
  positive : 0 < step
  offered : plan.available files = some count

section Input

variable {files : String → FileAccess} {most : Nat}

theorem IsPaced.feedInput (paced : replay.IsPaced plan step 0) (steps : Steps plan step files count)
    (reach : IsReach step most) (clock : Nat → Timestamp) :
    ∃ first rejected, first.IsPaced plan step (min count most) ∧
      replay.feedFirst (min count most) files clock = (.ok (), first) ∧
      replay.feedInput files clock =
        (if count ≤ most then (.ok (), first)
        else (.error staleFrame, first.withRejected rejected)) ∧
      replay.fedInput files clock =
        stampedFrames step ((inputFrames plan files).take (min count most)) := by
  obtain ⟨source, limit, opens, yields, bounded, total, _⟩ :=
    exists_input steps.solid steps.sized steps.offered
  obtain ⟨first, rejected, further, stopped, ended, given⟩ :=
    paced.feedAll steps.stepped steps.positive reach (Nat.zero_le _) yields bounded limit clock
  simp only [Nat.zero_add, total] at further stopped ended given
  refine ⟨first, rejected, further, ?_, ?_, ?_⟩
  · rw [Replay.feedFirst, paced.follows, opens]
    exact stopped
  · rw [Replay.feedInput, paced.follows, opens]
    exact ended
  · rw [fedInput, paced.follows, opens]
    exact given

/-- Any number of frames up to there can be fed alone. -/
theorem IsPaced.feedFirst (paced : replay.IsPaced plan step 0) (steps : Steps plan step files count)
    (reach : IsReach step most) {number : Nat} (within : number ≤ min count most)
    (clock : Nat → Timestamp) :
    ∃ source limit first, openInput plan files = .ok (source, limit) ∧
      first.IsPaced plan step number ∧
      replay.feedAll clock (some number) source.bound source = (.ok (), first) ∧
      replay.fedFrames clock (some number) source.bound source =
        stampedFrames step ((inputFrames plan files).take number) := by
  obtain ⟨source, limit, opens, yields, bounded, _, enough, _⟩ :=
    exists_input steps.solid steps.sized steps.offered
  obtain ⟨first, _, further, stopped, _, given⟩ := paced.feedAll steps.stepped steps.positive reach
    (Nat.zero_le _) yields bounded (some number) clock
  have whole : min (remaining (some number) 0 (inputFrames plan files).length) most =
      number := by
    simp only [remaining]
    omega
  simp only [Nat.zero_add, whole] at further stopped given
  exact ⟨source, limit, first, opens, further, stopped, given⟩

end Input

end Replay

end FrameFlow

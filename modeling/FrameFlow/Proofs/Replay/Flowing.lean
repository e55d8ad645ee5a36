import FrameFlow.Proofs.Replay.Ports
import FrameFlow.Proofs.Replay.Stamping

/-!
Replays from their start to their end, in either mode. All that a frame comes to is taken in
before the next one is fed, so no feed has to wait and the end finds nothing in the way, unless
queues have a bound and an engine fills one that its consumer does not look into yet.
-/

namespace FrameFlow

namespace Replay

variable {plan : ReplayPlan} {replay next last begun bound : Replay} {graph : Graph} {text : String}
  {bindings : StreamMap Binding} {roster : Roster} {frames : List StampedFrame}

/-- All that a plan wants is bound to listeners, and nothing else is. -/
structure Listens (plan : ReplayPlan) (graph : Graph) (replay : Replay) : Prop where
  follows : replay.plan = plan
  unwritten : replay.lines = []
  unfailed : replay.runtimeErrors = 0
  unpolled : replay.consumers = []
  takes : replay.session.TakesWishes plan.preset.task plan.pollerCapacity graph
  layout : replay.session.layout = plan.preset.layout
  binds : plan.Binds replay.session.bindings.bindings

/-- All that a plan wants is bound, to listeners or with consumers. -/
inductive IsBound (plan : ReplayPlan) (graph : Graph) (replay : Replay) : Prop
  | told (mode : plan.mode = .callback) (listens : replay.Listens plan graph)
  | polled (mode : plan.mode = .poll)
      (seats : replay.Seats plan graph plan.preview plan.ports)

theorem IsBound.takes (bound : IsBound plan graph replay) :
    replay.session.TakesWishes plan.preset.task plan.pollerCapacity graph := by
  cases bound with
  | told mode listens => exact listens.takes
  | polled mode seats => exact seats.takes

theorem IsBound.proceeds (bound : IsBound plan graph replay) {session : Session SessionEngine}
    (starts : replay.session.start = (.ok (), session)) :
    Proceeds (replay.roster graph) [] { replay with session } := by
  cases bound with
  | polled mode seats => exact seats.proceeds starts
  | told mode listens =>
      refine proceeds_of_start listens.follows listens.unwritten listens.unfailed listens.takes
        starts fun _ _ consumer member => ?_
      rw [listens.unpolled] at member
      contradiction

/-- A frame that is fed is taken with some stamp. -/
theorem exists_feedAt {frame : Frame} {now : Timestamp} {session : Session SessionEngine}
    (fed : replay.feedSession frame now = (.ok (), session)) :
    ∃ stamp, replay.session.feedAt ⟨stamp, frame⟩ = (.ok (), session) := by
  simp only [feedSession] at fed
  split at fed
  · exact ⟨_, fed⟩
  · let stamp := replay.session.lifecycle.stamp now
    refine ⟨stamp, ?_⟩
    rcases given : replay.session.feedAt ⟨stamp, frame⟩ with ⟨error | done, after⟩
    all_goals
      simp only [Session.feed, stamp, given] at fed
      cases fed
    rfl

/-- When the next frame is fed, all that the frames before it came to was taken in. -/
theorem Proceeds.feed (proceeds : replay.Proceeds roster frames) (fair : roster.IsFair)
    {frame : Frame} {now : Timestamp} (fed : replay.feed frame now = (.ok (), next)) :
    ∃ stamp, next.session.lifecycle.lastTimestamp = some stamp ∧
      next.Proceeds roster (frames ++ [⟨stamp, frame⟩]) ∧ ¬ next.session.IsHeldUp := by
  simp only [Replay.feed] at fed
  split at fed
  · cases fed
  · rename_i session given
    cases fed
    obtain ⟨stamp, taken⟩ := exists_feedAt given
    have further := proceeds.feedAt fair taken (replay.fed + 1)
    refine ⟨stamp, ?_, further.catchUp fair, further.not_isHeldUp_catchUp fair⟩
    obtain ⟨_, run, rfl⟩ := Session.exists_of_feedAt proceeds.coupled taken
    rw [(tends_catchUp _).session.lifecycle]
    rfl

section Turns

variable {now : Timestamp} {limit : Option Nat} {source rest : FrameSource}

theorem exists_feed_of_turn (turns : replay.turn now limit source = .fed rest next) :
    ∃ frame, source.next? = some (.ok frame, rest) ∧ replay.feed frame now = (.ok (), next) := by
  simp only [turn] at turns
  split at turns
  · contradiction
  · rename_i item after gives
    split at turns
    · contradiction
    · split at turns
      · contradiction
      · rename_i frame
        split at turns
        · contradiction
        · rename_i given
          cases turns
          exact ⟨frame, gives, given⟩

/-- Feeding comes to a good end without another frame. -/
theorem eq_of_turn (ends : replay.turn now limit source = .ended (.ok ()) next) :
    next = replay := by
  simp only [turn] at ends
  split at ends
  · cases ends
    rfl
  · split at ends
    · cases ends
      rfl
    · split at ends
      · cases ends
      · split at ends <;> cases ends

end Turns

/-- So it stays while frames are fed, and with every frame it is one more that was fed. -/
theorem Proceeds.feedAll {clock : Nat → Timestamp} {limit : Option Nat} {turns : Nat}
    {source : FrameSource} (proceeds : replay.Proceeds roster frames) (fair : roster.IsFair)
    (free : ¬ replay.session.IsHeldUp)
    (fed : replay.feedAll clock limit turns source = (.ok (), last)) :
    last.Proceeds roster (frames ++ replay.fedFrames clock limit turns source) ∧
      ¬ last.session.IsHeldUp := by
  induction turns generalizing replay frames source with
  | zero =>
      cases fed
      rw [fedFrames, List.append_nil]
      exact ⟨proceeds, free⟩
  | succ turns ih =>
      simp only [Replay.feedAll] at fed
      cases turns : replay.turn (clock replay.fed) limit source with
      | ended result next =>
          simp only [turns] at fed
          cases fed
          rw [(feedAll_of_ended turns _).2, List.append_nil, eq_of_turn turns]
          exact ⟨proceeds, free⟩
      | fed rest next =>
          simp only [turns] at fed
          obtain ⟨frame, gives, given⟩ := exists_feed_of_turn turns
          obtain ⟨stamp, stamped, further, free⟩ := proceeds.feed fair given
          have later := ih further free fed
          rw [(feedAll_of_fed clock gives turns stamped _).2]
          rwa [List.append_assoc, List.singleton_append] at later

/-- Where listeners are told of all outputs, the lines are those of the script. -/
theorem Listens.lines (listens : replay.Listens plan graph) (wellFormed : graph.WellFormed)
    {frames : List Frame} {step : Int}
    (sized : ∀ frame ∈ frames, frame.width = plan.width ∧ frame.height = plan.height)
    (proceeds : last.Proceeds (replay.roster graph) (stampedFrames step frames))
    (written : last.IsWritten) :
    (∀ consumer ∈ last.consumers, consumer.error? = none) ∧
      last.lines = (List.range frames.length).flatMap ((plan.within graph).frameLines graph step) ∧
      (plan.Suits graph → last.runtimeErrors =
        ((List.range frames.length).map (plan.frameErrors graph)).sum) := by
  have nobody (poller : OutputPoller) : poller ∉ (replay.roster graph).pollers := by
    rw [roster, listens.unpolled]
    exact List.not_mem_nil
  obtain ⟨unfailed, _, told, errors⟩ :=
    proceeds.lines_of_isWritten written fun poller member => absurd member (nobody poller)
  have fits : plan.Fits replay :=
    ⟨listens.layout, congrArg SessionConfig.previewStream listens.takes.config⟩
  have shown := lines_of_frames ((plan.within graph).frameLines graph step)
    fun index frame member => ReplayPlan.lines_of_frame fits listens.binds wellFormed step index
      (sized frame member).1 (sized frame member).2
  have failures (suits : plan.Suits graph) := errors_of_frames (plan.frameErrors graph)
    fun index frame (_ : frame ∈ frames) => ReplayPlan.errors_of_frame listens.binds wellFormed
      suits index ⟨stepTimestamp step index, frame⟩
  have all : last.lines.filter (replay.roster graph).tells = last.lines :=
    List.filter_eq_self.mpr fun line _ =>
      List.all_eq_true.mpr fun poller member => absurd member (nobody poller)
  exact ⟨unfailed, all.symm.trans (told.trans shown), fun suits => errors.trans (failures suits)⟩

end Replay

namespace ReplayPlan

variable {plan : ReplayPlan} {graph : Graph}

/-- No queue with a bound is filled that its consumer does not look into: where outputs are polled
and queues have a bound, payloads go with their presences. -/
def Flows (plan : ReplayPlan) (graph : Graph) : Prop :=
  plan.mode = .poll → plan.pollerCapacity ≠ none → plan.Pairs graph

/-- A graph has what those ask for that poll its outputs, if anybody does: streams with nothing but
payloads of the right kind, which go with their presences. -/
structure IsServed (plan : ReplayPlan) (graph : Graph) : Prop where
  typed : plan.mode = .poll → plan.IsTyped graph
  pairs : plan.mode = .poll → plan.Pairs graph

/-- The lines that a plan has from a graph: those of the script in order if listeners are told of
all outputs, and else those of each port in order. -/
structure Writes (plan : ReplayPlan) (graph : Graph) (step : Int) (count : Nat)
    (lines : List Line) : Prop where
  told : plan.mode = .callback →
    lines = (List.range count).flatMap ((plan.within graph).frameLines graph step)
  polled : plan.mode = .poll → (plan.within graph).HasLines graph step count lines

end ReplayPlan

namespace Replay

variable {plan : ReplayPlan} {replay begun first : Replay} {graph : Graph} {text : String}
  {step : Int} {number : Nat} {frames : List Frame} {source : GraphSource}

/-- A replay that was fed some frames from its start on, and can be fed more. -/
structure Carries (plan : ReplayPlan) (graph : Graph) (step : Int) (frames : List Frame)
    (first : Replay) : Prop where
  paced : first.IsPaced plan step frames.length
  free : plan.Flows graph → ¬ first.session.IsHeldUp
  proceeds : (plan.mode = .poll → plan.Pairs graph) → ∃ bound, IsBound plan graph bound ∧
    (bound.roster graph).IsFair ∧
    first.Proceeds (bound.roster graph) (stampedFrames step frames)

/-- The end finds nothing in the way. -/
theorem Carries.isWritten (carries : first.Carries plan graph step frames)
    (flows : plan.Flows graph) : first.ended.IsWritten := by
  rcases carries.paced.isWritten_or with written | ⟨bounded, held⟩
  · exact written
  · obtain ⟨bound, _, fair, proceeds⟩ := carries.proceeds fun mode => flows mode bounded
    exact absurd held ((proceeds.stop fair carries.paced.running).not_isHeldUp_catchUp fair)

/-- And what was fed is written, if the graph has what is wanted. -/
theorem Carries.writes (carries : first.Carries plan graph step frames)
    (wellFormed : graph.WellFormed) (served : plan.IsServed graph)
    (sized : ∀ frame ∈ frames, frame.width = plan.width ∧ frame.height = plan.height) :
    (∀ consumer ∈ first.ended.consumers, consumer.error? = none) ∧
      plan.Writes graph step frames.length first.ended.lines ∧
      (plan.Suits graph → first.ended.runtimeErrors =
        ((List.range frames.length).map (plan.frameErrors graph)).sum) := by
  have written := carries.isWritten fun mode _ => served.pairs mode
  obtain ⟨bound, isBound, fair, proceeds⟩ := carries.proceeds served.pairs
  have ended := (proceeds.stop fair carries.paced.running).catchUp fair
  cases isBound with
  | told mode listens =>
      obtain ⟨unfailed, lines, errors⟩ := listens.lines wellFormed sized ended written
      refine ⟨unfailed, ⟨fun _ => lines, fun polls => ?_⟩, errors⟩
      rw [mode] at polls
      contradiction
  | polled mode seats =>
      obtain ⟨unfailed, lines, errors⟩ := seats.hasLines wellFormed (served.typed mode)
        (served.pairs mode) sized ended written
      refine ⟨unfailed, ⟨fun told => ?_, fun _ => lines⟩, errors⟩
      rw [mode] at told
      contradiction

end Replay

end FrameFlow

import FrameFlow.Proofs.Session.Refusals
import FrameFlow.Proofs.Session.Resting
import FrameFlow.Proofs.Session.Turns
import FrameFlow.Replay.Run

/-!
The consumers of a replay. However long they go on, they leave the session's state and stamps
alone, they do not notice how many frames were rejected, and they come to their end when nobody
fills their queues any more, unless the engine waits for room in a queue that none of them reads.
-/

namespace FrameFlow

namespace Session

variable {session middle next : Session SessionEngine}

/-- Queues were looked into, the engine went on, and listeners took what they were told. -/
inductive Tended (session : Session SessionEngine) : Session SessionEngine → Prop
  | refl : Tended session session
  | polled {middle next : Session SessionEngine} :
      Tended session middle → middle.Polled next → Tended session next
  | heard {middle : Session SessionEngine} (events : List Event) : Tended session middle →
      Tended session { middle with outlets := { middle.outlets with events } }

namespace Tended

theorem trans (first : session.Tended middle) (second : middle.Tended next) :
    session.Tended next := by
  induction second with
  | refl => exact first
  | polled _ polled ih => exact .polled ih polled
  | heard events _ ih => exact .heard events ih

theorem lifecycle (tended : session.Tended next) : next.lifecycle = session.lifecycle := by
  induction tended with
  | refl => rfl
  | polled _ polled ih => exact polled.lifecycle.trans ih
  | heard _ _ ih => exact ih

theorem config (tended : session.Tended next) : next.config = session.config := by
  induction tended with
  | refl => rfl
  | polled _ polled ih => exact polled.config.trans ih
  | heard _ _ ih => exact ih

theorem layout (tended : session.Tended next) : next.layout = session.layout := by
  induction tended with
  | refl => rfl
  | polled _ polled ih => exact polled.layout.trans ih
  | heard _ _ ih => exact ih

theorem coupled (tended : session.Tended next) (coupled : session.Coupled) : next.Coupled := by
  induction tended with
  | refl => exact coupled
  | polled _ polled ih => exact ih.polled polled
  | heard _ _ ih => exact ih.withOutlets _

theorem works (tended : session.Tended next) (coupled : session.Coupled)
    (works : session.state = .running → session.engine.worker.isSome = true)
    (running : next.state = .running) : next.engine.worker.isSome = true := by
  have lifecycle := tended.lifecycle
  induction tended with
  | refl => exact works running
  | @polled middle next before polled ih =>
      have still : middle.state = .running :=
        (congrArg Lifecycle.state polled.lifecycle).symm.trans running
      exact polled.works (before.coupled coupled) still (ih still before.lifecycle)
  | heard _ before ih => exact ih running before.lifecycle

theorem settled (tended : session.Tended next) (settled : session.Settled) : next.Settled := by
  induction tended with
  | refl => exact settled
  | polled _ polled ih => exact ih.polled polled
  | heard _ _ ih => exact ⟨ih.worker, ih.capacity, ih.sized⟩

theorem rests (tended : session.Tended next) (rests : session.Rests) : next.Rests := by
  induction tended with
  | refl => exact rests
  | polled _ polled ih => exact polled.rests
  | heard _ _ ih => exact ih.withOutlets rfl

end Tended

theorem release_polled (session : Session SessionEngine) (poller : OutputPoller) :
    session.Polled (session.release poller) :=
  .once (poller.eases_detach _)

end Session

namespace Consumer

variable {consumer : Consumer} {session : Session SessionEngine}

/-- What a step comes to. A consumer that has ended stays as it is. Any other looks into its
queues, and ends where that fails or nothing will come any more. -/
inductive Stepped (consumer : Consumer) (session : Session SessionEngine) :
    Consumer × List Line × Session SessionEngine → Prop
  | still {ending : Except SessionError Unit} (ended : consumer.ending = some ending) :
      Stepped consumer session (consumer, [], session)
  | writes {observation : Observation} {poller : OutputPoller} {polled : Session SessionEngine}
      (goes : consumer.ending = none)
      (looks : session.poll consumer.poller = (.ok (.ready observation), poller, polled)) :
      Stepped consumer session
        ({ consumer with poller }, [.ofObservation poller.stream observation], polled)
  | waits {poller : OutputPoller} {polled : Session SessionEngine} (goes : consumer.ending = none)
      (looks : session.poll consumer.poller = (.ok .empty, poller, polled)) :
      Stepped consumer session ({ consumer with poller }, [], polled)
  | ends {ending : Except SessionError Unit} {poller : OutputPoller}
      {polled : Session SessionEngine} (goes : consumer.ending = none)
      (looks : session.poll consumer.poller = (ending.map fun () => .closed, poller, polled)) :
      Stepped consumer session ({ consumer with poller }.finish ending polled)

theorem stepped_step (consumer : Consumer) (session : Session SessionEngine) :
    consumer.Stepped session (consumer.step session) := by
  cases ending : consumer.ending with
  | some how =>
      rw [step, if_pos (by rw [ending]; rfl)]
      exact .still ending
  | none =>
      rw [step, if_neg (by rw [ending]; decide)]
      rcases looks : session.poll consumer.poller with
        ⟨error | (observation | _ | _), poller, polled⟩
      · exact @Stepped.ends consumer session (.error error) poller polled ending looks
      · exact .writes ending looks
      · exact .waits ending looks
      · exact @Stepped.ends consumer session (.ok ()) poller polled ending looks

section Stepped

variable {stepped : Consumer × List Line × Session SessionEngine}

theorem Stepped.tended (steps : consumer.Stepped session stepped) :
    session.Tended stepped.2.2 := by
  have polls := Session.Tended.polled .refl (session.poll_polled consumer.poller)
  cases steps with
  | still => exact .refl
  | writes _ looks | waits _ looks =>
      rw [looks] at polls
      exact polls
  | ends _ looks =>
      rw [looks] at polls
      exact .polled polls (Session.release_polled ..)

theorem Stepped.hasOwnQueues (steps : consumer.Stepped session stepped)
    (own : consumer.poller.HasOwnQueues) : stepped.1.poller.HasOwnQueues := by
  have polls := Session.hasOwnQueues_poll own session
  cases steps with
  | still => exact own
  | writes _ looks | waits _ looks | ends _ looks =>
      rw [looks] at polls
      exact polls

end Stepped

theorem tended_stepAll (consumers : List Consumer) (session : Session SessionEngine) :
    session.Tended (stepAll consumers session).2.2 := by
  induction consumers generalizing session with
  | nil => exact .refl
  | cons consumer rest ih => exact (consumer.stepped_step session).tended.trans (ih _)

theorem hasOwnQueues_stepAll {consumers : List Consumer}
    (own : ∀ consumer ∈ consumers, consumer.poller.HasOwnQueues)
    (session : Session SessionEngine) :
    ∀ consumer ∈ (stepAll consumers session).1, consumer.poller.HasOwnQueues := by
  induction consumers generalizing session with
  | nil => exact fun _ member => absurd member List.not_mem_nil
  | cons consumer rest ih =>
      intro other member
      rcases List.mem_cons.mp member with same | later
      · rw [same]
        exact (consumer.stepped_step session).hasOwnQueues (own consumer List.mem_cons_self)
      · exact ih (fun other member => own other (List.mem_cons_of_mem _ member)) _ other later

/-- How many consumers have not come to their end. -/
def going (consumers : List Consumer) : Nat := consumers.countP (·.ending.isNone)

theorem going_cons (consumer : Consumer) (others : List Consumer) :
    going (consumer :: others) = going [consumer] + going others := by
  simp [going, List.countP_cons, Nat.add_comm]

theorem going_of_none (goes : consumer.ending = none) : going [consumer] = 1 := by
  simp [going, goes]

/-- A consumer has ended, or finds nothing in its queues, which may still be filled. -/
def IsStuck (consumer : Consumer) (session : Session SessionEngine) : Prop :=
  consumer.ending = none →
    let looked := consumer.poller.poll session.isOpen session.outlets
    looked.1 = .ok .empty ∧ looked.2.2 = session.outlets

/-- Where nobody fills the queues any more, consumers that are stuck have ended. -/
theorem IsStuck.ended (stuck : consumer.IsStuck session) (abandoned : session.isOpen = nobody) :
    consumer.ending.isSome = true := by
  refine Option.isSome_iff_ne_none.mpr fun goes => ?_
  obtain ⟨empty, _⟩ := stuck goes
  have spoken := OutputPoller.saysNothing_poll_nobody consumer.poller session.outlets
  rw [← abandoned, empty] at spoken
  cases spoken

/-- A step never adds to what is left to do. If it does not lessen it either, the consumer is
stuck, and nothing has changed. -/
theorem Stepped.work {stepped : Consumer × List Line × Session SessionEngine}
    (steps : consumer.Stepped session stepped) (own : consumer.poller.HasOwnQueues) :
    let before := session.outstanding + going [consumer]
    let after := stepped.2.2.outstanding + going [stepped.1]
    after ≤ before ∧ (session.settle = session → after < before ∨
      stepped.2.2 = session ∧ stepped.1.ending = consumer.ending ∧ consumer.IsStuck session) := by
  obtain ⟨most, fewer, takes⟩ := Session.outstanding_poll own session
  cases steps with
  | still ended =>
      refine ⟨Nat.le_refl _, fun _ => .inr ⟨rfl, rfl, fun goes => ?_⟩⟩
      rw [ended] at goes
      contradiction
  | writes _ looks =>
      rw [looks] at most fewer
      exact ⟨Nat.add_le_add_right most _, fun _ => .inl (Nat.add_lt_add_right (fewer _ rfl) _)⟩
  | @waits poller polled _ looks =>
      rw [looks] at most takes
      refine ⟨Nat.add_le_add_right most _, fun settled => ?_⟩
      rcases takes with same | less
      · have asked : (consumer.poller.poll session.isOpen session.outlets).1 = .ok .empty :=
          congrArg Prod.fst looks
        have settles : polled = session := by
          have after := congrArg (·.2.2) looks
          simp only [Session.poll, same] at after
          exact after.symm.trans settled
        exact .inr ⟨settles, rfl, fun _ => ⟨asked, same⟩⟩
      · exact .inl (Nat.add_lt_add_right less _)
  | @ends _ poller polled goes looks =>
      rw [looks] at most
      have less := Nat.le_trans (polled.outstanding_release poller) most
      rw [going_of_none goes]
      exact ⟨Nat.le_succ_of_le less, fun _ => .inl (Nat.lt_succ_of_le less)⟩

/-- So if a round of all consumers lessens nothing, all of them are stuck. -/
theorem stepAll_work {consumers : List Consumer}
    (own : ∀ consumer ∈ consumers, consumer.poller.HasOwnQueues)
    (session : Session SessionEngine) :
    let stepped := stepAll consumers session
    let before := session.outstanding + going consumers
    let after := stepped.2.2.outstanding + going stepped.1
    after ≤ before ∧ (session.settle = session → after < before ∨ stepped.2.2 = session ∧
      stepped.1.map (·.ending) = consumers.map (·.ending) ∧
      ∀ consumer ∈ consumers, consumer.IsStuck session) := by
  induction consumers generalizing session with
  | nil =>
      refine ⟨Nat.le_refl _, fun _ => .inr ⟨rfl, rfl, fun _ member => ?_⟩⟩
      exact absurd member List.not_mem_nil
  | cons consumer rest ih =>
      have first := (consumer.stepped_step session).work (own consumer List.mem_cons_self)
      rcases stepped : consumer.step session with ⟨advanced, lines, middle⟩
      have others := ih (fun other member => own other (List.mem_cons_of_mem _ member)) middle
      rcases followed : stepAll rest middle with ⟨finished, more, next⟩
      have whole : stepAll (consumer :: rest) session =
          (advanced :: finished, lines ++ more, next) := by
        simp only [stepAll, stepped, followed]
      rw [stepped] at first
      rw [followed] at others
      simp only [whole, going_cons _ rest, going_cons _ finished]
      dsimp only at first others
      obtain ⟨most, firstly⟩ := first
      obtain ⟨least, later⟩ := others
      refine ⟨by omega, fun settled => ?_⟩
      rcases firstly settled with less | ⟨rfl, ending, stuck⟩
      · exact .inl (by omega)
      · rcases later settled with less | ⟨unchanged, endings, all⟩
        · exact .inl (by omega)
        · exact .inr ⟨unchanged, congrArg₂ List.cons ending endings,
            List.forall_mem_cons.mpr ⟨stuck, all⟩⟩

variable (rejected : Tally String)

end Consumer

namespace Replay

variable {replay next : Replay}

/-- What consumers keep of a replay while they go on. -/
structure Tends (replay next : Replay) : Prop where
  plan : next.plan = replay.plan
  fed : next.fed = replay.fed
  session : replay.session.Tended next.session

theorem Tends.trans {last : Replay} (first : replay.Tends next) (second : next.Tends last) :
    replay.Tends last :=
  ⟨second.plan.trans first.plan, second.fed.trans first.fed, first.session.trans second.session⟩

theorem tends_collect (replay : Replay) : replay.Tends replay.collect :=
  ⟨rfl, rfl, .heard [] .refl⟩

theorem tends_round (replay : Replay) : replay.Tends replay.round :=
  ⟨rfl, rfl, .heard [] (Consumer.tended_stepAll ..)⟩

theorem tends_pump (replay : Replay) : replay.Tends replay.pump := by
  fun_induction pump replay with
  | case1 replay fewer ih => exact replay.tends_round.trans ih
  | case2 replay still => exact replay.tends_round

theorem tends_catchUp (replay : Replay) : replay.Tends replay.catchUp :=
  replay.tends_collect.trans (tends_pump _)

/-- The queues of no consumer are in each other's way. -/
def HasOwnQueues (replay : Replay) : Prop :=
  ∀ consumer ∈ replay.consumers, consumer.poller.HasOwnQueues

theorem HasOwnQueues.round (own : replay.HasOwnQueues) : replay.round.HasOwnQueues :=
  Consumer.hasOwnQueues_stepAll own replay.session

theorem HasOwnQueues.pump (own : replay.HasOwnQueues) : replay.pump.HasOwnQueues := by
  fun_induction Replay.pump replay with
  | case1 replay fewer ih => exact ih own.round
  | case2 replay still => exact own.round

theorem HasOwnQueues.catchUp (own : replay.HasOwnQueues) : replay.catchUp.HasOwnQueues :=
  @HasOwnQueues.pump replay.collect own

section Rejected

variable (rejected : Tally String)

def withRejected (replay : Replay) : Replay :=
  { replay with session := replay.session.withRejected rejected }

end Rejected

/-- All that was to be written was written: no listener was told of anything else, the engine has
nothing left to emit, and every consumer has come to its end. -/
structure IsWritten (replay : Replay) : Prop where
  silent : replay.session.outlets.events = []
  idle : replay.session.engine.worker = none
  ended : ∀ consumer ∈ replay.consumers, consumer.ending.isSome = true

/-- A round that gets nowhere changes nothing but that listeners took what they were told. Then
all consumers are stuck, and if nobody fills their queues any more, they have ended. -/
theorem round_stuck (own : replay.HasOwnQueues) (settled : replay.session.settle = replay.session)
    (stuck : ¬ replay.round.work < replay.work) :
    replay.round.session =
        { replay.session with outlets := { replay.session.outlets with events := [] } } ∧
      (∀ consumer ∈ replay.consumers, consumer.IsStuck replay.session) ∧
      (replay.session.isOpen = nobody →
        ∀ consumer ∈ replay.round.consumers, consumer.ending.isSome = true) := by
  let stepped := Consumer.stepAll replay.consumers replay.session
  have before : replay.work = replay.session.outstanding + Consumer.going replay.consumers := rfl
  have after : replay.round.work = stepped.2.2.outstanding + Consumer.going stepped.1 := rfl
  rw [before, after] at stuck
  rcases (Consumer.stepAll_work own replay.session).2 settled with less | ⟨same, endings, all⟩
  · contradiction
  · refine ⟨congrArg (fun session : Session SessionEngine =>
      { session with outlets := { session.outlets with events := [] } }) same, all, ?_⟩
    intro abandoned consumer member
    have ending : consumer.ending ∈ replay.consumers.map (·.ending) :=
      endings ▸ List.mem_map_of_mem member
    obtain ⟨earlier, known, same⟩ := List.mem_map.mp ending
    rw [← same]
    exact (all earlier known).ended abandoned

/-- A replay whose session does not run any more is written, or held up. -/
theorem pump_ends (own : replay.HasOwnQueues) (stopped : replay.session.state = .stopped)
    (coupled : replay.session.Coupled) (settled : replay.session.Settled) :
    replay.pump.IsWritten ∨ replay.pump.session.IsHeldUp := by
  fun_induction Replay.pump replay with
  | case1 replay fewer ih =>
      have tended := replay.tends_round.session
      refine ih own.round ?_ (tended.coupled coupled) (tended.settled settled)
      rw [Session.state, tended.lifecycle]
      exact stopped
  | case2 replay stuck =>
      rcases settled.rests coupled stopped with released | held
      · obtain ⟨same, _, done⟩ := round_stuck own (Session.settle_eq_of_idle released.worker) stuck
        refine .inl ⟨rfl, ?_, done released.isOpen⟩
        rw [same]
        exact released.worker
      · obtain ⟨same, _⟩ := round_stuck own held.settle_eq stuck
        rw [same]
        exact .inr held

/-- A replay whose session was stopped, with everything caught up with. -/
def ended (replay : Replay) : Replay :=
  catchUp { replay with session := replay.session.stop }

theorem tends_ended (replay : Replay) :
    replay.session.stop.Tended replay.ended.session :=
  (tends_catchUp { replay with session := replay.session.stop }).session

/-- Once its session was stopped, a replay has written everything, or the engine waits for ever
for room in a full queue. -/
theorem ended_isWritten_or (own : replay.HasOwnQueues) (running : replay.session.state = .running)
    (coupled : replay.session.Coupled) (settled : replay.session.Settled) :
    replay.ended.IsWritten ∨ replay.ended.session.IsHeldUp := by
  have performed := replay.session.stop_step
  let stopped : Replay := { replay with session := replay.session.stop }
  have tended : replay.session.stop.Tended stopped.collect.session := .heard [] .refl
  refine @pump_ends stopped.collect own ?_ (tended.coupled (coupled.step performed))
    (tended.settled (settled.step coupled performed))
  exact Session.state_of_stop (.inr running)

theorem IsWritten.withRejected (written : replay.IsWritten) (rejected : Tally String) :
    (replay.withRejected rejected).IsWritten :=
  ⟨written.silent, written.idle, written.ended⟩

end Replay

end FrameFlow

import FrameFlow.Proofs.Replay.Consuming
import FrameFlow.Proofs.Session.Providing

/-!
The consumers of a replay, each at queues of its own. A consumer writes the lines of what it
observes; it comes to its end when there is nothing more to observe, or fails where its stream
carries something else than the task asks for. What others do at their queues is nothing to it.
-/

namespace FrameFlow

namespace Session

variable {session middle next : Session SessionEngine} {queues : List Poller}

/-- Some queues were looked into or given up, and the engine went on each time. -/
inductive LookedInto (queues : List Poller) (session : Session SessionEngine) :
    Session SessionEngine → Prop
  | refl : LookedInto queues session session
  | next {middle : Session SessionEngine} {channels : List Channel} :
      LookedInto queues session middle →
      middle.outlets.Eases { middle.outlets with channels } →
      (∀ channel, (∀ queue ∈ queues, queue.channel ≠ channel) →
        channels[channel]? = middle.outlets.channels[channel]?) →
      LookedInto queues session
        (settle { middle with outlets := { middle.outlets with channels } })

theorem LookedInto.trans (first : session.LookedInto queues middle)
    (second : middle.LookedInto queues next) : session.LookedInto queues next := by
  induction second with
  | refl => exact first
  | next _ eases elsewhere ih => exact .next ih eases elsewhere

theorem LookedInto.mono {others : List Poller} (looked : session.LookedInto queues next)
    (among : ∀ queue ∈ queues, queue ∈ others) : session.LookedInto others next := by
  induction looked with
  | refl => exact .refl
  | next _ eases elsewhere ih =>
      exact .next ih eases fun channel apart =>
        elsewhere channel fun queue member => apart queue (among queue member)

theorem lookedInto_poll (session : Session SessionEngine) (poller : OutputPoller) :
    session.LookedInto poller.queues (session.poll poller).2.2 := by
  have elsewhere (channel : ChannelId) (apart : ∀ queue ∈ poller.queues, queue.channel ≠ channel) :
      (poller.poll session.isOpen session.outlets).2.2.channels[channel]? =
        session.outlets.channels[channel]? := OutputPoller.poll_elsewhere apart
  have eases := OutputPoller.eases_poll session.isOpen session.outlets poller
  obtain ⟨task, plain | gated⟩ := poller <;> exact .next .refl eases elsewhere

theorem lookedInto_release (session : Session SessionEngine) (poller : OutputPoller) :
    session.LookedInto poller.queues (session.release poller) := by
  have elsewhere (channel : ChannelId) (apart : ∀ queue ∈ poller.queues, queue.channel ≠ channel) :
      (poller.detach session.outlets).channels[channel]? = session.outlets.channels[channel]? :=
    OutputPoller.detach_elsewhere apart
  have eases := poller.eases_detach session.outlets
  obtain ⟨task, plain | gated⟩ := poller <;> exact .next .refl eases elsewhere

theorem hasCapacity_settle {room : Option Nat} (sized : session.outlets.HasCapacity room) :
    session.settle.outlets.HasCapacity room :=
  sized.of_fittings (FrontEngine.fittings_advance session.engine session.outlets)

theorem LookedInto.hasCapacity {room : Option Nat} (looked : session.LookedInto queues next)
    (sized : session.outlets.HasCapacity room) : next.outlets.HasCapacity room := by
  induction looked with
  | refl => exact sized
  | next _ eases _ ih => exact hasCapacity_settle (ih.eased eases)

/-- An engine that is done stays so. -/
theorem LookedInto.idle (looked : session.LookedInto queues next)
    (idle : session.engine.worker = none) : next.engine.worker = none := by
  induction looked with
  | refl => exact idle
  | @next middle channels _ _ _ ih =>
      have still : settle { middle with outlets := { middle.outlets with channels } } = _ :=
        settle_eq_of_idle ih
      rw [still]
      exact ih

/-- What lasts while the engine works, and depends on no queues but others, is not disturbed. -/
theorem LookedInto.keeps {holds : List StampedFrame → SessionEngine → Outlets → Prop}
    (lasting : Service.Lasting holds) {frames : List StampedFrame} {room : Option Nat}
    (looked : session.LookedInto queues next) (sized : session.outlets.HasCapacity room)
    (unmoved : ∀ {engine : SessionEngine} {outlets : Outlets} {channels : List Channel},
      holds frames engine outlets → Outlets.HasCapacity room { outlets with channels } →
      (∀ channel, (∀ queue ∈ queues, queue.channel ≠ channel) →
        channels[channel]? = outlets.channels[channel]?) →
      holds frames engine { outlets with channels })
    (held : holds frames session.engine session.outlets) :
    holds frames next.engine next.outlets := by
  induction looked with
  | refl => exact held
  | next before eases elsewhere ih =>
      exact lasting.advance (unmoved ih ((before.hasCapacity sized).eased eases) elsewhere)

/-- A poll of a session hears nothing, or what comes next, and then the engine goes on. -/
theorem provided_poll {graph : Graph} {room : Option Nat} {frames : List StampedFrame}
    {poller : OutputPoller} {heard : List (Except SessionError (PollResult Observation))}
    (wellFormed : graph.WellFormed) (paired : poller.IsPaired graph)
    (provided : poller.IsProvided graph room frames session.engine session.outlets heard) :
    let polled := session.poll poller
    polled.2.1.IsProvided graph room frames polled.2.2.engine polled.2.2.outlets
      (heard ++ [polled.1].filter (!saysNothing ·)) := by
  obtain ⟨pending, same⟩ := poller.exists_withPending session.isOpen session.outlets
  have same : (session.poll poller).2.1 = poller.withPending pending := same
  have opened (works : session.engine.worker.isSome = true) (queue : Poller)
      (member : queue ∈ poller.queues) : session.isOpen queue.channel = true :=
    (provided.supplied member).isOpen works
  refine (OutputPoller.lasting_isProvided wellFormed ?_ room _).advance (provided.poll opened)
  rw [same]
  exact (poller.isPaired_withPending pending).mpr paired

end Session

/-- The lines about one stream. -/
def Line.on (stream : String) (lines : List Line) : List Line := lines.filter (·.stream = stream)

namespace Line

variable {stream : String} {lines : List Line}

theorem on_append (stream : String) (before later : List Line) :
    on stream (before ++ later) = on stream before ++ on stream later :=
  List.filter_append ..

theorem on_of_all (own : ∀ line ∈ lines, line.stream = stream) : on stream lines = lines :=
  List.filter_eq_self.mpr fun line member => decide_eq_true (own line member)

theorem on_of_none (foreign : ∀ line ∈ lines, line.stream ≠ stream) : on stream lines = [] :=
  List.filter_eq_nil_iff.mpr fun line member same => foreign line member (of_decide_eq_true same)

end Line

/-- The lines of what was observed. -/
def OutputPoller.lines (poller : OutputPoller)
    (answers : List (Except SessionError (PollResult Observation))) : List Line :=
  (observed answers).map (Line.ofObservation poller.stream)

theorem OutputPoller.lines_append (poller : OutputPoller)
    (before later : List (Except SessionError (PollResult Observation))) :
    poller.lines (before ++ later) = poller.lines before ++ poller.lines later := by
  rw [lines, observed_append, List.map_append]
  rfl

@[simp] theorem OutputPoller.lines_withPending (poller : OutputPoller)
    (pending : Option Timestamp) : (poller.withPending pending).lines = poller.lines := by
  funext answers
  simp only [lines, stream_withPending]

namespace Consumer

variable {consumer other : Consumer} {graph : Graph} {room : Option Nat}
  {frames : List StampedFrame} {engine : SessionEngine} {outlets after : Outlets}
  {told : List Line} {session : Session SessionEngine}

/-- A consumer that has told some lines goes on with the next ones, has told them all, or cannot
go on because of what its stream carries. -/
inductive Attends (graph : Graph) (room : Option Nat) (told : List Line) (consumer : Consumer)
    (frames : List StampedFrame) (engine : SessionEngine) (outlets : Outlets) : Prop
  | goes {heard} (goes : consumer.ending = none)
      (provided : consumer.poller.IsProvided graph room frames engine outlets heard)
      (tells : told = consumer.poller.lines heard)
  | ended (ends : consumer.ending = some (.ok ())) (idle : engine.worker = none)
      (tells : told = consumer.poller.lines (consumer.poller.answers graph 0 frames))
  | failed {error : SessionError} (ends : consumer.ending = some (.error error))
      (released : ∀ queue ∈ consumer.poller.queues, ¬ outlets.Stands queue.channel)
      (undeclared : graph.outputStreams.find? consumer.poller.stream ≠
        some consumer.poller.task.payload)

theorem lasting_attends (wellFormed : graph.WellFormed)
    (paired : consumer.poller.IsPaired graph) (room : Option Nat) (told : List Line) :
    Service.Lasting (consumer.Attends graph room told) where
  counted := by
    intro frames engine outlets attends metrics
    cases attends with
    | goes goes provided tells =>
        exact .goes goes
          ((OutputPoller.lasting_isProvided wellFormed paired room _).counted provided metrics)
          tells
    | ended ends idle tells => exact .ended ends idle tells
    | failed ends released undeclared => exact .failed ends released undeclared
  withRun := by
    intro frames engine outlets attends run
    cases attends with
    | goes goes provided tells =>
        exact .goes goes
          ((OutputPoller.lasting_isProvided wellFormed paired room _).withRun provided run) tells
    | ended ends idle tells => exact .ended ends idle tells
    | failed ends released undeclared => exact .failed ends released undeclared
  accept := by
    intro frames engine outlets attends works run input
    cases attends with
    | goes goes provided tells =>
        exact .goes goes
          ((OutputPoller.lasting_isProvided wellFormed paired room _).accept provided works run
            input) tells
    | ended ends idle tells =>
        rw [idle] at works
        contradiction
    | failed ends released undeclared => exact .failed ends released undeclared
  advance := by
    intro frames engine outlets attends worked
    cases attends with
    | goes goes provided tells =>
        exact .goes goes
          ((OutputPoller.lasting_isProvided wellFormed paired room _).advance provided) tells
    | ended ends idle tells =>
        refine .ended ends ?_ tells
        simp only [worked, ScriptedEngine.advance, idle]
    | failed ends released undeclared =>
        refine .failed ends (fun queue member stands => released queue member ?_) undeclared
        exact stands.of_fittings (FrontEngine.fittings_advance engine outlets)

theorem Attends.congr (attends : consumer.Attends graph room told frames engine outlets)
    (same : ∀ queue ∈ consumer.poller.queues,
      after.channels[queue.channel]? = outlets.channels[queue.channel]?)
    (sized : after.HasCapacity room) :
    consumer.Attends graph room told frames engine after := by
  cases attends with
  | goes goes provided tells => exact .goes goes (provided.congr same sized) tells
  | ended ends idle tells => exact .ended ends idle tells
  | failed ends released undeclared =>
      exact .failed ends (fun queue member stands =>
        released queue member (stands.congr (same queue member).symm)) undeclared

/-- What others do at their queues makes no difference. -/
theorem Attends.undisturbed {next : Session SessionEngine} {queues : List Poller}
    (attends : consumer.Attends graph room told frames session.engine session.outlets)
    (wellFormed : graph.WellFormed) (paired : consumer.poller.IsPaired graph)
    (sized : session.outlets.HasCapacity room) (looked : session.LookedInto queues next)
    (apart : ∀ mine ∈ consumer.poller.queues, ∀ queue ∈ queues,
      queue.channel ≠ mine.channel) :
    consumer.Attends graph room told frames next.engine next.outlets :=
  looked.keeps (lasting_attends wellFormed paired room told) sized
    (fun attends fits elsewhere => attends.congr (fun mine member =>
      elsewhere mine.channel (apart mine member)) fits) attends

variable {stepped : Consumer × List Line × Session SessionEngine}

theorem Stepped.exists_withPending (steps : consumer.Stepped session stepped) :
    ∃ pending, stepped.1.poller = consumer.poller.withPending pending := by
  obtain ⟨pending, polls⟩ :=
    consumer.poller.exists_withPending session.isOpen session.outlets
  have polls : (session.poll consumer.poller).2.1 = _ := polls
  cases steps with
  | still => exact consumer.poller.exists_withPending_self
  | writes _ looks | waits _ looks | ends _ looks =>
      rw [looks] at polls
      exact ⟨pending, polls⟩

theorem Stepped.lookedInto (steps : consumer.Stepped session stepped) :
    session.LookedInto consumer.poller.queues stepped.2.2 := by
  have looked := session.lookedInto_poll consumer.poller
  obtain ⟨pending, same⟩ := steps.exists_withPending
  cases steps with
  | still => exact .refl
  | writes _ looks | waits _ looks =>
      rw [looks] at looked
      exact looked
  | @ends ending poller polled _ looks =>
      rw [looks] at looked
      have same : poller = consumer.poller.withPending pending := same
      have released := polled.lookedInto_release poller
      rw [same, OutputPoller.queues_withPending, ← same] at released
      exact looked.trans released

theorem Stepped.stream_of_mem (steps : consumer.Stepped session stepped) {line : Line}
    (member : line ∈ stepped.2.1) : line.stream = consumer.poller.stream := by
  obtain ⟨pending, same⟩ := steps.exists_withPending
  cases steps with
  | still | waits | ends => contradiction
  | @writes observation poller polled =>
      have same : poller = consumer.poller.withPending pending := same
      rw [List.mem_singleton.mp member, Line.ofObservation, same,
        OutputPoller.stream_withPending]

theorem Attends.provided (attends : consumer.Attends graph room told frames engine outlets)
    (goes : consumer.ending = none) :
    ∃ heard, consumer.poller.IsProvided graph room frames engine outlets heard ∧
      told = consumer.poller.lines heard := by
  cases attends with
  | goes _ provided tells => exact ⟨_, provided, tells⟩
  | ended ends | failed ends =>
      rw [goes] at ends
      contradiction

/-- What a consumer writes in one step is what it has to write next. -/
theorem Stepped.attends (steps : consumer.Stepped session stepped) (wellFormed : graph.WellFormed)
    (paired : consumer.poller.IsPaired graph)
    (attends : consumer.Attends graph room told frames session.engine session.outlets) :
    stepped.1.Attends graph room (told ++ stepped.2.1) frames stepped.2.2.engine
      stepped.2.2.outlets := by
  obtain ⟨pending, kept⟩ := steps.exists_withPending
  have looked := steps.lookedInto
  cases steps with
  | still =>
      rw [List.append_nil]
      exact attends
  | @writes observation poller polled goes looks =>
      obtain ⟨heard, provided, tells⟩ := attends.provided goes
      have same : poller = consumer.poller.withPending pending := kept
      have further := Session.provided_poll wellFormed paired provided
      rw [looks] at further
      refine .goes goes further ?_
      rw [tells, same, OutputPoller.lines_withPending, OutputPoller.stream_withPending,
        OutputPoller.lines_append]
      rfl
  | @waits poller polled goes looks =>
      obtain ⟨heard, provided, tells⟩ := attends.provided goes
      have same : poller = consumer.poller.withPending pending := kept
      have further := Session.provided_poll wellFormed paired provided
      rw [looks] at further
      refine .goes goes further ?_
      rw [tells, same, OutputPoller.lines_withPending, OutputPoller.lines_append]
      rfl
  | @ends ending poller polled goes looks =>
      obtain ⟨heard, provided, tells⟩ := attends.provided goes
      have same : poller = consumer.poller.withPending pending := kept
      have further := Session.provided_poll wellFormed paired provided
      rw [looks] at further
      have paired : poller.IsPaired graph := by
        rw [same]
        exact (consumer.poller.isPaired_withPending pending).mpr paired
      cases ending with
      | error error =>
          refine .failed rfl (fun queue member stands => ?_)
            (further.undeclared wellFormed paired (List.mem_append_right _ List.mem_cons_self))
          have detached : (poller.detach polled.outlets).Stands queue.channel :=
            stands.of_fittings
              (FrontEngine.fittings_advance polled.engine (poller.detach polled.outlets))
          exact OutputPoller.not_stands_detach member detached
      | ok done =>
          have whole := further.observed_of_closed wellFormed paired
            (List.mem_append_right _ List.mem_cons_self)
          have idle : session.engine.worker = none :=
            provided.idle_of_closed (fun works queue member =>
              (provided.supplied member).isOpen works) (congrArg Prod.fst looks)
          refine .ended rfl (looked.idle idle) ?_
          have alike : consumer.poller.lines = poller.lines := by
            rw [same, OutputPoller.lines_withPending]
          calc told ++ []
              = poller.lines heard := by rw [List.append_nil, tells, alike]
            _ = poller.lines (heard ++ [.ok .closed]) := by
                rw [OutputPoller.lines_append]
                exact (List.append_nil _).symm
            _ = poller.lines (poller.answers graph 0 frames) := congrArg (List.map _) whole

/-- Pollers are the same but for what they have ahead. -/
def pollers (consumers : List Consumer) : List OutputPoller :=
  consumers.map fun consumer => consumer.poller.withPending none

theorem mem_pollers {consumers : List Consumer} (member : consumer ∈ consumers) :
    consumer.poller.withPending none ∈ pollers consumers :=
  List.mem_map_of_mem member

theorem pollers_stepAll (consumers : List Consumer) (session : Session SessionEngine) :
    pollers (stepAll consumers session).1 = pollers consumers := by
  induction consumers generalizing session with
  | nil => rfl
  | cons consumer rest ih =>
      obtain ⟨pending, same⟩ := (consumer.stepped_step session).exists_withPending
      refine congrArg₂ List.cons ?_ (ih _)
      change (consumer.step session).1.poller.withPending none = _
      rw [same, OutputPoller.withPending_withPending]

theorem lookedInto_stepAll (consumers : List Consumer) (session : Session SessionEngine) :
    session.LookedInto ((pollers consumers).flatMap (·.queues))
      (stepAll consumers session).2.2 := by
  induction consumers generalizing session with
  | nil => exact .refl
  | cons consumer rest ih =>
      have first := (consumer.stepped_step session).lookedInto
      rw [← OutputPoller.queues_withPending consumer.poller none] at first
      exact (first.mono fun _ => List.mem_append_left _).trans
        ((ih (consumer.step session).2.2).mono fun _ => List.mem_append_right _)

theorem stream_of_mem_stepAll {consumers : List Consumer} {session : Session SessionEngine}
    {line : Line} (member : line ∈ (stepAll consumers session).2.1) :
    ∃ poller ∈ pollers consumers, line.stream = poller.stream := by
  induction consumers generalizing session with
  | nil => contradiction
  | cons consumer rest ih =>
      rcases List.mem_append.mp member with first | later
      · refine ⟨consumer.poller.withPending none, List.mem_cons_self, ?_⟩
        rw [(consumer.stepped_step session).stream_of_mem first, OutputPoller.stream_withPending]
      · obtain ⟨poller, known, same⟩ := ih later
        exact ⟨poller, List.mem_cons_of_mem _ known, same⟩

/-- So do all consumers in one round, none in the way of another one. -/
theorem stepAll_attends {consumers : List Consumer} (wellFormed : graph.WellFormed)
    (paired : ∀ poller ∈ pollers consumers, poller.IsPaired graph)
    (apart : (pollers consumers).Pairwise OutputPoller.Apart) (told : String → List Line)
    (sized : session.outlets.HasCapacity room)
    (attends : ∀ consumer ∈ consumers, consumer.Attends graph room (told consumer.poller.stream)
      frames session.engine session.outlets) :
    let stepped := stepAll consumers session
    ∀ consumer ∈ stepped.1, consumer.Attends graph room
      (told consumer.poller.stream ++ Line.on consumer.poller.stream stepped.2.1)
      frames stepped.2.2.engine stepped.2.2.outlets := by
  induction consumers generalizing session with
  | nil => exact fun _ member => absurd member List.not_mem_nil
  | cons consumer rest ih =>
      obtain ⟨pairs, others⟩ := List.forall_mem_cons.mp paired
      obtain ⟨unlike, separate⟩ := List.pairwise_cons.mp apart
      obtain ⟨first, rest_attends⟩ := List.forall_mem_cons.mp attends
      have steps := consumer.stepped_step session
      rcases walked : consumer.step session with ⟨advanced, lines, middle⟩
      rw [walked] at steps
      obtain ⟨pending, same⟩ := steps.exists_withPending
      have same : advanced.poller = consumer.poller.withPending pending := same
      have goesOn := steps.attends wellFormed
        ((consumer.poller.isPaired_withPending none).mp pairs) first
      have fitting := steps.lookedInto.hasCapacity sized
      have undisturbed (other : Consumer) (member : other ∈ rest) :
          other.Attends graph room (told other.poller.stream) frames middle.engine
            middle.outlets := by
        have poller := mem_pollers member
        refine (rest_attends other member).undisturbed wellFormed
          ((other.poller.isPaired_withPending none).mp (others _ poller)) sized
          steps.lookedInto fun mine known queue looked => ?_
        exact ((OutputPoller.apart_withPending ..).mp (unlike _ poller)).queues queue looked
          mine known
      have later := ih others separate fitting undisturbed
      rcases followed : stepAll rest middle with ⟨finished, more, next⟩
      have whole : stepAll (consumer :: rest) session =
          (advanced :: finished, lines ++ more, next) := by
        simp only [stepAll, walked, followed]
      have around := lookedInto_stepAll rest middle
      have still := pollers_stepAll rest middle
      have foreign := @stream_of_mem_stepAll rest middle
      rw [followed] at later around still foreign
      rw [whole]
      refine List.forall_mem_cons.mpr ⟨?_, fun other known => ?_⟩
      · have stream : advanced.poller.stream = consumer.poller.stream := by
          rw [same, OutputPoller.stream_withPending]
        have silent : Line.on consumer.poller.stream more = [] := by
          refine Line.on_of_none fun line member equal => ?_
          obtain ⟨poller, known, told⟩ := foreign member
          refine (unlike poller known).stream ?_
          rw [OutputPoller.stream_withPending, ← equal, told]
        have own : Line.on consumer.poller.stream lines = lines :=
          Line.on_of_all fun line member => steps.stream_of_mem member
        rw [stream, Line.on_append, silent, own, List.append_nil]
        refine goesOn.undisturbed wellFormed ?_ fitting around fun mine known queue looked => ?_
        · rw [same]
          exact (consumer.poller.isPaired_withPending pending).mpr
            ((consumer.poller.isPaired_withPending none).mp pairs)
        · rw [same, OutputPoller.queues_withPending] at known
          obtain ⟨poller, among, queued⟩ := List.mem_flatMap.mp looked
          refine (unlike poller among).symm.queues queue queued mine ?_
          rwa [OutputPoller.queues_withPending]
      · have silent : Line.on other.poller.stream lines = [] := by
          refine Line.on_of_none fun line member equal => ?_
          have poller := mem_pollers known
          rw [still] at poller
          refine (unlike _ poller).stream ?_
          rw [OutputPoller.stream_withPending, OutputPoller.stream_withPending, ← equal]
          exact (steps.stream_of_mem member).symm
        rw [Line.on_append, silent, List.nil_append]
        exact later other known

/-- Where all consumers are stuck, the engine does not wait for room in any of their queues. -/
theorem not_isHeldUp_of_stuck {consumers : List Consumer} (wellFormed : graph.WellFormed)
    (paired : ∀ poller ∈ pollers consumers, poller.IsPaired graph)
    (sized : session.outlets.HasCapacity room) (told : String → List Line)
    (attends : ∀ consumer ∈ consumers, consumer.Attends graph room (told consumer.poller.stream)
      frames session.engine session.outlets)
    (read : ∀ worker, session.engine.worker = some worker → ∀ stream channel,
      worker.observers.find? stream = some (.poller channel) →
      ∃ poller ∈ pollers consumers, ∃ queue ∈ poller.queues, queue.channel = channel)
    (stuck : ∀ consumer ∈ consumers, consumer.IsStuck session) : ¬ session.IsHeldUp := by
  rintro ⟨worker, found, held⟩
  obtain ⟨stream, _, _, channel, queue, _, observed, present, attached, full⟩ := id held
  obtain ⟨poller, known, source, reads, rfl⟩ := read worker found stream channel observed
  obtain ⟨consumer, member, rfl⟩ := List.mem_map.mp known
  rw [OutputPoller.queues_withPending] at reads
  cases attends consumer member with
  | goes goes provided =>
      obtain ⟨nothing, untaken⟩ := stuck consumer member goes
      exact provided.takes_of_isFull wellFormed
        ((consumer.poller.isPaired_withPending none).mp (paired _ known)) sized found held reads
        present full nothing untaken
  | ended _ idle =>
      rw [idle] at found
      contradiction
  | failed _ released => exact released source reads ⟨queue, present, attached⟩

end Consumer

end FrameFlow

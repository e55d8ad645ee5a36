import FrameFlow.Proofs.Session.Aborting
import FrameFlow.Proofs.Session.Launching

/-!
The newest preview while a session runs. The worker stores frames, viewers copy or take what is
there, and each of them acts at any moment between the others. The frames stored so far are a
prefix of those accepted, and the place has the last of them unless it was taken.
-/

namespace FrameFlow

/-- A frame as the preview stream brings it. -/
def StampedFrame.image (input : StampedFrame) : Packet := ⟨input.timestamp, .image input.frame⟩

theorem StampedFrame.image_injective : Function.Injective StampedFrame.image := by
  rintro ⟨timestamp, frame⟩ ⟨other, content⟩ same
  cases same
  rfl

theorem LatestFrame.keep_of_kind {packet : Packet} (other : packet.payload.kind ≠ .image)
    (latest : LatestFrame) : latest.keep packet = latest := by
  unfold keep
  split
  · rename_i content
    rw [content] at other
    contradiction
  · rfl

/-- An emission brings one packet at most. -/
theorem Emission.eq_nil_of_on_eq_cons {emission : Emission} {stream : String} {packet : Packet}
    {others : List Packet} (brought : emission.on stream = packet :: others) : others = [] := by
  cases emission with
  | fault fault => contradiction
  | packet name content =>
      rw [on] at brought
      split at brought <;> cases brought
      rfl

/-- Images are on a stream alone. -/
def Emission.ImagesOn (stream : String) (emissions : List Emission) : Prop :=
  ∀ name packet, .packet name packet ∈ emissions → packet.payload.kind = .image → name = stream

namespace Graph.WellFormed

variable {graph : Graph} {stream : String}

/-- A frame brings itself to the preview stream, and nothing else. -/
theorem on_preview (wellFormed : graph.WellFormed) (shown : graph.previewStream = some stream)
    (index : Nat) (input : StampedFrame) :
    (graph.emissions index input).flatMap (Emission.on stream) = [input.image] := by
  have scripted : ((graph.scripted index).map (·.emission input.timestamp)).flatMap
      (Emission.on stream) = [] := by
    refine Emission.on_eq_nil_of_not_mem fun member => ?_
    obtain ⟨emission, known, about⟩ := List.mem_filterMap.mp member
    obtain ⟨packet, inScript, rfl⟩ := List.mem_map.mp known
    rw [Emission.stream?_emission, Option.some.injEq] at about
    obtain ⟨kind, declared, _⟩ := wellFormed.declares_scripted inScript
    rw [about, (wellFormed.preview_apart stream shown).2] at declared
    contradiction
  rw [emissions, List.flatMap_append, scripted, shown]
  simp [Emission.on, StampedFrame.image]

theorem imagesOn_emissions (wellFormed : graph.WellFormed)
    (shown : graph.previewStream = some stream) (index : Nat) (input : StampedFrame) :
    Emission.ImagesOn stream (graph.emissions index input) := by
  intro name packet member image
  rcases wellFormed.mem_emissions member with ⟨declared, _⟩ | ⟨_, named, _⟩
  · rw [image] at declared
    exact absurd declared (wellFormed.no_image_output name)
  · exact Option.some.inj (named.symm.trans shown)

end Graph.WellFormed

/-- A place that the preview stream is bound to gets its images, whatever else is bound to it. -/
theorem Outlets.place_of_images {outlets after : Outlets} {place : PlaceId} {stream : String}
    {observers : StreamMap Binding} {sink : Option Unit} {emission : Emission}
    (inside : place < outlets.places.length)
    (bound : observers.find? stream = some (.latest place))
    (images : Emission.ImagesOn stream [emission])
    (emitted : SessionEngine.reaction.emit observers sink emission outlets = some after) :
    place < after.places.length ∧
      after.place place = (emission.on stream).foldl LatestFrame.keep (outlets.place place) := by
  cases emission with
  | fault fault =>
      cases emitted
      rw [Outlets.place, places_reportTo]
      exact ⟨inside, rfl⟩
  | packet name packet =>
      cases found : observers.find? name with
      | none =>
          have apart : name ≠ stream := by
            rintro rfl
            exact absurd (found.symm.trans bound) (Option.some_ne_none _).symm
          simp only [Reaction.emit, found, Option.some.injEq] at emitted
          rw [← emitted, Emission.on, if_neg apart]
          exact ⟨inside, rfl⟩
      | some binding =>
          simp only [Reaction.emit, found, Option.map_eq_some_iff] at emitted
          obtain ⟨⟨answer, middle⟩, delivered, rfl⟩ := emitted
          obtain ⟨still, stored⟩ := place_of_deliver inside delivered
          have brought : middle.place place = ((Emission.packet name packet).on stream).foldl
              LatestFrame.keep (outlets.place place) := by
            by_cases same : name = stream
            · subst same
              rw [stored, if_pos (Option.some.inj (found.symm.trans bound)), Emission.on,
                if_pos rfl]
              rfl
            · have other : packet.payload.kind ≠ .image :=
                fun image => same (images name packet List.mem_cons_self image)
              rw [stored, LatestFrame.keep_of_kind other, ite_self, Emission.on, if_neg same]
              rfl
          cases answer with
          | ok done => exact ⟨still, brought⟩
          | error status =>
              have unmoved := places_reportTo sink
                ⟨some name, some packet.timestamp, status⟩ middle
              simp only [Outlets.place, unmoved]
              exact ⟨still, brought⟩

theorem SessionEngine.answer_eq_ok_iff {engine after : SessionEngine}
    {outcome : Except EngineRefusal SessionEngine} :
    answer engine outcome = (.ok (), after) ↔ outcome = .ok after := by
  cases outcome <;> simp [answer]

theorem SessionEngine.owed_of_current {engine : SessionEngine} {worker : Worker Binding Unit}
    {emission : Emission} {rest : List Emission} (found : engine.worker = some worker)
    (current : worker.current = emission :: rest) :
    engine.owed = emission :: Worker.owed { worker with current := rest } := by
  rw [ScriptedEngine.owed, found]
  simp only [Worker.owed, current, List.cons_append]

namespace Session

variable {session begun : Session SessionEngine} {place : PlaceId}

/-- Nothing was stored yet in the places that streams are bound to. -/
def Unviewed (session : Session SessionEngine) : Prop :=
  ∀ place, ¬ session.bindings.Avoids (· = .latest place) →
    session.Shielded (· = .latest place) fun outlets =>
      place < outlets.places.length ∧ outlets.place place = {}

theorem Unviewed.perform (unviewed : session.Unviewed) (coupled : session.Coupled)
    (founded : session.Founded) (action : Action) : (session.perform action).2.Unviewed := by
  intro place bound
  by_cases unbound : session.bindings.Avoids (· = .latest place)
  · have granted : Binding.IsGranted session.task (action, (session.perform action).1)
        (.latest place) := by
      apply Classical.byContradiction
      intro refused
      refine bound (avoids_perform unbound action fun binding granted same => refused ?_)
      exact same ▸ granted
    suffices unstarted : (.start, .done) ∉ session.history [action] from
      shielded_place coupled founded unstarted List.mem_cons_self granted
    intro started
    have same : (Action.start, Answer.done) = (action, (session.perform action).1) :=
      List.mem_singleton.mp started
    rw [← same] at granted
    cases granted
  · refine (unviewed place unbound).perform (brokenOnlyBy_place place) coupled action ?_
    intro starts done
    subst starts
    obtain ⟨value, started, _⟩ := exists_of_answered done rfl
    refine absurd (BindingTable.avoids_of_empty ?_) bound
    obtain ⟨_, engine, _, same⟩ := exists_of_start started
    rw [Session.perform, answered_snd, same]
    rfl

theorem Unviewed.after (unviewed : session.Unviewed) (coupled : session.Coupled)
    (founded : session.Founded) (actions : List Action) : (session.after actions).Unviewed := by
  induction actions generalizing session with
  | nil => exact unviewed
  | cons action rest ih =>
      exact ih (unviewed.perform coupled founded action)
        (coupled.step (session.perform_step action)) (founded.perform coupled action)

theorem unviewed_opened {task : Task} {layout : Layout} {config : SessionConfig}
    {actions : List Action} : ((opened task layout config).after actions).Unviewed :=
  have unbound : (opened task layout config).Unviewed :=
    fun _ bound => absurd (BindingTable.avoids_of_empty rfl) bound
  have coupled : ((opened task layout config).after []).Coupled := coupled_opened
  have founded : ((opened task layout config).after []).Founded := founded_opened
  unbound.after coupled founded actions

end Session

/-- What a viewer asks for: a copy of the newest frame, or the frame itself. -/
inductive Look where
  | snapshot
  | take
deriving DecidableEq

/-- A session with viewers of its preview: the frames accepted so far, and what the viewers
asked and got, whoever it was, in the order of their calls. -/
structure Screening where
  session : Session SessionEngine
  frames : List StampedFrame := []
  answers : List (Look × Option StampedFrame) := []

namespace Screening

/-- The frames that viewers saw, each as often as it was seen. -/
def seen (answers : List (Look × Option StampedFrame)) : List StampedFrame :=
  answers.filterMap (·.2)

def taken (answers : List (Look × Option StampedFrame)) : List StampedFrame :=
  answers.filterMap fun
    | (.take, held) => held
    | (.snapshot, _) => none

section Answers

variable {frame : StampedFrame} (answers : List (Look × Option StampedFrame))
  (held : Option StampedFrame)

theorem seen_concat (look : Look) :
    seen (answers ++ [(look, held)]) = seen answers ++ held.toList := by
  cases held <;> simp [seen]

theorem taken_concat_take :
    taken (answers ++ [(.take, held)]) = taken answers ++ held.toList := by
  cases held <;> simp [taken]

theorem taken_concat_snapshot : taken (answers ++ [(.snapshot, held)]) = taken answers := by
  simp [taken]

variable {answers} in
theorem mem_seen_of_taken (taken : frame ∈ taken answers) : frame ∈ seen answers := by
  obtain ⟨⟨look, held⟩, member, brought⟩ := List.mem_filterMap.mp taken
  cases look with
  | take => exact List.mem_filterMap.mpr ⟨_, member, brought⟩
  | snapshot => contradiction

end Answers

/-- What anybody does next. The owner of the session feeds a frame, or stops: he closes the
input, waits, and goes on when the worker has ended. The worker makes a step, at any moment; a
viewer looks; and what is done elsewhere leaves the place alone. -/
inductive Step (place : PlaceId) (screening : Screening) : Screening → Prop
  | feeds {input engine} :
      screening.session.lifecycle.checkStamp input.timestamp = .ok () →
      screening.session.engine.addPacket screening.session.config.inputStream input =
        .ok engine →
      Step place screening { screening with
        session := { screening.session with
          engine
          lifecycle := screening.session.lifecycle.accepted input.timestamp
          outlets := screening.session.outlets.countFed }
        frames := screening.frames ++ [input] }
  | closes {engine} :
      screening.session.state = .running →
      screening.session.engine.closeInput screening.session.config.inputStream = .ok engine →
      Step place screening { screening with session.engine := engine }
  | works {after} :
      ScriptedEngine.WorkerStep SessionEngine.reaction
        (screening.session.engine, screening.session.outlets) after →
      Step place screening { screening with
        session.engine := after.1, session.outlets := after.2 }
  | waits {engine} :
      screening.session.state = .running →
      screening.session.engine.waitUntilDone = .ok engine →
      Step place screening { screening with session.engine := engine }
  | stops :
      screening.session.state = .running → screening.session.engine.isRunning = false →
      screening.session.engine.worker = none →
      Step place screening { screening with
        session.lifecycle := screening.session.lifecycle.stopped }
  | snapshots :
      Step place screening { screening with
        answers := screening.answers ++
          [(.snapshot, (screening.session.outlets.place place).snapshot)] }
  | takes {held left} :
      (screening.session.outlets.place place).take = (held, left) →
      Step place screening { screening with
        session.outlets := screening.session.outlets.setPlace place left
        answers := screening.answers ++ [(.take, held)] }
  | elsewhere {outlets} :
      screening.session.outlets.places.length ≤ outlets.places.length →
      outlets.place place = screening.session.outlets.place place →
      Step place screening { screening with session.outlets := outlets }

def Reaches (place : PlaceId) : Screening → Screening → Prop := Relation.ReflTransGen (Step place)

/-- The frames of a list, in the order of their timestamps. -/
def Ordered (frames : List StampedFrame) : Prop :=
  frames.Pairwise fun earlier later => earlier.timestamp < later.timestamp

/-- Some of the accepted frames were stored, and the worker owes the rest. -/
structure Sound (graph : Graph) (stream : String) (place : PlaceId)
    (stored : List StampedFrame) (screening : Screening) : Prop where
  inside : place < screening.session.outlets.places.length
  ordered : Ordered screening.frames
  bounds : Session.Bounds screening.session.lifecycle.lastTimestamp
    (screening.frames.map (·.timestamp))
  frames : screening.frames.map StampedFrame.image = stored.map StampedFrame.image ++
    screening.session.engine.owed.flatMap (Emission.on stream)
  images : Emission.ImagesOn stream screening.session.engine.owed
  worker : ∀ worker, screening.session.engine.worker = some worker →
    worker.graph = graph ∧ worker.observers.find? stream = some (.latest place)
  opened : screening.session.engine.isInputOpen = true →
    screening.session.engine.worker.isSome = true
  stopped : screening.session.state ≠ .running → screening.session.engine.worker = none
  held : ∀ frame, (screening.session.outlets.place place).held = some frame ↔
    stored.getLast? = some frame ∧ frame ∉ taken screening.answers
  known : ∀ frame ∈ seen screening.answers, frame ∈ stored
  fresh : Ordered (taken screening.answers)
  steady : (seen screening.answers).Pairwise fun earlier later => earlier.timestamp ≤ later.timestamp

variable {graph : Graph} {stream : String} {place : PlaceId} {stored : List StampedFrame}
  {screening after : Screening} {input frame : StampedFrame}

theorem Ordered.concat {frames : List StampedFrame} (ordered : Ordered frames)
    (later : ∀ frame ∈ frames, frame.timestamp < input.timestamp) :
    Ordered (frames ++ [input]) := by
  refine List.pairwise_append.mpr ⟨ordered, List.pairwise_singleton .., ?_⟩
  intro frame member last same
  rw [List.mem_singleton.mp same]
  exact later frame member

theorem Ordered.le_last {frames : List StampedFrame} (ordered : Ordered frames)
    (last : frames.getLast? = some input) (member : frame ∈ frames) :
    frame = input ∨ frame.timestamp < input.timestamp := by
  obtain ⟨earlier, rfl⟩ := List.getLast?_eq_some_iff.mp last
  rcases List.mem_append.mp member with before | here
  · exact .inr ((List.pairwise_append.mp ordered).2.2 frame before input (by simp))
  · exact .inl (List.mem_singleton.mp here)

namespace Sound

theorem exists_later (sound : screening.Sound graph stream place stored) :
    ∃ later, screening.frames = stored ++ later ∧ later.map StampedFrame.image =
      screening.session.engine.owed.flatMap (Emission.on stream) := by
  obtain ⟨before, later, split, same, rest⟩ := List.map_eq_append_iff.mp sound.frames
  exact ⟨later, split.trans (by rw [StampedFrame.image_injective.list_map same]), rest⟩

theorem ordered_stored (sound : screening.Sound graph stream place stored) : Ordered stored := by
  obtain ⟨later, split, _⟩ := sound.exists_later
  have ordered := sound.ordered
  rw [split] at ordered
  exact (List.pairwise_append.mp ordered).1

/-- What is in the place was stored last, and whatever was seen before is not newer. -/
theorem last_of_held (sound : screening.Sound graph stream place stored)
    (held : (screening.session.outlets.place place).held = some frame) :
    frame ∈ stored ∧ frame ∉ taken screening.answers ∧
      ∀ earlier ∈ seen screening.answers, earlier = frame ∨ earlier.timestamp < frame.timestamp := by
  obtain ⟨last, untaken⟩ := (sound.held frame).mp held
  exact ⟨List.mem_of_getLast? last, untaken, fun earlier member =>
    sound.ordered_stored.le_last last (sound.known earlier member)⟩

theorem feeds {engine : SessionEngine} (sound : screening.Sound graph stream place stored)
    (wellFormed : graph.WellFormed) (shown : graph.previewStream = some stream)
    (checked : screening.session.lifecycle.checkStamp input.timestamp = .ok ())
    (added : screening.session.engine.addPacket screening.session.config.inputStream input =
      .ok engine) :
    Sound graph stream place stored { screening with
      session := { screening.session with
        engine
        lifecycle := screening.session.lifecycle.accepted input.timestamp
        outlets := screening.session.outlets.countFed }
      frames := screening.frames ++ [input] } := by
  obtain ⟨running, next⟩ := Lifecycle.checkStamp_eq_ok_iff.mp checked
  obtain ⟨run, found, opened, _, rfl⟩ := ScriptedEngine.addPacket_eq_ok_iff.mp added
  obtain ⟨_, _, _, begun⟩ := ScriptedEngine.runOn_eq_ok_iff.mp found
  have works := sound.opened (by simp only [ScriptedEngine.isInputOpen, begun, opened])
  obtain ⟨worker, left⟩ := Option.isSome_iff_exists.mp works
  obtain ⟨script, bound⟩ := sound.worker worker left
  have given :
      (screening.session.engine.accept run input).worker = some (worker.enqueue input) := by
    rw [ScriptedEngine.accept, left]
    rfl
  have owed : (screening.session.engine.accept run input).owed =
      screening.session.engine.owed ++
        graph.emissions (worker.index + worker.waiting.length) input := by
    simp only [ScriptedEngine.owed, given, left, Worker.owed_enqueue, script]
  exact {
    inside := sound.inside
    ordered := sound.ordered.concat fun frame member =>
      (sound.bounds.precedes_iff input.timestamp).mp next _ (List.mem_map_of_mem member)
    bounds := by
      rw [List.map_append]
      exact sound.bounds.accept next
    frames := by
      rw [owed, List.flatMap_append, wellFormed.on_preview shown, List.map_append, sound.frames,
        List.append_assoc]
      rfl
    images := by
      rw [owed]
      intro name packet member
      rcases List.mem_append.mp member with old | new
      · exact sound.images name packet old
      · exact wellFormed.imagesOn_emissions shown _ input name packet new
    worker := by
      intro other known
      cases given.symm.trans known
      exact ⟨script, bound⟩
    opened := fun _ => by rw [given]; rfl
    stopped := fun rests => absurd running rests
    held := sound.held
    known := sound.known
    fresh := sound.fresh
    steady := sound.steady }

section Emissions

variable {worker : Worker Binding Unit} {emission : Emission} {rest : List Emission}
  {outlets : Outlets}

/-- When an emission is made, only the place and what is stored may have changed. -/
theorem passes {now : List StampedFrame} (sound : screening.Sound graph stream place stored)
    (found : screening.session.engine.worker = some worker)
    (current : worker.current = emission :: rest) (inside : place < outlets.places.length)
    (frames : screening.frames.map StampedFrame.image = now.map StampedFrame.image ++
      (Worker.owed { worker with current := rest }).flatMap (Emission.on stream))
    (held : ∀ frame, (outlets.place place).held = some frame ↔
      now.getLast? = some frame ∧ frame ∉ taken screening.answers)
    (known : ∀ frame ∈ seen screening.answers, frame ∈ now) :
    Sound graph stream place now { screening with
      session.engine.worker := some { worker with current := rest }
      session.outlets := outlets } := by
  have images := sound.images
  rw [SessionEngine.owed_of_current found current] at images
  exact {
    inside, held, known, frames
    ordered := sound.ordered
    bounds := sound.bounds
    images := fun name packet member => images name packet (List.mem_cons_of_mem _ member)
    worker := by
      rintro _ ⟨⟩
      exact sound.worker worker found
    opened := fun _ => rfl
    stopped := fun rests => absurd (found.symm.trans (sound.stopped rests)) (Option.some_ne_none _)
    fresh := sound.fresh
    steady := sound.steady }

/-- An emission of the preview stream stores the first frame that was not stored yet. -/
theorem emits (sound : screening.Sound graph stream place stored)
    (found : screening.session.engine.worker = some worker)
    (current : worker.current = emission :: rest)
    (emitted : SessionEngine.reaction.emit worker.observers worker.sink emission
      screening.session.outlets = some outlets) :
    ∃ stored, Sound graph stream place stored { screening with
      session.engine.worker := some { worker with current := rest }
      session.outlets := outlets } := by
  have only : Emission.ImagesOn stream [emission] := fun name packet member =>
    sound.images name packet (by
      rw [SessionEngine.owed_of_current found current, List.mem_singleton.mp member]
      exact List.mem_cons_self)
  obtain ⟨inside, stores⟩ :=
    Outlets.place_of_images sound.inside (sound.worker worker found).2 only emitted
  obtain ⟨later, split, ahead⟩ := sound.exists_later
  rw [SessionEngine.owed_of_current found current, List.flatMap_cons] at ahead
  cases brought : emission.on stream with
  | nil =>
      rw [brought, List.nil_append] at ahead
      rw [brought, List.foldl_nil] at stores
      refine ⟨stored, sound.passes found current inside ?_ (stores ▸ sound.held) sound.known⟩
      rw [split, List.map_append, ahead]
  | cons packet others =>
      -- The packet is the image of the next frame.
      obtain rfl := Emission.eq_nil_of_on_eq_cons brought
      rw [brought, List.singleton_append] at ahead
      obtain ⟨next, others, rfl, rfl, waiting⟩ := List.map_eq_cons_iff.mp ahead
      have holds : (outlets.place place).held = some next := by
        rw [stores, brought]
        rfl
      have ordered := sound.ordered
      rw [split] at ordered
      have newer : next ∉ taken screening.answers := fun taken =>
        absurd rfl <| Timestamp.ne_of_lt <| (List.pairwise_append.mp ordered).2.2 next
          (sound.known next (mem_seen_of_taken taken)) next List.mem_cons_self
      refine ⟨stored ++ [next], sound.passes found current inside ?_ (fun frame => ?_)
        fun frame member => ?_⟩
      · rw [split, List.map_append, List.map_append, List.map_cons, waiting, List.append_assoc]
        rfl
      · rw [holds, List.getLast?_concat]
        exact ⟨fun same => ⟨same, Option.some.inj same ▸ newer⟩, fun last => last.1⟩
      · exact List.mem_append_left _ (sound.known frame member)

end Emissions

theorem works {after : SessionEngine × Outlets}
    (sound : screening.Sound graph stream place stored)
    (step : ScriptedEngine.WorkerStep SessionEngine.reaction
      (screening.session.engine, screening.session.outlets) after) :
    ∃ stored, Sound graph stream place stored { screening with
      session.engine := after.1, session.outlets := after.2 } := by
  cases step with
  | @begins _ _ worker input rest found rested waiting =>
      obtain ⟨script, bound⟩ := sound.worker worker found
      have owed : ScriptedEngine.owed
          { screening.session.engine with worker := some (worker.begin input rest) } =
          screening.session.engine.owed := by
        simp only [ScriptedEngine.owed, found, Worker.owed_begin rested waiting]
      exact ⟨stored, { sound with
        frames := by
          rw [owed]
          exact sound.frames
        images := by
          rw [owed]
          exact sound.images
        worker := by
          rintro _ ⟨⟩
          exact ⟨script, bound⟩
        opened := fun _ => rfl
        stopped := fun rests =>
          absurd (found.symm.trans (sound.stopped rests)) (Option.some_ne_none _) }⟩
  | emits found current emitted => exact sound.emits found current emitted
  | @ends _ _ worker found idled closed =>
      have owed : screening.session.engine.owed = [] := by
        simp only [ScriptedEngine.owed, found, ScriptedEngine.owed_of_isIdle idled]
      have frames := sound.frames
      rw [owed] at frames
      exact ⟨stored, { sound with
        frames
        images := fun _ _ member => absurd member List.not_mem_nil
        worker := fun _ known => absurd known.symm (Option.some_ne_none _)
        opened := fun opened => absurd (closed.symm.trans opened) Bool.false_ne_true
        stopped := fun _ => rfl }⟩

theorem closes {engine : SessionEngine} (sound : screening.Sound graph stream place stored)
    (closed : screening.session.engine.closeInput screening.session.config.inputStream =
      .ok engine) :
    Sound graph stream place stored { screening with session.engine := engine } := by
  obtain ⟨run, _, rfl⟩ := ScriptedEngine.closeInput_eq_ok_iff.mp closed
  exact { sound with opened := fun opened => absurd opened Bool.false_ne_true }

theorem waits {engine : SessionEngine} (sound : screening.Sound graph stream place stored)
    (waited : screening.session.engine.waitUntilDone = .ok engine) :
    Sound graph stream place stored { screening with session.engine := engine } := by
  obtain ⟨_, rfl⟩ := ScriptedEngine.waitUntilDone_eq_ok_iff.mp waited
  exact { sound with opened := fun opened => absurd opened Bool.false_ne_true }

theorem stops (sound : screening.Sound graph stream place stored)
    (ended : screening.session.engine.worker = none) :
    Sound graph stream place stored { screening with
      session.lifecycle := screening.session.lifecycle.stopped } :=
  { sound with stopped := fun _ => ended }

/-- A look shows nothing, or the frame stored last. -/
theorem seen_concat (sound : screening.Sound graph stream place stored) (look : Look) :
    let answers := screening.answers ++
      [(look, (screening.session.outlets.place place).held)]
    (∀ frame ∈ seen answers, frame ∈ stored) ∧
      (seen answers).Pairwise fun earlier later => earlier.timestamp ≤ later.timestamp := by
  intro answers
  simp only [answers, Screening.seen_concat]
  cases found : (screening.session.outlets.place place).held with
  | none =>
      rw [Option.toList_none, List.append_nil]
      exact ⟨sound.known, sound.steady⟩
  | some frame =>
      obtain ⟨member, _, before⟩ := sound.last_of_held found
      rw [Option.toList_some]
      refine ⟨fun other known => ?_, List.pairwise_append.mpr
        ⟨sound.steady, List.pairwise_singleton .., fun earlier known last same => ?_⟩⟩
      · rcases List.mem_append.mp known with old | new
        · exact sound.known other old
        · rw [List.mem_singleton.mp new]
          exact member
      · rw [List.mem_singleton.mp same]
        rcases before earlier known with rfl | less
        · exact Int.le_refl _
        · exact Int.le_of_lt less

theorem snapshots (sound : screening.Sound graph stream place stored) :
    Sound graph stream place stored { screening with
      answers := screening.answers ++
        [(.snapshot, (screening.session.outlets.place place).snapshot)] } := by
  obtain ⟨known, steady⟩ := sound.seen_concat .snapshot
  exact { sound with
    held := fun frame => by
      rw [taken_concat_snapshot]
      exact sound.held frame
    known, steady
    fresh := by
      rw [taken_concat_snapshot]
      exact sound.fresh }

/-- What is taken was not taken before, and is not there any more. -/
theorem takes {held : Option StampedFrame} {left : LatestFrame}
    (sound : screening.Sound graph stream place stored)
    (took : (screening.session.outlets.place place).take = (held, left)) :
    Sound graph stream place stored { screening with
      session.outlets := screening.session.outlets.setPlace place left
      answers := screening.answers ++ [(.take, held)] } := by
  obtain ⟨known, steady⟩ := sound.seen_concat .take
  cases took
  have inside : place < (screening.session.outlets.setPlace place ⟨none⟩).places.length := by
    rw [Outlets.setPlace, List.length_set]
    exact sound.inside
  have emptied : (screening.session.outlets.setPlace place ⟨none⟩).place place = ⟨none⟩ :=
    (Outlets.place_setPlace sound.inside ..).trans (if_pos rfl)
  have fresh : Ordered (taken screening.answers ++
      (screening.session.outlets.place place).held.toList) := by
    cases found : (screening.session.outlets.place place).held with
    | none =>
        rw [Option.toList_none, List.append_nil]
        exact sound.fresh
    | some frame =>
        obtain ⟨_, untaken, before⟩ := sound.last_of_held found
        refine sound.fresh.concat fun earlier member => ?_
        rcases before earlier (mem_seen_of_taken member) with rfl | less
        · exact absurd member untaken
        · exact less
  have gone (frame : StampedFrame) (last : stored.getLast? = some frame) :
      frame ∈ taken screening.answers ++
        (screening.session.outlets.place place).held.toList := by
    by_cases before : frame ∈ taken screening.answers
    · exact List.mem_append_left _ before
    · rw [(sound.held frame).mpr ⟨last, before⟩]
      exact List.mem_append_right _ List.mem_cons_self
  exact { sound with
    inside, known, steady
    held := fun frame => by
      rw [emptied, taken_concat_take]
      exact ⟨fun same => absurd same.symm (Option.some_ne_none _),
        fun kept => absurd (gone frame kept.1) kept.2⟩
    fresh := by
      rw [taken_concat_take]
      exact fresh }

theorem elsewhere {outlets : Outlets} (sound : screening.Sound graph stream place stored)
    (kept : screening.session.outlets.places.length ≤ outlets.places.length)
    (same : outlets.place place = screening.session.outlets.place place) :
    Sound graph stream place stored { screening with session.outlets := outlets } :=
  { sound with
    inside := Nat.lt_of_lt_of_le sound.inside kept
    held := fun frame => by
      rw [same]
      exact sound.held frame }

theorem step (sound : screening.Sound graph stream place stored) (wellFormed : graph.WellFormed)
    (shown : graph.previewStream = some stream) (step : Step place screening after) :
    ∃ stored, after.Sound graph stream place stored := by
  cases step with
  | feeds checked added => exact ⟨stored, sound.feeds wellFormed shown checked added⟩
  | closes running closed => exact ⟨stored, sound.closes closed⟩
  | works step => exact sound.works step
  | waits running waited => exact ⟨stored, sound.waits waited⟩
  | stops running waited ended => exact ⟨stored, sound.stops ended⟩
  | snapshots => exact ⟨stored, sound.snapshots⟩
  | takes took => exact ⟨stored, sound.takes took⟩
  | elsewhere kept same => exact ⟨stored, sound.elsewhere kept same⟩

theorem reaches (sound : screening.Sound graph stream place stored)
    (wellFormed : graph.WellFormed) (shown : graph.previewStream = some stream)
    (reaches : Reaches place screening after) :
    ∃ stored, after.Sound graph stream place stored := by
  induction reaches with
  | refl => exact ⟨stored, sound⟩
  | tail _ next ih =>
      obtain ⟨stored, middle⟩ := ih
      exact middle.step wellFormed shown next

end Sound

/-- A run begins with nothing in the place that its preview stream is bound to. -/
theorem sound_of_launched {bound begun : Session SessionEngine} (unviewed : bound.Unviewed)
    (launched : Session.Launched graph bound begun)
    (found : bound.bindings.bindings.find? stream = some (.latest place)) :
    Sound graph stream place [] { session := begun } := by
  obtain ⟨observers, worker, alike⟩ := launched.worker
  have shielded := unviewed place fun avoids => avoids stream _ found rfl
  have owed : begun.engine.owed = [] := by
    rw [ScriptedEngine.owed, worker]
    rfl
  exact {
    inside := by
      rw [launched.outlets]
      exact shielded.held.1
    ordered := .nil
    bounds := by
      rw [launched.unstamped]
      rfl
    frames := by
      rw [owed]
      rfl
    images := by
      rw [owed]
      exact fun _ _ member => absurd member List.not_mem_nil
    worker := by
      intro other known
      cases worker.symm.trans known
      exact ⟨rfl, (alike stream).trans found⟩
    opened := fun _ => by rw [worker]; rfl
    stopped := fun rests => absurd launched.running rests
    held := fun frame => by
      rw [launched.outlets, shielded.held.2]
      exact ⟨fun same => absurd same.symm (Option.some_ne_none _),
        fun kept => absurd kept.1.symm (Option.some_ne_none _)⟩
    known := fun _ member => absurd member List.not_mem_nil
    fresh := .nil
    steady := .nil }

section Operations

variable {session begun : Session SessionEngine} {frames : List StampedFrame}
  {answers : List (Look × Option StampedFrame)}

theorem reaches_advance (place : PlaceId) (screening : Screening) :
    let worked := screening.session.engine.advance SessionEngine.reaction screening.session.outlets
    Reaches place screening { screening with
      session.engine := worked.1, session.outlets := worked.2 } := by
  let staged (state : SessionEngine × Outlets) : Screening :=
    { screening with session.engine := state.1, session.outlets := state.2 }
  have steps := ScriptedEngine.steps_advance SessionEngine.reaction screening.session.engine
    screening.session.outlets
  exact Relation.ReflTransGen.lift (p := Step place) staged (fun _ _ step => .works step) _ _ steps

/-- A frame that a session takes in one piece is fed, and then the worker goes on. -/
theorem reaches_feedAt (place : PlaceId) (fed : session.feedAt input = (.ok (), begun)) :
    Reaches place ⟨session, frames, answers⟩ ⟨begun, frames ++ [input], answers⟩ := by
  unfold Session.feedAt at fed
  split at fed
  · simp [Session.reject] at fed
  · rename_i checked
    split at fed
    · simp [Session.reject] at fed
    · rename_i engine given
      cases fed
      exact .head (.feeds checked (SessionEngine.answer_eq_ok_iff.mp given))
        (reaches_advance place _)

/-- A session that stops in one piece closes its input, waits, and lets the worker end. -/
theorem reaches_stop (place : PlaceId) (coupled : session.Coupled)
    (running : session.state = .running) (ended : session.stop.engine.worker = none) :
    Reaches place ⟨session, frames, answers⟩ ⟨session.stop, frames, answers⟩ := by
  obtain ⟨run, closed, waited⟩ := coupled.agrees.calls_of_drain running
  let open_ : SessionEngine := { session.engine with run := some run }
  let worked := open_.advance SessionEngine.reaction session.outlets
  let left : SessionEngine := { worked.1 with run := none }
  let last := left.advance SessionEngine.reaction worked.2
  have stopped : session.stop = { session with
      engine := last.1, outlets := last.2, lifecycle := session.lifecycle.stopped } := by
    simp only [Session.stop, running, Session.endRun, closed, waited]
    rfl
  rw [stopped] at ended ⊢
  have idle : last.1.isRunning = false := by
    rw [ScriptedEngine.isRunning, ScriptedEngine.advance_run]
    rfl
  have closes : Reaches place ⟨session, frames, answers⟩
      ⟨{ session with engine := open_ }, frames, answers⟩ :=
    .single (.closes running (SessionEngine.answer_eq_ok_iff.mp closed))
  have works : Reaches place ⟨{ session with engine := open_ }, frames, answers⟩
      ⟨{ session with engine := worked.1, outlets := worked.2 }, frames, answers⟩ :=
    reaches_advance place _
  have waits : Reaches place
      ⟨{ session with engine := worked.1, outlets := worked.2 }, frames, answers⟩
      ⟨{ session with engine := left, outlets := worked.2 }, frames, answers⟩ :=
    .single (.waits running (SessionEngine.answer_eq_ok_iff.mp waited))
  have rests : Reaches place
      ⟨{ session with engine := left, outlets := worked.2 }, frames, answers⟩
      ⟨{ session with engine := last.1, outlets := last.2 }, frames, answers⟩ :=
    reaches_advance place _
  exact (((closes.trans works).trans waits).trans rests).tail (.stops running idle ended)

theorem reaches_lookAt (place : PlaceId) (session : Session SessionEngine) :
    Reaches place ⟨session, frames, answers⟩
      ⟨session, frames, answers ++ [(.snapshot, (session.outlets.place place).snapshot)]⟩ :=
  .single .snapshots

theorem reaches_take (place : PlaceId) (session : Session SessionEngine) :
    Reaches place ⟨session, frames, answers⟩ ⟨(session.perform (.take place)).2, frames,
      answers ++ [(.take, (session.outlets.place place).take.1)]⟩ :=
  .single (.takes rfl)

end Operations

/-- A session whose preview stream was bound to a place last, and that plays a graph with this
preview stream: whenever frames are fed, stored and looked at, and by how many viewers, a frame
that is seen was accepted with that timestamp. No frame is taken twice, and nobody sees one that
is older than what was seen before. When the session has stopped, the frame accepted last is in
the place until it is taken. -/
theorem newest_of_reaches {task : Task} {layout : Layout} {config : SessionConfig}
    {actions : List Action} {begun : Session SessionEngine}
    (starts : ((Session.opened task layout config).after actions).start = (.ok (), begun))
    (bound : ((Session.opened task layout config).after actions).bindings.bindings.find?
      config.previewStream = some (.latest place))
    (loaded : ((Session.opened task layout config).after actions).engine.graph = some graph)
    (previews : graph.previewStream = some config.previewStream)
    (reaches : Reaches place { session := begun } screening) :
    Ordered screening.frames ∧
      (∀ frame ∈ seen screening.answers, frame ∈ screening.frames) ∧
      Ordered (taken screening.answers) ∧
      ((seen screening.answers).Pairwise fun earlier later =>
        earlier.timestamp ≤ later.timestamp) ∧
      (screening.session.state = .stopped → ∀ frame,
        (screening.session.outlets.place place).held = some frame ↔
          screening.frames.getLast? = some frame ∧ frame ∉ taken screening.answers) := by
  have coupled : ((Session.opened task layout config).after actions).Coupled :=
    Session.coupled_opened
  obtain ⟨configured, _⟩ := Session.exists_of_start starts
  obtain ⟨_, _, _, _, parsed, same, _⟩ := coupled.agrees.configured configured
  obtain rfl : graph = _ := Option.some.inj (loaded.symm.trans same)
  have launched := Session.launched_of_start coupled starts loaded
  obtain ⟨stored, sound⟩ := (sound_of_launched Session.unviewed_opened launched bound).reaches
    (Graph.wellFormed_of_parse parsed) previews reaches
  obtain ⟨later, split, ahead⟩ := sound.exists_later
  refine ⟨sound.ordered, fun frame member => ?_, sound.fresh, sound.steady, fun stopped frame => ?_⟩
  · rw [split]
    exact List.mem_append_left _ (sound.known frame member)
  · have ended : screening.session.engine.worker = none :=
      sound.stopped fun running => absurd (stopped.symm.trans running) (by decide)
    have none : later = [] := by
      rw [ScriptedEngine.owed, ended] at ahead
      exact List.map_eq_nil_iff.mp ahead
    rw [split, none, List.append_nil]
    exact sound.held frame

/-- A frame is looked at, the next one is taken, and then there is nothing left to see. -/
theorem newest_of_two_frames :
    let graph : Action := .configure (.text "\x7b\"preview_stream\": \"output_video\"\x7d")
    let begun := ((Session.opened .detection [] {}).after [graph, .previewLatest]).start.2
    let first : StampedFrame := ⟨.clamp 5, .black⟩
    let second : StampedFrame := ⟨.clamp 9, .black⟩
    ∃ screening, Reaches 0 { session := begun } screening ∧
      screening.answers = [(.snapshot, some first), (.take, some second), (.snapshot, none)] ∧
      Ordered (taken screening.answers) ∧ screening.session.state = .stopped ∧
      screening.frames.getLast? = some second := by
  intro graph begun first second
  let bound := (Session.opened .detection [] {}).after [graph, .previewLatest]
  let once := (begun.perform (.feedAt first)).2
  let twice := (once.perform (.feedAt second)).2
  let emptied := (twice.perform (.take 0)).2
  have starts : bound.start = (.ok (), begun) := Prod.ext (by decide +kernel) rfl
  have feeds : begun.feedAt first = (.ok (), once) :=
    Prod.ext (by decide +kernel) (Session.answered_snd ..).symm
  have feedsOn : once.feedAt second = (.ok (), twice) :=
    Prod.ext (by decide +kernel) (Session.answered_snd ..).symm
  have coupled : emptied.Coupled := by
    have launched : bound.Coupled := Session.coupled_opened
    have step : bound.Step .start _ begun :=
      Session.step_of_perform (by rw [Session.perform, Session.answered_snd, starts])
    exact (launched.step step).after [.feedAt first, .feedAt second, .take 0]
  have running : emptied.state = .running := by decide +kernel
  have ended : emptied.stop.engine.worker.isNone = true := by decide +kernel
  have looks : Reaches 0 { session := begun } ⟨once, [first], _⟩ :=
    (reaches_feedAt 0 feeds).trans (reaches_lookAt 0 once)
  have takes := (looks.trans (reaches_feedAt 0 feedsOn)).trans (reaches_take 0 twice)
  have reaches := takes.trans
    ((reaches_stop 0 coupled running (Option.isNone_iff_eq_none.mp ended)).trans
      (reaches_lookAt 0 emptied.stop))
  obtain ⟨played, loaded⟩ : ∃ played, bound.engine.graph = some played :=
    Option.isSome_iff_exists.mp (by decide +kernel)
  have previews : bound.engine.graph.bind (·.previewStream) = some "output_video" := by
    decide +kernel
  rw [loaded, Option.bind_some] at previews
  have spec := newest_of_reaches starts (by decide +kernel) loaded previews reaches
  exact ⟨_, reaches, by decide +kernel, spec.2.2.1, by decide +kernel, rfl⟩

end Screening

end FrameFlow

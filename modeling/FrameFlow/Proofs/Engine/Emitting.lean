import FrameFlow.Proofs.Engine.Pace

/-!
What an engine that is run on does to the world: the first emissions that it owes take effect
one after the other, and the others are owed still.
-/

namespace FrameFlow

variable {η φ ω β : Type}

/-- Emissions take effect in order. -/
inductive Reaction.Emits (reaction : Reaction η φ ω) (observers : StreamMap η)
    (sink : Option φ) : List Emission → ω → ω → Prop
  | nothing {world} : Emits reaction observers sink [] world world
  | next {emission rest world middle after} :
      reaction.emit observers sink emission world = some middle →
      Emits reaction observers sink rest middle after →
      Emits reaction observers sink (emission :: rest) world after

namespace Reaction.Emits

variable {reaction : Reaction η φ ω} {observers : StreamMap η} {sink : Option φ}
  {emissions : List Emission} {world after : ω}

/-- What every emission does to a view of the world, they do together. -/
theorem foldl_eq (emits : reaction.Emits observers sink emissions world after)
    (stands : ω → Prop) (view : ω → β) (moves : β → Emission → β) (standing : stands world)
    (each : ∀ {emission world after}, stands world →
      reaction.emit observers sink emission world = some after →
      stands after ∧ view after = moves (view world) emission) :
    stands after ∧ view after = emissions.foldl moves (view world) := by
  induction emits with
  | nothing => exact ⟨standing, rfl⟩
  | next emitted rest ih =>
      obtain ⟨still, moved⟩ := each standing emitted
      obtain ⟨last, all⟩ := ih still
      refine ⟨last, all.trans ?_⟩
      rw [moved, List.foldl_cons]

end Reaction.Emits

/-- What single emissions bring to a place in the world, they bring together. -/
theorem Reaction.Brings.emits {reaction : Reaction η φ ω} {observers : StreamMap η}
    {sink : Option φ} {stands : ω → Prop} {arrived : ω → List β} {parcels : Emission → List β}
    (brings : reaction.Brings observers sink stands arrived parcels) {emissions : List Emission}
    {world after : ω} (emits : reaction.Emits observers sink emissions world after)
    (standing : stands world) :
    stands after ∧ arrived after = arrived world ++ emissions.flatMap parcels := by
  induction emits with
  | nothing => exact ⟨standing, (List.append_nil _).symm⟩
  | next emitted rest ih =>
      obtain ⟨still, brought⟩ := brings.emit standing emitted
      obtain ⟨last, all⟩ := ih still
      refine ⟨last, ?_⟩
      rw [all, brought, List.append_assoc, List.flatMap_cons]

namespace ScriptedEngine

variable {reaction : Reaction η φ ω} {engine : ScriptedEngine η φ} {worker : Worker η φ}

theorem steps_of_idle {before after : ScriptedEngine η φ × ω}
    (steps : Relation.ReflTransGen (WorkerStep reaction) before after)
    (idle : before.1.worker = none) : after = before := by
  rcases Relation.ReflTransGen.cases_head steps with same | ⟨middle, step, _⟩
  · exact same.symm
  · obtain ⟨worker, found⟩ := step.exists_worker
    rw [idle] at found
    contradiction

theorem exists_emits_of_steps {before after : ScriptedEngine η φ × ω}
    (steps : Relation.ReflTransGen (WorkerStep reaction) before after)
    (found : before.1.worker = some worker) :
    ∃ done, before.1.owed = done ++ after.1.owed ∧
      reaction.Emits worker.observers worker.sink done before.2 after.2 ∧
      ∀ left, after.1.worker = some left → worker.Continues left := by
  -- The worker changes with every step, so the induction is for all workers.
  induction steps using Relation.ReflTransGen.head_induction_on generalizing worker with
  | refl =>
      refine ⟨[], rfl, .nothing, fun left known => ?_⟩
      cases found.symm.trans known
      exact ⟨rfl, rfl, rfl, rfl⟩
  | head step rest ih =>
      cases step with
      | @begins engine world _ input waiting known rested queued =>
          cases found.symm.trans known
          obtain ⟨done, owed, emits, continues⟩ := ih rfl
          refine ⟨done, ?_, emits, fun left known => ?_⟩
          · rw [← owed]
            simp only [ScriptedEngine.owed, known, Worker.owed_begin rested queued]
          · obtain ⟨graph, observers, sink, position⟩ := continues left known
            refine ⟨graph, observers, sink, position.trans ?_⟩
            rw [queued, List.length_cons]
            change worker.index + 1 + waiting.length = worker.index + (waiting.length + 1)
            omega
      | @emits engine world _ emission others middle known current emitted =>
          cases found.symm.trans known
          obtain ⟨done, owed, emits, continues⟩ := ih rfl
          refine ⟨emission :: done, ?_, .next emitted emits, fun left known => ?_⟩
          · rw [List.cons_append, ← owed]
            simp only [ScriptedEngine.owed, known, Worker.owed, current, List.cons_append]
          · obtain ⟨graph, observers, sink, position⟩ := continues left known
            exact ⟨graph, observers, sink, position⟩
      | @ends engine world _ known idled closed =>
          cases found.symm.trans known
          cases steps_of_idle rest rfl
          refine ⟨[], ?_, .nothing, fun left known => ?_⟩
          · simp only [ScriptedEngine.owed, known, owed_of_isIdle idled, List.nil_append]
          · contradiction

/-- An engine that is run on emits the first part of what it owes. -/
theorem exists_emits (reaction : Reaction η φ ω) (found : engine.worker = some worker)
    (world : ω) :
    ∃ done, engine.owed = done ++ (engine.advance reaction world).1.owed ∧
      reaction.Emits worker.observers worker.sink done world (engine.advance reaction world).2 ∧
      ∀ left, (engine.advance reaction world).1.worker = some left → worker.Continues left :=
  exists_emits_of_steps (steps_advance reaction engine world) found

/-- What has arrived at a place and what is still owed there are the same together, however far
the worker has come. -/
theorem advance_brings {stands : ω → Prop} {arrived : ω → List β} {parcels : Emission → List β}
    (found : engine.worker = some worker)
    (brings : reaction.Brings worker.observers worker.sink stands arrived parcels)
    {world : ω} (standing : stands world) :
    let worked := engine.advance reaction world
    stands worked.2 ∧
      arrived worked.2 ++ worked.1.owed.flatMap parcels =
        arrived world ++ engine.owed.flatMap parcels ∧
      ∀ left, worked.1.worker = some left → worker.Continues left := by
  obtain ⟨done, owed, emits, continues⟩ := exists_emits reaction found world
  obtain ⟨still, brought⟩ := brings.emits emits standing
  refine ⟨still, ?_, continues⟩
  rw [brought, owed, List.flatMap_append, List.append_assoc]

end ScriptedEngine

/-- A worker that went on until it had nothing to do is back where it was, but for its place in
the script. -/
theorem Worker.Continues.eq_of_isIdle {before after : Worker η φ}
    (continues : before.Continues after) (idle : after.isIdle = true) :
    after = { graph := before.graph, observers := before.observers, sink := before.sink
              index := before.index + before.waiting.length } := by
  obtain ⟨graph, observers, sink, index, current, waiting⟩ := after
  obtain ⟨played, same, reports, position⟩ := continues
  simp only [isIdle, Bool.and_eq_true, List.isEmpty_iff] at idle
  obtain ⟨rfl, rfl⟩ := idle
  cases played
  cases same
  cases reports
  rw [show index = before.index + before.waiting.length from position]

end FrameFlow

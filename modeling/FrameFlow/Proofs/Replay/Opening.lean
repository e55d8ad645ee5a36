import FrameFlow.Proofs.Replay.Outputs
import FrameFlow.Proofs.Session.Seating

/-!
The start of a replay that is told of its outputs. All that the plan wants is bound, and nothing
else is.
-/

namespace FrameFlow

/-- What is bound is one of the things that a plan wants. -/
theorem ReplayPlan.Binds.cases {plan : ReplayPlan} {bindings : StreamMap Binding}
    (binds : plan.Binds bindings) {stream : String} {binding : Binding}
    (found : bindings.find? stream = some binding) :
    (∃ port ∈ plan.ports, port.output = stream ∧
      binding = .output plan.preset.task port.slot Replay.listener) ∨
    (plan.preview = true ∧ stream = "output_video" ∧ binding = .preview Replay.listener) := by
  by_cases shown : plan.shows stream = true
  · obtain ⟨port, member, rfl⟩ := shows_iff.mp shown
    exact .inl ⟨port, member, rfl, Option.some.inj (found.symm.trans (binds.wanted port member))⟩
  · by_cases wanted : plan.preview = true ∧ stream = "output_video"
    · obtain ⟨preview, rfl⟩ := wanted
      exact .inr ⟨preview, rfl, Option.some.inj (found.symm.trans (binds.preview preview))⟩
    · have unbound := binds.others stream (Bool.eq_false_iff.mpr shown)
        fun preview same => wanted ⟨preview, same⟩
      exact nomatch unbound.symm.trans found

namespace Replay

variable {plan : ReplayPlan} {replay : Replay} {graph : Graph}

/-- A replay with its graph, before anything is bound. -/
def configured (plan : ReplayPlan) (text : String) (graph : Graph) : Replay where
  plan
  session := { freshSession plan with
    engine := { graph := some graph }
    graph := some text
    lifecycle := { state := .configured }
    outlets := { errorListener := some listener } }

end Replay

end FrameFlow

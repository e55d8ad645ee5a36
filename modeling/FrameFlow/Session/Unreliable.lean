import FrameFlow.Session.Engine

/-!
An engine before another one that lets chosen calls fail: such a call is answered with a
status of its own and never reaches the engine behind.
-/

namespace FrameFlow

inductive EngineCall where
  | load
  | observe
  | start
  | addPacket
  | closeInput
  | waitUntilDone
  | cancel
deriving DecidableEq

/-- The answer to the call of a kind with a number, counted from one; none if the call is
passed on. -/
abbrev FailurePlan := EngineCall → Nat → Option Status

structure UnreliableEngine (ε : Type) where
  engine : ε
  plan : FailurePlan
  calls : Tally EngineCall := {}

namespace UnreliableEngine

variable {ε : Type}

/-- Makes a call, which the plan may answer in place of the engine behind. -/
def attempt (call : EngineCall) (forward : ε → Except Status Unit × ε)
    (unreliable : UnreliableEngine ε) : Except Status Unit × UnreliableEngine ε :=
  let counted := { unreliable with calls := unreliable.calls.bump call }
  match unreliable.plan call (counted.calls.count call) with
  | some status => (.error status, counted)
  | none =>
      let (answer, engine) := forward unreliable.engine
      (answer, { counted with engine })

instance [GraphEngine ε] : GraphEngine (UnreliableEngine ε) where
  load text := attempt .load (GraphEngine.load text)
  connectFaults unreliable :=
    { unreliable with engine := GraphEngine.connectFaults unreliable.engine }
  hasInput stream unreliable := GraphEngine.hasInput stream unreliable.engine
  observe stream binding := attempt .observe (GraphEngine.observe stream binding)
  start := attempt .start GraphEngine.start
  addPacket stream input := attempt .addPacket (GraphEngine.addPacket stream input)
  closeInput stream := attempt .closeInput (GraphEngine.closeInput stream)
  waitUntilDone := attempt .waitUntilDone GraphEngine.waitUntilDone
  cancel := attempt .cancel GraphEngine.cancel
  close unreliable := { unreliable with engine := GraphEngine.close unreliable.engine }
  advance unreliable outlets :=
    let (engine, outlets) := GraphEngine.advance unreliable.engine outlets
    ({ unreliable with engine }, outlets)
  holds channel unreliable := GraphEngine.holds channel unreliable.engine
  remaining unreliable := GraphEngine.remaining unreliable.engine

end UnreliableEngine

end FrameFlow

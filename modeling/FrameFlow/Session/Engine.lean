import FrameFlow.Engine.Scripted
import FrameFlow.Session.BindingTable

/-!
What a session asks of a graph engine. Every call is answered, and may change the engine
whatever the answer; nothing else about an engine is taken for granted. The calls come in
cycles: load, observe, start, frames, end of input, wait. Between calls an engine works,
which is the only way for it to reach the outlets.
-/

namespace FrameFlow

class GraphEngine (ε : Type) where
  load : String → ε → Except Status Unit × ε
  /-- Has the faults of the coming runs reported to the session's outlets. -/
  connectFaults : ε → ε
  hasInput : String → ε → Bool
  observe : String → Binding → ε → Except Status Unit × ε
  start : ε → Except Status Unit × ε
  addPacket : String → StampedFrame → ε → Except Status Unit × ε
  closeInput : String → ε → Except Status Unit × ε
  waitUntilDone : ε → Except Status Unit × ε
  /-- Ends a run in whatever state it is; observers are released. -/
  cancel : ε → Except Status Unit × ε
  /-- Gives the engine up, with everything accepted still worked off. -/
  close : ε → ε
  advance : ε → Outlets → ε × Outlets
  holds : ChannelId → ε → Bool
  remaining : ε → Nat

abbrev SessionEngine := ScriptedEngine Binding Unit

namespace SessionEngine

def reaction : Reaction Binding Unit Outlets where
  deliver := Outlets.deliver
  report := fun () fault outlets => outlets.report fault

/-- The answer to a call; a refused call leaves the engine as it was. -/
def answer (engine : SessionEngine) :
    Except EngineRefusal SessionEngine → Except Status Unit × SessionEngine
  | .ok after => (.ok (), after)
  | .error refusal => (.error refusal.status, engine)

def holds (channel : ChannelId) (engine : SessionEngine) : Bool :=
  engine.heldObservers.any fun entry => entry.2.channel? == some channel

instance : GraphEngine SessionEngine where
  load text engine := answer engine (engine.load text)
  connectFaults engine := engine.setSink ()
  hasInput stream engine := engine.hasInput stream
  observe stream binding engine := answer engine (engine.observe stream binding)
  start engine := answer engine engine.start
  addPacket stream input engine := answer engine (engine.addPacket stream input)
  closeInput stream engine := answer engine (engine.closeInput stream)
  waitUntilDone engine := answer engine engine.waitUntilDone
  cancel engine := (.ok (), engine.cancel)
  close engine := engine.close
  advance engine outlets := engine.advance reaction outlets
  holds := holds
  remaining engine := ScriptedEngine.remaining engine

end SessionEngine

end FrameFlow

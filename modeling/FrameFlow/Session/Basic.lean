import FrameFlow.Session.Engine
import FrameFlow.Session.Lifecycle

/-!
Sessions: a graph run for one task, from its configuration until it has drained. Outputs
are bound while the session is configured and take effect when it starts. After every
operation the engine works as far as it can, so each answer is given in a settled state.
-/

namespace FrameFlow

structure SessionConfig where
  inputStream : String := "input_video"
  previewStream : String := "output_video"
  pollerCapacity : Option Nat := none
deriving DecidableEq

instance : Inhabited SessionConfig := ⟨{}⟩

def SessionConfig.withPollerCapacity (config : SessionConfig) (capacity : Nat) : SessionConfig :=
  { config with pollerCapacity := some (max capacity 1) }

/-- Where the description of a graph comes from: it is given, or it was to be read from a
file, which may have failed. -/
inductive GraphSource where
  | text (text : String)
  | file (path : String) (contents : Except String String)

def GraphSource.load : GraphSource → Except SessionError String
  | .text description => .ok description
  | .file _ (.ok contents) => .ok contents
  | .file path (.error reason) => .error (.graphFile path reason)

structure Session (ε : Type) where
  engine : ε
  task : Task
  layout : Layout
  config : SessionConfig := {}
  lifecycle : Lifecycle := {}
  bindings : BindingTable := { capacity := config.pollerCapacity }
  graph : Option String := none
  outlets : Outlets := {}

namespace Session

variable {ε : Type} [GraphEngine ε]

def state (session : Session ε) : SessionState := session.lifecycle.state

/-- Lets the engine go on as far as it can. -/
def settle (session : Session ε) : Session ε :=
  let (engine, outlets) := GraphEngine.advance session.engine session.outlets
  { session with engine, outlets }

def isOpen (session : Session ε) (channel : ChannelId) : Bool :=
  session.bindings.holds channel || GraphEngine.holds channel session.engine

def setErrorListener (session : Session ε) (listener : Listener) : Session ε :=
  { session with outlets := { session.outlets with errorListener := some listener } }

/-- Loads a graph with the session's input stream. If anything is wrong with it, only the
engine may have changed. -/
def configure (source : GraphSource) (session : Session ε) :
    Except SessionError Unit × Session ε :=
  match session.lifecycle.require .configure with
  | .error error => (.error error, session)
  | .ok () =>
      match source.load with
      | .error error => (.error error, session)
      | .ok text =>
          match GraphEngine.load text session.engine with
          | (.error status, engine) => (.error (.config status), { session with engine })
          | (.ok (), engine) =>
              if GraphEngine.hasInput session.config.inputStream engine then
                (.ok (), { session with
                  engine
                  graph := some text
                  bindings := session.bindings.clear
                  lifecycle := session.lifecycle.configured })
              else
                let refusal := EngineRefusal.unknownInput session.config.inputStream
                (.error (.config refusal.status), { session with engine })

def bindStream (operation : Operation) (stream : String) (binding : Binding)
    (session : Session ε) : Except SessionError Unit × Session ε :=
  match session.lifecycle.require operation with
  | .error error => (.error error, session)
  | .ok () =>
      match session.bindings.bindCallback stream binding with
      | .error error => (.error error, session)
      | .ok bindings => (.ok (), { session with bindings })

/-- Has the outputs of a port told to a listener, one for every payload; presence is not
consulted. -/
def bindCallback (port : Port) (listener : Listener) (session : Session ε) :
    Except SessionError Unit × Session ε :=
  session.bindStream .bindCallback port.output (.output session.task port.slot listener)

def observeStream (stream : String) (listener : Listener) (session : Session ε) :
    Except SessionError Unit × Session ε :=
  session.bindStream .observeStream stream (.packets listener)

def bindPreview (listener : Listener) (session : Session ε) :
    Except SessionError Unit × Session ε :=
  session.bindStream .bindPreview session.config.previewStream (.preview listener)

def previewLatest (session : Session ε) : Except SessionError PlaceId × Session ε :=
  let (place, outlets) := session.outlets.addPlace
  match session.bindStream .bindPreview session.config.previewStream (.latest place) with
  | (.error error, _) => (.error error, session)
  | (.ok (), bound) => (.ok place, { bound with outlets })

/-- Queues the outputs of a port, behind its presence stream if it has one. -/
def bindPoller (port : Port) (session : Session ε) :
    Except SessionError OutputPoller × Session ε :=
  match session.lifecycle.require .bindPoller with
  | .error error => (.error error, session)
  | .ok () =>
      match port.presence with
      | none =>
          match session.bindings.bindPoller port.output session.outlets with
          | .error error => (.error error, session)
          | .ok (poller, bindings, outlets) =>
              (.ok ⟨session.task, .plain poller⟩, { session with bindings, outlets })
      | some presence =>
          match session.bindings.bindGated port.output presence session.outlets with
          | .error error => (.error error, session)
          | .ok (poller, bindings, outlets) =>
              (.ok ⟨session.task, .gated poller⟩, { session with bindings, outlets })

def pollStream (stream : String) (session : Session ε) :
    Except SessionError Poller × Session ε :=
  match session.lifecycle.require .pollStream with
  | .error error => (.error error, session)
  | .ok () =>
      match session.bindings.bindPoller stream session.outlets with
      | .error error => (.error error, session)
      | .ok (poller, bindings, outlets) => (.ok poller, { session with bindings, outlets })

def install : List (String × Binding) → ε → Except Status Unit × ε
  | [], engine => (.ok (), engine)
  | (stream, binding) :: rest, engine =>
      match GraphEngine.observe stream binding engine with
      | (.error status, engine) => (.error status, engine)
      | (.ok (), engine) => install rest engine

def launch (bindings : BindingTable) (engine : ε) : Except Status Unit × ε :=
  match install bindings.bindings.entries engine with
  | (.error status, engine) => (.error status, engine)
  | (.ok (), engine) => GraphEngine.start engine

/-- The engine with its graph loaded again, which releases observers installed before a
failure. -/
def reload (graph : Option String) (engine : ε) : ε :=
  match graph with
  | some text => (GraphEngine.load text engine).2
  | none => engine

/-- Puts the bindings into effect and starts the graph. If the engine refuses anything, no
binding is kept and the session is stopped. -/
def start (session : Session ε) : Except SessionError Unit × Session ε :=
  match session.lifecycle.require .start with
  | .error error => (.error error, session)
  | .ok () =>
      let cleared := { session with bindings := session.bindings.clear }
      match launch session.bindings (GraphEngine.connectFaults session.engine) with
      | (.error status, engine) =>
          (.error (.start status), { cleared with
            engine := reload session.graph engine
            lifecycle := session.lifecycle.stopped })
      | (.ok (), engine) =>
          (.ok (), settle { cleared with engine, lifecycle := session.lifecycle.running })

def reject (session : Session ε) (error : SessionError) : Except SessionError Unit × Session ε :=
  (.error error, { session with outlets := session.outlets.countRejected error })

def feedAt (input : StampedFrame) (session : Session ε) : Except SessionError Unit × Session ε :=
  match session.lifecycle.checkStamp input.timestamp with
  | .error error => session.reject error
  | .ok () =>
      match GraphEngine.addPacket session.config.inputStream input session.engine with
      | (.error status, engine) =>
          reject { session with engine } (.feedRejected input.timestamp status)
      | (.ok (), engine) =>
          (.ok (), settle { session with
            engine
            lifecycle := session.lifecycle.accepted input.timestamp
            outlets := session.outlets.countFed })

def feed (frame : Frame) (now : Timestamp) (session : Session ε) :
    Except SessionError Timestamp × Session ε :=
  let timestamp := session.lifecycle.stamp now
  match session.feedAt ⟨timestamp, frame⟩ with
  | (.error error, after) => (.error error, after)
  | (.ok (), after) => (.ok timestamp, after)

/-- The engine after its run was ended: drained, or cancelled if it cannot drain. -/
def endRun (inputStream : String) (engine : ε) (outlets : Outlets) : ε × Outlets :=
  match GraphEngine.closeInput inputStream engine with
  | (.error _, engine) => GraphEngine.advance (GraphEngine.cancel engine).2 outlets
  | (.ok (), engine) =>
      let (engine, outlets) := GraphEngine.advance engine outlets
      match GraphEngine.waitUntilDone engine with
      | (.error _, engine) => GraphEngine.advance (GraphEngine.cancel engine).2 outlets
      | (.ok (), engine) => GraphEngine.advance engine outlets

def stop (session : Session ε) : Session ε :=
  match session.state with
  | .running =>
      let (engine, outlets) := endRun session.config.inputStream session.engine session.outlets
      { session with engine, outlets, lifecycle := session.lifecycle.stopped }
  | .configured =>
      { session with
        bindings := session.bindings.clear
        lifecycle := session.lifecycle.stopped }
  | .unconfigured | .stopped => session

/-- Gives the session up. What remains are its outlets, with no sending end left. -/
def close (session : Session ε) : Outlets :=
  let stopped := session.stop
  (GraphEngine.advance (GraphEngine.close stopped.engine) stopped.outlets).2

def poll (poller : OutputPoller) (session : Session ε) :
    Except SessionError (PollResult Observation) × OutputPoller × Session ε :=
  let (result, poller, outlets) := poller.poll session.isOpen session.outlets
  (result, poller, settle { session with outlets })

/-- Polls the outputs of a port and waits for the engine: where nothing is there at first,
another poll follows after the engine went on. -/
def awaitOutput (poller : OutputPoller) (session : Session ε) :
    Except SessionError (PollResult Observation) × OutputPoller × Session ε :=
  match session.poll poller with
  | (.ok .empty, poller, session) => session.poll poller
  | answered => answered

def getOutput (poller : OutputPoller) (buffer : List Element) (session : Session ε) :
    Except SessionError Bool × List Element × OutputPoller × Session ε :=
  let (result, poller, session) := session.awaitOutput poller
  let (answer, buffer) := OutputPoller.copy result buffer
  (answer, buffer, poller, session)

def release (poller : OutputPoller) (session : Session ε) : Session ε :=
  settle { session with outlets := poller.detach session.outlets }

def releasePackets (poller : Poller) (session : Session ε) : Session ε :=
  settle { session with outlets := poller.detach session.outlets }

def pollPackets (poller : Poller) (session : Session ε) : PollResult Packet × Session ε :=
  let (result, outlets) := poller.poll session.isOpen session.outlets
  (result, settle { session with outlets })

def outstanding (session : Session ε) : Nat :=
  GraphEngine.remaining session.engine + session.outlets.queued

/-- Polls the raw packets of a stream as long as there are any. The engine goes on after
every poll, so packets that had to wait for room in a queue are among them. -/
def drainPackets (poller : Poller) (session : Session ε) : List Packet × Session ε :=
  match session.pollPackets poller with
  | (.ready packet, polled) =>
      if polled.outstanding < session.outstanding then
        let (packets, drained) := polled.drainPackets poller
        (packet :: packets, drained)
      else ([packet], polled)
  | (.empty, polled) | (.closed, polled) => ([], polled)
termination_by session.outstanding

end Session

end FrameFlow

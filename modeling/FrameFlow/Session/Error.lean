import FrameFlow.Task
import FrameFlow.Text.Quoted

/-! What can go wrong in a session, and how it is told. -/

namespace FrameFlow

inductive BindingMode where
  | callback
  | poller
deriving DecidableEq

def BindingMode.text : BindingMode → String
  | .callback => "callback"
  | .poller => "poller"

inductive SessionState where
  | unconfigured
  | configured
  | running
  | stopped
deriving DecidableEq

namespace SessionState

def all : List SessionState := [.unconfigured, .configured, .running, .stopped]

def text : SessionState → String
  | .unconfigured => "unconfigured"
  | .configured => "configured"
  | .running => "running"
  | .stopped => "stopped"

end SessionState

inductive Operation where
  | configure
  | bindCallback
  | bindPoller
  | observeStream
  | pollStream
  | bindPreview
  | start
  | feed
deriving DecidableEq

namespace Operation

def text : Operation → String
  | .configure => "configure"
  | .bindCallback => "bind a callback"
  | .bindPoller => "bind a poller"
  | .observeStream => "observe a stream"
  | .pollStream => "poll a stream"
  | .bindPreview => "bind the preview"
  | .start => "start"
  | .feed => "feed"

def states : Operation → List SessionState
  | .configure => [.unconfigured, .stopped]
  | .feed => [.running]
  | _ => [.configured]

end Operation

inductive SessionError where
  | config (status : Status)
  | graphFile (path reason : String)
  /-- The engine refused to observe a stream or to start. -/
  | start (status : Status)
  | lifecycle (operation : Operation) (state : SessionState)
  | outOfOrderFrame (timestamp previous : Timestamp)
  | feedRejected (timestamp : Timestamp) (status : Status)
  | dualBinding (stream : String) (existing requested : BindingMode)
  | engineRuntime (fault : Fault)
  | unexpectedPayload (stream : String) (expected found : PayloadKind)
  | pairingBroken (stream : String) (presence payload : Timestamp)
  | outputSize (mismatch : CountMismatch)
deriving DecidableEq

namespace SessionError

open Text

def message : SessionError → String
  | .config status => s!"graph configuration failed: {status.text}"
  | .graphFile path _ => s!"failed to read graph description {quoted path}"
  | .start status => s!"graph failed to start: {status.text}"
  | .lifecycle operation state =>
      s!"cannot {operation.text} while the session is {state.text}"
  | .outOfOrderFrame timestamp previous =>
      s!"frame at {timestamp.text} rejected: it does not follow the previous frame at " ++
        previous.text
  | .feedRejected timestamp status =>
      s!"engine rejected frame at {timestamp.text}: {status.text}"
  | .dualBinding stream existing requested =>
      s!"stream {quoted stream} is already bound to a {existing.text}; " ++
        s!"it cannot also be bound to a {requested.text}"
  | .engineRuntime fault =>
      let stream := fault.stream.getD "the graph"
      s!"graph reported an error on {stream}: {fault.status.text}"
  | .unexpectedPayload stream expected found =>
      s!"stream {quoted stream} carried {found.text} where {expected.text} was expected"
  | .pairingBroken stream presence payload =>
      s!"presence at {presence.text} on {quoted stream} was paired with a payload at " ++
        payload.text
  | .outputSize mismatch => mismatch.message

def label : SessionError → String
  | .config _ | .graphFile _ _ => "config"
  | .start _ => "start"
  | .lifecycle _ _ => "lifecycle"
  | .outOfOrderFrame _ _ => "out_of_order"
  | .feedRejected _ _ => "feed_rejected"
  | .dualBinding _ _ _ => "dual_binding"
  | .engineRuntime _ => "engine_runtime"
  | .unexpectedPayload _ _ _ => "unexpected_payload"
  | .pairingBroken _ _ _ => "pairing_broken"
  | .outputSize _ => "output_size"

def causes : SessionError → List String
  | .config status | .start status | .feedRejected _ status => [status.text]
  | .engineRuntime fault => [fault.status.text]
  | .graphFile _ reason => [reason]
  | _ => []

end SessionError

def Task.decode (task : Task) (stream : String) (payload : Payload) :
    Except SessionError Output :=
  match task.marshal? payload with
  | some output => .ok output
  | none => .error (.unexpectedPayload stream task.payload payload.kind)

end FrameFlow

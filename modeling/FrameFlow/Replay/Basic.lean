import FrameFlow.File
import FrameFlow.Replay.Failure
import FrameFlow.Replay.Line
import FrameFlow.Replay.Plan

/-!
Replays: a session that is driven through a plan. Outputs become lines either as the
engine emits them or through consumers, each of which polls one port until its queue is
closed or a poll fails.
-/

namespace FrameFlow

structure Consumer where
  poller : OutputPoller
  ending : Option (Except SessionError Unit) := none

namespace Consumer

def finish (consumer : Consumer) (ending : Except SessionError Unit)
    (session : Session SessionEngine) : Consumer × List Line × Session SessionEngine :=
  ({ consumer with ending := some ending }, [], session.release consumer.poller)

def step (consumer : Consumer) (session : Session SessionEngine) :
    Consumer × List Line × Session SessionEngine :=
  if consumer.ending.isSome then (consumer, [], session)
  else
    let (result, poller, session) := session.poll consumer.poller
    let polled := { consumer with poller }
    match result with
    | .error error => polled.finish (.error error) session
    | .ok .closed => polled.finish (.ok ()) session
    | .ok .empty => (polled, [], session)
    | .ok (.ready observation) => (polled, [.ofObservation poller.stream observation], session)

def stepAll : List Consumer → Session SessionEngine →
    List Consumer × List Line × Session SessionEngine
  | [], session => ([], [], session)
  | consumer :: rest, session =>
      let (consumer, lines, session) := consumer.step session
      let (rest, more, session) := stepAll rest session
      (consumer :: rest, lines ++ more, session)

def error? (consumer : Consumer) : Option SessionError :=
  match consumer.ending with
  | some (.error error) => some error
  | _ => none

end Consumer

structure Replay where
  plan : ReplayPlan
  session : Session SessionEngine
  consumers : List Consumer := []
  lines : List Line := []
  fed : Nat := 0
  runtimeErrors : Nat := 0

structure ReplaySummary where
  fed : Nat
  lines : Nat
  runtimeErrors : Nat
deriving DecidableEq

def ReplaySummary.text (summary : ReplaySummary) : String :=
  s!"fed {summary.fed} frame(s), wrote {summary.lines} line(s), " ++
    s!"{summary.runtimeErrors} runtime error(s)"

/-- What becomes of a replay. Its lines are those that were handed to the writer. Whether they
all get written is sure only if the writer was waited for; otherwise the program may end in the
middle of them. -/
structure ReplayOutcome where
  lines : List Line
  result : Except Failure ReplaySummary
  metrics : Metrics := {}
  awaited : Bool := false

namespace Replay

def listener : Listener := 0

def eventLine? (replay : Replay) : Event → Option Line
  | .output _ slot timestamp output =>
      (replay.session.layout.port? slot).map fun port =>
        ⟨port.output, timestamp, some (.output output)⟩
  | .preview _ frame => some (.ofPreview replay.session.config.previewStream frame)
  | .packet .. | .failure .. => none

def isFailure : Event → Bool
  | .failure .. => true
  | _ => false

def collect (replay : Replay) : Replay :=
  let (events, outlets) := replay.session.outlets.takeEvents
  { replay with
    session := { replay.session with outlets }
    lines := replay.lines ++ events.filterMap replay.eventLine?
    runtimeErrors := replay.runtimeErrors + events.countP isFailure }

/-- Steps that are left at most: packets still to come or to be taken, and consumers that
have not ended. -/
def work (replay : Replay) : Nat :=
  replay.session.outstanding + replay.consumers.countP (·.ending.isNone)

def round (replay : Replay) : Replay :=
  let (consumers, lines, session) := Consumer.stepAll replay.consumers replay.session
  collect { replay with consumers, session, lines := replay.lines ++ lines }

/-- Lets the consumers go on as long as they get anywhere. -/
def pump (replay : Replay) : Replay :=
  if replay.round.work < replay.work then replay.round.pump else replay.round
termination_by replay.work

def catchUp (replay : Replay) : Replay := replay.collect.pump

def bindPort (port : Port) (replay : Replay) : Except SessionError Replay :=
  match replay.plan.mode with
  | .callback =>
      match replay.session.bindCallback port listener with
      | (.error error, _) => .error error
      | (.ok (), session) => .ok { replay with session }
  | .poll =>
      match replay.session.bindPoller port with
      | (.error error, _) => .error error
      | (.ok poller, session) =>
          .ok { replay with session, consumers := replay.consumers ++ [{ poller }] }

def bindPorts : List Port → Replay → Except SessionError Replay
  | [], replay => .ok replay
  | port :: rest, replay =>
      if replay.plan.wants port.output then
        match replay.bindPort port with
        | .error error => .error error
        | .ok bound => bindPorts rest bound
      else bindPorts rest replay

def bindPreview (replay : Replay) : Except SessionError Replay :=
  if replay.plan.preview then
    match replay.session.bindPreview listener with
    | (.error error, _) => .error error
    | (.ok (), session) => .ok { replay with session }
  else .ok replay

def freshSession (plan : ReplayPlan) : Session SessionEngine where
  engine := {}
  task := plan.preset.task
  layout := plan.preset.layout
  config := { pollerCapacity := plan.pollerCapacity }

def start (plan : ReplayPlan) (graph : GraphSource) : Except Failure Replay :=
  match (freshSession plan).configure graph with
  | (.error error, _) =>
      .error ((Failure.ofSession error).within s!"failed to load graph {plan.graph}")
  | (.ok (), session) =>
      let configured : Replay := { plan, session := session.setErrorListener listener }
      match (bindPorts plan.preset.layout configured).bind bindPreview with
      | .error error => .error (.ofSession error)
      | .ok bound =>
          match bound.session.start with
          | (.error error, _) => .error ((Failure.ofSession error).within "failed to start graph")
          | (.ok (), session) => .ok { bound with session }

def stepTimestamp (step : Int) (index : Nat) : Timestamp := .clamp (step * (index + 1))

def feedSession (frame : Frame) (now : Timestamp) (replay : Replay) :
    Except SessionError Unit × Session SessionEngine :=
  match replay.plan.timestampStep with
  | some step => replay.session.feedAt ⟨stepTimestamp step replay.fed, frame⟩
  | none =>
      match replay.session.feed frame now with
      | (.error error, session) => (.error error, session)
      | (.ok _, session) => (.ok (), session)

def feed (frame : Frame) (now : Timestamp) (replay : Replay) : Except Failure Unit × Replay :=
  match replay.feedSession frame now with
  | (.error error, session) => (.error (.ofSession error), { replay with session })
  | (.ok (), session) => (.ok (), catchUp { replay with session, fed := replay.fed + 1 })

/-- The end of a replay, given how feeding it ended. The first consumer that failed comes
before a failure to feed, and before the writer. -/
def finish (fed : Except Failure Unit) (replay : Replay) : ReplayOutcome :=
  let ended := catchUp { replay with session := replay.session.stop }
  let metrics := ended.session.outlets.metrics
  match ended.consumers.findSome? Consumer.error? with
  | some error =>
      let failure := (Failure.ofSession error).within "poller failed"
      { lines := ended.lines, result := .error failure, metrics }
  | none =>
      let summary : ReplaySummary := ⟨ended.fed, ended.lines.length, ended.runtimeErrors⟩
      { lines := ended.lines, result := fed.map fun () => summary, metrics, awaited := true }

end Replay

end FrameFlow

import FrameFlow.Replay.Command

/-! The command line over real files and the real clock. -/

namespace FrameFlow

def reasonOf (error : IO.Error) : String :=
  match error with
  | .noFileOrDirectory _ code details | .permissionDenied _ code details
  | .inappropriateType _ code details | .resourceExhausted _ code details
  | .invalidArgument _ code details | .alreadyExists _ code details
  | .noSuchThing _ code details | .interrupted _ code details
  | .otherError code details | .resourceBusy code details | .hardwareFault code details =>
      s!"{details} (os error {code})"
  | other => toString other

def readAll (handle : IO.FS.Handle) : IO Read := do
  try return .bytes (← handle.readBinToEnd).toList
  catch error => return .failure (reasonOf error)

def accessFile (path : String) : IO FileAccess := do
  try return .opened [← readAll (← IO.FS.Handle.mk path .read)]
  catch error => return .refused (reasonOf error)

/-- Creates a plan's trace file, which holds no events. -/
def createTrace (path : String) : IO Unit := do
  try IO.FS.writeFile path "[]\n"
  catch error => IO.eprintln (Command.traceNotice path (reasonOf error))

def elapsed (start : Nat) : IO Timestamp := do
  return .clamp (((← IO.monoNanosNow) - start) / 1000)

def pause (plan : ReplayPlan) : Nat :=
  match plan.input with
  | .synthetic _ fps => FrameSource.paceMillis fps
  | .rawFile .. => 0

partial def feedFrames (start : Nat) (limit : Option Nat) (source : FrameSource)
    (replay : Replay) : IO (Except Failure Unit × Replay) := do
  match replay.turn (← elapsed start) limit source with
  | .ended result replay => return (result, replay)
  | .fed rest replay =>
      IO.sleep (pause replay.plan).toUInt32
      feedFrames start limit rest replay

def feedPlan (files : String → FileAccess) (replay : Replay) :
    IO (Except Failure Unit × Replay) := do
  match Replay.openInput replay.plan files with
  | .error failure => return (.error failure, replay)
  | .ok (source, limit) => feedFrames (← IO.monoNanosNow) limit source replay

def carryOut (plan : ReplayPlan) : IO ReplayOutcome := do
  let graph ← accessFile plan.graph
  match Replay.start plan (graph.graphSource plan.graph) with
  | .error failure => return { lines := [], result := .error failure }
  | .ok replay =>
      let input ←
        match plan.input with
        | .rawFile path _ => accessFile path
        | .synthetic .. => pure (.opened [])
      let (fed, replay) ← feedPlan (fun _ => input) replay
      return replay.finish fed

def runPlan (plan : ReplayPlan) : IO UInt32 := do
  plan.chromeTrace.forM createTrace
  let outcome ← carryOut plan
  outcome.lines.forM fun line => IO.println line.text
  match outcome.result with
  | .error failure => IO.eprintln failure.text; return 1
  | .ok summary =>
      IO.eprintln summary.text
      if plan.metrics then (Command.counterLines outcome.metrics).forM fun line => IO.eprintln line
      return 0

end FrameFlow

open FrameFlow in
def main (arguments : List String) : IO UInt32 := do
  match Command.ofArguments? arguments with
  | none => IO.eprintln "usage: tasks | replay --graph PATH --task TASK [FLAGS]"; return 2
  | some .tasks => Command.taskTable.forM fun line => IO.println line; return 0
  | some (.replay flags) =>
      match flags.plan with
      | .error error => IO.eprintln error.message; return 1
      | .ok plan => runPlan plan

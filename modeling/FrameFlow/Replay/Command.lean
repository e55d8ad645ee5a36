import FrameFlow.File.Tree
import FrameFlow.Replay.Run

/-!
The command line: the table of presets, or a replay. A command that cannot be read from its
arguments is a matter of usage; everything else ends in a report.
-/

namespace FrameFlow

inductive Command where
  | tasks
  | replay (flags : Flags)
deriving DecidableEq

/-- What is to be seen of a command. If its lines were not waited for, there may be fewer. -/
structure Report where
  succeeded : Bool
  table : List String := []
  lines : List Line := []
  awaited : Bool := true
  messages : List String := []
  counters : List String := []

namespace Command

def ofArguments? : List String → Option Command
  | "tasks" :: rest => if rest = [] ∨ rest = ["--"] then some .tasks else none
  | "replay" :: rest => (Flags.ofArguments? rest).map .replay
  | _ => none

def taskTable : List String := Preset.all.map Preset.listing

/-- What is said about a trace file that cannot be created; the replay goes on without. -/
def traceNotice (path reason : String) : String :=
  s!"failed to initialise chrome trace writer at {path}: {reason}"

def traceNotices (tree : FileTree) (plan : ReplayPlan) : List String :=
  match plan.chromeTrace with
  | none => []
  | some path =>
      match tree.creationFailure? path with
      | some reason => [traceNotice path reason]
      | none => []

/-- The files after a plan's trace file was created, which empties what was there. -/
def accessWithTrace (tree : FileTree) (plan : ReplayPlan) (path : String) : FileAccess :=
  if plan.chromeTrace = some path ∧ tree.creationFailure? path = none then .opened []
  else tree.access path

def counterLines (metrics : Metrics) : List String :=
  (metrics.counters.map Measurement.exposition).mergeSort (· ≤ ·)

def replayReport (plan : ReplayPlan) (tree : FileTree) (clock : Nat → Timestamp) : Report :=
  let outcome := Replay.run plan (accessWithTrace tree plan) clock
  let notices := traceNotices tree plan
  match outcome.result with
  | .error failure => {
      succeeded := false
      lines := outcome.lines
      awaited := outcome.awaited
      messages := notices ++ [failure.text] }
  | .ok summary => {
      succeeded := true
      lines := outcome.lines
      awaited := outcome.awaited
      messages := notices ++ [summary.text]
      counters := if plan.metrics then counterLines outcome.metrics else [] }

def report (tree : FileTree) (clock : Nat → Timestamp) : Command → Report
  | .tasks => { succeeded := true, table := taskTable }
  | .replay flags =>
      match flags.plan with
      | .error error => { succeeded := false, messages := [error.message] }
      | .ok plan => replayReport plan tree clock

end Command

end FrameFlow

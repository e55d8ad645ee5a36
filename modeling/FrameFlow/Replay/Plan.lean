import FrameFlow.Replay.Flags
import FrameFlow.Text.Blank
import FrameFlow.Text.Quoted

/-!
Plans of replays: flags that make sense together. What a plan holds has been checked, so a
replay that follows it meets no bad size, rate, step or capacity.
-/

namespace FrameFlow

inductive FrameInput where
  | synthetic (count : Nat) (fps : Single)
  | rawFile (path : String) (limit : Option Nat)
deriving DecidableEq

structure ReplayPlan where
  graph : String
  preset : Preset
  mode : Delivery
  input : FrameInput
  width : Nat
  height : Nat
  /-- The distance of timestamps; without one frames are stamped by the clock. -/
  timestampStep : Option Int
  streams : List String
  preview : Bool
  pollerCapacity : Option Nat
  chromeTrace : Option String
  metrics : Bool
deriving DecidableEq

def ReplayPlan.wants (plan : ReplayPlan) (stream : String) : Bool :=
  plan.streams.isEmpty || plan.streams.contains stream

inductive PlanError where
  | malformedSize (text : String)
  | emptySize
  | frameRate
  | timestampStep
  | pollerCapacity
deriving DecidableEq

def PlanError.message : PlanError → String
  | .malformedSize text => s!"--size must look like WIDTHxHEIGHT, got {Text.quoted text}"
  | .emptySize => "Frame width and height must be positive integers"
  | .frameRate => "--fps must be a non-negative number"
  | .timestampStep => "--timestamp-step-us must be a positive integer"
  | .pollerCapacity => "--poller-capacity must be at least 1"

def dimension? (text : List Char) : Option Nat :=
  (Decimal.natural? (Text.trim text)).filter (· < 2 ^ 32)

def isSizeSeparator (c : Char) : Bool := c == 'x' || c == 'X'

def dimensions? (text : List Char) : Option (Nat × Nat) :=
  match text.dropWhile (!isSizeSeparator ·) with
  | [] => none
  | _ :: heightText => do
      let width ← dimension? (text.takeWhile (!isSizeSeparator ·))
      let height ← dimension? heightText
      return (width, height)

def frameSize (text : String) : Except PlanError (Nat × Nat) :=
  match dimensions? text.toList with
  | none => .error (.malformedSize text)
  | some (width, height) =>
      if width = 0 ∨ height = 0 then .error .emptySize else .ok (width, height)

namespace Flags

def defaultFrameCount : Nat := 30

def frameInput (flags : Flags) : FrameInput :=
  match flags.input with
  | some path => .rawFile path flags.frames
  | none => .synthetic (flags.frames.getD defaultFrameCount) flags.fps

/-- The plan that flags make. Size, rate, step and capacity are checked in this order. -/
def plan (flags : Flags) : Except PlanError ReplayPlan :=
  match frameSize flags.size with
  | .error error => .error error
  | .ok (width, height) =>
      if !(flags.fps.isNonnegative && flags.fps.isFinite) then .error .frameRate
      else if flags.timestampStep.any (· ≤ 0) then .error .timestampStep
      else if flags.pollerCapacity = some 0 then .error .pollerCapacity
      else .ok {
        graph := flags.graph
        preset := flags.task
        mode := flags.mode
        input := flags.frameInput
        width, height
        timestampStep := flags.timestampStep
        streams := flags.streams
        preview := flags.preview
        pollerCapacity := flags.pollerCapacity
        chromeTrace := flags.chromeTrace
        metrics := flags.metrics }

end Flags

end FrameFlow

import FrameFlow.Replay.Basic

/-!
Whole runs of a plan, over given files and a clock that is read once for every frame.
-/

namespace FrameFlow.Replay

def openInput (plan : ReplayPlan) (files : String → FileAccess) :
    Except Failure (FrameSource × Option Nat) :=
  match plan.input with
  | .synthetic count fps =>
      match FrameSource.synthetic plan.width plan.height count fps with
      | .error error =>
          .error ((Failure.ofCapture error).within "failed to start synthetic frame source")
      | .ok source => .ok (source, none)
  | .rawFile path limit =>
      match (files path).frameSource path plan.width plan.height with
      | .error error => .error ((Failure.ofCapture error).within s!"failed to open {path}")
      | .ok source => .ok (source, limit)

def isComplete (limit : Option Nat) (replay : Replay) : Bool := limit.any (· ≤ replay.fed)

/-- What becomes of a replay in one turn: a frame is fed, or feeding comes to its end. -/
inductive Turn where
  | fed (source : FrameSource) (replay : Replay)
  | ended (result : Except Failure Unit) (replay : Replay)

/-- Takes one frame from a source and feeds it. The limit is looked at before the frame. -/
def turn (now : Timestamp) (limit : Option Nat) (source : FrameSource) (replay : Replay) : Turn :=
  match source.next? with
  | none => .ended (.ok ()) replay
  | some (item, rest) =>
      if isComplete limit replay then .ended (.ok ()) replay
      else
        match item with
        | .error error =>
            .ended (.error ((Failure.ofCapture error).within "frame source failed")) replay
        | .ok frame =>
            match replay.feed frame now with
            | (.error failure, replay) => .ended (.error failure) replay
            | (.ok (), replay) => .fed rest replay

def feedAll (clock : Nat → Timestamp) (limit : Option Nat) :
    Nat → FrameSource → Replay → Except Failure Unit × Replay
  | 0, _, replay => (.ok (), replay)
  | turns + 1, source, replay =>
      match replay.turn (clock replay.fed) limit source with
      | .ended result replay => (result, replay)
      | .fed rest replay => feedAll clock limit turns rest replay

def feedInput (files : String → FileAccess) (clock : Nat → Timestamp) (replay : Replay) :
    Except Failure Unit × Replay :=
  match openInput replay.plan files with
  | .error failure => (.error failure, replay)
  | .ok (source, limit) => replay.feedAll clock limit source.bound source

def run (plan : ReplayPlan) (files : String → FileAccess) (clock : Nat → Timestamp) :
    ReplayOutcome :=
  match start plan ((files plan.graph).graphSource plan.graph) with
  | .error failure => { lines := [], result := .error failure }
  | .ok replay =>
      let (fed, replay) := replay.feedInput files clock
      replay.finish fed

end FrameFlow.Replay

import FrameFlow.Session.Error

/-!
A session's state and the timestamps of its run: what may be done when, and which stamp a
frame gets that comes without one.
-/

namespace FrameFlow

structure Lifecycle where
  state : SessionState := .unconfigured
  lastTimestamp : Option Timestamp := none
deriving DecidableEq

namespace Lifecycle

instance : Inhabited Lifecycle := ⟨{}⟩

def require (lifecycle : Lifecycle) (operation : Operation) : Except SessionError Unit :=
  if lifecycle.state ∈ operation.states then .ok ()
  else .error (.lifecycle operation lifecycle.state)

def configured (_ : Lifecycle) : Lifecycle := { state := .configured }

def running (lifecycle : Lifecycle) : Lifecycle := { lifecycle with state := .running }

def stopped (lifecycle : Lifecycle) : Lifecycle := { lifecycle with state := .stopped }

/-- The stamp of a frame without one: the clock's reading, moved past the frame before if
the clock has not gone on. -/
def stamp (lifecycle : Lifecycle) (now : Timestamp) : Timestamp :=
  match lifecycle.lastTimestamp with
  | some last => if now ≤ last then last.successor else now
  | none => now

/-- Whether a frame may be fed at a timestamp: only while running, and after the frame
before. -/
def checkStamp (lifecycle : Lifecycle) (timestamp : Timestamp) : Except SessionError Unit :=
  match lifecycle.require .feed with
  | .error error => .error error
  | .ok () =>
      match lifecycle.lastTimestamp with
      | some previous =>
          if timestamp ≤ previous then .error (.outOfOrderFrame timestamp previous) else .ok ()
      | none => .ok ()

def accepted (lifecycle : Lifecycle) (timestamp : Timestamp) : Lifecycle :=
  { lifecycle with lastTimestamp := some timestamp }

end Lifecycle

end FrameFlow

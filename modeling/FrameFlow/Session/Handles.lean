import FrameFlow.Session.Poller

/-! Handles on queues, kept under names of the caller's choice. -/

namespace FrameFlow

inductive Handle where
  | raw (poller : Poller)
  | gated (poller : GatedPoller)
  | output (poller : OutputPoller)
deriving DecidableEq

def Handle.detach (handle : Handle) (outlets : Outlets) : Outlets :=
  match handle with
  | .raw poller => poller.detach outlets
  | .gated poller => poller.detach outlets
  | .output poller => poller.detach outlets

structure Handles where
  entries : List (String × Handle) := []

namespace Handles

instance : Inhabited Handles := ⟨{}⟩

def find? (handles : Handles) (name : String) : Option Handle :=
  (handles.entries.find? (·.1 == name)).map (·.2)

def erase (handles : Handles) (name : String) : Handles :=
  ⟨handles.entries.filter (·.1 != name)⟩

def insert (handles : Handles) (name : String) (handle : Handle) : Handles :=
  ⟨(name, handle) :: (handles.erase name).entries⟩

def release (handles : Handles) (name : String) (outlets : Outlets) : Outlets :=
  match handles.find? name with
  | some handle => handle.detach outlets
  | none => outlets

end Handles

end FrameFlow

import FrameFlow.Session.Poller

/-!
The bindings of a session before a run. A stream has one binding at most, and keeps its
mode until the table is cleared; a new binding of the same mode takes the place of the old
one, whose poller is then cut off.
-/

namespace FrameFlow

structure BindingTable where
  bindings : StreamMap Binding := .empty
  capacity : Option Nat := none

instance : Inhabited BindingTable := ⟨{}⟩

namespace BindingTable

def mode? (table : BindingTable) (stream : String) : Option BindingMode :=
  (table.bindings.find? stream).map Binding.mode

def streams (table : BindingTable) : List String := table.bindings.names

def size (table : BindingTable) : Nat := table.bindings.size

def check (table : BindingTable) (stream : String) (requested : BindingMode) :
    Except SessionError Unit :=
  match table.mode? stream with
  | some existing =>
      if existing = requested then .ok () else .error (.dualBinding stream existing requested)
  | none => .ok ()

def holds (table : BindingTable) (channel : ChannelId) : Bool :=
  table.bindings.entries.any fun entry => entry.2.channel? == some channel

def clear (table : BindingTable) : BindingTable := { table with bindings := .empty }

def bindCallback (table : BindingTable) (stream : String) (binding : Binding) :
    Except SessionError BindingTable :=
  match table.check stream .callback with
  | .error error => .error error
  | .ok () => .ok { table with bindings := table.bindings.insert stream binding }

def insertPoller (table : BindingTable) (stream : String) (outlets : Outlets) :
    Poller × BindingTable × Outlets :=
  let (channel, outlets) := outlets.addChannel table.capacity
  (⟨stream, channel⟩, { table with bindings := table.bindings.insert stream (.poller channel) },
    outlets)

def bindPoller (table : BindingTable) (stream : String) (outlets : Outlets) :
    Except SessionError (Poller × BindingTable × Outlets) :=
  match table.check stream .poller with
  | .error error => .error error
  | .ok () => .ok (table.insertPoller stream outlets)

/-- Binds a payload stream and its presence stream, both or neither. -/
def bindGated (table : BindingTable) (payload presence : String) (outlets : Outlets) :
    Except SessionError (GatedPoller × BindingTable × Outlets) :=
  match table.check payload .poller with
  | .error error => .error error
  | .ok () =>
      match table.check presence .poller with
      | .error error => .error error
      | .ok () =>
          let (payload, table, outlets) := table.insertPoller payload outlets
          let (presence, table, outlets) := table.insertPoller presence outlets
          .ok ({ payload, presence }, table, outlets)

end BindingTable

end FrameFlow

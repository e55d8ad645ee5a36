import FrameFlow.Session.Error
import FrameFlow.StreamMap

/-! Counters of what sessions do. What never happened is not counted at all. -/

namespace FrameFlow

/-- How often each of some things happened, in the order in which they happened first. -/
structure Tally (κ : Type) where
  counts : List (κ × Nat) := []

namespace Tally

variable {κ : Type} [DecidableEq κ]

instance : Inhabited (Tally κ) := ⟨{}⟩

def bumpIn (key : κ) : List (κ × Nat) → List (κ × Nat)
  | [] => [(key, 1)]
  | entry :: rest =>
      if entry.1 = key then (key, entry.2 + 1) :: rest else entry :: bumpIn key rest

def bump (tally : Tally κ) (key : κ) : Tally κ := ⟨bumpIn key tally.counts⟩

def countIn (counts : List (κ × Nat)) (key : κ) : Nat :=
  match counts with
  | [] => 0
  | entry :: rest => if entry.1 = key then entry.2 else countIn rest key

def count (tally : Tally κ) (key : κ) : Nat := countIn tally.counts key

theorem countIn_bumpIn (key other : κ) (counts : List (κ × Nat)) :
    countIn (bumpIn key counts) other = countIn counts other + if other = key then 1 else 0 := by
  induction counts with
  | nil => simp [bumpIn, countIn, eq_comm]
  | cons entry rest ih =>
      unfold bumpIn
      by_cases atKey : entry.1 = key
      · by_cases same : other = key
        · simp [countIn, atKey, same]
        · simp [countIn, atKey, same, Ne.symm same]
      · by_cases atOther : entry.1 = other
        · have : other ≠ key := fun same => atKey (atOther.trans same)
          simp [countIn, atOther, this]
        · simp [countIn, atKey, atOther, ih]

@[simp] theorem count_bump (tally : Tally κ) (key other : κ) :
    (tally.bump key).count other = tally.count other + if other = key then 1 else 0 :=
  countIn_bumpIn key other tally.counts

end Tally

structure Metrics where
  framesFed : Nat := 0
  framesRejected : Tally String := {}
  packetsDispatched : Tally (String × BindingMode) := {}
  runtimeErrors : Nat := 0
  /-- How many packets a stream's poller held right after its latest packet. -/
  pollerDepth : StreamMap Nat := .empty

instance : Inhabited Metrics := ⟨{}⟩

structure Measurement where
  name : String
  labels : List (String × String) := []
  value : Nat
deriving DecidableEq

def Metrics.counters (metrics : Metrics) : List Measurement :=
  (if metrics.framesFed = 0 then [] else
    [{ name := "graphpipe_frames_fed_total", value := metrics.framesFed }]) ++
  (metrics.framesRejected.counts.map fun entry =>
    { name := "graphpipe_frames_rejected_total", labels := [("reason", entry.1)],
      value := entry.2 }) ++
  (metrics.packetsDispatched.counts.map fun entry =>
    { name := "graphpipe_packets_dispatched_total",
      labels := [("stream", entry.1.1), ("mode", entry.1.2.text)], value := entry.2 }) ++
  (if metrics.runtimeErrors = 0 then [] else
    [{ name := "graphpipe_runtime_errors_total", value := metrics.runtimeErrors }])

def Metrics.gauges (metrics : Metrics) : List Measurement :=
  metrics.pollerDepth.entries.map fun entry =>
    { name := "graphpipe_poller_depth", labels := [("stream", entry.1)], value := entry.2 }

namespace Measurement

def labelled (name : String) : List String → String
  | [] => name
  | labels => name ++ "\x7b" ++ ",".intercalate labels ++ "\x7d"

def key (measurement : Measurement) : String :=
  labelled measurement.name
    ((measurement.labels.mergeSort fun a b => a.1 ≤ b.1).map fun label => label.1 ++ "=" ++ label.2)

def escapedInLabel (c : Char) : List Char :=
  if c = '"' then ['\\', '"'] else if c = '\\' then ['\\', '\\']
  else if c = '\n' then ['\\', 'n'] else [c]

def exposition (measurement : Measurement) : String :=
  let label (entry : String × String) : String :=
    entry.1 ++ "=\"" ++ String.ofList (entry.2.toList.flatMap escapedInLabel) ++ "\""
  labelled measurement.name (measurement.labels.map label) ++ s!" {measurement.value}"

end Measurement

end FrameFlow

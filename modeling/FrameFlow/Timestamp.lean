/-! Packet timestamps: whole microseconds in the signed 64-bit range, ordered as integers. -/

namespace FrameFlow

/-- A point in one session's timestamp domain, in microseconds. -/
structure Timestamp where
  micros : Int
  least_le : -2 ^ 63 ≤ micros
  le_greatest : micros ≤ 2 ^ 63 - 1
deriving DecidableEq

namespace Timestamp

def leastMicros : Int := -2 ^ 63

def greatestMicros : Int := 2 ^ 63 - 1

/-- The timestamp nearest to a number of microseconds: a number out of range
stops at the end of the range. -/
def clamp (micros : Int) : Timestamp where
  micros := max leastMicros (min micros greatestMicros)
  least_le := Int.le_max_left ..
  le_greatest := by unfold leastMicros greatestMicros; omega

def ofMicros? (micros : Int) : Option Timestamp :=
  if inRange : -2 ^ 63 ≤ micros ∧ micros ≤ 2 ^ 63 - 1 then
    some ⟨micros, inRange.1, inRange.2⟩
  else none

def zero : Timestamp := clamp 0

def greatest : Timestamp := clamp greatestMicros

instance : Inhabited Timestamp := ⟨zero⟩

instance : LE Timestamp := ⟨fun a b => a.micros ≤ b.micros⟩

instance : LT Timestamp := ⟨fun a b => a.micros < b.micros⟩

instance (a b : Timestamp) : Decidable (a ≤ b) := inferInstanceAs (Decidable (a.micros ≤ b.micros))

instance (a b : Timestamp) : Decidable (a < b) := inferInstanceAs (Decidable (a.micros < b.micros))

@[ext] theorem ext {a b : Timestamp} (same : a.micros = b.micros) : a = b := by
  cases a; cases b; simp_all

theorem le_def {a b : Timestamp} : a ≤ b ↔ a.micros ≤ b.micros := Iff.rfl

theorem lt_def {a b : Timestamp} : a < b ↔ a.micros < b.micros := Iff.rfl

theorem micros_clamp (micros : Int) :
    (clamp micros).micros = max leastMicros (min micros greatestMicros) := rfl

/-- The least timestamp after this one; the greatest timestamp is its own successor. -/
def successor (t : Timestamp) : Timestamp := clamp (t.micros + 1)

theorem micros_successor (t : Timestamp) :
    t.successor.micros = min (t.micros + 1) greatestMicros := by
  have := t.least_le
  simp only [successor, micros_clamp, leastMicros, greatestMicros]
  omega

def text (t : Timestamp) : String := s!"{t.micros}us"

end Timestamp

end FrameFlow

import FrameFlow.Binary.Format

/-!
Single-precision numbers kept as their bits. Records copy them untouched, so only what
looks at a value (the total order, pixel scaling, frame pacing) decodes them.
-/

namespace FrameFlow

open Binary

structure Single where
  bits : UInt32
deriving DecidableEq, Inhabited

namespace Single

def signBit : Nat := 2 ^ 31

def isNegative (number : Single) : Bool := decide (signBit ≤ number.bits.toNat)

def code (number : Single) : Nat := number.bits.toNat % signBit

def magnitude (number : Single) : Magnitude := single.magnitude number.code

def ofCode (isNegative : Bool) (code : Nat) : Single :=
  ⟨UInt32.ofNat ((if isNegative then signBit else 0) + code)⟩

def zero : Single := ⟨0⟩

def isNotANumber (number : Single) : Bool := number.magnitude == .notANumber

def isFinite (number : Single) : Bool :=
  match number.magnitude with
  | .finite .. => true
  | _ => false

/-- Whether the number is at least zero; minus zero is, a bit pattern that is no number is not. -/
def isNonnegative (number : Single) : Bool :=
  !number.isNotANumber && (number.code == 0 || !number.isNegative)

def isPositive (number : Single) : Bool :=
  !number.isNotANumber && number.code != 0 && !number.isNegative

/-- The place of a bit pattern in the total order of patterns: negative patterns come first
and run backwards, so that minus zero is just below zero and the patterns that are no
numbers lie at both ends. -/
def orderKey (number : Single) : Int :=
  if number.isNegative then -(number.code : Int) - 1 else number.code

def ofNat (whole : Nat) : Single := ofCode false (single.roundRatio whole 1)

def invalid : Single := ofCode true (single.infinityCode + single.binade / 2)

def quiet (number : Single) : Single :=
  if number.code / (single.binade / 2) % 2 = 1 then number
  else ofCode number.isNegative (number.code + single.binade / 2)

def multiply (a b : Single) : Single :=
  let isNegative := a.isNegative != b.isNegative
  match a.magnitude, b.magnitude with
  | .notANumber, _ => a.quiet
  | _, .notANumber => b.quiet
  | .infinite, .infinite => ofCode isNegative single.infinityCode
  | .infinite, .finite significand _ | .finite significand _, .infinite =>
      if significand = 0 then invalid else ofCode isNegative single.infinityCode
  | .finite m p, .finite n q =>
      ofCode isNegative
        (single.roundRatio (m * n * 2 ^ (p + q)) (2 ^ (single.depth + single.depth)))

def reciprocalCode (number : Single) : Nat :=
  match number.magnitude with
  | .finite significand exponent =>
      if significand = 0 then single.infinityCode
      else single.roundRatio (2 ^ single.depth) (significand * 2 ^ exponent)
  | .infinite => 0
  | .notANumber => number.code

end Single

end FrameFlow

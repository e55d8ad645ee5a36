import FrameFlow.Decimal.Numeral

/-!
Reading numbers as people write them: an optional sign and digits, and for fractional
numbers a point, a scale, or the words for infinity and for no number.
-/

namespace FrameFlow.Decimal

def sign : List Char → Bool × List Char
  | '-' :: unsigned => (true, unsigned)
  | '+' :: unsigned => (false, unsigned)
  | unsigned => (false, unsigned)

theorem sign_length (text : List Char) : (sign text).2.length ≤ text.length := by
  unfold sign
  split <;> simp

/-- A scale after its letter, if there is one; none if no digit follows it. -/
def scale? : List Char → Option (Option Int × List Char)
  | [] => some (none, [])
  | c :: rest =>
      if c = 'e' ∨ c = 'E' then
        let (isNegative, unsigned) := sign rest
        let digits := unsigned.takeWhile Char.isDigit
        if digits = [] then none
        else
          let size : Int := value digits
          some (some (if isNegative then -size else size), unsigned.dropWhile Char.isDigit)
      else some (none, c :: rest)

theorem length_dropWhile_le (keep : Char → Bool) (text : List Char) :
    (text.dropWhile keep).length ≤ text.length :=
  (List.dropWhile_sublist keep).length_le

theorem scale?_length {text after : List Char} {scale : Option Int}
    (found : scale? text = some (scale, after)) : after.length ≤ text.length := by
  unfold scale? at found
  split at found
  · simp_all
  · rename_i c rest
    split at found
    · simp only at found
      split at found
      · simp at found
      · simp only [Option.some.injEq, Prod.mk.injEq] at found
        have := length_dropWhile_le Char.isDigit (sign rest).2
        have := sign_length rest
        rw [← found.2, List.length_cons]; omega
    · simp_all

def digits? (text : List Char) : Option Nat :=
  if text ≠ [] ∧ text.all Char.isDigit = true then some (value text) else none

def natural? : List Char → Option Nat
  | '+' :: text => digits? text
  | text => digits? text

def integer? : List Char → Option Int
  | '-' :: text => (digits? text).map fun size => -size
  | text => (natural? text).map fun size => size

def fractional? (isNegative : Bool) (text : List Char) : Option Numeral :=
  let whole := text.takeWhile Char.isDigit
  let (fraction, afterFraction) :=
    match text.dropWhile Char.isDigit with
    | '.' :: rest => (rest.takeWhile Char.isDigit, rest.dropWhile Char.isDigit)
    | rest => ([], rest)
  if whole ++ fraction = [] then none
  else
    match scale? afterFraction with
    | some (scale, []) => some (.ofDigits isNegative whole fraction (scale.getD 0))
    | _ => none

def single? (text : List Char) : Option Single :=
  let (isNegative, unsigned) := sign text
  let word := unsigned.map Char.toLower
  if word = "inf".toList ∨ word = "infinity".toList then
    some (.ofCode isNegative Binary.single.infinityCode)
  else if word = "nan".toList then
    some (.ofCode isNegative (Binary.single.infinityCode + Binary.single.binade / 2))
  else (fractional? isNegative unsigned).map Numeral.toSingle

end FrameFlow.Decimal

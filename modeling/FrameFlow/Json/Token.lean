import FrameFlow.Json.Basic
import FrameFlow.Decimal.Reader
import FrameFlow.Text.Hex

/-!
The words of a JSON text. Every character outside a word is one of four blanks; a text
with anything else has no words.
-/

namespace FrameFlow.Json

open Decimal (scale? scale?_length length_dropWhile_le)
open Text (hexDigit?)

/-- A word of a JSON text: punctuation, or a value that is complete by itself. A string
is none if its escapes spell no characters. -/
inductive Token where
  | openArray
  | closeArray
  | openObject
  | closeObject
  | colon
  | comma
  | string (value : Option String)
  | scalar (value : Json)

namespace Token

def isBlank (c : Char) : Bool := c == ' ' || c == '\t' || c == '\n' || c == '\r'

inductive Piece where
  | char (c : Char)
  | unit (code : Nat)

def hexUnit? (a b c d : Char) : Option Nat := do
  return (((← hexDigit? a) * 16 + (← hexDigit? b)) * 16 + (← hexDigit? c)) * 16 + (← hexDigit? d)

def escape? (c : Char) : Option Char :=
  match c with
  | '"' => some '"'
  | '\\' => some '\\'
  | '/' => some '/'
  | 'b' => some '\x08'
  | 'f' => some '\x0c'
  | 'n' => some '\n'
  | 'r' => some '\r'
  | 't' => some '\t'
  | _ => none

def pieces? : List Char → Option (List Piece × List Char)
  | [] => none
  | '"' :: rest => some ([], rest)
  | '\\' :: 'u' :: a :: b :: c :: d :: rest => do
      let code ← hexUnit? a b c d
      let (pieces, after) ← pieces? rest
      return (.unit code :: pieces, after)
  | '\\' :: c :: rest => do
      let meant ← escape? c
      let (pieces, after) ← pieces? rest
      return (.char meant :: pieces, after)
  | c :: rest =>
      if c.toNat < 0x20 then none
      else do
        let (pieces, after) ← pieces? rest
        return (.char c :: pieces, after)

/-- The characters that pieces spell. Code units stand for themselves, except that two
surrogates in order make one character and a lone surrogate makes none. -/
def spell? : List Piece → Option (List Char)
  | [] => some []
  | .char c :: rest => (spell? rest).map (c :: ·)
  | .unit high :: .unit low :: rest =>
      if 0xd800 ≤ high ∧ high < 0xdc00 ∧ 0xdc00 ≤ low ∧ low < 0xe000 then
        (spell? rest).map (Char.ofNat (0x10000 + (high - 0xd800) * 0x400 + (low - 0xdc00)) :: ·)
      else if 0xd800 ≤ high ∧ high < 0xe000 then none
      else (spell? (.unit low :: rest)).map (Char.ofNat high :: ·)
  | .unit code :: rest =>
      if 0xd800 ≤ code ∧ code < 0xe000 then none
      else (spell? rest).map (Char.ofNat code :: ·)

def fraction? : List Char → Option (Option (List Char) × List Char)
  | '.' :: rest =>
      match rest.takeWhile Char.isDigit with
      | [] => none
      | digits => some (some digits, rest.dropWhile Char.isDigit)
  | text => some (none, text)

def numberOf (isNegative : Bool) (whole : List Char) :
    Option (List Char) → Option Int → Json
  | none, none =>
      let size := Decimal.value whole
      if isNegative ∧ size = 0 then .decimal ⟨true, 0, 0⟩
      else .integer (if isNegative then -(size : Int) else size)
  | fraction, scale =>
      .decimal (.ofDigits isNegative whole (fraction.getD []) (scale.getD 0))

def number? (isNegative : Bool) (text : List Char) : Option (Json × List Char) :=
  let whole := text.takeWhile Char.isDigit
  if whole = [] ∨ (whole.head? = some '0' ∧ 1 < whole.length) then none
  else
    match fraction? (text.dropWhile Char.isDigit) with
    | none => none
    | some (fraction, afterFraction) =>
        (scale? afterFraction).map fun (scale, after) =>
          (numberOf isNegative whole fraction scale, after)

def next? (c : Char) (rest : List Char) : Option (Token × List Char) :=
  match c with
  | '[' => some (.openArray, rest)
  | ']' => some (.closeArray, rest)
  | '\x7b' => some (.openObject, rest)
  | '\x7d' => some (.closeObject, rest)
  | ':' => some (.colon, rest)
  | ',' => some (.comma, rest)
  | '"' => (pieces? rest).map fun (pieces, after) =>
      (.string ((spell? pieces).map String.ofList), after)
  | 't' =>
      match rest with
      | 'r' :: 'u' :: 'e' :: after => some (.scalar (.bool true), after)
      | _ => none
  | 'f' =>
      match rest with
      | 'a' :: 'l' :: 's' :: 'e' :: after => some (.scalar (.bool false), after)
      | _ => none
  | 'n' =>
      match rest with
      | 'u' :: 'l' :: 'l' :: after => some (.scalar .null, after)
      | _ => none
  | '-' => (number? true rest).map fun (value, after) => (.scalar value, after)
  | _ =>
      if c.isDigit then
        (number? false (c :: rest)).map fun (value, after) => (.scalar value, after)
      else none

theorem pieces?_length {text after : List Char} {pieces : List Piece}
    (found : pieces? text = some (pieces, after)) : after.length < text.length := by
  fun_induction pieces? text generalizing pieces with
  | case1 => simp at found
  | case2 rest => simp_all
  | case3 a b c d rest ih =>
      simp only [Option.bind_eq_bind, Option.bind_eq_some_iff, Prod.exists,
        Option.pure_def, Option.some.injEq, Prod.mk.injEq] at found
      obtain ⟨_, _, inner, _, step, _, rfl⟩ := found
      have := ih step
      simp only [List.length_cons]; omega
  | case4 c rest _ ih =>
      simp only [Option.bind_eq_bind, Option.bind_eq_some_iff, Prod.exists,
        Option.pure_def, Option.some.injEq, Prod.mk.injEq] at found
      obtain ⟨_, _, inner, _, step, _, rfl⟩ := found
      have := ih step
      simp only [List.length_cons]; omega
  | case5 => simp at found
  | case6 c rest _ _ _ _ ih =>
      simp only [Option.bind_eq_bind, Option.bind_eq_some_iff, Prod.exists,
        Option.pure_def, Option.some.injEq, Prod.mk.injEq] at found
      obtain ⟨inner, _, step, _, rfl⟩ := found
      have := ih step
      simp only [List.length_cons]; omega

theorem fraction?_length {text after : List Char} {fraction : Option (List Char)}
    (found : fraction? text = some (fraction, after)) : after.length ≤ text.length := by
  unfold fraction? at found
  split at found
  · rename_i rest
    split at found
    · simp at found
    · simp only [Option.some.injEq, Prod.mk.injEq] at found
      have := length_dropWhile_le Char.isDigit rest
      rw [← found.2, List.length_cons]; omega
  · simp_all

theorem number?_length {isNegative : Bool} {text after : List Char} {value : Json}
    (found : number? isNegative text = some (value, after)) :
    after.length < text.length := by
  unfold number? at found
  simp only at found
  split at found
  · simp at found
  rename_i digits
  have some_digit : text.takeWhile Char.isDigit ≠ [] := fun none => digits (.inl none)
  have lengths := congrArg List.length
    (List.takeWhile_append_dropWhile (p := Char.isDigit) (l := text))
  have positive := List.length_pos_iff.2 some_digit
  rw [List.length_append] at lengths
  split at found
  · simp at found
  · rename_i fraction afterFraction fractionFound
    simp only [Option.map_eq_some_iff, Prod.mk.injEq, Prod.exists] at found
    obtain ⟨_, _, scaleFound, _, rfl⟩ := found
    have := fraction?_length fractionFound
    have := scale?_length scaleFound
    omega

theorem next?_length {c : Char} {rest after : List Char} {token : Token}
    (found : next? c rest = some (token, after)) : after.length ≤ rest.length := by
  unfold next? at found
  split at found
  any_goals simp_all; done
  · simp only [Option.map_eq_some_iff, Prod.mk.injEq, Prod.exists] at found
    obtain ⟨_, _, pieces, _, rfl⟩ := found
    exact Nat.le_of_lt (pieces?_length pieces)
  · split at found <;> simp_all; omega
  · split at found <;> simp_all; omega
  · split at found <;> simp_all; omega
  · simp only [Option.map_eq_some_iff, Prod.mk.injEq, Prod.exists] at found
    obtain ⟨_, _, number, _, rfl⟩ := found
    exact Nat.le_of_lt (number?_length number)
  · split at found
    · simp only [Option.map_eq_some_iff, Prod.mk.injEq, Prod.exists] at found
      obtain ⟨_, _, number, _, rfl⟩ := found
      have := number?_length number
      rw [List.length_cons] at this; omega
    · simp at found

def scan? (text : List Char) : Option (List Token) :=
  match text with
  | [] => some []
  | c :: rest =>
      if isBlank c then scan? rest
      else
        match _found : next? c rest with
        | none => none
        | some (token, after) => (scan? after).map (token :: ·)
termination_by text.length
decreasing_by
  · simp
  · have := next?_length _found
    simp only [List.length_cons]; omega

end Token

end FrameFlow.Json

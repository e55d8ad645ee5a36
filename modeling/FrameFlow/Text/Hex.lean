/-! Bytes and numbers in hexadecimal digits. -/

namespace FrameFlow.Text

def hexDigit? (c : Char) : Option Nat :=
  if '0' ≤ c ∧ c ≤ '9' then some (c.toNat - '0'.toNat)
  else if 'a' ≤ c ∧ c ≤ 'f' then some (c.toNat - 'a'.toNat + 10)
  else if 'A' ≤ c ∧ c ≤ 'F' then some (c.toNat - 'A'.toNat + 10)
  else none

def bytesOfHex? : List Char → Option (List UInt8)
  | [] => some []
  | high :: low :: rest => do
      let byte := (← hexDigit? high) * 16 + (← hexDigit? low)
      return UInt8.ofNat byte :: (← bytesOfHex? rest)
  | _ => none

def hexBytes? (text : String) : Option (List UInt8) := bytesOfHex? text.toList

def hexNumber (width value : Nat) : String :=
  let digits := Nat.toDigits 16 value
  String.ofList (List.replicate (width - digits.length) '0' ++ digits)

def hexText (bytes : List UInt8) : String := String.join (bytes.map fun byte => hexNumber 2 byte.toNat)

end FrameFlow.Text

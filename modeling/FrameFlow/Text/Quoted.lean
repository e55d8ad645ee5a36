import FrameFlow.Text.Unprintable
import FrameFlow.Text.GraphemeExtend

/-!
Names and paths as messages quote them: between double quotes, with everything that would
not show as itself escaped.
-/

namespace FrameFlow.Text

def hexCode (c : Char) : List Char := Nat.toDigits 16 c.toNat

/-- One character inside quotes: a few have escapes of their own, and characters that do not
stand visibly by themselves are given by their code. -/
def escaped (c : Char) : List Char :=
  if c = '"' then ['\\', '"']
  else if c = '\\' then ['\\', '\\']
  else if c = '\n' then ['\\', 'n']
  else if c = '\t' then ['\\', 't']
  else if c = '\r' then ['\\', 'r']
  else if c = '\x00' then ['\\', '0']
  else if isUnprintable c || isGraphemeExtend c then
    '\\' :: 'u' :: '\x7b' :: (hexCode c ++ ['\x7d'])
  else [c]

def quoted (text : String) : String :=
  String.ofList ('"' :: (text.toList.flatMap escaped ++ ['"']))

end FrameFlow.Text

import FrameFlow.Frame.Source
import FrameFlow.Session.Basic

/-! Files as a replay meets them: a file cannot be opened, or it is opened and read. -/

namespace FrameFlow

inductive FileAccess where
  | refused (reason : String)
  | opened (reads : List Read)
deriving DecidableEq

def allBytes : List Read → Except String (List UInt8)
  | [] | .endOfFile :: _ | .bytes [] :: _ => .ok []
  | .interrupted :: rest => allBytes rest
  | .failure reason :: _ => .error reason
  | .bytes bytes :: rest => (allBytes rest).map (bytes ++ ·)

def decodeText (bytes : List UInt8) : Except String String :=
  match String.fromUTF8? ⟨bytes.toArray⟩ with
  | some text => .ok text
  | none => .error "stream did not contain valid UTF-8"

namespace FileAccess

def text : FileAccess → Except String String
  | .refused reason => .error reason
  | .opened reads =>
      match allBytes reads with
      | .error reason => .error reason
      | .ok bytes => decodeText bytes

def graphSource (path : String) (access : FileAccess) : GraphSource := .file path access.text

/-- The raw frames in a file. The file is opened before the dimensions are looked at. -/
def frameSource (path : String) (width height : Nat) :
    FileAccess → Except CaptureError FrameSource
  | .refused reason => .error (.cannotOpen path reason)
  | .opened reads => FrameSource.ofReads width height reads

end FileAccess

end FrameFlow

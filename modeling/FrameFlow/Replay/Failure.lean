import FrameFlow.Frame.Source
import FrameFlow.Session.Error
import FrameFlow.Text.Padding

/-! Why a replay failed, told from the outermost event to its causes. -/

namespace FrameFlow

structure Failure where
  message : String
  causes : List String := []
deriving DecidableEq

namespace Failure

def ofSession (error : SessionError) : Failure := ⟨error.message, error.causes⟩

def ofCapture (error : CaptureError) : Failure := ⟨error.message, error.causes⟩

def within (context : String) (failure : Failure) : Failure :=
  ⟨context, failure.message :: failure.causes⟩

/-- A cause in the list of causes. Further lines of it stand below its first. -/
def indented (first next : String) (cause : String) : String :=
  first ++ ("\n" ++ next).intercalate (cause.splitOn "\n")

def causeLines : List String → List String
  | [] => []
  | [cause] => [indented "    " "    " cause]
  | causes =>
      causes.mapIdx fun number cause =>
        indented (Text.padLeft 5 (toString number) ++ ": ") "       " cause

def text (failure : Failure) : String :=
  match failure.causes with
  | [] => failure.message
  | causes => failure.message ++ "\n\nCaused by:\n" ++ "\n".intercalate (causeLines causes)

end Failure

end FrameFlow

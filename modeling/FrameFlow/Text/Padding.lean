/-! Texts filled up with spaces to the width of a column; longer texts are left whole. -/

namespace FrameFlow.Text

def filling (width : Nat) (text : String) : String :=
  String.ofList (List.replicate (width - text.length) ' ')

def padRight (width : Nat) (text : String) : String := text ++ filling width text

def padLeft (width : Nat) (text : String) : String := filling width text ++ text

end FrameFlow.Text

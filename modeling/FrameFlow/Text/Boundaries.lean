/-! Sets of numbers given by the points at which membership changes. -/

namespace FrameFlow.Text

/-- Whether a number lies in the set that begins and ends, in turn, at ascending
boundaries: it does when it has passed an odd number of them. -/
def withinBoundaries : List Nat → Nat → Bool
  | [], _ => false
  | boundary :: rest, number =>
      if number < boundary then false else !withinBoundaries rest number

end FrameFlow.Text

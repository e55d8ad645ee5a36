import FrameFlow.Record.Basic

/-!
The categories of a detection, one index of the parallel lists at a time. An index that
some list does not reach describes no category.
-/

namespace FrameFlow.Record

structure Category where
  label : String
  labelId : Int32
  score : Single
  displayName : String
  associated : AssociatedDetection
deriving DecidableEq

namespace Detection

def categoryCount (detection : Detection) : Nat := detection.scores.length

def category? (detection : Detection) (index : Nat) : Option Category := do
  return {
    label := ← detection.labels[index]?
    labelId := ← detection.labelIds[index]?
    score := ← detection.scores[index]?
    displayName := ← detection.displayNames[index]?
    associated := ← detection.associated[index]? }

def categories (detection : Detection) : List Category :=
  (List.range detection.categoryCount).filterMap detection.category?

end Detection

/-- The better of two categories: the higher score in the total order of bit patterns, and
of equal scores the later one. -/
def Category.better (earlier later : Category) : Category :=
  if later.score.orderKey < earlier.score.orderKey then earlier else later

def Category.best? : List Category → Option Category
  | [] => none
  | first :: rest => some (rest.foldl better first)

def Detection.bestCategory? (detection : Detection) : Option Category :=
  Category.best? detection.categories

end FrameFlow.Record

import FrameFlow.Proofs.Binary.TotalOrder
import FrameFlow.Proofs.Record.Parallel
import Mathlib.Data.List.Induction
import Mathlib.Order.Bounds.Basic

/-!
The categories of any record, its lists equally long or not. They are read up to the end of the
shortest list and none is skipped before; the best of them is the last one of those whose score
is highest in the total order of bit patterns.
-/

namespace FrameFlow.Record

/-- What stands at a place past an entry is one of the entries after it. -/
theorem mem_of_getElem?_beyond {α : Type} {before after : List α} {entry other : α} {index : Nat}
    (beyond : before.length < index) (found : (before ++ entry :: after)[index]? = some other) :
    other ∈ after := by
  obtain ⟨offset, rfl⟩ := Nat.exists_eq_add_of_lt beyond
  have place : before.length + offset + 1 - before.length = offset + 1 := by omega
  rw [List.getElem?_append_right (by omega), place, List.getElem?_cons_succ] at found
  exact List.mem_of_getElem? found

namespace Category

/-- A category between others of which no earlier one scores above it, and every later one
below it. -/
structure IsBestBetween (before after : List Category) (best : Category) : Prop where
  before : ∀ category ∈ before, category.score.AtMost best.score
  after : ∀ category ∈ after, category.score.Below best.score

variable {before after categories : List Category} {best category : Category}

theorem best?_concat (categories : List Category) (category : Category) :
    best? (categories ++ [category]) =
      some ((best? categories).elim category (better · category)) := by
  cases categories with
  | nil => rfl
  | cons first rest => rw [List.cons_append, best?, List.foldl_concat]; rfl

theorem best?_eq_none_iff : best? categories = none ↔ categories = [] := by
  cases categories with
  | nil => exact iff_of_true rfl rfl
  | cons first rest => exact iff_of_false nofun nofun

/-- One category more either scores below the best one and is put behind it, or scores at least
as high and is the best one of all. -/
theorem IsBestBetween.concat (stands : IsBestBetween before after best) (category : Category) :
    ∃ earlier later, before ++ best :: after ++ [category] =
        earlier ++ better best category :: later ∧
      IsBestBetween earlier later (better best category) := by
  by_cases lower : category.score.orderKey < best.score.orderKey
  · rw [better, if_pos lower]
    refine ⟨before, after ++ [category], by simp, stands.before, fun other member => ?_⟩
    rcases List.mem_append.mp member with old | new
    · exact stands.after other old
    · rw [List.mem_singleton.mp new]
      exact Single.below_iff.mpr lower
  · rw [better, if_neg lower]
    refine ⟨before ++ best :: after, [], rfl, fun other member => ?_, nofun⟩
    have most : other.score.orderKey ≤ best.score.orderKey := by
      rcases List.mem_append.mp member with first | rest
      · exact Single.atMost_iff.mp (stands.before other first)
      · rcases List.mem_cons.mp rest with rfl | last
        · exact Int.le_refl _
        · exact Int.le_of_lt (Single.below_iff.mp (stands.after other last))
    exact Single.atMost_iff.mpr (by omega)

theorem exists_between_of_best? (found : best? categories = some best) :
    ∃ before after, categories = before ++ best :: after ∧ IsBestBetween before after best := by
  induction categories using List.reverseRecOn generalizing best with
  | nil => contradiction
  | append_singleton categories category ih =>
      rw [best?_concat, Option.some.injEq] at found
      cases earlier : best? categories with
      | none =>
          rw [earlier, Option.elim_none] at found
          rw [best?_eq_none_iff.mp earlier, found]
          exact ⟨[], [], rfl, nofun, nofun⟩
      | some previous =>
          rw [earlier, Option.elim_some] at found
          obtain ⟨before, after, rfl, stands⟩ := ih earlier
          rw [← found]
          exact stands.concat category

/-- A category with what the five lists of a record have at an index. -/
structure IsAt (category : Category) (record : Detection) (index : Nat) : Prop where
  label : record.labels[index]? = some category.label
  labelId : record.labelIds[index]? = some category.labelId
  score : record.scores[index]? = some category.score
  displayName : record.displayNames[index]? = some category.displayName
  associated : record.associated[index]? = some category.associated

end Category

namespace Detection

variable {record : Detection} {index : Nat} {category : Category}

/-- How many entries each list of a record has. -/
def lengths (record : Detection) : List Nat :=
  [record.labels.length, record.labelIds.length, record.scores.length,
    record.displayNames.length, record.associated.length]

/-- How many indices there are that all lists of a record reach. -/
def reach (record : Detection) : Nat :=
  min record.labels.length <| min record.labelIds.length <| min record.scores.length <|
    min record.displayNames.length record.associated.length

/-- An index within all lists, with a score that none within them exceeds. -/
def IsTop (record : Detection) (index : Nat) : Prop :=
  index < record.reach ∧ ∃ score, record.scores[index]? = some score ∧
    ∀ other < record.reach, ∃ rival, record.scores[other]? = some rival ∧ rival.AtMost score

theorem isLeast_reach (record : Detection) :
    IsLeast { length | length ∈ record.lengths } record.reach := by
  constructor
  · change record.reach ∈ record.lengths
    simp only [lengths, reach, List.mem_cons, List.not_mem_nil, or_false]
    omega
  · intro length member
    change length ∈ record.lengths at member
    simp only [lengths, List.mem_cons, List.not_mem_nil, or_false] at member
    simp only [reach]
    omega

theorem category?_eq_some_iff_isAt :
    record.category? index = some category ↔ category.IsAt record index :=
  category?_eq_some_iff.trans
    ⟨fun ⟨label, labelId, score, displayName, associated⟩ =>
      ⟨label, labelId, score, displayName, associated⟩,
    fun ⟨label, labelId, score, displayName, associated⟩ =>
      ⟨label, labelId, score, displayName, associated⟩⟩

theorem exists_category?_iff : (∃ category, record.category? index = some category) ↔
    index < record.reach := by
  simp only [category?_eq_some_iff, reach, Nat.lt_min]
  constructor
  · rintro ⟨category, labels, labelIds, scores, displayNames, associated⟩
    exact ⟨(List.getElem?_eq_some_iff.mp labels).1, (List.getElem?_eq_some_iff.mp labelIds).1,
      (List.getElem?_eq_some_iff.mp scores).1, (List.getElem?_eq_some_iff.mp displayNames).1,
      (List.getElem?_eq_some_iff.mp associated).1⟩
  · rintro ⟨labels, labelIds, scores, displayNames, associated⟩
    exact ⟨⟨record.labels[index], record.labelIds[index], record.scores[index],
      record.displayNames[index], record.associated[index]⟩, List.getElem?_eq_getElem labels,
      List.getElem?_eq_getElem labelIds, List.getElem?_eq_getElem scores,
      List.getElem?_eq_getElem displayNames, List.getElem?_eq_getElem associated⟩

theorem category?_eq_none_iff : record.category? index = none ↔ record.reach ≤ index := by
  rw [← Nat.not_lt, ← exists_category?_iff, Option.eq_none_iff_forall_ne_some, not_exists]

/-- Going through the indices, a category is found at each one until a list ends, and none
after that. -/
theorem filterMap_category? (record : Detection) (count : Nat) :
    ((List.range count).filterMap record.category?).map some =
      (List.range (min count record.reach)).map record.category? := by
  induction count with
  | zero => rw [Nat.zero_min]; rfl
  | succ count ih =>
      rw [List.range_succ, List.filterMap_append, List.map_append, ih]
      by_cases inside : count < record.reach
      · obtain ⟨category, found⟩ := exists_category?_iff.mpr inside
        rw [Nat.min_eq_left (Nat.le_of_lt inside), Nat.min_eq_left inside, List.range_succ,
          List.map_append, List.filterMap_cons_some found, List.map_singleton, found]
        rfl
      · have outside := category?_eq_none_iff.mpr (Nat.le_of_not_lt inside)
        rw [List.filterMap_cons_none outside, List.filterMap_nil, List.map_nil, List.append_nil,
          Nat.min_eq_right (Nat.le_of_not_lt inside), Nat.min_eq_right (by omega)]

theorem map_categories (record : Detection) :
    record.categories.map some = (List.range record.reach).map record.category? := by
  rw [categories, filterMap_category?, Nat.min_eq_right]
  simp only [categoryCount, reach]
  omega

theorem length_categories (record : Detection) : record.categories.length = record.reach := by
  simpa only [List.length_map, List.length_range] using congrArg List.length record.map_categories

theorem getElem?_categories (record : Detection) (index : Nat) :
    record.categories[index]? = record.category? index := by
  have same := congrArg (·[index]?) record.map_categories
  simp only [List.getElem?_map] at same
  by_cases inside : index < record.reach
  · obtain ⟨category, found⟩ := exists_category?_iff.mpr inside
    rw [List.getElem?_range inside, Option.map_some, found] at same
    obtain ⟨other, there, equal⟩ := Option.map_eq_some_iff.mp same
    rw [there, equal, found]
  · have outside := Nat.le_of_not_lt inside
    rw [category?_eq_none_iff.mpr outside, List.getElem?_eq_none_iff, length_categories]
    exact outside

theorem isAt_iff : category.IsAt record index ↔ record.categories[index]? = some category := by
  rw [getElem?_categories, category?_eq_some_iff_isAt]

theorem exists_isAt (inside : index < record.reach) :
    ∃ category : Category, category.IsAt record index := by
  obtain ⟨category, found⟩ := exists_category?_iff.mpr inside
  exact ⟨category, category?_eq_some_iff_isAt.mp found⟩

theorem isTop_iff (here : category.IsAt record index) :
    record.IsTop index ↔ ∀ other ∈ record.categories, other.score.AtMost category.score := by
  have inside : index < record.reach :=
    exists_category?_iff.mp ⟨category, category?_eq_some_iff_isAt.mpr here⟩
  constructor
  · rintro ⟨-, score, own, highest⟩ other member
    obtain ⟨place, found⟩ := List.mem_iff_getElem?.mp member
    have there := isAt_iff.mpr found
    obtain ⟨rival, its, most⟩ :=
      highest place (exists_category?_iff.mp ⟨other, category?_eq_some_iff_isAt.mpr there⟩)
    rw [here.score, Option.some.injEq] at own
    rw [there.score, Option.some.injEq] at its
    rwa [own, its]
  · intro highest
    refine ⟨inside, category.score, here.score, fun other within => ?_⟩
    obtain ⟨rival, there⟩ := exists_isAt within
    exact ⟨rival.score, there.score,
      highest rival (List.mem_iff_getElem?.mpr ⟨other, isAt_iff.mp there⟩)⟩

/-- The best category stands at the last index with a highest score. -/
theorem exists_isGreatest (found : record.bestCategory? = some category) :
    ∃ index, IsGreatest { index | record.IsTop index } index ∧ category.IsAt record index := by
  obtain ⟨before, after, split, stands⟩ := Category.exists_between_of_best? found
  have place : record.categories[before.length]? = some category := by
    rw [split, List.getElem?_append_right (Nat.le_refl _), Nat.sub_self, List.getElem?_cons_zero]
  have here := isAt_iff.mpr place
  have highest : record.IsTop before.length := by
    refine (isTop_iff here).mpr fun other member => ?_
    rw [split, List.mem_append, List.mem_cons] at member
    rcases member with earlier | rfl | later
    · exact stands.before other earlier
    · exact .inl rfl
    · exact .inr (stands.after other later)
  refine ⟨before.length, ⟨highest, fun index top => ?_⟩, here⟩
  by_contra beyond
  -- A later index would have a score below this one, which none of the highest has.
  obtain ⟨other, there⟩ := exists_isAt top.1
  have member : other ∈ after :=
    mem_of_getElem?_beyond (Nat.lt_of_not_le beyond) (split ▸ isAt_iff.mp there)
  have below := Single.below_iff.mp (stands.after other member)
  have most := Single.atMost_iff.mp ((isTop_iff there).mp top category (List.mem_of_getElem? place))
  omega

theorem bestCategory?_eq_none_iff : record.bestCategory? = none ↔ record.reach = 0 := by
  rw [bestCategory?, Category.best?_eq_none_iff, ← length_categories, List.length_eq_zero_iff]

/-- The categories of a record are those at the indices that all its lists reach, each read from
all lists at its own index. Unless there are none, the best one is at the last of the indices whose
score is highest. -/
theorem categories_within_reach (record : Detection) :
    IsLeast { length | length ∈ record.lengths } record.reach ∧
      record.categories.length = record.reach ∧
      (∀ index, ∀ category : Category, record.categories[index]? = some category ↔
        category.IsAt record index) ∧
      (record.bestCategory? = none ↔ record.reach = 0) ∧
      ∀ category, record.bestCategory? = some category ↔
        ∃ index, IsGreatest { index | record.IsTop index } index ∧
          category.IsAt record index := by
  refine ⟨record.isLeast_reach, record.length_categories, fun _ _ => isAt_iff.symm,
    bestCategory?_eq_none_iff, fun category => ⟨exists_isGreatest, ?_⟩⟩
  rintro ⟨index, greatest, here⟩
  cases found : record.bestCategory? with
  | none =>
      have empty := bestCategory?_eq_none_iff.mp found
      have inside := greatest.1.1
      omega
  | some best =>
      obtain ⟨place, also, there⟩ := exists_isGreatest found
      rw [also.unique greatest] at there
      exact (isAt_iff.mp there).symm.trans (isAt_iff.mp here)

-- Zero is above minus zero and above a negative pattern that is not a number; the later zero is
-- taken. There is no label for the score of one.
example : Detection.bestCategory? {
    labels := ["a", "b", "c", "d"], labelIds := [1, 2, 3, 4, 5],
    scores := [⟨0⟩, ⟨0xffc00000⟩, ⟨0⟩, ⟨0x80000000⟩, ⟨0x3f800000⟩],
    displayNames := ["A", "B", "C", "D", "E"], associated := [{}, {}, {}, {}, {}, {}] } =
    some ⟨"c", 3, ⟨0⟩, "C", {}⟩ := by
  decide

end Detection

end FrameFlow.Record

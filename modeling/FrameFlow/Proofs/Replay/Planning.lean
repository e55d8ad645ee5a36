import FrameFlow.Proofs.Binary.TotalOrder
import FrameFlow.Replay.Plan
import Mathlib.Data.List.Induction
import Mathlib.Data.List.TakeWhile
import Mathlib.Data.Nat.Digits.Defs

/-!
Which flags make a plan. Sizes have a grammar of their own; it is stated here without the
reader, and flags are refused for the first thing that is wrong with them.
-/

namespace FrameFlow

namespace Text

variable {text before core after : List Char}

/-- A word without blanks is what is left when the blanks around it are trimmed. -/
theorem trim_of_blanks (leading : ∀ c ∈ before, isBlank c = true)
    (solid : ∀ c ∈ core, isBlank c = false) (trailing : ∀ c ∈ after, isBlank c = true) :
    trim (before ++ (core ++ after)) = core := by
  have kept {word rest : List Char} (nonblank : ∀ c ∈ word, isBlank c = false)
      (some : word ≠ []) : (word ++ rest).dropWhile isBlank = word ++ rest := by
    obtain ⟨first, others, rfl⟩ := List.exists_cons_of_ne_nil some
    exact List.dropWhile_cons_of_neg (by simp [nonblank first List.mem_cons_self])
  rw [trim, List.dropWhile_append_of_pos leading]
  by_cases empty : core = []
  · rw [empty, List.nil_append, List.dropWhile_eq_nil_iff.mpr trailing]
    rfl
  · rw [kept solid empty, List.reverse_append,
      List.dropWhile_append_of_pos fun c member => trailing c (List.mem_reverse.mp member)]
    have back := @kept core.reverse [] (fun c member => solid c (List.mem_reverse.mp member))
      (mt List.reverse_eq_nil_iff.mp empty)
    rw [List.append_nil] at back
    rw [back, List.reverse_reverse]

theorem exists_of_trim (text : List Char) :
    ∃ before after, text = before ++ (trim text ++ after) ∧
      (∀ c ∈ before, isBlank c = true) ∧ ∀ c ∈ after, isBlank c = true := by
  let rest := text.dropWhile isBlank
  refine ⟨text.takeWhile isBlank, (rest.reverse.takeWhile isBlank).reverse, ?_,
    fun c member => List.mem_takeWhile_imp member,
    fun c member => List.mem_takeWhile_imp (List.mem_reverse.mp member)⟩
  have whole : trim text ++ (rest.reverse.takeWhile isBlank).reverse = rest := by
    rw [trim, ← List.reverse_append, List.takeWhile_append_dropWhile, List.reverse_reverse]
  rw [whole, List.takeWhile_append_dropWhile]

end Text

namespace Decimal

theorem isDigit_iff {c : Char} : c.isDigit = true ↔ '0' ≤ c ∧ c ≤ '9' := by
  rw [Char.isDigit, Bool.and_eq_true, decide_eq_true_eq, decide_eq_true_eq]
  exact Iff.rfl

theorem value_eq_ofDigits (digits : List Char) :
    value digits = Nat.ofDigits 10 (digits.reverse.map fun c => c.toNat - '0'.toNat) := by
  induction digits using List.reverseRecOn with
  | nil => rfl
  | append_singleton digits last ih =>
      rw [value, List.foldl_append, List.foldl_cons, List.foldl_nil, ← value, ih,
        List.reverse_append, List.reverse_singleton, List.singleton_append, List.map_cons,
        Nat.ofDigits_cons, Nat.add_comm, Nat.mul_comm]

theorem digits?_eq_some_iff {text : List Char} {number : Nat} :
    digits? text = some number ↔
      text ≠ [] ∧ (∀ c ∈ text, '0' ≤ c ∧ c ≤ '9') ∧ number = value text := by
  simp only [digits?, List.all_eq_true, isDigit_iff, Option.ite_none_right_eq_some,
    Option.some.injEq, and_assoc, eq_comm (a := number)]

theorem natural?_eq_some_iff {text : List Char} {number : Nat} :
    natural? text = some number ↔
      ∃ plus digits, text = plus ++ digits ∧ (plus = [] ∨ plus = ['+']) ∧
        digits? digits = some number := by
  constructor
  · intro read
    unfold natural? at read
    split at read
    · exact ⟨['+'], _, rfl, .inr rfl, read⟩
    · exact ⟨[], text, rfl, .inl rfl, read⟩
  · rintro ⟨plus, digits, rfl, rfl | rfl, read⟩
    · unfold natural?
      split
      · rename_i rest signed
        rw [List.nil_append] at signed
        obtain ⟨_, all, _⟩ := digits?_eq_some_iff.mp read
        exact absurd (all '+' (signed ▸ List.mem_cons_self)).1 (by decide)
      · exact read
    · exact read

end Decimal

/-- A text that writes a number: digits, any number of them, perhaps after a plus, with
nothing around them but blanks. -/
def Writes (text : List Char) (number : Nat) : Prop :=
  ∃ before plus digits after, text = before ++ (plus ++ digits ++ after) ∧
    (∀ c ∈ before ++ after, Text.isBlank c = true) ∧ (plus = [] ∨ plus = ['+']) ∧
    digits ≠ [] ∧ (∀ c ∈ digits, '0' ≤ c ∧ c ≤ '9') ∧
    number = Nat.ofDigits 10 (digits.reverse.map fun c => c.toNat - '0'.toNat)

/-- A text that writes a size: two numbers of 32 bits, either side of the first `x`. -/
def WritesSize (text : String) (width height : Nat) : Prop :=
  ∃ first separator second, text.toList = first ++ separator :: second ∧
    (separator = 'x' ∨ separator = 'X') ∧ (∀ c ∈ first, c ≠ 'x' ∧ c ≠ 'X') ∧
    (Writes first width ∧ width < 2 ^ 32) ∧ Writes second height ∧ height < 2 ^ 32

theorem isBlank_of_isDigit {c : Char} (digit : '0' ≤ c ∧ c ≤ '9') : Text.isBlank c = false := by
  obtain ⟨least, greatest⟩ := digit
  have least : 48 ≤ c.toNat := least
  have greatest : c.toNat ≤ 57 := greatest
  simp only [Text.isBlank, Bool.or_eq_false_iff, Bool.and_eq_false_iff, decide_eq_false_iff_not,
    beq_eq_false_iff_ne]
  omega

theorem dimension?_eq_some_iff {text : List Char} {number : Nat} :
    dimension? text = some number ↔ Writes text number ∧ number < 2 ^ 32 := by
  rw [dimension?, Option.filter_eq_some_iff, decide_eq_true_eq, and_congr_left_iff]
  intro _
  rw [Decimal.natural?_eq_some_iff]
  constructor
  · rintro ⟨plus, digits, word, sign, read⟩
    obtain ⟨some, all, rfl⟩ := Decimal.digits?_eq_some_iff.mp read
    obtain ⟨before, after, whole, leading, trailing⟩ := Text.exists_of_trim text
    rw [word] at whole
    refine ⟨before, plus, digits, after, whole, fun c member => ?_, sign, some, all,
      Decimal.value_eq_ofDigits digits⟩
    exact (List.mem_append.mp member).elim (leading c) (trailing c)
  · rintro ⟨before, plus, digits, after, rfl, blank, sign, some, all, rfl⟩
    have solid : ∀ c ∈ plus ++ digits, Text.isBlank c = false := by
      intro c member
      rcases List.mem_append.mp member with signed | digit
      · rcases sign with rfl | rfl
        · contradiction
        · rw [List.mem_singleton.mp signed]
          decide
      · exact isBlank_of_isDigit (all c digit)
    refine ⟨plus, digits, ?_, sign, Decimal.digits?_eq_some_iff.mpr
      ⟨some, all, (Decimal.value_eq_ofDigits digits).symm⟩⟩
    exact Text.trim_of_blanks (fun c member => blank c (List.mem_append_left _ member)) solid
      fun c member => blank c (List.mem_append_right _ member)

theorem isSizeSeparator_iff {c : Char} : isSizeSeparator c = true ↔ c = 'x' ∨ c = 'X' := by
  rw [isSizeSeparator, Bool.or_eq_true, beq_iff_eq, beq_iff_eq]

/-- The first separator divides a text; a second one is in the part after it. -/
theorem dimensions?_eq_some_iff {text : String} {width height : Nat} :
    dimensions? text.toList = some (width, height) ↔ WritesSize text width height := by
  have plain {c : Char} : (!isSizeSeparator c) = true ↔ c ≠ 'x' ∧ c ≠ 'X' := by
    rw [Bool.not_eq_true', ← Bool.not_eq_true, isSizeSeparator_iff, not_or]
  unfold dimensions?
  constructor
  · intro read
    split at read
    · cases read
    · rename_i separator second divided
      obtain ⟨_, first, rest⟩ := Option.bind_eq_some_iff.mp read
      obtain ⟨_, later, same⟩ := Option.bind_eq_some_iff.mp rest
      cases same
      refine ⟨text.toList.takeWhile (!isSizeSeparator ·), separator, second, ?_, ?_, ?_,
        dimension?_eq_some_iff.mp first, dimension?_eq_some_iff.mp later⟩
      · rw [← divided, List.takeWhile_append_dropWhile]
      · have stopped := List.head?_dropWhile_not (!isSizeSeparator ·) text.toList
        rw [divided] at stopped
        exact isSizeSeparator_iff.mp (by simpa using stopped)
      · intro c member
        have passed := List.mem_takeWhile_imp member
        exact plain.mp passed
  · rintro ⟨first, separator, second, whole, divides, clean, wide, high⟩
    have passes : ∀ c ∈ first, (!isSizeSeparator c) = true := fun c member =>
      plain.mpr (clean c member)
    have stops : ¬ (!isSizeSeparator separator) = true := by
      simp [isSizeSeparator_iff.mpr divides]
    have divided : text.toList.dropWhile (!isSizeSeparator ·) = separator :: second := by
      rw [whole, List.dropWhile_append_of_pos passes]
      exact List.dropWhile_cons_of_neg stops
    have kept : text.toList.takeWhile (!isSizeSeparator ·) = first := by
      have halves := List.takeWhile_append_dropWhile (p := (!isSizeSeparator ·)) (l := text.toList)
      rw [divided] at halves
      exact List.append_cancel_right (halves.trans whole)
    rw [divided, kept]
    simp only [dimension?_eq_some_iff.mpr wide, dimension?_eq_some_iff.mpr high]
    rfl

theorem frameSize_eq_ok_iff {text : String} {width height : Nat} :
    frameSize text = .ok (width, height) ↔
      WritesSize text width height ∧ 0 < width ∧ 0 < height := by
  rw [← dimensions?_eq_some_iff, frameSize]
  constructor
  · intro sized
    split at sized
    · contradiction
    · rename_i read
      split at sized
      · contradiction
      · cases sized
        exact ⟨read, by omega, by omega⟩
  · rintro ⟨read, wide, high⟩
    have some : ¬ (width = 0 ∨ height = 0) := by omega
    simp only [read, if_neg some]

/-- A text that writes no size is told from one that writes an empty size. -/
theorem frameSize_eq_error_iff {text : String} {error : PlanError} :
    frameSize text = .error error ↔
      (error = .malformedSize text ∧ ∀ width height, ¬ WritesSize text width height) ∨
        error = .emptySize ∧ ∃ width height, WritesSize text width height ∧
          (width = 0 ∨ height = 0) := by
  simp only [← dimensions?_eq_some_iff, frameSize]
  cases read : dimensions? text.toList with
  | none => simp [eq_comm]
  | some size =>
      obtain ⟨width, height⟩ := size
      by_cases empty : width = 0 ∨ height = 0
      · simp [empty, eq_comm]
      · simp [empty]

/-- A rate of frames: the bits are below those of infinity and have no sign, or are those of
minus zero. -/
def Single.IsRate (number : Single) : Prop :=
  number.bits.toNat < 0x7f800000 ∨ number.bits.toNat = 0x80000000

namespace Single

variable {number : Single}

theorem isFinite_iff : number.isFinite = true ↔ number.code < 0x7f800000 := by
  change number.isFinite = true ↔ number.code < Binary.single.infinityCode
  constructor
  · intro finite
    by_contra great
    rcases Nat.eq_or_lt_of_le (Nat.le_of_not_lt great) with same | beyond
    · rw [isFinite, magnitude, ← same, Binary.Format.magnitude_infinity] at finite
      contradiction
    · rw [isFinite, magnitude, Binary.single.magnitude_of_infinity_lt beyond] at finite
      contradiction
  · intro small
    obtain ⟨_, _, finite, _⟩ := Binary.single.magnitude_of_lt_infinity small
    rw [isFinite, magnitude, finite]

/-- Of the finite bit patterns those without a sign are rates, and minus zero is. -/
theorem isRate_iff : (number.isNonnegative && number.isFinite) = true ↔ number.IsRate := by
  have width : number.bits.toNat < 2 ^ 32 := number.bits.toNat_lt
  have code : number.code = number.bits.toNat % 2 ^ 31 := rfl
  have sign : number.isNegative = false ↔ ¬ 2 ^ 31 ≤ number.bits.toNat := decide_eq_false_iff_not
  have least (small : number.code < 0x7f800000) :
      number.isNonnegative = true ↔ number.code = 0 ∨ number.isNegative = false := by
    obtain ⟨_, _, finite, _⟩ := Binary.single.magnitude_of_lt_infinity small
    have known : number.isNotANumber = false := by
      rw [isNotANumber, magnitude, finite]
      rfl
    rw [isNonnegative, known, Bool.not_false, Bool.true_and, Bool.or_eq_true, beq_iff_eq,
      Bool.not_eq_true']
  rw [Bool.and_eq_true, isFinite_iff, IsRate]
  constructor
  · rintro ⟨nonnegative, small⟩
    rw [least small, sign] at nonnegative
    omega
  · intro bits
    have small : number.code < 0x7f800000 := by omega
    rw [least small, sign]
    omega

end Single

namespace Flags

variable {flags : Flags} {plan : ReplayPlan}

/-- The size has no side of zero. -/
def IsSized (flags : Flags) : Prop :=
  ∃ width height, WritesSize flags.size width height ∧ 0 < width ∧ 0 < height

/-- The distance of timestamps, where one is given, goes forward. -/
def IsStepped (flags : Flags) : Prop := ∀ step, flags.timestampStep = some step → 0 < step

/-- What flags are refused for: everything that is checked before is right. -/
inductive Refuses (flags : Flags) : PlanError → Prop
  | malformedSize : (∀ width height, ¬ WritesSize flags.size width height) →
      Refuses flags (.malformedSize flags.size)
  | emptySize {width height} : WritesSize flags.size width height → width = 0 ∨ height = 0 →
      Refuses flags .emptySize
  | frameRate : flags.IsSized → ¬ flags.fps.IsRate → Refuses flags .frameRate
  | timestampStep : flags.IsSized → flags.fps.IsRate → ¬ flags.IsStepped →
      Refuses flags .timestampStep
  | pollerCapacity : flags.IsSized → flags.fps.IsRate → flags.IsStepped →
      flags.pollerCapacity = some 0 → Refuses flags .pollerCapacity

/-- What a plan has from the flags that made it. -/
structure Makes (flags : Flags) (plan : ReplayPlan) : Prop where
  size : WritesSize flags.size plan.width plan.height
  solid : 0 < plan.width ∧ 0 < plan.height
  input : plan.input =
    match flags.input with
    | some path => .rawFile path flags.frames
    | none => .synthetic (flags.frames.getD 30) flags.fps
  others : plan = {
    graph := flags.graph, preset := flags.task, mode := flags.mode, input := plan.input
    width := plan.width, height := plan.height, timestampStep := flags.timestampStep
    streams := flags.streams, preview := flags.preview, pollerCapacity := flags.pollerCapacity
    chromeTrace := flags.chromeTrace, metrics := flags.metrics }

theorem any_step_iff : flags.timestampStep.any (· ≤ 0) = true ↔ ¬ flags.IsStepped := by
  unfold IsStepped
  cases flags.timestampStep with
  | none => simp
  | some step => simp

theorem plan_eq_ok_iff :
    flags.plan = .ok plan ↔ flags.Makes plan ∧ flags.fps.IsRate ∧ flags.IsStepped ∧
      flags.pollerCapacity ≠ some 0 := by
  unfold Flags.plan
  constructor
  · intro made
    split at made
    · contradiction
    · rename_i width height sized
      obtain ⟨size, solid⟩ := frameSize_eq_ok_iff.mp sized
      split at made
      · contradiction
      · rename_i rate
        split at made
        · contradiction
        · rename_i stepped
          split at made
          · contradiction
          · rename_i roomy
            cases made
            rw [any_step_iff, not_not] at stepped
            rw [Bool.not_eq_true', Bool.not_eq_false, Single.isRate_iff] at rate
            exact ⟨⟨size, solid, rfl, rfl⟩, rate, stepped, roomy⟩
  · rintro ⟨made, rate, stepped, roomy⟩
    have paced : ¬ flags.timestampStep.any (· ≤ 0) = true := by
      rwa [any_step_iff, not_not]
    have input : plan.input = flags.frameInput := made.input
    simp only [frameSize_eq_ok_iff.mpr ⟨made.size, made.solid⟩, Single.isRate_iff.mpr rate,
      paced, roomy, ← input]
    exact congrArg Except.ok made.others.symm

theorem refuses_of_plan {error : PlanError} (refused : flags.plan = .error error) :
    flags.Refuses error := by
  unfold Flags.plan at refused
  split at refused
  · rename_i other unsized
    cases refused
    rcases frameSize_eq_error_iff.mp unsized with ⟨rfl, none⟩ | ⟨rfl, width, height, size, empty⟩
    · exact .malformedSize none
    · exact .emptySize size empty
  · rename_i width height known
    have sized : flags.IsSized := ⟨width, height, frameSize_eq_ok_iff.mp known⟩
    split at refused
    · rename_i odd
      cases refused
      refine .frameRate sized fun rate => ?_
      rw [Single.isRate_iff.mpr rate] at odd
      contradiction
    · rename_i rate
      rw [Bool.not_eq_true', Bool.not_eq_false, Single.isRate_iff] at rate
      split at refused
      · rename_i back
        cases refused
        exact .timestampStep sized rate (any_step_iff.mp back)
      · rename_i stepped
        rw [any_step_iff, not_not] at stepped
        split at refused
        · rename_i full
          cases refused
          exact .pollerCapacity sized rate stepped full
        · contradiction

theorem plan_of_refuses {error : PlanError} (refuses : flags.Refuses error) :
    flags.plan = .error error := by
  -- What is checked before does not refuse the flags.
  have sizes (sized : flags.IsSized) : ∃ size, frameSize flags.size = .ok size := by
    obtain ⟨width, height, known⟩ := sized
    exact ⟨_, frameSize_eq_ok_iff.mpr known⟩
  have paced (stepped : flags.IsStepped) : ¬ flags.timestampStep.any (· ≤ 0) = true := by
    rwa [any_step_iff, not_not]
  unfold Flags.plan
  cases refuses with
  | malformedSize none =>
      have unsized := frameSize_eq_error_iff.mpr (.inl ⟨rfl, none⟩)
      simp only [unsized]
  | emptySize size empty =>
      have unsized := frameSize_eq_error_iff.mpr (.inr ⟨rfl, _, _, size, empty⟩)
      simp only [unsized]
  | frameRate sized odd =>
      obtain ⟨size, known⟩ := sizes sized
      rw [← Single.isRate_iff, Bool.not_eq_true] at odd
      simp only [known, odd, Bool.not_false, if_true]
  | timestampStep sized rate back =>
      obtain ⟨size, known⟩ := sizes sized
      simp only [known, Single.isRate_iff.mpr rate, any_step_iff.mpr back, Bool.not_true,
        Bool.false_eq_true, if_false, if_true]
  | pollerCapacity sized rate stepped full =>
      obtain ⟨size, known⟩ := sizes sized
      simp only [known, Single.isRate_iff.mpr rate, if_neg (paced stepped), full, Bool.not_true,
        Bool.false_eq_true, if_false, if_true]

/-- Flags make a plan just if their size, rate, step and capacity are right. The plan has what
they say, so its frames are not empty; flags that make none are refused for the first of these
that is wrong. -/
theorem planned_iff (flags : Flags) :
    ((∃ plan, flags.plan = .ok plan) ↔ flags.IsSized ∧ flags.fps.IsRate ∧ flags.IsStepped ∧
        flags.pollerCapacity ≠ some 0) ∧
      (∀ plan, flags.plan = .ok plan → flags.Makes plan ∧
        ∀ error, Frame.byteCount plan.width plan.height ≠ .error error) ∧
      ∀ error, flags.plan = .error error ↔ flags.Refuses error := by
  refine ⟨⟨?_, ?_⟩, fun plan made => ?_, fun error => ⟨refuses_of_plan, plan_of_refuses⟩⟩
  · rintro ⟨plan, made⟩
    obtain ⟨makes, right⟩ := plan_eq_ok_iff.mp made
    exact ⟨⟨plan.width, plan.height, makes.size, makes.solid⟩, right⟩
  · rintro ⟨⟨width, height, size, solid⟩, right⟩
    refine ⟨_, plan_eq_ok_iff.mpr ⟨(⟨size, solid, rfl, rfl⟩ : flags.Makes {
      graph := flags.graph, preset := flags.task, mode := flags.mode, input := flags.frameInput
      width, height, timestampStep := flags.timestampStep
      streams := flags.streams, preview := flags.preview, pollerCapacity := flags.pollerCapacity
      chromeTrace := flags.chromeTrace, metrics := flags.metrics }), right⟩⟩
  · obtain ⟨makes, _⟩ := plan_eq_ok_iff.mp made
    have solid : ¬ (plan.width = 0 ∨ plan.height = 0) :=
      not_or.mpr ⟨Nat.ne_of_gt makes.solid.1, Nat.ne_of_gt makes.solid.2⟩
    refine ⟨makes, fun error empty => ?_⟩
    rw [Frame.byteCount, if_neg solid] at empty
    contradiction

end Flags

end FrameFlow

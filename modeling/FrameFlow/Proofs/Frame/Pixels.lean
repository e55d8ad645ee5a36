import FrameFlow.Frame
import Mathlib.Data.List.Basic

/-!
The pixels of a frame tile its buffer. Read row by row they are all bytes of the buffer, in
order, and every byte belongs to one pixel.
-/

namespace FrameFlow

/-- The items of a list over and over. -/
def Repeats {α : Type} (whole : List α) (items : Array α) : Prop :=
  ∀ index < items.size, items[index]? = whole[index % whole.length]?

section Cycles

variable {α : Type} {whole : List α} {made : Array α}

theorem Repeats.push {item : α} (repeats : Repeats whole made)
    (next : whole[made.size % whole.length]? = some item) : Repeats whole (made.push item) := by
  intro index inside
  rw [Array.size_push] at inside
  rw [Array.getElem?_push]
  split
  · rename_i last
    rw [last, next]
  · exact repeats index (by omega)

/-- What is appended goes on where the items stand in their round; behind a full round it
begins again. -/
theorem repeats_pushCycle (count : Nat) {place : Nat} (within : place ≤ whole.length)
    (same : place % whole.length = made.size % whole.length) (repeats : Repeats whole made) :
    Repeats whole (pushCycle whole (whole.drop place) count made) := by
  induction count generalizing made place with
  | zero =>
      cases whole.drop place <;> exact repeats
  | succ count ih =>
      rcases Nat.lt_or_eq_of_le within with inRound | rfl
      · rw [List.drop_eq_getElem_cons inRound]
        refine ih inRound ?_ (repeats.push ?_)
        · rw [Array.size_push, Nat.add_mod, same, ← Nat.add_mod]
        · rw [← same, Nat.mod_eq_of_lt inRound, List.getElem?_eq_getElem inRound]
      · rw [List.drop_length]
        cases whole with
        | nil => exact repeats
        | cons first rest =>
            refine @ih _ 1 (by simp) ?_ (repeats.push ?_)
            · rw [Nat.mod_self] at same
              rw [Array.size_push, Nat.add_mod, ← same, Nat.zero_add, Nat.mod_mod]
            · rw [← same, Nat.mod_self]
              rfl

theorem size_pushCycle (nonempty : whole ≠ []) (rest : List α) (count : Nat) :
    (pushCycle whole rest count made).size = made.size + count := by
  induction count generalizing rest made with
  | zero => cases rest <;> rfl
  | succ count ih =>
      have more (item : α) (rest : List α) :
          (pushCycle whole rest count (made.push item)).size = made.size + (count + 1) := by
        rw [ih, Array.size_push]
        omega
      cases rest with
      | cons item rest => exact more item rest
      | nil =>
          cases whole with
          | nil => contradiction
          | cons first others => exact more first others

end Cycles

namespace Frame

variable {frame : Frame} {width height : Nat}

theorem ofData_eq_ok_iff {data : Array UInt8} :
    ofData width height data = .ok frame ↔
      frame.width = width ∧ frame.height = height ∧ frame.data = data := by
  unfold ofData
  constructor
  · intro built
    split at built
    · contradiction
    · split at built
      · cases built
        exact ⟨rfl, rfl, rfl⟩
      · contradiction
  · rintro ⟨rfl, rfl, rfl⟩
    have counted := byteCount_eq_ok_iff.mpr
      ⟨⟨frame.width_pos, frame.height_pos⟩, frame.size_data.symm⟩
    split
    · rename_i error failed
      cases counted.symm.trans failed
    · rename_i count same
      obtain rfl := Except.ok.inj (counted.symm.trans same)
      rw [dif_pos rfl]

/-- A buffer is a frame of a size just if it has the bytes that are counted for it. -/
theorem exists_ofData_iff {data : Array UInt8} :
    (∃ frame, ofData width height data = .ok frame) ↔
      0 < width ∧ 0 < height ∧ data.size = frameBytes width height := by
  simp only [ofData_eq_ok_iff]
  constructor
  · rintro ⟨frame, rfl, rfl, rfl⟩
    exact ⟨frame.width_pos, frame.height_pos, frame.size_data⟩
  · rintro ⟨wide, high, size⟩
    exact ⟨⟨width, height, data, wide, high, size⟩, rfl, rfl, rfl⟩

theorem filled_eq (positive : 0 < width ∧ 0 < height) (colour : Pixel) :
    filled width height colour =
      ofData width height
        (pushCycle colour.toList colour.toList (frameBytes width height) #[]) := by
  simp only [filled, byteCount_eq_ok_iff.mpr ⟨positive, rfl⟩]

theorem positive_of_filled {colour : Pixel} (built : filled width height colour = .ok frame) :
    0 < width ∧ 0 < height := by
  unfold filled at built
  split at built
  · contradiction
  · rename_i counted
    exact (byteCount_eq_ok_iff.mp counted).1

theorem exists_filled_iff {colour : Pixel} :
    (∃ frame, filled width height colour = .ok frame) ↔ 0 < width ∧ 0 < height := by
  refine ⟨fun ⟨frame, built⟩ => positive_of_filled built, fun positive => ?_⟩
  rw [filled_eq positive]
  refine exists_ofData_iff.mpr ⟨positive.1, positive.2, ?_⟩
  have nonempty : colour.toList ≠ [] := List.cons_ne_nil _ _
  rw [size_pushCycle nonempty, Array.size_empty, Nat.zero_add]

/-- A frame of one colour repeats its bytes to the end. -/
theorem repeats_of_filled {colour : Pixel} (built : filled width height colour = .ok frame) :
    (frame.width = width ∧ frame.height = height) ∧ Repeats colour.toList frame.data := by
  rw [filled_eq (positive_of_filled built)] at built
  obtain ⟨wide, high, same⟩ := ofData_eq_ok_iff.mp built
  refine ⟨⟨wide, high⟩, ?_⟩
  rw [same]
  exact @repeats_pushCycle _ colour.toList #[] _ 0 (Nat.zero_le _) rfl nofun

end Frame

end FrameFlow

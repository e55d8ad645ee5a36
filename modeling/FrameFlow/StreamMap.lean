/-!
Finite maps from stream names, kept in the order of the names, which is that of their
characters' codes and so of their bytes. Anything that visits all streams does so in this
order.
-/

namespace FrameFlow

structure StreamMap (α : Type u) where
  entries : List (String × α)
  sorted : entries.Pairwise (fun a b => a.1 < b.1)

namespace StreamMap

variable {α : Type u}

def empty : StreamMap α := ⟨[], .nil⟩

instance : Inhabited (StreamMap α) := ⟨empty⟩

def names (map : StreamMap α) : List String := map.entries.map (·.1)

def size (map : StreamMap α) : Nat := map.entries.length

def find? (map : StreamMap α) (name : String) : Option α :=
  (map.entries.find? (·.1 == name)).map (·.2)

def contains (map : StreamMap α) (name : String) : Bool := (map.find? name).isSome

def place (name : String) (value : α) : List (String × α) → List (String × α)
  | [] => [(name, value)]
  | entry :: rest =>
      if name < entry.1 then (name, value) :: entry :: rest
      else if name = entry.1 then (name, value) :: rest
      else entry :: place name value rest

theorem mem_place {name : String} {value : α} {entries : List (String × α)}
    {entry : String × α} (member : entry ∈ place name value entries) :
    entry = (name, value) ∨ entry ∈ entries := by
  induction entries with
  | nil => simpa [place] using member
  | cons head rest ih =>
      unfold place at member
      split at member
      · simpa using member
      · split at member
        · rcases List.mem_cons.1 member with same | inRest
          · exact .inl same
          · exact .inr (List.mem_cons_of_mem _ inRest)
        · rcases List.mem_cons.1 member with rfl | inRest
          · exact .inr (List.mem_cons_self ..)
          · exact (ih inRest).imp_right (List.mem_cons_of_mem _)

theorem pairwise_place {name : String} {value : α} {entries : List (String × α)}
    (sorted : entries.Pairwise (fun a b => a.1 < b.1)) :
    (place name value entries).Pairwise (fun a b => a.1 < b.1) := by
  induction entries with
  | nil => simp [place]
  | cons head rest ih =>
      obtain ⟨headLeast, restSorted⟩ := List.pairwise_cons.1 sorted
      unfold place
      split
      · rename_i before
        refine List.pairwise_cons.2 ⟨fun entry member => ?_, sorted⟩
        rcases List.mem_cons.1 member with rfl | inRest
        · exact before
        · exact String.lt_trans before (headLeast entry inRest)
      · split
        · rename_i same
          subst same
          exact List.pairwise_cons.2 ⟨headLeast, restSorted⟩
        · rename_i notBefore different
          refine List.pairwise_cons.2 ⟨fun entry member => ?_, ih restSorted⟩
          rcases mem_place member with rfl | inRest
          · exact Std.lt_of_le_of_ne (String.not_lt.1 notBefore) (Ne.symm different)
          · exact headLeast entry inRest

def insert (map : StreamMap α) (name : String) (value : α) : StreamMap α where
  entries := place name value map.entries
  sorted := pairwise_place map.sorted

theorem find?_place (name : String) (value : α) (entries : List (String × α)) (other : String) :
    ((place name value entries).find? (·.1 == other)).map (·.2) =
      if other = name then some value else (entries.find? (·.1 == other)).map (·.2) := by
  induction entries with
  | nil =>
      by_cases same : other = name
      · simp [place, same]
      · simp [place, same, Ne.symm same]
  | cons head rest ih =>
      unfold place
      split
      · by_cases same : other = name
        · simp [same]
        · simp [same, List.find?_cons, Ne.symm same]
      · split
        · rename_i matched
          subst matched
          by_cases same : other = head.1
          · simp [same]
          · simp [same, Ne.symm same]
        · rename_i different
          by_cases atHead : head.1 = other
          · have : other ≠ name := fun same => different (same.symm.trans atHead.symm)
            simp [atHead, this]
          · simpa [List.find?_cons, atHead] using ih

@[simp] theorem find?_insert (map : StreamMap α) (name : String) (value : α) (other : String) :
    (map.insert name value).find? other = if other = name then some value else map.find? other :=
  find?_place name value map.entries other

@[simp] theorem find?_empty (name : String) : (empty : StreamMap α).find? name = none := rfl

/-- The map of a list of entries, the last one of each name. -/
def ofList (entries : List (String × α)) : StreamMap α :=
  entries.foldl (fun map entry => map.insert entry.1 entry.2) empty

end StreamMap

end FrameFlow

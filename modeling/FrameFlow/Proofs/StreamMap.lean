import FrameFlow.Proofs.Text.ByteOrder
import FrameFlow.StreamMap
import Mathlib.Data.List.Nodup

/-!
What a map holds, and the order in which its streams are visited. The first entry that
passes a test is the one whose name has the least bytes.
-/

namespace FrameFlow.StreamMap

variable {α : Type u} {map : StreamMap α} {name : String} {value : α}

theorem mem_entries_iff : (name, value) ∈ map.entries ↔ map.find? name = some value := by
  constructor
  · intro member
    obtain ⟨before, later, split⟩ := List.append_of_mem member
    have sorted := map.sorted
    rw [split, List.pairwise_append] at sorted
    obtain ⟨_, _, below⟩ := sorted
    have unlike : ∀ entry ∈ before, (entry.1 == name) = false := by
      intro entry inside
      have less := below entry inside (name, value) List.mem_cons_self
      exact beq_false_of_ne fun same => String.lt_irrefl _ (same ▸ less)
    have skipped : before.find? (·.1 == name) = none :=
      List.find?_eq_none.mpr fun entry inside => by simp [unlike entry inside]
    rw [find?, split, List.find?_append, skipped]
    simp
  · intro found
    obtain ⟨entry, known, same⟩ := Option.map_eq_some_iff.mp found
    have named : entry.1 = name := by simpa using List.find?_some known
    rw [← named, ← same]
    exact List.mem_of_find?_eq_some known

theorem mem_names_iff : name ∈ map.names ↔ (map.find? name).isSome = true := by
  rw [names, List.mem_map, Option.isSome_iff_exists]
  constructor
  · rintro ⟨entry, member, rfl⟩
    exact ⟨entry.2, mem_entries_iff.mp member⟩
  · rintro ⟨value, found⟩
    exact ⟨(name, value), mem_entries_iff.mpr found, rfl⟩

/-- A map is known by what it finds. -/
theorem ext_find? {other : StreamMap α} (same : ∀ name, map.find? name = other.find? name) :
    map = other := by
  have distinct (map : StreamMap α) : map.entries.Nodup := map.sorted.imp fun less => by
    rintro rfl
    exact String.lt_irrefl _ less
  have perm : map.entries.Perm other.entries :=
    (List.perm_ext_iff_of_nodup (distinct map) (distinct other)).mpr fun (name, value) => by
      rw [mem_entries_iff, mem_entries_iff, same]
  have listed : map.entries = other.entries :=
    List.Perm.eq_of_pairwise (fun _ _ _ _ less greater => absurd less (String.lt_asymm greater))
      map.sorted other.sorted perm
  obtain ⟨entries, sorted⟩ := map
  obtain ⟨others, sortedToo⟩ := other
  cases listed
  rfl

theorem insert_comm {stream : String} (apart : name ≠ stream) (map : StreamMap α)
    (value content : α) :
    (map.insert name value).insert stream content =
      (map.insert stream content).insert name value := by
  refine ext_find? fun sought => ?_
  simp only [find?_insert]
  by_cases first : sought = name
  · rw [if_neg (first ▸ apart), if_pos first, if_pos first]
  · rw [if_neg first, if_neg first]

/-- Streams that are named once each may be listed in any order. -/
theorem ofList_perm {entries others : List (String × α)} (same : entries.Perm others)
    (distinct : (entries.map (·.1)).Nodup) : ofList entries = ofList others := by
  refine same.foldl_eq' (fun one inside another also map => ?_) empty
  by_cases alike : one.1 = another.1
  · rw [List.inj_on_of_nodup_map distinct inside also alike]
  · exact insert_comm alike map one.2 another.2

theorem find?_foldl_insert {entries : List (String × α)}
    (sorted : entries.Pairwise fun one other => one.1 < other.1) (map : StreamMap α)
    (name : String) :
    (entries.foldl (fun map entry => map.insert entry.1 entry.2) map).find? name =
      ((entries.find? (·.1 == name)).map (·.2)).or (map.find? name) := by
  induction entries generalizing map with
  | nil => rfl
  | cons entry rest ih =>
      obtain ⟨first, others⟩ := List.pairwise_cons.mp sorted
      rw [List.foldl_cons, ih others, find?_insert]
      by_cases same : name = entry.1
      · have notLater : rest.find? (·.1 == name) = none := by
          refine List.find?_eq_none.mpr fun other member found => ?_
          have alike : other.1 = entry.1 := (beq_iff_eq.mp found).trans same
          exact String.lt_irrefl _ (alike ▸ first other member)
        subst same
        simp [notLater]
      · simp [same, Ne.symm same]

/-- A name is the least of those that have a property, as their bytes are ordered. -/
structure IsLeast (map : StreamMap α) (property : String → α → Prop) (name : String) (value : α) :
    Prop where
  found : map.find? name = some value
  holds : property name value
  least : ∀ other content, map.find? other = some content → property other content →
    other ≠ name → Text.bytes name < Text.bytes other

theorem IsLeast.unique {property : String → α → Prop} {other : String} {content : α}
    (least : map.IsLeast property name value) (also : map.IsLeast property other content) :
    name = other := by
  apply Classical.byContradiction
  intro unlike
  have less := least.least other content also.found also.holds (Ne.symm unlike)
  have greater := also.least name value least.found least.holds unlike
  exact List.lt_irrefl _ (List.lt_trans less greater)

theorem isLeast_of_find?_entries {test : String × α → Bool}
    (first : map.entries.find? test = some (name, value)) :
    map.IsLeast (fun name value => test (name, value) = true) name value := by
  obtain ⟨passes, before, later, split, refused⟩ := List.find?_eq_some_iff_append.mp first
  refine ⟨mem_entries_iff.mp (List.mem_of_find?_eq_some first), passes, ?_⟩
  intro other content found passing unlike
  have member : (other, content) ∈ before ++ (name, value) :: later :=
    split ▸ mem_entries_iff.mpr found
  rcases List.mem_append.mp member with earlier | here
  · have refusal := refused _ earlier
    simp [passing] at refusal
  · rcases List.mem_cons.mp here with same | inLater
    · cases same
      contradiction
    · have sorted := map.sorted
      rw [split, List.pairwise_append] at sorted
      have after := (List.pairwise_cons.mp sorted.2.1).1 _ inLater
      exact Text.bytes_lt_bytes after

theorem find?_entries_eq_some_iff {test : String × α → Bool} :
    map.entries.find? test = some (name, value) ↔
      map.IsLeast (fun name value => test (name, value) = true) name value := by
  constructor
  · exact isLeast_of_find?_entries
  · intro least
    have member : (name, value) ∈ map.entries := mem_entries_iff.mpr least.found
    have exists_ : (map.entries.find? test).isSome = true :=
      List.find?_isSome.mpr ⟨_, member, least.holds⟩
    obtain ⟨⟨other, content⟩, first⟩ := Option.isSome_iff_exists.mp exists_
    have also := isLeast_of_find?_entries first
    obtain rfl := least.unique also
    obtain rfl : value = content := Option.some.inj (least.found.symm.trans also.found)
    exact first

end FrameFlow.StreamMap

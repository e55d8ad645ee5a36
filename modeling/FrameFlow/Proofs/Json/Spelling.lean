import FrameFlow.Json.Decoding
import Mathlib.Data.List.Nodup
import Mathlib.Data.List.Perm.Basic
import Mathlib.Logic.Relation

/-!
The ways to write one value as JSON. A structure may be an object, with its members in any order,
or the array of its fields; what has its default may be left out, and members that the structure
does not have may be there where they are ignored. How a value is spelled does not matter to what
is read from it.
-/

namespace FrameFlow.Json

section Members

variable {members others : List (String × Json)} {name other : String} {value : Json}

theorem valuesAt_append (before after : List (String × Json)) (name : String) :
    valuesAt (before ++ after) name = valuesAt before name ++ valuesAt after name := by
  simp only [valuesAt, List.filter_append, List.map_append]

theorem valuesAt_cons_self : valuesAt ((name, value) :: members) name =
    value :: valuesAt members name := by
  simp [valuesAt]

theorem valuesAt_cons_of_ne (apart : other ≠ name) :
    valuesAt ((other, value) :: members) name = valuesAt members name := by
  simp [valuesAt, apart]

theorem valuesAt_eq_nil_iff : valuesAt members name = [] ↔ ∀ member ∈ members, member.1 ≠ name := by
  simp [valuesAt, List.filter_eq_nil_iff]

theorem valuesAt_perm (same : members.Perm others) (name : String) :
    (valuesAt members name).Perm (valuesAt others name) :=
  (same.filter _).map _

end Members

/-- What a structure gives to a field that has an index and a name. -/
def part (index : Nat) (name : String) : Json → Option Json
  | .array items => items[index]?
  | .object members => (valuesAt members name).head?
  | _ => none

/-- What a structure gives to fields that follow one another. -/
def parts (json : Json) : Nat → List String → List (Option Json)
  | _, [] => []
  | index, name :: names => json.part index name :: json.parts (index + 1) names

/-- A value has the form of a structure with these fields. -/
def IsForm (names : List String) (unknown : Unknown) : Json → Prop
  | .array items => items.length ≤ names.length
  | .object members => (∀ name ∈ names, (valuesAt members name).length ≤ 1) ∧
      (unknown = .refused → ∀ member ∈ members, member.1 ∈ names)
  | _ => False

theorem parts_object (members : List (String × Json)) (index : Nat) (names : List String) :
    parts (.object members) index names = names.map fun name => (valuesAt members name).head? := by
  induction names generalizing index with
  | nil => rfl
  | cons name rest ih => rw [parts, ih, List.map_cons, part]

theorem getElem?_parts (json : Json) (start : Nat) (names : List String) (index : Nat) :
    (json.parts start names)[index]? = names[index]?.map (json.part (start + index)) := by
  induction names generalizing start index with
  | nil => rfl
  | cons name rest ih =>
      cases index with
      | zero => rfl
      | succ index =>
          rw [parts, List.getElem?_cons_succ, List.getElem?_cons_succ, ih, Nat.add_right_comm,
            Nat.add_assoc]

theorem parts_array {items : List Json} {names : List String}
    (short : items.length ≤ names.length) :
    parts (.array items) 0 names =
      items.map some ++ List.replicate (names.length - items.length) none := by
  refine List.ext_getElem? fun index => ?_
  rw [getElem?_parts, Nat.zero_add, List.getElem?_append, List.length_map]
  by_cases inside : index < items.length
  · rw [if_pos inside, List.getElem?_map, List.getElem?_eq_getElem inside,
      List.getElem?_eq_getElem (Nat.lt_of_lt_of_le inside short)]
    exact congrArg some (List.getElem?_eq_getElem inside)
  · have cut : items[index]? = none := List.getElem?_eq_none (Nat.not_lt.mp inside)
    rw [if_neg inside, List.getElem?_replicate]
    by_cases named : index < names.length
    · rw [if_pos (by omega), List.getElem?_eq_getElem named]
      exact congrArg some cut
    · rw [if_neg (by omega), List.getElem?_eq_none (Nat.not_lt.mp named)]
      rfl

/-- A structure is read if it has the form of one, and then field by field. -/
theorem fields?_eq_some_iff {names : List String} {unknown : Unknown} {json : Json}
    {given : List (Option Json)} :
    fields? names unknown json = some given ↔
      json.IsForm names unknown ∧ given = json.parts 0 names := by
  cases json with
  | array items =>
      by_cases short : items.length ≤ names.length
      · simp only [fields?, IsForm, short, if_true, Option.some.injEq, true_and,
          parts_array short, eq_comm]
      · simp [fields?, IsForm, short]
  | object members =>
      have once : (names.any fun name => decide (1 < (valuesAt members name).length)) = false ↔
          ∀ name ∈ names, (valuesAt members name).length ≤ 1 := by
        simp [List.any_eq_false]
      have known : (members.any fun member => !names.contains member.1) = false ↔
          ∀ member ∈ members, member.1 ∈ names := by
        simp [List.any_eq_false]
      simp only [fields?, IsForm, parts_object, ← once, ← known]
      split
      · rename_i twice
        simp [twice]
      · rename_i single
        have single := eq_false_of_ne_true single
        split
        · rename_i strange
          have unnamed : ¬ (unknown = .refused →
              (members.any fun member => !names.contains member.1) = false) := fun named =>
            absurd (strange.2.symm.trans (named strange.1)) (by decide)
          simp only [unnamed, and_false, false_and, reduceCtorEq]
        · rename_i expected
          have named (refused : unknown = .refused) :
              (members.any fun member => !names.contains member.1) = false :=
            eq_false_of_ne_true fun strange => expected ⟨refused, strange⟩
          rw [Option.some.injEq, eq_comm]
          exact ⟨fun same => ⟨⟨single, named⟩, same⟩, fun given => given.2⟩
  | _ => simp [fields?, IsForm]

/-- A decoder that reads a structure refuses what has not the form of one. -/
theorem isForm_of_bind_eq_some {α : Type} {names : List String} {unknown : Unknown} {json : Json}
    {build : List (Option Json) → Option α} {value : α}
    (read : (fields? names unknown json >>= build) = some value) :
    json.IsForm names unknown ∧ build (json.parts 0 names) = some value := by
  obtain ⟨given, found, built⟩ := Option.bind_eq_some_iff.mp read
  obtain ⟨form, rfl⟩ := fields?_eq_some_iff.mp found
  exact ⟨form, built⟩

/-- A structure gives a value to a field: by its name in an object, by its index in an array. -/
inductive Gives (index : Nat) (name : String) : Json → Json → Prop
  | member {members value} : (name, value) ∈ members → Gives index name (.object members) value
  | item {items : List Json} {value} : items[index]? = some value →
      Gives index name (.array items) value

theorem Gives.part_eq {index : Nat} {name : String} {names : List String} {unknown : Unknown}
    {json value : Json} (gives : Gives index name json value)
    (form : json.IsForm names unknown) (named : name ∈ names) :
    json.part index name = some value := by
  cases gives with
  | item found => exact found
  | @member members value member =>
      have single := form.1 name named
      have found : value ∈ valuesAt members name :=
        List.mem_map.mpr ⟨(name, value), List.mem_filter.mpr ⟨member, beq_self_eq_true name⟩, rfl⟩
      match given : valuesAt members name, single, found with
      | [only], _, found =>
          rw [part, given, List.mem_singleton.mp found]
          rfl

section Traversals

variable {α β : Type} {f : α → Option β} {items others : List α} {values : List β}

theorem mapM_eq_some_iff : items.mapM f = some values ↔
    List.Forall₂ (fun item value => f item = some value) items values := by
  induction items generalizing values with
  | nil => simp [eq_comm]
  | cons item rest ih =>
      rw [List.mapM_cons, Option.bind_eq_bind, Option.bind_eq_some_iff]
      constructor
      · rintro ⟨value, here, read⟩
        obtain ⟨more, there, same⟩ := Option.bind_eq_some_iff.mp read
        cases same
        exact .cons here (ih.mp there)
      · rintro (_ | ⟨here, there⟩)
        exact ⟨_, here, Option.bind_eq_some_iff.mpr ⟨_, ih.mpr there, rfl⟩⟩

/-- Items in another order are read in that order. -/
theorem exists_mapM_of_perm (same : items.Perm others) (read : items.mapM f = some values) :
    ∃ more, others.mapM f = some more ∧ values.Perm more := by
  obtain ⟨more, there, perm⟩ := List.perm_comp_forall₂ same.symm (mapM_eq_some_iff.mp read)
  exact ⟨more, mapM_eq_some_iff.mpr there, perm.symm⟩

theorem exists_of_mapM {item : α} (read : items.mapM f = some values) (member : item ∈ items) :
    ∃ value, f item = some value := by
  have all := mapM_eq_some_iff.mp read
  induction all with
  | nil => contradiction
  | cons here there ih =>
      rcases List.mem_cons.mp member with rfl | later
      · exact ⟨_, here⟩
      · exact ih (mapM_eq_some_iff.mpr there) later

end Traversals

/-- The spellings of what a decoder reads: a value may be rewritten in some ways, none of which
matters to the decoder. -/
structure Spelling (α : Type) where
  decode : Json → Option α
  Respells : Json → Json → Prop
  decode_eq : ∀ {value other}, Respells value other → decode value = decode other

namespace Spelling

variable {α : Type} (spelling : Spelling α) {value other : Json}

/-- However often a value is rewritten, there and back, the same is read from it. -/
def IsImmaterialTo {β : Type} (decode : Json → Option β) : Prop :=
  ∀ json other, Relation.EqvGen spelling.Respells json other → decode json = decode other

theorem isImmaterialTo : spelling.IsImmaterialTo spelling.decode := by
  intro json other respelled
  induction respelled with
  | rel _ _ respells => exact spelling.decode_eq respells
  | refl => rfl
  | symm _ _ _ ih => exact ih.symm
  | trans _ _ _ _ _ first second => exact first.trans second

/-- A value that is written in one way only. -/
def plain (decode : Json → Option α) : Spelling α where
  decode
  Respells _ _ := False
  decode_eq := False.elim

/-- One of the items is rewritten. -/
inductive RespellsItem : Json → Json → Prop
  | item {before value other after} : spelling.Respells value other →
      RespellsItem (.array (before ++ value :: after)) (.array (before ++ other :: after))

def list : Spelling (List α) where
  decode := list? spelling.decode
  Respells := spelling.RespellsItem
  decode_eq := by
    rintro _ _ ⟨respells⟩
    simp only [list?, List.mapM_append, List.mapM_cons, spelling.decode_eq respells]

def nullable : Spelling (Option α) where
  decode := Json.nullable spelling.decode
  Respells value other := value ≠ .null ∧ other ≠ .null ∧ spelling.Respells value other
  decode_eq := by
    rintro value other ⟨given, kept, respells⟩
    have decoded {json : Json} (given : json ≠ .null) :
        Json.nullable spelling.decode json = (spelling.decode json).map some := by
      cases json <;> first | contradiction | rfl
    rw [decoded given, decoded kept, spelling.decode_eq respells]

/-- A name may be the only member of an object, whose value is null. -/
inductive RespellsName : Json → Json → Prop
  | tagged {name} : RespellsName (.string name) (.object [(name, .null)])

def choice (choices : List α) (name : α → String) : Spelling α where
  decode := choice? choices name
  Respells := RespellsName
  decode_eq := by
    rintro _ _ ⟨⟩
    rfl

end Spelling

/-- A field of a structure: what it is when it is missing, unless it is required, and how its
value is spelled. -/
structure Field where
  name : String
  {Value : Type}
  missing : Option Value
  spelling : Spelling Value

namespace Field

def read (field : Field) (given : Option Json) : Option field.Value :=
  match field.missing with
  | some missing => optional missing field.spelling.decode given
  | none => required field.spelling.decode given

/-- A value that means the same as none. -/
def IsDefault (field : Field) (value : Json) : Prop :=
  ∃ missing, field.missing = some missing ∧ field.spelling.decode value = some missing

/-- What stands for a field in an array, if anything does, where an object has these members: the
member's value, or a default for a member that is missing; a default may be cut off. -/
inductive IsListed (field : Field) (members : List (String × Json)) : Option Json → Prop
  | member {value} : valuesAt members field.name = [value] → IsListed field members (some value)
  | filled {value} : valuesAt members field.name = [] → field.IsDefault value →
      IsListed field members (some value)
  | cut {value} : valuesAt members field.name = [value] → field.IsDefault value →
      IsListed field members none
  | missing : valuesAt members field.name = [] → IsListed field members none

variable {field : Field} {value other : Json}

theorem read_some (field : Field) (value : Json) :
    field.read (some value) = field.spelling.decode value := by
  unfold read
  split <;> rfl

theorem IsDefault.read_eq (isDefault : field.IsDefault value) :
    field.read (some value) = field.read none := by
  obtain ⟨missing, optional, decoded⟩ := isDefault
  rw [read_some, decoded, read, optional]
  rfl

theorem read_eq (respells : field.spelling.Respells value other) :
    field.read (some value) = field.read (some other) := by
  rw [read_some, read_some, field.spelling.decode_eq respells]

theorem IsListed.read_eq {members : List (String × Json)} {item : Option Json}
    (listed : field.IsListed members item) :
    (valuesAt members field.name).length ≤ 1 ∧
      field.read (valuesAt members field.name).head? = field.read item := by
  cases listed with
  | member found =>
      rw [found]
      exact ⟨Nat.le_refl _, rfl⟩
  | filled missing isDefault =>
      rw [missing]
      exact ⟨Nat.zero_le _, isDefault.read_eq.symm⟩
  | cut found isDefault =>
      rw [found]
      exact ⟨Nat.le_refl _, isDefault.read_eq⟩
  | missing missing =>
      rw [missing]
      exact ⟨Nat.zero_le _, rfl⟩

end Field

/-- What may be done to a structure: the members of an object come in another order; a member
that the structure does not have is there, where it is ignored; the only member of its name is
left out, if it has the default of its field; an array stands for an object; and the value of a
field is rewritten, in an object or in an array. -/
inductive RespellsFields (fields : List Field) (unknown : Unknown) : Json → Json → Prop
  | permuted {members others} : members.Perm others →
      RespellsFields fields unknown (.object members) (.object others)
  | added {before after name value} : unknown = .ignored →
      (∀ field ∈ fields, field.name ≠ name) →
      RespellsFields fields unknown (.object (before ++ after))
        (.object (before ++ (name, value) :: after))
  | omitted {before after value} {field : Field} : field ∈ fields → field.IsDefault value →
      (∀ member ∈ before ++ after, member.1 ≠ field.name) →
      RespellsFields fields unknown (.object (before ++ (field.name, value) :: after))
        (.object (before ++ after))
  | listed {members} {items : List Json} : items.length ≤ fields.length →
      (unknown = .refused → ∀ member ∈ members, member.1 ∈ fields.map (·.name)) →
      (∀ (index : Nat) (field : Field), fields[index]? = some field →
        field.IsListed members items[index]?) →
      RespellsFields fields unknown (.object members) (.array items)
  | member {before after value other} {field : Field} : field ∈ fields →
      field.spelling.Respells value other →
      RespellsFields fields unknown (.object (before ++ (field.name, value) :: after))
        (.object (before ++ (field.name, other) :: after))
  | item {before after value other} {field : Field} : fields[before.length]? = some field →
      field.spelling.Respells value other →
      RespellsFields fields unknown (.array (before ++ value :: after))
        (.array (before ++ other :: after))

/-- Two values that the same is read from, field by field. -/
structure ReadsAlike (fields : List Field) (unknown : Unknown) (json other : Json) : Prop where
  isForm : json.IsForm (fields.map (·.name)) unknown ↔ other.IsForm (fields.map (·.name)) unknown
  read : json.IsForm (fields.map (·.name)) unknown → ∀ index (field : Field),
    fields[index]? = some field →
    field.read (json.part index field.name) = field.read (other.part index field.name)

section Fields

variable {fields : List Field} {unknown : Unknown} {json other value another : Json}
  {members others before after : List (String × Json)} {field : Field}

/-- Two objects that give the same to every field. -/
theorem ReadsAlike.of_members
    (once : ∀ field ∈ fields, (valuesAt members field.name).length ≤ 1 ↔
      (valuesAt others field.name).length ≤ 1)
    (known : unknown = .refused → ((∀ member ∈ members, member.1 ∈ fields.map (·.name)) ↔
      ∀ member ∈ others, member.1 ∈ fields.map (·.name)))
    (reads : ∀ field ∈ fields, (valuesAt members field.name).length ≤ 1 →
      field.read (valuesAt members field.name).head? =
        field.read (valuesAt others field.name).head?) :
    ReadsAlike fields unknown (.object members) (.object others) where
  isForm := by
    simp only [IsForm, List.forall_mem_map]
    constructor
    · rintro ⟨single, named⟩
      exact ⟨fun field member => (once field member).mp (single field member),
        fun refused => (known refused).mp (named refused)⟩
    · rintro ⟨single, named⟩
      exact ⟨fun field member => (once field member).mpr (single field member),
        fun refused => (known refused).mpr (named refused)⟩
  read form index field found := by
    have member := List.mem_of_getElem? found
    exact reads field member (form.1 _ (List.mem_map_of_mem member))

/-- Two objects that differ in what they give to one field, which reads it alike. -/
theorem ReadsAlike.of_field {given kept : List (String × Json)}
    (distinct : (fields.map (·.name)).Nodup) (member : field ∈ fields)
    (named : ∀ entry ∈ given ++ kept, entry.1 = field.name)
    (once : (valuesAt (before ++ (given ++ after)) field.name).length ≤ 1 ↔
      (valuesAt (before ++ (kept ++ after)) field.name).length ≤ 1)
    (reads : (valuesAt (before ++ (given ++ after)) field.name).length ≤ 1 →
      field.read (valuesAt (before ++ (given ++ after)) field.name).head? =
        field.read (valuesAt (before ++ (kept ++ after)) field.name).head?) :
    ReadsAlike fields unknown (.object (before ++ (given ++ after)))
      (.object (before ++ (kept ++ after))) := by
  obtain ⟨first, second⟩ := List.forall_mem_append.mp named
  have elsewhere (other : Field) (known : other ∈ fields) (apart : other ≠ field) :
      valuesAt (before ++ (given ++ after)) other.name =
        valuesAt (before ++ (kept ++ after)) other.name := by
    have unlike : field.name ≠ other.name := fun same =>
      apart (List.inj_on_of_nodup_map distinct known member same.symm)
    have none {entries : List (String × Json)} (own : ∀ entry ∈ entries, entry.1 = field.name) :
        valuesAt entries other.name = [] :=
      valuesAt_eq_nil_iff.mpr fun entry inside same => unlike ((own entry inside).symm.trans same)
    simp only [valuesAt_append, none first, none second]
  have inFields {entries : List (String × Json)}
      (own : ∀ entry ∈ entries, entry.1 = field.name) :
      ∀ entry ∈ entries, entry.1 ∈ fields.map (·.name) := fun entry inside =>
    own entry inside ▸ List.mem_map_of_mem member
  refine .of_members (fun other known => ?_) (fun _ => ?_) fun other known single => ?_
  · by_cases same : other = field
    · exact same ▸ once
    · rw [elsewhere other known same]
  · simp only [List.forall_mem_append, and_congr_right_iff, and_congr_left_iff]
    exact fun _ _ => ⟨fun _ => inFields second, fun _ => inFields first⟩
  · by_cases same : other = field
    · subst same
      exact reads single
    · rw [elsewhere other known same]

theorem ReadsAlike.of_permuted (same : members.Perm others) :
    ReadsAlike fields unknown (.object members) (.object others) := by
  refine .of_members (fun field _ => ?_) (fun _ => ?_) fun field _ single => ?_
  · rw [(valuesAt_perm same field.name).length_eq]
  · exact ⟨fun named other member => named other (same.mem_iff.mpr member),
      fun named other member => named other (same.mem_iff.mp member)⟩
  · have alike := valuesAt_perm same field.name
    match found : valuesAt members field.name, single with
    | [], _ =>
        rw [found] at alike
        rw [alike.nil_eq]
    | [value], _ =>
        rw [found] at alike
        rw [List.perm_singleton.mp alike.symm]

theorem ReadsAlike.of_added {name : String} (ignored : unknown = .ignored)
    (strange : ∀ field ∈ fields, field.name ≠ name) :
    ReadsAlike fields unknown (.object (before ++ after))
      (.object (before ++ (name, value) :: after)) := by
  have same (field : Field) (member : field ∈ fields) :
      valuesAt (before ++ (name, value) :: after) field.name =
        valuesAt (before ++ after) field.name := by
    rw [valuesAt_append, valuesAt_append, valuesAt_cons_of_ne (strange field member).symm]
  refine .of_members (fun field member => ?_) (fun refused => ?_) fun field member _ => ?_
  · rw [same field member]
  · rw [ignored] at refused
    contradiction
  · rw [same field member]

theorem ReadsAlike.of_omitted (distinct : (fields.map (·.name)).Nodup) (member : field ∈ fields)
    (isDefault : field.IsDefault value)
    (single : ∀ member ∈ before ++ after, member.1 ≠ field.name) :
    ReadsAlike fields unknown (.object (before ++ (field.name, value) :: after))
      (.object (before ++ after)) := by
  have none : valuesAt (before ++ ([] ++ after)) field.name = [] :=
    valuesAt_eq_nil_iff.mpr single
  have one : valuesAt (before ++ ([(field.name, value)] ++ after)) field.name = [value] := by
    rw [List.nil_append, valuesAt_append, List.append_eq_nil_iff] at none
    rw [List.singleton_append, valuesAt_append, valuesAt_cons_self, none.1, none.2,
      List.nil_append]
  change ReadsAlike fields unknown (.object (before ++ ([(field.name, value)] ++ after)))
    (.object (before ++ ([] ++ after)))
  refine .of_field distinct member ?_ ?_ fun _ => ?_
  · simp
  · rw [none, one]
    exact ⟨fun _ => Nat.zero_le _, fun _ => Nat.le_refl _⟩
  · rw [none, one]
    exact isDefault.read_eq

theorem ReadsAlike.of_listed {items : List Json} (short : items.length ≤ fields.length)
    (known : unknown = .refused → ∀ member ∈ members, member.1 ∈ fields.map (·.name))
    (listed : ∀ (index : Nat) (field : Field), fields[index]? = some field →
      field.IsListed members items[index]?) :
    ReadsAlike fields unknown (.object members) (.array items) := by
  have single (field : Field) (member : field ∈ fields) :
      (valuesAt members field.name).length ≤ 1 := by
    obtain ⟨index, found⟩ := List.mem_iff_getElem?.mp member
    exact (listed index field found).read_eq.1
  refine ⟨?_, fun _ index field found => (listed index field found).read_eq.2⟩
  simp only [IsForm, List.length_map, List.forall_mem_map]
  exact iff_of_true ⟨single, known⟩ short

theorem ReadsAlike.of_member (distinct : (fields.map (·.name)).Nodup) (member : field ∈ fields)
    (respells : field.spelling.Respells value another) :
    ReadsAlike fields unknown (.object (before ++ (field.name, value) :: after))
      (.object (before ++ (field.name, another) :: after)) := by
  have gives (value : Json) : valuesAt (before ++ ([(field.name, value)] ++ after)) field.name =
      valuesAt before field.name ++ value :: valuesAt after field.name := by
    rw [List.singleton_append, valuesAt_append, valuesAt_cons_self]
  change ReadsAlike fields unknown (.object (before ++ ([(field.name, value)] ++ after)))
    (.object (before ++ ([(field.name, another)] ++ after)))
  refine .of_field distinct member ?_ ?_ fun single => ?_
  · simp
  · simp only [gives, List.length_append, List.length_cons]
  · rw [gives, List.length_append, List.length_cons] at single
    have first : valuesAt before field.name = [] := List.eq_nil_of_length_eq_zero (by omega)
    simp only [gives, first, List.nil_append, List.head?_cons, Field.read_eq respells]

theorem ReadsAlike.of_item {earlier later : List Json}
    (found : fields[earlier.length]? = some field)
    (respells : field.spelling.Respells value another) :
    ReadsAlike fields unknown (.array (earlier ++ value :: later))
      (.array (earlier ++ another :: later)) := by
  refine ⟨?_, fun _ index other known => ?_⟩
  · simp only [IsForm, List.length_append, List.length_cons]
  · by_cases here : index = earlier.length
    · subst here
      obtain rfl : field = other := Option.some.inj (found.symm.trans known)
      simp only [part, List.getElem?_append_right (Nat.le_refl _), Nat.sub_self,
        List.getElem?_cons_zero, Field.read_eq respells]
    · have same : (earlier ++ value :: later)[index]? = (earlier ++ another :: later)[index]? := by
        rcases Nat.lt_or_gt_of_ne here with less | more
        · rw [List.getElem?_append_left less, List.getElem?_append_left less]
        · obtain ⟨past, rfl⟩ := Nat.exists_eq_add_of_lt more
          have beyond : earlier.length + past + 1 - earlier.length = past + 1 := by omega
          rw [List.getElem?_append_right (by omega), List.getElem?_append_right (by omega),
            beyond, List.getElem?_cons_succ, List.getElem?_cons_succ]
      rw [part, part, same]

theorem RespellsFields.readsAlike (distinct : (fields.map (·.name)).Nodup)
    (respells : RespellsFields fields unknown json other) :
    ReadsAlike fields unknown json other := by
  cases respells with
  | permuted same => exact .of_permuted same
  | added ignored strange => exact .of_added ignored strange
  | omitted member isDefault single => exact .of_omitted distinct member isDefault single
  | listed short known listed => exact .of_listed short known listed
  | member member respells => exact .of_member distinct member respells
  | item found respells => exact .of_item found respells

/-- A decoder that reads a structure and then builds something of its parts. -/
theorem ReadsAlike.bind_eq {α : Type} {build : List (Option Json) → Option α}
    (alike : ReadsAlike fields unknown json other)
    (built : (∀ (index : Nat) (field : Field), fields[index]? = some field →
        field.read (json.part index field.name) = field.read (other.part index field.name)) →
      build (json.parts 0 (fields.map (·.name))) = build (other.parts 0 (fields.map (·.name)))) :
    (fields? (fields.map (·.name)) unknown json >>= build) =
      (fields? (fields.map (·.name)) unknown other >>= build) := by
  have read (json : Json) (form : json.IsForm (fields.map (·.name)) unknown) :
      fields? (fields.map (·.name)) unknown json = some (json.parts 0 (fields.map (·.name))) :=
    fields?_eq_some_iff.mpr ⟨form, rfl⟩
  have refused (json : Json) (deformed : ¬ json.IsForm (fields.map (·.name)) unknown) :
      fields? (fields.map (·.name)) unknown json = none :=
    Option.eq_none_iff_forall_ne_some.mpr fun given found =>
      deformed (fields?_eq_some_iff.mp found).1
  by_cases form : json.IsForm (fields.map (·.name)) unknown
  · rw [read json form, read other (alike.isForm.mp form)]
    exact built (alike.read form)
  · rw [refused json form, refused other fun kept => form (alike.isForm.mpr kept)]

end Fields

/-- The spellings of a structure that reads its fields and nothing else. -/
def Spelling.struct {α : Type} (fields : List Field) (unknown : Unknown)
    (decode : Json → Option α) (distinct : (fields.map (·.name)).Nodup)
    (decode_eq : ∀ {json other}, ReadsAlike fields unknown json other →
      decode json = decode other) : Spelling α where
  decode
  Respells := RespellsFields fields unknown
  decode_eq respells := decode_eq (respells.readsAlike distinct)

end FrameFlow.Json

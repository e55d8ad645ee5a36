import FrameFlow.Record.Category
import FrameFlow.Record.Marshal
import Mathlib.Data.List.Forall2

/-!
Records against the messages that they are made from. The lists of a detection are filled up to
the longest of them, so that all categories can be read, each at its own index; everything else is
copied. Lists of records keep the number and the order of the messages.
-/

namespace FrameFlow

/-- A list of a number of entries: all entries of another list, and fillings after them. -/
structure IsPadding (count : Nat) (filling : α) (entries filled : List α) : Prop where
  length : filled.length = count
  starts : entries <+: filled
  rest : ∀ index, entries.length ≤ index → index < count → filled[index]? = some filling

namespace Message

theorem length_padded (count : Nat) (filling : α) (entries : List α) :
    (padded count filling entries).length = count := by
  simp [padded]

theorem getElem?_padded {count index : Nat} (inside : index < count) (filling : α)
    (entries : List α) :
    (padded count filling entries)[index]? = some (entries[index]?.getD filling) := by
  simp [padded, inside]

/-- Where a list is not too long, it is padded and not cut. -/
theorem isPadding_padded {count : Nat} {entries : List α} (fits : entries.length ≤ count)
    (filling : α) : IsPadding count filling entries (padded count filling entries) where
  length := length_padded ..
  starts := by
    refine List.prefix_iff_getElem?.mpr fun index inside => ?_
    rw [getElem?_padded (Nat.lt_of_lt_of_le inside fits), List.getElem?_eq_getElem inside]
    rfl
  rest index outside inside := by
    rw [getElem?_padded inside, List.getElem?_eq_none outside]
    rfl

/-- How many entries each list of a detection has. -/
def Detection.lengths (message : Detection) : List Nat :=
  [message.labels.length, message.labelIds.length, message.scores.length,
    message.displayNames.length, message.associated.length]

theorem Detection.le_categoryCount {message : Detection} {length : Nat}
    (member : length ∈ message.lengths) : length ≤ message.categoryCount := by
  simp only [lengths, List.mem_cons, List.not_mem_nil, or_false] at member
  simp only [categoryCount]
  omega

theorem Detection.categoryCount_mem (message : Detection) :
    message.categoryCount ∈ message.lengths := by
  simp only [lengths, categoryCount, List.mem_cons, List.not_mem_nil, or_false]
  omega

/-- The category that a message has at an index, with defaults for entries that are missing. -/
def Detection.category (message : Detection) (index : Nat) : Record.Category where
  label := message.labels[index]?.getD ""
  labelId := message.labelIds[index]?.getD 0
  score := message.scores[index]?.getD .zero
  displayName := message.displayNames[index]?.getD ""
  associated := message.associated[index]?.getD {}

/-- The part of a location that its format names, or its default. -/
def LocationData.region (message : LocationData) : Record.Region :=
  match message.format with
  | .global => .global
  | .boundingBox => .boundingBox (message.boundingBox.getD {})
  | .relativeBoundingBox => .relativeBoundingBox (message.relativeBoundingBox.getD {})
  | .mask => .mask (message.mask.getD {})

end Message

namespace Record

namespace Detection

variable {record other : Detection} {count index : Nat}

/-- Both records have the same entries at an index. -/
structure AgreesAt (record other : Detection) (index : Nat) : Prop where
  labels : record.labels[index]? = other.labels[index]?
  labelIds : record.labelIds[index]? = other.labelIds[index]?
  scores : record.scores[index]? = other.scores[index]?
  displayNames : record.displayNames[index]? = other.displayNames[index]?
  associated : record.associated[index]? = other.associated[index]?

/-- A category is read at its index and nowhere else. -/
theorem AgreesAt.category?_eq (agrees : record.AgreesAt other index) :
    record.category? index = other.category? index := by
  simp only [category?, agrees.labels, agrees.labelIds, agrees.scores, agrees.displayNames,
    agrees.associated]

theorem category?_eq_some_iff {category : Category} :
    record.category? index = some category ↔
      record.labels[index]? = some category.label ∧
        record.labelIds[index]? = some category.labelId ∧
        record.scores[index]? = some category.score ∧
        record.displayNames[index]? = some category.displayName ∧
        record.associated[index]? = some category.associated := by
  obtain ⟨label, labelId, score, displayName, associated⟩ := category
  simp only [category?, bind, Option.bind_eq_some_iff, pure, Option.some.injEq, Category.mk.injEq]
  constructor
  · rintro ⟨_, labels, _, labelIds, _, scores, _, displayNames, _, found, rfl, rfl, rfl, rfl, rfl⟩
    exact ⟨labels, labelIds, scores, displayNames, found⟩
  · rintro ⟨labels, labelIds, scores, displayNames, found⟩
    exact ⟨_, labels, _, labelIds, _, scores, _, displayNames, _, found, rfl, rfl, rfl, rfl, rfl⟩

/-- The lists of a record are those of a message, filled up to one length. -/
structure Lists (record : Detection) (message : Message.Detection) (count : Nat) : Prop where
  labels : IsPadding count "" message.labels record.labels
  labelIds : IsPadding count 0 message.labelIds record.labelIds
  scores : IsPadding count .zero message.scores record.scores
  displayNames : IsPadding count "" message.displayNames record.displayNames
  associated : IsPadding count {} message.associated record.associated

/-- The categories of a record are a number of categories of a message, each read at its own
index. -/
structure Shows (record : Detection) (message : Message.Detection) (count : Nat) : Prop where
  inside : ∀ index < count, record.category? index = some (message.category index)
  outside : ∀ index, count ≤ index → record.category? index = none
  alone : ∀ other : Detection, ∀ index, record.AgreesAt other index →
    record.category? index = other.category? index
  all : record.categories = (List.range count).map message.category

end Detection

/-- A location as a message has it, with defaults for parts that are missing. -/
structure LocationData.Copies (record : LocationData) (message : Message.LocationData) : Prop where
  format : record.format = message.format
  boundingBox : record.boundingBox = message.boundingBox.getD {}
  relativeBoundingBox : record.relativeBoundingBox = message.relativeBoundingBox.getD {}
  mask : record.mask = message.mask.getD {}
  relativeKeypoints : record.relativeKeypoints = message.relativeKeypoints
  region : record.region = message.region

/-- What a record keeps of the message that it is made from. -/
structure Detection.Keeps (record : Detection) (message : Message.Detection) : Prop where
  longest : message.categoryCount ∈ message.lengths ∧
    ∀ length ∈ message.lengths, length ≤ message.categoryCount
  lists : record.Lists message message.categoryCount
  categories : record.Shows message message.categoryCount
  featureTag : record.featureTag = message.featureTag
  trackId : record.trackId = message.trackId
  detectionId : record.detectionId = message.detectionId
  timestampMicros : record.timestampMicros = message.timestampMicros
  unplaced : message.location = none → record.location = {} ∧ record.location.region = .global
  placed : ∀ location, message.location = some location → record.location.Copies location

/-- All five numbers of a point, bit by bit. -/
structure Landmark.Copies (record : Landmark) (message : Message.Landmark) : Prop where
  x : record.x.bits = message.x.bits
  y : record.y.bits = message.y.bits
  z : record.z.bits = message.z.bits
  visibility : record.visibility.bits = message.visibility.bits
  presence : record.presence.bits = message.presence.bits

end Record

namespace Message

theorem LocationData.copies_toRecord (message : LocationData) :
    message.toRecord.Copies message := by
  refine ⟨rfl, rfl, rfl, rfl, rfl, ?_⟩
  cases named : message.format <;>
    simp only [Record.LocationData.region, toRecord, region, named]

theorem Landmark.copies_toRecord (message : Landmark) : message.toRecord.Copies message :=
  ⟨rfl, rfl, rfl, rfl, rfl⟩

namespace Detection

variable (message : Detection)

theorem lists_toRecord : message.toRecord.Lists message message.categoryCount where
  labels := isPadding_padded (le_categoryCount (by simp [lengths])) _
  labelIds := isPadding_padded (le_categoryCount (by simp [lengths])) _
  scores := isPadding_padded (le_categoryCount (by simp [lengths])) _
  displayNames := isPadding_padded (le_categoryCount (by simp [lengths])) _
  associated := isPadding_padded (le_categoryCount (by simp [lengths])) _

theorem category?_toRecord {index : Nat} (inside : index < message.categoryCount) :
    message.toRecord.category? index = some (message.category index) :=
  Record.Detection.category?_eq_some_iff.mpr ⟨getElem?_padded inside .., getElem?_padded inside ..,
    getElem?_padded inside .., getElem?_padded inside .., getElem?_padded inside ..⟩

theorem category?_toRecord_of_le {index : Nat} (outside : message.categoryCount ≤ index) :
    message.toRecord.category? index = none := by
  refine Option.eq_none_iff_forall_ne_some.mpr fun category found => ?_
  obtain ⟨labels, _⟩ := Record.Detection.category?_eq_some_iff.mp found
  obtain ⟨inside, _⟩ := List.getElem?_eq_some_iff.mp labels
  rw [message.lists_toRecord.labels.length] at inside
  omega

/-- Every index up to the longest list has a category, so none is skipped. -/
theorem categories_toRecord :
    message.toRecord.categories = (List.range message.categoryCount).map message.category := by
  have count : message.toRecord.categoryCount = message.categoryCount :=
    message.lists_toRecord.scores.length
  rw [Record.Detection.categories, count, ← List.filterMap_eq_map]
  refine List.filterMap_congr fun index inside => ?_
  exact message.category?_toRecord (List.mem_range.mp inside)

theorem shows_toRecord : message.toRecord.Shows message message.categoryCount where
  inside _ := message.category?_toRecord
  outside _ := message.category?_toRecord_of_le
  alone _ _ agrees := agrees.category?_eq
  all := message.categories_toRecord

theorem keeps_toRecord : message.toRecord.Keeps message where
  longest := ⟨message.categoryCount_mem, fun _ => le_categoryCount⟩
  lists := message.lists_toRecord
  categories := message.shows_toRecord
  featureTag := rfl
  trackId := rfl
  detectionId := rfl
  timestampMicros := rfl
  unplaced missing := by
    have default : message.toRecord.location = {} := by rw [toRecord, missing]; rfl
    exact ⟨default, by rw [default]; rfl⟩
  placed location found := by
    have same : message.toRecord.location = location.toRecord := by rw [toRecord, found]; rfl
    rw [same]
    exact location.copies_toRecord

end Detection

theorem forall₂_map {α β : Type} {keeps : β → α → Prop} (make : α → β)
    (each : ∀ message, keeps (make message) message) (messages : List α) :
    List.Forall₂ keeps (messages.map make) messages :=
  List.forall₂_map_left_iff.mpr (List.forall₂_same.mpr fun message _ => each message)

/-- Records keep all that messages have. The lists of a detection become equally long, as long as
the longest of them, with every entry at its index and defaults behind the last one; so there is a
category for each index below that length, read at this index alone. Detections, points, subjects
and scores keep their number and order, points and scores every bit. -/
theorem records_keep_messages (messages : List Detection) (points : LandmarkList)
    (subjects : List LandmarkList) (classes : ClassificationList) :
    (∀ message : Detection, message.toRecord.Keeps message) ∧
      List.Forall₂ Record.Detection.Keeps (detections messages) messages ∧
      List.Forall₂ Record.Landmark.Copies points.toRecord points.landmarks ∧
      List.Forall₂ (fun records (subject : LandmarkList) =>
        List.Forall₂ Record.Landmark.Copies records subject.landmarks)
        (landmarkSet subjects) subjects ∧
      List.Forall₂ (fun score (message : Classification) => score.bits = message.score.bits)
        classes.scores classes.classifications := by
  have copied (points : LandmarkList) :
      List.Forall₂ Record.Landmark.Copies points.toRecord points.landmarks :=
    forall₂_map Landmark.toRecord Landmark.copies_toRecord points.landmarks
  refine ⟨Detection.keeps_toRecord, ?_, copied points, ?_, ?_⟩
  · exact forall₂_map Detection.toRecord Detection.keeps_toRecord messages
  · exact forall₂_map LandmarkList.toRecord copied subjects
  · exact forall₂_map Classification.score (fun _ => rfl) classes.classifications

end Message

end FrameFlow

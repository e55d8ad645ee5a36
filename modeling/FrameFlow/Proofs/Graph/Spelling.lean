import FrameFlow.Graph.Decoding
import FrameFlow.Proofs.Message.Spelling
import FrameFlow.Proofs.StreamMap

/-!
The ways to write graphs. A payload may be written like any message, and the declared streams are
members of an object in any order. Graphs, frames and packets are structures too, which refuse the
members that they do not have.
-/

namespace FrameFlow

open Json

section Declarations

variable {members others : List (String × Json)}

/-- A declaration of a stream: its name and the kind of its packets. -/
def declaration? (member : String × Json) : Option (String × PayloadKind) :=
  (PayloadKind.ofJson? member.2).map fun kind => (member.1, kind)

theorem names_of_mapM_declaration? {entries : List (String × PayloadKind)}
    (read : members.mapM declaration? = some entries) :
    entries.map (·.1) = members.map (·.1) := by
  have declared := mapM_eq_some_iff.mp read
  induction declared with
  | nil => rfl
  | cons here there ih =>
      obtain ⟨kind, _, rfl⟩ := Option.map_eq_some_iff.mp here
      rw [List.map_cons, List.map_cons, ih (mapM_eq_some_iff.mpr there)]

theorem declarations?_perm (same : members.Perm others)
    (distinct : (members.map (·.1)).Nodup) :
    declarations? (.object members) = declarations? (.object others) := by
  change (members.mapM declaration?).map _ = (others.mapM declaration?).map _
  cases read : members.mapM declaration? with
  | some entries =>
      obtain ⟨more, reordered, perm⟩ := exists_mapM_of_perm same read
      rw [reordered, Option.map_some, Option.map_some,
        StreamMap.ofList_perm perm (names_of_mapM_declaration? read ▸ distinct)]
  | none =>
      cases reordered : others.mapM declaration? with
      | none => rfl
      | some more =>
          obtain ⟨entries, back, _⟩ := exists_mapM_of_perm same.symm reordered
          rw [read] at back
          contradiction

theorem declarations?_of_kind {before after : List (String × Json)} {name : String}
    {value other : Json} (same : PayloadKind.ofJson? value = PayloadKind.ofJson? other) :
    declarations? (.object (before ++ (name, value) :: after)) =
      declarations? (.object (before ++ (name, other) :: after)) := by
  simp only [declarations?, List.mapM_append, List.mapM_cons, same]

end Declarations

def PayloadKind.spelling : Spelling PayloadKind := .choice PayloadKind.all PayloadKind.name

/-- The declared streams come in another order, or one of their kinds is rewritten. -/
inductive RespellsDeclarations : Json → Json → Prop
  | permuted {members others} : members.Perm others → (members.map (·.1)).Nodup →
      RespellsDeclarations (.object members) (.object others)
  | kind {before name value other after} : PayloadKind.spelling.Respells value other →
      RespellsDeclarations (.object (before ++ (name, value) :: after))
        (.object (before ++ (name, other) :: after))

def declarationsSpelling : Spelling (StreamMap PayloadKind) where
  decode := declarations?
  Respells := RespellsDeclarations
  decode_eq
    | .permuted same distinct => declarations?_perm same distinct
    | .kind respells => declarations?_of_kind (PayloadKind.spelling.decode_eq respells)

/-- The content of a scripted value is rewritten. -/
inductive RespellsContent : Json → Json → Prop
  | detections {value other} : Message.Detection.spelling.list.Respells value other →
      RespellsContent (.object [("detections", value)]) (.object [("detections", other)])
  | landmarkList {value other} : Message.LandmarkList.spelling.Respells value other →
      RespellsContent (.object [("landmark_list", value)]) (.object [("landmark_list", other)])
  | landmarkLists {value other} : Message.LandmarkList.spelling.list.Respells value other →
      RespellsContent (.object [("landmark_lists", value)]) (.object [("landmark_lists", other)])
  | classifications {value other} : Message.ClassificationList.spelling.Respells value other →
      RespellsContent (.object [("classifications", value)])
        (.object [("classifications", other)])

def ScriptedValue.spelling : Spelling ScriptedValue where
  decode := ofJson?
  Respells := RespellsContent
  decode_eq respells := by
    cases respells with
    | detections inner =>
        exact congrArg (fun read => (read.map Payload.detections).map ScriptedValue.payload)
          (Message.Detection.spelling.list.decode_eq inner)
    | landmarkList inner =>
        exact congrArg (fun read => (read.map Payload.landmarkList).map ScriptedValue.payload)
          (Message.LandmarkList.spelling.decode_eq inner)
    | landmarkLists inner =>
        exact congrArg (fun read => (read.map Payload.landmarkLists).map ScriptedValue.payload)
          (Message.LandmarkList.spelling.list.decode_eq inner)
    | classifications inner =>
        exact congrArg (fun read => (read.map Payload.classifications).map ScriptedValue.payload)
          (Message.ClassificationList.spelling.decode_eq inner)

def Json.Field.required {α : Type} (name : String) (spelling : Spelling α) : Field :=
  ⟨name, none, spelling⟩

def ScriptedPacket.fields : List Field :=
  [.required "stream" (.plain string?), .required "value" ScriptedValue.spelling]

def ScriptedPacket.spelling : Spelling ScriptedPacket :=
  .struct fields .refused ofJson? (by decide) fun alike => alike.bind_eq fun reads =>
    bind_congr_of_eq (reads 0 _ rfl) fun _ => bind_congr_of_eq (reads 1 _ rfl) fun _ => rfl

def scriptedFrameFields : List Field := [.list "emit" ScriptedPacket.spelling]

def scriptedFrameSpelling : Spelling (List ScriptedPacket) :=
  .struct scriptedFrameFields .refused scriptedFrame? (by decide) fun alike =>
    alike.bind_eq fun reads => reads 0 _ rfl

namespace Graph

def fields : List Field :=
  [.optional "input_stream" "input_video" (.plain string?),
    .part? "preview_stream" (.plain string?),
    .optional "output_streams" .empty declarationsSpelling,
    .list "frames" scriptedFrameSpelling,
    .optional "latency_ms" 0 (.plain nat64?)]

def spelling : Spelling Graph :=
  .struct fields .refused ofJson? (by decide) fun alike => alike.bind_eq fun reads =>
    bind_congr_of_eq (reads 0 _ rfl) fun _ => bind_congr_of_eq (reads 1 _ rfl) fun _ =>
    bind_congr_of_eq (reads 2 _ rfl) fun _ => bind_congr_of_eq (reads 3 _ rfl) fun _ =>
    bind_congr_of_eq (reads 4 _ rfl) fun _ => rfl

variable {json : Json} {graph : Graph}

/-- A member that a graph, one of its frames or one of their packets does not have. -/
inductive HasStranger : Json → Prop
  | graph {members member} : member ∈ members → member.1 ∉ fields.map (·.name) →
      HasStranger (.object members)
  | frame {json frames members member} : Gives 3 "frames" json (.array frames) →
      .object members ∈ frames → member ∈ members →
      member.1 ∉ scriptedFrameFields.map (·.name) → HasStranger json
  | packet {json frames frame packets members member} : Gives 3 "frames" json (.array frames) →
      frame ∈ frames → Gives 0 "emit" frame (.array packets) → .object members ∈ packets →
      member ∈ members → member.1 ∉ ScriptedPacket.fields.map (·.name) → HasStranger json

theorem exists_frame_of_ofJson? {frames : List Json} {frame : Json}
    (read : ofJson? json = some graph) (gives : Gives 3 "frames" json (.array frames))
    (member : frame ∈ frames) : ∃ packets, scriptedFrame? frame = some packets := by
  obtain ⟨form, built⟩ := isForm_of_bind_eq_some read
  have given : json.part 3 "frames" = some (.array frames) := gives.part_eq form (by decide)
  simp only [parts, given] at built
  obtain ⟨_, _, built⟩ := Option.bind_eq_some_iff.mp built
  obtain ⟨_, _, built⟩ := Option.bind_eq_some_iff.mp built
  obtain ⟨_, _, built⟩ := Option.bind_eq_some_iff.mp built
  obtain ⟨_, framed, _⟩ := Option.bind_eq_some_iff.mp built
  exact exists_of_mapM framed member

theorem exists_packet_of_scriptedFrame? {frame packet : Json} {packets : List Json}
    {emitted : List ScriptedPacket} (read : scriptedFrame? frame = some emitted)
    (gives : Gives 0 "emit" frame (.array packets)) (member : packet ∈ packets) :
    ∃ scripted, ScriptedPacket.ofJson? packet = some scripted := by
  obtain ⟨form, built⟩ := isForm_of_bind_eq_some read
  have given : frame.part 0 "emit" = some (.array packets) := gives.part_eq form (by decide)
  simp only [parts, given] at built
  exact exists_of_mapM built member

theorem HasStranger.ofJson?_eq_none (strange : HasStranger json) : ofJson? json = none := by
  refine Option.eq_none_iff_forall_ne_some.mpr fun graph read => ?_
  cases strange with
  | graph inside unnamed => exact unnamed ((isForm_of_bind_eq_some read).1.2 rfl _ inside)
  | frame gives framed inside unnamed =>
      obtain ⟨packets, readFrame⟩ := exists_frame_of_ofJson? read gives framed
      exact unnamed ((isForm_of_bind_eq_some readFrame).1.2 rfl _ inside)
  | packet gives framed emits packed inside unnamed =>
      obtain ⟨packets, readFrame⟩ := exists_frame_of_ofJson? read gives framed
      obtain ⟨packet, readPacket⟩ := exists_packet_of_scriptedFrame? readFrame emits packed
      exact unnamed ((isForm_of_bind_eq_some readPacket).1.2 rfl _ inside)

theorem HasStranger.parse_eq {text : String} (strange : HasStranger json)
    (found : read? text = some json) : parse text = .error .unreadable := by
  rw [parse, found, Option.bind_some, strange.ofJson?_eq_none]
  rfl

theorem parse_eq_of_respelled {text other : String} {respelled : Json}
    (here : read? text = some json) (there : read? other = some respelled)
    (same : Relation.EqvGen spelling.Respells json respelled) : parse text = parse other := by
  rw [parse, parse, here, there, Option.bind_some, Option.bind_some]
  exact congrArg check (spelling.isImmaterialTo json respelled same)

/-- What is read from a message or from a graph does not depend on its spelling: an order of
members, members that are ignored, defaults that are left out, arrays in the place of objects and
names in the place of tags. Texts of one graph, however it is spelled, are parsed to the same graph
or refused alike. A text with a member that a graph, a frame or a packet does not have is refused. -/
theorem spelling_immaterial :
    (BoundingBox.spelling.IsImmaterialTo BoundingBox.ofJson? ∧
      RelativeBoundingBox.spelling.IsImmaterialTo RelativeBoundingBox.ofJson? ∧
      MaskInterval.spelling.IsImmaterialTo MaskInterval.ofJson? ∧
      BinaryMask.spelling.IsImmaterialTo BinaryMask.ofJson? ∧
      RelativeKeypoint.spelling.IsImmaterialTo RelativeKeypoint.ofJson? ∧
      AssociatedDetection.spelling.IsImmaterialTo AssociatedDetection.ofJson?) ∧
    (Message.Landmark.spelling.IsImmaterialTo Message.Landmark.ofJson? ∧
      Message.LandmarkList.spelling.IsImmaterialTo Message.LandmarkList.ofJson? ∧
      Message.LocationData.spelling.IsImmaterialTo Message.LocationData.ofJson? ∧
      Message.Detection.spelling.IsImmaterialTo Message.Detection.ofJson? ∧
      Message.Classification.spelling.IsImmaterialTo Message.Classification.ofJson? ∧
      Message.ClassificationList.spelling.IsImmaterialTo Message.ClassificationList.ofJson?) ∧
    (∀ text other json respelled, read? text = some json → read? other = some respelled →
      Relation.EqvGen spelling.Respells json respelled → parse text = parse other) ∧
    ∀ text json, read? text = some json → HasStranger json → parse text = .error .unreadable := by
  exact ⟨⟨BoundingBox.spelling.isImmaterialTo, RelativeBoundingBox.spelling.isImmaterialTo,
      MaskInterval.spelling.isImmaterialTo, BinaryMask.spelling.isImmaterialTo,
      RelativeKeypoint.spelling.isImmaterialTo, AssociatedDetection.spelling.isImmaterialTo⟩,
    ⟨Message.Landmark.spelling.isImmaterialTo, Message.LandmarkList.spelling.isImmaterialTo,
      Message.LocationData.spelling.isImmaterialTo, Message.Detection.spelling.isImmaterialTo,
      Message.Classification.spelling.isImmaterialTo,
      Message.ClassificationList.spelling.isImmaterialTo⟩,
    fun _ _ _ _ here there same => parse_eq_of_respelled here there same,
    fun _ _ found strange => strange.parse_eq found⟩

/-- An object and an array, with and without the default of a field, and a name that graphs do not
know. -/
theorem spelling_immaterial_to_array :
    parse "\x7b\"frames\":[],\"input_stream\":\"camera\"\x7d" = parse "[\"camera\"]" ∧
      parse "\x7b\"frame\":[]\x7d" = .error .unreadable := by
  obtain ⟨_, _, same, strange⟩ := spelling_immaterial
  let members : List (String × Json) := [("frames", .array []), ("input_stream", .string "camera")]
  have listed : spelling.Respells (.object members) (.array [.string "camera"]) := by
    refine .listed (by decide) (fun _ => by decide) fun index field found => ?_
    match index, found with
    | 0, rfl => exact .member rfl
    | 1, rfl => exact .missing rfl
    | 2, rfl => exact .missing rfl
    | 3, rfl => exact .cut rfl ⟨_, rfl, rfl⟩
    | 4, rfl => exact .missing rfl
  exact ⟨same _ _ _ _ (by cbv) (by cbv) (.rel _ _ listed),
    strange _ (.object [("frame", .array [])]) (by cbv)
      (.graph List.mem_cons_self (by decide))⟩

end Graph

end FrameFlow

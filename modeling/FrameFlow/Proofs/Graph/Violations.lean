import FrameFlow.Proofs.Graph.Acceptance
import FrameFlow.Proofs.StreamMap
import Mathlib.Data.List.TakeWhile

/-!
What is reported of a graph. Exactly the well-formed graphs are accepted, and of any other
one the report names the first condition that does not hold: those on the declarations come
before the script, the frames of the script in their order, and in each frame its packets.
-/

namespace FrameFlow

namespace Text

theorem trim_eq_nil_iff {text : List Char} :
    trim text = [] ↔ ∀ c ∈ text, isBlank c = true := by
  rw [trim, List.reverse_eq_nil_iff, List.dropWhile_eq_nil_iff]
  constructor
  · intro blank c member
    have split : text = text.takeWhile isBlank ++ text.dropWhile isBlank :=
      List.takeWhile_append_dropWhile.symm
    rw [split] at member
    rcases List.mem_append.mp member with leading | later
    · exact List.mem_takeWhile_imp leading
    · exact blank c (List.mem_reverse.mpr later)
  · intro blank c member
    exact blank c (List.dropWhile_subset _ (List.mem_reverse.mp member))

end Text

namespace Graph

variable {graph : Graph} {frame : Nat} {violation : GraphViolation}

theorem isBlankName_iff {name : String} :
    isBlankName name = true ↔ ∀ c ∈ name.toList, Text.isBlank c = true := by
  rw [isBlankName, List.isEmpty_iff, Text.trim_eq_nil_iff]

/-- Nothing else that is declared has the name of the preview. -/
def PreviewApart (graph : Graph) : Prop :=
  ∀ preview, graph.previewStream = some preview →
    preview ≠ graph.inputStream ∧ graph.outputStreams.find? preview = none

def ImageFree (graph : Graph) : Prop :=
  ∀ stream, graph.outputStreams.find? stream ≠ some .image

/-- A frame names no stream twice, and each one as it is declared. -/
def Conforms (graph : Graph) (packets : List ScriptedPacket) : Prop :=
  (packets.map (·.stream)).Nodup ∧ ∀ packet ∈ packets, graph.Declares packet

/-- What is wrong with a packet, after others of its frame: its stream is not declared, or else
they have named it, or else it is declared with another kind. -/
inductive Offends (graph : Graph) (frame : Nat) (before : List ScriptedPacket)
    (packet : ScriptedPacket) : GraphViolation → Prop where
  | undeclared (unknown : graph.outputStreams.find? packet.stream = none) :
      Offends graph frame before packet (.undeclared frame packet.stream)
  | repeated {declared : PayloadKind}
      (known : graph.outputStreams.find? packet.stream = some declared)
      (named : packet.stream ∈ before.map (·.stream)) :
      Offends graph frame before packet (.repeated frame packet.stream)
  | mistyped {declared found : PayloadKind}
      (known : graph.outputStreams.find? packet.stream = some declared)
      (fresh : packet.stream ∉ before.map (·.stream))
      (kind : packet.value.kind? = some found) (unlike : found ≠ declared) :
      Offends graph frame before packet (.mistyped frame packet.stream found declared)

/-- The first thing that is wrong with a graph: everything that is looked at earlier is as it
should be. -/
inductive FirstOffends (graph : Graph) : GraphViolation → Prop where
  | blankInput (blank : ∀ c ∈ graph.inputStream.toList, Text.isBlank c = true) :
      FirstOffends graph .blankInput
  | inputIsOutput (named : isBlankName graph.inputStream = false)
      (declared : graph.outputStreams.contains graph.inputStream = true) :
      FirstOffends graph (.inputIsOutput graph.inputStream)
  | previewCollides {preview : String} (named : isBlankName graph.inputStream = false)
      (inputApart : graph.outputStreams.find? graph.inputStream = none)
      (shown : graph.previewStream = some preview)
      (collides : preview = graph.inputStream ∨ graph.outputStreams.contains preview = true) :
      FirstOffends graph (.previewCollides preview)
  | imageOutput {stream : String} (named : isBlankName graph.inputStream = false)
      (inputApart : graph.outputStreams.find? graph.inputStream = none)
      (previewApart : graph.PreviewApart)
      (declared : graph.outputStreams.find? stream = some .image)
      (least : ∀ other, graph.outputStreams.find? other = some .image → other ≠ stream →
        Text.bytes stream < Text.bytes other) :
      FirstOffends graph (.imageOutput stream)
  | scripted {earlier later : List (List ScriptedPacket)} {before after : List ScriptedPacket}
      {packet : ScriptedPacket} {violation : GraphViolation}
      (named : isBlankName graph.inputStream = false)
      (inputApart : graph.outputStreams.find? graph.inputStream = none)
      (previewApart : graph.PreviewApart) (imageFree : graph.ImageFree)
      (script : graph.frames = earlier ++ (before ++ packet :: after) :: later)
      (earlierConform : ∀ packets ∈ earlier, graph.Conforms packets)
      (beforeConform : graph.Conforms before)
      (offends : graph.Offends earlier.length before packet violation) :
      FirstOffends graph violation

section Script

variable {seen : List String} {packet : ScriptedPacket} {packets : List ScriptedPacket}
variable {earlier frames : List (List ScriptedPacket)}

theorem packetViolation?_eq_some_iff (before : List ScriptedPacket)
    (same : ∀ stream, stream ∈ seen ↔ stream ∈ before.map (·.stream)) :
    graph.packetViolation? frame seen packet = some violation ↔
      graph.Offends frame before packet violation := by
  constructor
  · intro found
    unfold packetViolation? at found
    cases known : graph.outputStreams.find? packet.stream with
    | none =>
        simp only [known] at found
        obtain rfl := Option.some.inj found
        exact .undeclared known
    | some declared =>
        simp only [known] at found
        split at found
        · rename_i named
          obtain rfl := Option.some.inj found
          exact .repeated known ((same _).mp named)
        · rename_i fresh
          split at found
          · contradiction
          · rename_i kind
            split at found
            · contradiction
            · rename_i unlike
              obtain rfl := Option.some.inj found
              exact .mistyped known (fun named => fresh ((same _).mpr named)) kind unlike
  · intro offends
    cases offends with
    | undeclared unknown => simp [packetViolation?, unknown]
    | repeated known named => simp [packetViolation?, known, (same _).mpr named]
    | mistyped known fresh kind unlike =>
        have notSeen : packet.stream ∉ seen := fun named => fresh ((same _).mp named)
        simp [packetViolation?, known, notSeen, kind, unlike]

theorem frameViolation?_append (seen : List String) (before packets : List ScriptedPacket) :
    graph.frameViolation? frame seen (before ++ packets) =
      (graph.frameViolation? frame seen before).or
        (graph.frameViolation? frame ((before.map (·.stream)).reverse ++ seen) packets) := by
  induction before generalizing seen with
  | nil => rfl
  | cons packet rest ih =>
      simp [frameViolation?, ih, Option.or_assoc]

theorem framesViolation?_append (frame : Nat) (earlier frames : List (List ScriptedPacket)) :
    graph.framesViolation? frame (earlier ++ frames) =
      (graph.framesViolation? frame earlier).or
        (graph.framesViolation? (frame + earlier.length) frames) := by
  induction earlier generalizing frame with
  | nil => rfl
  | cons packets rest ih =>
      simp [framesViolation?, ih, Option.or_assoc, Nat.add_comm, Nat.add_left_comm]

theorem conforms_iff :
    graph.frameViolation? frame [] packets = none ↔ graph.Conforms packets := by
  rw [frameViolation?_eq_none_iff, Conforms, and_comm]
  simp

/-- The report on a frame is on the first of its packets that offends. -/
theorem frameViolation?_eq_some_iff :
    graph.frameViolation? frame seen packets = some violation ↔
      ∃ before packet after, packets = before ++ packet :: after ∧
        graph.frameViolation? frame seen before = none ∧
        graph.packetViolation? frame ((before.map (·.stream)).reverse ++ seen) packet =
          some violation := by
  constructor
  · intro found
    induction packets generalizing seen with
    | nil => contradiction
    | cons packet rest ih =>
        rcases Option.or_eq_some_iff.mp found with here | ⟨fine, later⟩
        · exact ⟨[], packet, rest, rfl, rfl, here⟩
        · obtain ⟨before, other, after, rfl, beforeFine, there⟩ := ih later
          refine ⟨packet :: before, other, after, rfl, ?_, by simpa using there⟩
          rw [frameViolation?, fine, beforeFine]
          rfl
  · rintro ⟨before, packet, after, rfl, fine, found⟩
    rw [frameViolation?_append, fine, frameViolation?, found]
    rfl

/-- The report on a script is on the first of its frames that does not conform. -/
theorem framesViolation?_eq_some_iff :
    graph.framesViolation? frame frames = some violation ↔
      ∃ earlier packets later, frames = earlier ++ packets :: later ∧
        graph.framesViolation? frame earlier = none ∧
        graph.frameViolation? (frame + earlier.length) [] packets = some violation := by
  constructor
  · intro found
    induction frames generalizing frame with
    | nil => contradiction
    | cons packets rest ih =>
        rcases Option.or_eq_some_iff.mp found with here | ⟨fine, later⟩
        · exact ⟨[], packets, rest, rfl, rfl, here⟩
        · obtain ⟨earlier, others, last, rfl, earlierFine, there⟩ := ih later
          refine ⟨packets :: earlier, others, last, rfl, ?_, ?_⟩
          · rw [framesViolation?, fine, earlierFine]
            rfl
          · rwa [List.length_cons, Nat.add_comm earlier.length, ← Nat.add_assoc]
  · rintro ⟨earlier, packets, later, rfl, fine, found⟩
    rw [framesViolation?_append, fine, framesViolation?, found]
    rfl

/-- A script conforms, or one of its packets is the first that does not. -/
theorem framesViolation?_eq_some_iff_offends :
    graph.framesViolation? 0 frames = some violation ↔
      ∃ earlier before packet after later,
        frames = earlier ++ (before ++ packet :: after) :: later ∧
        (∀ packets ∈ earlier, graph.Conforms packets) ∧ graph.Conforms before ∧
        graph.Offends earlier.length before packet violation := by
  rw [framesViolation?_eq_some_iff]
  constructor
  · rintro ⟨earlier, packets, later, split, earlierFine, found⟩
    obtain ⟨before, packet, after, rfl, beforeFine, offends⟩ :=
      frameViolation?_eq_some_iff.mp found
    rw [packetViolation?_eq_some_iff before (by simp), Nat.zero_add] at offends
    exact ⟨earlier, before, packet, after, later, split,
      framesViolation?_eq_none_iff.mp earlierFine, conforms_iff.mp beforeFine, offends⟩
  · rintro ⟨earlier, before, packet, after, later, split, earlierConform, beforeConform, offends⟩
    refine ⟨earlier, before ++ packet :: after, later, split,
      framesViolation?_eq_none_iff.mpr earlierConform, frameViolation?_eq_some_iff.mpr ?_⟩
    refine ⟨before, packet, after, rfl, conforms_iff.mpr beforeConform, ?_⟩
    rw [packetViolation?_eq_some_iff before (by simp), Nat.zero_add]
    exact offends

end Script

theorem imageFree_iff :
    graph.outputStreams.entries.find? (·.2 == .image) = none ↔ graph.ImageFree := by
  rw [List.find?_eq_none]
  constructor
  · intro free stream declared
    exact free (stream, .image) (StreamMap.mem_entries_iff.mpr declared) rfl
  · rintro free ⟨stream, kind⟩ member same
    obtain rfl : kind = .image := by simpa using same
    exact free stream (StreamMap.mem_entries_iff.mp member)

/-- A preview that has the name of another stream, as it is looked for. -/
def collision? (graph : Graph) : Option String :=
  graph.previewStream.filter fun preview =>
    preview == graph.inputStream || graph.outputStreams.contains preview

theorem previewApart_iff : graph.collision? = none ↔ graph.PreviewApart := by
  simp [collision?, PreviewApart, Option.filter_eq_none_iff, StreamMap.contains]

theorem declarationViolation?_eq (named : isBlankName graph.inputStream = false)
    (inputApart : graph.outputStreams.find? graph.inputStream = none) :
    graph.declarationViolation? = (graph.collision?.map .previewCollides).or
      ((graph.outputStreams.entries.find? (·.2 == .image)).map fun entry =>
        .imageOutput entry.1) := by
  simp [declarationViolation?, collision?, named, StreamMap.contains, inputApart]

theorem declarationViolation?_eq_none_iff :
    graph.declarationViolation? = none ↔
      isBlankName graph.inputStream = false ∧
        graph.outputStreams.find? graph.inputStream = none ∧
        graph.PreviewApart ∧ graph.ImageFree := by
  constructor
  · exact declarationViolation?_eq_none
  · rintro ⟨named, inputApart, previewApart, imageFree⟩
    rw [declarationViolation?_eq named inputApart, previewApart_iff.mpr previewApart,
      imageFree_iff.mpr imageFree]
    rfl

theorem firstOffends_of_declarations (found : graph.declarationViolation? = some violation) :
    graph.FirstOffends violation := by
  by_cases blank : isBlankName graph.inputStream = true
  · simp only [declarationViolation?, blank, if_true] at found
    obtain rfl := Option.some.inj found
    exact .blankInput (isBlankName_iff.mp blank)
  · have named := eq_false_of_ne_true blank
    cases declared : graph.outputStreams.find? graph.inputStream with
    | some kind =>
        have both : graph.outputStreams.contains graph.inputStream = true := by
          rw [StreamMap.contains, declared, Option.isSome_some]
        simp only [declarationViolation?, named, both, if_true, Bool.false_eq_true, if_false]
          at found
        obtain rfl := Option.some.inj found
        exact .inputIsOutput named both
    | none =>
        rw [declarationViolation?_eq named declared] at found
        rcases Option.or_eq_some_iff.mp found with collides | ⟨apart, image⟩
        · obtain ⟨preview, collision, rfl⟩ := Option.map_eq_some_iff.mp collides
          obtain ⟨shown, same⟩ := Option.filter_eq_some_iff.mp collision
          refine .previewCollides named declared shown ?_
          simpa using same
        · obtain ⟨⟨stream, kind⟩, first, rfl⟩ := Option.map_eq_some_iff.mp image
          have least := StreamMap.isLeast_of_find?_entries first
          obtain rfl : kind = .image := by simpa using least.holds
          exact .imageOutput named declared (previewApart_iff.mp (Option.map_eq_none_iff.mp apart))
            least.found fun other also unlike => least.least other .image also rfl unlike

theorem violation?_eq_some_iff :
    graph.violation? = some violation ↔ graph.FirstOffends violation := by
  constructor
  · intro found
    rcases Option.or_eq_some_iff.mp found with declarations | ⟨fine, script⟩
    · exact firstOffends_of_declarations declarations
    · obtain ⟨named, inputApart, previewApart, imageFree⟩ :=
        declarationViolation?_eq_none_iff.mp fine
      obtain ⟨earlier, before, packet, after, later, split, earlierConform, beforeConform,
        offends⟩ := framesViolation?_eq_some_iff_offends.mp script
      exact .scripted named inputApart previewApart imageFree split earlierConform beforeConform
        offends
  · intro first
    cases first with
    | blankInput blank =>
        simp [violation?, declarationViolation?, isBlankName_iff.mpr blank]
    | inputIsOutput named declared => simp [violation?, declarationViolation?, named, declared]
    | @previewCollides preview named inputApart shown collides =>
        have collision : graph.collision? = some preview := by
          rw [collision?, Option.filter_eq_some_iff]
          exact ⟨shown, by simpa using collides⟩
        rw [violation?, declarationViolation?_eq named inputApart, collision]
        rfl
    | @imageOutput stream named inputApart previewApart declared least =>
        have image : graph.outputStreams.entries.find? (·.2 == .image) = some (stream, .image) := by
          refine StreamMap.find?_entries_eq_some_iff.mpr ⟨declared, rfl, ?_⟩
          intro other kind also same unlike
          obtain rfl : kind = .image := by simpa using same
          exact least other also unlike
        rw [violation?, declarationViolation?_eq named inputApart,
          previewApart_iff.mpr previewApart, image]
        rfl
    | scripted named inputApart previewApart imageFree split earlierConform beforeConform offends =>
        rw [violation?, declarationViolation?_eq_none_iff.mpr
          ⟨named, inputApart, previewApart, imageFree⟩, Option.none_or]
        exact framesViolation?_eq_some_iff_offends.mpr ⟨_, _, _, _, _, split, earlierConform,
          beforeConform, offends⟩

theorem violation?_eq_none_iff : graph.violation? = none ↔ graph.WellFormed := by
  constructor
  · exact wellFormed_of_accepted
  · intro wellFormed
    rw [violation?, Option.or_eq_none_iff, declarationViolation?_eq_none_iff,
      framesViolation?_eq_none_iff]
    exact ⟨⟨wellFormed.input_not_blank, wellFormed.input_not_output, wellFormed.preview_apart,
      wellFormed.no_image_output⟩, fun packets member =>
        ⟨wellFormed.once_per_frame packets member, wellFormed.declared packets member⟩⟩

/-- A graph that could be read is accepted exactly if it is well-formed. Otherwise it is refused
as an invalid argument, for the first thing that is wrong with it. -/
theorem check_some (graph : Graph) :
    (Graph.check (some graph) = .ok graph ↔ graph.WellFormed) ∧
      ∀ violation, (Graph.check (some graph) = .error violation ↔ graph.FirstOffends violation) ∧
        violation.status.code = .invalidArgument := by
  rw [← violation?_eq_none_iff]
  simp only [← violation?_eq_some_iff, Graph.check]
  cases graph.violation? with
  | none => simp [GraphViolation.status]
  | some violation => simp [GraphViolation.status]

end Graph

end FrameFlow

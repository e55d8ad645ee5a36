import FrameFlow.Proofs.Frame.Slices
import FrameFlow.Replay.Run

/-!
The frames that a source gives. A readable stream of bytes is cut into as many frames as fit into
it, however its bytes are spread over the reads.
-/

namespace FrameFlow

/-- All bytes of a readable stream are handed out before it ends. -/
theorem delivered_of_allBytes {reads : List Read} {bytes : List UInt8}
    (readable : allBytes reads = .ok bytes) : delivered reads = (bytes, .endOfFile) := by
  fun_induction allBytes reads generalizing bytes with
  | case1 | case2 | case3 =>
      cases readable
      rfl
  | case4 rest ih => exact ih readable
  | case5 => contradiction
  | case6 chunk rest nonempty ih =>
      cases found : allBytes rest with
      | error reason =>
          rw [found] at readable
          contradiction
      | ok tail =>
          rw [found] at readable
          cases readable
          rw [delivered_bytes nonempty, ih found]
          rfl

namespace FrameSource

variable {width height : Nat}

/-- A source gives a number of frames of its size, and then it is at its end. -/
inductive Gives (width height : Nat) : Nat → FrameSource → Prop
  | ends {source : FrameSource} : source.next? = none → Gives width height 0 source
  | gives {count : Nat} {source rest : FrameSource} {frame : Frame} :
      source.next? = some (.ok frame, rest) → frame.width = width → frame.height = height →
      Gives width height count rest → Gives width height (count + 1) source

theorem gives_solid (positive : width ≠ 0 ∧ height ≠ 0) (index count : Nat) :
    Gives width height count (.solid width height index (index + count)) := by
  induction count generalizing index with
  | zero => exact .ends (if_neg (Nat.lt_irrefl _))
  | succ count ih =>
      have later := ih (index + 1)
      rw [Nat.add_right_comm] at later
      have next : (FrameSource.solid width height index (index + (count + 1))).next? =
          some (captured (Frame.filled width height (shade index)),
            .solid width height (index + 1) (index + (count + 1))) := if_pos (by omega)
      obtain ⟨frame, built⟩ : ∃ frame, Frame.filled width height (shade index) = .ok frame :=
        Frame.exists_filled_iff.mpr (by omega)
      obtain ⟨⟨wide, high⟩, _⟩ := Frame.repeats_of_filled built
      rw [built] at next
      exact .gives next wide high later

theorem gives_of_yields {source : FrameSource} {frames : List Frame}
    (yields : Yields source (frames.map .ok))
    (sized : ∀ frame ∈ frames, frame.width = width ∧ frame.height = height) :
    Gives width height frames.length source := by
  induction frames generalizing source with
  | nil =>
      cases yields with
      | ends none => exact .ends none
  | cons frame rest ih =>
      cases yields with
      | gives next later =>
          obtain ⟨wide, high⟩ := sized frame List.mem_cons_self
          exact .gives next wide high
            (ih later fun other member => sized other (List.mem_cons_of_mem _ member))

theorem Gives.exists_yields {count : Nat} {source : FrameSource}
    (gives : Gives width height count source) :
    ∃ frames : List Frame, frames.length = count ∧ source.Yields (frames.map .ok) ∧
      ∀ frame ∈ frames, frame.width = width ∧ frame.height = height := by
  induction gives with
  | ends none => exact ⟨[], rfl, .ends none, nofun⟩
  | @gives count source rest frame next wide high later ih =>
      obtain ⟨frames, number, yields, sized⟩ := ih
      exact ⟨frame :: frames, congrArg (· + 1) number, .gives next yields,
        List.forall_mem_cons.mpr ⟨⟨wide, high⟩, sized⟩⟩

/-- A readable stream of bytes gives as many frames as fit into it. -/
theorem gives_raw (sides : 0 < width ∧ 0 < height) (sized : 0 < frameBytes width height)
    {reads : List Read} {bytes : List UInt8} (readable : allBytes reads = .ok bytes) :
    Gives width height (bytes.length / frameBytes width height) (.raw width height reads) := by
  obtain ⟨frames, number, holds, yields⟩ := exists_frames sides sized bytes .endOfFile
  have whole := yields reads (delivered_of_allBytes readable)
  rw [ReadEnd.told, List.append_nil] at whole
  rw [← number]
  refine gives_of_yields whole fun frame member => ?_
  obtain ⟨index, found⟩ := List.mem_iff_getElem?.mp member
  obtain ⟨wide, high, _⟩ := holds index frame found
  exact ⟨wide, high⟩

end FrameSource

/-- Some frames, each with the stamp of its place. -/
def Replay.stampedFrames (step : Int) (frames : List Frame) : List StampedFrame :=
  frames.mapIdx fun index frame => ⟨stepTimestamp step index, frame⟩

/-- How many of the frames that a source has are fed, where some were fed before. -/
def remaining (limit : Option Nat) (fed available : Nat) : Nat :=
  match limit with
  | none => available
  | some limit => min (limit - fed) available

theorem remaining_zero (limit : Option Nat) (fed : Nat) : remaining limit fed 0 = 0 := by
  cases limit <;> simp [remaining]

theorem remaining_of_le {limit fed : Nat} (reached : limit ≤ fed) (available : Nat) :
    remaining (some limit) fed available = 0 := by
  simp only [remaining]
  omega

theorem remaining_succ {limit : Option Nat} {fed : Nat}
    (below : ∀ most, limit = some most → fed < most) (available : Nat) :
    remaining limit fed (available + 1) = remaining limit (fed + 1) available + 1 := by
  cases limit with
  | none => rfl
  | some most =>
      have := below most rfl
      simp only [remaining]
      omega

/-- How many frames of some bytes each there are for a plan: all synthetic ones, if they can be
paced, or those that fit into a readable file, up to the limit. -/
def ReplayPlan.framesOf (plan : ReplayPlan) (size : Nat) (files : String → FileAccess) :
    Option Nat :=
  match plan.input with
  | .synthetic count fps => if FrameSource.isPaceable fps then some count else none
  | .rawFile path limit =>
      match files path with
      | .refused _ => none
      | .opened reads =>
          match allBytes reads with
          | .error _ => none
          | .ok bytes =>
              let whole := bytes.length / size
              some (limit.elim whole (min · whole))

/-- How many frames can be taken from the input of a plan: the bytes of each are counted in a
machine word. -/
def ReplayPlan.available (plan : ReplayPlan) (files : String → FileAccess) : Option Nat :=
  plan.framesOf (frameBytes plan.width plan.height) files

/-- The source of a plan can be opened and gives its frames. -/
theorem ReplayPlan.exists_openInput {plan : ReplayPlan} {files : String → FileAccess} {count : Nat}
    (positive : plan.width ≠ 0 ∧ plan.height ≠ 0) (sized : 0 < frameBytes plan.width plan.height)
    (offered : plan.available files = some count) :
    ∃ source limit available, Replay.openInput plan files = .ok (source, limit) ∧
      FrameSource.Gives plan.width plan.height available source ∧ available ≤ source.bound ∧
      remaining limit 0 available = count := by
  have known : Frame.byteCount plan.width plan.height = .ok (frameBytes plan.width plan.height) :=
    if_neg (not_or.mpr positive)
  cases input : plan.input with
  | synthetic number fps =>
      simp only [available, framesOf, input] at offered
      split at offered
      · rename_i paced
        cases offered
        have gives := FrameSource.gives_solid positive 0 count
        rw [Nat.zero_add] at gives
        refine ⟨_, none, count, ?_, gives, Nat.le_refl _, rfl⟩
        simp only [Replay.openInput, input, FrameSource.synthetic, known, paced, if_true]
      · contradiction
  | rawFile path limit =>
      simp only [available, framesOf, input] at offered
      cases access : files path with
      | refused reason =>
          rw [access] at offered
          contradiction
      | opened reads =>
          simp only [access] at offered
          cases readable : allBytes reads with
          | error reason =>
              rw [readable] at offered
              contradiction
          | ok bytes =>
              simp only [readable, Option.some.injEq] at offered
              have gives := FrameSource.gives_raw (by omega) sized readable
              have most := length_delivered_le reads
              rw [delivered_of_allBytes readable] at most
              have bounded : bytes.length / frameBytes plan.width plan.height ≤
                  FrameSource.byteTotal reads + 1 :=
                Nat.le_trans (Nat.div_le_self ..) (Nat.le_succ_of_le most)
              refine ⟨_, limit, _, ?_, gives, bounded, ?_⟩
              · simp only [Replay.openInput, input, access, FileAccess.frameSource,
                  FrameSource.ofReads, known]
              · rw [← offered]
                cases limit <;> rfl

namespace Replay

variable {plan : ReplayPlan} {files : String → FileAccess} {count : Nat}

/-- The frames that a plan's input gives, one after the other. -/
def inputFrames (plan : ReplayPlan) (files : String → FileAccess) : List Frame :=
  match openInput plan files with
  | .error _ => []
  | .ok (source, _) => source.toList.filterMap Except.toOption

/-- The input of a plan gives its frames and nothing else, and these are enough. -/
theorem exists_input (positive : plan.width ≠ 0 ∧ plan.height ≠ 0)
    (sized : 0 < frameBytes plan.width plan.height)
    (offered : plan.available files = some count) :
    ∃ source limit, openInput plan files = .ok (source, limit) ∧
      source.Yields ((inputFrames plan files).map .ok) ∧
      (inputFrames plan files).length ≤ source.bound ∧
      remaining limit 0 (inputFrames plan files).length = count ∧
      count ≤ (inputFrames plan files).length ∧
      ∀ frame ∈ inputFrames plan files, frame.width = plan.width ∧ frame.height = plan.height := by
  obtain ⟨source, limit, available, opens, gives, bounded, total⟩ :=
    plan.exists_openInput positive sized offered
  obtain ⟨frames, number, yields, sides⟩ := gives.exists_yields
  subst number
  have same : inputFrames plan files = frames := by
    rw [inputFrames, opens]
    have whole : source.toList = frames.map .ok :=
      yields.take_eq (by rw [List.length_map]; exact bounded)
    simp only [whole, List.filterMap_map]
    exact List.filterMap_some
  have most : count ≤ frames.length := by
    rw [← total]
    cases limit <;> simp only [remaining] <;> omega
  rw [same]
  exact ⟨source, limit, opens, yields, bounded, total, most, sides⟩

end Replay

end FrameFlow

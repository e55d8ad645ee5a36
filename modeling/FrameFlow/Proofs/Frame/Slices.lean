import FrameFlow.Frame.Source
import FrameFlow.Proofs.Frame.Pixels
import Mathlib.Logic.Relation

/-!
What a source cuts out of a raw stream. It depends on the bytes that the stream hands out and on
how the stream ends; how the bytes are spread over reads, and where reads are interrupted, makes
no difference.
-/

namespace FrameFlow

/-- The bytes that a stream hands out before it ends, and the end. -/
def delivered : List Read → List UInt8 × ReadEnd
  | [] | .endOfFile :: _ | .bytes [] :: _ => ([], .endOfFile)
  | .failure reason :: _ => ([], .failure reason)
  | .interrupted :: rest => delivered rest
  | .bytes bytes :: rest => (delivered rest).map (bytes ++ ·) id

section Delivered

variable {wanted : Nat} {reads others rest : List Read} {chunk bytes : List UInt8}
  {ending : ReadEnd}

theorem delivered_bytes (nonempty : chunk ≠ []) (rest : List Read) :
    delivered (.bytes chunk :: rest) = (delivered rest).map (chunk ++ ·) id := by
  obtain ⟨first, others, rfl⟩ := List.exists_cons_of_ne_nil nonempty
  simp only [delivered]

theorem exists_of_delivered_cons (nonempty : chunk ≠ [])
    (delivers : delivered (.bytes chunk :: rest) = (bytes, ending)) :
    ∃ tail, delivered rest = (tail, ending) ∧ bytes = chunk ++ tail := by
  rw [delivered_bytes nonempty] at delivers
  obtain ⟨rfl, rfl⟩ := Prod.mk.inj delivers
  exact ⟨(delivered rest).1, rfl, rfl⟩

/-- A read of exactly some bytes gets the first ones that are handed out, and leaves the
others. -/
theorem readExactly_of_le (delivers : delivered reads = (bytes, ending))
    (enough : wanted ≤ bytes.length) :
    ∃ left, readExactly wanted reads = (.ok (bytes.take wanted), left) ∧
      delivered left = (bytes.drop wanted, ending) := by
  fun_induction readExactly wanted reads generalizing bytes with
  | case1 reads => exact ⟨reads, rfl, delivers⟩
  | case2 wanted some | case3 wanted rest some | case4 wanted reason rest some
  | case6 wanted rest some =>
      obtain ⟨rfl, _⟩ := Prod.mk.inj delivers
      exact absurd (Nat.le_zero.mp enough) some
  | case5 wanted rest some ih => exact ih delivers enough
  | case7 wanted chunk rest some nonempty fewer =>
      obtain ⟨tail, found, rfl⟩ := exists_of_delivered_cons nonempty delivers
      have remains : chunk.drop wanted ≠ [] := by simpa using fewer
      refine ⟨.bytes (chunk.drop wanted) :: rest, ?_, ?_⟩
      · rw [List.take_append_of_le_length (Nat.le_of_lt fewer)]
      · rw [delivered_bytes remains, found, List.drop_append_of_le_length (Nat.le_of_lt fewer)]
        rfl
  | case8 wanted chunk rest some nonempty all remaining left same ih =>
      obtain ⟨tail, found, rfl⟩ := exists_of_delivered_cons nonempty delivers
      rw [List.length_append] at enough
      obtain ⟨later, read, kept⟩ := ih found (by omega)
      cases same.symm.trans read
      refine ⟨left, ?_, ?_⟩
      · rw [List.take_append, List.take_of_length_le (Nat.le_of_not_lt all)]
        rfl
      · rw [List.drop_append, List.drop_of_length_le (Nat.le_of_not_lt all), List.nil_append]
        exact kept

/-- A read of more bytes than are handed out comes to the end of the stream. -/
theorem readExactly_of_lt (delivers : delivered reads = (bytes, ending))
    (few : bytes.length < wanted) : (readExactly wanted reads).1 = .error ending := by
  fun_induction readExactly wanted reads generalizing bytes with
  | case1 => contradiction
  | case2 | case3 | case4 | case6 => exact congrArg Except.error (congrArg Prod.snd delivers)
  | case5 wanted rest some ih => exact ih delivers few
  | case7 wanted chunk rest some nonempty fewer =>
      obtain ⟨tail, found, rfl⟩ := exists_of_delivered_cons nonempty delivers
      rw [List.length_append] at few
      omega
  | case8 wanted chunk rest some nonempty all remaining left same ih =>
      obtain ⟨tail, found, rfl⟩ := exists_of_delivered_cons nonempty delivers
      rw [List.length_append] at few
      have ends := ih found (by omega)
      rw [same] at ends
      cases ends
      rfl

theorem byteTotal_cons (read : Read) (rest : List Read) :
    FrameSource.byteTotal (read :: rest) =
      (match read with | .bytes bytes => bytes.length | _ => 0) + FrameSource.byteTotal rest := by
  rw [FrameSource.byteTotal, FrameSource.byteTotal, ← List.sum_eq_foldl, ← List.sum_eq_foldl]
  exact List.sum_cons

theorem length_delivered_le (reads : List Read) :
    (delivered reads).1.length ≤ FrameSource.byteTotal reads := by
  induction reads with
  | nil => exact Nat.zero_le _
  | cons read rest ih =>
      rw [byteTotal_cons]
      match read with
      | .endOfFile | .failure reason | .bytes [] => exact Nat.zero_le _
      | .interrupted => exact Nat.le_trans ih (Nat.le_add_left ..)
      | .bytes (first :: others) =>
          simp only [delivered, Prod.map, List.length_append]
          exact Nat.add_le_add_left ih _

end Delivered

/-- What is told of the end of a stream. -/
def ReadEnd.told : ReadEnd → List (Except CaptureError Frame)
  | .endOfFile => []
  | .failure reason => [.error (.read reason)]

namespace FrameSource

/-- Everything that a source gives, in order, up to the end. -/
inductive Yields : FrameSource → List (Except CaptureError Frame) → Prop
  | ends {source : FrameSource} : source.next? = none → Yields source []
  | gives {source rest : FrameSource} {item : Except CaptureError Frame}
      {items : List (Except CaptureError Frame)} :
      source.next? = some (item, rest) → Yields rest items → Yields source (item :: items)

theorem Yields.take_eq {source : FrameSource} {items : List (Except CaptureError Frame)}
    (yields : Yields source items) {limit : Nat} (enough : items.length ≤ limit) :
    source.take limit = items := by
  induction yields generalizing limit with
  | ends none =>
      cases limit with
      | zero => rfl
      | succ limit => simp only [take, none]
  | gives next later ih =>
      cases limit with
      | zero => contradiction
      | succ limit => simp only [take, next, ih (Nat.le_of_succ_le_succ enough)]

theorem yields_told (width height : Nat) {reads : List Read} {bytes : List UInt8}
    {ending : ReadEnd} (delivers : delivered reads = (bytes, ending))
    (few : bytes.length < frameBytes width height) :
    Yields (.raw width height reads) ending.told := by
  have ends := readExactly_of_lt delivers few
  cases read : readExactly (frameBytes width height) reads with
  | mk result left =>
      rw [read] at ends
      obtain rfl : result = .error ending := ends
      cases ending with
      | endOfFile => exact .ends (by simp only [next?, read])
      | failure reason =>
          have next : (FrameSource.raw width height reads).next? =
              some (.error (.read reason), .exhausted) := by simp only [next?, read]
          exact .gives next (.ends rfl)

/-- A frame of a size with some bytes, which are as many as it has to have. -/
theorem exists_ofData {width height : Nat} (positive : 0 < width ∧ 0 < height)
    {bytes : List UInt8} (sized : bytes.length = frameBytes width height) :
    ∃ frame : Frame, Frame.ofData width height bytes.toArray = .ok frame ∧
      frame.width = width ∧ frame.height = height ∧ frame.data.toList = bytes :=
  ⟨⟨width, height, bytes.toArray, positive.1, positive.2, sized⟩,
    Frame.ofData_eq_ok_iff.mpr ⟨rfl, rfl, rfl⟩, rfl, rfl, rfl⟩

/-- The frames that fit into some bytes are what every stream gives that hands out just these
bytes. Frame by frame, they are used up from the front. -/
theorem exists_frames {width height : Nat} (positive : 0 < width ∧ 0 < height)
    (counted : 0 < frameBytes width height) (bytes : List UInt8) (ending : ReadEnd) :
    let size := frameBytes width height
    ∃ frames : List Frame, frames.length = bytes.length / size ∧
      (∀ index frame, frames[index]? = some frame → frame.width = width ∧
        frame.height = height ∧ frame.data.toList = (bytes.drop (index * size)).take size) ∧
      ∀ reads, delivered reads = (bytes, ending) →
        Yields (.raw width height reads) (frames.map .ok ++ ending.told) := by
  intro size
  have sized : 0 < size := counted
  induction count : bytes.length / size generalizing bytes with
  | zero =>
      have few : bytes.length < size := (Nat.div_eq_zero_iff_lt sized).mp count
      exact ⟨[], rfl, by simp, fun reads delivers => yields_told width height delivers few⟩
  | succ count ih =>
      have enough : size ≤ bytes.length := (Nat.div_pos_iff.mp (by omega)).2
      have fewer := Nat.div_eq_sub_div sized enough
      obtain ⟨frame, built, wide, high, data⟩ :=
        exists_ofData positive (List.length_take_of_le enough)
      obtain ⟨frames, number, holds, yields⟩ :=
        ih (bytes.drop size) (by rw [List.length_drop]; omega)
      refine ⟨frame :: frames, congrArg (· + 1) number, ?_, ?_⟩
      · intro index other found
        cases index with
        | zero =>
            cases found
            exact ⟨wide, high, by rw [data, Nat.zero_mul, List.drop_zero]⟩
        | succ index =>
            obtain ⟨wide, high, data⟩ := holds index other found
            exact ⟨wide, high, by rw [data, List.drop_drop, Nat.succ_mul, Nat.add_comm]⟩
      · intro reads delivers
        obtain ⟨left, read, kept⟩ := readExactly_of_le delivers enough
        have next : (FrameSource.raw width height reads).next? =
            some (captured (Frame.ofData width height (bytes.take size).toArray),
              .raw width height left) := by
          rw [next?, show readExactly (frameBytes width height) reads = _ from read]
        rw [built] at next
        exact .gives next (yields left kept)

end FrameSource

end FrameFlow

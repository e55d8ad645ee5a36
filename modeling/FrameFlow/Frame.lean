/-!
Frames: an interleaved buffer of three bytes a pixel, row after row. A frame cannot be
built empty or with a buffer of another size. So every pixel read is in bounds, unless the
size is too large for its bytes to be counted in a machine word.
-/

namespace FrameFlow

structure Pixel where
  red : UInt8
  green : UInt8
  blue : UInt8
deriving DecidableEq, Inhabited

namespace Pixel

def byteCount : Nat := 3

def toList (pixel : Pixel) : List UInt8 := [pixel.red, pixel.green, pixel.blue]

end Pixel

inductive FrameError where
  | empty (width height : Nat)
  | sizeMismatch (width height expected actual : Nat)
deriving DecidableEq

def FrameError.message : FrameError → String
  | .empty width height => s!"frame dimensions must be positive, got {width}x{height}"
  | .sizeMismatch width height expected actual =>
      s!"frame buffer holds {actual} bytes, expected {expected} for {width}x{height}"

/-- The bytes of a frame, counted in a machine word: a product past 64 bits wraps. -/
def frameBytes (width height : Nat) : Nat := width * height * Pixel.byteCount % 2 ^ 64

structure Frame where
  width : Nat
  height : Nat
  data : Array UInt8
  width_pos : 0 < width
  height_pos : 0 < height
  size_data : data.size = frameBytes width height
deriving DecidableEq

/-- Appends some items of a list that is repeated over and over, of which only `rest` is left
in the present round. -/
def pushCycle (whole : List α) : List α → Nat → Array α → Array α
  | _, 0, made => made
  | item :: rest, count + 1, made => pushCycle whole rest count (made.push item)
  | [], count + 1, made =>
      match whole with
      | [] => made
      | first :: rest => pushCycle whole rest count (made.push first)

namespace Frame

def byteCount (width height : Nat) : Except FrameError Nat :=
  if width = 0 ∨ height = 0 then .error (.empty width height)
  else .ok (frameBytes width height)

theorem byteCount_eq_ok_iff {width height count : Nat} :
    byteCount width height = .ok count ↔
      (0 < width ∧ 0 < height) ∧ frameBytes width height = count := by
  unfold byteCount
  split
  · simp only [reduceCtorEq, false_iff]
    omega
  · simp only [Except.ok.injEq]
    exact ⟨fun same => ⟨by omega, same⟩, And.right⟩

/-- A buffer seen as a frame. Empty dimensions are reported before a wrong size. -/
def ofData (width height : Nat) (data : Array UInt8) : Except FrameError Frame :=
  match counted : byteCount width height with
  | .error error => .error error
  | .ok expected =>
      if sized : data.size = expected then
        have facts := byteCount_eq_ok_iff.mp counted
        .ok ⟨width, height, data, facts.1.1, facts.1.2, sized.trans facts.2.symm⟩
      else .error (.sizeMismatch width height expected data.size)

def filled (width height : Nat) (pixel : Pixel) : Except FrameError Frame :=
  match byteCount width height with
  | .error error => .error error
  | .ok count => ofData width height (pushCycle pixel.toList pixel.toList count #[])

def black : Frame where
  width := 1
  height := 1
  data := #[0, 0, 0]
  width_pos := by decide
  height_pos := by decide
  size_data := rfl

instance : Inhabited Frame := ⟨black⟩

def offset (frame : Frame) (x y : Nat) : Nat := (y * frame.width + x) * 3

/-- The pixel at a position inside. Only where the bytes of a frame were not all counted can
the buffer end before it. -/
def pixel? (frame : Frame) (x y : Nat) : Option Pixel :=
  if x < frame.width ∧ y < frame.height then
    if bound : frame.offset x y + 2 < frame.data.size then
      some {
        red := frame.data[frame.offset x y]
        green := frame.data[frame.offset x y + 1]
        blue := frame.data[frame.offset x y + 2] }
    else none
  else none

def description (frame : Frame) : String :=
  s!"Frame \x7b width: {frame.width}, height: {frame.height}, format: Srgb, " ++
    s!"bytes: {frame.data.size} \x7d"

end Frame

end FrameFlow

import FrameFlow.Frame
import FrameFlow.Decimal.Layout
import FrameFlow.Text.Quoted

/-!
Where frames come from: solid frames of changing colour, or a raw byte stream cut into
frames. A byte stream is a list of reads, each of which hands out some bytes, is
interrupted, or fails; how the bytes are spread over the reads does not matter.
-/

namespace FrameFlow

inductive CaptureError where
  | cannotOpen (path reason : String)
  | frameRate (fps : Single)
  | frame (error : FrameError)
  | read (reason : String)
deriving DecidableEq

def rateLayout : Decimal.Layout where
  leastPositional := -1000
  positionalLimit := 1000
  keepsPoint := false
  signsExponent := false

def rateText (fps : Single) : String :=
  match fps.magnitude with
  | .finite significand exponent =>
      let (coefficient, power) := Decimal.shortest Binary.single significand exponent
      rateLayout.render fps.isNegative coefficient power
  | .infinite => if fps.isNegative then "-inf" else "inf"
  | .notANumber => "NaN"

namespace CaptureError

def message : CaptureError → String
  | .cannotOpen path _ => s!"failed to open frame source {Text.quoted path}"
  | .frameRate fps => s!"frame rate {rateText fps} gives no usable frame interval"
  | .frame error => error.message
  | .read reason => reason

def causes : CaptureError → List String
  | .cannotOpen _ reason => [reason]
  | .frameRate _ | .frame _ | .read _ => []

end CaptureError

inductive Read where
  | bytes (bytes : List UInt8)
  | interrupted
  | endOfFile
  | failure (reason : String)
deriving DecidableEq

inductive ReadEnd where
  | endOfFile
  | failure (reason : String)
deriving DecidableEq

/-- Exactly the wanted number of bytes from a stream, and what is left of it. An
interrupted read is tried again, and bytes beyond the wanted ones stay in the stream. -/
def readExactly : Nat → List Read → Except ReadEnd (List UInt8) × List Read
  | 0, reads => (.ok [], reads)
  | _, [] => (.error .endOfFile, [])
  | _, .endOfFile :: rest => (.error .endOfFile, rest)
  | _, .failure reason :: rest => (.error (.failure reason), rest)
  | wanted, .interrupted :: rest => readExactly wanted rest
  | _, .bytes [] :: rest => (.error .endOfFile, rest)
  | wanted, .bytes bytes :: rest =>
      if wanted < bytes.length then
        (.ok (bytes.take wanted), .bytes (bytes.drop wanted) :: rest)
      else
        let (remaining, left) := readExactly (wanted - bytes.length) rest
        (remaining.map (bytes ++ ·), left)

inductive FrameSource where
  | solid (width height index count : Nat)
  | raw (width height : Nat) (reads : List Read)
  | exhausted

namespace FrameSource

def shade (index : Nat) : Pixel :=
  let level := UInt8.ofNat index
  ⟨level, level * 3, 255 - level⟩

/-- Whether frames can be paced at a rate. Rates that are not positive mean no pace; the
time between frames at any other rate has to be a number of seconds below `2 ^ 64`. -/
def isPaceable (fps : Single) : Bool :=
  !fps.isPositive || fps.reciprocalCode < Binary.single.roundRatio (2 ^ 64) 1

def paceMillis (fps : Single) : Nat :=
  match fps.magnitude with
  | .finite significand exponent =>
      if fps.isPositive then 1000 * 2 ^ Binary.single.depth / (significand * 2 ^ exponent) else 0
  | _ => 0

def synthetic (width height count : Nat) (fps : Single) : Except CaptureError FrameSource :=
  match Frame.byteCount width height with
  | .error error => .error (.frame error)
  | .ok _ =>
      if isPaceable fps then .ok (.solid width height 0 count) else .error (.frameRate fps)

def ofReads (width height : Nat) (reads : List Read) : Except CaptureError FrameSource :=
  match Frame.byteCount width height with
  | .error error => .error (.frame error)
  | .ok _ => .ok (.raw width height reads)

def captured (frame : Except FrameError Frame) : Except CaptureError Frame :=
  frame.mapError .frame

/-- The next frame or error, and the source after it. A stream ends without a word where
its bytes do, even within a frame, and after an error that is told once. -/
def next? : FrameSource → Option (Except CaptureError Frame × FrameSource)
  | .exhausted => none
  | .solid width height index count =>
      if index < count then
        some (captured (Frame.filled width height (shade index)),
          .solid width height (index + 1) count)
      else none
  | .raw width height reads =>
      match readExactly (frameBytes width height) reads with
      | (.ok bytes, left) =>
          some (captured (Frame.ofData width height bytes.toArray), .raw width height left)
      | (.error .endOfFile, _) => none
      | (.error (.failure reason), _) => some (.error (.read reason), .exhausted)

def take : Nat → FrameSource → List (Except CaptureError Frame)
  | 0, _ => []
  | limit + 1, source =>
      match source.next? with
      | none => []
      | some (item, rest) => item :: take limit rest

def byteTotal (reads : List Read) : Nat :=
  (reads.map fun
    | .bytes bytes => bytes.length
    | _ => 0).foldl (· + ·) 0

/-- A bound on how much a source gives: every raw frame takes a byte at least, and one
error may follow. (Sides of 32 bits have no product that wraps to zero.) -/
def bound : FrameSource → Nat
  | .exhausted => 0
  | .solid _ _ index count => count - index
  | .raw _ _ reads => byteTotal reads + 1

def toList (source : FrameSource) : List (Except CaptureError Frame) := source.take source.bound

end FrameSource

end FrameFlow

import FrameFlow.Decimal.Reader
import FrameFlow.Replay.Preset

/-!
The flags of a replay. Arguments are first cut into settings, a flag with its text each;
then every text is read as its flag requires. A flag is given at most once, except that
streams add up.
-/

namespace FrameFlow

inductive Delivery where
  | callback
  | poll
deriving DecidableEq

namespace Delivery

def all : List Delivery := [.callback, .poll]

def name : Delivery → String
  | .callback => "callback"
  | .poll => "poll"

def ofName? (name : String) : Option Delivery := all.find? (·.name == name)

end Delivery

inductive Flag where
  | graph
  | task
  | mode
  | input
  | frames
  | size
  | fps
  | timestampStep
  | stream
  | preview
  | pollerCapacity
  | chromeTrace
  | metrics
deriving DecidableEq

namespace Flag

def all : List Flag :=
  [.graph, .task, .mode, .input, .frames, .size, .fps, .timestampStep, .stream, .preview,
    .pollerCapacity, .chromeTrace, .metrics]

def name : Flag → String
  | .graph => "graph"
  | .task => "task"
  | .mode => "mode"
  | .input => "input"
  | .frames => "frames"
  | .size => "size"
  | .fps => "fps"
  | .timestampStep => "timestamp-step-us"
  | .stream => "stream"
  | .preview => "preview"
  | .pollerCapacity => "poller-capacity"
  | .chromeTrace => "chrome-trace"
  | .metrics => "metrics"

def ofName? (name : String) : Option Flag := all.find? (·.name == name)

def isSwitch : Flag → Bool
  | .preview | .metrics => true
  | _ => false

def isRepeatable (flag : Flag) : Bool := flag == .stream

end Flag

abbrev Setting := Flag × String

namespace Setting

def ofArgument? (argument : String) : Option (Flag × Option String) :=
  match argument.toList with
  | '-' :: '-' :: written =>
      let attached :=
        match written.dropWhile (· != '=') with
        | [] => none
        | _ :: text => some (String.ofList text)
      (Flag.ofName? (String.ofList (written.takeWhile (· != '=')))).map (·, attached)
  | _ => none

/-- Whether an argument can be the text of the flag before it: it does not look like a flag
itself. A lone dash does not. -/
def isText (argument : String) : Bool := argument == "-" || !argument.startsWith "-"

/-- The settings in a list of arguments. Two dashes may close the list; nothing else is
allowed between flags. -/
def ofArguments? : List String → Option (List Setting)
  | [] => some []
  | argument :: rest =>
      if argument = "--" then if rest = [] then some [] else none
      else
        match ofArgument? argument with
        | none => none
        | some (flag, some attached) =>
            if flag.isSwitch then none else (ofArguments? rest).map ((flag, attached) :: ·)
        | some (flag, none) =>
            if flag.isSwitch then (ofArguments? rest).map ((flag, "") :: ·)
            else
              match rest with
              | [] => none
              | text :: rest =>
                  if isText text then (ofArguments? rest).map ((flag, text) :: ·) else none

def texts (settings : List Setting) (flag : Flag) : List String :=
  (settings.filter (·.1 == flag)).map (·.2)

end Setting

structure Flags where
  graph : String
  task : Preset
  mode : Delivery := .callback
  input : Option String := none
  /-- How many frames there are, or how many of a file's frames are used at most. -/
  frames : Option Nat := none
  size : String := "640x480"
  fps : Single := .zero
  timestampStep : Option Int := none
  streams : List String := []
  preview : Bool := false
  pollerCapacity : Option Nat := none
  chromeTrace : Option String := none
  metrics : Bool := false
deriving DecidableEq

namespace Flags

def count? (text : String) : Option Nat :=
  (Decimal.natural? text.toList).filter (· < 2 ^ 64)

def offset? (text : String) : Option Int :=
  (Decimal.integer? text.toList).filter fun value => decide (-2 ^ 63 ≤ value ∧ value < 2 ^ 63)

def single? (text : String) : Option Single := Decimal.single? text.toList

def path? (text : String) : Option String := if text = "" then none else some text

def reading? (read : String → Option α) (settings : List Setting) (flag : Flag) :
    Option (Option α) :=
  match Setting.texts settings flag with
  | [] => some none
  | text :: _ => (read text).map some

def ofSettings? (settings : List Setting) : Option Flags := do
  guard (Flag.all.all fun flag =>
    flag.isRepeatable || (Setting.texts settings flag).length ≤ 1)
  return {
    graph := ← ← reading? path? settings .graph
    task := ← ← reading? Preset.ofName? settings .task
    mode := (← reading? Delivery.ofName? settings .mode).getD .callback
    input := ← reading? path? settings .input
    frames := ← reading? count? settings .frames
    size := (← reading? some settings .size).getD "640x480"
    fps := (← reading? single? settings .fps).getD .zero
    timestampStep := ← reading? offset? settings .timestampStep
    streams := Setting.texts settings .stream
    preview := !(Setting.texts settings .preview).isEmpty
    pollerCapacity := ← reading? count? settings .pollerCapacity
    chromeTrace := ← reading? path? settings .chromeTrace
    metrics := !(Setting.texts settings .metrics).isEmpty }

def ofArguments? (arguments : List String) : Option Flags :=
  (Setting.ofArguments? arguments).bind ofSettings?

end Flags

end FrameFlow

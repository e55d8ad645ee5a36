/-! Statuses: how a graph engine says why a call or a packet failed. -/

namespace FrameFlow

inductive StatusCode where
  | invalidArgument
  | notFound
  | alreadyExists
  | failedPrecondition
  | unavailable
  | internal
deriving DecidableEq

namespace StatusCode

def all : List StatusCode :=
  [.invalidArgument, .notFound, .alreadyExists, .failedPrecondition, .unavailable, .internal]

def name : StatusCode → String
  | .invalidArgument => "invalid_argument"
  | .notFound => "not_found"
  | .alreadyExists => "already_exists"
  | .failedPrecondition => "failed_precondition"
  | .unavailable => "unavailable"
  | .internal => "internal"

def text : StatusCode → String
  | .invalidArgument => "invalid argument"
  | .notFound => "not found"
  | .alreadyExists => "already exists"
  | .failedPrecondition => "failed precondition"
  | .unavailable => "unavailable"
  | .internal => "internal"

def ofName? (name : String) : Option StatusCode := all.find? (·.name == name)

end StatusCode

structure Status where
  code : StatusCode
  message : String
deriving DecidableEq

def Status.text (status : Status) : String := s!"{status.code.text}: {status.message}"

end FrameFlow

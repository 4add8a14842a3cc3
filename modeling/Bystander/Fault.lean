import Bystander.Data.Basic
import Bystander.Decimal.Shortest
import Bystander.Text.Quoted
/-! # What can go wrong

A fault is a cause, with the number or name that was refused.  Its wording, its code and the details that are reported
with it are computed from the cause, in one place.  Faults that a callback brings in from outside come as finished
reports.
-/
namespace Bystander

inductive ErrorCode where
  | invalidParameter
  | outOfRange
  | hostUnavailable
  | notStarted
  | configuration
  | internal
deriving DecidableEq, Repr

namespace ErrorCode

def all : List ErrorCode :=
  [.invalidParameter, .outOfRange, .hostUnavailable, .notStarted, .configuration, .internal]

def name : ErrorCode → String
  | .invalidParameter => "INVALID_PARAMETER"
  | .outOfRange => "OUT_OF_RANGE"
  | .hostUnavailable => "HOST_UNAVAILABLE"
  | .notStarted => "NOT_STARTED"
  | .configuration => "CONFIGURATION_ERROR"
  | .internal => "INTERNAL_ERROR"

/-- Only a missing part of the host may be there again later. -/
def isRetryable (c : ErrorCode) : Bool := c == .hostUnavailable

end ErrorCode

structure Response where
  code : ErrorCode
  message : String
  details : List (String × Data)

/-- The response as a tree; details appear only when there are any. -/
def Response.toData (r : Response) : Data :=
  .object <|
    [("error", .bool true), ("code", .text r.code.name), ("message", .text r.message),
      ("retryable", .bool r.code.isRetryable)]
    ++ if r.details.isEmpty then [] else [("details", .object r.details)]

/-- An error in words: its kind, its message and, for the bot's own errors, a code with details. -/
structure Report where
  kind : String
  message : String
  code : Option ErrorCode
  details : List (String × Data)

namespace Report

/-- An error of a general kind, which has no code of its own. -/
def general (kind message : String) : Report := ⟨kind, message, none, []⟩

/-- A value that was refused for a named parameter. -/
def parameter (name message : String) (value : Option String) (code : ErrorCode) : Report :=
  ⟨"ParameterError", message, some code,
    ("parameter", .text name) :: (value.map fun v => ("provided_value", Data.text v)).toList⟩

/-- Something that the host, or a script on it, cannot do now. -/
def host (message : String) (code : ErrorCode) (details : List (String × Data)) : Report :=
  ⟨"HostError", message, some code, details⟩

def configuration (path message : String) : Report :=
  ⟨"ConfigurationError", message, some .configuration, [("path", .text path)]⟩

def notMember (set name : String) : Report :=
  general "ValueError" (Text.quoted name ++ " is not a valid " ++ set)

def isOwn (r : Report) : Bool := r.code.isSome

/-- The response to an error; one without a code takes the given one and names its kind. -/
def responseOr (r : Report) (fallback : ErrorCode) : Response :=
  match r.code with
  | some code => ⟨code, r.message, r.details⟩
  | none => ⟨fallback, r.message, [("exception_type", .text r.kind)]⟩

def response (r : Report) : Response := r.responseOr .internal

end Report

def ErrorCode.ofName (name : String) : Except Report ErrorCode :=
  match ErrorCode.all.find? fun c => c.name == name with
  | some c => .ok c
  | none => .error (.notMember "ErrorCode" name)

/-- The causes for which an action on a host or a bot fails. -/
inductive Fault (α : Type) where
  | timerDelay (delay : α)
  | frameDelta (delta : α)
  | botNumber (number : Int)
  | notStarted
  | divisionByZero
  | sineOfInfinity
  | integerOfUndefined
  | integerOfInfinity
  /-- A frame fired more timers than it may. -/
  | endlessTimers
  /-- The draws of a scripted source are passed over for ever. -/
  | endlessDraws
  | raised (report : Report)

def Fault.report : Fault Float → Report
  | .timerDelay delay =>
    .parameter "delay_ms" "Timer delay must be a finite, non-negative number of milliseconds"
      (some (Decimal.shortest delay)) .outOfRange
  | .frameDelta delta =>
    .parameter "delta_time" "Frame delta must not be negative" (some (Decimal.shortest delta)) .outOfRange
  | .botNumber number =>
    .parameter "bot_number" "Bot number must be between 1 and 100" (some (toString number)) .outOfRange
  | .notStarted =>
    .host "BotScript not started. Use 'with bot.session()' or call start() first." .notStarted []
  | .divisionByZero => .general "ZeroDivisionError" "float division by zero"
  | .sineOfInfinity => .general "ValueError" "math domain error"
  | .integerOfUndefined => .general "ValueError" "cannot convert float NaN to integer"
  | .integerOfInfinity => .general "OverflowError" "cannot convert float infinity to integer"
  | .endlessTimers => .general "RecursionError" "maximum recursion depth exceeded"
  | .endlessDraws => .general "RuntimeError" "the draws never end"
  | .raised report => report

end Bystander

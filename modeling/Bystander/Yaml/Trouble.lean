import Bystander.Fault
/-! # Why a text is no document

Most causes lie in the text: it is malformed.  Some lie in a single value, which has the form of a number, a date or a
truth value and is none; those keep their own wording.  Depth is no cause: documents may be nested without a limit.
-/
namespace Bystander.Yaml

/-- A value that has the form of its kind and is none of it.  These are the causes that a load does not put down to the
file; one that only a parser with a limited stack has, too deep a nesting, is not listed. -/
inductive BadValue where
  /-- An escape for a number beyond the last character. -/
  | character
  /-- A number without characters. -/
  | empty
  | integer (text : String) (radix : Nat)
  /-- An integer with more digits than are read. -/
  | length (digits : Nat)
  | float (text : String)
  | truth (word : String)
  /-- A date that does not have the form of a date. -/
  | date
  /-- A date made of entries. -/
  | dateEntries
  | year (n : Nat)
  | month
  | day
  | hour
  | minute
  | second
  /-- An offset from the standard time, in seconds, of a day or more. -/
  | offset (seconds : Int)
deriving Repr, DecidableEq

/-- Why a text is no document. -/
inductive Trouble where
  /-- A character that may not stand in a document at all. -/
  | unprintable (c : Char)
  /-- Something that may not stand where it stands. -/
  | unexpected (what : String)
  /-- Something that was begun and is not finished. -/
  | unfinished (what : String)
  /-- A name that stands for nothing, or for two things. -/
  | name (what : String)
  /-- A node that is not of the kind that its tag asks for. -/
  | kind (what : String)
  | value (bad : BadValue)
deriving Repr, DecidableEq

/-- A stretch of time as days and seconds of a day. -/
def stretch (seconds : Int) : String :=
  let days := Int.fdiv seconds 86400
  let rest := Int.fmod seconds 86400
  let parts :=
    (if days = 0 then [] else ["days=" ++ toString days]) ++ if rest = 0 then [] else ["seconds=" ++ toString rest]
  "datetime.timedelta(" ++ (if parts.isEmpty then "0" else String.intercalate ", " parts) ++ ")"

def BadValue.report : BadValue → Report
  | .character => .general "ValueError" "chr() arg not in range(0x110000)"
  | .empty => .general "IndexError" "string index out of range"
  | .integer text radix =>
    .general "ValueError" ("invalid literal for int() with base " ++ toString radix ++ ": " ++ Text.quoted text)
  | .length digits =>
    .general "ValueError" ("Exceeds the limit (4300 digits) for integer string conversion: value has "
      ++ toString digits ++ " digits; use sys.set_int_max_str_digits() to increase the limit")
  | .float text => .general "ValueError" ("could not convert string to float: " ++ Text.quoted text)
  | .truth word => .general "KeyError" (Text.quoted word)
  | .date => .general "AttributeError" "'NoneType' object has no attribute 'groupdict'"
  | .dateEntries => .general "TypeError" "expected string or bytes-like object, got 'list'"
  | .year n => .general "ValueError" ("year " ++ toString n ++ " is out of range")
  | .month => .general "ValueError" "month must be in 1..12"
  | .day => .general "ValueError" "day is out of range for month"
  | .hour => .general "ValueError" "hour must be in 0..23"
  | .minute => .general "ValueError" "minute must be in 0..59"
  | .second => .general "ValueError" "second must be in 0..59"
  | .offset seconds =>
    .general "ValueError" ("offset must be a timedelta strictly between -timedelta(hours=24) and "
      ++ "timedelta(hours=24), not " ++ stretch seconds ++ ".")

/-- The error that reading a file at a path ends with. -/
def Trouble.report (path : String) (t : Trouble) : Report :=
  let malformed := fun text => Report.configuration path ("Malformed YAML: " ++ text)
  match t with
  | .unprintable c => malformed ("unacceptable character #x" ++ Text.hex 4 c.toNat)
  | .unexpected what => malformed ("did not expect " ++ what)
  | .unfinished what => malformed ("could not find the end of " ++ what)
  | .name what => malformed ("cannot tell what is meant by " ++ what)
  | .kind what => malformed ("expected " ++ what)
  | .value bad => bad.report

end Bystander.Yaml

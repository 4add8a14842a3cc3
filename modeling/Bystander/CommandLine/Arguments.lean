/-! # Options and arguments

An option is named in full behind two dashes, with its value behind an equals sign or in the next argument, or by one
letter behind one dash, where its value may follow at once and letters without values may stand together.  Of several
values for one option the last counts.  Behind two dashes alone there are no more options.
-/
namespace Bystander.CommandLine

/-- An option: its names with their dashes, the first of which it is known by, and whether it takes a value. -/
structure Switch where
  names : List String
  takesValue : Bool

namespace Switch

def title (s : Switch) : String := s.names.headD ""

def find? (switches : List Switch) (name : String) : Option Switch :=
  switches.find? fun s => s.names.contains name

end Switch

/-- The options that were given with their values, the latest first, and the other arguments in order. -/
structure Arguments where
  given : List (String × String)
  others : List String

namespace Arguments

def empty : Arguments := ⟨[], []⟩

def value? (a : Arguments) (title : String) : Option String := a.given.lookup title

def has (a : Arguments) (title : String) : Bool := (a.value? title).isSome

def give (title value : String) (a : Arguments) : Arguments := { a with given := (title, value) :: a.given }

def other (argument : String) (a : Arguments) : Arguments := { a with others := a.others ++ [argument] }

/-- What letters behind one dash say: the options with the values found there, and the option that still waits for
one. -/
def letters? (switches : List Switch) : List Char → Arguments → Option (Arguments × Option String)
  | [], acc => some (acc, none)
  | c :: rest, acc =>
    match Switch.find? switches (String.ofList ['-', c]) with
    | none => none
    | some s =>
      if !s.takesValue then letters? switches rest (acc.give s.title "")
      else if rest.isEmpty then some (acc, some s.title)
      else some (acc.give s.title (String.ofList rest), none)

/-- What one argument that begins with a dash says. -/
def option? (switches : List Switch) (argument : String) (acc : Arguments) :
    Option (Arguments × Option String) :=
  let chars := argument.toList
  let name := String.ofList (chars.takeWhile (· != '='))
  let value? := (chars.dropWhile (· != '=')).tail?.map String.ofList
  let isLong := name.startsWith "--" || 2 < name.length
  match if isLong then Switch.find? switches name else none, value? with
  | some s, some value => if s.takesValue then some (acc.give s.title value, none) else none
  | some s, none => if s.takesValue then some (acc, some s.title) else some (acc.give s.title "", none)
  | none, _ => if argument.startsWith "--" then none else letters? switches (chars.drop 1) acc

/-- The options and the other arguments; `waiting` is an option whose value is the next argument. -/
def readFrom (switches : List Switch) (acc : Arguments) (waiting : Option String) : List String → Option Arguments
  | [] => if waiting.isSome then none else some acc
  | argument :: rest =>
    match waiting with
    | some title => readFrom switches (acc.give title argument) none rest
    | none =>
      if argument == "--" then some { acc with others := acc.others ++ rest }
      else if argument.startsWith "-" && 1 < argument.length then
        match option? switches argument acc with
        | some (acc, waiting) => readFrom switches acc waiting rest
        | none => none
      else readFrom switches (acc.other argument) none rest

/-- The options and the other arguments, or nothing if an option is unknown or lacks its value. -/
def read? (switches : List Switch) (arguments : List String) : Option Arguments :=
  readFrom switches empty none arguments

end Arguments
end Bystander.CommandLine

import Bystander.Data.Basic
import Bystander.Text.Character
/-! # Files of assignments

A file of assignments gives values to names, one to a line; a value between quotes may go over several lines.  A name
without an equals sign has no value.  A line that cannot be read is passed over.  A value may use others by their names
between braces behind a dollar sign.
-/
namespace Bystander.Environment

abbrev Rest := List Char

def isLineBlank (c : Char) : Bool := Text.isBlankOrSeparator c && c != '\r' && c != '\n'

def isLineEnd (c : Char) : Bool := c == '\r' || c == '\n'

def skipBlanks (cs : Rest) : Rest := cs.dropWhile isLineBlank

def nextLine (cs : Rest) : Rest :=
  match cs.dropWhile fun c => !isLineEnd c with
  | '\r' :: '\n' :: rest => rest
  | _ :: rest => rest
  | [] => []

/-! ## Quotes -/

/-- The text up to the first quote without a backslash before it, and what is left behind that quote. -/
def untilQuote (quote : Char) : Rest → Option (List Char × Rest)
  | [] => none
  | '\\' :: c :: rest =>
    if c == quote then (untilQuote quote rest).map fun (text, rest) => ('\\' :: c :: text, rest)
    else (untilQuote quote (c :: rest)).map fun (text, rest) => ('\\' :: text, rest)
  | c :: rest =>
    if c == quote then some ([], rest) else (untilQuote quote rest).map fun (text, rest) => (c :: text, rest)

/-- The text up to the last quote, and what is left behind it. -/
def untilLastQuote (quote : Char) : Rest → Option (List Char × Rest)
  | [] => none
  | c :: rest =>
    match untilLastQuote quote rest with
    | some (text, after) => some (c :: text, after)
    | none => if c == quote then some ([], rest) else none

/-- The text between quotes: it ends at the first quote without a backslash, or if there is none at the last. -/
def between (quote : Char) (cs : Rest) : Option (List Char × Rest) :=
  (untilQuote quote cs).or (untilLastQuote quote cs)

/-- What a letter behind a backslash stands for between double quotes. -/
def escapes : List (Char × Char) :=
  [('\\', '\\'), ('\'', '\''), ('"', '"'), ('a', '\x07'), ('b', '\x08'), ('f', '\x0c'), ('n', '\n'), ('r', '\r'),
   ('t', '\t'), ('v', '\x0b')]

/-- Between single quotes only the backslash and the quote itself can be escaped. -/
def singleEscapes : List (Char × Char) := escapes.take 2

def unescape (known : List (Char × Char)) : List Char → List Char
  | '\\' :: c :: rest =>
    match known.lookup c with
    | some x => x :: unescape known rest
    | none => '\\' :: unescape known (c :: rest)
  | c :: rest => c :: unescape known rest
  | [] => []

/-! ## One assignment -/

/-- A value without quotes: blanks and a comment behind them do not belong to it. -/
def bare (line : List Char) : List Char :=
  let rec cut : List Char → List Char
    | [] => []
    | c :: rest =>
      if Text.isBlankOrSeparator c && (rest.dropWhile Text.isBlankOrSeparator).head? == some '#' then []
      else c :: cut rest
  ((cut line).reverse.dropWhile Text.isBlankOrSeparator).reverse

def value (cs : Rest) : Option (List Char × Rest) :=
  match cs with
  | '\'' :: rest => (between '\'' rest).map fun (text, rest) => (unescape singleEscapes text, rest)
  | '"' :: rest => (between '"' rest).map fun (text, rest) => (unescape escapes text, rest)
  | _ => some (bare (cs.takeWhile fun c => !isLineEnd c), cs.dropWhile fun c => !isLineEnd c)

/-- The word that marks a variable for others to see, with the blanks behind it. -/
def skipExport (cs : Rest) : Rest :=
  if cs.take 6 == "export".toList && (cs.drop 6).head?.any isLineBlank then skipBlanks (cs.drop 6) else cs

/-- The name of an assignment, and what is left; a comment has none. -/
def name (cs : Rest) : Option (Option String × Rest) :=
  match cs with
  | '#' :: _ => some (none, cs)
  | '\'' :: rest =>
    let inner := rest.takeWhile (· != '\'')
    match rest.drop inner.length with
    | _ :: after => if inner.isEmpty then none else some (some (String.ofList inner), after)
    | [] => none
  | _ =>
    let inner := cs.takeWhile fun c => !(c == '=' || c == '#' || Text.isBlankOrSeparator c)
    if inner.isEmpty then none else some (some (String.ofList inner), cs.drop inner.length)

/-- What is left behind the end of a line on which only a comment may stand; else the place that was reached. -/
def lineEnd (cs : Rest) : Except Rest Rest :=
  let cs := if (skipBlanks cs).head? == some '#' then cs.dropWhile fun c => !isLineEnd c else cs
  match skipBlanks cs with
  | [] => .ok []
  | '\r' :: '\n' :: rest => .ok rest
  | c :: rest => if isLineEnd c then .ok rest else .error cs

abbrev Assignment := String × Option (List Char)

/-- The assignment that stands here, if one does, and what is left. -/
def assignment (cs : Rest) : Option Assignment × Rest :=
  let start := skipExport cs
  match name start with
  | none => (none, nextLine start)
  | some (key, behind) =>
    let assigned :=
      match skipBlanks behind with
      | '=' :: rest =>
        match value (skipBlanks rest) with
        | some (text, rest) => Except.ok (some text, rest)
        | none => .error (skipBlanks rest)
      | rest => .ok (none, rest)
    match assigned with
    | .error place => (none, nextLine place)
    | .ok (text, rest) =>
      match lineEnd rest with
      | .ok rest => (key.map fun k => (k, text), rest)
      | .error place => (none, nextLine place)

def assignmentsFrom : Nat → Rest → List Assignment
  | 0, _ => []
  | fuel + 1, cs =>
    match cs.dropWhile Text.isBlankOrSeparator with
    | [] => []
    | start =>
      let (found, rest) := assignment start
      found.toList ++ assignmentsFrom fuel rest

def assignments (cs : List Char) : List Assignment := assignmentsFrom (cs.length + 1) cs

/-! ## Names inside values -/

/-- A text with the values of the names between braces in it; where a name has none, what stands behind a colon and a
minus sign, or nothing. -/
def expandFrom (meaning : String → Option String) : Nat → List Char → List Char
  | 0, cs => cs
  | _ + 1, [] => []
  | fuel + 1, '$' :: '\x7b' :: rest =>
    let name := rest.takeWhile fun c => c != '\x7d' && c != ':'
    let text := fun (default : List Char) => ((meaning (String.ofList name)).map String.toList).getD default
    match rest.drop name.length with
    | '\x7d' :: after => text [] ++ expandFrom meaning fuel after
    | ':' :: '-' :: more =>
      let default := more.takeWhile (· != '\x7d')
      match more.drop default.length with
      | _ :: after => text default ++ expandFrom meaning fuel after
      | [] => '$' :: expandFrom meaning fuel ('\x7b' :: rest)
    | _ => '$' :: expandFrom meaning fuel ('\x7b' :: rest)
  | fuel + 1, c :: rest => c :: expandFrom meaning fuel rest

/-- The value of a name is found among the earlier assignments, then outside; a name without a value means nothing. -/
def meaningOf (outside : List (String × String)) (earlier : List (String × Option String)) (name : String) :
    Option String :=
  match earlier.lookup name with
  | some known => some (known.getD "")
  | none => outside.lookup name

/-- The names of a text of assignments with their values; of several values for a name the last one counts. -/
def bindings (outside : List (String × String)) (cs : List Char) : List (String × Option String) :=
  (assignments cs).foldl (fun known (name, text) =>
    let value := text.map fun t => String.ofList (expandFrom (meaningOf outside known) (t.length + 1) t)
    Data.setEntry name value known) []

end Bystander.Environment

import Bystander.Yaml.Cursor
import Bystander.Yaml.Trouble
/-! # The text of scalars

A scalar is quoted, plain, or a block.  In all of them lines are folded: a single line break becomes a space, further
ones stay; a literal block keeps every line.
-/
namespace Bystander.Yaml

abbrev Read := Except Trouble (List Char × Cursor)

/-- A folded line break with the empty lines behind it. -/
def folded (first : Char) (more : List Char) : List Char :=
  if first != '\n' then first :: more else if more.isEmpty then [' '] else more

/-! ## Quoted scalars -/

/-- Empty lines inside quotes; no mark between documents may stand there. -/
def quotedBreaks : Nat → Cursor → Read
  | 0, _ => .error (.unfinished "a quoted scalar")
  | fuel + 1, c => do
    if c.atMark then throw (.unexpected "a document separator in a quoted scalar")
    let c := c.skipWhile fun x => x == ' ' || x == '\t'
    match c.takeBreak with
    | none => return ([], c)
    | some (b, c) =>
      let (more, c) ← quotedBreaks fuel c
      return (b :: more, c)

/-- Blanks inside quotes: folded when they reach a line break, else kept. -/
def quotedBlanks (fuel : Nat) (c : Cursor) : Read := do
  let (blanks, c) := c.span fun x => x == ' ' || x == '\t'
  match c.takeBreak with
  | none => return (blanks, c)
  | some (b, c) =>
    let (more, c) ← quotedBreaks fuel c
    return (folded b more, c)

/-- The characters that a letter behind a backslash stands for. -/
def escapes : List (Char × Char) :=
  [('0', '\x00'), ('a', '\x07'), ('b', '\x08'), ('t', '\t'), ('\t', '\t'), ('n', '\n'), ('v', '\x0b'), ('f', '\x0c'),
   ('r', '\r'), ('e', '\x1b'), (' ', ' '), ('"', '"'), ('\\', '\\'), ('/', '/'), ('N', '\x85'), ('_', '\xa0'),
   ('L', '\u2028'), ('P', '\u2029')]

/-- The number of hexadecimal digits that a letter behind a backslash asks for. -/
def escapeWidth (x : Char) : Option Nat :=
  if x == 'x' then some 2 else if x == 'u' then some 4 else if x == 'U' then some 8 else none

def isHexDigit (x : Char) : Bool := x.isDigit || ('a' ≤ x && x ≤ 'f') || ('A' ≤ x && x ≤ 'F')

def hexDigit (x : Char) : Nat :=
  if x.isDigit then x.toNat - 48 else if 'a' ≤ x && x ≤ 'f' then x.toNat - 87 else x.toNat - 55

def hexNumber (cs : List Char) : Nat := cs.foldl (fun n x => 16 * n + hexDigit x) 0

/-- The character of a number; a number that is kept for halves of characters gives the replacement character. -/
def charOfNat (n : Nat) : Char := if n.isValidChar then Char.ofNat n else '\uFFFD'

/-- What a backslash begins; the cursor stands behind it. -/
def escaped (fuel : Nat) (c : Cursor) : Read := do
  match c.peek with
  | none => throw (.unfinished "a quoted scalar")
  | some x =>
    match escapes.lookup x, escapeWidth x with
    | some y, _ => return ([y], c.next)
    | none, some width =>
      let digits := c.next.rest.take width
      if digits.length != width || !digits.all isHexDigit then throw (.unexpected "an escape without its digits")
      if 0x110000 ≤ hexNumber digits then throw (.value .character)
      return ([charOfNat (hexNumber digits)], c.skip (width + 1))
    | none, none =>
      match c.takeBreak with
      | some (_, c) => quotedBreaks fuel c
      | none => throw (.unexpected "an unknown escape")

/-- What stands between quotes, from behind the first one; the answer is read behind the last one. -/
def quotedBody (double : Bool) : Nat → Cursor → Read
  | 0, _ => .error (.unfinished "a quoted scalar")
  | fuel + 1, c => do
    let quote := if double then '"' else '\''
    match c.peek with
    | none => throw (.unfinished "a quoted scalar")
    | some x =>
      if x == quote then
        if !double && c.peekAt 1 == some quote then
          let (more, c) ← quotedBody double fuel (c.skip 2)
          return (quote :: more, c)
        return ([], c.next)
      let (piece, c) ←
        if double && x == '\\' then escaped fuel c.next
        else if isGap x then quotedBlanks fuel c
        else pure ([x], c.next)
      let (more, c) ← quotedBody double fuel c
      return (piece ++ more, c)

def quotedScalar (double : Bool) (c : Cursor) : Read := quotedBody double (c.rest.length + 1) c.next

/-! ## Plain scalars -/

/-- Characters that end a plain scalar inside brackets. -/
def isFlowMark (x : Char) : Bool := x == ',' || x == '[' || x == ']' || x == '\x7b' || x == '\x7d'

/-- How many characters from here on belong to a plain scalar without a gap. -/
def plainRun (inFlow : Bool) : List Char → Nat
  | [] => 0
  | x :: rest =>
    let endsHere := isGap x
      || (x == ':' && (endsWord rest.head? || (inFlow && rest.head?.any isFlowMark)))
      || (inFlow && (x == '?' || isFlowMark x))
    if endsHere then 0 else plainRun inFlow rest + 1

/-- Empty lines and indentation behind the first line break of a plain scalar; none when a mark between documents
stands there. -/
def plainBreaks : Nat → Cursor → Option (List Char) × Cursor
  | 0, c => (none, c)
  | fuel + 1, c =>
    match c.takeBreak with
    | some (b, c) =>
      if c.atMark then (none, c)
      else
        let (more, c) := plainBreaks fuel c
        (more.map (b :: ·), c)
    | none => if c.peek == some ' ' then plainBreaks fuel c.next else (some [], c)

/-- The gap behind a piece of a plain scalar, folded: empty when the scalar ends here.  The last part tells whether a
line break was passed. -/
def plainGap (fuel : Nat) (c : Cursor) : List Char × Cursor × Bool :=
  let (blanks, c) := c.span (· == ' ')
  match c.takeBreak with
  | none => (blanks, c, false)
  | some (b, c) =>
    if c.atMark then ([], c, true)
    else
      match plainBreaks fuel c with
      | (some more, c) => (folded b more, c, true)
      | (none, c) => ([], c, true)

/-- A plain scalar that must stay right of a column; the last part tells whether a line break was passed behind it. -/
def plainBody (inFlow : Bool) (least : Int) : Nat → List Char → Bool → Cursor → List Char × Cursor × Bool
  | 0, _, broke, c => ([], c, broke)
  | fuel + 1, gap, broke, c =>
    let length := plainRun inFlow c.rest
    if c.peek == some '#' || length == 0 then ([], c, broke)
    else
      let piece := c.rest.take length
      let (next, c, broke) := plainGap fuel (c.skip length)
      if next.isEmpty || c.peek == some '#' || (!inFlow && (c.column : Int) < least) then (gap ++ piece, c, broke)
      else
        let (more, c, broke) := plainBody inFlow least fuel next broke c
        (gap ++ piece ++ more, c, broke)

def plainScalar (inFlow : Bool) (least : Int) (c : Cursor) : List Char × Cursor × Bool :=
  plainBody inFlow least (c.rest.length + 1) [] false c

/-! ## Block scalars -/

/-- What is done with the line breaks at the end of a block. -/
inductive Chomp where
  | clip
  | strip
  | keep
deriving DecidableEq

def Chomp.ofChar? (x : Option Char) : Option Chomp :=
  if x == some '+' then some .keep else if x == some '-' then some .strip else none

/-- The head of a block: how it ends and how far it is indented beyond its surroundings, in either order. -/
def blockHead (c : Cursor) : Except Trouble (Chomp × Option Nat × Cursor) := do
  let width? := fun (c : Cursor) => (c.peek.filter Char.isDigit).map fun x => x.toNat - 48
  let (chomp, width, c) :=
    match Chomp.ofChar? c.peek with
    | some chomp =>
      match width? c.next with
      | some n => (chomp, some n, c.skip 2)
      | none => (chomp, none, c.next)
    | none =>
      match width? c with
      | some n =>
        match Chomp.ofChar? c.next.peek with
        | some chomp => (chomp, some n, c.skip 2)
        | none => (.clip, some n, c.next)
      | none => (.clip, none, c)
  if width == some 0 then throw (.unexpected "an indentation of zero")
  if !endsField c.peek then throw (.unexpected "this behind the head of a block")
  return (chomp, width, c)

/-- The rest of a line that holds nothing but blanks and a comment. -/
def idleLine (c : Cursor) : Except Trouble Cursor := do
  let c := c.skipWhile (· == ' ')
  let c := if c.peek == some '#' then c.skipWhile fun x => !isBreak x else c
  if !endsLine c.peek then throw (.unexpected "text behind a directive or the head of a block")
  return (c.takeBreak.map (·.2)).getD c

/-- Empty lines before a block, the deepest column that blanks reach there, and the place behind them. -/
def blockLead : Nat → Nat → Cursor → List Char × Nat × Cursor
  | 0, deepest, c => ([], deepest, c)
  | fuel + 1, deepest, c =>
    match c.takeBreak with
    | some (b, c) =>
      let (more, deepest, c) := blockLead fuel deepest c
      (b :: more, deepest, c)
    | none =>
      if c.peek == some ' ' then blockLead fuel (max deepest c.next.column) c.next else ([], deepest, c)

def indentTo (column : Nat) : Nat → Cursor → Cursor
  | 0, c => c
  | fuel + 1, c => if c.column < column && c.peek == some ' ' then indentTo column fuel c.next else c

/-- Empty lines in a block that is indented to a column. -/
def blockBreaks (column : Nat) : Nat → Cursor → List Char × Cursor
  | 0, c => ([], c)
  | fuel + 1, c =>
    let c := indentTo column c.rest.length c
    match c.takeBreak with
    | some (b, c) =>
      let (more, c) := blockBreaks column fuel c
      (b :: more, c)
    | none => ([], c)

/-- The lines of a block.  `breaks` are the empty lines passed before this place. -/
def blockLines (fold : Bool) (column : Nat) (chomp : Chomp) : Nat → List Char → Cursor → List Char × Cursor
  | 0, _, c => ([], c)
  | fuel + 1, breaks, c =>
    let flush := fun (c : Cursor) => !(c.peek == some ' ' || c.peek == some '\t')
    let (text, after) := c.span fun x => !isBreak x
    let (first, after) :=
      match after.takeBreak with
      | some (b, after) => ([b], after)
      | none => ([], after)
    let (more, after) := blockBreaks column fuel after
    if after.column == column && after.peek.isSome then
      let joint :=
        if fold && first == ['\n'] && flush c && flush after then (if more.isEmpty then [' '] else []) else first
      let (rest, last) := blockLines fold column chomp fuel more after
      (breaks ++ text ++ joint ++ rest, last)
    else
      let tail :=
        match chomp with
        | .strip => []
        | .clip => first
        | .keep => first ++ more
      (breaks ++ text ++ tail, after)

/-- A block that stands deeper than a surrounding indentation; the cursor stands on its mark. -/
def blockScalar (fold : Bool) (around : Int) (c : Cursor) : Read := do
  let (chomp, width, c) ← blockHead c.next
  let c ← idleLine c
  let least := max (around + 1) 1
  let fuel := c.rest.length + 1
  let (column, breaks, c) :=
    match width with
    | some n =>
      let column := (least + n - 1).toNat
      let (breaks, c) := blockBreaks column fuel c
      (column, breaks, c)
    | none =>
      let (breaks, deepest, c) := blockLead fuel 0 c
      (max least.toNat deepest, breaks, c)
  if c.column == column && c.peek.isSome then return blockLines fold column chomp fuel breaks c
  return (if chomp == .keep then breaks else [], c)

end Bystander.Yaml

import Bystander.Decimal.Numeral
import Bystander.Yaml.Scalar
/-! # Tokens

A text is cut into tokens once, from its start to its end.  Blocks have no brackets: where a line stands further right
than the block around it a block begins, and where it stands further left blocks end.  Whether a scalar was a key is
known only at the colon behind it, so every place where a key may have begun is kept until the colon or the end of the
line, and the marks of a key are inserted there.
-/
namespace Bystander.Yaml

inductive Token where
  /-- The version that a document claims to be written in. -/
  | version (major : Nat)
  /-- A short form for the beginning of tags. -/
  | shorthand (handle stem : String)
  /-- A directive that has no effect. -/
  | remark
  | documentStart
  | documentEnd
  | sequenceStart
  | mappingStart
  | blockEnd
  | bracketOpen
  | bracketClose
  | braceOpen
  | braceClose
  | comma
  | entry
  | key
  | value
  | alias (name : String)
  | anchor (name : String)
  /-- A tag: what its handle stands for, if it has one, and then the rest. -/
  | tag (handle : Option String) (rest : String)
  | scalar (plain : Bool) (text : String)
deriving DecidableEq, Repr

/-- A place where a key may have begun. -/
structure PendingKey where
  /-- How many tokens came before it. -/
  position : Nat
  /-- It stands where only a key can stand. -/
  required : Bool
  index : Nat
  line : Nat
  column : Nat

/-- A key is on one line, and its colon is not further away than this. -/
def keyReach : Nat := 1024

/-- Whether the colon of a key can no longer come. -/
def PendingKey.isStale (c : Cursor) (k : PendingKey) : Bool := k.line != c.line || k.index + keyReach < c.index

/-- A text that is cut into tokens as far as a place. -/
structure Lexer where
  cursor : Cursor
  tokens : Array Token
  depth : Nat
  /-- The columns of the open blocks, the innermost first. -/
  blocks : List Nat
  /-- Whether a key may begin at this place. -/
  keyAllowed : Bool
  /-- The last place where a key may have begun, for each depth. -/
  pending : List (Nat × PendingKey)

namespace Lexer

def ofText (cs : List Char) : Lexer := ⟨.ofText cs, #[], 0, [], true, []⟩

/-- The column of the innermost block; none is left of all columns. -/
def indent (x : Lexer) : Int :=
  match x.blocks with
  | [] => -1
  | column :: _ => column

def push (token : Token) (x : Lexer) : Lexer := { x with tokens := x.tokens.push token }

def mark (token : Token) (width : Nat) (x : Lexer) : Lexer :=
  { x with tokens := x.tokens.push token, cursor := x.cursor.skip width }

def allowKey (allowed : Bool) (x : Lexer) : Lexer := { x with keyAllowed := allowed }

/-! ## Keys -/

/-- Forgets the keys whose colon can no longer come. -/
def dropStale (x : Lexer) : Except Trouble Lexer :=
  let (stale, fresh) := x.pending.partition fun (_, k) => k.isStale x.cursor
  if stale.any fun (_, k) => k.required then .error (.unfinished "a key") else .ok { x with pending := fresh }

/-- Forgets the key that may have begun at this depth. -/
def dropKey (x : Lexer) : Except Trouble Lexer :=
  match x.pending.lookup x.depth with
  | some k =>
    if k.required then .error (.unfinished "a key")
    else .ok { x with pending := x.pending.filter fun (depth, _) => depth != x.depth }
  | none => .ok x

/-- Keeps this place as one where a key may begin, if one may. -/
def keepKey (x : Lexer) : Except Trouble Lexer := do
  if !x.keyAllowed then return x
  let x ← x.dropKey
  let c := x.cursor
  let required := x.depth == 0 && x.indent == (c.column : Int)
  return { x with pending := (x.depth, ⟨x.tokens.size, required, c.index, c.line, c.column⟩) :: x.pending }

/-! ## Blocks -/

/-- Ends the blocks that stand further right than a column; between brackets columns do not matter. -/
def closeTo (column : Int) (x : Lexer) : Lexer :=
  if x.depth != 0 then x
  else
    let closed := x.blocks.takeWhile fun (b : Nat) => column < (b : Int)
    { x with
      blocks := x.blocks.drop closed.length
      tokens := x.tokens ++ (closed.map fun _ => Token.blockEnd).toArray }

/-- Begins a block at a column, with its token at a position, unless one stands there already. -/
def openAt (column position : Nat) (token : Token) (x : Lexer) : Lexer :=
  if x.indent < (column : Int) then
    { x with blocks := column :: x.blocks, tokens := x.tokens.insertIdxIfInBounds position token }
  else x

/-- Begins a block here, where one may begin. -/
def openHere (token : Token) (what : String) (x : Lexer) : Except Trouble Lexer :=
  if x.depth != 0 then .ok x
  else if !x.keyAllowed then .error (.unexpected what)
  else .ok (x.openAt x.cursor.column x.tokens.size token)

/-! ## Words -/

def isWordChar (c : Char) : Bool := c.isAlphanum || c == '-' || c == '_'

def word (what : String) (c : Cursor) : Read := do
  let (chars, c) := c.span isWordChar
  if chars.isEmpty then throw (.unexpected what)
  return (chars, c)

def isTagChar (c : Char) : Bool := c.isAlphanum || "-;/?:@&=+$,_.!~*'()[]%".toList.contains c

/-- Bytes that are written in hexadecimal, each behind a percent sign. -/
def escapedBytes : Nat → Cursor → Except Trouble (List UInt8 × Cursor)
  | 0, c => .ok ([], c)
  | fuel + 1, c => do
    if c.peek != some '%' then return ([], c)
    let digits := c.next.rest.take 2
    if digits.length != 2 || !digits.all isHexDigit then throw (.unexpected "an escape without its digits")
    let (more, c) ← escapedBytes fuel (c.skip 3)
    return (UInt8.ofNat (hexNumber digits) :: more, c)

/-- The characters of a tag. -/
def tagCharsFrom : Nat → Cursor → Read
  | 0, c => .ok ([], c)
  | fuel + 1, c => do
    match c.peek with
    | none => return ([], c)
    | some x =>
      if !isTagChar x then return ([], c)
      let (piece, c) ←
        if x == '%' then do
          let (bytes, c) ← escapedBytes fuel c
          match String.fromUTF8? ⟨bytes.toArray⟩ with
          | some text => pure (text.toList, c)
          | none => throw (.unexpected "escaped bytes that are no text")
        else pure ([x], c.next)
      let (more, c) ← tagCharsFrom fuel c
      return (piece ++ more, c)

def tagChars (c : Cursor) : Read := do
  if !c.peek.any isTagChar then throw (.unexpected "a tag without a name")
  tagCharsFrom (c.rest.length + 1) c

/-- A handle: an exclamation mark, or a word between two. -/
def tagHandle (c : Cursor) : Read := do
  if c.peek != some '!' then throw (.unexpected "a handle without its mark")
  if c.peekAt 1 == some ' ' then return (['!'], c.next)
  let (chars, c) := c.next.span isWordChar
  if c.peek != some '!' then throw (.unexpected "a handle without its end")
  return ('!' :: chars ++ ['!'], c.next)

/-- A tag with its angle brackets, its handle, or neither; the cursor stands on its mark. -/
def tagToken (c : Cursor) : Except Trouble (Token × Cursor) := do
  let (token, c) ←
    if c.peekAt 1 == some '<' then do
      let (rest, c) ← tagChars (c.skip 2)
      if c.peek != some '>' then throw (.unfinished "a tag")
      pure (Token.tag none (String.ofList rest), c.next)
    else if endsWord (c.peekAt 1) then pure (Token.tag none "!", c.next)
    else do
      let line := c.next.rest.takeWhile fun x => !(x == ' ' || isBreak x)
      let (handle, c) ← if line.contains '!' then tagHandle c else pure (['!'], c.next)
      let (rest, c) ← tagChars c
      pure (Token.tag (some (String.ofList handle)) (String.ofList rest), c)
  if !endsField c.peek then throw (.unexpected "this behind a tag")
  return (token, c)

/-- The name behind the mark of an anchor or an alias. -/
def anchorName (c : Cursor) : Except Trouble (String × Cursor) := do
  let (chars, c) ← word "a name without characters" c.next
  if !(endsWord c.peek || c.peek.any "?:,]\x7d%@`".toList.contains) then throw (.unexpected "this behind a name")
  return (String.ofList chars, c)

/-! ## Directives -/

def versionPart (c : Cursor) : Except Trouble (Nat × Cursor) := do
  let (digits, c) := c.span Char.isDigit
  if digits.isEmpty then throw (.unexpected "a version without numbers")
  return (Decimal.natOfDigits digits, c)

def versionToken (c : Cursor) : Except Trouble (Token × Cursor) := do
  let (major, c) ← versionPart (c.skipWhile (· == ' '))
  if c.peek != some '.' then throw (.unexpected "a version without a point")
  let (_, c) ← versionPart c.next
  if !endsField c.peek then throw (.unexpected "this behind a version")
  return (.version major, c)

def shorthandToken (c : Cursor) : Except Trouble (Token × Cursor) := do
  let (handle, c) ← tagHandle (c.skipWhile (· == ' '))
  if c.peek != some ' ' then throw (.unexpected "this behind a handle")
  let (stem, c) ← tagChars (c.skipWhile (· == ' '))
  if !endsField c.peek then throw (.unexpected "this behind a shorthand")
  return (.shorthand (String.ofList handle) (String.ofList stem), c)

def directiveToken (c : Cursor) : Except Trouble (Token × Cursor) := do
  let (name, c) ← word "a directive without a name" c.next
  if !endsField c.peek then throw (.unexpected "this behind a directive")
  let (token, c) ←
    if name == ['Y', 'A', 'M', 'L'] then versionToken c
    else if name == ['T', 'A', 'G'] then shorthandToken c
    else pure (Token.remark, c.skipWhile fun x => !isBreak x)
  return (token, ← idleLine c)

/-! ## One token more -/

/-- Blanks, comments and line breaks before a token; behind a line break a key may begin. -/
def skipIdle : Nat → Lexer → Lexer
  | 0, x => x
  | fuel + 1, x =>
    let c := x.cursor.skipWhile (· == ' ')
    let c := if c.peek == some '#' then c.skipWhile fun y => !isBreak y else c
    match c.takeBreak with
    | some (_, c) => skipIdle fuel { x with cursor := c, keyAllowed := x.keyAllowed || x.depth == 0 }
    | none => { x with cursor := c }

/-- Opens a bracket, which may be the beginning of a key. -/
def openBracket (token : Token) (x : Lexer) : Except Trouble Lexer := do
  let x ← x.keepKey
  return ({ x with depth := x.depth + 1, keyAllowed := true } : Lexer).mark token 1

def closeBracket (token : Token) (x : Lexer) : Except Trouble Lexer := do
  if x.depth == 0 then throw (.unexpected "a closing bracket")
  let x ← x.dropKey
  return ({ x with depth := x.depth - 1, keyAllowed := false } : Lexer).mark token 1

/-- The colon behind a key: the marks of the key are inserted where it began. -/
def closeKey (k : PendingKey) (x : Lexer) : Lexer :=
  let x := { x with
    pending := x.pending.filter fun (depth, _) => depth != x.depth
    tokens := x.tokens.insertIdxIfInBounds k.position .key
    keyAllowed := false }
  let x := if x.depth == 0 then x.openAt k.column k.position .mappingStart else x
  x.mark .value 1

def colon (x : Lexer) : Except Trouble Lexer :=
  match x.pending.lookup x.depth with
  | some k => .ok (x.closeKey k)
  | none => do
    let x ← x.openHere .mappingStart "a value"
    let x ← (x.allowKey (x.depth == 0)).dropKey
    return x.mark .value 1

/-- A token that is a node or belongs to one, and so may be the beginning of a key. -/
def node (read : Cursor → Except Trouble (Token × Cursor)) (x : Lexer) : Except Trouble Lexer := do
  let x ← x.keepKey
  let (token, c) ← read x.cursor
  return ({ x with cursor := c, keyAllowed := false } : Lexer).push token

/-- A plain scalar; behind a line break that it passed a key may begin. -/
def plain (x : Lexer) : Except Trouble Lexer := do
  let x ← x.keepKey
  let (text, c, broke) := plainScalar (x.depth != 0) (x.indent + 1) x.cursor
  return ({ x with cursor := c, keyAllowed := broke } : Lexer).push (.scalar true (String.ofList text))

def block (fold : Bool) (x : Lexer) : Except Trouble Lexer := do
  let x ← (x.allowKey true).dropKey
  let (text, c) ← blockScalar fold x.indent x.cursor
  return ({ x with cursor := c } : Lexer).push (.scalar false (String.ofList text))

/-- A directive or a mark between documents: all blocks end. -/
def boundary (read : Cursor → Except Trouble (Token × Cursor)) (x : Lexer) : Except Trouble Lexer := do
  let x ← (x.closeTo (-1)).dropKey
  let (token, c) ← read x.cursor
  return ({ x with cursor := c, keyAllowed := false } : Lexer).push token

/-- Whether a plain scalar begins with this character, given the one behind it. -/
def beginsPlain (inFlow : Bool) (c : Char) (behind : Option Char) : Bool :=
  !(isGap c || "-?:,[]\x7b\x7d#&*!|>'\"%@`".toList.contains c)
    || (!endsWord behind && (c == '-' || (!inFlow && (c == '?' || c == ':'))))

/-- The token that begins with a character, at the place of the cursor. -/
def token (first : Char) (x : Lexer) : Except Trouble Lexer :=
  let c := x.cursor
  let inFlow := x.depth != 0
  let wordEnds := endsWord (c.peekAt 1)
  if c.column == 0 && first == '%' then x.boundary directiveToken
  else if c.column == 0 && c.atMark then
    x.boundary fun c => .ok (if first == '-' then .documentStart else .documentEnd, c.skip 3)
  else if first == '[' then x.openBracket .bracketOpen
  else if first == '\x7b' then x.openBracket .braceOpen
  else if first == ']' then x.closeBracket .bracketClose
  else if first == '\x7d' then x.closeBracket .braceClose
  else if first == ',' then do return (← (x.allowKey true).dropKey).mark .comma 1
  else if first == '-' && wordEnds then do
    let x ← x.openHere .sequenceStart "an entry"
    return (← (x.allowKey true).dropKey).mark .entry 1
  else if first == '?' && (inFlow || wordEnds) then do
    let x ← x.openHere .mappingStart "a key"
    return (← (x.allowKey (!inFlow)).dropKey).mark .key 1
  else if first == ':' && (inFlow || wordEnds) then x.colon
  else if first == '*' then x.node fun c => do
    let (name, c) ← anchorName c
    return (.alias name, c)
  else if first == '&' then x.node fun c => do
    let (name, c) ← anchorName c
    return (.anchor name, c)
  else if first == '!' then x.node tagToken
  else if first == '|' && !inFlow then x.block false
  else if first == '>' && !inFlow then x.block true
  else if first == '\'' || first == '"' then x.node fun c => do
    let (text, c) ← quotedScalar (first == '"') c
    return (.scalar false (String.ofList text), c)
  else if beginsPlain inFlow first (c.peekAt 1) then x.plain
  else .error (.unexpected "a character that begins nothing")

def tokensFrom : Nat → Lexer → Except Trouble (List Token)
  | 0, x => .ok x.tokens.toList
  | fuel + 1, x => do
    let x ← (skipIdle (x.cursor.rest.length + 1) x).dropStale
    let x := x.closeTo x.cursor.column
    match x.cursor.peek with
    | none => return (← (x.closeTo (-1)).dropKey).tokens.toList
    | some first => tokensFrom fuel (← x.token first)

end Lexer

/-- Characters that may stand in a document. -/
def isAdmitted (c : Char) : Bool :=
  let n := c.toNat
  c == '\t' || c == '\n' || c == '\r' || (0x20 ≤ n && n ≤ 0x7E) || n == 0x85 || (0xA0 ≤ n && n ≤ 0xD7FF)
    || (0xE000 ≤ n && n ≤ 0xFFFD) || 0x10000 ≤ n

/-- The tokens of a text; a byte order mark at its start is no part of it. -/
def tokens (cs : List Char) : Except Trouble (List Token) :=
  match cs.find? fun c => !isAdmitted c with
  | some c => .error (.unprintable c)
  | none =>
    let start := Lexer.ofText cs
    let start := if cs.head? == some '\uFEFF' then { start with cursor := start.cursor.next } else start
    Lexer.tokensFrom (cs.length + 1) start

end Bystander.Yaml

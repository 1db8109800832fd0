/-!
# Tokens of a YAML stream

A token is a mark of structure or a scalar.  `Scanner` is the state of cutting a text into
tokens: where it stands, the block indentation in force, how deep it is in flow collections, and
for each flow level the place where a key could have begun, since only a later `:` tells that it
was one.

`Scan` is a scanning step; it fails on any malformed text.
-/

namespace Sidecar.Yaml

/-- How a scalar is written. -/
inductive Style where
  | plain
  | singleQuoted
  | doubleQuoted
  | literal
  | folded
  deriving DecidableEq, Repr, Inhabited

/-- A token. -/
inductive Token where
  | streamEnd
  | version (major minor : Nat)
  | tagDirective (handle start : String)
  | documentStart
  | documentEnd
  | blockSequenceStart
  | blockMappingStart
  | blockEnd
  | flowSequenceStart
  | flowSequenceEnd
  | flowMappingStart
  | flowMappingEnd
  | blockEntry
  | flowEntry
  | key
  | value
  | alias (name : String)
  | anchor (name : String)
  | tag (handle suffix : String)
  | scalar (style : Style) (text : String)
  deriving DecidableEq, Repr, Inhabited

/-- The place where a key may have begun. -/
structure KeyPlace where
  /-- Whether it still may. -/
  possible : Bool
  /-- Whether nothing but a key may stand there. -/
  required : Bool
  /-- The index of the token that would be the key. -/
  token : Nat
  /-- Its place in the text. -/
  index : Nat
  line : Nat
  column : Nat
  deriving Inhabited

/-- No place for a key. -/
def KeyPlace.none : KeyPlace := ⟨false, false, 0, 0, 0, 0⟩

/-- The state of scanning. -/
structure Scanner where
  /-- What has not been read. -/
  rest : List Char
  /-- More than the number of characters in the text; bounds every loop. -/
  bound : Nat
  index : Nat
  line : Nat
  column : Nat
  /-- The column of the innermost block collection, `-1` outside all. -/
  indent : Int
  /-- The columns of the block collections around it. -/
  outer : List Int
  /-- The place of a possible key, for the current flow level. -/
  keyPlace : KeyPlace
  /-- The same for the flow levels around it. -/
  outerKeys : List KeyPlace
  /-- The number of open flow collections. -/
  flow : Nat
  /-- Whether a key may begin here. -/
  keyAllowed : Bool
  /-- The tokens so far. -/
  tokens : Array Token
  deriving Inhabited

/-- A step of scanning. -/
abbrev Scan := StateT Scanner Option

/-- The scanner at the start of a text. -/
def Scanner.ofText (cs : List Char) : Scanner :=
  { rest := cs, bound := cs.length + 2, index := 0, line := 0, column := 0, indent := -1,
    outer := [], keyPlace := .none, outerKeys := [], flow := 0, keyAllowed := true,
    tokens := #[] }

/-! ### Characters

The end of the text is seen as the character `0`, which no text contains. -/

/-- The end of the text. -/
def eot : Char := '\x00'

/-- A line break. -/
def isBreak (c : Char) : Bool :=
  c == '\n' || c == '\r' || c == '\u0085' || c == '\u2028' || c == '\u2029'

/-- A space or a tab. -/
def isGap (c : Char) : Bool := c == ' ' || c == '\t'

/-- A line break or the end of the text. -/
def isBreakOrEnd (c : Char) : Bool := isBreak c || c == eot

/-- A space, a tab, a line break or the end of the text. -/
def isGapOrEnd (c : Char) : Bool := isGap c || isBreakOrEnd c

/-- A character of names: an ASCII letter or digit, `_` or `-`. -/
def isName (c : Char) : Bool := c.isAlphanum || c == '_' || c == '-'

/-- The characters that a text may contain. -/
def isAllowed (c : Char) : Bool :=
  let n := c.toNat
  n == 9 || n == 10 || n == 13 || (0x20 ≤ n && n ≤ 0x7e) || n == 0x85 ||
    (0xa0 ≤ n && n ≤ 0xd7ff) || (0xe000 ≤ n && n ≤ 0xfffd) || 0x10000 ≤ n

/-! ### Steps -/

/-- The character some places ahead. -/
def peekAt (n : Nat) : Scan Char := do return (← get).rest.getD n eot

/-- The next character. -/
def peek : Scan Char := peekAt 0

/-- Refuse the text. -/
def refuse {α : Type} : Scan α := fun _ => none

/-- Pass over one character within a line. -/
def skip : Scan Unit := modify fun s =>
  { s with rest := s.rest.tail, index := s.index + 1, column := s.column + 1 }

/-- Pass over a character and return it. -/
def take : Scan Char := do
  let c ← peek
  skip
  return c

/-- Pass over a line break, a carriage return and line feed being one; return the text that it
stands for. -/
def takeBreak : Scan (List Char) := do
  let c ← peek
  if isBreak c then
    let n := if c == '\r' && (← peekAt 1) == '\n' then 2 else 1
    modify fun s => { s with
      rest := s.rest.drop n, index := s.index + n, line := s.line + 1, column := 0 }
    return [if c == '\u2028' || c == '\u2029' then c else '\n']
  else return []

/-- Pass over characters while a test holds, at most `fuel` of them, and collect them. -/
def takeWhileAux (p : Char → Bool) : (fuel : Nat) → List Char → Scan (List Char)
  | 0, acc => return acc.reverse
  | fuel + 1, acc => do
    let c ← peek
    if p c && c != eot then
      skip
      takeWhileAux p fuel (c :: acc)
    else return acc.reverse

/-- The longest run of characters with a property. -/
def takeWhile (p : Char → Bool) : Scan (List Char) := do
  takeWhileAux p (← get).bound []

/-- Pass over blanks and a comment, up to the end of the line, which has to follow. -/
def finishLine : Scan Unit := do
  let _ ← takeWhile isGap
  if (← peek) == '#' then
    let _ ← takeWhile (!isBreak ·)
  if !isBreakOrEnd (← peek) then refuse
  let _ ← takeBreak

/-- Whether a document mark, three times `c`, stands at the start of this line. -/
def atMark (c : Char) : Scan Bool := do
  return (← get).column == 0 && (← peek) == c && (← peekAt 1) == c && (← peekAt 2) == c &&
    isGapOrEnd (← peekAt 3)

/-- Add a token. -/
def emit (t : Token) : Scan Unit := modify fun s => { s with tokens := s.tokens.push t }

/-- Put a token before the one with the given index. -/
def emitAt (i : Nat) (t : Token) : Scan Unit := modify fun s =>
  { s with tokens := s.tokens.extract 0 i ++ #[t] ++ s.tokens.extract i s.tokens.size }

end Sidecar.Yaml

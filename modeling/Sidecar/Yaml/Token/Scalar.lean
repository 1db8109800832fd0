import Sidecar.Yaml.Token
import Sidecar.Number.Text

/-!
# Scalars of a YAML stream

How the text of a scalar is gathered from its lines: `quotedScalar` between quotes, `plainScalar`
without any, `blockScalar` after `|` or `>`.

Where lines are folded, a single line break is a space, and of several the first is dropped
(`folded`).
-/

namespace Sidecar.Yaml

/-- What a run of blanks and breaks between two words of a folded scalar stands for.  The first
break is dropped when it is an ordinary one; alone it is a space. -/
def folded (leading trailing : List Char) : List Char :=
  if leading.head? == some '\n' then (if trailing.isEmpty then [' '] else trailing)
  else leading ++ trailing

/-- The character of a one-letter escape. -/
def letterEscape (c : Char) : Option Char :=
  match c with
  | '0' => some '\x00'
  | 'a' => some '\x07'
  | 'b' => some '\x08'
  | 't' => some '\t'
  | '\t' => some '\t'
  | 'n' => some '\n'
  | 'v' => some '\x0b'
  | 'f' => some '\x0c'
  | 'r' => some '\r'
  | 'e' => some '\x1b'
  | ' ' => some ' '
  | '"' => some '"'
  | '/' => some '/'
  | '\\' => some '\\'
  | 'N' => some '\u0085'
  | '_' => some '\u00a0'
  | 'L' => some '\u2028'
  | 'P' => some '\u2029'
  | _ => none

/-- The number of digits of a numbered escape. -/
def escapeDigits (c : Char) : Option Nat :=
  match c with
  | 'x' => some 2
  | 'u' => some 4
  | 'U' => some 8
  | _ => none

/-- A hexadecimal number of exactly the given number of digits. -/
def hexDigits : (count : Nat) → (sofar : Nat) → Scan Nat
  | 0, n => return n
  | count + 1, n => do
    match digitValue (← peek) with
    | some d =>
      skip
      hexDigits count (n * 16 + d)
    | none => refuse

/-- An escape sequence of a double-quoted scalar, at its backslash. -/
def escape : Scan Char := do
  let c ← peekAt 1
  skip
  skip
  match escapeDigits c with
  | some count =>
    let n ← hexDigits count 0
    if h : n.isValidChar then return Char.ofNatAux n h else refuse
  | none =>
    match letterEscape c with
    | some r => return r
    | none => refuse

/-- The characters of a quoted scalar up to a blank, a break or the closing quote.  The result
tells whether an escaped line break ended it. -/
def quotedWord (single : Bool) : (fuel : Nat) → List Char → Scan (List Char × Bool)
  | 0, _ => refuse
  | fuel + 1, acc => do
    let c ← peek
    if isGapOrEnd c then return (acc, false)
    else if single && c == '\'' && (← peekAt 1) == '\'' then
      skip
      skip
      quotedWord single fuel ('\'' :: acc)
    else if c == (if single then '\'' else '"') then return (acc, false)
    else if !single && c == '\\' then
      if isBreak (← peekAt 1) then
        skip
        let _ ← takeBreak
        return (acc, true)
      else
        let r ← escape
        quotedWord single fuel (r :: acc)
    else
      skip
      quotedWord single fuel (c :: acc)

/-- Blanks and breaks as they were met. -/
structure Space where
  /-- Whether a break was met. -/
  broken : Bool
  /-- Blanks before the first break, in reverse. -/
  blanks : List Char
  /-- The first break. -/
  leading : List Char
  /-- The breaks after it. -/
  trailing : List Char

/-- No blank and no break. -/
def Space.none : Space := ⟨false, [], [], []⟩

/-- The text that the space between two words stands for. -/
def Space.text (s : Space) : List Char :=
  if s.broken then folded s.leading s.trailing else s.blanks.reverse

/-- Blanks and breaks; with `indent`, a tab before that column after a break is refused. -/
def takeSpace (indent : Option Int) : (fuel : Nat) → Space → Scan Space
  | 0, s => return s
  | fuel + 1, s => do
    let c ← peek
    if isGap c then
      let column : Int := (← get).column
      if s.broken && c == '\t' && (indent.any fun i => column < i) then refuse
      skip
      takeSpace indent fuel (if s.broken then s else { s with blanks := c :: s.blanks })
    else if isBreak c then
      let b ← takeBreak
      takeSpace indent fuel
        (if s.broken then { s with trailing := s.trailing ++ b }
         else { s with broken := true, blanks := [], leading := b })
    else return s

/-- The text of a quoted scalar after its opening quote, in reverse, with its closing quote
passed. -/
def quotedBody (single : Bool) : (fuel : Nat) → List Char → Scan (List Char)
  | 0, _ => refuse
  | fuel + 1, acc => do
    if (← atMark '-') || (← atMark '.') then refuse
    if (← peek) == eot then refuse
    let (acc, joined) ← quotedWord single (← get).bound acc
    if (← peek) == (if single then '\'' else '"') then
      skip
      return acc
    let space ← takeSpace none (← get).bound { Space.none with broken := joined }
    quotedBody single fuel (space.text.reverse ++ acc)

/-- A quoted scalar, at its opening quote. -/
def quotedScalar (single : Bool) : Scan Token := do
  skip
  let cs ← quotedBody single (← get).bound []
  return .scalar (if single then .singleQuoted else .doubleQuoted) (String.ofList cs.reverse)

/-- An indicator of flow collections. -/
def isFlowIndicator (c : Char) : Bool :=
  c == ',' || c == '[' || c == ']' || c == '{' || c == '}'

/-- The characters of a plain scalar up to a blank, a break or an indicator that ends it. -/
def plainWord : (fuel : Nat) → List Char → Scan (List Char)
  | 0, _ => refuse
  | fuel + 1, acc => do
    let c ← peek
    let d ← peekAt 1
    let inFlow := (← get).flow != 0
    if isGapOrEnd c then return acc
    else if inFlow && c == ':' && (isFlowIndicator d || d == '?') then refuse
    else if (c == ':' && isGapOrEnd d) || (inFlow && isFlowIndicator c) then return acc
    else
      skip
      plainWord fuel (c :: acc)

/-- The words of a plain scalar, in reverse, with the space that stood before the next word;
the result tells whether a break came last. -/
def plainBody : (fuel : Nat) → Space → List Char → Scan (List Char × Bool)
  | 0, _, _ => refuse
  | fuel + 1, space, acc => do
    if (← atMark '-') || (← atMark '.') then return (acc, space.broken)
    if (← peek) == '#' then return (acc, space.broken)
    let w ← plainWord (← get).bound []
    let (space, acc) :=
      if w.isEmpty then (space, acc) else (Space.none, w ++ space.text.reverse ++ acc)
    let c ← peek
    if !(isGap c || isBreak c) then return (acc, space.broken)
    let indent := (← get).indent + 1
    let space ← takeSpace (some indent) (← get).bound space
    if (← get).flow == 0 && ((← get).column : Int) < indent then return (acc, space.broken)
    plainBody fuel space acc

/-- A plain scalar.  After a break, a key may begin again. -/
def plainScalar : Scan Token := do
  let (cs, broken) ← plainBody (← get).bound Space.none []
  if broken then modify fun s => { s with keyAllowed := true }
  return .scalar .plain (String.ofList cs.reverse)

/-! ### Block scalars -/

/-- Pass over indentation and empty lines of a block scalar.  The indentation is `0` while
unknown; the result has the breaks and the greatest column met. -/
def blockBreaks (indent : Nat) : (fuel : Nat) → (widest : Nat) → List Char →
    Scan (Nat × List Char)
  | 0, widest, acc => return (widest, acc)
  | fuel + 1, widest, acc => do
    let column := (← get).column
    let c ← peek
    if (indent == 0 || column < indent) && c == ' ' then
      skip
      blockBreaks indent fuel widest acc
    else
      let widest := max widest column
      if (indent == 0 || column < indent) && c == '\t' then refuse
      else if isBreak c then
        let b ← takeBreak
        blockBreaks indent fuel widest (acc ++ b)
      else return (widest, acc)

/-- The lines of a block scalar, in reverse, each joined to what came before it; the result has
the last break and the empty lines after it. -/
def blockBody (literal : Bool) (indent : Nat) : (fuel : Nat) → (afterBlank : Bool) →
    (leading trailing acc : List Char) → Scan (List Char × List Char × List Char)
  | 0, _, leading, trailing, acc => return (acc, leading, trailing)
  | fuel + 1, afterBlank, leading, trailing, acc => do
    let c ← peek
    if (← get).column == indent && c != eot then
      let blank := isGap c
      let joint :=
        if !literal && leading.head? == some '\n' && !afterBlank && !blank then
          (if trailing.isEmpty then [' '] else [])
        else leading
      let line ← takeWhile (!isBreak ·)
      let acc := line.reverse ++ trailing.reverse ++ joint.reverse ++ acc
      let leading ← takeBreak
      let (_, trailing) ← blockBreaks indent (← get).bound 0 []
      blockBody literal indent fuel blank leading trailing acc
    else return (acc, leading, trailing)

/-- What becomes of the breaks at the end of a block scalar. -/
inductive Chomping where
  | strip
  | clip
  | keep
  deriving DecidableEq

/-- A chomping indicator, if there is one. -/
def chompingIndicator : Scan (Option Chomping) := do
  match ← peek with
  | '+' =>
    skip
    return some .keep
  | '-' =>
    skip
    return some .strip
  | _ => return none

/-- An indentation indicator, if there is one; zero is refused. -/
def indentationIndicator : Scan (Option Nat) := do
  let c ← peek
  if c == '0' then refuse
  else if c.isDigit then
    skip
    return some (c.toNat - '0'.toNat)
  else return none

/-- A block scalar, at its `|` or `>`. -/
def blockScalar (literal : Bool) : Scan Token := do
  skip
  let (chomping, increment) ← do
    match ← chompingIndicator with
    | some c => pure (c, ← indentationIndicator)
    | none =>
      match ← indentationIndicator with
      | some n => pure ((← chompingIndicator).getD .clip, some n)
      | none => pure (Chomping.clip, none)
  finishLine
  let base := (← get).indent
  let known := match increment with
    | some n => (if 0 ≤ base then base.toNat + n else n)
    | none => 0
  let (widest, trailing) ← blockBreaks known (← get).bound 0 []
  let indent := if known == 0 then max (max widest (base + 1).toNat) 1 else known
  let (acc, leading, trailing) ←
    blockBody literal indent (← get).bound false [] trailing []
  let tail := match chomping with
    | .strip => []
    | .clip => leading
    | .keep => leading ++ trailing
  return .scalar (if literal then .literal else .folded)
    (String.ofList (acc.reverse ++ tail))

end Sidecar.Yaml

import Sidecar.Yaml.Token.Scalar

/-!
# Cutting a YAML stream into tokens

`tokens?` cuts a whole text.  Where a `:` turns what came before into a key, the key mark, and
the start of a block mapping if its column opens one, are put before the tokens of the key
(`fetchValue`).
-/

namespace Sidecar.Yaml

/-! ### Indentation and keys -/

/-- Close the block collections that stand further right than a column. -/
def unroll (column : Int) : (outer : List Int) → Scan Unit
  | [] => return
  | i :: outer => do
    let s ← get
    if s.flow == 0 && column < s.indent then
      emit .blockEnd
      modify fun s => { s with indent := i, outer := outer }
      unroll column outer
    else return

/-- Close the block collections that stand further right than a column. -/
def unrollTo (column : Int) : Scan Unit := do unroll column (← get).outer

/-- Open a block collection at a column, unless one of that column is open; its token goes
before the one with index `before`, or to the end. -/
def roll (column : Nat) (before : Option Nat) (t : Token) : Scan Unit := do
  let s ← get
  if s.flow == 0 && s.indent < column then
    set { s with indent := column, outer := s.indent :: s.outer }
    match before with
    | some i => emitAt i t
    | none => emit t

/-- Give up the place of a possible key; where a key was required, the text is refused. -/
def removeKey : Scan Unit := do
  let s ← get
  if s.keyPlace.possible && s.keyPlace.required then refuse
  set { s with keyPlace := .none }

/-- Note that a key may begin here. -/
def saveKey : Scan Unit := do
  let s ← get
  if s.keyAllowed then
    removeKey
    set { s with keyPlace := ⟨true, s.flow == 0 && s.indent == (s.column : Int),
      s.tokens.size, s.index, s.line, s.column⟩ }

/-- The longest distance between the start of a key and its `:`. -/
def keyLimit : Nat := 1024

/-- Whether the place of a key is too far back: on an earlier line, or beyond the limit. -/
def KeyPlace.isStale (k : KeyPlace) (s : Scanner) : Bool :=
  k.possible && (k.line < s.line || k.index + keyLimit < s.index)

/-- Give up the key places that are too far back; where a key was required, the text is
refused. -/
def dropStaleKeys : Scan Unit := do
  let s ← get
  if (s.keyPlace :: s.outerKeys).any fun k => k.isStale s && k.required then refuse
  let fresh (k : KeyPlace) : KeyPlace := if k.isStale s then .none else k
  set { s with keyPlace := fresh s.keyPlace, outerKeys := s.outerKeys.map fresh }

/-- Allow or forbid a key here. -/
def allowKey (b : Bool) : Scan Unit := modify fun s => { s with keyAllowed := b }

/-! ### Directives, anchors and tags -/

/-- A number of at most nine digits. -/
def versionNumber : Scan Nat := do
  let ds ← takeWhile Char.isDigit
  if ds.isEmpty || 9 < ds.length then refuse
  return (readDigits 10 0 ds).getD 0

/-- A character of tags other than the bracketing ones. -/
def isTagChar (c : Char) : Bool :=
  isName c || (";/?:@&=+$.%!~*'()".toList.contains c)

/-- One octet of a percent escape. -/
def percentOctet : Scan Nat := do
  if (← peek) != '%' then refuse
  match digitValue (← peekAt 1), digitValue (← peekAt 2) with
  | some a, some b =>
    skip
    skip
    skip
    return a * 16 + b
  | _, _ => refuse

/-- The further octets of an escaped character. -/
def percentTail : (count : Nat) → (sofar : Nat) → Scan Nat
  | 0, n => return n
  | count + 1, n => do
    let o ← percentOctet
    if o / 64 != 2 then refuse
    percentTail count (n * 64 + o % 64)

/-- A character written as percent escapes of its octets. -/
def percentEscape : Scan Char := do
  let o ← percentOctet
  let n ←
    if o < 0x80 then pure o
    else if o / 32 == 6 then percentTail 1 (o % 32)
    else if o / 16 == 14 then percentTail 2 (o % 16)
    else if o / 8 == 30 then percentTail 3 (o % 8)
    else refuse
  if h : n.isValidChar then return Char.ofNatAux n h else refuse

/-- The characters of a tag; with `verbatim`, brackets and commas belong to it. -/
def tagBody (verbatim : Bool) : (fuel : Nat) → List Char → Scan (List Char)
  | 0, _ => refuse
  | fuel + 1, acc => do
    let c ← peek
    if c == '%' then
      let r ← percentEscape
      tagBody verbatim fuel (r :: acc)
    else if isTagChar c || (verbatim && (c == ',' || c == '[' || c == ']')) then
      skip
      tagBody verbatim fuel (c :: acc)
    else return acc.reverse

/-- A tag handle: `!`, `!!` or `!name!`; or the start of a tag, `!name`, outside a directive. -/
def tagHandle (directive : Bool) : Scan (List Char) := do
  if (← peek) != '!' then refuse
  skip
  let name ← takeWhile isName
  if (← peek) == '!' then
    skip
    return '!' :: name ++ ['!']
  else
    if directive && !name.isEmpty then refuse
    return '!' :: name

/-- A directive, at its `%`. -/
def directive : Scan Token := do
  skip
  let name ← takeWhile isName
  if name.isEmpty || !isGapOrEnd (← peek) then refuse
  let t ←
    if name == "YAML".toList then do
      let _ ← takeWhile isGap
      let major ← versionNumber
      if (← peek) != '.' then refuse
      skip
      let minor ← versionNumber
      pure (Token.version major minor)
    else if name == "TAG".toList then do
      let _ ← takeWhile isGap
      let handle ← tagHandle true
      if !isGap (← peek) then refuse
      let _ ← takeWhile isGap
      let start ← tagBody true (← get).bound []
      if start.isEmpty || !isGapOrEnd (← peek) then refuse
      pure (Token.tagDirective (String.ofList handle) (String.ofList start))
    else refuse
  finishLine
  return t

/-- The name of an anchor or alias, after its mark. -/
def anchorName : Scan String := do
  skip
  let name ← takeWhile isName
  let c ← peek
  if name.isEmpty || !(isGapOrEnd c || "?:,]\x7d%@`".toList.contains c) then refuse
  return String.ofList name

/-- A tag, at its `!`. -/
def tagToken : Scan Token := do
  let t ←
    if (← peekAt 1) == '<' then do
      skip
      skip
      let suffix ← tagBody true (← get).bound []
      if suffix.isEmpty || (← peek) != '>' then refuse
      skip
      pure (Token.tag "" (String.ofList suffix))
    else do
      let handle ← tagHandle false
      if handle.length ≥ 2 && handle.getLast? == some '!' then
        let suffix ← tagBody false (← get).bound []
        if suffix.isEmpty then refuse
        pure (Token.tag (String.ofList handle) (String.ofList suffix))
      else
        let more ← tagBody false (← get).bound []
        let suffix := handle.drop 1 ++ more
        if suffix.isEmpty then pure (Token.tag "" "!")
        else pure (Token.tag "!" (String.ofList suffix))
  let c ← peek
  if !(((← get).flow != 0 && c == ',') || isGapOrEnd c) then refuse
  return t

/-! ### The next token -/

/-- Pass over blanks, comments and line breaks before a token.  A tab is no indentation. -/
def skipToToken : (fuel : Nat) → Scan Unit
  | 0 => return
  | fuel + 1 => do
    let s ← get
    if s.index == 0 && (← peek) == '\ufeff' then skip
    let _ ← takeWhile fun c =>
      c == ' ' || ((s.flow != 0 || !s.keyAllowed) && c == '\t')
    if (← peek) == '#' then
      let _ ← takeWhile (!isBreak ·)
    if isBreak (← peek) then
      let _ ← takeBreak
      if s.flow == 0 then allowKey true
      skipToToken fuel

/-- A mark of one character that neither is nor follows a key. -/
def fetchMark (t : Token) : Scan Unit := do
  skip
  emit t

/-- A document mark or a directive ends all block collections. -/
def leaveBlocks : Scan Unit := do
  unrollTo (-1)
  removeKey
  allowKey false

/-- The start of a flow collection, which may be a key. -/
def fetchFlowStart (t : Token) : Scan Unit := do
  saveKey
  modify fun s => { s with
    outerKeys := s.keyPlace :: s.outerKeys, keyPlace := .none, flow := s.flow + 1,
    keyAllowed := true }
  fetchMark t

/-- The end of a flow collection. -/
def fetchFlowEnd (t : Token) : Scan Unit := do
  removeKey
  modify fun s =>
    match s.outerKeys with
    | k :: ks =>
      if s.flow == 0 then s else { s with keyPlace := k, outerKeys := ks, flow := s.flow - 1 }
    | [] => s
  allowKey false
  fetchMark t

/-- The mark of a block entry. -/
def fetchBlockEntry : Scan Unit := do
  let s ← get
  if s.flow == 0 then
    if !s.keyAllowed then refuse
    roll s.column none .blockSequenceStart
  removeKey
  allowKey true
  fetchMark .blockEntry

/-- The mark of a key. -/
def fetchKey : Scan Unit := do
  let s ← get
  if s.flow == 0 then
    if !s.keyAllowed then refuse
    roll s.column none .blockMappingStart
  removeKey
  allowKey (s.flow == 0)
  fetchMark .key

/-- The mark of a value.  If a key could have begun earlier on, it did. -/
def fetchValue : Scan Unit := do
  let s ← get
  let k := s.keyPlace
  if k.possible then
    emitAt k.token .key
    roll k.column (some k.token) .blockMappingStart
    modify fun s => { s with keyPlace := .none, keyAllowed := false }
  else
    if s.flow == 0 then
      if !s.keyAllowed then refuse
      roll s.column none .blockMappingStart
    allowKey (s.flow == 0)
  fetchMark .value

/-- A token that may be a key, or belong to one. -/
def fetchKeyPart (t : Scan Token) : Scan Unit := do
  saveKey
  allowKey false
  emit (← t)

/-- A character that begins no plain scalar. -/
def isIndicator (c : Char) : Bool := "-?:,[]\x7b\x7d#&*!|>'\"%@`".toList.contains c

/-- The next token; the result tells whether the stream has ended. -/
def fetch : Scan Bool := do
  skipToToken (← get).bound
  dropStaleKeys
  unrollTo (← get).column
  let s ← get
  let c ← peek
  let d ← peekAt 1
  let inFlow := s.flow != 0
  if c == eot then
    if s.column != 0 then modify fun s => { s with column := 0, line := s.line + 1 }
    leaveBlocks
    emit .streamEnd
    return true
  if s.column == 0 && c == '%' then
    leaveBlocks
    emit (← directive)
  else if ← atMark '-' then
    leaveBlocks
    skip
    skip
    fetchMark .documentStart
  else if ← atMark '.' then
    leaveBlocks
    skip
    skip
    fetchMark .documentEnd
  else if c == '[' then fetchFlowStart .flowSequenceStart
  else if c == '{' then fetchFlowStart .flowMappingStart
  else if c == ']' then fetchFlowEnd .flowSequenceEnd
  else if c == '}' then fetchFlowEnd .flowMappingEnd
  else if c == ',' then
    removeKey
    allowKey true
    fetchMark .flowEntry
  else if c == '-' && isGapOrEnd d then fetchBlockEntry
  else if c == '?' && (inFlow || isGapOrEnd d) then fetchKey
  else if c == ':' && (inFlow || isGapOrEnd d) then fetchValue
  else if c == '*' then fetchKeyPart do return .alias (← anchorName)
  else if c == '&' then fetchKeyPart do return .anchor (← anchorName)
  else if c == '!' then fetchKeyPart tagToken
  else if (c == '|' || c == '>') && !inFlow then
    removeKey
    allowKey true
    emit (← blockScalar (c == '|'))
  else if c == '\'' || c == '"' then fetchKeyPart (quotedScalar (c == '\''))
  else if !(isGapOrEnd c || isIndicator c) || (c == '-' && !isGap d) ||
      (!inFlow && (c == '?' || c == ':') && !isGapOrEnd d) then
    fetchKeyPart plainScalar
  else refuse
  return false

/-- All tokens. -/
def fetchAll : (fuel : Nat) → Scan Unit
  | 0 => refuse
  | fuel + 1 => do
    if !(← fetch) then fetchAll fuel

/-- The tokens of a text; one byte order mark may stand before it. -/
def tokens? (s : String) : Option (List Token) :=
  let cs := match s.toList with
    | '\ufeff' :: cs => cs
    | cs => cs
  if cs.all isAllowed then
    match (do fetchAll (← get).bound : Scan Unit).run (Scanner.ofText cs) with
    | some (_, s) => some s.tokens.toList
    | none => none
  else none

end Sidecar.Yaml

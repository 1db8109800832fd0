import Sidecar.Yaml.Token.Lexer

/-!
# The tree of a YAML document

`stream?` arranges the tokens of a text with one document into a tree; a text with more than one
is refused.  References are numbered: an anchor's number is how many names were
anchored before it, so anchoring a name anew can give it the number of a later name.

A stream without any document is no tree at all (`Stream.empty`).
-/

namespace Sidecar.Yaml

/-- A node of a document.  A scalar without a text of its own is an empty plain one. -/
inductive Tree where
  | scalar (anchor : Option Nat) (tag : Option String) (style : Style) (text : String)
  | sequence (anchor : Option Nat) (tag : Option String) (items : List Tree)
  | mapping (anchor : Option Nat) (tag : Option String) (entries : List (Tree × Tree))
  | alias (target : Nat)
  deriving Inhabited

/-- An absent node. -/
def Tree.absent : Tree := .scalar none none .plain ""

/-- What a stream contains. -/
inductive Stream where
  | empty
  | document (root : Tree)
  deriving Inhabited

/-- The state of arranging tokens. -/
structure Arranger where
  /-- The tokens that are left. -/
  rest : List Token
  /-- The numbers of the anchored names, the latest first. -/
  anchors : List (String × Nat)
  /-- The prefixes of tag handles. -/
  handles : List (String × String)

/-- A step of arranging tokens. -/
abbrev Arrange := StateT Arranger Option

namespace Arrange

/-- The next token. -/
def peek : Arrange Token := do return (← get).rest.headD .streamEnd

/-- Pass over a token. -/
def skip : Arrange Unit := modify fun s => { s with rest := s.rest.tail }

/-- Refuse the tokens. -/
def refuse {α : Type} : Arrange α := fun _ => none

/-- Give a name the next number. -/
def anchorName (name : String) : Arrange Nat := do
  let s ← get
  let n := s.anchors.length
  set { s with anchors := (name, n) :: s.anchors.filter fun p => p.1 != name }
  return n

/-- An anchor and a tag, in either order. -/
def properties : Arrange (Option String × Option (String × String)) := do
  match ← peek with
  | .anchor a =>
    skip
    match ← peek with
    | .tag h s =>
      skip
      return (some a, some (h, s))
    | _ => return (some a, none)
  | .tag h s =>
    skip
    match ← peek with
    | .anchor a =>
      skip
      return (some a, some (h, s))
    | _ => return (none, some (h, s))
  | _ => return (none, none)

/-- A tag with its handle written out. -/
def wholeTag : Option (String × String) → Arrange (Option String)
  | none => return none
  | some (handle, suffix) => do
    if handle.isEmpty then return some suffix
    match (← get).handles.lookup handle with
    | some start => return some (start ++ suffix)
    | none => refuse

/-- Whether a token is one of those that show that a node is absent. -/
def absentBefore (ends : List Token) : Arrange Bool := do return ends.contains (← peek)

mutual

/-- A node.  Only where `block` holds may it be a block collection; only where `indentless`
holds may it be a sequence whose entries stand no further right than the keys around it. -/
def node (block indentless : Bool) : (fuel : Nat) → Arrange Tree
  | 0 => refuse
  | fuel + 1 => do
    if let .alias name := ← peek then
      skip
      match (← get).anchors.lookup name with
      | some n => return .alias n
      | none => refuse
    let (anchor, tag) ← properties
    let tag ← wholeTag tag
    let anchor ← match anchor with
      | some a => some <$> anchorName a
      | none => pure none
    match ← peek with
    | .scalar style text =>
      skip
      let tag := if tag == some "!" then none else tag
      return .scalar anchor tag style text
    | .flowSequenceStart =>
      skip
      return .sequence anchor tag (← flowItems true fuel)
    | .flowMappingStart =>
      skip
      return .mapping anchor tag (← flowEntries true fuel)
    | .blockEntry =>
      if indentless then return .sequence anchor tag (← indentlessItems fuel)
      else if anchor.isSome || tag.isSome then return .scalar anchor tag .plain ""
      else refuse
    | .blockSequenceStart =>
      if block then
        skip
        return .sequence anchor tag (← blockItems fuel)
      else if anchor.isSome || tag.isSome then return .scalar anchor tag .plain ""
      else refuse
    | .blockMappingStart =>
      if block then
        skip
        return .mapping anchor tag (← blockEntries fuel)
      else if anchor.isSome || tag.isSome then return .scalar anchor tag .plain ""
      else refuse
    | _ =>
      if anchor.isSome || tag.isSome then return .scalar anchor tag .plain ""
      else refuse

/-- A node, or an absent one before any of `ends`. -/
def nodeUnless (ends : List Token) (block indentless : Bool) : (fuel : Nat) → Arrange Tree
  | 0 => refuse
  | fuel + 1 => do
    if ← absentBefore ends then return .absent
    else node block indentless fuel

/-- The items of a block sequence and its end. -/
def blockItems : (fuel : Nat) → Arrange (List Tree)
  | 0 => refuse
  | fuel + 1 => do
    match ← peek with
    | .blockEntry =>
      skip
      let n ← nodeUnless [.blockEntry, .blockEnd] true false fuel
      return n :: (← blockItems fuel)
    | .blockEnd =>
      skip
      return []
    | _ => refuse

/-- The items of a sequence in the column of the keys around it. -/
def indentlessItems : (fuel : Nat) → Arrange (List Tree)
  | 0 => refuse
  | fuel + 1 => do
    match ← peek with
    | .blockEntry =>
      skip
      let n ← nodeUnless [.blockEntry, .key, .value, .blockEnd] true false fuel
      return n :: (← indentlessItems fuel)
    | _ => return []

/-- The entries of a block mapping and its end. -/
def blockEntries : (fuel : Nat) → Arrange (List (Tree × Tree))
  | 0 => refuse
  | fuel + 1 => do
    match ← peek with
    | .key =>
      skip
      let k ← nodeUnless [.key, .value, .blockEnd] true true fuel
      let v ← blockValue fuel
      return (k, v) :: (← blockEntries fuel)
    | .blockEnd =>
      skip
      return []
    | _ => refuse

/-- The value of an entry of a block mapping, absent without its mark. -/
def blockValue : (fuel : Nat) → Arrange Tree
  | 0 => refuse
  | fuel + 1 => do
    match ← peek with
    | .value =>
      skip
      nodeUnless [.key, .value, .blockEnd] true true fuel
    | _ => return .absent

/-- The items of a flow sequence and its end.  An item that begins with a key mark is a mapping
of one entry. -/
def flowItems (first : Bool) : (fuel : Nat) → Arrange (List Tree)
  | 0 => refuse
  | fuel + 1 => do
    if (← peek) == .flowSequenceEnd then
      skip
      return []
    if !first then
      if (← peek) != .flowEntry then refuse
      skip
    match ← peek with
    | .flowSequenceEnd =>
      skip
      return []
    | .key =>
      skip
      let ends : List Token := [.value, .flowEntry, .flowSequenceEnd]
      -- the mark that shows that the key is absent is passed over with it
      let k ← if ← absentBefore ends then do { skip; pure Tree.absent }
        else node false false fuel
      let v ← flowValue .flowSequenceEnd fuel
      return .mapping none none [(k, v)] :: (← flowItems false fuel)
    | _ =>
      let n ← node false false fuel
      return n :: (← flowItems false fuel)

/-- The entries of a flow mapping and its end. -/
def flowEntries (first : Bool) : (fuel : Nat) → Arrange (List (Tree × Tree))
  | 0 => refuse
  | fuel + 1 => do
    if (← peek) == .flowMappingEnd then
      skip
      return []
    if !first then
      if (← peek) != .flowEntry then refuse
      skip
    match ← peek with
    | .flowMappingEnd =>
      skip
      return []
    | .key =>
      skip
      let k ← nodeUnless [.value, .flowEntry, .flowMappingEnd] false false fuel
      let v ← flowValue .flowMappingEnd fuel
      return (k, v) :: (← flowEntries false fuel)
    | _ =>
      let k ← node false false fuel
      return (k, .absent) :: (← flowEntries false fuel)

/-- The value of an entry of a flow collection, absent without its mark. -/
def flowValue (last : Token) : (fuel : Nat) → Arrange Tree
  | 0 => refuse
  | fuel + 1 => do
    match ← peek with
    | .value =>
      skip
      nodeUnless [.flowEntry, last] false false fuel
    | _ => return .absent

end

/-- The directives before a document. -/
def directives : (fuel : Nat) → (versions : Nat) → (handles : List (String × String)) →
    Arrange (List (String × String))
  | 0, _, _ => refuse
  | fuel + 1, versions, handles => do
    match ← peek with
    | .version major minor =>
      if versions != 0 || major != 1 || !(minor == 1 || minor == 2) then refuse
      skip
      directives fuel (versions + 1) handles
    | .tagDirective handle start =>
      if (handles.lookup handle).isSome then refuse
      skip
      directives fuel versions ((handle, start) :: handles)
    | _ => return handles

/-- The handles that need no directive. -/
def defaultHandles : List (String × String) :=
  [("!", "!"), ("!!", "tag:yaml.org,2002:")]

/-- Pass over document end marks. -/
def skipDocumentEnds : (fuel : Nat) → Arrange Unit
  | 0 => return
  | fuel + 1 => do
    if (← peek) == .documentEnd then
      skip
      skipDocumentEnds fuel

/-- The root of a document after its start mark. -/
def explicitRoot (fuel : Nat) : Arrange Tree := do
  match ← peek with
  | .version _ _ | .tagDirective _ _ | .documentStart | .documentEnd | .streamEnd =>
    return .absent
  | _ => node true false fuel

/-- A whole stream with at most one document. -/
def stream (fuel : Nat) : Arrange Stream := do
  match ← peek with
  | .streamEnd => return .empty
  | _ =>
    let explicit := match ← peek with
      | .version _ _ | .tagDirective _ _ | .documentStart => true
      | _ => false
    let root ←
      if explicit then do
        let own ← directives fuel 0 []
        modify fun s => { s with handles := own ++ defaultHandles }
        if (← peek) != .documentStart then refuse
        skip
        explicitRoot fuel
      else node true false fuel
    skipDocumentEnds fuel
    if (← peek) != .streamEnd then refuse
    return .document root

end Arrange

/-- The stream of a text. -/
def stream? (s : String) : Option Stream := do
  let ts ← tokens? s
  let (r, _) ← (Arrange.stream (2 * ts.length + 4)).run ⟨ts, [], Arrange.defaultHandles⟩
  return r

namespace Tree

mutual

/-- The anchored nodes with their numbers, in the order of the text. -/
def anchored : Tree → List (Nat × Tree)
  | .scalar a t st s => own a (.scalar a t st s)
  | .sequence a t items => own a (.sequence a t items) ++ anchoredItems items
  | .mapping a t entries => own a (.mapping a t entries) ++ anchoredEntries entries
  | .alias _ => []
where
  own (a : Option Nat) (t : Tree) : List (Nat × Tree) :=
    match a with
    | some n => [(n, t)]
    | none => []

/-- The anchored nodes of items. -/
def anchoredItems : List Tree → List (Nat × Tree)
  | [] => []
  | t :: ts => anchored t ++ anchoredItems ts

/-- The anchored nodes of entries. -/
def anchoredEntries : List (Tree × Tree) → List (Nat × Tree)
  | [] => []
  | (k, v) :: es => anchored k ++ anchored v ++ anchoredEntries es

end

mutual

/-- The number of events in the text of a tree: one for a scalar or reference, two around a
collection. -/
def events : Tree → Nat
  | .scalar .. => 1
  | .sequence _ _ items => 2 + itemEvents items
  | .mapping _ _ entries => 2 + entryEvents entries
  | .alias _ => 1

/-- The number of events of items. -/
def itemEvents : List Tree → Nat
  | [] => 0
  | t :: ts => events t + itemEvents ts

/-- The number of events of entries. -/
def entryEvents : List (Tree × Tree) → Nat
  | [] => 0
  | (k, v) :: es => events k + events v + entryEvents es

end

end Tree

end Sidecar.Yaml

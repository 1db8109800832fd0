import Sidecar.Node
import Sidecar.Value

/-!
# JSON pointers and patches

A pointer is a list of reference tokens, each written after a slash; inside a token `~0` stands
for a tilde and `~1` for a slash.

* `Pointer.escape` writes a token and `Pointer.unescape?` reads one;
* `Pointer.tokens?` reads a pointer, and gives none for a text that is no pointer;
* `Pointer.ofPath` turns a dotted path into a pointer.

A patch is a list of operations on a document, each at a place that a pointer names.
`PatchOperation.ofNode?` reads an operation, `toValue` writes it.
-/

namespace Sidecar.Pointer

/-- A character inside a token. -/
def escapeChar (c : Char) : List Char :=
  if c = '~' then ['~', '0'] else if c = '/' then ['~', '1'] else [c]

/-- A token as it is written. -/
def escape (token : String) : String := String.ofList (token.toList.flatMap escapeChar)

/-- The characters of a written token. -/
def unescapeChars? : List Char → Option (List Char)
  | [] => some []
  | '~' :: '0' :: cs => (unescapeChars? cs).map ('~' :: ·)
  | '~' :: '1' :: cs => (unescapeChars? cs).map ('/' :: ·)
  | c :: cs => if c = '~' then none else (unescapeChars? cs).map (c :: ·)

/-- The token that is written so. -/
def unescape? (written : String) : Option String :=
  (unescapeChars? written.toList).map String.ofList

theorem unescapeChars?_escapeChar {c : Char} {cs : List Char} :
    unescapeChars? (escapeChar c ++ cs) = (unescapeChars? cs).map (c :: ·) := by
  unfold escapeChar
  by_cases h : c = '~'
  · simp [h, unescapeChars?]
  · by_cases hs : c = '/'
    · simp [hs, unescapeChars?]
    · simp [h, hs, unescapeChars?]

/-- Reading a token undoes writing it. -/
theorem unescape?_escape {token : String} : unescape? (escape token) = some token := by
  have h : ∀ cs : List Char, unescapeChars? (cs.flatMap escapeChar) = some cs := by
    intro cs
    induction cs with
    | nil => rfl
    | cons c cs ih => simp [unescapeChars?_escapeChar, ih]
  simp [unescape?, escape, h]

/-- The parts of a text between separators. -/
def splitChars (sep : Char) : List Char → List (List Char)
  | [] => [[]]
  | c :: cs =>
    if c = sep then [] :: splitChars sep cs
    else
      match splitChars sep cs with
      | part :: parts => (c :: part) :: parts
      | [] => [[c]]

/-- The tokens of a pointer. -/
def tokens? (pointer : String) : Option (List String) :=
  match pointer.toList with
  | [] => some []
  | '/' :: cs => (splitChars '/' cs).mapM fun t => unescape? (String.ofList t)
  | _ => none

/-- Whether a text is a pointer. -/
def isPointer (s : String) : Bool := (tokens? s).isSome

/-- The pointer of tokens. -/
def ofTokens (tokens : List String) : String :=
  String.join (tokens.map fun t => "/" ++ escape t)

/-- The pointer of a path: of a text that begins with a slash the text itself, otherwise of the
parts between dots that are not empty, dollar signs before the first one being left out. -/
def ofPath (path : String) : String :=
  match path.toList with
  | '/' :: _ => path
  | cs =>
    let parts := splitChars '.' (cs.dropWhile (· == '$'))
    ofTokens ((parts.filter fun p => !p.isEmpty).map String.ofList)

end Sidecar.Pointer

namespace Sidecar

/-- An operation on a document. -/
inductive PatchOperation where
  /-- Put a value at a place, or insert it there into a list. -/
  | add (path : String) (value : Value)
  /-- Take away what is at a place. -/
  | remove (path : String)
  /-- Replace what is at a place. -/
  | replace (path : String) (value : Value)
  /-- Move what is at one place to another. -/
  | move (source path : String)
  /-- Put what is at one place at another as well. -/
  | copy (source path : String)
  /-- Check what is at a place. -/
  | test (path : String) (value : Value)
  deriving Inhabited

namespace PatchOperation

/-- The place that an operation changes or checks. -/
def path : PatchOperation → String
  | add p _ | remove p | replace p _ | move _ p | copy _ p | test p _ => p

/-- The reading of a pointer. -/
def pointer? (n : Node) : Option String := do
  let s ← n.text?
  if Pointer.isPointer s then return s else none

/-- The name of an operation and the rest of it, from a table or from a list that begins with the
name. -/
def split? : Node → Option (String × Node)
  | .table es =>
    match es.filter fun e => e.1.text? = some "op" with
    | [(_, .text name)] => some (name, .table (es.filter fun e => e.1.text? ≠ some "op"))
    | _ => none
  | .list (.text name :: items) => some (name, .list items)
  | _ => none

/-- The reading of a place and a value. -/
def valued? (n : Node) : Option (String × Value) := do
  let r ← n.record? ["path", "value"] []
  let path ← r.required "path" pointer?
  let value ← r.required "value" Node.toValue?
  return (path, value)

/-- The reading of two places. -/
def between? (n : Node) : Option (String × String) := do
  let r ← n.record? ["from", "path"] []
  let source ← r.required "from" pointer?
  let path ← r.required "path" pointer?
  return (source, path)

/-- The reading of a place. -/
def placed? (n : Node) : Option String := do
  let r ← n.record? ["path"] []
  r.required "path" pointer?

/-- The reading of an operation. -/
def ofNode? (n : Node) : Option PatchOperation := do
  let (name, rest) ← split? n
  match name with
  | "add" => (valued? rest).map fun (p, v) => add p v
  | "remove" => (placed? rest).map remove
  | "replace" => (valued? rest).map fun (p, v) => replace p v
  | "move" => (between? rest).map fun (f, p) => move f p
  | "copy" => (between? rest).map fun (f, p) => copy f p
  | "test" => (valued? rest).map fun (p, v) => test p v
  | _ => none

/-- The members of an operation besides its place. -/
def toMembers : PatchOperation → List (String × Value)
  | add _ v => [("op", .text "add"), ("value", v)]
  | remove _ => [("op", .text "remove")]
  | replace _ v => [("op", .text "replace"), ("value", v)]
  | move f _ => [("op", .text "move"), ("from", .text f)]
  | copy f _ => [("op", .text "copy"), ("from", .text f)]
  | test _ v => [("op", .text "test"), ("value", v)]

/-- An operation as a value. -/
def toValue (op : PatchOperation) : Value :=
  Value.ofPairs (("path", .text op.path) :: op.toMembers)

/-- The reading of a patch. -/
def patch? : Node → Option (List PatchOperation) := Node.list? ofNode?

/-- A patch as a value. -/
def patchValue (ops : List PatchOperation) : Value := .list (ops.map toValue)

end PatchOperation

end Sidecar

import Sidecar.Value

/-!
# Document trees

Every document format is read into one tree, `Node`, which keeps what a typed reading needs and
no more: entries of a table stay in the order of the text, repeated ones included, and a key may
be any node.

A reader is told what will be looked at by a `Shape`, because the formats differ in what they
check of the parts that nobody looks at: nesting depth, numbers out of range and references
count only there, and a plain scalar has no type until it is looked at.

* `Node.toValue?` is the free reading of a tree;
* `Node.ofValue`, beside the reader of JSON, is the tree of a value's own compact text.

A typed reading is a function `Node → Option α`.  Records are read through `Node.record?`, which
finds the nodes of the declared fields:

* in a table each field by its name, given at most once, everything else being ignored; a key
  that is a number stands for the field of that index;
* in a list by position, with no more items than fields.

`Record.optional`, `Record.defaulting` and `Record.required` then say what a missing field means.
-/

namespace Sidecar

/-- What a document says. -/
inductive Node where
  | null
  | bool (b : Bool)
  | int (n : Int)
  | float (x : Binary64)
  | text (s : String)
  | list (items : List Node)
  | table (entries : List (Node × Node))
  deriving Inhabited

/-- Which parts of a document will be looked at, and as what. -/
inductive Shape where
  /-- All of it, each scalar as the type that its form shows. -/
  | any
  /-- A scalar, taken as text. -/
  | text
  /-- A truth value. -/
  | flag
  /-- A table from texts to texts. -/
  | texts
  /-- The named fields only. -/
  | record (fields : List (String × Shape))
  deriving Inhabited

namespace Shape

/-- The shape of a field, if it is looked at. -/
def field? (s : Shape) (name : String) : Option Shape :=
  match s with
  | .record fs => fs.lookup name
  | _ => some .any

/-- The shapes of the items of a list that stands for a record: the fields in order, then
anything. -/
def items : Shape → List Shape
  | .record fs => fs.map Prod.snd
  | _ => []

end Shape

namespace Node

mutual

/-- The free reading: keys have to be texts, the last entry of a key wins, and a number that is
not finite is null. -/
def toValue? : Node → Option Value
  | .null => some .null
  | .bool b => some (.bool b)
  | .int n => some (.int n)
  | .float x => some (Value.ofFloat x)
  | .text s => some (.text s)
  | .list items => (itemValues? items).map .list
  | .table entries => (entryValues? entries).map Value.ofPairs

/-- The free reading of items. -/
def itemValues? : List Node → Option (List Value)
  | [] => some []
  | n :: ns => do
    let v ← toValue? n
    let vs ← itemValues? ns
    return v :: vs

/-- The free reading of entries. -/
def entryValues? : List (Node × Node) → Option (List (String × Value))
  | [] => some []
  | (.text k, n) :: es => do
    let v ← toValue? n
    let vs ← entryValues? es
    return (k, v) :: vs
  | _ :: _ => none

end

end Node

/-! ### Typed readings -/

namespace Node

/-- A text. -/
def text? : Node → Option String
  | .text s => some s
  | _ => none

/-- A truth value. -/
def bool? : Node → Option Bool
  | .bool b => some b
  | _ => none

/-- An integer within bounds. -/
def intIn? (least greatest : Int) : Node → Option Int
  | .int n => if least ≤ n ∧ n ≤ greatest then some n else none
  | _ => none

/-- A natural below a limit. -/
def natBelow? (limit : Nat) : Node → Option Nat
  | .int n => if 0 ≤ n ∧ n < limit then some n.toNat else none
  | _ => none

/-- A number as a double. -/
def float? : Node → Option Binary64
  | .float x => some x
  | .int n => some (Binary64.ofInt n)
  | _ => none

/-- Anything, null being none. -/
def nullable? (read : Node → Option α) : Node → Option (Option α)
  | .null => some none
  | n => (read n).map some

/-- A list. -/
def list? (read : Node → Option α) : Node → Option (List α)
  | .list ns => ns.mapM read
  | _ => none

/-- The text of a key and the reading of its node. -/
def pair? (read : Node → Option α) (e : Node × Node) : Option (String × α) := do
  let k ← e.1.text?
  let v ← read e.2
  return (k, v)

/-- A table from texts, sorted by key; the last entry of a key wins. -/
def table? (read : Node → Option α) : Node → Option (List (String × α))
  | .table es => (es.mapM (pair? read)).map Value.members
  | _ => none

end Node

/-- The nodes found for the fields of a record. -/
abbrev Record := List (String × Node)

namespace Record

/-- The declared field that a key stands for; a field may have another name besides its own. -/
def fieldOf (fields : List String) (aliases : List (String × String)) : Node → Option (Option String)
  | .text k =>
    let k := (aliases.lookup k).getD k
    some (if fields.contains k then some k else none)
  | .int n => if 0 ≤ n then some fields[n.toNat]? else none
  | _ => none

/-- Add the entries of a table to what was found. -/
def gather (fields : List String) (aliases : List (String × String)) :
    List (Node × Node) → Option Record
  | [] => some []
  | (k, n) :: es => do
    let found ← gather fields aliases es
    match ← fieldOf fields aliases k with
    | none => return found
    | some f => if (found.lookup f).isSome then none else return (f, n) :: found

/-- A field that may be missing or null. -/
def optional (r : Record) (field : String) (read : Node → Option α) : Option (Option α) :=
  match r.lookup field with
  | some n => n.nullable? read
  | none => some none

/-- A field with a default for when it is missing. -/
def defaulting (r : Record) (field : String) (read : Node → Option α) (default : α) : Option α :=
  match r.lookup field with
  | some n => read n
  | none => some default

/-- A field that has to be there. -/
def required (r : Record) (field : String) (read : Node → Option α) : Option α :=
  match r.lookup field with
  | some n => read n
  | none => none

end Record

/-- The nodes of the declared fields of a record. -/
def Node.record? (fields : List String) (aliases : List (String × String)) :
    Node → Option Record
  | .table es => Record.gather fields aliases es
  | .list ns => if ns.length ≤ fields.length then some (fields.zip ns) else none
  | _ => none

end Sidecar

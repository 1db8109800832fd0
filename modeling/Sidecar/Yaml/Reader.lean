import Sidecar.Node
import Sidecar.Yaml.Tree

/-!
# Reading YAML

`Yaml.read shape` reads a whole stream of at most one document into a `Node`.  A scalar that is
looked at as text is its text, whatever its form.  Of what is looked at, collections may nest
`maxDepth` deep, references followed through, and references may be followed `jumpLimit` times
per event of the document.

`denote` gives a scalar its type: by its tag if it has one, else by its form if it is plain,
else it is text.  The forms are those of the core schema, except that

* digits with a leading zero are text (`isPaddedNumber`);
* an integer outside 64 bits has no reading as long as 128 bits hold it, and beyond that it is a
  double (`Number.outside`).
-/

namespace Sidecar.Yaml

/-! ### Scalars -/

/-- The tag of a type of the core schema. -/
def coreTag (name : String) : String := "tag:yaml.org,2002:" ++ name

/-- The words for null. -/
def isNullWord (s : String) : Bool := ["null", "Null", "NULL", "~"].contains s

/-- The words for truth values. -/
def boolWord (s : String) : Option Bool :=
  if ["true", "True", "TRUE"].contains s then some true
  else if ["false", "False", "FALSE"].contains s then some false
  else none

/-- Two or more digits of which the first is a zero, with an optional sign. -/
def isPaddedNumber (cs : List Char) : Bool :=
  let ds := match cs with
    | '+' :: r => r
    | '-' :: r => r
    | r => r
  match ds with
  | '0' :: d :: r => (d :: r).all Char.isDigit
  | _ => false

/-- Digits after a base mark, `0x`, `0o` or `0b`. -/
def basedNatural (cs : List Char) : Option Nat :=
  match cs with
  | '0' :: 'x' :: r => readNatural 16 r
  | '0' :: 'o' :: r => readNatural 8 r
  | '0' :: 'b' :: r => readNatural 2 r
  | _ => none

/-- An unsigned integer in any base. -/
def naturalForm (cs : List Char) : Option Nat :=
  match basedNatural cs with
  | some n => some n
  | none => if isPaddedNumber cs then none else readNatural 10 cs

/-- An integer in any base, with an optional sign. -/
def integerForm (cs : List Char) : Option Int :=
  match cs with
  | '-' :: r => (naturalForm r).map fun n => -(n : Int)
  | '+' :: r => (naturalForm r).map Int.ofNat
  | r => (naturalForm r).map Int.ofNat

/-- A finite number, or one of the words for what is not finite. -/
def floatForm (s : String) : Option Binary64 :=
  let unsigned := match s.toList with
    | '+' :: r => r
    | r => r
  if [".inf", ".Inf", ".INF"].contains (String.ofList unsigned) then some (.infinity false)
  else if ["-.inf", "-.Inf", "-.INF"].contains s then some (.infinity true)
  else if [".nan", ".NaN", ".NAN"].contains s then some .nan
  else
    match s.toList, unsigned with
    | '+' :: _, '+' :: _ => none
    | '+' :: _, '-' :: _ => none
    | _, _ =>
      match readFloat (String.ofList unsigned) with
      | some x => if x.isFinite then some x else none
      | none => none

/-- An integer by its size. -/
inductive Number where
  /-- It fits 64 bits, signed or unsigned. -/
  | inside (n : Int)
  /-- It fits 128 bits but not 64. -/
  | outside
  /-- It fits neither. -/
  | beyond
  deriving DecidableEq, Repr

/-- The size of an integer. -/
def Number.ofInt (n : Int) : Number :=
  if -Int.pow 2 63 ≤ n ∧ n < Int.pow 2 64 then .inside n
  else if -Int.pow 2 127 ≤ n ∧ n < Int.pow 2 128 then .outside
  else .beyond

/-- A scalar by its form: null, a truth value, a number or text. -/
def byForm (s : String) : Option Node :=
  if s.isEmpty || isNullWord s then some .null
  else
    match boolWord s with
    | some b => some (.bool b)
    | none =>
      let byFloat : Option Node :=
        if isPaddedNumber s.toList then some (.text s)
        else
          match floatForm s with
          | some x => some (.float x)
          | none => some (.text s)
      match (integerForm s.toList).map Number.ofInt with
      | some (.inside n) => some (.int n)
      | some .outside => none
      | some .beyond => byFloat
      | none => byFloat

/-- What a scalar denotes, if anything.  A tag of one's own gives it no meaning here. -/
def denote (tag : Option String) (style : Style) (s : String) : Option Node :=
  match tag with
  | none => if style = .plain then byForm s else some (.text s)
  | some t =>
    if t.startsWith "!" then none
    else if t = coreTag "bool" then (boolWord s).map .bool
    else if t = coreTag "int" then
      match (integerForm s.toList).map Number.ofInt with
      | some (.inside n) => some (.int n)
      | _ => none
    else if t = coreTag "float" then (floatForm s).map .float
    else if t = coreTag "null" then (if isNullWord s then some .null else none)
    else some (.text s)

/-! ### Collections -/

/-- How deep what is looked at may nest. -/
def maxDepth : Nat := 128

/-- How often references may be followed, per event of the document. -/
def jumpLimit : Nat := 100

/-- What a document is read against. -/
structure Source where
  /-- The anchored nodes. -/
  anchored : List (Nat × Tree)
  /-- How often references may be followed in all. -/
  jumps : Nat

/-- The node that a number was given to last. -/
def Source.target? (src : Source) (n : Nat) : Option Tree := src.anchored.reverse.lookup n

/-- A step of reading, counting the references followed. -/
abbrev Read := StateT Nat Option

/-- Refuse the document. -/
def Read.refuse {α : Type} : Read α := fun _ => none

/-- Take a result that may be missing. -/
def Read.ofOption {α : Type} : Option α → Read α
  | some a => return a
  | none => Read.refuse

/-- Follow a reference. -/
def Source.follow (src : Source) (n : Nat) : Read Tree := do
  let k := (← get) + 1
  set k
  if src.jumps < k then Read.refuse
  Read.ofOption (src.target? n)

/-- A scalar looked at as text is its own text; looked at as a truth value, it has to be one, and
written plainly or as a tagged literal. -/
def scalarAs (shape : Shape) (tag : Option String) (style : Style) (s : String) :
    Option Node :=
  match shape with
  | .any => denote tag style s
  | .text => some (.text s)
  | .flag =>
    if style = .plain ∨ (style = .literal ∧ tag = some (coreTag "bool")) then
      (boolWord s).map .bool
    else none
  | .texts | .record _ => if s.isEmpty && style = .plain then some (.table []) else none

/-- Whether a collection may stand for a shape, and with that tag. -/
def collectionFits (shape : Shape) (isMapping : Bool) (tag : Option String) : Bool :=
  match shape with
  | .any => !(tag.any (·.startsWith "!"))
  | .text | .flag => false
  | .texts | .record _ => isMapping

mutual

/-- A node of which `shape` is looked at.  The fuel bounds the reading: each level of nesting
takes one from `depth`, and a tree below that is finite. -/
def readTree (src : Source) : (fuel : Nat) → (depth : Nat) → Shape → Tree → Read Node
  | 0, _, _, _ => Read.refuse
  | fuel + 1, depth, shape, t =>
    match t with
    | .alias n => do
      let t ← src.follow n
      readTree src fuel depth shape t
    | .scalar _ tag style s => Read.ofOption (scalarAs shape tag style s)
    | .sequence _ tag items =>
      match depth with
      | 0 => Read.refuse
      | depth + 1 => do
        if !collectionFits shape false tag then Read.refuse
        return .list (← readItems src fuel depth items)
    | .mapping _ tag entries =>
      match depth with
      | 0 => Read.refuse
      | depth + 1 => do
        if !collectionFits shape true tag then Read.refuse
        return .table (← readEntries src fuel depth shape entries)

/-- The items of a sequence. -/
def readItems (src : Source) : (fuel : Nat) → (depth : Nat) → List Tree → Read (List Node)
  | 0, _, _ => Read.refuse
  | _ + 1, _, [] => return []
  | fuel + 1, depth, t :: ts => do
    let n ← readTree src fuel depth .any t
    return n :: (← readItems src fuel depth ts)

/-- The entries of a mapping; the fields that are not looked at are left out. -/
def readEntries (src : Source) : (fuel : Nat) → (depth : Nat) → Shape → List (Tree × Tree) →
    Read (List (Node × Node))
  | 0, _, _, _ => Read.refuse
  | _ + 1, _, _, [] => return []
  | fuel + 1, depth, shape, (k, v) :: es => do
    let (keyShape, valueShape) ← match shape with
      | .any => pure (Shape.any, some Shape.any)
      | .texts => pure (Shape.text, some Shape.text)
      | _ => pure (Shape.text, none)
    let key ← readTree src fuel depth keyShape k
    let valueShape := match valueShape, key with
      | some s, _ => some s
      | none, .text name => shape.field? name
      | none, _ => none
    match valueShape with
    | some s =>
      let n ← readTree src fuel depth s v
      return (key, n) :: (← readEntries src fuel depth shape es)
    | none => readEntries src fuel depth shape es

end

/-- A whole stream of which `shape` is looked at.  No document at all reads as an empty one. -/
def read (shape : Shape) (s : String) : Option Node :=
  match stream? s with
  | none => none
  | some .empty =>
    match shape with
    | .any => some .null
    | .texts | .record _ => some (.table [])
    | .text | .flag => none
  | some (.document root) =>
    let events := root.events
    let src : Source := ⟨root.anchored, jumpLimit * events⟩
    -- below each of the `maxDepth` levels at most all events lie side by side
    let fuel := (maxDepth + 2) * (2 * events + 4)
    ((readTree src fuel maxDepth shape root).run 0).map Prod.fst

end Sidecar.Yaml

import Sidecar.Node
import Sidecar.Value

/-!
# Reading JSON

`Json.read shape` reads a whole text into a `Node`.  Parts outside the shape are only checked
for their form: how deep they nest, whether a number is in range and whether a surrogate has its
partner does not matter there.  Parts that are looked at may nest `maxDepth` deep, counted from
the root.

A number without fraction and exponent that fits 64 bits is an integer, with one exception:
`-0` is a double, as only that has a negative zero.  Any other number is read quickly rather than
to the nearest double.  The leading digits are gathered into a 64-bit significand; whole digits
beyond it only scale the number, fraction digits beyond it are dropped.  The significand is rounded
to a double and then multiplied or divided by a power of ten, each step rounding once (`scale?`).
-/

namespace Sidecar.Json

/-! ### Numbers -/

/-- The parts of a number as written. -/
structure Numeral where
  /-- Whether a minus sign stands in front. -/
  negative : Bool
  /-- The digits before the point. -/
  whole : List Char
  /-- The digits after the point, if there is one. -/
  fraction : Option (List Char)
  /-- The exponent, if there is one. -/
  exponent : Option Int
  deriving Repr

/-- The digits of a run and what follows; at least one is needed. -/
def someDigits (cs : List Char) : Option (List Char × List Char) :=
  match spanDigits cs with
  | ([], _) => none
  | p => some p

/-- The digits before the point: a zero stands alone. -/
def wholeDigits : List Char → Option (List Char × List Char)
  | '0' :: c :: cs => if c.isDigit then none else some (['0'], c :: cs)
  | cs => someDigits cs

/-- The exponent after its mark. -/
def exponentDigits (cs : List Char) : Option (Int × List Char) :=
  match cs with
  | '-' :: r => (someDigits r).map fun (ds, r) => (-((readDigits 10 0 ds).getD 0 : Int), r)
  | '+' :: r => (someDigits r).map fun (ds, r) => (((readDigits 10 0 ds).getD 0 : Int), r)
  | r => (someDigits r).map fun (ds, r) => (((readDigits 10 0 ds).getD 0 : Int), r)

/-- A number at the head of a text. -/
def numeral? (cs : List Char) : Option (Numeral × List Char) := do
  let (negative, cs) := match cs with
    | '-' :: r => (true, r)
    | r => (false, r)
  let (whole, cs) ← wholeDigits cs
  let (fraction, cs) ← match cs with
    | '.' :: r => (someDigits r).map fun (ds, r) => (some ds, r)
    | r => some (none, r)
  let (exponent, cs) ← match cs with
    | 'e' :: r => (exponentDigits r).map fun (e, r) => (some e, r)
    | 'E' :: r => (exponentDigits r).map fun (e, r) => (some e, r)
    | r => some (none, r)
  return (⟨negative, whole, fraction, exponent⟩, cs)

/-- The greatest significand. -/
def maxSignificand : Nat := Nat.pow 2 64 - 1

/-- Gather digits into the significand until one no longer fits; the rest is returned. -/
def gather : (significand : Nat) → List Char → Nat × List Char
  | n, [] => (n, [])
  | n, c :: cs =>
    let m := n * 10 + (c.toNat - '0'.toNat)
    if m ≤ maxSignificand then gather m cs else (n, c :: cs)

/-- Scale a double by a power of ten, dividing by `10 ^ 308` first while the power is below
that; `none` when the result is too large. -/
def scale? : (fuel : Nat) → Binary64 → Int → Option Binary64
  | 0, _, _ => none
  | fuel + 1, x, e =>
    if e.natAbs ≤ 308 then
      let power := Binary64.ofNat (Nat.pow 10 e.natAbs)
      if 0 ≤ e then
        let y := x.mul power
        if y.isFinite then some y else none
      else some (x.div power)
    else if x = Binary64.zero false then some x
    else if 0 ≤ e then none
    else scale? fuel (x.div (Binary64.ofNat (Nat.pow 10 308))) (e + 308)

/-- The double of a numeral; `none` when it is too large. -/
def Numeral.float? (n : Numeral) : Option Binary64 := do
  let (significand, beyond) := gather 0 n.whole
  let fraction := n.fraction.getD []
  let (significand, dropped) := gather significand fraction
  let e := (n.exponent.getD 0) + beyond.length - (fraction.length - dropped.length : Nat)
  let x ← scale? (e.natAbs + 1) (Binary64.ofNat significand) e
  return if n.negative then x.neg else x

/-- What a numeral denotes; `none` when it is too large. -/
def Numeral.node? (n : Numeral) : Option Node :=
  if n.fraction.isNone && n.exponent.isNone then
    let k := (readDigits 10 0 n.whole).getD 0
    if !n.negative ∧ k ≤ maxSignificand then some (.int k)
    else if n.negative ∧ k ≠ 0 ∧ k ≤ Nat.pow 2 63 then some (.int (-k))
    else n.float?.map .float
  else n.float?.map .float

/-- How deep what is looked at may nest. -/
def maxDepth : Nat := 127

/-- The blanks between tokens. -/
def isSpace (c : Char) : Bool := c == ' ' || c == '\n' || c == '\t' || c == '\r'

/-- Without leading blanks. -/
def skipSpace (cs : List Char) : List Char := cs.dropWhile isSpace

/-! ### Strings -/

/-- Four hexadecimal digits. -/
def hex4 : List Char → Option (Nat × List Char)
  | a :: b :: c :: d :: cs => do
    let a ← digitValue a
    let b ← digitValue b
    let c ← digitValue c
    let d ← digitValue d
    return (((a * 16 + b) * 16 + c) * 16 + d, cs)
  | _ => none

/-- The character of a one-letter escape. -/
def letterEscape : Char → Option Char
  | '"' => some '"'
  | '\\' => some '\\'
  | '/' => some '/'
  | 'b' => some '\x08'
  | 'f' => some '\x0c'
  | 'n' => some '\n'
  | 'r' => some '\r'
  | 't' => some '\t'
  | _ => none

/-- The character of a numbered escape, after its `u`: one unit, or a pair of surrogates. -/
def numberedEscape (cs : List Char) : Option (Char × List Char) := do
  let (n, cs) ← hex4 cs
  if 0xdc00 ≤ n ∧ n ≤ 0xdfff then none
  else if 0xd800 ≤ n ∧ n ≤ 0xdbff then
    match cs with
    | '\\' :: 'u' :: cs =>
      let (m, cs) ← hex4 cs
      if 0xdc00 ≤ m ∧ m ≤ 0xdfff then
        return (Char.ofNat ((n - 0xd800) * 0x400 + (m - 0xdc00) + 0x10000), cs)
      else none
    | _ => none
  else return (Char.ofNat n, cs)

/-- The characters of a string after its opening quote, and what follows the closing one.  The
characters so far are in reverse. -/
def readString : (fuel : Nat) → (sofar : List Char) → List Char → Option (String × List Char)
  | 0, _, _ => none
  | _ + 1, _, [] => none
  | fuel + 1, sofar, c :: cs =>
    if c = '"' then some (String.ofList sofar.reverse, cs)
    else if c = '\\' then
      match cs with
      | 'u' :: cs =>
        match numberedEscape cs with
        | some (c, cs) => readString fuel (c :: sofar) cs
        | none => none
      | e :: cs =>
        match letterEscape e with
        | some c => readString fuel (c :: sofar) cs
        | none => none
      | [] => none
    else if c.toNat < 32 then none
    else readString fuel (c :: sofar) cs

/-- Pass over a string after its opening quote. -/
def skipString : (fuel : Nat) → List Char → Option (List Char)
  | 0, _ => none
  | _ + 1, [] => none
  | fuel + 1, c :: cs =>
    if c = '"' then some cs
    else if c = '\\' then
      match cs with
      | 'u' :: cs =>
        match hex4 cs with
        | some (_, cs) => skipString fuel cs
        | none => none
      | e :: cs => if (letterEscape e).isSome then skipString fuel cs else none
      | [] => none
    else if c.toNat < 32 then none
    else skipString fuel cs

/-! ### Values -/

/-- Pass over a word. -/
def word (w : String) (cs : List Char) : Option (List Char) :=
  if w.toList.isPrefixOf cs then some (cs.drop w.length) else none

/-- A scalar other than a string. -/
def readScalar (cs : List Char) : Option (Node × List Char) :=
  match cs with
  | 'n' :: _ => (word "null" cs).map fun r => (.null, r)
  | 't' :: _ => (word "true" cs).map fun r => (.bool true, r)
  | 'f' :: _ => (word "false" cs).map fun r => (.bool false, r)
  | _ => do
    let (n, r) ← numeral? cs
    let v ← n.node?
    return (v, r)

/-- Pass over a scalar other than a string. -/
def skipScalar (cs : List Char) : Option (List Char) :=
  match cs with
  | 'n' :: _ => word "null" cs
  | 't' :: _ => word "true" cs
  | 'f' :: _ => word "false" cs
  | _ => (numeral? cs).map Prod.snd

mutual

/-- Pass over a value. -/
def skipValue : (fuel : Nat) → List Char → Option (List Char)
  | 0, _ => none
  | fuel + 1, cs =>
    match cs with
    | '"' :: cs => skipString (cs.length + 1) cs
    | '[' :: cs =>
      match skipSpace cs with
      | ']' :: cs => some cs
      | cs => skipItems fuel cs
    | '{' :: cs =>
      match skipSpace cs with
      | '}' :: cs => some cs
      | cs => skipMembers fuel cs
    | cs => skipScalar cs

/-- Pass over one or more items and the closing bracket. -/
def skipItems : (fuel : Nat) → List Char → Option (List Char)
  | 0, _ => none
  | fuel + 1, cs =>
    match skipValue fuel cs with
    | none => none
    | some cs =>
      match skipSpace cs with
      | ',' :: cs => skipItems fuel (skipSpace cs)
      | ']' :: cs => some cs
      | _ => none

/-- Pass over one or more members and the closing brace. -/
def skipMembers : (fuel : Nat) → List Char → Option (List Char)
  | 0, _ => none
  | fuel + 1, cs =>
    match cs with
    | '"' :: cs =>
      match skipString (cs.length + 1) cs with
      | none => none
      | some cs =>
        match skipSpace cs with
        | ':' :: cs =>
          match skipValue fuel (skipSpace cs) with
          | none => none
          | some cs =>
            match skipSpace cs with
            | ',' :: cs => skipMembers fuel (skipSpace cs)
            | '}' :: cs => some cs
            | _ => none
        | _ => none
    | _ => none

end

mutual

/-- A value of which `shape` is looked at. -/
def readValue : (fuel : Nat) → (depth : Nat) → Shape → List Char → Option (Node × List Char)
  | 0, _, _, _ => none
  | fuel + 1, depth, shape, cs =>
    match cs with
    | '"' :: cs => (readString (cs.length + 1) [] cs).map fun (s, r) => (.text s, r)
    | '[' :: cs =>
      match depth with
      | 0 => none
      | depth + 1 =>
        match skipSpace cs with
        | ']' :: cs => some (.list [], cs)
        | cs => (readItems fuel depth shape.items cs).map fun (ns, r) => (.list ns, r)
    | '{' :: cs =>
      match depth with
      | 0 => none
      | depth + 1 =>
        match skipSpace cs with
        | '}' :: cs => some (.table [], cs)
        | cs => (readMembers fuel depth shape cs).map fun (es, r) => (.table es, r)
    | cs => readScalar cs

/-- One or more items and the closing bracket. -/
def readItems : (fuel : Nat) → (depth : Nat) → List Shape → List Char →
    Option (List Node × List Char)
  | 0, _, _, _ => none
  | fuel + 1, depth, shapes, cs =>
    match readValue fuel depth (shapes.headD .any) cs with
    | none => none
    | some (n, cs) =>
      match skipSpace cs with
      | ',' :: cs =>
        (readItems fuel depth shapes.tail (skipSpace cs)).map fun (ns, r) => (n :: ns, r)
      | ']' :: cs => some ([n], cs)
      | _ => none

/-- One or more members and the closing brace; the members that are not looked at are left
out. -/
def readMembers : (fuel : Nat) → (depth : Nat) → Shape → List Char →
    Option (List (Node × Node) × List Char)
  | 0, _, _, _ => none
  | fuel + 1, depth, shape, cs =>
    match cs with
    | '"' :: cs =>
      match readString (cs.length + 1) [] cs with
      | none => none
      | some (key, cs) =>
        match skipSpace cs with
        | ':' :: cs =>
          match shape.field? key with
          | some s =>
            match readValue fuel depth s (skipSpace cs) with
            | none => none
            | some (n, cs) =>
              match skipSpace cs with
              | ',' :: cs =>
                (readMembers fuel depth shape (skipSpace cs)).map
                  fun (es, r) => ((.text key, n) :: es, r)
              | '}' :: cs => some ([(.text key, n)], cs)
              | _ => none
          | none =>
            match skipValue fuel (skipSpace cs) with
            | none => none
            | some cs =>
              match skipSpace cs with
              | ',' :: cs => readMembers fuel depth shape (skipSpace cs)
              | '}' :: cs => some ([], cs)
              | _ => none
        | _ => none
    | _ => none

end

/-- A whole text of which `shape` is looked at. -/
def read (shape : Shape) (s : String) : Option Node :=
  let cs := s.toList
  match readValue (cs.length + 1) maxDepth shape (skipSpace cs) with
  | some (n, rest) => if (skipSpace rest).isEmpty then some n else none
  | none => none

/-- A whole text as a free value. -/
def parse (s : String) : Option Value := do
  let n ← read .any s
  n.toValue?

end Sidecar.Json

namespace Sidecar

/-- A double as it reads back from its document text. -/
def Binary64.reread (x : Binary64) : Node :=
  match Json.readScalar (Value.floatText x).toList with
  | some (n, _) => n
  | none => .null

namespace Node

mutual

/-- The tree of the compact text of a value. -/
def ofValue : Value → Node
  | .null => .null
  | .bool b => .bool b
  | .int n => .int n
  | .float x => x.reread
  | .text s => .text s
  | .list items => .list (ofItems items)
  | .object ms => .table (ofMembers ms)

/-- The trees of items. -/
def ofItems : List Value → List Node
  | [] => []
  | v :: vs => ofValue v :: ofItems vs

/-- The trees of members. -/
def ofMembers : List (String × Value) → List (Node × Node)
  | [] => []
  | (k, v) :: ms => (.text k, ofValue v) :: ofMembers ms

end

end Node

end Sidecar

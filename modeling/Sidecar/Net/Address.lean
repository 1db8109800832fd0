import Sidecar.Number.Text

/-!
# Listen addresses

An address is an IP address with a port.  `Address.parse` reads the usual texts; `Address.render`
writes the canonical one, in which the longest run of zero groups of a version 6 address is cut
out and an embedded version 4 address keeps its dots.
-/

namespace Sidecar

/-- An IP address with a port. -/
inductive Address where
  | v4 (a b c d : UInt8) (port : UInt16)
  /-- Eight groups, and the scope of a link-local address. -/
  | v6 (a b c d e f g h : UInt16) (scope : UInt32) (port : UInt16)
  deriving DecidableEq, Repr, Inhabited

namespace Address

/-! ### Writing -/

/-- Four octets with dots. -/
def dotted (a b c d : Nat) : String :=
  toString a ++ "." ++ toString b ++ "." ++ toString c ++ "." ++ toString d

/-- Groups in hexadecimal with colons. -/
def colons (gs : List Nat) : String :=
  ":".intercalate (gs.map fun g => String.ofList (Nat.toDigits 16 g))

/-- The number of zero groups at the head. -/
def zeroRun (gs : List Nat) : Nat := (gs.takeWhile (· == 0)).length

/-- The start and length of the first of the longest runs of zero groups. -/
def longestRun : (start : Nat) → List Nat → Nat × Nat
  | _, [] => (0, 0)
  | i, g :: gs =>
    let here := zeroRun (g :: gs)
    let later := longestRun (i + 1) gs
    if later.2 ≤ here ∧ 0 < here then (i, here) else later

/-- The canonical text of eight groups. -/
def groupsText (gs : List Nat) : String :=
  match gs with
  | [0, 0, 0, 0, 0, 0xffff, g, h] =>
    "::ffff:" ++ dotted (g / 256) (g % 256) (h / 256) (h % 256)
  | _ =>
    let (start, length) := longestRun 0 gs
    if 1 < length then colons (gs.take start) ++ "::" ++ colons (gs.drop (start + length))
    else colons gs

/-- The canonical text. -/
def render : Address → String
  | .v4 a b c d port =>
    dotted a.toNat b.toNat c.toNat d.toNat ++ ":" ++ toString port.toNat
  | .v6 a b c d e f g h scope port =>
    "[" ++ groupsText ([a, b, c, d, e, f, g, h].map UInt16.toNat) ++
      (if scope = 0 then "" else "%" ++ toString scope.toNat) ++ "]:" ++ toString port.toNat

/-! ### Reading -/

/-- The value of a digit of a base. -/
def digitIn (base : Nat) (c : Char) : Option Nat :=
  (digitValue c).filter (· < base)

/-- A number below a limit with all the digits that follow: at most `most` of them, and without
a leading zero unless `padded` holds. -/
def number (base limit : Nat) (most : Option Nat) (padded : Bool) (cs : List Char) :
    Option (Nat × List Char) :=
  let ds := cs.takeWhile fun c => (digitIn base c).isSome
  if most.any (· < ds.length) then none
  else if !padded && ds.head? == some '0' && 1 < ds.length then none
  else
    match readNatural base ds with
    | some n => if n < limit then some (n, cs.drop ds.length) else none
    | none => none

/-- A given character. -/
def expectChar (c : Char) : List Char → Option (List Char)
  | d :: cs => if c = d then some cs else none
  | [] => none

/-- One octet of a version 4 address. -/
def octet (cs : List Char) : Option (Nat × List Char) := number 10 256 (some 3) false cs

/-- Four octets with dots. -/
def octets (cs : List Char) : Option ((Nat × Nat × Nat × Nat) × List Char) := do
  let (a, cs) ← octet cs
  let (b, cs) ← octet (← expectChar '.' cs)
  let (c, cs) ← octet (← expectChar '.' cs)
  let (d, cs) ← octet (← expectChar '.' cs)
  return ((a, b, c, d), cs)

/-- A port after its colon. -/
def portNumber (cs : List Char) : Option (Nat × List Char) := do
  number 10 65536 none true (← expectChar ':' cs)

/-- Up to `left` groups with colons between them; a version 4 address may stand for the last two,
which the result tells. -/
def groups : (left : Nat) → (first : Bool) → List Char → List Nat × Bool × List Char
  | 0, _, cs => ([], false, cs)
  | left + 1, first, cs =>
    match (if first then some cs else expectChar ':' cs) with
    | none => ([], false, cs)
    | some r =>
      match (if 0 < left then octets r else none) with
      | some ((a, b, c, d), r) => ([a * 256 + b, c * 256 + d], true, r)
      | none =>
        match number 16 65536 (some 4) true r with
        | some (g, r) =>
          let (gs, dots, r) := groups left false r
          (g :: gs, dots, r)
        | none => ([], false, cs)

/-- The eight groups of a version 6 address. -/
def allGroups (cs : List Char) : Option (List Nat × List Char) :=
  let (front, dots, cs) := groups 8 true cs
  if front.length = 8 then some (front, cs)
  else if dots then none
  else
    match cs with
    | ':' :: ':' :: cs =>
      let (back, _, cs) := groups (7 - front.length) true cs
      some (front ++ List.replicate (8 - front.length - back.length) 0 ++ back, cs)
    | _ => none

/-- A version 4 address with its port. -/
def parseV4 (cs : List Char) : Option (Address × List Char) := do
  let ((a, b, c, d), cs) ← octets cs
  let (port, cs) ← portNumber cs
  return (.v4 (.ofNat a) (.ofNat b) (.ofNat c) (.ofNat d) (.ofNat port), cs)

/-- A version 6 address in brackets, with a scope or without, and its port. -/
def parseV6 (cs : List Char) : Option (Address × List Char) := do
  let (gs, cs) ← allGroups (← expectChar '[' cs)
  let (scope, cs) ← match cs with
    | '%' :: r => number 10 (Nat.pow 2 32) none true r
    | r => some (0, r)
  let (port, cs) ← portNumber (← expectChar ']' cs)
  match gs.map UInt16.ofNat with
  | [a, b, c, d, e, f, g, h] => return (.v6 a b c d e f g h (.ofNat scope) (.ofNat port), cs)
  | _ => none

/-- The address of a whole text. -/
def parse (s : String) : Option Address :=
  match (parseV4 s.toList).orElse fun _ => parseV6 s.toList with
  | some (a, []) => some a
  | _ => none

/-! ### Kinds -/

/-- The port of an address. -/
def port : Address → UInt16
  | v4 _ _ _ _ p => p
  | v6 _ _ _ _ _ _ _ _ _ p => p

/-- Whether every machine has the address: it means all addresses of the machine, or the machine
itself. -/
def isOwn : Address → Bool
  | v4 a b c d _ => a == 127 || (a == 0 && b == 0 && c == 0 && d == 0)
  | v6 a b c d e f g h _ _ =>
    a == 0 && b == 0 && c == 0 && d == 0 && e == 0 && f == 0 && g == 0 && (h == 0 || h == 1)

end Address

end Sidecar

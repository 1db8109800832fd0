import Sidecar.Number.Binary64

/-!
# Numbers as text

* `shortest` is the shortest decimal that rounds to a finite double.
* `Decimal.render` writes a decimal under a `Layout`, which fixes where positional notation ends
  and whether a whole number keeps a fraction digit.
* `Layout.document` is the layout of numbers inside documents, `Layout.gauge` the one of metric
  values; `Binary64.render` writes a double under either.
* `readFloat` reads the floating-point syntax of metric data, `readNatural` and `readInteger`
  read whole numbers in a given base.

The reals that round to a finite double form an interval around it, with its ends included
exactly when the significand is even.  `shortest` looks for a decimal inside that interval on
coarser grids first: with one digit, then two, up to seventeen.  On each grid only the two
neighbours of the double need to be tried, and of two hits the nearer is taken.  All of it is
comparison of naturals; nothing is rounded on the way.
-/

namespace Sidecar

/-- A decimal `± digits · 10 ^ exponent`. -/
structure Decimal where
  /-- Whether the sign is minus. -/
  negative : Bool
  /-- The digits, read as a natural. -/
  digits : Nat
  /-- The power of ten of the last digit. -/
  exponent : Int
  deriving DecidableEq, Repr, Inhabited

namespace Decimal

/-- `n · 10 ^ e` as a quotient of naturals. -/
def ratio (n : Nat) (e : Int) : Nat × Nat :=
  if 0 ≤ e then (n * Nat.pow 10 e.toNat, 1) else (n, Nat.pow 10 (-e).toNat)

/-- `a / b ≤ c / d` for positive denominators. -/
def ratioLE (a c : Nat × Nat) : Bool := a.1 * c.2 ≤ c.1 * a.2

/-- `a / b < c / d` for positive denominators. -/
def ratioLT (a c : Nat × Nat) : Bool := a.1 * c.2 < c.1 * a.2

/-- The interval of reals that round to a finite positive double. -/
structure Basin where
  /-- Four times the double, over `den`. -/
  value : Nat
  /-- Four times the lower end, over `den`. -/
  low : Nat
  /-- Four times the upper end, over `den`. -/
  high : Nat
  /-- The common denominator. -/
  den : Nat
  /-- Whether the ends themselves belong to it. -/
  closed : Bool
  deriving Repr

/-- The interval of `significand · 2 ^ exponent`: half a unit on each side, a quarter below a
power of two, where the doubles are twice as dense. -/
def basin (significand : Nat) (exponent : Int) : Basin :=
  let below :=
    if significand = Nat.pow 2 52 ∧ Binary64.minExponent < exponent then 1 else 2
  let (unit, den) : Nat × Nat :=
    if 0 ≤ exponent then (Nat.pow 2 exponent.toNat, 4) else (1, 4 * Nat.pow 2 (-exponent).toNat)
  { value := 4 * significand * unit
    low := (4 * significand - below) * unit
    high := (4 * significand + 2) * unit
    den := den
    closed := significand % 2 = 0 }

/-- Whether a quotient lies in the interval. -/
def Basin.contains (b : Basin) (q : Nat × Nat) : Bool :=
  if b.closed then ratioLE (b.low, b.den) q && ratioLE q (b.high, b.den)
  else ratioLT (b.low, b.den) q && ratioLT q (b.high, b.den)

/-- The number of decimal digits before the point of `n / d`, or minus the number of zeros right
after it: the `k` with `10 ^ (k - 1) ≤ n / d < 10 ^ k`. -/
def magnitude (n d : Nat) : Int :=
  let guess : Int := ((n.log2 : Int) - (d.log2 : Int)) * 30103 / 100000
  let fits (k : Int) : Bool := ratioLT (n, d) (ratio 1 k)
  if fits (guess - 1) then guess - 1
  else if fits guess then guess
  else if fits (guess + 1) then guess + 1
  else guess + 2

/-- The better of the two neighbours of the double on the grid of multiples of `10 ^ e`. -/
def onGrid (b : Basin) (e : Int) : Option Nat :=
  let (un, ud) := ratio 1 e
  let lower := b.value * ud / (b.den * un)
  let at' (k : Nat) : Nat × Nat := (k * un, ud)
  match b.contains (at' lower), b.contains (at' (lower + 1)) with
  | true, true =>
    -- twice the double against the sum of the neighbours
    if ratioLE (2 * b.value, b.den) ((2 * lower + 1) * un, ud) then some lower
    else some (lower + 1)
  | true, false => some lower
  | false, true => some (lower + 1)
  | false, false => none

/-- The first grid, from coarse to fine, with a decimal inside the interval. -/
def search (b : Basin) : (grids : Nat) → (e : Int) → Nat × Int
  | 0, e => (b.value / b.den, e)
  | n + 1, e =>
    match onGrid b e with
    | some k => if k = 0 then search b n (e - 1) else (k, e)
    | none => search b n (e - 1)

/-- Move trailing zeros of the digits into the exponent. -/
def dropZeros : (fuel : Nat) → Nat → Int → Nat × Int
  | 0, n, e => (n, e)
  | fuel + 1, n, e => if n % 10 = 0 ∧ n ≠ 0 then dropZeros fuel (n / 10) (e + 1) else (n, e)

/-- The shortest decimal that rounds to `± significand · 2 ^ exponent`, nearest to it among
those. -/
def shortest (negative : Bool) (significand : Nat) (exponent : Int) : Decimal :=
  if significand = 0 then ⟨negative, 0, 0⟩
  else
    let b := basin significand exponent
    let top := magnitude b.value b.den
    let (k, e) := search b 18 (top - 1)
    let (k, e) := dropZeros 20 k e
    ⟨negative, k, e⟩

end Decimal

/-- How a double is written. -/
structure Layout where
  /-- The least and greatest exponent of the leading digit that is written positionally; `none`
  writes every number positionally. -/
  positional : Option (Int × Int)
  /-- What follows a whole number. -/
  wholeSuffix : String
  /-- The text of positive infinity. -/
  infinity : String
  /-- The text of what is not a number. -/
  nan : String

/-- Numbers in documents: positional from `1e-5` up to below `1e16`, with at least one fraction
digit, else one leading digit and a signed exponent. -/
def Layout.document : Layout :=
  { positional := some (-5, 15), wholeSuffix := ".0", infinity := "null", nan := "null" }

/-- Metric values: always positional, whole numbers without a fraction. -/
def Layout.gauge : Layout :=
  { positional := none, wholeSuffix := "", infinity := "inf", nan := "NaN" }

namespace Decimal

/-- The digits with the point placed positionally. -/
def positionalText (wholeSuffix : String) (digits : String) (exponent : Int) : String :=
  if 0 ≤ exponent then
    digits ++ String.ofList (List.replicate exponent.toNat '0') ++ wholeSuffix
  else
    let places := (-exponent).toNat
    let cs := digits.toList
    if places < cs.length then
      String.ofList (cs.take (cs.length - places)) ++ "." ++
        String.ofList (cs.drop (cs.length - places))
    else
      "0." ++ String.ofList (List.replicate (places - cs.length) '0') ++ digits

/-- One digit, the others after a point, and a signed exponent. -/
def scientificText (digits : String) (exponent : Int) : String :=
  let lead := exponent + digits.length - 1
  let mantissa :=
    match digits.toList with
    | [] => ""
    | [c] => String.singleton c
    | c :: cs => String.singleton c ++ "." ++ String.ofList cs
  mantissa ++ (if lead < 0 then "e-" else "e+") ++ toString lead.natAbs

/-- The text of a decimal under a layout. -/
def render (layout : Layout) (d : Decimal) : String :=
  let sign := if d.negative then "-" else ""
  let digits := toString d.digits
  if d.digits = 0 then sign ++ "0" ++ layout.wholeSuffix
  else
    let lead := d.exponent + digits.length - 1
    let positional :=
      match layout.positional with
      | none => true
      | some (least, greatest) => least ≤ lead && lead ≤ greatest
    sign ++
      (if positional then positionalText layout.wholeSuffix digits d.exponent
       else scientificText digits d.exponent)

/-- The double nearest to a decimal. -/
def toBinary64 (d : Decimal) : Binary64 :=
  let lead := d.exponent + (toString d.digits).length
  if d.digits = 0 then Binary64.zero d.negative
  else if lead < -400 then Binary64.zero d.negative
  else if 400 < lead then .infinity d.negative
  else
    let (num, den) := ratio d.digits d.exponent
    Binary64.ofRatio d.negative num den

end Decimal

/-- The text of a double under a layout: its shortest decimal. -/
def Binary64.render (layout : Layout) : Binary64 → String
  | .finite s m e => (Decimal.shortest s m e).render layout
  | .infinity s => (if s && layout.infinity != layout.nan then "-" else "") ++ layout.infinity
  | .nan => layout.nan

/-! ### Reading -/

/-- The value of a digit, in bases up to sixteen. -/
def digitValue (c : Char) : Option Nat :=
  if '0' ≤ c ∧ c ≤ '9' then some (c.toNat - '0'.toNat)
  else if 'a' ≤ c ∧ c ≤ 'f' then some (c.toNat - 'a'.toNat + 10)
  else if 'A' ≤ c ∧ c ≤ 'F' then some (c.toNat - 'A'.toNat + 10)
  else none

/-- Continue a natural with further digits; any other character is refused. -/
def readDigits (base : Nat) : (sofar : Nat) → List Char → Option Nat
  | n, [] => some n
  | n, c :: cs =>
    match digitValue c with
    | some d => if d < base then readDigits base (n * base + d) cs else none
    | none => none

/-- One or more digits. -/
def readNatural (base : Nat) : List Char → Option Nat
  | [] => none
  | cs => readDigits base 0 cs

/-- An optional sign and one or more digits. -/
def readInteger (base : Nat) : List Char → Option Int
  | '+' :: cs => (readNatural base cs).map Int.ofNat
  | '-' :: cs => (readNatural base cs).map fun n => -(n : Int)
  | cs => (readNatural base cs).map Int.ofNat

/-- The longest run of decimal digits and what follows it. -/
def spanDigits (cs : List Char) : List Char × List Char :=
  (cs.takeWhile Char.isDigit, cs.dropWhile Char.isDigit)

/-- An exponent mark, an optional sign and digits, and nothing else; no mark at all is exponent
`0`. -/
def readExponent : List Char → Option Int
  | [] => some 0
  | c :: cs => if c = 'e' ∨ c = 'E' then readInteger 10 cs else none

/-- An unsigned number: digits with an optional point and exponent, at least one digit in all. -/
def readUnsignedDecimal (negative : Bool) (cs : List Char) : Option Decimal :=
  let (whole, rest) := spanDigits cs
  let (fraction, rest) :=
    match rest with
    | '.' :: r => spanDigits r
    | r => ([], r)
  if whole.isEmpty && fraction.isEmpty then none
  else do
    let e ← readExponent rest
    let n ← readNatural 10 (whole ++ fraction)
    return ⟨negative, n, e - fraction.length⟩

/-- Case-insensitive equality with a lower-case ASCII word. -/
def isWord (word : String) (cs : List Char) : Bool :=
  cs.map Char.toLower == word.toList

/-- An unsigned number, or an infinity or not-a-number word in any case. -/
def readUnsignedFloat (negative : Bool) (cs : List Char) : Option Binary64 :=
  if isWord "inf" cs || isWord "infinity" cs then some (.infinity negative)
  else if isWord "nan" cs then some .nan
  else (readUnsignedDecimal negative cs).map Decimal.toBinary64

/-- The floating-point syntax: an optional sign before a number or a special word. -/
def readFloat (s : String) : Option Binary64 :=
  match s.toList with
  | '+' :: cs => readUnsignedFloat false cs
  | '-' :: cs => readUnsignedFloat true cs
  | cs => readUnsignedFloat false cs

end Sidecar

/-!
# Double-precision numbers

A double is kept as what it denotes, sign and significand times a power of two, so that every
operation on it is exact integer arithmetic followed by one rounding.

* `Binary64.ofRatio` rounds a quotient of naturals to the nearest double, ties to the even
  significand;
* `Binary64.add`, `Binary64.mul` and `Binary64.div` are the exact results, rounded once.
-/

namespace Sidecar

/-- A double-precision number.  A finite one is `± significand · 2 ^ exponent`. -/
inductive Binary64 where
  /-- `± significand · 2 ^ exponent`; both zeros have significand `0`. -/
  | finite (negative : Bool) (significand : Nat) (exponent : Int)
  /-- An infinity of either sign. -/
  | infinity (negative : Bool)
  /-- Not a number. -/
  | nan
  deriving DecidableEq, Repr, Inhabited

/-- `num / den` rounded to the nearest natural, ties to the even one. -/
def roundDiv (num den : Nat) : Nat :=
  let q := num / den
  let r := num % den
  if 2 * r < den then q
  else if den < 2 * r then q + 1
  else if q % 2 = 0 then q else q + 1

namespace Binary64

/-- The least exponent of a double. -/
def minExponent : Int := -1074

/-- The greatest exponent of a double. -/
def maxExponent : Int := 971

/-- The number of significand bits. -/
def precision : Nat := 53

/-- Zero of the given sign. -/
def zero (negative : Bool) : Binary64 := .finite negative 0 minExponent

/-- `num / den / 2 ^ e` as a quotient of naturals. -/
def scaled (num den : Nat) (e : Int) : Nat × Nat :=
  if 0 ≤ e then (num, den * Nat.pow 2 e.toNat) else (num * Nat.pow 2 (-e).toNat, den)

/-- The exponent at which the quotient has `precision` bits, never below `minExponent`. -/
def exponentFor (num den : Nat) : Int :=
  let guess : Int := (num.log2 : Int) - (den.log2 : Int) - 52
  let (n, d) := scaled num den guess
  let e := if n / d < Nat.pow 2 52 then guess - 1 else guess
  if e < minExponent then minExponent else e

/-- The double nearest to `± num / den`, ties to the even significand; too large a quotient gives
an infinity.  The denominator is positive. -/
def ofRatio (negative : Bool) (num den : Nat) : Binary64 :=
  if num = 0 then zero negative
  else
    let e := exponentFor num den
    let (n, d) := scaled num den e
    let m := roundDiv n d
    let (m, e) := if m = Nat.pow 2 53 then (Nat.pow 2 52, e + 1) else (m, e)
    if maxExponent < e then .infinity negative else .finite negative m e

/-- The double nearest to a natural number. -/
def ofNat (n : Nat) : Binary64 := ofRatio false n 1

/-- The double nearest to an integer. -/
def ofInt (n : Int) : Binary64 := ofRatio (n < 0) n.natAbs 1

/-- The magnitude of a finite double as a quotient of naturals. -/
def ratio (significand : Nat) (exponent : Int) : Nat × Nat :=
  if 0 ≤ exponent then (significand * Nat.pow 2 exponent.toNat, 1)
  else (significand, Nat.pow 2 (-exponent).toNat)

/-- Neither an infinity nor not a number. -/
def isFinite : Binary64 → Bool
  | .finite .. => true
  | _ => false

/-- The same magnitude with the other sign. -/
def neg : Binary64 → Binary64
  | .finite s m e => .finite (!s) m e
  | .infinity s => .infinity (!s)
  | .nan => .nan

/-- The rounded sum. -/
def add : Binary64 → Binary64 → Binary64
  | .nan, _ | _, .nan => .nan
  | .infinity s, .infinity t => if s = t then .infinity s else .nan
  | .infinity s, _ => .infinity s
  | _, .infinity t => .infinity t
  | .finite s m e, .finite t n f =>
    let g := min e f
    let a : Int := (m * Nat.pow 2 (e - g).toNat : Nat)
    let b : Int := (n * Nat.pow 2 (f - g).toNat : Nat)
    let c := (if s then -a else a) + (if t then -b else b)
    if c = 0 then zero (s && t)
    else
      let (num, den) := ratio c.natAbs g
      ofRatio (c < 0) num den

/-- The rounded product. -/
def mul : Binary64 → Binary64 → Binary64
  | .nan, _ | _, .nan => .nan
  | .infinity s, .infinity t => .infinity (s != t)
  | .infinity s, .finite t n _ => if n = 0 then .nan else .infinity (s != t)
  | .finite s m _, .infinity t => if m = 0 then .nan else .infinity (s != t)
  | .finite s m e, .finite t n f =>
    let (num, den) := ratio (m * n) (e + f)
    ofRatio (s != t) num den

/-- The rounded quotient. -/
def div : Binary64 → Binary64 → Binary64
  | .nan, _ | _, .nan => .nan
  | .infinity _, .infinity _ => .nan
  | .infinity s, .finite t _ _ => .infinity (s != t)
  | .finite s _ _, .infinity t => zero (s != t)
  | .finite s m e, .finite t n f =>
    if n = 0 then (if m = 0 then .nan else .infinity (s != t))
    else
      let (a, b) := ratio m e
      let (c, d) := ratio n f
      ofRatio (s != t) (a * d) (b * c)

end Binary64

end Sidecar

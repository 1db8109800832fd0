import Sidecar.Number.Text
import Sidecar.Text.Basic

/-!
# Spans of time

A span is a whole number of nanoseconds.

* `Span.render` writes it in calendar units from years down to nanoseconds, the units that are
  zero left out: `1m 30s`.  A year is 365.25 days and a month 30.44 days.
* `Span.parse` reads such a text; any sum of numbers with units will do, with decimal fractions.
* `Span.brief` is the form used in messages of time limits, whole seconds or milliseconds.
* `Span.scale?` multiplies by a double, `Span.debug` writes seconds with a fraction.

The clock of a rehearsal (`Clock`) stands still while anything can go on, and jumps to the next
timer when everything waits.  Timers go off on whole milliseconds.
-/

namespace Sidecar

/-- A span of time. -/
structure Span where
  /-- Its length in nanoseconds. -/
  nanos : Nat
  deriving DecidableEq, Repr, Inhabited

namespace Span

/-- Nanoseconds in a second. -/
def perSecond : Nat := 1000000000

/-- Nanoseconds in a millisecond. -/
def perMilli : Nat := 1000000

/-- A span of whole seconds. -/
def ofSeconds (n : Nat) : Span := ⟨n * perSecond⟩

/-- A span of whole milliseconds. -/
def ofMillis (n : Nat) : Span := ⟨n * perMilli⟩

/-- The whole seconds of a span. -/
def seconds (s : Span) : Nat := s.nanos / perSecond

/-- The nanoseconds beyond the whole seconds. -/
def subsecond (s : Span) : Nat := s.nanos % perSecond

/-- The whole seconds of a span are less than this. -/
def secondsLimit : Nat := Nat.pow 2 64

/-- The shorter of two spans. -/
def shorter (a b : Span) : Span := if a.nanos ≤ b.nanos then a else b

/-- The longest span. -/
def longest : Span := ⟨secondsLimit * perSecond - 1⟩

/-! ### Writing -/

/-- Seconds in a year. -/
def yearSeconds : Nat := 31557600

/-- Seconds in a month. -/
def monthSeconds : Nat := 2630016

/-- Seconds in a day. -/
def daySeconds : Nat := 86400

/-- A count with a unit in words, nothing for zero. -/
def inWords (unit : String) (n : Nat) : List String :=
  if n = 0 then [] else [toString n ++ unit ++ if n = 1 then "" else "s"]

/-- A count with a unit sign, nothing for zero. -/
def inSigns (unit : String) (n : Nat) : List String :=
  if n = 0 then [] else [toString n ++ unit]

/-- The items of a span, from years to nanoseconds. -/
def items (s : Span) : List String :=
  let inYear := s.seconds % yearSeconds
  let inMonth := inYear % monthSeconds
  let inDay := inMonth % daySeconds
  let sub := s.subsecond
  inWords "year" (s.seconds / yearSeconds) ++
  inWords "month" (inYear / monthSeconds) ++
  inWords "day" (inMonth / daySeconds) ++
  inSigns "h" (inDay / 3600) ++
  inSigns "m" (inDay % 3600 / 60) ++
  inSigns "s" (inDay % 60) ++
  inSigns "ms" (sub / 1000000) ++
  inSigns "us" (sub / 1000 % 1000) ++
  inSigns "ns" (sub % 1000)

/-- A span in calendar units. -/
def render (s : Span) : String :=
  if s.nanos = 0 then "0s" else " ".intercalate s.items

/-- Whole seconds, or else whole milliseconds, a rest being cut off. -/
def brief (s : Span) : String :=
  if s.subsecond / perMilli = 0 then toString s.seconds ++ "s"
  else toString (s.nanos / perMilli) ++ "ms"

/-! ### Reading -/

/-- A unit of time. -/
inductive Unit where
  | nanosecond
  | microsecond
  | millisecond
  | second
  | minute
  | hour
  | day
  | week
  | month
  | year
  deriving DecidableEq, Repr

/-- The names of the units. -/
def Unit.names : List (Unit × List String) :=
  [(.nanosecond, ["nanos", "nsec", "ns"]),
   (.microsecond, ["usec", "us", "µs", "micros"]),
   (.millisecond, ["millis", "msec", "ms"]),
   (.second, ["seconds", "second", "secs", "sec", "s"]),
   (.minute, ["minutes", "minute", "min", "mins", "m"]),
   (.hour, ["hours", "hour", "hrs", "hr", "h"]),
   (.day, ["days", "day", "d"]),
   (.week, ["weeks", "week", "wk", "wks", "w"]),
   (.month, ["months", "month", "M"]),
   (.year, ["years", "year", "yr", "yrs", "y"])]

/-- The unit of a name. -/
def Unit.ofName? (s : String) : Option Unit :=
  (Unit.names.find? fun p => p.2.contains s).map Prod.fst

/-- The nanoseconds of a unit below the second, or the seconds of any other. -/
def Unit.size : Unit → Nat ⊕ Nat
  | .nanosecond => .inl 1
  | .microsecond => .inl 1000
  | .millisecond => .inl 1000000
  | .second => .inr 1
  | .minute => .inr 60
  | .hour => .inr 3600
  | .day => .inr 86400
  | .week => .inr (86400 * 7)
  | .month => .inr monthSeconds
  | .year => .inr yearSeconds

/-- A number that fits 64 bits. -/
def fit64 (n : Nat) : Option Nat := if n < Nat.pow 2 64 then some n else none

/-- A decimal fraction. -/
structure Fraction where
  /-- The digits after the point, as a natural. -/
  numerator : Nat
  /-- The power of ten below it. -/
  denominator : Nat

/-- Add seconds and nanoseconds to a span, each of which has to fit 64 bits. -/
def plus (s : Span) (seconds nanos : Nat) : Option Span := do
  let n ← fit64 (s.subsecond + nanos)
  let total ← fit64 (s.seconds + seconds + n / perSecond)
  return ⟨total * perSecond + n % perSecond⟩

/-- Add a count of a unit. -/
def plusWhole (s : Span) (n : Nat) (u : Unit) : Option Span :=
  match u.size with
  | .inl k => (fit64 (n * k)).bind (s.plus 0)
  | .inr k => (fit64 (n * k)).bind fun secs => s.plus secs 0

/-- Add a fraction of a unit.  Up to minutes it counts in nanoseconds, from hours on in whole
seconds; a rest is cut off. -/
def plusFraction (s : Span) (f : Fraction) (u : Unit) : Option Span :=
  match u.size with
  | .inl k => (fit64 (f.numerator * k)).bind fun n => s.plus 0 (n / f.denominator)
  | .inr k =>
    if k ≤ 60 then
      (fit64 (f.numerator * (k * perSecond))).bind fun n => s.plus 0 (n / f.denominator)
    else (fit64 (f.numerator * k)).bind fun n => s.plus (n / f.denominator) 0

/-- A character of unit names. -/
def isUnitChar (c : Char) : Bool :=
  ('a' ≤ c && c ≤ 'z') || ('A' ≤ c && c ≤ 'Z') || c == 'µ'

/-- The value of a decimal digit. -/
def digit? (c : Char) : Option Nat :=
  if '0' ≤ c ∧ c ≤ '9' then some (c.toNat - '0'.toNat) else none

/-- The first digit of a number, after blanks; `none` inside when there is nothing more. -/
def firstDigit : List Char → Option (Option (Nat × List Char))
  | [] => some none
  | c :: cs =>
    match digit? c with
    | some d => some (some (d, cs))
    | none => if isBlank c then firstDigit cs else none

/-- The rest of a whole number, up to the first character of the unit or a point; blanks may
stand between digits. -/
def wholeRest : Nat → List Char → Option (Nat × List Char)
  | n, [] => some (n, [])
  | n, c :: cs =>
    match digit? c with
    | some d => (fit64 (n * 10 + d)).bind fun n => wholeRest n cs
    | none =>
      if isBlank c then wholeRest n cs
      else if isUnitChar c || c == '.' then some (n, c :: cs)
      else none

/-- The digits of a fraction, up to the first character of the unit. -/
def fractionRest : Fraction → List Char → Option (Fraction × List Char)
  | f, [] => if f.denominator = 1 then none else some (f, [])
  | f, c :: cs =>
    match digit? c with
    | some d =>
      match fit64 (f.numerator * 10 + d), fit64 (f.denominator * 10) with
      | some n, some m => fractionRest ⟨n, m⟩ cs
      | _, _ => none
    | none =>
      if isBlank c then fractionRest f cs
      else if isUnitChar c then (if f.denominator = 1 then none else some (f, c :: cs))
      else none

/-- The unit: up to a blank or the next number. -/
def unitRest (cs : List Char) : Option (Unit × List Char) :=
  let name := cs.takeWhile isUnitChar
  let rest := cs.dropWhile isUnitChar
  match rest with
  | c :: _ =>
    if (digit? c).isSome || isBlank c then
      (Unit.ofName? (String.ofList name)).map fun u => (u, rest)
    else none
  | [] => (Unit.ofName? (String.ofList name)).map fun u => (u, [])

/-- The items of a text added to a span. -/
def parseItems : (fuel : Nat) → Span → List Char → Option Span
  | 0, _, _ => none
  | fuel + 1, s, cs =>
    match firstDigit cs with
    | none => none
    | some none => some s
    | some (some (d, cs)) => do
      let (n, cs) ← wholeRest d cs
      let (f, cs) ← match cs with
        | '.' :: r => (fractionRest ⟨0, 1⟩ r).map fun (f, r) => (some f, r)
        | r => some (none, r)
      let (u, cs) ← unitRest cs
      let s ← s.plusWhole n u
      let s ← match f with
        | some f => s.plusFraction f u
        | none => some s
      parseItems fuel s cs

/-- A span from a text of at least one item, or a bare zero. -/
def parse (text : String) : Option Span :=
  if text = "0" then some ⟨0⟩
  else
    match firstDigit text.toList with
    | some (some _) => parseItems (text.length + 1) ⟨0⟩ text.toList
    | _ => none

/-! ### Arithmetic -/

/-- Whole seconds and a fraction as a double. -/
def toBinary64 (s : Span) : Binary64 :=
  (Binary64.ofNat s.seconds).add
    ((Binary64.ofNat s.subsecond).div (Binary64.ofNat perSecond))

/-- The span nearest to a number of seconds, ties to the even nanosecond; `none` when it is
negative, too long or not finite. -/
def ofBinary64? : Binary64 → Option Span
  | .finite negative m e =>
    if m = 0 then some ⟨0⟩
    else if negative then none
    else
      let (num, den) := Binary64.ratio m e
      let n := roundDiv (num * perSecond) den
      if n ≤ longest.nanos then some ⟨n⟩ else none
  | _ => none

/-- A span times a double, in double arithmetic. -/
def scale? (s : Span) (factor : Binary64) : Option Span := ofBinary64? (factor.mul s.toBinary64)

/-- A fraction of `digits` places without trailing zeros, with its point. -/
def fractionText (digits n : Nat) : String :=
  let s := toString n
  let ds := (List.replicate (digits - s.length) '0' ++ s.toList).reverse.dropWhile (· == '0')
  if ds.isEmpty then "" else "." ++ String.ofList ds.reverse

/-- A span with its largest unit of seconds, milliseconds, microseconds or nanoseconds. -/
def debug (s : Span) : String :=
  if 0 < s.seconds then toString s.seconds ++ fractionText 9 s.subsecond ++ "s"
  else if perMilli ≤ s.nanos then
    toString (s.nanos / perMilli) ++ fractionText 6 (s.nanos % perMilli) ++ "ms"
  else if 1000 ≤ s.nanos then
    toString (s.nanos / 1000) ++ fractionText 3 (s.nanos % 1000) ++ "µs"
  else toString s.nanos ++ "ns"

end Span

end Sidecar

namespace Sidecar.Clock

/-- A time in nanoseconds moved to the next whole millisecond. -/
def roundUp (t : Nat) : Nat := (t + (Span.perMilli - 1)) / Span.perMilli * Span.perMilli

/-- How far ahead a timer can be set. -/
def horizon : Nat := Nat.pow 2 63 * Span.perSecond

/-- What stands for a time beyond the horizon: thirty years from now. -/
def farAhead : Nat := 30 * 365 * 86400 * Span.perSecond

/-- The time at which a wait of a span that begins now is over. -/
def deadline (now : Nat) (s : Span) : Nat :=
  if now + s.nanos < horizon then now + s.nanos else now + farAhead

/-- The time at which the timer of a deadline goes off. -/
def fires (deadline : Nat) : Nat := roundUp deadline

theorem le_deadline (now : Nat) (s : Span) : now ≤ deadline now s := by
  unfold deadline
  split <;> omega

/-- A wait is no longer than its span, as long as a time beyond the horizon stands for one that is. -/
theorem deadline_le {now : Nat} {s : Span} (near : now + farAhead ≤ horizon) :
    deadline now s ≤ now + s.nanos := by
  unfold deadline
  split <;> omega

theorem le_fires (t : Nat) : t ≤ fires t := by
  simp only [fires, roundUp, Span.perMilli]
  omega

theorem fires_mono {t u : Nat} (h : t ≤ u) : fires t ≤ fires u := by
  simp only [fires, roundUp, Span.perMilli]
  omega

theorem fires_of_dvd {t : Nat} (whole : Span.perMilli ∣ t) : fires t = t := by
  simp only [fires, roundUp, Span.perMilli] at *
  omega

theorem fires_lt (t : Nat) : fires t < t + Span.perMilli := by
  simp only [fires, roundUp, Span.perMilli]
  omega

end Sidecar.Clock

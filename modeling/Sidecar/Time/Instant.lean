import Sidecar.Number.Text
import Sidecar.Text.Basic

/-!
# Instants

An instant is a calendar date and a time of day in universal time.

* `Instant.parse` reads a date and time with an offset, as in `2024-05-06T07:08:09+02:00`.  It is
  lenient: numbers may be short, blanks may stand before them, and the offset may be written as a
  word.
* `Instant.render` writes an instant in universal time, with as many groups of three fraction
  digits as it needs.
-/

namespace Sidecar

/-- A date of the proleptic calendar. -/
structure Date where
  year : Int
  month : Nat
  day : Nat
  deriving DecidableEq, Repr, Inhabited

namespace Date

/-- The least year. -/
def minYear : Int := -262143

/-- The greatest year. -/
def maxYear : Int := 262142

/-- Whether a year has a leap day. -/
def isLeapYear (y : Int) : Bool := y % 4 == 0 && (y % 100 != 0 || y % 400 == 0)

/-- The number of days in a month. -/
def daysIn (y : Int) (m : Nat) : Nat :=
  if m = 2 then (if isLeapYear y then 29 else 28)
  else if m = 4 ∨ m = 6 ∨ m = 9 ∨ m = 11 then 30
  else 31

/-- Whether it is a date of the calendar. -/
def isValid (d : Date) : Bool :=
  minYear ≤ d.year && d.year ≤ maxYear && 1 ≤ d.month && d.month ≤ 12 &&
    1 ≤ d.day && d.day ≤ daysIn d.year d.month

/-- The day after. -/
def next (d : Date) : Date :=
  if d.day < daysIn d.year d.month then { d with day := d.day + 1 }
  else if d.month < 12 then { d with month := d.month + 1, day := 1 }
  else { year := d.year + 1, month := 1, day := 1 }

/-- The day before. -/
def previous (d : Date) : Date :=
  if 1 < d.day then { d with day := d.day - 1 }
  else if 1 < d.month then
    { d with month := d.month - 1, day := daysIn d.year (d.month - 1) }
  else { year := d.year - 1, month := 12, day := 31 }

end Date

/-- A point in time. -/
structure Instant where
  date : Date
  hour : Nat
  minute : Nat
  /-- Sixty during a leap second. -/
  second : Nat
  nanos : Nat
  deriving DecidableEq, Repr, Inhabited

namespace Instant

/-! ### Writing -/

/-- A natural with leading zeros. -/
def padded (width n : Nat) : String :=
  let s := toString n
  String.ofList (List.replicate (width - s.length) '0') ++ s

/-- A year: four digits, with a sign where they do not suffice. -/
def yearText (y : Int) : String :=
  if 0 ≤ y ∧ y ≤ 9999 then padded 4 y.toNat
  else (if y < 0 then "-" else "+") ++ padded 4 y.natAbs

/-- The fraction of a second: none, or three, six or nine digits after a point. -/
def fractionText (nanos : Nat) : String :=
  if nanos = 0 then ""
  else if nanos % 1000000 = 0 then "." ++ padded 3 (nanos / 1000000)
  else if nanos % 1000 = 0 then "." ++ padded 6 (nanos / 1000)
  else "." ++ padded 9 nanos

/-- An instant in universal time. -/
def render (t : Instant) : String :=
  yearText t.date.year ++ "-" ++ padded 2 t.date.month ++ "-" ++ padded 2 t.date.day ++ "T" ++
    padded 2 t.hour ++ ":" ++ padded 2 t.minute ++ ":" ++ padded 2 t.second ++
    fractionText t.nanos ++ "Z"

/-! ### Reading -/

/-- What is left of a text after leading blanks. -/
def skipBlanks (cs : List Char) : List Char := cs.dropWhile isBlank

/-- One to `most` digits. -/
def digits? (most : Nat) (cs : List Char) : Option (Nat × List Char) := do
  let ds := (cs.takeWhile Char.isDigit).take most
  let n ← readNatural 10 ds
  return (n, cs.drop ds.length)

/-- A number of one or two digits, after blanks. -/
def short? (cs : List Char) : Option (Nat × List Char) := digits? 2 (skipBlanks cs)

/-- A year after blanks: up to four digits, or any number of them after a sign. -/
def year? (cs : List Char) : Option (Int × List Char) :=
  match skipBlanks cs with
  | '+' :: cs => (digits? cs.length cs).map fun (n, r) => ((n : Int), r)
  | '-' :: cs => (digits? cs.length cs).map fun (n, r) => (-(n : Int), r)
  | cs => (digits? 4 cs).map fun (n, r) => ((n : Int), r)

/-- A separator, after blanks. -/
def separator? (c : Char) (cs : List Char) : Option (List Char) :=
  match skipBlanks cs with
  | d :: cs => if d = c then some cs else none
  | [] => none

/-- The fraction of a second after a point, if there is one; digits beyond the ninth are passed
over. -/
def fraction? (cs : List Char) : Option (Nat × List Char) :=
  match cs with
  | '.' :: cs => do
    let ds := (cs.takeWhile Char.isDigit).take 9
    let n ← readNatural 10 ds
    return (n * Nat.pow 10 (9 - ds.length), cs.dropWhile Char.isDigit)
  | cs => some (0, cs)

/-- The two digits of hours or minutes in an offset. -/
def pair? (cs : List Char) : Option (Nat × List Char) :=
  match cs with
  | a :: b :: r => (readNatural 10 [a, b]).bind fun n =>
    if a.isDigit && b.isDigit then some (n, r) else none
  | _ => none

/-- Hours and minutes of an offset, in minutes; colons and blanks may stand between them. -/
def offsetMinutes? (cs : List Char) : Option (Nat × List Char) := do
  let (h, cs) ← pair? cs
  let (m, cs) ← pair? (cs.dropWhile fun c => c == ':' || isBlank c)
  if m < 60 ∧ h < 24 then return (h * 60 + m, cs) else none

/-- An offset from universal time, in minutes. -/
def offset? (cs : List Char) : Option (Int × List Char) :=
  match cs with
  | 'Z' :: cs | 'z' :: cs => some (0, cs)
  | '+' :: cs => (offsetMinutes? cs).map fun (n, r) => ((n : Int), r)
  | '-' :: cs | '−' :: cs => (offsetMinutes? cs).map fun (n, r) => (-(n : Int), r)
  | a :: b :: c :: cs =>
    if [a, b, c].map Char.toLower = ['u', 't', 'c'] then some (0, cs) else none
  | _ => none

/-- Move a local time with the given offset to universal time. -/
def toUniversal (t : Instant) (offset : Int) : Instant :=
  let m : Int := (t.hour * 60 + t.minute : Nat) - offset
  let date := if m < 0 then t.date.previous else if 1440 ≤ m then t.date.next else t.date
  let m := (m % 1440).toNat
  { t with date, hour := m / 60, minute := m % 60 }

/-- A date, a separator, a time and an offset. -/
def parse (text : String) : Option Instant := do
  let (year, cs) ← year? text.toList
  let (month, cs) ← short? (← separator? '-' cs)
  let (day, cs) ← short? (← separator? '-' cs)
  let cs ← match cs with
    | 'T' :: cs | 't' :: cs | ' ' :: cs => some cs
    | _ => none
  let (hour, cs) ← short? cs
  let (minute, cs) ← short? (← separator? ':' cs)
  let (second, cs) ← short? (← separator? ':' cs)
  let (nanos, cs) ← fraction? cs
  let (offset, cs) ← offset? (skipBlanks cs)
  let date : Date := { year, month, day }
  if (skipBlanks cs).isEmpty ∧ date.isValid ∧ hour < 24 ∧ minute < 60 ∧ second ≤ 60 then
    let t := toUniversal { date, hour, minute, second, nanos } offset
    if t.date.isValid then return t else none
  else none

end Instant

end Sidecar

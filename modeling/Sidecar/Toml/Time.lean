import Sidecar.Number.Text

/-!
# Dates and times

`dateTime?` reads a date, a time or both at the head of a text and gives the canonical text:
`T` between date and time, no trailing zeros in the fraction of a second, which is cut after nine
digits, and `Z` or a signed offset.
-/

namespace Sidecar.Toml

/-- Exactly two digits, at most `greatest`. -/
def twoDigits (greatest : Nat) : List Char → Option (Nat × List Char)
  | a :: b :: cs => do
    let n ← readNatural 10 [a, b]
    if n ≤ greatest then some (n, cs) else none
  | _ => none

/-- A given character. -/
def expectChar (c : Char) : List Char → Option (List Char)
  | d :: cs => if c = d then some cs else none
  | [] => none

/-- The number of days of a month. -/
def daysInMonth (year month : Nat) : Nat :=
  if month = 2 then
    if year % 4 = 0 ∧ (year % 100 ≠ 0 ∨ year % 400 = 0) then 29 else 28
  else if month = 4 ∨ month = 6 ∨ month = 9 ∨ month = 11 then 30
  else 31

/-- A number with leading zeros up to a width. -/
def padded (width n : Nat) : String :=
  let s := toString n
  String.ofList (List.replicate (width - s.length) '0') ++ s

/-- A date: year, month and day. -/
def date? (cs : List Char) : Option (String × List Char) := do
  let (a, cs) ← twoDigits 99 cs
  let (b, cs) ← twoDigits 99 cs
  let cs ← expectChar '-' cs
  let (month, cs) ← twoDigits 12 cs
  let cs ← expectChar '-' cs
  let (day, cs) ← twoDigits 31 cs
  let year := a * 100 + b
  if month = 0 ∨ day = 0 ∨ daysInMonth year month < day then none
  return (padded 4 year ++ "-" ++ padded 2 month ++ "-" ++ padded 2 day, cs)

/-- The fraction of a second, of at most nine digits and without trailing zeros. -/
def fractionText (ds : List Char) : String :=
  let ds := ((ds.take 9).reverse.dropWhile (· == '0')).reverse
  if ds.isEmpty then "" else "." ++ String.ofList ds

/-- A time of day; a minute may have a leap second. -/
def time? (cs : List Char) : Option (String × List Char) := do
  let (hour, cs) ← twoDigits 23 cs
  let cs ← expectChar ':' cs
  let (minute, cs) ← twoDigits 59 cs
  let cs ← expectChar ':' cs
  let (second, cs) ← twoDigits 60 cs
  let (fraction, cs) ← match cs with
    | '.' :: r =>
      let (ds, rest) := spanDigits r
      if ds.isEmpty then none else some (fractionText ds, rest)
    | r => some ("", r)
  return (padded 2 hour ++ ":" ++ padded 2 minute ++ ":" ++ padded 2 second ++ fraction, cs)

/-- An offset from universal time; none at all is the empty text. -/
def offset? (cs : List Char) : Option (String × List Char) :=
  match cs with
  | 'Z' :: r => some ("Z", r)
  | 'z' :: r => some ("Z", r)
  | c :: r =>
    if c = '+' ∨ c = '-' then do
      let (hour, r) ← twoDigits 23 r
      let r ← expectChar ':' r
      let (minute, r) ← twoDigits 59 r
      let sign := if c = '-' ∧ 0 < hour * 60 + minute then "-" else "+"
      return (sign ++ padded 2 hour ++ ":" ++ padded 2 minute, r)
    else some ("", c :: r)
  | [] => some ("", [])

/-- A time with its offset, after the character that parts it from a date. -/
def timeAfterDate? (cs : List Char) : Option (Option (String × List Char)) :=
  match cs with
  | c :: r =>
    if c = 'T' ∨ c = 't' ∨ c = ' ' then
      match time? r with
      | some (t, r) => (offset? r).map fun (o, r) => some ("T" ++ t ++ o, r)
      | none => some none
    else some none
  | [] => some none

/-- A date, a time or both. -/
def dateTime? (cs : List Char) : Option (String × List Char) :=
  match date? cs with
  | some (d, r) =>
    match timeAfterDate? r with
    | some (some (t, r)) => some (d ++ t, r)
    | some none => some (d, r)
    | none => none
  | none => time? cs

end Sidecar.Toml

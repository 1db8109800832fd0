import Sidecar.Toml.Table
import Sidecar.Toml.Time

/-!
# Reading TOML

`Toml.read shape` reads a whole text into a `Node`.  Every part of it is checked, looked at or
not; arrays and inline tables may nest `maxDepth` deep.  A date or time reads as a table of one
entry, `timeKey`.

A list that stands for a record may be longer than the record has fields; what is beyond them is
left out (`Node.trimmed`).
-/

namespace Sidecar

namespace Toml

/-- How deep arrays and inline tables may nest, and how many parts a dotted key may have. -/
def maxDepth : Nat := 79

/-- The key of a date or time. -/
def timeKey : String := "$__toml_private_datetime"

/-! ### Blanks and comments -/

/-- Without leading spaces and tabs. -/
def skipBlank (cs : List Char) : List Char := cs.dropWhile fun c => c == ' ' || c == '\t'

/-- A character of comments and of strings, quotes apart. -/
def isVisible (c : Char) : Bool :=
  c == '\t' || (' ' ≤ c && c ≤ '~') || 0x80 ≤ c.toNat

/-- A line break: a line feed, alone or after a carriage return. -/
def newline? : List Char → Option (List Char)
  | '\n' :: cs => some cs
  | '\r' :: '\n' :: cs => some cs
  | _ => none

/-- The rest of a line: blanks, a comment, and the break or the end of the text. -/
def lineEnd? (cs : List Char) : Option (List Char) :=
  let cs := match skipBlank cs with
    | '#' :: r => r.dropWhile isVisible
    | r => r
  match cs with
  | [] => some []
  | cs => newline? cs

/-- Pass over blanks, comments and line breaks between the items of an array. -/
def skipLines : (fuel : Nat) → List Char → Option (List Char)
  | 0, cs => some cs
  | fuel + 1, cs =>
    match skipBlank cs with
    | '#' :: r =>
      match newline? (r.dropWhile isVisible) with
      | some r => skipLines fuel r
      | none => none
    | r =>
      match newline? r with
      | some r => skipLines fuel r
      | none => some r

/-! ### Strings -/

/-- A hexadecimal number of exactly the given number of digits. -/
def hexDigits : (count : Nat) → (sofar : Nat) → List Char → Option (Nat × List Char)
  | 0, n, cs => some (n, cs)
  | count + 1, n, c :: cs =>
    match digitValue c with
    | some d => hexDigits count (n * 16 + d) cs
    | none => none
  | _ + 1, _, [] => none

/-- An escape sequence after its backslash. -/
def escape? (cs : List Char) : Option (Char × List Char) :=
  let numbered (count : Nat) (r : List Char) : Option (Char × List Char) :=
    match hexDigits count 0 r with
    | some (n, r) => if h : n.isValidChar then some (Char.ofNatAux n h, r) else none
    | none => none
  match cs with
  | 'b' :: r => some ('\x08', r)
  | 't' :: r => some ('\t', r)
  | 'n' :: r => some ('\n', r)
  | 'f' :: r => some ('\x0c', r)
  | 'r' :: r => some ('\r', r)
  | '"' :: r => some ('"', r)
  | '\\' :: r => some ('\\', r)
  | 'u' :: r => numbered 4 r
  | 'U' :: r => numbered 8 r
  | _ => none

/-- A string of one line after its opening quote; only double quotes know escapes. -/
def lineString (quote : Char) : (fuel : Nat) → List Char → List Char →
    Option (String × List Char)
  | 0, _, _ => none
  | _ + 1, _, [] => none
  | fuel + 1, acc, c :: cs =>
    if c = quote then some (String.ofList acc.reverse, cs)
    else if c = '\\' ∧ quote = '"' then
      match escape? cs with
      | some (r, cs) => lineString quote fuel (r :: acc) cs
      | none => none
    else if isVisible c then lineString quote fuel (c :: acc) cs
    else none

/-- Pass over blanks and line breaks after a backslash at the end of a line. -/
def skipJoined : (fuel : Nat) → List Char → List Char
  | 0, cs => cs
  | fuel + 1, cs =>
    match skipBlank cs with
    | r =>
      match newline? r with
      | some r => skipJoined fuel r
      | none => r

/-- The number of leading quotes. -/
def countQuotes (quote : Char) (cs : List Char) : Nat := (cs.takeWhile (· == quote)).length

/-- A string of several lines after its opening quotes.  Up to two quotes may stand right before
the closing ones. -/
def blockString (quote : Char) : (fuel : Nat) → List Char → List Char →
    Option (String × List Char)
  | 0, _, _ => none
  | _ + 1, _, [] => none
  | fuel + 1, acc, c :: cs =>
    if c = quote then
      let n := countQuotes quote (c :: cs)
      if n < 3 then
        blockString quote fuel (List.replicate n quote ++ acc) (cs.drop (n - 1))
      else
        let own := min (n - 3) 2
        some (String.ofList (List.replicate own quote ++ acc).reverse, cs.drop (own + 2))
    else if c = '\\' ∧ quote = '"' then
      match newline? (skipBlank cs) with
      | some r => blockString quote fuel acc (skipJoined (r.length + 1) r)
      | none =>
        match escape? cs with
        | some (r, cs) => blockString quote fuel (r :: acc) cs
        | none => none
    else
      match newline? (c :: cs) with
      | some r => blockString quote fuel ('\n' :: acc) r
      | none => if isVisible c then blockString quote fuel (c :: acc) cs else none

/-- A string at its opening quote. -/
def string? (cs : List Char) : Option (String × List Char) :=
  match cs with
  | '"' :: '"' :: '"' :: r => body '"' r
  | '\'' :: '\'' :: '\'' :: r => body '\'' r
  | '"' :: r => lineString '"' (r.length + 1) [] r
  | '\'' :: r => lineString '\'' (r.length + 1) [] r
  | _ => none
where
  -- a line break right after the opening quotes does not count
  body (quote : Char) (r : List Char) : Option (String × List Char) :=
    let r := (newline? r).getD r
    blockString quote (r.length + 1) [] r

/-! ### Keys -/

/-- A character of bare keys. -/
def isBare (c : Char) : Bool := c.isAlphanum || c == '_' || c == '-'

/-- One part of a key: bare or quoted, on one line. -/
def keyPart? (cs : List Char) : Option (String × List Char) :=
  match cs with
  | '"' :: r => lineString '"' (r.length + 1) [] r
  | '\'' :: r => lineString '\'' (r.length + 1) [] r
  | _ =>
    let name := cs.takeWhile isBare
    if name.isEmpty then none else some (String.ofList name, cs.dropWhile isBare)

/-- The parts of a dotted key, with blanks around each. -/
def keyParts? : (fuel : Nat) → List Char → Option (List String × List Char)
  | 0, _ => none
  | fuel + 1, cs => do
    let (k, cs) ← keyPart? (skipBlank cs)
    match skipBlank cs with
    | '.' :: r =>
      let (ks, r) ← keyParts? fuel r
      return (k :: ks, r)
    | r => return ([k], r)

/-- A dotted key. -/
def key? (cs : List Char) : Option (List String × List Char) := do
  let (ks, r) ← keyParts? (cs.length + 1) cs
  if maxDepth < ks.length then none else some (ks, r)

/-! ### Numbers -/

/-- Digits with single underscores between them, without the underscores. -/
def groupedDigits (isDigit : Char → Bool) : List Char → Option (List Char × List Char)
  | c :: cs => if isDigit c then (more cs).map fun (ds, r) => (c :: ds, r) else none
  | [] => none
where
  more : List Char → Option (List Char × List Char)
    | '_' :: c :: cs => if isDigit c then (more cs).map fun (ds, r) => (c :: ds, r) else none
    | '_' :: [] => none
    | c :: cs =>
      if isDigit c then (more cs).map fun (ds, r) => (c :: ds, r) else some ([], c :: cs)
    | [] => some ([], [])

/-- An optional sign. -/
def sign (cs : List Char) : Bool × List Char :=
  match cs with
  | '+' :: r => (false, r)
  | '-' :: r => (true, r)
  | r => (false, r)

/-- The digits of a decimal integer: a zero stands alone. -/
def decimalDigits (cs : List Char) : Option (List Char × List Char) :=
  match cs with
  | '0' :: r => some (['0'], r)
  | r => groupedDigits Char.isDigit r

/-- An exponent at its mark. -/
def exponent? (cs : List Char) : Option (Int × List Char) :=
  match cs with
  | c :: r =>
    if c = 'e' ∨ c = 'E' then do
      let (negative, r) := sign r
      let (ds, r) ← groupedDigits Char.isDigit r
      let n ← readNatural 10 ds
      return (if negative then -(n : Int) else n, r)
    else none
  | [] => none

/-- A number with a fraction, an exponent or both.  A positive one may not be too large. -/
def float? (cs : List Char) : Option (Option (Binary64 × List Char)) :=
  let (negative, r) := sign cs
  match decimalDigits r with
  | none => some none
  | some (whole, r) =>
    let make (fraction : List Char) (e : Int) (r : List Char) :
        Option (Option (Binary64 × List Char)) := do
      let n ← readNatural 10 (whole ++ fraction)
      let x := Decimal.toBinary64 ⟨negative, n, e - fraction.length⟩
      if x = .infinity false then none else some (some (x, r))
    match r with
    | '.' :: r => do
      let (fraction, r) ← groupedDigits Char.isDigit r
      match r with
      | 'e' :: _ | 'E' :: _ => do
        let (e, r) ← exponent? r
        make fraction e r
      | _ => make fraction 0 r
    | 'e' :: _ | 'E' :: _ => do
      let (e, r) ← exponent? r
      make [] e r
    | _ => some none

/-- A word for what is not finite, with an optional sign. -/
def specialFloat? (cs : List Char) : Option (Binary64 × List Char) :=
  match sign cs with
  | (negative, 'i' :: 'n' :: 'f' :: r) => some (.infinity negative, r)
  | (_, 'n' :: 'a' :: 'n' :: r) => some (.nan, r)
  | _ => none

/-- An integer, if it fits 64 bits with a sign. -/
def int64? (n : Int) : Option Node :=
  if -Int.pow 2 63 ≤ n ∧ n < Int.pow 2 63 then some (.int n) else none

/-- An integer in base sixteen, eight, two or ten; only the last may have a sign. -/
def integer? (cs : List Char) : Option (Node × List Char) :=
  let based (base : Nat) (r : List Char) : Option (Node × List Char) := do
    let (ds, r) ← groupedDigits (fun c => (digitValue c).any (· < base)) r
    let n ← readNatural base ds
    let i ← int64? n
    return (i, r)
  match cs with
  | '0' :: 'x' :: r => based 16 r
  | '0' :: 'o' :: r => based 8 r
  | '0' :: 'b' :: r => based 2 r
  | _ => do
    let (negative, r) := sign cs
    let (ds, r) ← decimalDigits r
    let n ← readNatural 10 ds
    let i ← int64? (if negative then -(n : Int) else n)
    return (i, r)

/-- A date, a time or a number. -/
def numeric? (cs : List Char) : Option (Node × List Char) :=
  match dateTime? cs with
  | some (s, r) => some (.table [(.text timeKey, .text s)], r)
  | none =>
    match float? cs with
    | none => none
    | some (some (x, r)) => some (.float x, r)
    | some none =>
      match specialFloat? cs with
      | some (x, r) => some (.float x, r)
      | none => integer? cs

/-! ### Values -/

/-- Pass over a word. -/
def word (w : String) (n : Node) (cs : List Char) : Option (Node × List Char) :=
  if w.toList.isPrefixOf cs then some (n, cs.drop w.length) else none

mutual

/-- A value. -/
def value? : (fuel : Nat) → (depth : Nat) → List Char → Option (Node × List Char)
  | 0, _, _ => none
  | fuel + 1, depth, cs =>
    match cs with
    | '"' :: _ => (string? cs).map fun (s, r) => (.text s, r)
    | '\'' :: _ => (string? cs).map fun (s, r) => (.text s, r)
    | '[' :: r =>
      match depth with
      | 0 => none
      | depth + 1 => (items? fuel depth r).map fun (ns, r) => (.list ns, r)
    | '{' :: r =>
      match depth with
      | 0 => none
      | depth + 1 =>
        match skipBlank r with
        | '}' :: r => some (.table [], r)
        | r => (entries? fuel depth .empty r).map fun (t, r) => (t.toNode, r)
    | 't' :: _ => word "true" (.bool true) cs
    | 'f' :: _ => word "false" (.bool false) cs
    | _ => numeric? cs

/-- The items of an array and its closing bracket; a comma may stand before that. -/
def items? : (fuel : Nat) → (depth : Nat) → List Char → Option (List Node × List Char)
  | 0, _, _ => none
  | fuel + 1, depth, cs => do
    match ← skipLines (cs.length + 1) cs with
    | ']' :: r => return ([], r)
    | cs =>
      let (n, cs) ← value? fuel depth cs
      match ← skipLines (cs.length + 1) cs with
      | ',' :: r =>
        let (ns, r) ← items? fuel depth r
        return (n :: ns, r)
      | ']' :: r => return ([n], r)
      | _ => none

/-- The entries of an inline table and its closing brace, on one line. -/
def entries? : (fuel : Nat) → (depth : Nat) → Table → List Char → Option (Table × List Char)
  | 0, _, _, _ => none
  | fuel + 1, depth, t, cs => do
    let (path, cs) ← key? cs
    match cs with
    | '=' :: r =>
      let (n, r) ← value? fuel depth (skipBlank r)
      let (up, key) := splitPath path
      let t ← t.insert up key n
      match skipBlank r with
      | ',' :: r => entries? fuel depth t r
      | '}' :: r => return (t, r)
      | _ => none
    | _ => none

end

/-! ### Documents -/

/-- The lines of a document. -/
def lines? : (fuel : Nat) → Draft → List Char → Option Draft
  | 0, _, _ => none
  | fuel + 1, d, cs =>
    match skipBlank cs with
    | [] => some d
    | '#' :: r => do
      let r ← lineEnd? ('#' :: r)
      lines? fuel d r
    | '[' :: '[' :: r => do
      let (path, r) ← key? r
      match r with
      | ']' :: ']' :: r =>
        let d ← d.repeatedHeader path
        let r ← lineEnd? r
        lines? fuel d r
      | _ => none
    | '[' :: r => do
      let (path, r) ← key? r
      match r with
      | ']' :: r =>
        let d ← d.header path
        let r ← lineEnd? r
        lines? fuel d r
      | _ => none
    | cs =>
      match newline? cs with
      | some r => lines? fuel d r
      | none => do
        let (path, cs) ← key? cs
        match cs with
        | '=' :: r =>
          let r := skipBlank r
          let (n, r) ← value? (r.length + 1) maxDepth r
          let d ← d.assign path n
          let r ← lineEnd? r
          lines? fuel d r
        | _ => none

/-- The tree of a whole text; one byte order mark may stand before it. -/
def tree? (s : String) : Option Node := do
  let cs := match s.toList with
    | '\ufeff' :: cs => cs
    | cs => cs
  let d ← lines? (cs.length + 1) .empty cs
  let t ← d.finish
  return t.toNode

end Toml

namespace Node

mutual

/-- A tree in which no list that stands for a record is longer than the record. -/
def trimmed (shape : Shape) : Node → Node
  | .list items =>
    match shape with
    | .record fs => .list (trimmedItems (fs.map Prod.snd) items)
    | _ => .list items
  | .table entries => .table (trimmedEntries shape entries)
  | n => n

/-- Items, one for each shape. -/
def trimmedItems : List Shape → List Node → List Node
  | s :: shapes, n :: ns => trimmed s n :: trimmedItems shapes ns
  | _, _ => []

/-- Entries, each under the shape of its field. -/
def trimmedEntries (shape : Shape) : List (Node × Node) → List (Node × Node)
  | [] => []
  | (.text k, n) :: es =>
    (.text k, trimmed ((shape.field? k).getD .any) n) :: trimmedEntries shape es
  | (k, n) :: es => (k, n) :: trimmedEntries shape es

end

end Node

namespace Toml

/-- A whole text of which `shape` is looked at. -/
def read (shape : Shape) (s : String) : Option Node :=
  (tree? s).map (Node.trimmed shape)

end Toml

end Sidecar

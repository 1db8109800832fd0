import Sidecar.Number.Text
import Sidecar.Text.Quoted

/-!
# Free values

A free value is data whose shape the program does not fix: a plugin's configuration, an answer of
a probed endpoint, the data to store.

* `Value` is the type; the members of an object are kept in byte order of their keys, each key
  once, which `Value.insert` maintains;
* `Value.get?` looks a member up;
* `Value.kind` names the kind of a value;
* `Value.compact` writes a value as JSON without blanks.  `Value.stored` is the text under which a
  value is stored: a text as it is, null as the empty text, anything else compactly.
-/

namespace Sidecar

/-- Data of a shape that the program does not fix. -/
inductive Value where
  | null
  | bool (b : Bool)
  /-- An integer in `-2^63 … 2^64 - 1`. -/
  | int (n : Int)
  /-- A finite double. -/
  | float (x : Binary64)
  | text (s : String)
  | list (items : List Value)
  /-- Members in byte order of their keys, each key once. -/
  | object (members : List (String × Value))
  deriving Inhabited

namespace Value

/-- Set a member, keeping the keys in order. -/
def insertMember (key : String) (v : α) : List (String × α) → List (String × α)
  | [] => [(key, v)]
  | (k, w) :: rest =>
    if key < k then (key, v) :: (k, w) :: rest
    else if key = k then (key, v) :: rest
    else (k, w) :: insertMember key v rest

/-- The members of a list of pairs: sorted by key, the last pair of a key winning. -/
def members (pairs : List (String × α)) : List (String × α) :=
  pairs.foldl (fun out p => insertMember p.1 p.2 out) []

/-- An object from pairs in any order. -/
def ofPairs (pairs : List (String × Value)) : Value := .object (members pairs)

/-- An object of texts. -/
def ofTexts (pairs : List (String × String)) : Value :=
  ofPairs (pairs.map fun p => (p.1, .text p.2))

/-- The member of a key. -/
def get? (v : Value) (key : String) : Option Value :=
  match v with
  | .object ms => ms.lookup key
  | _ => none

/-- A double as a value; there is none for what is not finite. -/
def ofFloat (x : Binary64) : Value := if x.isFinite then .float x else .null

/-- A text, or null for none. -/
def ofText? : Option String → Value
  | some s => .text s
  | none => .null

/-- What kind of value it is. -/
def kind : Value → String
  | .null => "null"
  | .bool _ => "boolean"
  | .int _ | .float _ => "number"
  | .text _ => "string"
  | .list _ => "array"
  | .object _ => "mapping"

/-- Whether it is an object. -/
def isObject : Value → Bool
  | .object _ => true
  | _ => false

theorem lookup_insertMember {α : Type} {key other : String} {v : α} {ms : List (String × α)} :
    (insertMember key v ms).lookup other =
      if other = key then some v else ms.lookup other := by
  by_cases ho : other = key
  · subst ho
    rw [if_pos rfl]
    induction ms with
    | nil => simp [insertMember]
    | cons p ms ih =>
      obtain ⟨k, w⟩ := p
      unfold insertMember
      split
      · exact List.lookup_cons_self
      · split
        · exact List.lookup_cons_self
        · rename_i hk
          rw [List.lookup_cons, beq_eq_false_iff_ne.2 hk, ih]
  · have hb := beq_eq_false_iff_ne.2 ho
    rw [if_neg ho]
    induction ms with
    | nil => simp [insertMember, List.lookup_cons, hb]
    | cons p ms ih =>
      obtain ⟨k, w⟩ := p
      unfold insertMember
      split
      · rw [List.lookup_cons, hb]
      · split
        · rename_i hk
          rw [List.lookup_cons, List.lookup_cons, ← hk, hb]
        · rw [List.lookup_cons, List.lookup_cons, ih]

end Value

/-! ### The compact text -/

/-- A character inside a JSON string. -/
def jsonChar (c : Char) : List Char :=
  if c = '"' then ['\\', '"']
  else if c = '\\' then ['\\', '\\']
  else if c = '\n' then ['\\', 'n']
  else if c = '\r' then ['\\', 'r']
  else if c = '\t' then ['\\', 't']
  else if c.toNat = 8 then ['\\', 'b']
  else if c.toNat = 12 then ['\\', 'f']
  else if c.toNat < 32 then
    ['\\', 'u', '0', '0', Nat.digitChar (c.toNat / 16), Nat.digitChar (c.toNat % 16)]
  else [c]

/-- A text as a JSON string, before `rest`. -/
def jsonString (s : String) (rest : List Char) : List Char :=
  '"' :: s.toList.foldr (fun c out => jsonChar c ++ out) ('"' :: rest)

namespace Value

/-- The text of a number that is no integer. -/
def floatText (x : Binary64) : String := x.render .document

mutual

/-- The compact text of a value, before `rest`. -/
def write : Value → List Char → List Char
  | .null, rest => "null".toList ++ rest
  | .bool b, rest => (if b then "true" else "false").toList ++ rest
  | .int n, rest => (toString n).toList ++ rest
  | .float x, rest => (floatText x).toList ++ rest
  | .text s, rest => jsonString s rest
  | .list items, rest => '[' :: writeItems items (']' :: rest)
  | .object ms, rest => '{' :: writeMembers ms ('}' :: rest)

/-- Items separated by commas, before `rest`. -/
def writeItems : List Value → List Char → List Char
  | [], rest => rest
  | v :: vs, rest => write v (writeMoreItems vs rest)

/-- Each further item after its comma. -/
def writeMoreItems : List Value → List Char → List Char
  | [], rest => rest
  | v :: vs, rest => ',' :: write v (writeMoreItems vs rest)

/-- Members separated by commas, before `rest`. -/
def writeMembers : List (String × Value) → List Char → List Char
  | [], rest => rest
  | (k, v) :: ms, rest => jsonString k (':' :: write v (writeMoreMembers ms rest))

/-- Each further member after its comma. -/
def writeMoreMembers : List (String × Value) → List Char → List Char
  | [], rest => rest
  | (k, v) :: ms, rest => ',' :: jsonString k (':' :: write v (writeMoreMembers ms rest))

end

/-- The compact text of a value. -/
def compact (v : Value) : String := String.ofList (write v [])

/-- The text under which a value is stored. -/
def stored : Value → String
  | .text s => s
  | .null => ""
  | v => compact v

end Value

end Sidecar

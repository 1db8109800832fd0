import Sidecar.Json.Pointer
import Sidecar.Json.Reader
import Sidecar.Probe.Config
import Sidecar.Storage.Error
import Sidecar.Text.Basic
import Sidecar.Text.Quoted
import Sidecar.Time.Span
import Sidecar.Value

/-!
# What is stored of an answer

`extract` turns the body of an answer into the value to store: the whole text, or the part of a
JSON document that a dotted path leads to (`Value.walk?`), perhaps turned into a text or a number
(`convert`).

`ProbeError` is why one attempt to probe an endpoint fails, for lack of a value or for another
reason; `message` puts it into words.
-/

namespace Sidecar

/-- A step from a value into one of its parts: the member of a key, or the item of an index. -/
def Value.part? (v : Value) (segment : String) : Option Value :=
  match v with
  | .object ms => ms.lookup segment
  | .list items => (readIndex? segment).bind fun i => items[i]?
  | _ => none
where
  /-- An index: digits, perhaps after a plus sign, below the limit of 64 bits. -/
  readIndex? (s : String) : Option Nat := do
    let n ← match s.toList with
      | '+' :: cs => readNatural 10 cs
      | cs => readNatural 10 cs
    if n < Nat.pow 2 64 then return n else none

/-- What a list of steps leads to. -/
def Value.walk? (v : Value) : List String → Option Value
  | [] => some v
  | s :: ss => (v.part? s).bind fun w => w.walk? ss

namespace Probe

/-- The steps of a dotted path; one leading `$.` does not count, and neither an empty path nor a
dollar sign takes a step. -/
def pathSteps (path : String) : List String :=
  let cs := match path.toList with
    | '$' :: '.' :: cs => cs
    | cs => cs
  if cs = [] ∨ cs = ['$'] then [] else (Pointer.splitChars '.' cs).map String.ofList

/-- What a dotted path leads to. -/
def lookup (document : Value) (path : String) : Option Value := document.walk? (pathSteps path)

/-- Why nothing can be extracted. -/
inductive ExtractError where
  /-- The body is no JSON document. -/
  | notJson
  | pathNotFound (path : String)
  | notInteger (text : String)
  | notNumber (text : String)
  deriving DecidableEq, Repr

/-- The error in words. -/
def ExtractError.message : ExtractError → String
  | .notJson => "invalid json: " ++ foreign
  | .pathNotFound path => "path not found: " ++ path
  | .notInteger text => quoted text ++ " is not an integer"
  | .notNumber text => quoted text ++ " is not a number"

/-- The least integer of 64 bits. -/
def minInteger : Int := -Int.pow 2 63

/-- The greatest integer of 64 bits. -/
def maxInteger : Int := Int.pow 2 63 - 1

/-- An integer of 64 bits. -/
def fitInteger? (n : Int) : Option Int := if minInteger ≤ n ∧ n ≤ maxInteger then some n else none

/-- The integer that a value is, if it is one. -/
def integer? : Value → Option Int
  | .int n => fitInteger? n
  | _ => none

/-- The double that a value is, if it is a number. -/
def float? : Value → Option Binary64
  | .int n => some (.ofInt n)
  | .float x => some x
  | _ => none

/-- Turn a value into one of a given type: a number as it is, else as its text reads. -/
def convert (v : Value) (type : FieldType) : Except ExtractError Value :=
  let text := v.stored
  match type with
  | .text => .ok (.text text)
  | .int =>
    match (integer? v).or ((readInteger 10 (trimBlank text).toList).bind fitInteger?) with
    | some n => .ok (.int n)
    | none => .error (.notInteger text)
  | .float =>
    match (float? v).or (readFloat (trimBlank text)) with
    | some x => .ok (Value.ofFloat x)
    | none => .error (.notNumber text)

/-- The JSON document of a body. -/
def document? (body : ByteArray) : Option Value := (String.fromUTF8? body).bind Json.parse

/-- The value to store for a body. -/
def extract (body : ByteArray) (path : Option PathConfig) : Except ExtractError Value :=
  match path with
  | none => .ok (.text (Utf8.lenient body))
  | some p =>
    match document? body with
    | none => .error .notJson
    | some doc =>
      match lookup doc p.path with
      | none => .error (.pathNotFound p.path)
      | some v =>
        match p.fieldType with
        | none => .ok v
        | some type => convert v type

end Probe

/-- Why a probe fails. -/
inductive ProbeError where
  /-- There is no request of such a method, address and headers. -/
  | invalidRequest
  /-- The request cannot be delivered. -/
  | request
  /-- There is no complete answer within the time limit. -/
  | timeout (limit : Span)
  /-- The answer breaks off. -/
  | brokenOff
  /-- The answer has another status than a good one. -/
  | unexpectedStatus (got expected : Nat) (body : String)
  | extract (why : Probe.ExtractError)
  | store (why : StorageError)
  deriving DecidableEq, Repr

/-- The error in words. -/
def ProbeError.message : ProbeError → String
  | .invalidRequest => "invalid request: " ++ foreign
  | .request => "request failed: " ++ foreign
  | .timeout limit => "request timed out after " ++ limit.debug
  | .brokenOff => "failed to read response body: " ++ foreign
  | .unexpectedStatus got expected body =>
    "unexpected status code: got " ++ toString got ++ ", expected " ++ toString expected ++
      ", body: " ++ body
  | .extract why => "failed to extract data: " ++ why.message
  | .store why => "failed to store data: " ++ why.message

end Sidecar

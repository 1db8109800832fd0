import Sidecar.Proofs.Node.Bounded
import Sidecar.Proofs.Probe.Conversion
import Sidecar.Proofs.Probe.Path

/-!
# The type of what is extracted

A document holds integers of 64 bits and finite doubles only, and so does every node of it
(`Value.Leads.sound`); as doubles these integers are finite too (`Binary64.isFinite_ofInt`).

* `Probe.type_of_extract` : **what is extracted has its field type**, except that a number is null where
  a text says that it is infinite or not a number.
-/

namespace Sidecar

variable {cs : List Char} {c : Char} {v w : Value} {n : Int} {x : Binary64} {s : String}

/-! ### Doubles -/

namespace Binary64

theorem exponentFor_le {num : Nat} (den : Nat) (small : num.log2 ≤ 64) :
    exponentFor num den ≤ 12 := by
  unfold exponentFor minExponent
  simp only
  split <;> split <;> omega

theorem isFinite_ofRatio {negative : Bool} {num den : Nat} (small : num.log2 ≤ 64) :
    (ofRatio negative num den).isFinite = true := by
  have exponent := exponentFor_le den small
  unfold ofRatio maxExponent
  simp only
  split
  · rfl
  · split
    · rw [if_neg (show ¬ 971 < exponentFor num den + 1 by omega)]
      rfl
    · rw [if_neg (show ¬ 971 < exponentFor num den by omega)]
      rfl

theorem isFinite_ofInt (least : -Int.pow 2 63 ≤ n) (most : n < Int.pow 2 64) :
    (ofInt n).isFinite = true := by
  have size : Int.pow 2 63 < Int.pow 2 64 := by decide
  have power : Int.pow 2 64 = (2 ^ 64 : Nat) := by decide
  have small : n.natAbs.log2 ≤ 64 := by
    by_cases zero : n.natAbs = 0
    · simp [zero]
    · have below := (Nat.log2_lt (k := 64) zero).2 (by omega)
      omega
  exact isFinite_ofRatio small

end Binary64

/-! ### What an extracted value is -/

theorem Value.Selects.sound (h : v.Selects s w) (sound : v.Sound) : w.Sound := by
  cases h with
  | member there =>
    obtain ⟨before, after, rfl, -⟩ := List.lookup_eq_some_iff.1 there
    cases sound with
    | object _ members => exact members (s, w) (List.mem_append_right _ List.mem_cons_self)
  | item _ there =>
    cases sound with
    | list items => exact items w (List.mem_of_getElem? there)

/-- Every node of a document is as sound as the whole. -/
theorem Value.Leads.sound {segments : List String} (h : v.Leads segments w) (sound : v.Sound) :
    w.Sound := by
  induction h with
  | here => exact sound
  | step selects _ ih => exact ih (selects.sound sound)

namespace Probe

variable {body : ByteArray} {path : String} {type : FieldType} {doc : Value}

/-- The values of a field type. -/
inductive HasType : FieldType → Value → Prop
  | text {s : String} : HasType .text (.text s)
  | int {i : Int} (fits : FitsInteger i) : HasType .int (.int i)
  | float {x : Binary64} (finite : x.isFinite = true) : HasType .float (.float x)

/-- A text that reads as an infinity or as not a number. -/
def ReadsNonFinite (s : String) : Prop := ∃ x, readFloat (trimBlank s) = some x ∧ x.isFinite = false

/-- A path to such a text in the document of a body. -/
def LeadsToNonFinite (body : ByteArray) (path : String) : Prop :=
  ∃ doc s, document? body = some doc ∧ lookup doc path = some (.text s) ∧ ReadsNonFinite s

theorem sound_of_document? (h : document? body = some doc) : doc.Sound := by
  obtain ⟨text, -, parsed⟩ := Option.bind_eq_some_iff.1 h
  simp only [Json.parse, Option.bind_eq_bind, Option.bind_eq_some_iff] at parsed
  obtain ⟨n, read, value⟩ := parsed
  exact (Json.bounded_read read).sound value

theorem sound_of_lookup (h : document? body = some doc) (found : lookup doc path = some v) :
    v.Sound :=
  (Value.walk?_eq_some_iff.1 found).sound (sound_of_document? h)

theorem readFloat_eq_none_of_cons (start : s.toList = c :: cs) (bracket : c = '[' ∨ c = '\x7b') :
    readFloat s = none := by
  unfold readFloat
  rw [start]
  rcases bracket with rfl | rfl <;>
    simp [readUnsignedFloat, isWord, readUnsignedDecimal, spanDigits]

theorem readFloat_stored_eq_none (notNumber : float? v = none) (notText : ∀ s, v ≠ .text s) :
    readFloat (trimBlank v.stored) = none := by
  have opened (c : Char) (cs : List Char) (bracket : c = '[' ∨ c = '\x7b')
      (start : v.stored.toList = c :: cs) :
      readFloat (trimBlank v.stored) = none := by
    have visible : isBlank c = false := by rcases bracket with rfl | rfl <;> decide
    obtain ⟨rest, trimmed⟩ := exists_trimBlankList_cons visible cs
    have trimmed : (trimBlank v.stored).toList = c :: rest := by
      rw [trimBlank, String.toList_ofList, start, trimmed]
    exact readFloat_eq_none_of_cons trimmed bracket
  cases v with
  | null => decide +kernel
  | bool b => cases b <;> decide +kernel
  | int n => cases notNumber
  | float x => cases notNumber
  | text s => exact absurd rfl (notText s)
  | list items => exact opened _ _ (.inl rfl) (String.toList_ofList ..)
  | object ms => exact opened _ _ (.inr rfl) (String.toList_ofList ..)

theorem isFinite_of_float? (sound : v.Sound) (h : float? v = some x) : x.isFinite = true := by
  cases sound with
  | int least most =>
    cases h
    exact Binary64.isFinite_ofInt least most
  | float finite =>
    cases h
    exact finite
  | _ => cases h

theorem convert_float_cases (sound : v.Sound) (h : convert v .float = .ok w) :
    HasType .float w ∨ w = .null ∧ ∃ s, v = .text s ∧ ReadsNonFinite s := by
  simp only [convert] at h
  split at h
  case h_2 => cases h
  rename_i x read
  cases h
  cases finite : x.isFinite with
  | true => exact .inl (by simpa [Value.ofFloat, finite] using HasType.float finite)
  | false =>
    refine .inr ⟨by simp [Value.ofFloat, finite], ?_⟩
    rcases Option.or_eq_some_iff.1 read with number | ⟨notNumber, read⟩
    · rw [isFinite_of_float? sound number] at finite
      cases finite
    · by_cases isText : ∃ s, v = .text s
      · obtain ⟨s, rfl⟩ := isText
        exact ⟨s, rfl, x, read, finite⟩
      · rw [readFloat_stored_eq_none notNumber fun s same => isText ⟨s, same⟩] at read
        cases read

theorem convert_eq_null (h : ReadsNonFinite s) : convert (.text s) .float = .ok .null := by
  obtain ⟨x, read, infinite⟩ := h
  simp [convert, float?, Value.stored, read, Value.ofFloat, infinite]

theorem convert_int_hasType (h : convert v .int = .ok w) : HasType .int w := by
  simp only [convert] at h
  split at h
  · rename_i i read
    cases h
    exact .int (integer?_or_eq_some_iff.1 read).2
  · cases h

theorem extract_eq_ok_iff : extract body (some ⟨path, some type⟩) = .ok v ↔
    ∃ doc w, document? body = some doc ∧ lookup doc path = some w ∧ convert w type = .ok v := by
  cases read : document? body with
  | none => simp [extract, read]
  | some doc => cases found : lookup doc path <;> simp [extract, read, found]

/-- **The type of what is extracted**: the field type says it, except that a number may be null.  It is
null exactly for a text of an infinity or of what is not a number. -/
theorem type_of_extract (body : ByteArray) (path : String) (type : FieldType) :
    (∀ v, extract body (some ⟨path, some type⟩) = .ok v →
      HasType type v ∨ type = .float ∧ v = .null) ∧
    (extract body (some ⟨path, some .float⟩) = .ok .null ↔ LeadsToNonFinite body path) := by
  constructor
  · intro v h
    obtain ⟨doc, w, read, found, converted⟩ := extract_eq_ok_iff.1 h
    cases type with
    | text =>
      cases converted
      exact .inl .text
    | int => exact .inl (convert_int_hasType converted)
    | float =>
      rcases convert_float_cases (sound_of_lookup read found) converted with typed | ⟨null, -⟩
      · exact .inl typed
      · exact .inr ⟨rfl, null⟩
  · rw [extract_eq_ok_iff]
    constructor
    · rintro ⟨doc, w, read, found, converted⟩
      rcases convert_float_cases (sound_of_lookup read found) converted with typed | ⟨-, null⟩
      · cases typed
      · obtain ⟨s, rfl, nonFinite⟩ := null
        exact ⟨doc, s, read, found, nonFinite⟩
    · rintro ⟨doc, s, read, found, nonFinite⟩
      exact ⟨doc, .text s, read, found, convert_eq_null nonFinite⟩

/-- The answer of an endpoint whose load is not a number. -/
def unknownLoad : ByteArray := "\x7b\"load\":\"NaN\"\x7d".toUTF8

/-- A number that is extracted need not be one. -/
theorem not_all_typed :
    ¬ ∀ (body : ByteArray) (path : String) (type : FieldType) (v : Value),
      extract body (some ⟨path, some type⟩) = .ok v → HasType type v := by
  intro all
  have kind : (extract unknownLoad (some ⟨"load", some .float⟩)).toOption.map Value.kind =
      some "null" := by
    decide +kernel
  cases extracted : extract unknownLoad (some ⟨"load", some .float⟩) with
  | error why =>
    rw [extracted] at kind
    cases kind
  | ok v =>
    rw [extracted] at kind
    cases all _ _ _ v extracted
    have same : "number" = "null" := Option.some.inj kind
    exact absurd same (by decide)

end Probe

end Sidecar

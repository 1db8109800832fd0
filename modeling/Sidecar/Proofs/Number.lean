import Mathlib.Data.List.Basic
import Mathlib.Data.Nat.Digits.Defs
import Mathlib.Tactic.Ring
import Sidecar.Number.Text

/-!
# Whole numbers as they are written

The digits of a natural in some base are read back as the natural (`readNatural_toDigits`).  They
are characters of that base, of which only the zero itself begins with a zero
(`head?_toDigits_ne`), and a reader that takes all digits stops where they end
(`takeWhile_append_of_stop`).

A numeral (`IsNumeral`) is one or more decimal digits, and denotes the number with these digits.  An
integer (`IsInteger`) may have a sign in front.  Reading accepts exactly these, and gives what they
denote (`readNatural_eq_some_iff`, `readInteger_eq_some_iff`).
-/

namespace Sidecar

/-! ### Digits -/

section Digits

variable {b d n : Nat} {c : Char} {cs ds es rest : List Char} {p : Char → Bool}

theorem digitValue_digitChar : ∀ d < 16, digitValue (Nat.digitChar d) = some d := by decide

theorem digitChar_eq_zero : ∀ d < 16, Nat.digitChar d = '0' → d = 0 := by decide

theorem exists_of_mem_toDigits (base : 1 < b) (mem : c ∈ Nat.toDigits b n) :
    ∃ d < b, c = Nat.digitChar d := by
  induction n using Nat.strongRecOn with
  | ind n ih =>
    rw [Nat.toDigits_eq_if base] at mem
    split at mem
    · exact ⟨n, by assumption, List.mem_singleton.1 mem⟩
    · rcases List.mem_append.1 mem with mem | mem
      · exact ih (n / b) (Nat.div_lt_self (by omega) base) mem
      · exact ⟨n % b, Nat.mod_lt n (by omega), List.mem_singleton.1 mem⟩

/-- Only zero begins with a zero. -/
theorem head?_toDigits_ne (base : 1 < b) (small : b ≤ 16) (h : n ≠ 0) :
    (Nat.toDigits b n).head? ≠ some '0' := by
  induction n using Nat.strongRecOn with
  | ind n ih =>
    rw [Nat.toDigits_eq_if base]
    split
    · intro same
      exact h (digitChar_eq_zero n (by omega) (Option.some.inj same))
    · have up : n / b ≠ 0 := by
        have := Nat.div_pos (show b ≤ n by omega) (by omega)
        omega
      rw [List.head?_append_of_ne_nil _ Nat.toDigits_ne_nil]
      exact ih (n / b) (Nat.div_lt_self (by omega) base) up

theorem readDigits_append :
    readDigits b n (ds ++ es) = (readDigits b n ds).bind fun m => readDigits b m es := by
  induction ds generalizing n with
  | nil => rfl
  | cons c ds ih =>
    simp only [List.cons_append, readDigits]
    split
    · split
      · exact ih
      · rfl
    · rfl

/-- **The digits of a natural are read back.** -/
theorem readDigits_toDigits (base : 1 < b) (small : b ≤ 16) :
    readDigits b 0 (Nat.toDigits b n) = some n := by
  have single (m d : Nat) (less : d < b) : readDigits b m [Nat.digitChar d] = some (m * b + d) := by
    simp [readDigits, digitValue_digitChar d (by omega), less]
  induction n using Nat.strongRecOn with
  | ind n ih =>
    rw [Nat.toDigits_eq_if base]
    split
    · rw [single 0 n (by assumption), Nat.zero_mul, Nat.zero_add]
    · rw [readDigits_append, ih (n / b) (Nat.div_lt_self (by omega) base), Option.bind_some,
        single _ _ (Nat.mod_lt n (by omega)), Nat.div_add_mod']

theorem readNatural_toDigits (base : 1 < b) (small : b ≤ 16) :
    readNatural b (Nat.toDigits b n) = some n := by
  have digits := readDigits_toDigits (n := n) base small
  unfold readNatural
  split
  · rename_i empty
    exact absurd empty Nat.toDigits_ne_nil
  · exact digits

/-! ### Where digits end -/

/-- Taking all digits stops at the first character that is none. -/
theorem takeWhile_append_of_stop (all : ∀ c ∈ ds, p c = true)
    (stop : ∀ c ∈ rest.head?, p c = false) : (ds ++ rest).takeWhile p = ds := by
  rw [List.takeWhile_append_of_pos all]
  cases rest with
  | nil => simp
  | cons c rest => simp [stop c rfl]

theorem dropWhile_append_of_stop (all : ∀ c ∈ ds, p c = true)
    (stop : ∀ c ∈ rest.head?, p c = false) : (ds ++ rest).dropWhile p = rest := by
  rw [List.dropWhile_append_of_pos all]
  cases rest with
  | nil => rfl
  | cons c rest => simp [stop c rfl]

theorem exists_stop (left : cs.dropWhile p ≠ []) :
    ∃ c rest, p c = false ∧ cs.takeWhile p ++ c :: rest = cs := by
  obtain ⟨c, rest, same⟩ := List.exists_cons_of_ne_nil left
  have stop := List.head_dropWhile_not p left
  simp only [same, List.head_cons] at stop
  exact ⟨c, rest, stop, by rw [← same, List.takeWhile_append_dropWhile]⟩

end Digits

/-! ### Whole numbers -/

section Whole

variable {cs ds : List Char} {c : Char} {d m n : Nat} {i : Int}

/-- The number that decimal digits denote, the last of them counting once. -/
def digitsValue (ds : List Char) : Nat := Nat.ofDigits 10 (ds.reverse.map fun c => c.toNat - '0'.toNat)

/-- One or more decimal digits, and the number they denote. -/
def IsNumeral (cs : List Char) (n : Nat) : Prop :=
  cs ≠ [] ∧ (∀ c ∈ cs, c.isDigit = true) ∧ digitsValue cs = n

/-- A numeral, perhaps with a sign in front, and the integer they denote. -/
inductive IsInteger : List Char → Int → Prop
  | unsigned {ds : List Char} {n : Nat} (numeral : IsNumeral ds n) : IsInteger ds n
  | plus {ds : List Char} {n : Nat} (numeral : IsNumeral ds n) : IsInteger ('+' :: ds) n
  | minus {ds : List Char} {n : Nat} (numeral : IsNumeral ds n) : IsInteger ('-' :: ds) (-n)

theorem digitsValue_cons :
    digitsValue (c :: ds) = (c.toNat - '0'.toNat) * 10 ^ ds.length + digitsValue ds := by
  simp [digitsValue, Nat.ofDigits_append, Nat.mul_comm, Nat.add_comm]

theorem isDigit_iff : c.isDigit = true ↔ 48 ≤ c.toNat ∧ c.toNat ≤ 57 := by
  simp only [Char.isDigit, Bool.and_eq_true, decide_eq_true_eq, UInt32.le_iff_toNat_le]
  rfl

theorem digitValue_of_isDigit (h : c.isDigit = true) : digitValue c = some (c.toNat - '0'.toNat) := by
  simp only [Char.isDigit, Bool.and_eq_true, decide_eq_true_eq] at h
  exact if_pos ⟨h.1, h.2⟩

theorem isDigit_of_digitValue (h : digitValue c = some d) (less : d < 10) : c.isDigit = true := by
  unfold digitValue at h
  split at h
  · rename_i digit
    simp only [Char.isDigit, Bool.and_eq_true, decide_eq_true_eq]
    exact digit
  · split at h
    · cases h
      omega
    · split at h
      · cases h
        omega
      · cases h

theorem readDigits_eq_some_iff : readDigits 10 n ds = some m ↔
    (∀ c ∈ ds, c.isDigit = true) ∧ n * 10 ^ ds.length + digitsValue ds = m := by
  induction ds generalizing n with
  | nil => simp [readDigits, digitsValue]
  | cons c ds ih =>
    by_cases digit : c.isDigit = true
    · have small : c.toNat - '0'.toNat < 10 := by
        have := isDigit_iff.1 digit
        have : '0'.toNat = 48 := rfl
        omega
      have value : (n * 10 + (c.toNat - '0'.toNat)) * 10 ^ ds.length + digitsValue ds =
          n * 10 ^ (c :: ds).length + digitsValue (c :: ds) := by
        rw [digitsValue_cons, List.length_cons]
        ring
      simp only [readDigits, digitValue_of_isDigit digit, small, if_true, ih, value,
        List.forall_mem_cons, digit, true_and]
    · have refused : readDigits 10 n (c :: ds) = none := by
        simp only [readDigits]
        split
        · rename_i d value
          exact if_neg fun less => digit (isDigit_of_digitValue value less)
        · rfl
      simp [refused, digit]

/-- **A natural number is read from its numerals, and from nothing else.** -/
theorem readNatural_eq_some_iff : readNatural 10 cs = some n ↔ IsNumeral cs n := by
  cases cs with
  | nil => simp [readNatural, IsNumeral]
  | cons c cs => simp [readNatural, readDigits_eq_some_iff, IsNumeral]

theorem IsNumeral.exists_cons (h : IsNumeral cs n) :
    ∃ c ds, cs = c :: ds ∧ c.isDigit = true := by
  obtain ⟨some, digits, -⟩ := h
  obtain ⟨c, ds, rfl⟩ := List.exists_cons_of_ne_nil some
  exact ⟨c, ds, rfl, digits c List.mem_cons_self⟩

/-- **An integer is read from a numeral, perhaps with a sign, and from nothing else.** -/
theorem readInteger_eq_some_iff : readInteger 10 cs = some i ↔ IsInteger cs i := by
  constructor
  · intro h
    unfold readInteger at h
    split at h
    · obtain ⟨n, read, rfl⟩ := Option.map_eq_some_iff.1 h
      exact .plus (readNatural_eq_some_iff.1 read)
    · rename_i ds
      obtain ⟨n, read, rfl⟩ : ∃ n : Nat, readNatural 10 ds = some n ∧ -(n : Int) = i := by
        simpa [Option.bind_eq_some_iff] using h
      exact .minus (readNatural_eq_some_iff.1 read)
    · obtain ⟨n, read, rfl⟩ := Option.map_eq_some_iff.1 h
      exact .unsigned (readNatural_eq_some_iff.1 read)
  · rintro (numeral | numeral | numeral)
    · have read := readNatural_eq_some_iff.2 numeral
      obtain ⟨c, ds, rfl, digit⟩ := numeral.exists_cons
      unfold readInteger
      split
      · rename_i same
        cases same
        exact absurd digit (by decide)
      · rename_i same
        cases same
        exact absurd digit (by decide)
      · rw [read]
        rfl
    · simp [readInteger, readNatural_eq_some_iff.2 numeral]
    · simp [readInteger, readNatural_eq_some_iff.2 numeral]

theorem IsInteger.char (h : IsInteger cs i) (mem : c ∈ cs) :
    c.isDigit = true ∨ c = '+' ∨ c = '-' := by
  cases h with
  | unsigned numeral => exact .inl (numeral.2.1 c mem)
  | plus numeral =>
    rcases List.mem_cons.1 mem with rfl | mem
    · exact .inr (.inl rfl)
    · exact .inl (numeral.2.1 c mem)
  | minus numeral =>
    rcases List.mem_cons.1 mem with rfl | mem
    · exact .inr (.inr rfl)
    · exact .inl (numeral.2.1 c mem)

theorem isNumeral_toDigits : IsNumeral (Nat.toDigits 10 n) n :=
  readNatural_eq_some_iff.1 (readNatural_toDigits (by decide) (by decide))

end Whole

end Sidecar

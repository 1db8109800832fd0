import Sidecar.Json.Reader
import Sidecar.Proofs.Number

/-!
# Compact texts that are read back

The compact text of a value is read back as the tree of the value (`Json.Legible.read_compact`),
provided that it holds integers of 64 bits only and no doubles, that all of it is looked at, and
that it does not nest deeper than what is looked at may (`Json.Legible`).

A reading takes no more steps than its text has characters, so the fuel that a whole text comes
with is enough.
-/

namespace Sidecar.Json

variable {c : Char} {cs ds sofar rest : List Char} {s key : String} {n : Nat} {i : Int}
  {fuel depth : Nat} {shape : Shape} {v : Value} {vs : List Value} {ms : List (String × Value)}

/-! ### Texts that go on -/

theorem jsonString_eq : jsonString s rest = '"' :: (s.toList.flatMap jsonChar ++ '"' :: rest) := by
  have chars (cs out : List Char) :
      cs.foldr (fun c out => jsonChar c ++ out) out = cs.flatMap jsonChar ++ out := by
    induction cs with
    | nil => rfl
    | cons c cs ih => simp [ih]
  rw [jsonString, chars]

mutual

theorem write_eq_append : ∀ (v : Value) (rest : List Char), v.write rest = v.write [] ++ rest
  | .null, rest | .bool _, rest | .int _, rest | .float _, rest => by simp [Value.write]
  | .text s, rest => by simp [Value.write, jsonString_eq]
  | .list vs, rest => by
    simp [Value.write, writeItems_eq_append vs (_ :: rest), writeItems_eq_append vs [_]]
  | .object ms, rest => by
    simp [Value.write, writeMembers_eq_append ms (_ :: rest), writeMembers_eq_append ms [_]]

theorem writeItems_eq_append : ∀ (vs : List Value) (rest : List Char),
    Value.writeItems vs rest = Value.writeItems vs [] ++ rest
  | [], rest => rfl
  | v :: vs, rest => by
    rw [Value.writeItems, Value.writeItems, writeMoreItems_eq_append vs rest,
      write_eq_append v (_ ++ _), write_eq_append v (Value.writeMoreItems vs []), List.append_assoc]

theorem writeMoreItems_eq_append : ∀ (vs : List Value) (rest : List Char),
    Value.writeMoreItems vs rest = Value.writeMoreItems vs [] ++ rest
  | [], rest => rfl
  | v :: vs, rest => by
    rw [Value.writeMoreItems, Value.writeMoreItems, writeMoreItems_eq_append vs rest,
      write_eq_append v (_ ++ _), write_eq_append v (Value.writeMoreItems vs []), List.cons_append,
      List.append_assoc]

theorem writeMembers_eq_append : ∀ (ms : List (String × Value)) (rest : List Char),
    Value.writeMembers ms rest = Value.writeMembers ms [] ++ rest
  | [], rest => rfl
  | (k, v) :: ms, rest => by
    rw [Value.writeMembers, Value.writeMembers, writeMoreMembers_eq_append ms rest,
      write_eq_append v (_ ++ _), write_eq_append v (Value.writeMoreMembers ms [])]
    simp [jsonString_eq]

theorem writeMoreMembers_eq_append : ∀ (ms : List (String × Value)) (rest : List Char),
    Value.writeMoreMembers ms rest = Value.writeMoreMembers ms [] ++ rest
  | [], rest => rfl
  | (k, v) :: ms, rest => by
    rw [Value.writeMoreMembers, Value.writeMoreMembers, writeMoreMembers_eq_append ms rest,
      write_eq_append v (_ ++ _), write_eq_append v (Value.writeMoreMembers ms [])]
    simp [jsonString_eq]

end

/-- What may stand after a value in a document: its end, or that of the item or member. -/
def Closed (rest : List Char) : Prop := ∀ c ∈ rest.head?, c = ',' ∨ c = ']' ∨ c = '}'

/-! ### Strings -/

theorem numberedEscape_control (control : c.toNat < 32) :
    numberedEscape ('0' :: '0' :: Nat.digitChar (c.toNat / 16) :: Nat.digitChar (c.toNat % 16) ::
      cs) = some (c, cs) := by
  have zero : digitValue '0' = some 0 := by decide
  have high := digitValue_digitChar (c.toNat / 16) (by omega)
  have low := digitValue_digitChar (c.toNat % 16) (by omega)
  have number : c.toNat / 16 * 16 + c.toNat % 16 = c.toNat := Nat.div_add_mod' _ _
  simp [numberedEscape, hex4, zero, high, low, number, Char.ofNat_toNat]
  omega

theorem readString_jsonChar :
    readString (fuel + 1) sofar (jsonChar c ++ cs) = readString fuel (c :: sofar) cs := by
  have named {d : Char} (same : c.toNat = d.toNat) : c = d := Char.toNat_inj.1 same
  unfold jsonChar
  split
  · simp [readString, letterEscape, *]
  split
  · simp [readString, letterEscape, *]
  split
  · simp [readString, letterEscape, *]
  split
  · simp [readString, letterEscape, *]
  split
  · simp [readString, letterEscape, *]
  split
  · rename_i value
    simp [readString, letterEscape, @named '\x08' value]
  split
  · rename_i value
    simp [readString, letterEscape, @named '\x0c' value]
  split
  · rename_i control
    simp [readString, numberedEscape_control control]
  · simp [readString, *]

theorem jsonChar_ne_nil : jsonChar c ≠ [] := by
  unfold jsonChar
  repeat' split
  all_goals nofun

/-- **A string is read back.** -/
theorem readString_flatMap (enough : (ds.flatMap jsonChar).length < fuel) :
    readString fuel sofar (ds.flatMap jsonChar ++ '"' :: rest) =
      some (String.ofList (sofar.reverse ++ ds), rest) := by
  induction ds generalizing fuel sofar with
  | nil =>
    obtain ⟨fuel, rfl⟩ := Nat.exists_eq_succ_of_ne_zero (Nat.ne_of_gt (Nat.zero_lt_of_lt enough))
    simp [readString]
  | cons c ds ih =>
    obtain ⟨fuel, rfl⟩ := Nat.exists_eq_succ_of_ne_zero (Nat.ne_of_gt (Nat.zero_lt_of_lt enough))
    rw [List.flatMap_cons, List.length_append] at enough
    have some := List.length_pos_iff.2 (@jsonChar_ne_nil c)
    rw [List.flatMap_cons, List.append_assoc, readString_jsonChar, ih (by omega)]
    simp

theorem readString_whole :
    readString ((s.toList.flatMap jsonChar ++ '"' :: rest).length + 1) []
      (s.toList.flatMap jsonChar ++ '"' :: rest) = some (s, rest) := by
  have enough : (s.toList.flatMap jsonChar).length <
      (s.toList.flatMap jsonChar ++ '"' :: rest).length + 1 := by
    rw [List.length_append]
    omega
  rw [readString_flatMap enough]
  simp

/-! ### Integers -/

theorem isDigit_of_mem_toDigits (mem : c ∈ Nat.toDigits 10 n) : c.isDigit = true := by
  obtain ⟨d, less, rfl⟩ := exists_of_mem_toDigits (by decide) mem
  exact (by decide : ∀ d < 10, (Nat.digitChar d).isDigit = true) d less

theorem Closed.isDigit_eq_false (closed : Closed rest) : ∀ c ∈ rest.head?, c.isDigit = false := by
  intro c mem
  rcases closed c mem with rfl | rfl | rfl <;> decide

theorem someDigits_toDigits (closed : Closed rest) :
    someDigits (Nat.toDigits 10 n ++ rest) = some (Nat.toDigits 10 n, rest) := by
  have digits : ∀ c ∈ Nat.toDigits 10 n, c.isDigit = true := fun _ => isDigit_of_mem_toDigits
  have span : spanDigits (Nat.toDigits 10 n ++ rest) = (Nat.toDigits 10 n, rest) := by
    rw [spanDigits, takeWhile_append_of_stop digits closed.isDigit_eq_false,
      dropWhile_append_of_stop digits closed.isDigit_eq_false]
  rw [someDigits, span]
  cases written : Nat.toDigits 10 n with
  | nil => exact absurd written Nat.toDigits_ne_nil
  | cons c ds => rfl

theorem wholeDigits_toDigits (closed : Closed rest) :
    wholeDigits (Nat.toDigits 10 n ++ rest) = some (Nat.toDigits 10 n, rest) := by
  by_cases zero : n = 0
  · subst zero
    cases rest with
    | nil => rfl
    | cons c rest => simp [wholeDigits, closed.isDigit_eq_false c rfl]
  · have lead := head?_toDigits_ne (b := 10) (by decide) (by decide) zero
    have digits := someDigits_toDigits (n := n) closed
    cases written : Nat.toDigits 10 n with
    | nil => exact absurd written Nat.toDigits_ne_nil
    | cons c ds =>
      rw [written] at lead digits
      have : c ≠ '0' := fun same => lead (congrArg some same)
      rw [List.cons_append] at digits ⊢
      simp [wholeDigits, this, digits]

theorem exists_toDigits_cons : ∃ d < 10, ∃ ds, Nat.toDigits 10 n = Nat.digitChar d :: ds := by
  cases written : Nat.toDigits 10 n with
  | nil => exact absurd written Nat.toDigits_ne_nil
  | cons c ds =>
    obtain ⟨d, less, rfl⟩ := exists_of_mem_toDigits (b := 10) (n := n) (by decide)
      (written ▸ List.mem_cons_self)
    exact ⟨d, less, ds, rfl⟩

theorem numeral?_toDigits (closed : Closed rest) :
    numeral? (Nat.toDigits 10 n ++ rest) = some (⟨false, Nat.toDigits 10 n, none, none⟩, rest) ∧
    numeral? ('-' :: (Nat.toDigits 10 n ++ rest)) =
      some (⟨true, Nat.toDigits 10 n, none, none⟩, rest) := by
  have whole := wholeDigits_toDigits (n := n) closed
  obtain ⟨d, less, ds, digits⟩ := exists_toDigits_cons (n := n)
  have noSign := (by decide : ∀ d < 10, Nat.digitChar d ≠ '-') d less
  rw [digits, List.cons_append] at whole ⊢
  cases rest with
  | nil =>
    rw [List.append_nil] at whole ⊢
    simp [numeral?, whole, noSign]
  | cons e rest => rcases closed e rfl with rfl | rfl | rfl <;> simp [numeral?, whole, noSign]

theorem node?_plain (small : n ≤ maxSignificand) :
    (⟨false, Nat.toDigits 10 n, none, none⟩ : Numeral).node? = some (.int n) := by
  simp [Numeral.node?, readDigits_toDigits, small]

theorem node?_minus (some : n ≠ 0) (small : n ≤ Nat.pow 2 63) :
    (⟨true, Nat.toDigits 10 n, none, none⟩ : Numeral).node? = .some (.int (-n)) := by
  simp [Numeral.node?, readDigits_toDigits, some, small]

theorem toList_toString_int :
    (toString i).toList = if i < 0 then '-' :: Nat.toDigits 10 i.natAbs
      else Nat.toDigits 10 i.natAbs := by
  cases i with
  | ofNat n =>
    change (toString n).toList = _
    simp
  | negSucc n =>
    change ("-" ++ toString (n + 1)).toList = _
    simp

theorem exists_int_cons : ∃ c cs, (toString i).toList = c :: cs ∧ isSpace c = false ∧
    c ∉ [']', '"', '[', '{', 'n', 't', 'f'] := by
  rw [toList_toString_int]
  split
  · exact ⟨_, _, rfl, by decide⟩
  · obtain ⟨d, less, ds, digits⟩ := exists_toDigits_cons (n := i.natAbs)
    refine ⟨_, ds, digits, ?_⟩
    exact (by decide : ∀ d < 10, isSpace (Nat.digitChar d) = false ∧
      Nat.digitChar d ∉ [']', '"', '[', '{', 'n', 't', 'f']) d less

/-- **An integer is read back** if it fits 64 bits. -/
theorem readScalar_int (least : -Int.pow 2 63 ≤ i) (most : i < Int.pow 2 64)
    (closed : Closed rest) : readScalar ((toString i).toList ++ rest) = some (.int i, rest) := by
  have ⟨plain, minus⟩ := numeral?_toDigits (n := i.natAbs) closed
  obtain ⟨c, cs, written, -, noWord⟩ := @exists_int_cons i
  have number : readScalar ((toString i).toList ++ rest) =
      (numeral? ((toString i).toList ++ rest)).bind fun p =>
        p.1.node?.bind fun v => some (v, p.2) := by
    rw [written, List.cons_append, readScalar]
    · rfl
    all_goals
      rintro cs ⟨⟩
      simp at noWord
  rw [number, toList_toString_int]
  split
  · have size : i.natAbs ≠ 0 ∧ i.natAbs ≤ Nat.pow 2 63 ∧ -(i.natAbs : Int) = i := by
      have : -(9223372036854775808 : Int) ≤ i := least
      have : Nat.pow 2 63 = 9223372036854775808 := by decide
      omega
    rw [List.cons_append, minus, Option.bind_some, node?_minus size.1 size.2.1, Option.bind_some,
      size.2.2]
  · have size : i.natAbs ≤ maxSignificand ∧ (i.natAbs : Int) = i := by
      have : i < (18446744073709551616 : Int) := most
      have : maxSignificand = 18446744073709551615 := by decide
      omega
    rw [plain, Option.bind_some, node?_plain size.1, Option.bind_some, size.2]

/-! ### Values -/

/-- A value that is read back from its compact text: it holds integers of 64 bits only and no
doubles, all of it is looked at, and it nests at most `depth` deep. -/
inductive Legible : Shape → (depth : Nat) → Value → Prop
  | null {shape : Shape} {depth : Nat} : Legible shape depth .null
  | bool {shape : Shape} {depth : Nat} {b : Bool} : Legible shape depth (.bool b)
  | int {shape : Shape} {depth : Nat} {i : Int} (least : -Int.pow 2 63 ≤ i)
      (most : i < Int.pow 2 64) : Legible shape depth (.int i)
  | text {shape : Shape} {depth : Nat} {s : String} : Legible shape depth (.text s)
  | list {shape : Shape} {depth : Nat} {vs : List Value} (free : shape.items = [])
      (items : ∀ v ∈ vs, Legible .any depth v) : Legible shape (depth + 1) (.list vs)
  | object {shape : Shape} {depth : Nat} {ms : List (String × Value)}
      (looked : ∀ p ∈ ms, (shape.field? p.1).isSome = true)
      (members : ∀ p ∈ ms, ∀ t, shape.field? p.1 = some t → Legible t depth p.2) :
      Legible shape (depth + 1) (.object ms)

theorem Legible.ofMembers {ms : List (String × Value)} {depth : Nat}
    (h : ∀ p ∈ ms, Legible .any depth p.2) : Legible .any (depth + 1) (.object ms) := by
  refine .object (fun _ _ => rfl) ?_
  rintro p mem _ ⟨⟩
  exact h p mem

/-- A value is read back wherever it may stand.  It begins neither with a blank nor with the
bracket that closes an empty list. -/
structure Reads (shape : Shape) (depth : Nat) (v : Value) : Prop where
  begins : ∃ c cs, v.write [] = c :: cs ∧ isSpace c = false ∧ c ≠ ']'
  read : ∀ ⦃fuel : Nat⦄ ⦃rest : List Char⦄, Closed rest → (v.write []).length ≤ fuel →
    readValue fuel depth shape (v.write rest) = some (Node.ofValue v, rest)

theorem closed_comma : Closed (',' :: cs) := by
  rintro _ ⟨⟩
  simp

theorem closed_bracket : Closed (']' :: cs) := by
  rintro _ ⟨⟩
  simp

theorem closed_brace : Closed ('}' :: cs) := by
  rintro _ ⟨⟩
  simp

theorem exists_fuel (some : ∃ c ds, cs = c :: ds) (enough : cs.length ≤ fuel) :
    ∃ k, fuel = k + 1 := by
  obtain ⟨c, ds, rfl⟩ := some
  exact Nat.exists_eq_add_of_le' (Nat.le_trans (Nat.le_add_left 1 _) enough)

theorem skipSpace_cons (h : isSpace c = false) : skipSpace (c :: cs) = c :: cs := by
  simp [skipSpace, h]

theorem Reads.exists_write_cons (reads : Reads shape depth v) (rest : List Char) :
    ∃ c cs, v.write rest = c :: cs ∧ isSpace c = false ∧ c ≠ ']' := by
  obtain ⟨c, cs, written, noBlank⟩ := reads.begins
  exact ⟨c, cs ++ rest, by rw [write_eq_append, written, List.cons_append], noBlank⟩

theorem Reads.skipSpace_write (reads : Reads shape depth v) (rest : List Char) :
    skipSpace (v.write rest) = v.write rest := by
  obtain ⟨c, cs, written, noBlank, -⟩ := reads.exists_write_cons rest
  rw [written, skipSpace_cons noBlank]

theorem readItems_last (reads : Reads .any depth v) (enough : (v.write []).length ≤ fuel) :
    readItems (fuel + 1) depth [] (v.write (']' :: rest)) = some ([Node.ofValue v], rest) := by
  have own := reads.read (@closed_bracket rest) enough
  simp [readItems, own, skipSpace_cons (show isSpace ']' = false by decide)]

theorem readItems_more {ns : List Node} (reads : Reads .any depth v)
    (enough : (v.write []).length ≤ fuel)
    (others : readItems fuel depth [] (skipSpace cs) = some (ns, rest)) :
    readItems (fuel + 1) depth [] (v.write (',' :: cs)) = some (Node.ofValue v :: ns, rest) := by
  have own := reads.read (@closed_comma cs) enough
  simp [readItems, own, skipSpace_cons (show isSpace ',' = false by decide), others]

/-- **Items are read back**, one after another. -/
theorem readItems_write (rest : List Char) (reads : ∀ w ∈ v :: vs, Reads .any depth w)
    (enough : (Value.writeItems (v :: vs) []).length < fuel) :
    readItems fuel depth [] (Value.writeItems (v :: vs) (']' :: rest)) =
      some (Node.ofItems (v :: vs), rest) := by
  induction vs generalizing v fuel with
  | nil =>
    obtain ⟨fuel, rfl⟩ := Nat.exists_eq_succ_of_ne_zero (Nat.ne_of_gt (Nat.zero_lt_of_lt enough))
    exact readItems_last (reads v List.mem_cons_self) (Nat.le_of_lt_succ enough)
  | cons w vs ih =>
    obtain ⟨fuel, rfl⟩ := Nat.exists_eq_succ_of_ne_zero (Nat.ne_of_gt (Nat.zero_lt_of_lt enough))
    obtain ⟨own, others⟩ := List.forall_mem_cons.1 reads
    have text (rest : List Char) : Value.writeItems (v :: w :: vs) rest =
        v.write (',' :: Value.writeItems (w :: vs) rest) := rfl
    rw [text] at enough ⊢
    rw [write_eq_append, List.length_append, List.length_cons] at enough
    refine readItems_more own (by omega) ?_
    rw [Value.writeItems, (others w List.mem_cons_self).skipSpace_write, ← Value.writeItems]
    exact ih others (by omega)

theorem readMembers_last {t : Shape} (field : shape.field? key = some t) (reads : Reads t depth v)
    (enough : (v.write []).length ≤ fuel) :
    readMembers (fuel + 1) depth shape (jsonString key (':' :: v.write ('}' :: rest))) =
      some ([(.text key, Node.ofValue v)], rest) := by
  have own := reads.read (@closed_brace rest) enough
  rw [jsonString_eq, readMembers, readString_whole]
  simp [skipSpace_cons (show isSpace ':' = false by decide), field, reads.skipSpace_write, own,
    skipSpace_cons (show isSpace '}' = false by decide)]

theorem readMembers_more {t : Shape} {es : List (Node × Node)} (field : shape.field? key = some t)
    (reads : Reads t depth v) (enough : (v.write []).length ≤ fuel)
    (others : readMembers fuel depth shape (skipSpace cs) = some (es, rest)) :
    readMembers (fuel + 1) depth shape (jsonString key (':' :: v.write (',' :: cs))) =
      some ((.text key, Node.ofValue v) :: es, rest) := by
  have own := reads.read (@closed_comma cs) enough
  rw [jsonString_eq, readMembers, readString_whole]
  simp [skipSpace_cons (show isSpace ':' = false by decide), field, reads.skipSpace_write, own,
    skipSpace_cons (show isSpace ',' = false by decide), others]

theorem length_lt_jsonString : rest.length < (jsonString s rest).length := by
  rw [jsonString_eq, List.length_cons, List.length_append, List.length_cons]
  omega

/-- **Members are read back**, one after another. -/
theorem readMembers_write (rest : List Char)
    (looked : ∀ p ∈ (key, v) :: ms, (shape.field? p.1).isSome = true)
    (reads : ∀ p ∈ (key, v) :: ms, ∀ t, shape.field? p.1 = some t → Reads t depth p.2)
    (enough : (Value.writeMembers ((key, v) :: ms) []).length < fuel) :
    readMembers fuel depth shape (Value.writeMembers ((key, v) :: ms) ('}' :: rest)) =
      some (Node.ofMembers ((key, v) :: ms), rest) := by
  induction ms generalizing key v fuel with
  | nil =>
    obtain ⟨fuel, rfl⟩ := Nat.exists_eq_succ_of_ne_zero (Nat.ne_of_gt (Nat.zero_lt_of_lt enough))
    obtain ⟨t, field⟩ := Option.isSome_iff_exists.1 (looked (key, v) List.mem_cons_self)
    have text (rest : List Char) : Value.writeMembers [(key, v)] rest =
        jsonString key (':' :: v.write rest) := rfl
    have long := @length_lt_jsonString (':' :: v.write []) key
    rw [text] at enough ⊢
    rw [List.length_cons] at long
    exact readMembers_last field (reads (key, v) List.mem_cons_self t field) (by omega)
  | cons p ms ih =>
    obtain ⟨k, w⟩ := p
    obtain ⟨fuel, rfl⟩ := Nat.exists_eq_succ_of_ne_zero (Nat.ne_of_gt (Nat.zero_lt_of_lt enough))
    obtain ⟨t, field⟩ := Option.isSome_iff_exists.1 (looked (key, v) List.mem_cons_self)
    have text (rest : List Char) : Value.writeMembers ((key, v) :: (k, w) :: ms) rest =
        jsonString key (':' :: v.write (',' :: Value.writeMembers ((k, w) :: ms) rest)) := rfl
    have long := @length_lt_jsonString
      (':' :: (v.write [] ++ ',' :: Value.writeMembers ((k, w) :: ms) [])) key
    rw [text] at enough ⊢
    rw [write_eq_append] at enough
    rw [List.length_cons, List.length_append, List.length_cons] at long
    have start : skipSpace (Value.writeMembers ((k, w) :: ms) ('}' :: rest)) =
        Value.writeMembers ((k, w) :: ms) ('}' :: rest) := by
      rw [Value.writeMembers, jsonString_eq, skipSpace_cons (by decide)]
    refine readMembers_more field (reads (key, v) List.mem_cons_self t field) (by omega) ?_
    rw [start]
    exact ih (List.forall_mem_cons.1 looked).2 (List.forall_mem_cons.1 reads).2 (by omega)

/-- **A value is read back from its compact text.** -/
theorem Legible.reads (h : Legible shape depth v) : Reads shape depth v := by
  induction h with
  | null =>
    refine ⟨⟨_, _, rfl, by decide⟩, fun fuel rest closed enough => ?_⟩
    obtain ⟨fuel, rfl⟩ := exists_fuel ⟨_, _, rfl⟩ enough
    rfl
  | @bool shape depth b =>
    cases b <;>
    · refine ⟨⟨_, _, rfl, by decide⟩, fun fuel rest closed enough => ?_⟩
      obtain ⟨fuel, rfl⟩ := exists_fuel ⟨_, _, rfl⟩ enough
      rfl
  | @int shape depth i least most =>
    obtain ⟨c, cs, written, noBlank, other⟩ := @exists_int_cons i
    have text : (Value.int i).write [] = c :: cs := by rw [Value.write, written, List.append_nil]
    refine ⟨⟨c, cs, text, noBlank, by rintro rfl; simp at other⟩,
      fun fuel rest closed enough => ?_⟩
    obtain ⟨fuel, rfl⟩ := exists_fuel ⟨c, cs, text⟩ enough
    have read := readScalar_int least most closed
    rw [Value.write]
    rw [written, List.cons_append] at read ⊢
    rw [readValue]
    · exact read
    all_goals
      rintro cs ⟨⟩
      simp at other
  | @text shape depth s =>
    refine ⟨⟨_, _, jsonString_eq, by decide⟩, fun fuel rest closed enough => ?_⟩
    obtain ⟨fuel, rfl⟩ := exists_fuel ⟨_, _, jsonString_eq⟩ enough
    rw [Value.write, jsonString_eq, readValue, readString_whole]
    rfl
  | @list shape depth vs free items ih =>
    refine ⟨⟨_, _, rfl, by decide⟩, fun fuel rest closed enough => ?_⟩
    obtain ⟨fuel, rfl⟩ := exists_fuel ⟨_, _, rfl⟩ enough
    rw [Value.write, List.length_cons, writeItems_eq_append, List.length_append,
      List.length_singleton] at enough
    cases vs with
    | nil => rfl
    | cons v vs =>
      have read := readItems_write rest ih (by omega : _ < fuel)
      obtain ⟨c, cs, written, noBlank, noBracket⟩ :=
        (ih v List.mem_cons_self).exists_write_cons (Value.writeMoreItems vs (']' :: rest))
      rw [Value.writeItems, written] at read
      rw [Value.write, Value.writeItems, written, readValue]
      simp [skipSpace_cons noBlank, noBracket, free, read, Node.ofValue]
  | @object shape depth ms looked members ih =>
    refine ⟨⟨_, _, rfl, by decide⟩, fun fuel rest closed enough => ?_⟩
    obtain ⟨fuel, rfl⟩ := exists_fuel ⟨_, _, rfl⟩ enough
    rw [Value.write, List.length_cons, writeMembers_eq_append, List.length_append,
      List.length_singleton] at enough
    cases ms with
    | nil => rfl
    | cons p ms =>
      obtain ⟨k, v⟩ := p
      have read := readMembers_write rest looked ih (by omega : _ < fuel)
      rw [Value.writeMembers, jsonString_eq] at read
      rw [Value.write, Value.writeMembers, jsonString_eq, readValue]
      simp [skipSpace_cons (show isSpace '"' = false by decide), read, Node.ofValue]

/-- **A whole text is read back.** -/
theorem Legible.read_compact (h : Legible shape maxDepth v) :
    Json.read shape v.compact = some (Node.ofValue v) := by
  have closed : Closed [] := nofun
  have value := h.reads.read closed (Nat.le_add_right _ 1)
  simp only [Json.read, Value.compact, String.toList_ofList, h.reads.skipSpace_write, value]
  rfl

end Sidecar.Json

import Sidecar.Proofs.Number
import Sidecar.Time.Span

/-!
# Spans that are read back

A span is written as a sum: counts of units, none of them zero (`Span.parts`).  Reading adds the
counts up again, and no sum on the way is more than the span itself.

* `Span.parseItems_line` : a line of counts is read as what was there before and their sum;
* `Span.nanos_parts` : the counts of a span sum up to the span;
* `Span.parse_render` : **a span is read back from its text**;
* `Span.lt_of_parse` : a span that is read is below the limit.
-/

namespace Sidecar.Span

/-- The nanoseconds of a unit. -/
def Unit.nanos (u : Unit) : Nat := u.size.elim id (· * perSecond)

/-- The name under which one of a unit is written, or any other number of them. -/
def Unit.written (u : Unit) (single : Bool) : String :=
  match u with
  | .nanosecond => "ns"
  | .microsecond => "us"
  | .millisecond => "ms"
  | .second => "s"
  | .minute => "m"
  | .hour => "h"
  | .day => if single then "day" else "days"
  | .week => if single then "week" else "weeks"
  | .month => if single then "month" else "months"
  | .year => if single then "year" else "years"

/-- A count of a unit as it is written. -/
def partText (p : Nat × Unit) : String := toString p.1 ++ p.2.written (p.1 == 1)

/-- How often each unit goes into a span, from years to nanoseconds. -/
def counts (s : Span) : List (Nat × Unit) :=
  let inYear := s.seconds % yearSeconds
  let inMonth := inYear % monthSeconds
  let inDay := inMonth % daySeconds
  let sub := s.subsecond
  [(s.seconds / yearSeconds, .year), (inYear / monthSeconds, .month), (inMonth / daySeconds, .day),
    (inDay / 3600, .hour), (inDay % 3600 / 60, .minute), (inDay % 60, .second),
    (sub / 1000000, .millisecond), (sub / 1000 % 1000, .microsecond), (sub % 1000, .nanosecond)]

/-- The counts that are written. -/
def parts (s : Span) : List (Nat × Unit) := s.counts.filter (·.1 ≠ 0)

/-- The sum of counts. -/
def sum : List (Nat × Unit) → Nat
  | [] => 0
  | (n, u) :: ps => n * u.nanos + sum ps

variable {s : Span} {n m : Nat} {u : Unit} {ds name rest cs : List Char} {p : Nat × Unit}
  {ps : List (Nat × Unit)} {fuel : Nat}

theorem items_eq : s.items = s.parts.map partText := by
  have words (unit : String) (u : Unit) (n : Nat) (one : u.written true = unit)
      (more : u.written false = unit ++ "s") :
      inWords unit n = ([(n, u)].filter (·.1 ≠ 0)).map partText := by
    by_cases zero : n = 0
    · simp [inWords, zero]
    · by_cases single : n = 1
      · simp [inWords, partText, single, one]
      · have plural : (n == 1) = false := by simpa using single
        simp [inWords, zero, partText, single, plural, more, String.append_assoc]
  have signs (unit : String) (u : Unit) (n : Nat) (h : ∀ single, u.written single = unit) :
      inSigns unit n = ([(n, u)].filter (·.1 ≠ 0)).map partText := by
    by_cases zero : n = 0
    · simp [inSigns, zero]
    · simp [inSigns, zero, partText, h]
  simp only [items, words "year" .year _ rfl rfl, words "month" .month _ rfl rfl,
    words "day" .day _ rfl rfl, signs "h" .hour _ fun _ => rfl, signs "m" .minute _ fun _ => rfl,
    signs "s" .second _ fun _ => rfl, signs "ms" .millisecond _ fun _ => rfl,
    signs "us" .microsecond _ fun _ => rfl, signs "ns" .nanosecond _ fun _ => rfl,
    ← List.map_append, ← List.filter_append]
  rfl

/-! ### Sums -/

theorem split_seconds (n : Nat) :
    n / yearSeconds * yearSeconds + n % yearSeconds / monthSeconds * monthSeconds +
      n % yearSeconds % monthSeconds / daySeconds * daySeconds +
      n % yearSeconds % monthSeconds % daySeconds / 3600 * 3600 +
      n % yearSeconds % monthSeconds % daySeconds % 3600 / 60 * 60 +
      n % yearSeconds % monthSeconds % daySeconds % 60 = n := by
  have years := Nat.div_add_mod' n yearSeconds
  have months := Nat.div_add_mod' (n % yearSeconds) monthSeconds
  have days := Nat.div_add_mod' (n % yearSeconds % monthSeconds) daySeconds
  have hours := Nat.div_add_mod' (n % yearSeconds % monthSeconds % daySeconds) 3600
  have minutes := Nat.div_add_mod' (n % yearSeconds % monthSeconds % daySeconds % 3600) 60
  rw [Nat.mod_mod_of_dvd _ (by decide : 60 ∣ 3600)] at minutes
  rw [Nat.add_assoc, minutes, Nat.add_assoc, hours, Nat.add_assoc, days, Nat.add_assoc, months,
    years]

theorem split_nanos (n : Nat) (less : n < perSecond) :
    n / 1000000 * 1000000 + n / 1000 % 1000 * 1000 + n % 1000 = n := by
  have less : n < 1000000000 := less
  omega

theorem sum_cons : sum (p :: ps) = p.1 * p.2.nanos + sum ps := rfl

theorem sum_counts : sum s.counts = s.nanos := by
  have year : Unit.nanos .year = yearSeconds * perSecond := rfl
  have month : Unit.nanos .month = monthSeconds * perSecond := rfl
  have day : Unit.nanos .day = daySeconds * perSecond := rfl
  have hour : Unit.nanos .hour = 3600 * perSecond := rfl
  have minute : Unit.nanos .minute = 60 * perSecond := rfl
  have second : Unit.nanos .second = perSecond := rfl
  have milli : Unit.nanos .millisecond = 1000000 := rfl
  have micro : Unit.nanos .microsecond = 1000 := rfl
  have nano : Unit.nanos .nanosecond = 1 := rfl
  have empty : sum [] = 0 := rfl
  -- rewritten step by step, because by computation multiples of a second would be unrolled
  rw [counts, sum_cons, sum_cons, sum_cons, sum_cons, sum_cons, sum_cons, sum_cons, sum_cons,
    sum_cons, empty, Nat.add_zero]
  simp only [year, month, day, hour, minute, second, milli, micro, nano, Nat.mul_one]
  have above := congrArg (· * perSecond) (split_seconds s.seconds)
  have below := split_nanos s.subsecond (Nat.mod_lt _ (by decide))
  simp only [Nat.add_mul, Nat.mul_assoc] at above
  have whole : s.seconds * perSecond + s.subsecond = s.nanos := by
    rw [seconds, subsecond, Nat.div_add_mod']
  rw [← whole, ← above]
  simp only [Nat.add_assoc] at below ⊢
  rw [below]

theorem sum_parts : sum s.parts = s.nanos := by
  rw [← sum_counts (s := s), parts]
  generalize s.counts = ps
  induction ps with
  | nil => rfl
  | cons p ps ih =>
    rw [List.filter_cons]
    split
    · rw [sum_cons, sum_cons, ih]
    · rename_i zero
      have none : p.1 = 0 := by simpa using zero
      rw [sum_cons, none, Nat.zero_mul, Nat.zero_add, ih]

theorem plus_eq (secs nanos : Nat) (small : nanos < perSecond)
    (fits : s.nanos + secs * perSecond + nanos < secondsLimit * perSecond) :
    s.plus secs nanos = some ⟨s.nanos + secs * perSecond + nanos⟩ := by
  have limit : Nat.pow 2 64 = 18446744073709551616 := by decide
  have sum : (s.seconds + secs + (s.subsecond + nanos) / perSecond) * perSecond +
      (s.subsecond + nanos) % perSecond = s.nanos + secs * perSecond + nanos := by
    simp only [subsecond, seconds, perSecond]
    omega
  have fits₁ : s.subsecond + nanos < Nat.pow 2 64 := by
    simp only [subsecond, perSecond, limit] at small ⊢
    omega
  have fits₂ : s.seconds + secs + (s.subsecond + nanos) / perSecond < Nat.pow 2 64 := by
    simp only [subsecond, seconds, perSecond, secondsLimit, limit] at fits ⊢
    omega
  simp only [plus, fit64, if_pos fits₁, if_pos fits₂, Option.bind_eq_bind, Option.bind_some, sum]
  rfl

theorem plusWhole_eq (small : ∀ k, u.size = .inl k → n * k < perSecond)
    (fits : s.nanos + n * u.nanos < secondsLimit * perSecond) :
    s.plusWhole n u = some ⟨s.nanos + n * u.nanos⟩ := by
  have fit {m : Nat} (less : m < secondsLimit) : fit64 m = some m := if_pos less
  have second : perSecond < secondsLimit := by decide
  unfold plusWhole
  cases size : u.size with
  | inl k =>
    have less := small k size
    have scale : n * u.nanos = n * k := by simp [Unit.nanos, size]
    rw [scale] at fits ⊢
    have added := plus_eq (s := s) 0 (n * k) less (by rwa [Nat.zero_mul, Nat.add_zero])
    rw [Nat.zero_mul, Nat.add_zero] at added
    simp only [fit (Nat.lt_trans less second), Option.bind_some, added]
  | inr k =>
    have scale : n * u.nanos = n * k * perSecond := by simp [Unit.nanos, size, Nat.mul_assoc]
    rw [scale] at fits ⊢
    have less : n * k < secondsLimit :=
      Nat.lt_of_mul_lt_mul_right (Nat.lt_of_le_of_lt (Nat.le_add_left _ _) fits)
    have added := plus_eq (s := s) (n * k) 0 (by decide) (by rwa [Nat.add_zero])
    rw [Nat.add_zero] at added
    simp only [fit less, Option.bind_some, added]

/-! ### Reading a line of counts -/

theorem ofName?_written {single : Bool} : Unit.ofName? (u.written single) = some u := by
  cases u <;> cases single <;> decide

theorem isUnitChar_written {single : Bool} :
    ∀ c ∈ (u.written single).toList, isUnitChar c = true := by
  refine List.all_eq_true.1 ?_
  cases u <;> cases single <;> decide

theorem exists_written (single : Bool) : ∃ c cs, (u.written single).toList = c :: cs ∧
    isUnitChar c = true ∧ digit? c = none ∧ isBlank c = false ∧ c ≠ '.' := by
  cases u <;> cases single <;> exact ⟨_, _, rfl, by decide⟩

theorem digit?_eq {c : Char} {d : Nat} (value : digitValue c = some d) (less : d < 10) :
    digit? c = some d := by
  unfold digitValue at value
  unfold digit?
  split at value
  · rwa [if_pos (by assumption)]
  · split at value
    · cases value
      omega
    · split at value
      · cases value
        omega
      · cases value

theorem le_of_readDigits (h : readDigits 10 n ds = some m) : n ≤ m := by
  induction ds generalizing n with
  | nil =>
    cases h
    exact Nat.le_refl _
  | cons c ds ih =>
    simp only [readDigits] at h
    split at h
    · split at h
      · have := ih h
        omega
      · cases h
    · cases h

theorem wholeRest_digits (h : readDigits 10 n ds = some m) (fits : m < Nat.pow 2 64) :
    wholeRest n (ds ++ rest) = wholeRest m rest := by
  induction ds generalizing n with
  | nil =>
    cases h
    rfl
  | cons c ds ih =>
    simp only [readDigits] at h
    split at h
    · rename_i d value
      split at h
      · have least := le_of_readDigits h
        rw [List.cons_append, wholeRest, digit?_eq value (by assumption)]
        simp only [fit64, if_pos (Nat.lt_of_le_of_lt least fits), Option.bind_some]
        exact ih h
      · cases h
    · cases h

theorem exists_toDigits : ∃ c ds d, Nat.toDigits 10 n = c :: ds ∧ digit? c = some d := by
  cases written : Nat.toDigits 10 n with
  | nil => exact absurd written Nat.toDigits_ne_nil
  | cons c ds =>
    obtain ⟨d, less, rfl⟩ :=
      exists_of_mem_toDigits (by decide) (written ▸ List.mem_cons_self : c ∈ Nat.toDigits 10 n)
    exact ⟨_, ds, d, rfl, digit?_eq (digitValue_digitChar d (by omega)) less⟩

theorem toList_partText : (partText (n, u)).toList =
    Nat.toDigits 10 n ++ (u.written (n == 1)).toList := by
  simp [partText]

theorem unitRest_written (single : Bool) (stop : rest = [] ∨ ∃ r, rest = ' ' :: r) :
    unitRest ((u.written single).toList ++ rest) = some (u, rest) := by
  have ends : ∀ c ∈ rest.head?, isUnitChar c = false := by
    rcases stop with rfl | ⟨r, rfl⟩
    · nofun
    · rintro _ ⟨⟩
      decide
  simp only [unitRest, takeWhile_append_of_stop isUnitChar_written ends,
    dropWhile_append_of_stop isUnitChar_written ends, String.ofList_toList, ofName?_written]
  rcases stop with rfl | ⟨r, rfl⟩
  · rfl
  · rfl

theorem parseItems_part (fits : n < Nat.pow 2 64) (stop : rest = [] ∨ ∃ r, rest = ' ' :: r) :
    parseItems (fuel + 1) s ((partText (n, u)).toList ++ rest) =
      (s.plusWhole n u).bind fun s => parseItems fuel s rest := by
  rw [toList_partText, List.append_assoc]
  have digits := readDigits_toDigits (n := n) (by decide : 1 < 10) (by decide)
  cases written : Nat.toDigits 10 n with
  | nil => exact absurd written Nat.toDigits_ne_nil
  | cons c ds =>
    rw [written, readDigits] at digits
    split at digits
    · rename_i d value
      split at digits
      · rename_i less
        obtain ⟨c', cs, name, isUnit, noDigit, noBlank, noPoint⟩ :=
          exists_written (u := u) (n == 1)
        have whole : wholeRest d (ds ++ ((u.written (n == 1)).toList ++ rest)) =
            some (n, (u.written (n == 1)).toList ++ rest) := by
          rw [wholeRest_digits (by simpa using digits) fits, name, List.cons_append, wholeRest]
          simp [noDigit, noBlank, isUnit]
        rw [List.cons_append, parseItems, firstDigit, digit?_eq value less]
        simp only [whole, Option.bind_eq_bind, Option.bind_some]
        have unit := unitRest_written (u := u) (n == 1) stop
        rw [name] at unit ⊢
        simp only [List.cons_append] at unit ⊢
        split
        · rename_i same
          exact absurd (List.cons.inj same).1 noPoint
        · simp only [Option.bind_some, unit]
      · cases digits
    · cases digits

/-- Counts with blanks between them. -/
def line (ps : List (Nat × Unit)) : List Char := (" ".intercalate (ps.map partText)).toList

theorem line_cons_cons {q : Nat × Unit} :
    line (p :: q :: ps) = (partText p).toList ++ ' ' :: line (q :: ps) := by
  simp [line]

theorem exists_line_cons : ∃ rest, line (p :: ps) = (partText p).toList ++ rest ∧
    (ps = [] ∧ rest = [] ∨ rest = ' ' :: line ps) := by
  cases ps with
  | nil => exact ⟨[], by simp [line], .inl ⟨rfl, rfl⟩⟩
  | cons q ps => exact ⟨_, line_cons_cons, .inr rfl⟩

/-- A count that can be read: of units below the second there is less than one second. -/
structure Fits (p : Nat × Unit) : Prop where
  count : p.1 < Nat.pow 2 64
  small : ∀ k, p.2.size = .inl k → p.1 * k < perSecond

/-- **A line of counts is read as what was there before and their sum.** -/
theorem parseItems_line (fits : ∀ p ∈ ps, Fits p)
    (below : s.nanos + sum ps < secondsLimit * perSecond) (enough : ps.length < fuel) :
    parseItems fuel s (line ps) = some ⟨s.nanos + sum ps⟩ := by
  induction ps generalizing s fuel with
  | nil =>
    obtain ⟨fuel, rfl⟩ := Nat.exists_eq_succ_of_ne_zero (Nat.ne_of_gt enough)
    rfl
  | cons p ps ih =>
    obtain ⟨fuel, rfl⟩ := Nat.exists_eq_succ_of_ne_zero (Nat.ne_of_gt (Nat.zero_lt_of_lt enough))
    obtain ⟨n, u⟩ := p
    obtain ⟨first, others⟩ := List.forall_mem_cons.1 fits
    rw [sum_cons, ← Nat.add_assoc] at below ⊢
    have enough : ps.length < fuel := Nat.lt_of_succ_lt_succ enough
    have rest := ih (s := ⟨s.nanos + n * u.nanos⟩) others below enough
    obtain ⟨tail, split, last⟩ := @exists_line_cons (n, u) ps
    have stop : tail = [] ∨ ∃ r, tail = ' ' :: r := last.imp (·.2) fun more => ⟨_, more⟩
    rw [split, parseItems_part first.count stop,
      plusWhole_eq first.small (Nat.lt_of_le_of_lt (Nat.le_add_right _ _) below), Option.bind_some]
    rcases last with ⟨rfl, rfl⟩ | rfl
    · exact rest
    · -- the blank before the next count is passed over
      obtain ⟨fuel, rfl⟩ := Nat.exists_eq_succ_of_ne_zero (Nat.ne_of_gt (Nat.zero_lt_of_lt enough))
      rw [← rest]
      rfl

/-! ### Reading a span back -/

theorem lt_of_plus {secs nanos : Nat} {s' : Span} (h : s.plus secs nanos = some s') :
    s'.nanos < secondsLimit * perSecond := by
  have fit {k m : Nat} (h : fit64 k = some m) : m < secondsLimit := by
    unfold fit64 at h
    split at h
    · cases h
      assumption
    · cases h
  simp only [plus, Option.bind_eq_bind, Option.bind_eq_some_iff] at h
  obtain ⟨rest, -, total, fits, h⟩ := h
  cases h
  have less := Nat.mod_lt rest (show 0 < perSecond by decide)
  calc total * perSecond + rest % perSecond
    _ < total * perSecond + perSecond := Nat.add_lt_add_left less _
    _ = (total + 1) * perSecond := (Nat.succ_mul _ _).symm
    _ ≤ secondsLimit * perSecond := Nat.mul_le_mul_right _ (fit fits)

theorem fits_counts (below : s.nanos < secondsLimit * perSecond) : ∀ p ∈ s.counts, Fits p := by
  have seconds : s.seconds < secondsLimit := Nat.div_lt_of_lt_mul (by rwa [Nat.mul_comm])
  have nanos : s.subsecond < perSecond := Nat.mod_lt _ (by decide)
  have whole (n : Nat) (u : Unit) (k : Nat) (size : u.size = .inr k) (le : n ≤ s.seconds) :
      Fits (n, u) :=
    ⟨Nat.lt_of_le_of_lt le seconds, fun k' size' => by cases size.symm.trans size'⟩
  have part (n : Nat) (u : Unit) (k : Nat) (size : u.size = .inl k) (positive : 0 < k)
      (le : n * k ≤ s.subsecond) : Fits (n, u) := by
    have less := Nat.lt_of_le_of_lt le nanos
    refine ⟨?_, fun k' size' => ?_⟩
    · exact Nat.lt_trans (Nat.lt_of_le_of_lt (Nat.le_mul_of_pos_right n positive) less) (by decide)
    · cases size.symm.trans size'
      exact less
  have inYear := Nat.mod_le s.seconds yearSeconds
  have inMonth := Nat.le_trans (Nat.mod_le _ monthSeconds) inYear
  have inDay := Nat.le_trans (Nat.mod_le _ daySeconds) inMonth
  simp only [counts, List.forall_mem_cons]
  refine ⟨whole _ _ _ rfl (Nat.div_le_self _ _),
    whole _ _ _ rfl (Nat.le_trans (Nat.div_le_self _ _) inYear),
    whole _ _ _ rfl (Nat.le_trans (Nat.div_le_self _ _) inMonth),
    whole _ _ _ rfl (Nat.le_trans (Nat.div_le_self _ _) inDay),
    whole _ _ _ rfl (Nat.le_trans (Nat.div_le_self _ _) (Nat.le_trans (Nat.mod_le _ _) inDay)),
    whole _ _ _ rfl (Nat.le_trans (Nat.mod_le _ _) inDay),
    part _ _ 1000000 rfl (by decide) (Nat.div_mul_le_self _ _),
    part _ _ 1000 rfl (by decide) (Nat.le_trans (Nat.mul_le_mul_right _ (Nat.mod_le _ _))
      (Nat.div_mul_le_self _ _)),
    part _ _ 1 rfl (by decide) ?_, nofun⟩
  rw [Nat.mul_one]
  exact Nat.mod_le _ _

theorem length_le_line : ps.length ≤ (line ps).length := by
  induction ps with
  | nil => exact Nat.zero_le _
  | cons p ps ih =>
    obtain ⟨tail, split, ⟨rfl, rfl⟩ | rfl⟩ := @exists_line_cons p ps
    · obtain ⟨n, u⟩ := p
      rw [split, List.append_nil, toList_partText, List.length_append]
      exact Nat.le_trans Nat.length_toDigits_pos (Nat.le_add_right _ _)
    · rw [split]
      simp only [List.length_cons, List.length_append]
      omega

theorem lt_of_plusWhole {s' : Span} (h : s.plusWhole n u = some s') :
    s'.nanos < secondsLimit * perSecond := by
  unfold plusWhole at h
  split at h <;> obtain ⟨_, -, added⟩ := Option.bind_eq_some_iff.1 h <;> exact lt_of_plus added

theorem lt_of_plusFraction {s' : Span} {f : Fraction} (h : s.plusFraction f u = some s') :
    s'.nanos < secondsLimit * perSecond := by
  unfold plusFraction at h
  split at h
  · obtain ⟨_, -, added⟩ := Option.bind_eq_some_iff.1 h
    exact lt_of_plus added
  · split at h <;> obtain ⟨_, -, added⟩ := Option.bind_eq_some_iff.1 h <;> exact lt_of_plus added

theorem lt_of_parseItems {s' : Span} (start : s.nanos < secondsLimit * perSecond)
    (h : parseItems fuel s cs = some s') : s'.nanos < secondsLimit * perSecond := by
  induction fuel generalizing s cs with
  | zero => cases h
  | succ fuel ih =>
    rw [parseItems] at h
    split at h
    · cases h
    · cases h
      exact start
    · simp only [Option.bind_eq_bind, Option.bind_eq_some_iff] at h
      obtain ⟨_, -, h⟩ := h
      -- with a fraction and without, in the same way
      split at h <;>
      · obtain ⟨⟨f, _⟩, -, _, -, s₁, whole, h⟩ := by
          simpa only [Option.bind_eq_some_iff] using h
        cases f with
        | none => exact ih (lt_of_plusWhole whole) h
        | some f =>
          obtain ⟨s₂, fraction, more⟩ := Option.bind_eq_some_iff.1 h
          exact ih (lt_of_plusFraction fraction) more

/-- **A span that is read is below the limit.** -/
theorem lt_of_parse {text : String} (h : parse text = some s) :
    s.nanos < secondsLimit * perSecond := by
  have zero : (⟨0⟩ : Span).nanos < secondsLimit * perSecond := by decide
  unfold parse at h
  split at h
  · cases h
    exact zero
  · split at h
    · exact lt_of_parseItems zero h
    · cases h

/-- **A span is read back from its text.** -/
theorem parse_render (below : s.nanos < secondsLimit * perSecond) : parse s.render = some s := by
  by_cases zero : s.nanos = 0
  · obtain ⟨n⟩ := s
    cases zero
    decide
  have text : s.render = " ".intercalate (s.parts.map partText) := by
    rw [render, if_neg zero, items_eq]
  have sum := sum_parts (s := s)
  have fits : ∀ p ∈ s.parts, Fits p := fun p mem => fits_counts below p (List.mem_filter.1 mem).1
  rw [text]
  cases parts : s.parts with
  | nil =>
    rw [parts] at sum
    exact absurd sum.symm zero
  | cons p ps =>
    obtain ⟨n, u⟩ := p
    rw [parts] at sum fits
    obtain ⟨tail, split, -⟩ := @exists_line_cons (n, u) ps
    obtain ⟨c, ds, d, digits, value⟩ := exists_toDigits (n := n)
    have list : (" ".intercalate (((n, u) :: ps).map partText)).toList =
        c :: (ds ++ (u.written (n == 1)).toList ++ tail) := by
      change line _ = _
      rw [split, toList_partText, digits, List.cons_append, List.cons_append]
    have long : " ".intercalate (((n, u) :: ps).map partText) ≠ "0" := by
      intro same
      obtain ⟨c', cs, name, -⟩ := exists_written (u := u) (n == 1)
      rw [same, name] at list
      exact absurd (congrArg List.length list) (by simp)
    have whole := parseItems_line (s := ⟨0⟩) fits (by rwa [Nat.zero_add, sum])
      (Nat.lt_succ_of_le length_le_line)
    rw [Nat.zero_add, sum] at whole
    rw [parse, if_neg long, list, firstDigit, value]
    rw [← list, ← String.length_toList]
    exact whole

end Sidecar.Span

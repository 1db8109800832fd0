import Sidecar.Net.Address
import Sidecar.Proofs.Number

/-!
# Addresses that are read back

An address is read back from its canonical text (`Address.parse_render`).  What stands between its
numbers belongs to none of them, so each number ends where it was written to end
(`Address.number_toDigits`).

The groups of a version 6 address are read as far as they go: all eight, those before a cut, or
those after it.  What was cut out is a run of zeros (`Address.longestRun_zeros`), and reading fills
in as many zeros as there are groups missing.
-/

namespace Sidecar.Address

variable {b limit n left : Nat} {most : Option Nat} {padded first : Bool} {c : Char}
  {cs rest : List Char} {g h : Nat} {gs : List Nat}

/-! ### Numbers -/

theorem digitIn_digitChar {d : Nat} (small : b ≤ 16) (less : d < b) :
    digitIn b (Nat.digitChar d) = some d := by
  simp [digitIn, digitValue_digitChar d (by omega), less]

theorem takeWhile_toDigits (base : 1 < b) (small : b ≤ 16)
    (stop : ∀ c ∈ rest.head?, digitIn b c = none) :
    (Nat.toDigits b n ++ rest).takeWhile (fun c => (digitIn b c).isSome) = Nat.toDigits b n := by
  refine takeWhile_append_of_stop (fun c mem => ?_) fun c mem => by simp [stop c mem]
  obtain ⟨d, less, rfl⟩ := exists_of_mem_toDigits base mem
  simp [digitIn_digitChar small less]

/-- **A number is read back** if what follows is no digit. -/
theorem number_toDigits (base : 1 < b) (small : b ≤ 16) (less : n < limit)
    (short : ∀ k ∈ most, (Nat.toDigits b n).length ≤ k)
    (stop : ∀ c ∈ rest.head?, digitIn b c = none) :
    number b limit most padded (Nat.toDigits b n ++ rest) = some (n, rest) := by
  have few : most.any (· < (Nat.toDigits b n).length) = false := by
    cases most with
    | none => rfl
    | some k => simpa using short k rfl
  -- only the zero itself begins with a zero
  have lead : ((Nat.toDigits b n).head? == some '0' && 1 < (Nat.toDigits b n).length) = false := by
    by_cases zero : n = 0
    · simp [zero]
    · simp [head?_toDigits_ne base small zero]
  simp only [number, takeWhile_toDigits base small stop, few, Bool.and_assoc, lead, Bool.and_false,
    readNatural_toDigits base small, less, List.drop_left]
  simp

theorem number_eq_none (stop : ∀ c ∈ cs.head?, digitIn b c = none) :
    number b limit most padded cs = none := by
  have none : cs.takeWhile (fun c => (digitIn b c).isSome) = [] := by
    cases cs with
    | nil => rfl
    | cons c cs => simp [stop c rfl]
  simp [number, none, readNatural]

theorem rest_of_number {r : List Char} (h : number b limit most padded cs = some (n, r)) :
    r = cs.dropWhile fun c => (digitIn b c).isSome := by
  generalize digits : cs.takeWhile (fun c => (digitIn b c).isSome) = ds at h
  have dropped : cs.drop ds.length = cs.dropWhile fun c => (digitIn b c).isSome := by
    calc cs.drop ds.length
      _ = (ds ++ cs.dropWhile fun c => (digitIn b c).isSome).drop ds.length := by
        rw [← digits, List.takeWhile_append_dropWhile]
      _ = _ := List.drop_left
  simp only [number, digits] at h
  split at h
  · cases h
  · split at h
    · cases h
    · split at h
      · split at h
        · cases h
          exact dropped
        · cases h
      · cases h

/-! ### Version 4 -/

theorem toList_dotted {d : Nat} {a b c : Nat} : (dotted a b c d).toList =
    Nat.toDigits 10 a ++ '.' :: (Nat.toDigits 10 b ++ '.' :: (Nat.toDigits 10 c ++
      '.' :: Nat.toDigits 10 d)) := by
  simp [dotted]

theorem octet_toDigits (less : n < 256) (stop : ∀ c ∈ rest.head?, digitIn 10 c = none) :
    octet (Nat.toDigits 10 n ++ rest) = some (n, rest) := by
  refine number_toDigits (by decide) (by decide) less ?_ stop
  rintro _ ⟨⟩
  exact (Nat.length_toDigits_le_iff (by decide) (by decide)).2 (by omega)

/-- **Four octets are read back.** -/
theorem octets_dotted {a b c d : Nat} (ha : a < 256) (hb : b < 256) (hc : c < 256) (hd : d < 256)
    (stop : ∀ c ∈ rest.head?, digitIn 10 c = none) :
    octets ((dotted a b c d).toList ++ rest) = some ((a, b, c, d), rest) := by
  have dot (rest : List Char) : ∀ c ∈ ('.' :: rest).head?, digitIn 10 c = none := by
    rintro _ ⟨⟩
    decide
  simp only [toList_dotted, List.append_assoc, List.cons_append, octets, octet_toDigits ha (dot _),
    octet_toDigits hb (dot _), octet_toDigits hc (dot _), octet_toDigits hd stop, expectChar,
    Option.bind_eq_bind, Option.bind_some, if_true]
  rfl

theorem octets_eq_none (stop : (cs.dropWhile fun c => (digitIn 10 c).isSome).head? ≠ some '.') :
    octets cs = none := by
  cases first : octet cs with
  | none => simp [octets, first]
  | some p =>
    obtain ⟨n, r⟩ := p
    have dot : expectChar '.' r = none := by
      rw [← rest_of_number first] at stop
      cases r with
      | nil => rfl
      | cons c r => exact if_neg fun same => stop (congrArg some same.symm)
    simp [octets, first, dot]

theorem portNumber_toDigits {port : UInt16} :
    portNumber (':' :: Nat.toDigits 10 port.toNat) = some (port.toNat, []) := by
  have read := @number_toDigits 10 65536 port.toNat none true [] (by decide) (by decide)
    port.toNat_lt nofun nofun
  rw [List.append_nil] at read
  simp [portNumber, expectChar, read]

/-! ### Groups -/

/-- Groups with a colon before each but perhaps the first. -/
def written : (first : Bool) → List Nat → List Char
  | _, [] => []
  | true, g :: gs => Nat.toDigits 16 g ++ written false gs
  | false, g :: gs => ':' :: (Nat.toDigits 16 g ++ written false gs)

theorem toList_colons : (colons gs).toList = written true gs := by
  have more : ∀ g gs, (colons (g :: gs)).toList = Nat.toDigits 16 g ++ written false gs := by
    intro g gs
    induction gs generalizing g with
    | nil => simp [colons, written]
    | cons h gs ih =>
      have ih := ih h
      simp only [colons, List.map_cons] at ih ⊢
      simp [written, ih]
  cases gs with
  | nil => rfl
  | cons g gs => exact more g gs

/-- What ends groups: the end of the address, or a cut. -/
inductive Ends : List Char → Prop
  | bracket {rest : List Char} : Ends (']' :: rest)
  | scope {rest : List Char} : Ends ('%' :: rest)
  | cut {rest : List Char} : Ends (':' :: ':' :: rest)

theorem Ends.digitIn_eq_none (ends : Ends rest) : ∀ c ∈ rest.head?, digitIn b c = none := by
  have none (c : Char) (h : digitValue c = none) : digitIn b c = none := by simp [digitIn, h]
  cases ends <;> rintro _ ⟨⟩ <;> exact none _ (by decide)

theorem octets_toDigits (stop : ∀ c ∈ rest.head?, digitIn 10 c = none ∧ c ≠ '.') :
    octets (Nat.toDigits 16 g ++ rest) = none := by
  refine octets_eq_none ?_
  have dots : ∀ c ∈ Nat.toDigits 16 g, c ≠ '.' := by
    intro c mem
    obtain ⟨d, less, rfl⟩ := exists_of_mem_toDigits (by decide) mem
    exact (by decide : ∀ d < 16, Nat.digitChar d ≠ '.') d less
  generalize Nat.toDigits 16 g = ds at dots
  induction ds with
  | nil =>
    cases rest with
    | nil => nofun
    | cons c rest =>
      obtain ⟨noDigit, noDot⟩ := stop c rfl
      simp [noDigit, noDot]
  | cons d ds ih =>
    obtain ⟨noDot, others⟩ := List.forall_mem_cons.1 dots
    rw [List.cons_append, List.dropWhile_cons]
    split
    · exact ih others
    · simpa using noDot

theorem group_toDigits (less : g < 65536) (stop : ∀ c ∈ rest.head?, digitIn 16 c = none) :
    number 16 65536 (some 4) true (Nat.toDigits 16 g ++ rest) = some (g, rest) := by
  refine number_toDigits (by decide) (by decide) less ?_ stop
  rintro _ ⟨⟩
  exact (Nat.length_toDigits_le_iff (by decide) (by decide)).2 less

theorem groups_eq_nil {r : List Char}
    (begins : (if first = true then some cs else expectChar ':' cs) = some r)
    (stop : ∀ b, ∀ c ∈ r.head?, digitIn b c = none) :
    groups (left + 1) first cs = ([], false, cs) := by
  have noOctets : octets r = none := by simp [octets, octet, number_eq_none (stop 10)]
  have noGroup : number 16 65536 (some 4) true r = none := number_eq_none (stop 16)
  simp [groups, begins, noOctets, noGroup]

theorem groups_ends (ends : Ends rest) : groups left first rest = ([], false, rest) := by
  cases left with
  | zero => cases first <;> rfl
  | succ left =>
    cases first with
    | true => exact groups_eq_nil rfl fun b => ends.digitIn_eq_none
    | false =>
      cases ends with
      | bracket => rfl
      | scope => rfl
      | cut =>
        refine groups_eq_nil rfl fun b => ?_
        rintro _ ⟨⟩
        simp [digitIn, show digitValue ':' = none by decide]

theorem groups_group {r : List Char}
    (begins : (if first = true then some cs else expectChar ':' cs) =
      some (Nat.toDigits 16 g ++ r))
    (less : g < 65536) (stop : ∀ b, ∀ c ∈ r.head?, digitIn b c = none ∧ c ≠ '.') :
    groups (left + 1) first cs =
      (g :: (groups left false r).1, (groups left false r).2.1, (groups left false r).2.2) := by
  have noOctets := octets_toDigits (g := g) (stop 10)
  have group := group_toDigits less fun c mem => (stop 16 c mem).1
  simp [groups, begins, noOctets, group]

/-- **Groups are read back** as far as there are any. -/
theorem groups_written (less : ∀ g ∈ gs, g < 65536) (ends : Ends rest) (fit : gs.length ≤ left) :
    groups left first (written first gs ++ rest) = (gs, false, rest) := by
  induction gs generalizing left first with
  | nil =>
    rw [written.eq_1]
    exact groups_ends ends
  | cons g gs ih =>
    obtain ⟨left, rfl⟩ := Nat.exists_eq_succ_of_ne_zero (Nat.ne_of_gt (Nat.zero_lt_of_lt fit))
    obtain ⟨own, others⟩ := List.forall_mem_cons.1 less
    have more := @ih left false others (Nat.le_of_succ_le_succ fit)
    have stop : ∀ b, ∀ c ∈ (written false gs ++ rest).head?, digitIn b c = none ∧ c ≠ '.' := by
      intro b c mem
      cases gs with
      | nil =>
        refine ⟨ends.digitIn_eq_none c mem, ?_⟩
        cases ends <;> cases mem <;> decide
      | cons h gs =>
        cases mem
        simp [digitIn, show digitValue ':' = none by decide]
    have begins : (if first = true then some (written first (g :: gs) ++ rest)
        else expectChar ':' (written first (g :: gs) ++ rest)) =
          some (Nat.toDigits 16 g ++ (written false gs ++ rest)) := by
      cases first <;> simp [written, expectChar]
    rw [groups_group begins own stop, more]

/-! ### Runs of zeros -/

/-- Where the longest run of zeros stands there are zeros. -/
theorem longestRun_zeros {i start length : Nat} (run : longestRun i gs = (start, length))
    (some : 0 < length) :
    ∃ front back, start = i + front.length ∧ gs = front ++ List.replicate length 0 ++ back := by
  induction gs generalizing i with
  | nil =>
    cases run
    cases some
  | cons g gs ih =>
    simp only [longestRun] at run
    split at run
    · cases run
      have zeros : (g :: gs).takeWhile (· == 0) = List.replicate (zeroRun (g :: gs)) 0 := by
        refine List.eq_replicate_iff.2 ⟨rfl, fun n mem => ?_⟩
        simpa using List.all_eq_true.1 List.all_takeWhile n mem
      refine ⟨[], (g :: gs).dropWhile (· == 0), rfl, ?_⟩
      rw [List.nil_append, ← zeros, List.takeWhile_append_dropWhile]
    · obtain ⟨front, back, begins, split⟩ := ih run
      refine ⟨g :: front, back, ?_, ?_⟩
      · rw [begins, List.length_cons]
        omega
      · rw [split]
        rfl

/-- The text of groups without the cases that it is written in. -/
inductive Canonical : List Nat → List Char → Prop
  /-- All groups. -/
  | whole {gs : List Nat} : Canonical gs (written true gs)
  /-- The groups before and after two or more zeros. -/
  | cut {front back : List Nat} {length : Nat} (some : 1 < length) :
      Canonical (front ++ List.replicate length 0 ++ back)
        (written true front ++ ':' :: ':' :: written true back)
  /-- A version 4 address within. -/
  | mapped {a b c d : Nat} (ha : a < 256) (hb : b < 256) (hc : c < 256) (hd : d < 256) :
      Canonical [0, 0, 0, 0, 0, 0xffff, a * 256 + b, c * 256 + d]
        (':' :: ':' :: (Nat.toDigits 16 0xffff ++ ':' :: (dotted a b c d).toList))

theorem canonical_groupsText (less : ∀ g ∈ gs, g < 65536) :
    Canonical gs (groupsText gs).toList := by
  unfold groupsText
  split
  · rename_i g h
    have bound (k : Nat) (mem : k ∈ [0, 0, 0, 0, 0, 0xffff, g, h]) : k / 256 < 256 := by
      have := less k mem
      omega
    have mapped := Canonical.mapped (bound g (by simp)) (Nat.mod_lt g (by decide))
      (bound h (by simp)) (Nat.mod_lt h (by decide))
    rw [Nat.div_add_mod', Nat.div_add_mod', show Nat.toDigits 16 0xffff = ['f', 'f', 'f', 'f'] by
      decide] at mapped
    simpa using mapped
  · generalize run : longestRun 0 gs = found
    obtain ⟨start, length⟩ := found
    simp only
    split
    · rename_i some
      obtain ⟨front, back, begins, rfl⟩ := longestRun_zeros run (by omega)
      obtain rfl : start = front.length := by omega
      have before : (front ++ List.replicate length 0 ++ back).take front.length = front := by
        rw [List.append_assoc, List.take_left]
      have after : (front ++ List.replicate length 0 ++ back).drop (front.length + length) = back :=
        List.drop_left' (by simp)
      have cut := @Canonical.cut front back length some
      simpa [before, after, toList_colons] using cut
    · rw [toList_colons]
      exact .whole

/-- **The eight groups are read back.** -/
theorem allGroups_canonical {text : List Char} (canonical : Canonical gs text)
    (eight : gs.length = 8) (less : ∀ g ∈ gs, g < 65536)
    (ends : Ends rest) : allGroups (text ++ rest) = some (gs, rest) := by
  cases canonical with
  | whole => simp [allGroups, groups_written less ends (Nat.le_of_eq eight), eight]
  | @cut front back length some =>
    simp only [List.length_append, List.length_replicate] at eight
    simp only [List.forall_mem_append] at less
    have before := @groups_written 8 true _ front less.1.1 (@Ends.cut (written true back ++ rest))
      (by omega)
    have after := @groups_written (7 - front.length) true rest back less.2 ends (by omega)
    have missing : 8 - front.length - back.length = length := by omega
    have few : front.length ≠ 8 := by omega
    simp [allGroups, before, after, missing, few]
  | @mapped a b c d ha hb hc hd =>
    have octets := octets_dotted ha hb hc hd ends.digitIn_eq_none
    have last : groups 6 false (':' :: ((dotted a b c d).toList ++ rest)) =
        ([a * 256 + b, c * 256 + d], true, rest) := by
      simp [groups, expectChar, octets]
    have stop : ∀ k, ∀ d' ∈ (':' :: ((dotted a b c d).toList ++ rest)).head?,
        digitIn k d' = none ∧ d' ≠ '.' := by
      rintro k _ ⟨⟩
      simp [digitIn, show digitValue ':' = none by decide]
    have after := @groups_group 6 true _ 0xffff _ rfl (by decide) stop
    rw [last] at after
    have before : groups 8 true (':' :: ':' :: (Nat.toDigits 16 0xffff ++
        ':' :: ((dotted a b c d).toList ++ rest))) = ([], false, _) := groups_ends .cut
    simp [allGroups, before, after]

/-! ### Whole addresses -/

/-- The scope of an address, as it stands before the closing bracket. -/
def scopeText (scope : Nat) : List Char :=
  if scope = 0 then [] else '%' :: Nat.toDigits 10 scope

theorem ends_scopeText {scope : Nat} : Ends (scopeText scope ++ ']' :: rest) := by
  unfold scopeText
  split
  · exact .bracket
  · exact .scope

theorem toList_render_v4 {a b c d : UInt8} {port : UInt16} :
    (Address.v4 a b c d port).render.toList =
      (dotted a.toNat b.toNat c.toNat d.toNat).toList ++ ':' :: Nat.toDigits 10 port.toNat := by
  simp [render]

theorem toList_render_v6 {a b c d e f g h : UInt16} {scope : UInt32} {port : UInt16} :
    (Address.v6 a b c d e f g h scope port).render.toList =
      '[' :: ((groupsText ([a, b, c, d, e, f, g, h].map UInt16.toNat)).toList ++
        (scopeText scope.toNat ++ ']' :: ':' :: Nat.toDigits 10 port.toNat)) := by
  by_cases zero : scope = 0
  · simp [render, scopeText, zero]
  · have : scope.toNat ≠ 0 := fun none => zero (UInt32.toNat_inj.1 none)
    simp [render, scopeText, zero, this]

theorem parseV4_v4 {a b c d : UInt8} {port : UInt16} :
    parseV4 (Address.v4 a b c d port).render.toList = some (.v4 a b c d port, []) := by
  have colon : ∀ c ∈ (':' :: Nat.toDigits 10 port.toNat).head?, digitIn 10 c = none := by
    rintro _ ⟨⟩
    decide
  have octets := octets_dotted a.toNat_lt b.toNat_lt c.toNat_lt d.toNat_lt colon
  simp [toList_render_v4, parseV4, octets, portNumber_toDigits]

theorem parseV6_v6 {a b c d e f g h : UInt16} {scope : UInt32} {port : UInt16} :
    parseV6 (Address.v6 a b c d e f g h scope port).render.toList =
      some (.v6 a b c d e f g h scope port, []) := by
  have less : ∀ k ∈ [a, b, c, d, e, f, g, h].map UInt16.toNat, k < 65536 := by
    intro k mem
    obtain ⟨i, -, rfl⟩ := List.mem_map.1 mem
    exact i.toNat_lt
  have groups := allGroups_canonical (canonical_groupsText less) rfl less
    (@ends_scopeText (':' :: Nat.toDigits 10 port.toNat) scope.toNat)
  have bracket : ∀ c ∈ (']' :: ':' :: Nat.toDigits 10 port.toNat).head?, digitIn 10 c = none := by
    rintro _ ⟨⟩
    decide
  rw [toList_render_v6]
  simp only [parseV6, expectChar, if_true, Option.bind_eq_bind, Option.bind_some, groups]
  by_cases zero : scope.toNat = 0
  · obtain rfl : scope = 0 := UInt32.toNat_inj.1 zero
    simp [scopeText, portNumber_toDigits]
  · have number := @number_toDigits 10 (Nat.pow 2 32) scope.toNat none true _ (by decide)
      (by decide) scope.toNat_lt nofun bracket
    simp [scopeText, zero, number, portNumber_toDigits]

/-- **An address is read back from its canonical text.** -/
theorem parse_render (a : Address) : parse a.render = some a := by
  cases a with
  | v4 a b c d port => simp [parse, parseV4_v4]
  | v6 a b c d e f g h scope port =>
    have noV4 : parseV4 (Address.v6 a b c d e f g h scope port).render.toList = none := by
      have none : octet (Address.v6 a b c d e f g h scope port).render.toList = none := by
        rw [toList_render_v6]
        refine number_eq_none ?_
        rintro _ ⟨⟩
        decide
      simp [parseV4, octets, none]
    simp [parse, noV4, parseV6_v6]

end Sidecar.Address

import Sidecar.Probe.Extract
import Sidecar.Proofs.Json.Pointer
import Sidecar.Proofs.Number

/-!
# Where a dotted path leads

A segment selects a part of a value (`Value.Selects`): in an object the member of that key, in a list
the item whose index it denotes.  Segments lead from a value to a node (`Value.Leads`), unless some
value on the way lacks what its segment asks for (`Value.Misses`).

* `Probe.lookup_by_address` : **a dotted path leads where its segments lead**, with the mark `$.`
  before it and without.  So every node is found by its own address (`Probe.address`), except that
  `$.` and `$.$` stand for the root.
-/

namespace Sidecar

variable {s : String} {n : Nat}

/-- The index that a segment denotes: decimal digits, perhaps after a plus sign.  An index is a number
of 64 bits. -/
inductive IsIndex : String → UInt64 → Prop
  | plain {s : String} {i : UInt64} (numeral : IsNumeral s.toList i.toNat) : IsIndex s i
  | plus {s : String} {ds : List Char} {i : UInt64} (sign : s.toList = '+' :: ds)
      (numeral : IsNumeral ds i.toNat) : IsIndex s i

theorem readNatural_bounded {cs : List Char} :
    ((readNatural 10 cs).bind fun n => if n < Nat.pow 2 64 then pure n else none) = some n ↔
      ∃ i : UInt64, IsNumeral cs i.toNat ∧ i.toNat = n := by
  rw [Option.bind_eq_some_iff]
  constructor
  · rintro ⟨m, read, fits⟩
    split at fits
    case isFalse => cases fits
    rename_i less
    cases fits
    have whole : (UInt64.ofNat n).toNat = n := UInt64.toNat_ofNat_of_lt' less
    exact ⟨.ofNat n, whole.symm ▸ readNatural_eq_some_iff.1 read, whole⟩
  · rintro ⟨i, numeral, rfl⟩
    exact ⟨i.toNat, readNatural_eq_some_iff.2 numeral, if_pos i.toNat_lt_size⟩

theorem readIndex?_eq_some_iff :
    Value.part?.readIndex? s = some n ↔ ∃ i : UInt64, IsIndex s i ∧ i.toNat = n := by
  unfold Value.part?.readIndex?
  simp only [Option.bind_eq_bind]
  split
  · rename_i ds sign
    rw [readNatural_bounded]
    constructor
    · rintro ⟨i, numeral, rfl⟩
      exact ⟨i, .plus sign numeral, rfl⟩
    · rintro ⟨i, index, rfl⟩
      cases index with
      | plain numeral =>
        obtain ⟨c, ds, same, digit⟩ := numeral.exists_cons
        rw [sign] at same
        cases same
        exact absurd digit (by decide)
      | plus sign' numeral =>
        rw [sign] at sign'
        cases sign'
        exact ⟨i, numeral, rfl⟩
  · rename_i unsigned
    rw [readNatural_bounded]
    constructor
    · rintro ⟨i, numeral, rfl⟩
      exact ⟨i, .plain numeral, rfl⟩
    · rintro ⟨i, index, rfl⟩
      cases index with
      | plain numeral => exact ⟨i, numeral, rfl⟩
      | plus sign => exact absurd sign (unsigned _)

namespace Value

variable {v w : Value} {segments : List String}

/-- The part of a value that a segment selects. -/
inductive Selects : Value → String → Value → Prop
  | member {ms : List (String × Value)} {key : String} {v : Value}
      (there : ms.lookup key = some v) : Selects (.object ms) key v
  | item {vs : List Value} {segment : String} {i : UInt64} {v : Value}
      (index : IsIndex segment i) (there : vs[i.toNat]? = some v) : Selects (.list vs) segment v

/-- A value in which a segment selects nothing: an object without such a member, a list without such
an item, or a scalar. -/
inductive Lacks : Value → String → Prop
  | member {ms : List (String × Value)} {key : String} (absent : ms.lookup key = none) :
      Lacks (.object ms) key
  | item {vs : List Value} {segment : String}
      (beyond : ∀ i, IsIndex segment i → vs.length ≤ i.toNat) : Lacks (.list vs) segment
  | scalar {v : Value} {segment : String} (notObject : ∀ ms, v ≠ .object ms)
      (notList : ∀ vs, v ≠ .list vs) : Lacks v segment

/-- The node that segments lead to, one after another. -/
inductive Leads : Value → List String → Value → Prop
  | here {v : Value} : Leads v [] v
  | step {v w u : Value} {s : String} {ss : List String} (selects : Selects v s w)
      (leads : Leads w ss u) : Leads v (s :: ss) u

/-- Some value on the way lacks what its segment asks for. -/
def Misses (v : Value) (segments : List String) : Prop :=
  ∃ front s back w, segments = front ++ s :: back ∧ v.Leads front w ∧ w.Lacks s

theorem part?_eq_some_iff : v.part? s = some w ↔ v.Selects s w := by
  constructor
  · intro h
    cases v with
    | object ms => exact .member h
    | list vs =>
      obtain ⟨n, read, there⟩ := Option.bind_eq_some_iff.1 h
      obtain ⟨i, index, rfl⟩ := readIndex?_eq_some_iff.1 read
      exact .item index there
    | _ => cases h
  · rintro (there | ⟨index, there⟩)
    · exact there
    · exact Option.bind_eq_some_iff.2 ⟨_, readIndex?_eq_some_iff.2 ⟨_, index, rfl⟩, there⟩

theorem part?_eq_none_iff : v.part? s = none ↔ v.Lacks s := by
  constructor
  · intro h
    cases v with
    | object ms => exact .member h
    | list vs =>
      refine .item fun i index => List.getElem?_eq_none_iff.1 ?_
      exact Option.bind_eq_none_iff.1 h _ (readIndex?_eq_some_iff.2 ⟨i, index, rfl⟩)
    | _ => exact .scalar nofun nofun
  · rintro (absent | beyond | ⟨notObject, notList⟩)
    · exact absent
    · refine Option.bind_eq_none_iff.2 fun n read => ?_
      obtain ⟨i, index, rfl⟩ := readIndex?_eq_some_iff.1 read
      exact List.getElem?_eq_none_iff.2 (beyond i index)
    · cases v with
      | object ms => exact absurd rfl (notObject ms)
      | list vs => exact absurd rfl (notList vs)
      | _ => rfl

theorem walk?_eq_some_iff : v.walk? segments = some w ↔ v.Leads segments w := by
  induction segments generalizing v with
  | nil =>
    constructor
    · rintro ⟨⟩
      exact .here
    · rintro ⟨⟩
      rfl
  | cons s segments ih =>
    simp only [walk?, Option.bind_eq_some_iff]
    constructor
    · rintro ⟨u, part, leads⟩
      exact .step (part?_eq_some_iff.1 part) (ih.1 leads)
    · rintro ⟨⟩
      exact ⟨_, part?_eq_some_iff.2 ‹_›, ih.2 ‹_›⟩

theorem walk?_eq_none_iff : v.walk? segments = none ↔ v.Misses segments := by
  induction segments generalizing v with
  | nil =>
    constructor
    · rintro ⟨⟩
    · rintro ⟨front, s, back, w, split, -⟩
      simp at split
  | cons s segments ih =>
    simp only [walk?, Option.bind_eq_none_iff]
    constructor
    · intro h
      cases part : v.part? s with
      | none => exact ⟨[], s, segments, v, rfl, .here, part?_eq_none_iff.1 part⟩
      | some u =>
        obtain ⟨front, t, back, w, rfl, leads, lacks⟩ := ih.1 (h u part)
        exact ⟨s :: front, t, back, w, rfl, .step (part?_eq_some_iff.1 part) leads, lacks⟩
    · rintro ⟨front, t, back, w, split, leads, lacks⟩ u part
      cases leads with
      | here =>
        cases split
        rw [part?_eq_none_iff.2 lacks] at part
        cases part
      | step selects leads =>
        cases split
        rw [part?_eq_some_iff.2 selects] at part
        cases part
        exact ih.2 ⟨_, t, back, w, rfl, leads, lacks⟩

/-! ### Addresses -/

/-- A step from a value to one of its parts. -/
inductive Step where
  | key (k : String)
  | item (i : UInt64)
  deriving DecidableEq

/-- The segment of a step: the key itself, or the digits of the index. -/
def Step.segment : Step → String
  | .key k => k
  | .item i => toString i.toNat

/-- The node at the end of some steps. -/
inductive At : Value → List Step → Value → Prop
  | root {v : Value} : At v [] v
  | member {ms : List (String × Value)} {k : String} {w u : Value} {steps : List Step}
      (there : ms.lookup k = some w) (below : At w steps u) : At (.object ms) (.key k :: steps) u
  | item {vs : List Value} {i : UInt64} {w u : Value} {steps : List Step}
      (there : vs[i.toNat]? = some w) (below : At w steps u) : At (.list vs) (.item i :: steps) u

theorem toList_segment_item {i : UInt64} :
    (Step.item i).segment.toList = Nat.toDigits 10 i.toNat :=
  Nat.toList_repr

theorem isIndex_segment {i : UInt64} : IsIndex (Step.item i).segment i :=
  .plain (toList_segment_item ▸ isNumeral_toDigits)

theorem eq_key_of_segments {steps : List Step} {k : String} (h : steps.map Step.segment = [k])
    (plain : ∀ c ∈ k.toList, c.isDigit = false) : steps = [.key k] := by
  obtain ⟨step, rfl, rfl⟩ := List.map_eq_singleton_iff.1 h
  cases step with
  | key k => rfl
  | item i =>
    obtain ⟨c, ds, same, digit⟩ := (isNumeral_toDigits (n := i.toNat)).exists_cons
    rw [toList_segment_item, same] at plain
    exact absurd digit (by simp [plain c List.mem_cons_self])

theorem At.leads {steps : List Step} (h : v.At steps w) : v.Leads (steps.map Step.segment) w := by
  induction h with
  | root => exact .here
  | member there _ ih => exact .step (.member there) ih
  | item there _ ih => exact .step (.item isIndex_segment there) ih

end Value

namespace Probe

open Value (Step)

variable {doc v : Value} {segments : List String} {cs : List Char}

/-- Segments joined by dots. -/
def dotted (segments : List String) : String := ".".intercalate segments

/-- The address of a node at the end of some steps: a dollar sign and the segments, joined by dots. -/
def address (steps : List Step) : String := dotted ("$" :: steps.map Step.segment)

/-- Segments that a dotted path can have: at least one, without dots, and neither the empty one nor a
dollar sign alone, which stand for the root. -/
structure Dotted (segments : List String) : Prop where
  nonempty : segments ≠ []
  dotless : ∀ s ∈ segments, '.' ∉ s.toList
  ne_empty : segments ≠ [""]
  ne_dollar : segments ≠ ["$"]

/-- What is found under segments in a document. -/
structure Finds (doc : Value) (segments : List String) (found : Option Value) : Prop where
  /-- It is the node to which they lead. -/
  eq_some_iff : ∀ v, found = some v ↔ doc.Leads segments v
  /-- There is none exactly if a value on the way lacks what its segment asks for. -/
  eq_none_iff : found = none ↔ doc.Misses segments

theorem splitChars_dotted (h : Dotted segments) :
    (Pointer.splitChars '.' (dotted segments).toList).map String.ofList = segments := by
  have own : Pointer.IsDotted (dotted segments) segments := ⟨h.nonempty, h.dotless, rfl⟩
  simp [own.splitChars_eq]

theorem not_root (h : Dotted segments) :
    ¬ ((dotted segments).toList = [] ∨ (dotted segments).toList = ['$']) := by
  have parts := splitChars_dotted h
  rintro (empty | dollar)
  · exact h.ne_empty (by rw [← parts, empty]; rfl)
  · exact h.ne_dollar (by rw [← parts, dollar]; rfl)

theorem pathSteps_marked (h : Dotted segments) : pathSteps ("$." ++ dotted segments) = segments := by
  have marked : ("$." ++ dotted segments).toList = '$' :: '.' :: (dotted segments).toList := by
    simp
  rw [pathSteps, marked]
  simp only
  rw [if_neg (not_root h), splitChars_dotted h]

theorem pathSteps_dotted (h : Dotted segments)
    (unmarked : ¬ ['$', '.'] <+: (dotted segments).toList) :
    pathSteps (dotted segments) = segments := by
  unfold pathSteps
  split
  · rename_i rest marked
    exact absurd ⟨rest, marked.symm⟩ unmarked
  · simp only
    rw [if_neg (not_root h), splitChars_dotted h]

theorem finds_walk? : Finds doc segments (doc.walk? segments) :=
  ⟨fun _ => Value.walk?_eq_some_iff, Value.walk?_eq_none_iff⟩

theorem address_cons {step : Step} {steps : List Step} :
    address (step :: steps) = "$." ++ dotted ((step :: steps).map Step.segment) := by
  apply String.toList_inj.1
  simp [address, dotted, String.toList_intercalate]

theorem dotted_segments {steps : List Step} (some : steps ≠ [])
    (dotless : ∀ k, Step.key k ∈ steps → '.' ∉ k.toList)
    (ne_empty : steps ≠ [.key ""]) (ne_dollar : steps ≠ [.key "$"]) :
    Dotted (steps.map Step.segment) where
  nonempty := by simpa using some
  dotless := by
    intro s mem
    obtain ⟨step, there, rfl⟩ := List.mem_map.1 mem
    cases step with
    | key k => exact dotless k there
    | item i =>
      rw [Value.toList_segment_item]
      intro dot
      exact absurd (isNumeral_toDigits.2.1 _ dot) (by decide)
  ne_empty same := ne_empty (Value.eq_key_of_segments same (by simp))
  ne_dollar same := ne_dollar (Value.eq_key_of_segments same (by simp))

/-- **A dotted path leads where its segments lead.** -/
theorem lookup_by_address (doc : Value) :
    (∀ segments, Dotted segments →
      Finds doc segments (lookup doc ("$." ++ dotted segments)) ∧
        (¬ ['$', '.'] <+: (dotted segments).toList →
          Finds doc segments (lookup doc (dotted segments)))) ∧
    (∀ steps v, doc.At steps v → (∀ k, Step.key k ∈ steps → '.' ∉ k.toList) →
      steps ≠ [.key ""] → steps ≠ [.key "$"] → lookup doc (address steps) = some v) ∧
    (∀ path ∈ ["", "$", "$.", "$.$"], lookup doc path = some doc) := by
  have roots : ∀ path ∈ ["", "$", "$.", "$.$"], pathSteps path = [] := by decide
  refine ⟨fun segments h => ⟨?marked, fun unmarked => ?unmarked⟩, ?own, ?root⟩
  case marked =>
    rw [lookup, pathSteps_marked h]
    exact finds_walk?
  case unmarked =>
    rw [lookup, pathSteps_dotted h unmarked]
    exact finds_walk?
  case own =>
    intro steps v node dotless ne_empty ne_dollar
    cases steps with
    | nil =>
      cases node
      rfl
    | cons step steps =>
      have h := dotted_segments (List.cons_ne_nil _ _) dotless ne_empty ne_dollar
      rw [address_cons, lookup, pathSteps_marked h]
      exact Value.walk?_eq_some_iff.2 node.leads
  case root =>
    intro path mem
    rw [lookup, roots path mem]
    rfl

/-- What a game server says of its players. -/
def players : Value :=
  .object [("status", .object [("players",
    .list [.object [("name", .text "a")], .object [("name", .text "b")]])])]

/-- The name of the second player is found under its segments and by its address. -/
theorem lookup_by_address_player :
    (Dotted ["status", "players", "1", "name"] ∧
      Finds players ["status", "players", "1", "name"]
        (lookup players (dotted ["status", "players", "1", "name"]))) ∧
    players.At [.key "status", .key "players", .item 1, .key "name"] (.text "b") ∧
      lookup players (address [.key "status", .key "players", .item 1, .key "name"]) =
        some (.text "b") := by
  have segments : Dotted ["status", "players", "1", "name"] :=
    ⟨by simp, by simp, by simp, by simp⟩
  have unmarked : ¬ ['$', '.'] <+: (dotted ["status", "players", "1", "name"]).toList := by decide
  have node : players.At [.key "status", .key "players", .item 1, .key "name"] (.text "b") :=
    .member rfl (.member rfl (.item rfl (.member rfl .root)))
  have dotless : ∀ k, Step.key k ∈ [.key "status", .key "players", .item 1, .key "name"] →
      '.' ∉ k.toList := by
    simp
  obtain ⟨finds, found, -⟩ := lookup_by_address players
  exact ⟨⟨segments, (finds _ segments).2 unmarked⟩, node,
    found _ _ node dotless (by decide) (by decide)⟩

end Probe

end Sidecar

import Mathlib.Data.Nat.Find
import Sidecar.Proofs.Config.Environment
import Sidecar.Storage.InKube

/-!
# Expansion is one scan from left to right

A scan of a text (`Environment.Scan`) finds its mentions from left to right: each time the leftmost
one in what is left, until there is none.  Every text has one scan (`Environment.exists_scan`,
`Environment.Scan.unique`).

* `Environment.expand_by_scan` : **expanding a text writes the value of each mention that its scan finds
  in the mention's place**, keeps all else, and fails at the first mention without a value.  A text
  with placeholders of scopes only (`Environment.OnlyScoped`) stays as it is.
-/

namespace Sidecar.Environment

variable {cs rest before : List Char} {env : Environment} {s : String}

/-- What is written for a mention: the value of the variable if it is set, else the default. -/
def Mention.value? (env : Environment) (m : Mention) : Option String := (env m.name).or m.default

/-- A mention that a scan finds. -/
structure Occurrence where
  /-- What stands between the mention before it, or the beginning, and this one. -/
  before : List Char
  mention : Mention

namespace Occurrence

/-- An occurrence and what stands before it, as they are written. -/
def text (o : Occurrence) : List Char := o.before ++ o.mention.text

/-- An occurrence with the value of its mention in the mention's place. -/
def expanded (env : Environment) (o : Occurrence) : List Char :=
  o.before ++ ((o.mention.value? env).getD "").toList

/-- The pieces of an occurrence. -/
def pieces (o : Occurrence) : List Piece := o.before.map .char ++ [o.mention.piece]

end Occurrence

/-- What a scan finds in a text, and what stands after the last mention. -/
inductive Scan : List Char → List Occurrence → List Char → Prop
  | done {cs : List Char} (none : ∀ m : Mention, ¬ m.text <:+: cs) : Scan cs [] cs
  | next {cs before rest last : List Char} {m : Mention} {found : List Occurrence}
      (cut : before ++ (m.text ++ rest) = cs)
      (leftmost : ∀ i < before.length, ∀ m' : Mention, ¬ m'.text <+: cs.drop i)
      (tail : Scan rest found last) : Scan cs (⟨before, m⟩ :: found) last

variable {found found' : List Occurrence} {last last' : List Char}

theorem exists_infix_iff :
    (∃ m : Mention, m.text <:+: cs) ↔ ∃ i, ∃ m : Mention, m.text <+: cs.drop i := by
  constructor
  · rintro ⟨m, before, rest, rfl⟩
    exact ⟨before.length, m, rest, by simp⟩
  · rintro ⟨i, m, start⟩
    exact ⟨m, start.isInfix.trans (List.drop_suffix i cs).isInfix⟩

/-- Every text has a scan. -/
theorem exists_scan (cs : List Char) : ∃ found last, Scan cs found last := by
  induction size : cs.length using Nat.strongRecOn generalizing cs with
  | ind n ih =>
    by_cases occurs : ∃ i, ∃ m : Mention, m.text <+: cs.drop i
    · classical
      obtain ⟨m, rest, start⟩ := Nat.find_spec occurs
      have cut : cs.take (Nat.find occurs) ++ (m.text ++ rest) = cs := by
        rw [start, List.take_append_drop]
      have shorter : rest.length < n := by
        have length := congrArg List.length cut
        simp only [List.length_append, Mention.text, List.length_cons] at length
        omega
      obtain ⟨found, last, tail⟩ := ih _ shorter rest rfl
      refine ⟨_, _, .next cut (fun i less m' start => ?_) tail⟩
      rw [List.length_take] at less
      exact Nat.find_min occurs (Nat.lt_of_lt_of_le less (Nat.min_le_left ..)) ⟨m', start⟩
    · exact ⟨[], cs, .done fun m within => occurs (exists_infix_iff.1 ⟨m, within⟩)⟩

theorem mention_unique {m m' : Mention} {rest' : List Char}
    (same : m.text ++ rest = m'.text ++ rest') : m = m' ∧ rest = rest' := by
  have inner : m.inner ++ rest = m'.inner ++ rest' := (List.append_right_inj ['$', '{']).1 same
  have read : mention? (m.inner ++ rest) = some (m.piece, rest) := mention?_inner_append m
  rw [inner, mention?_inner_append] at read
  obtain ⟨piece, after⟩ := Prod.mk.inj (Option.some.inj read)
  exact ⟨Mention.piece_injective piece.symm, after.symm⟩

/-- A text has one scan only. -/
theorem Scan.unique (h : Scan cs found last) (h' : Scan cs found' last') :
    found = found' ∧ last = last' := by
  induction h generalizing found' last' with
  | done none =>
    cases h' with
    | done => exact ⟨rfl, rfl⟩
    | next cut => exact absurd ⟨_, _, (List.append_assoc ..).trans cut⟩ (none _)
  | @next cs before rest last m found cut leftmost tail ih =>
    cases h' with
    | done none => exact absurd ⟨_, _, (List.append_assoc ..).trans cut⟩ (none _)
    | @next _ before' rest' _ m' _ cut' leftmost' tail' =>
      have here : m.text <+: cs.drop before.length := ⟨rest, by rw [← cut, List.drop_left]⟩
      have here' : m'.text <+: cs.drop before'.length := ⟨rest', by rw [← cut', List.drop_left]⟩
      -- neither of the two comes before the other
      have length : before.length = before'.length :=
        Nat.le_antisymm (Nat.le_of_not_lt fun less => leftmost _ less _ here')
          (Nat.le_of_not_lt fun less => leftmost' _ less _ here)
      obtain ⟨rfl, same⟩ := List.append_inj (cut.trans cut'.symm) length
      obtain ⟨rfl, rfl⟩ := mention_unique same
      obtain ⟨rfl, rfl⟩ := ih tail'
      exact ⟨rfl, rfl⟩

theorem Scan.text_eq (h : Scan cs found last) : found.flatMap Occurrence.text ++ last = cs := by
  induction h with
  | done => rfl
  | next cut _ _ ih => simp [Occurrence.text, ih, cut]

/-- **The pieces of a text are what its scan finds.** -/
theorem Scan.piecesAux_eq {fuel : Nat} (h : Scan cs found last) (enough : cs.length ≤ fuel) :
    piecesAux fuel cs = found.flatMap Occurrence.pieces ++ last.map .char := by
  induction h generalizing fuel with
  | done none => exact Environment.piecesAux_eq none enough
  | @next cs before rest last m found cut leftmost tail ih =>
    obtain ⟨more, room⟩ : ∃ more, fuel = more + 1 + before.length ∧ rest.length ≤ more := by
      have length := congrArg List.length cut
      simp only [List.length_append, Mention.text, List.length_cons] at length
      exact ⟨fuel - before.length - 1, by omega, by omega⟩
    have head : piecesAux (more + 1) (m.text ++ rest) = m.piece :: piecesAux more rest := by
      simp [Mention.text, piecesAux, mention?_inner_append]
    subst cut
    rw [room.1, piecesAux_append leftmost, head, ih room.2]
    simp [Occurrence.pieces]

theorem Scan.expand_eq (h : Scan s.toList found last) :
    env.expand s =
      (expandPieces env (found.flatMap Occurrence.pieces ++ last.map .char)).map String.ofList := by
  rw [expand, pieces, h.piecesAux_eq (Nat.le_of_eq s.length_toList)]

theorem expandPieces_pieces {o : Occurrence} {ps : List Piece} (set : o.mention.value? env ≠ none) :
    expandPieces env (o.pieces ++ ps) = (expandPieces env ps).map (o.expanded env ++ ·) := by
  obtain ⟨value, set⟩ := Option.ne_none_iff_exists'.1 set
  have set' : (env o.mention.name).or o.mention.default = some value := set
  rw [Occurrence.pieces, List.append_assoc, expandPieces_append]
  cases h : expandPieces env ps <;>
    simp [expandPieces, Mention.piece, Occurrence.expanded, set, set', h, Except.map]

theorem expandPieces_eq_ok (set : ∀ o ∈ found, o.mention.value? env ≠ none) :
    expandPieces env (found.flatMap Occurrence.pieces ++ last.map .char) =
      .ok (found.flatMap (Occurrence.expanded env) ++ last) := by
  induction found with
  | nil => exact expandPieces_char env
  | cons o found ih =>
    obtain ⟨own, others⟩ := List.forall_mem_cons.1 set
    simp [expandPieces_pieces own, ih others, Except.map]

theorem expandPieces_eq_error {o : Occurrence} {ps : List Piece}
    (set : ∀ e ∈ found, e.mention.value? env ≠ none) (unset : o.mention.value? env = none) :
    expandPieces env (found.flatMap Occurrence.pieces ++ (o.pieces ++ ps)) =
      .error o.mention.name := by
  induction found with
  | nil =>
    have unset' : (env o.mention.name).or o.mention.default = none := unset
    rw [List.flatMap_nil, List.nil_append, Occurrence.pieces, List.append_assoc,
      expandPieces_append]
    simp [expandPieces, Mention.piece, unset', Except.map]
  | cons e found ih =>
    obtain ⟨own, others⟩ := List.forall_mem_cons.1 set
    simp [expandPieces_pieces own, ih others, Except.map]

/-! ### Placeholders of scopes -/

/-- A text that begins with a placeholder of a scope, `${SCOPE:NAME}`, whose name does not begin with
a dash. -/
def OpensScoped (cs : List Char) : Prop :=
  ∃ scope name rest, cs = '$' :: '{' :: (scope ++ ':' :: (name ++ '}' :: rest)) ∧
    (∀ c ∈ scope, Template.isScopeChar c = true) ∧ '}' ∉ name ∧ name.head? ≠ some '-'

/-- A text in which every dollar sign with a brace opens a placeholder of a scope. -/
def OnlyScoped (cs : List Char) : Prop :=
  ∀ tail, tail <:+ cs → ['$', '{'] <+: tail → OpensScoped tail

theorem dropWhile_inner_append (m : Mention) (rest : List Char) : ∃ after,
    (m.inner ++ rest).dropWhile Template.isScopeChar = '}' :: after ∨
      (m.inner ++ rest).dropWhile Template.isScopeChar = ':' :: '-' :: after := by
  have chars : ∀ c ∈ m.name.toList, Template.isScopeChar c = true := fun c mem => by
    have isChar := m.isName.2 c mem
    simp only [Template.isScopeChar, Bool.and_eq_true, bne_iff_ne]
    constructor <;> (rintro rfl; simp [isNameChar] at isChar)
  unfold Mention.inner
  split <;> rw [List.append_assoc, dropWhile_append_of_stop chars (by simp [Template.isScopeChar])]
  · exact ⟨_, .inl rfl⟩
  · exact ⟨_, .inr rfl⟩

theorem OpensScoped.no_mention (h : OpensScoped cs) (m : Mention) : ¬ m.text <+: cs := by
  rintro ⟨rest, same⟩
  obtain ⟨scope, name, rest', rfl, chars, -, noDash⟩ := h
  have inner : m.inner ++ rest = scope ++ ':' :: (name ++ '}' :: rest') :=
    (List.append_right_inj ['$', '{']).1 same
  obtain ⟨after, next⟩ := dropWhile_inner_append m rest
  rw [inner, dropWhile_append_of_stop chars (by simp [Template.isScopeChar])] at next
  rcases next with brace | dash
  · cases brace
  · have second := congrArg (fun cs => cs.tail.head?) dash
    cases name with
    | nil => simp at second
    | cons c name => exact noDash second

theorem OnlyScoped.no_mention (h : OnlyScoped cs) (m : Mention) : ¬ m.text <:+: cs := by
  rintro ⟨before, after, rfl⟩
  rw [List.append_assoc] at h
  have opening : ['$', '{'] <+: m.text ++ after := ⟨_, rfl⟩
  exact (h _ (List.suffix_append ..) opening).no_mention m (List.prefix_append ..)

/-- What expanding a text comes to. -/
structure Expansion (env : Environment) (s : String) (found : List Occurrence)
    (last : List Char) : Prop where
  /-- It is about what the scan of the text finds. -/
  scan : Scan s.toList found last
  /-- There is no other scan. -/
  unique : ∀ found' last', Scan s.toList found' last' → found' = found ∧ last' = last
  /-- What it finds and what stands between make up the text. -/
  text_eq : s.toList = found.flatMap Occurrence.text ++ last
  /-- If each mention has a value, these stand in the places of the mentions, and all else is as it
  was. -/
  expand_eq_ok : (∀ o ∈ found, o.mention.value? env ≠ none) →
    env.expand s = .ok (String.ofList (found.flatMap (Occurrence.expanded env) ++ last))
  /-- The first mention without a value is the error. -/
  expand_eq_error : ∀ earlier o later, found = earlier ++ o :: later →
    (∀ e ∈ earlier, e.mention.value? env ≠ none) → o.mention.value? env = none →
    env.expand s = .error o.mention.name
  /-- It fails exactly if there is a mention without a default of a variable that is not set. -/
  fails_iff : (∃ name, env.expand s = .error name) ↔
    ∃ o ∈ found, o.mention.default = none ∧ env o.mention.name = none

theorem value?_eq_none_iff {m : Mention} :
    m.value? env = none ↔ m.default = none ∧ env m.name = none := by
  rw [Mention.value?, Option.or_eq_none_iff, and_comm]

theorem Scan.expansion (h : Scan s.toList found last) : Expansion env s found last := by
  have ok (set : ∀ o ∈ found, o.mention.value? env ≠ none) :
      env.expand s = .ok (String.ofList (found.flatMap (Occurrence.expanded env) ++ last)) := by
    rw [h.expand_eq, expandPieces_eq_ok set, Except.map]
  have error (earlier : List Occurrence) (o : Occurrence) (later : List Occurrence)
      (split : found = earlier ++ o :: later) (set : ∀ e ∈ earlier, e.mention.value? env ≠ none)
      (unset : o.mention.value? env = none) : env.expand s = .error o.mention.name := by
    subst split
    rw [h.expand_eq, List.flatMap_append, List.flatMap_cons, List.append_assoc, List.append_assoc,
      expandPieces_eq_error set unset, Except.map]
  refine ⟨h, fun found' last' h' => h'.unique h, h.text_eq.symm, ok, error, ?fails, ?missing⟩
  case fails =>
    rintro ⟨name, failed⟩
    by_contra! all
    have set : ∀ o ∈ found, o.mention.value? env ≠ none := fun o mem unset =>
      all o mem (value?_eq_none_iff.1 unset).1 (value?_eq_none_iff.1 unset).2
    rw [ok set] at failed
    cases failed
  case missing =>
    rintro ⟨o, mem, unset⟩
    classical
    -- the first of those without a value
    obtain ⟨first, missing⟩ := Option.isSome_iff_exists.1
      (List.find?_isSome (p := fun o : Occurrence => o.mention.value? env = none).2
        ⟨o, mem, decide_eq_true (value?_eq_none_iff.2 unset)⟩)
    obtain ⟨unset, earlier, later, split, set⟩ := List.find?_eq_some_iff_append.1 missing
    exact ⟨_, error earlier first later split (fun e mem => by simpa using set e mem)
      (of_decide_eq_true unset)⟩

/-- **Expanding a text is one scan from left to right**, and leaves a text with placeholders of scopes
only as it is. -/
theorem expand_by_scan (env : Environment) (s : String) :
    (∃ found last, Expansion env s found last) ∧ (OnlyScoped s.toList → env.expand s = .ok s) := by
  refine ⟨?_, fun only => ?_⟩
  · obtain ⟨found, last, scan⟩ := exists_scan s.toList
    exact ⟨found, last, scan.expansion⟩
  · have whole : Expansion env s [] s.toList := (Scan.done only.no_mention).expansion
    have whole := whole.expand_eq_ok nofun
    rwa [List.flatMap_nil, List.nil_append, String.ofList_toList] at whole

/-- The namespace of the own pod is left to templates. -/
theorem expand_by_scan_pod :
    OnlyScoped "ns: ${POD:NS}".toList ∧
      Environment.empty.expand "ns: ${POD:NS}" = .ok "ns: ${POD:NS}" := by
  have only : OnlyScoped "ns: ${POD:NS}".toList := by
    rintro tail within ⟨after, rfl⟩
    obtain rfl : after = "POD:NS\x7d".toList := by simpa [List.suffix_cons_iff] using within
    exact ⟨"POD".toList, "NS".toList, [], by decide, by simp [Template.isScopeChar], by decide,
      by decide⟩
  exact ⟨only, (expand_by_scan .empty _).2 only⟩

end Sidecar.Environment

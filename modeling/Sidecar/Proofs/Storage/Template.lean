import Mathlib.Data.Nat.Find
import Sidecar.Proofs.Number
import Sidecar.Storage.InKube

/-!
# The first mention decides

A mention is written as a dollar sign and a brace, a scope, a colon, a name and a brace
(`Template.Mention.text`).  What is written where a text begins makes at most one
(`Template.mentionAt?_eq_some_iff`), and the search for the first one tries each place in turn
(`Template.firstMention?_eq_some_iff`, `Template.firstMention?_eq_none_iff`).

* `Template.resolve_by_leftmost` : **a template is resolved by its leftmost mention**, in the
  environment that its scope names, and stands for itself if it has none.
-/

namespace Sidecar.Template

variable {m : Mention} {c : Char} {cs rest : List Char} {env : Environment}
  {container : Option Container} {template : String}

namespace Mention

/-- What scopes and names are made of. -/
structure Proper (m : Mention) : Prop where
  scope_ne : m.scope.toList ≠ []
  scope_chars : ∀ c ∈ m.scope.toList, c ≠ ':' ∧ c ≠ '}'
  name_ne : m.name.toList ≠ []
  name_chars : ∀ c ∈ m.name.toList, c ≠ '}'

/-- What is written of a mention after its dollar sign and brace. -/
def inner (m : Mention) : List Char := m.scope.toList ++ ':' :: (m.name.toList ++ ['}'])

/-- A mention as it is written. -/
def text (m : Mention) : List Char := '$' :: '{' :: m.inner

/-- That a text begins with a mention. -/
def Opens (m : Mention) (cs : List Char) : Prop := m.Proper ∧ m.text <+: cs

end Mention

/-- The leftmost mention in a text: none begins before it. -/
def Leftmost (cs : List Char) (m : Mention) : Prop :=
  ∃ i, m.Opens (cs.drop i) ∧ ∀ j < i, ∀ m' : Mention, ¬ m'.Opens (cs.drop j)

/-- The variables of a container.  There are none without a container, or if it lists none. -/
def listed (container : Option Container) : List ContainerVariable :=
  (container.bind Container.env).getD []

/-! ### Mentions in a text -/

theorem isScopeChar_iff : isScopeChar c = true ↔ c ≠ ':' ∧ c ≠ '}' := by
  simp [isScopeChar]

theorem mentionAt?_inner_append (proper : m.Proper) : mentionAt? (m.inner ++ rest) = some m := by
  obtain ⟨scope_ne, scope_chars, name_ne, name_chars⟩ := proper
  have scope : ∀ c ∈ m.scope.toList, isScopeChar c = true := fun c mem =>
    isScopeChar_iff.2 (scope_chars c mem)
  have colon : ∀ c ∈ (':' :: (m.name.toList ++ '}' :: rest)).head?, isScopeChar c = false := by
    simp [isScopeChar]
  have name : ∀ c ∈ m.name.toList, (c != '}') = true := fun c mem => bne_iff_ne.2 (name_chars c mem)
  have brace : ∀ c ∈ ('}' :: rest).head?, (c != '}') = false := by simp
  simp [mentionAt?, Mention.inner, takeWhile_append_of_stop scope colon,
    dropWhile_append_of_stop scope colon, takeWhile_append_of_stop name brace,
    dropWhile_append_of_stop name brace, scope_ne, name_ne]

theorem exists_of_mentionAt? (h : mentionAt? cs = some m) :
    m.Proper ∧ ∃ rest, m.inner ++ rest = cs := by
  unfold mentionAt? at h
  simp only at h
  split at h
  case h_2 => cases h
  rename_i after colon
  split at h
  · cases h
  · rename_i given
    simp only [Bool.or_eq_true, List.isEmpty_iff, not_or] at given
    obtain ⟨⟨scope_ne, name_ne⟩, closed⟩ := given
    cases h
    have scope : ∀ c ∈ cs.takeWhile isScopeChar, isScopeChar c = true :=
      List.all_eq_true.1 List.all_takeWhile
    have name : ∀ c ∈ after.takeWhile (· != '}'), (c != '}') = true :=
      List.all_eq_true.1 List.all_takeWhile
    -- the name goes on up to a brace, since something is left of the text
    obtain ⟨d, rest, brace, tail⟩ := exists_stop closed
    obtain rfl : d = '}' := bne_eq_false_iff_eq.1 brace
    refine ⟨⟨?_, ?_, ?_, ?_⟩, rest, ?_⟩
    · simpa using scope_ne
    · simpa only [String.toList_ofList] using fun c mem => isScopeChar_iff.1 (scope c mem)
    · simpa using name_ne
    · simpa only [String.toList_ofList] using fun c mem => bne_iff_ne.1 (name c mem)
    · have whole : cs.takeWhile isScopeChar ++ cs.dropWhile isScopeChar = cs :=
        List.takeWhile_append_dropWhile
      rw [colon, ← tail] at whole
      simpa [Mention.inner] using whole

theorem mentionAt?_eq_some_iff : mentionAt? cs = some m ↔ m.Proper ∧ m.inner <+: cs := by
  constructor
  · intro h
    exact exists_of_mentionAt? h
  · rintro ⟨proper, rest, rfl⟩
    exact mentionAt?_inner_append proper

/-- The search tries the place where it is, and goes on to the next one if no mention begins
there. -/
theorem firstMention?_cons : firstMention? (c :: cs) = some m ↔
    m.Opens (c :: cs) ∨ (∀ m' : Mention, ¬ m'.Opens (c :: cs)) ∧ firstMention? cs = some m := by
  have opens (m : Mention) {inner : List Char} :
      m.Opens ('$' :: '{' :: inner) ↔ mentionAt? inner = some m := by
    rw [mentionAt?_eq_some_iff, Mention.Opens, Mention.text, List.cons_prefix_cons,
      List.cons_prefix_cons]
    simp
  by_cases brace : ∃ inner, c = '$' ∧ cs = '{' :: inner
  · obtain ⟨inner, rfl, rfl⟩ := brace
    have step : firstMention? ('$' :: '{' :: inner) =
        (mentionAt? inner).or (firstMention? ('{' :: inner)) := by rw [firstMention?]
    rw [step]
    simp only [opens]
    cases mentionAt? inner <;> simp
  · have step : firstMention? (c :: cs) = firstMention? cs := by
      rw [firstMention?]
      exact fun inner dollar same => brace ⟨inner, dollar, same⟩
    have none (m : Mention) : ¬ m.Opens (c :: cs) := by
      rintro ⟨-, rest, same⟩
      cases same
      exact brace ⟨_, rfl, rfl⟩
    simp [step, none]

theorem leftmost_cons : Leftmost (c :: cs) m ↔
    m.Opens (c :: cs) ∨ (∀ m' : Mention, ¬ m'.Opens (c :: cs)) ∧ Leftmost cs m := by
  constructor
  · rintro ⟨i, opens, first⟩
    cases i with
    | zero => exact .inl opens
    | succ i =>
      exact .inr ⟨first 0 (Nat.succ_pos i), i, opens, fun j less => first (j + 1) (by omega)⟩
  · rintro (opens | ⟨none, i, opens, first⟩)
    · exact ⟨0, opens, fun j less => absurd less (Nat.not_lt_zero j)⟩
    · refine ⟨i + 1, opens, fun j less => ?_⟩
      cases j with
      | zero => exact none
      | succ j => exact first j (by omega)

theorem not_opens_nil : ¬ m.Opens [] := by
  rintro ⟨-, rest, same⟩
  cases same

/-- **The search finds the leftmost mention.** -/
theorem firstMention?_eq_some_iff : firstMention? cs = some m ↔ Leftmost cs m := by
  induction cs with
  | nil =>
    constructor
    · exact nofun
    · rintro ⟨i, opens, -⟩
      rw [List.drop_nil] at opens
      exact absurd opens not_opens_nil
  | cons c cs ih => rw [firstMention?_cons, leftmost_cons, ih]

/-- It finds none exactly if there is none at any place. -/
theorem firstMention?_eq_none_iff :
    firstMention? cs = none ↔ ∀ (m : Mention) (i : Nat), ¬ m.Opens (cs.drop i) := by
  constructor
  · intro h m i opens
    -- the first place at which any mention begins has the leftmost one
    classical
    have occurs : ∃ i, ∃ m : Mention, m.Opens (cs.drop i) := ⟨i, m, opens⟩
    obtain ⟨m', first⟩ := Nat.find_spec occurs
    have found : firstMention? cs = some m' := firstMention?_eq_some_iff.2
      ⟨_, first, fun j less m'' opens => Nat.find_min occurs less ⟨m'', opens⟩⟩
    rw [h] at found
    cases found
  · intro none
    cases found : firstMention? cs with
    | none => rfl
    | some m =>
      obtain ⟨i, opens, -⟩ := firstMention?_eq_some_iff.1 found
      exact absurd opens (none m i)

/-! ### What a template stands for -/

/-- What a template comes to, given the mention that decides. -/
structure Resolution (env : Environment) (container : Option Container) (template : String)
    (m : Mention) : Prop where
  hasMention : hasMention template = true
  /-- The value of a variable of the program itself, whatever the container is. -/
  own : m.scope = "SELF" → ∀ value, env m.name = some value →
    ∀ container', resolve env container' template = .ok value
  own_unset : m.scope = "SELF" → env m.name = none →
    ∀ container', resolve env container' template = .error (.variableNotFound "SELF" m.name)
  /-- The value of the first variable of that name in the container, nothing if it has no value;
  whatever the variables of the program are. -/
  pod : m.scope = "POD" → ∀ before v after, listed container = before ++ v :: after →
    v.name = m.name → (∀ w ∈ before, w.name ≠ m.name) →
    ∀ env', resolve env' container template = .ok (v.value.getD "")
  pod_unset : m.scope = "POD" → (∀ v ∈ listed container, v.name ≠ m.name) →
    ∀ env', resolve env' container template = .error (.variableNotFound "POD" m.name)
  /-- There is no other scope. -/
  other : m.scope ≠ "SELF" → m.scope ≠ "POD" →
    resolve env container template = .error (.unknownScope m.scope)

theorem containerValue?_eq {name : String} : containerValue? container name =
    ((listed container).find? fun v => v.name = name).map fun v => v.value.getD "" := by
  rcases container with _ | ⟨own, _ | vars⟩ <;> simp [containerValue?, listed]
  cases vars.find? fun v => v.name = name <;> rfl

theorem resolve_own (found : mention? template = some m) (own : m.scope = "SELF") :
    resolve env container template =
      (env m.name).elim (.error (.variableNotFound "SELF" m.name)) .ok := by
  cases value : env m.name <;> simp [resolve, found, own, value]

theorem resolve_pod (found : mention? template = some m) (pod : m.scope = "POD") :
    resolve env container template =
      (containerValue? container m.name).elim (.error (.variableNotFound "POD" m.name)) .ok := by
  cases value : containerValue? container m.name <;> simp [resolve, found, pod, value]

theorem resolution_of_mention? (found : mention? template = some m) :
    Resolution env container template m where
  hasMention := by rw [hasMention, found, Option.isSome_some]
  own own value set container' := by rw [resolve_own found own, set, Option.elim_some]
  own_unset own unset container' := by rw [resolve_own found own, unset, Option.elim_none]
  pod pod before v after split same others env' := by
    have first : (listed container).find? (fun v => v.name = m.name) = some v :=
      List.find?_eq_some_iff_append.2
        ⟨decide_eq_true same, before, after, split, fun w mem => by simpa using others w mem⟩
    rw [resolve_pod found pod, containerValue?_eq, first, Option.map_some, Option.elim_some]
  pod_unset pod others env' := by
    have none : (listed container).find? (fun v => v.name = m.name) = none :=
      List.find?_eq_none.2 fun w mem => by simpa using others w mem
    rw [resolve_pod found pod, containerValue?_eq, none, Option.map_none, Option.elim_none]
  other own pod := by simp [resolve, found, own, pod]

/-- **A template is resolved by its leftmost mention**, of which there is one at most; a text
without a mention stands for itself. -/
theorem resolve_by_leftmost (env : Environment) (container : Option Container) (template : String) :
    ((∀ (m : Mention) (i : Nat), ¬ m.Opens (template.toList.drop i)) ∧
      hasMention template = false ∧ resolve env container template = .ok template) ∨
    ∃ m, Leftmost template.toList m ∧ (∀ m', Leftmost template.toList m' → m' = m) ∧
      Resolution env container template m := by
  cases found : mention? template with
  | none =>
    refine .inl ⟨firstMention?_eq_none_iff.1 found, ?_, ?_⟩
    · rw [hasMention, found, Option.isSome_none]
    · simp only [resolve, found]
  | some m =>
    refine .inr ⟨m, firstMention?_eq_some_iff.1 found, fun m' leftmost => ?_,
      resolution_of_mention? found⟩
    have found' : mention? template = some m' := firstMention?_eq_some_iff.2 leftmost
    exact Option.some.inj (found'.symm.trans found)

/-- A container that lists a variable twice. -/
def twiceListed : Container where
  name := "main"
  env := some [⟨"NS", some "prod"⟩, ⟨"NS", some "test"⟩]

/-- What looks like a mention but has no scope is passed over, and the first value counts. -/
theorem resolve_by_leftmost_pod :
    Leftmost "${}/${POD:NS}".toList ⟨"POD", "NS"⟩ ∧
      resolve .empty (some twiceListed) "${}/${POD:NS}" = .ok "prod" := by
  have leftmost : Leftmost "${}/${POD:NS}".toList ⟨"POD", "NS"⟩ :=
    firstMention?_eq_some_iff.1 (by decide)
  refine ⟨leftmost, ?_⟩
  rcases resolve_by_leftmost .empty (some twiceListed) "${}/${POD:NS}" with
    ⟨none, -⟩ | ⟨m, -, unique, resolution⟩
  · obtain ⟨i, opens, -⟩ := leftmost
    exact absurd opens (none _ i)
  · obtain rfl := unique _ leftmost
    exact resolution.pod rfl [] _ _ rfl rfl nofun .empty

end Sidecar.Template

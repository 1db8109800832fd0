import Sidecar.Config.Environment
import Sidecar.Proofs.Number

/-!
# Mentions of variables

A mention is read off a text exactly where one is written (`Environment.mention?_inner_append`,
`Environment.exists_of_mention?`).  A text in which nothing looks like a mention
(`Environment.Placeholder`) stays as it is, whatever variables are set
(`Environment.expand_of_not_mentions`).
-/

namespace Sidecar.Environment

variable {cs rest name : List Char} {p : Piece} {s : String}

/-- The name of a variable. -/
def IsName (cs : List Char) : Prop :=
  cs.head?.any isNameStart = true ∧ ∀ c ∈ cs, isNameChar c = true

/-- What a mention looks like, with a default and without. -/
inductive Placeholder : List Char → Prop
  | plain {name : List Char} (isName : IsName name) : Placeholder ('$' :: '{' :: (name ++ ['}']))
  | defaulting {name text : List Char} (isName : IsName name) (noBrace : '}' ∉ text) :
      Placeholder ('$' :: '{' :: (name ++ ':' :: '-' :: (text ++ ['}'])))

/-- Whether a text mentions a variable. -/
def Mentions (s : String) : Prop := ∃ p, Placeholder p ∧ p <:+: s.toList

/-- A mention of a variable. -/
structure Mention where
  /-- The name of the variable. -/
  name : String
  /-- The default, if there is one. -/
  default : Option String
  isName : IsName name.toList
  noBrace : ∀ d ∈ default, '}' ∉ d.toList

namespace Mention

/-- What is written of a mention after its dollar sign and brace. -/
def inner (m : Mention) : List Char :=
  match m.default with
  | none => m.name.toList ++ ['}']
  | some d => m.name.toList ++ ':' :: '-' :: (d.toList ++ ['}'])

/-- A mention as it is written. -/
def text (m : Mention) : List Char := '$' :: '{' :: m.inner

/-- A mention as a piece of a text. -/
def piece (m : Mention) : Piece := .mention m.name m.default

theorem placeholder (m : Mention) : Placeholder m.text := by
  unfold text inner
  split
  · exact .plain m.isName
  · rename_i d given
    exact .defaulting m.isName (m.noBrace d given)

theorem piece_injective : Function.Injective piece := by
  rintro ⟨name, default, isName, noBrace⟩ ⟨name', default', isName', noBrace'⟩ same
  obtain ⟨rfl, rfl⟩ := Piece.mention.inj same
  rfl

end Mention

theorem not_mentions_of_not_mem (h : '$' ∉ s.toList) : ¬ Mentions s := by
  rintro ⟨p, placeholder, within⟩
  have mem : '$' ∈ p := by cases placeholder <;> exact List.mem_cons_self
  exact h (within.subset mem)

/-- What is written as a mention is taken for it. -/
theorem mention?_inner_append (m : Mention) :
    mention? (m.inner ++ rest) = some (m.piece, rest) := by
  obtain ⟨name, default, ⟨start, chars⟩, noBrace⟩ := m
  cases default with
  | none =>
    have stop : ∀ c ∈ ('}' :: rest).head?, isNameChar c = false := by simp [isNameChar]
    simp [mention?, Mention.inner, Mention.piece, takeWhile_append_of_stop chars stop,
      dropWhile_append_of_stop chars stop, start]
  | some d =>
    have stop : ∀ c ∈ (':' :: '-' :: (d.toList ++ '}' :: rest)).head?, isNameChar c = false := by
      simp [isNameChar]
    have text : ∀ c ∈ d.toList, (c != '}') = true := fun c mem =>
      bne_iff_ne.2 fun same => noBrace d rfl (same ▸ mem)
    have brace : ∀ c ∈ ('}' :: rest).head?, (c != '}') = false := by simp
    simp [mention?, Mention.inner, Mention.piece, takeWhile_append_of_stop chars stop,
      dropWhile_append_of_stop chars stop, takeWhile_append_of_stop text brace,
      dropWhile_append_of_stop text brace, start]

/-- What is taken for a mention is written as one. -/
theorem exists_of_mention? (h : mention? cs = some (p, rest)) :
    ∃ m : Mention, m.piece = p ∧ m.inner ++ rest = cs := by
  unfold mention? at h
  simp only at h
  split at h
  case isFalse => cases h
  rename_i start
  have isName : IsName (String.ofList (cs.takeWhile isNameChar)).toList := by
    rw [String.toList_ofList]
    exact ⟨start, fun c mem => List.all_eq_true.1 List.all_takeWhile c mem⟩
  have whole : cs.takeWhile isNameChar ++ cs.dropWhile isNameChar = cs :=
    List.takeWhile_append_dropWhile
  split at h
  · rename_i after
    cases h
    rw [after] at whole
    exact ⟨⟨_, none, isName, nofun⟩, rfl, by simpa [Mention.inner] using whole⟩
  · rename_i text after
    split at h
    · rename_i closed
      cases h
      have noBrace : '}' ∉ text.takeWhile (· != '}') := fun mem => by
        simpa using List.all_eq_true.1 List.all_takeWhile _ mem
      have default : text.takeWhile (· != '}') ++ '}' :: rest = text := by
        rw [← closed, List.takeWhile_append_dropWhile]
      rw [after, ← default] at whole
      refine ⟨⟨_, some _, isName, ?_⟩, rfl, by simpa [Mention.inner] using whole⟩
      rintro _ ⟨⟩
      rwa [String.toList_ofList]
    · cases h
  · cases h

theorem piecesAux_append {fuel : Nat} {before : List Char}
    (plain : ∀ i < before.length, ∀ m : Mention, ¬ m.text <+: (before ++ cs).drop i) :
    piecesAux (fuel + before.length) (before ++ cs) = before.map .char ++ piecesAux fuel cs := by
  induction before with
  | nil => rfl
  | cons c before ih =>
    have tail := ih fun i less => plain (i + 1) (Nat.succ_lt_succ less)
    simp only [List.length_cons, List.cons_append, List.map_cons, ← Nat.add_assoc, piecesAux]
    split
    · rename_i same
      split
      · rename_i mention
        obtain ⟨m, rfl, rfl⟩ := exists_of_mention? mention
        have start := plain 0 (Nat.succ_pos _) m
        rw [List.drop_zero, List.cons_append, same] at start
        exact absurd ⟨_, rfl⟩ start
      · rw [tail]
    · rw [tail]

theorem piecesAux_eq {fuel : Nat} (plain : ∀ m : Mention, ¬ m.text <:+: cs)
    (enough : cs.length ≤ fuel) : piecesAux fuel cs = cs.map .char := by
  obtain ⟨fuel, rfl⟩ := Nat.exists_eq_add_of_le' enough
  have nothing : piecesAux fuel [] = [] := by cases fuel <;> rfl
  have all : piecesAux (fuel + cs.length) (cs ++ []) = cs.map .char ++ piecesAux fuel [] :=
    piecesAux_append fun i _ m start =>
      plain m ((List.append_nil cs ▸ start).isInfix.trans (List.drop_suffix i cs).isInfix)
  rwa [List.append_nil, nothing, List.append_nil] at all

theorem expandPieces_append (env : Environment) {ps : List Piece} :
    expandPieces env (cs.map .char ++ ps) = (expandPieces env ps).map (cs ++ ·) := by
  induction cs with
  | nil => cases h : expandPieces env ps <;> simp [h, Except.map]
  | cons c cs ih => cases h : expandPieces env ps <;> simp [expandPieces, ih, h, Except.map]

theorem expandPieces_char (env : Environment) : expandPieces env (cs.map .char) = .ok cs := by
  have all : expandPieces env (cs.map .char ++ []) = (expandPieces env []).map (cs ++ ·) :=
    expandPieces_append env
  simpa [expandPieces, Except.map] using all

/-- **A text that mentions no variable stays as it is.** -/
theorem expand_of_not_mentions (env : Environment) (h : ¬ Mentions s) : env.expand s = .ok s := by
  have plain := piecesAux_eq (fun m within => h ⟨m.text, m.placeholder, within⟩)
    (Nat.le_of_eq s.length_toList)
  simp [expand, pieces, plain, expandPieces_char, Except.map]

end Sidecar.Environment

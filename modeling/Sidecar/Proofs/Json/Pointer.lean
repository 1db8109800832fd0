import Sidecar.Json.Pointer

/-!
# Pointers

A written token has no slash (`Pointer.not_mem_escape`), so the slashes of a pointer are those
between its tokens.

* `Pointer.tokens?_ofTokens` : **the pointer of some tokens reads back as them**, whatever
  characters they have;
* `Pointer.isPointer_iff` : a text is a pointer exactly if it is empty, or begins with a slash and
  has a zero or a one after each tilde;
* `Pointer.isPointer_ofPath` : only a path that is meant as a pointer can fail to be one;
* `Pointer.tokens_of_dotted` : **the pointer of a dotted path has the segments of the path as its
  tokens**, but for those that are empty and for the dollar signs before the first one.

`Pointer.not_all_segments_kept` shows a first segment that loses a part of its name.
-/

namespace Sidecar.Pointer

/-! ### Tokens -/

variable {sep : Char} {part rest : List Char} {token : String} {tokens : List String}

/-- A written token has no slash. -/
theorem not_mem_escape : '/' ∉ (escape token).toList := by
  simp only [escape, String.toList_ofList, List.mem_flatMap, not_exists, not_and]
  intro c _
  unfold escapeChar
  split
  · simp
  · split
    · simp
    · rename_i differs
      simpa using Ne.symm differs

theorem splitChars_of_not_mem (h : sep ∉ part) : splitChars sep part = [part] := by
  induction part with
  | nil => rfl
  | cons c part ih =>
    obtain ⟨differs, absent⟩ := List.ne_and_not_mem_of_not_mem_cons h
    simp [splitChars, Ne.symm differs, ih absent]

theorem splitChars_append (h : sep ∉ part) :
    splitChars sep (part ++ sep :: rest) = part :: splitChars sep rest := by
  induction part with
  | nil => simp [splitChars]
  | cons c part ih =>
    obtain ⟨differs, absent⟩ := List.ne_and_not_mem_of_not_mem_cons h
    simp [splitChars, Ne.symm differs, ih absent]

theorem splitChars_intercalate {parts : List (List Char)} (some : parts ≠ [])
    (absent : ∀ part ∈ parts, sep ∉ part) : splitChars sep ([sep].intercalate parts) = parts := by
  induction parts with
  | nil => exact absurd rfl some
  | cons part parts ih =>
    obtain ⟨own, others⟩ := List.forall_mem_cons.1 absent
    cases parts with
    | nil => simpa using splitChars_of_not_mem own
    | cons next parts =>
      rw [List.intercalate_cons_cons, List.append_assoc, List.singleton_append,
        splitChars_append own, ih (List.cons_ne_nil _ _) others]

theorem toList_ofTokens :
    (ofTokens tokens).toList = tokens.flatMap fun t => '/' :: (escape t).toList := by
  have join (ts : List String) : (String.join ts).toList = ts.flatMap String.toList := by
    induction ts with
    | nil => rfl
    | cons t ts ih => simp [ih]
  rw [ofTokens, join, List.flatMap_map]
  congr 1
  funext t
  simp

theorem splitChars_tokens :
    splitChars '/' ((escape token).toList ++ tokens.flatMap fun t => '/' :: (escape t).toList) =
      (token :: tokens).map fun t => (escape t).toList := by
  induction tokens generalizing token with
  | nil => simpa using splitChars_of_not_mem not_mem_escape
  | cons t tokens ih =>
    rw [List.flatMap_cons, List.cons_append, splitChars_append not_mem_escape, ih]
    rfl

/-- **The pointer of some tokens reads back as them.** -/
theorem tokens?_ofTokens : tokens? (ofTokens tokens) = some tokens := by
  have read (ts : List String) :
      (ts.map fun t => (escape t).toList).mapM (fun t => unescape? (String.ofList t)) =
        some ts := by
    induction ts with
    | nil => rfl
    | cons t ts ih => simp [List.mapM_cons, unescape?_escape, ih]
  cases tokens with
  | nil => rfl
  | cons token tokens =>
    unfold tokens?
    rw [toList_ofTokens, List.flatMap_cons, List.cons_append]
    simp only
    rw [splitChars_tokens, read]

variable {c : Char} {cs : List Char} {parts : List (List Char)} {path s : String}

/-- A tilde that stands for nothing: neither a zero nor a one is after it. -/
def HasStrayTilde (cs : List Char) : Prop :=
  ∃ before after, cs = before ++ '~' :: after ∧ after.head? ≠ some '0' ∧ after.head? ≠ some '1'

/-- That a path is made up of segments with dots between them. -/
structure IsDotted (path : String) (segments : List String) : Prop where
  ne_nil : segments ≠ []
  dotless : ∀ s ∈ segments, '.' ∉ s.toList
  joined : ".".intercalate segments = path

/-- A segment without the dollar signs that it begins with. -/
def dropDollars (segment : String) : String := String.ofList (segment.toList.dropWhile (· == '$'))

/-- The segments of a path that name anything: those that are not empty, but for a first one that is
the mark of the root. -/
def named (segments : List String) : List String :=
  (if segments.head? = some "$" then segments.tail else segments).filter (· ≠ "")

/-- A path of dollar signs and then dots. -/
def IsBlank (path : String) : Prop :=
  ∃ m n, path.toList = List.replicate m '$' ++ List.replicate n '.'

/-! ### The parts of a text -/

theorem splitChars_ne_nil : splitChars sep cs ≠ [] := by
  cases cs with
  | nil => exact List.cons_ne_nil _ _
  | cons c cs =>
    unfold splitChars
    split
    · exact List.cons_ne_nil _ _
    · split <;> exact List.cons_ne_nil _ _

theorem splitChars_cons_of_ne (cs : List Char) (h : c ≠ sep) : ∃ part parts,
    splitChars sep cs = part :: parts ∧ splitChars sep (c :: cs) = (c :: part) :: parts := by
  have nonempty : splitChars sep cs ≠ [] := splitChars_ne_nil
  obtain ⟨part, parts, split⟩ := List.exists_cons_of_ne_nil nonempty
  exact ⟨part, parts, split, by rw [splitChars, if_neg h, split]⟩

theorem splitChars_cons_self : splitChars sep (sep :: cs) = [] :: splitChars sep cs := by
  rw [splitChars, if_pos rfl]

theorem intercalate_splitChars : [sep].intercalate (splitChars sep cs) = cs := by
  induction cs with
  | nil => rfl
  | cons c cs ih =>
    by_cases same : c = sep
    · have nonempty : splitChars sep cs ≠ [] := splitChars_ne_nil
      obtain ⟨part, parts, split⟩ := List.exists_cons_of_ne_nil nonempty
      rw [same, splitChars_cons_self, split, List.intercalate_cons_cons, ← split, ih]
      rfl
    · obtain ⟨part, parts, split, step⟩ := splitChars_cons_of_ne cs same
      rw [split] at ih
      rw [step]
      cases parts with
      | nil => simpa using ih
      | cons next parts => simpa [List.intercalate_cons_cons] using ih

theorem not_mem_of_mem_splitChars (mem : part ∈ splitChars sep cs) : sep ∉ part := by
  induction cs generalizing part with
  | nil =>
    rw [List.mem_singleton.1 mem]
    exact List.not_mem_nil
  | cons c cs ih =>
    by_cases same : c = sep
    · rw [same, splitChars_cons_self] at mem
      rcases List.mem_cons.1 mem with rfl | mem
      · exact List.not_mem_nil
      · exact ih mem
    · obtain ⟨first, parts, split, step⟩ := splitChars_cons_of_ne cs same
      rw [split] at ih
      rw [step] at mem
      rcases List.mem_cons.1 mem with rfl | mem
      · exact List.not_mem_cons_of_ne_of_not_mem (Ne.symm same) (ih List.mem_cons_self)
      · exact ih (List.mem_cons_of_mem _ mem)

theorem forall_splitChars_eq_nil : (∀ part ∈ splitChars sep cs, part = []) ↔ ∀ c ∈ cs, c = sep := by
  induction cs with
  | nil => simp [splitChars]
  | cons c cs ih =>
    by_cases same : c = sep
    · rw [same, splitChars_cons_self, List.forall_mem_cons, List.forall_mem_cons, ih]
      simp
    · obtain ⟨first, parts, -, step⟩ := splitChars_cons_of_ne cs same
      simp [step, same]

/-! ### Texts that are pointers -/

theorem hasStrayTilde_cons : HasStrayTilde (c :: cs) ↔
    c = '~' ∧ cs.head? ≠ some '0' ∧ cs.head? ≠ some '1' ∨ HasStrayTilde cs := by
  constructor
  · rintro ⟨before, after, split, stray⟩
    cases before with
    | nil =>
      cases split
      exact .inl ⟨rfl, stray⟩
    | cons d before =>
      cases split
      exact .inr ⟨before, after, rfl, stray⟩
  · rintro (⟨rfl, stray⟩ | ⟨before, after, rfl, stray⟩)
    · exact ⟨[], cs, rfl, stray⟩
    · exact ⟨c :: before, after, rfl, stray⟩

theorem not_hasStrayTilde_nil : ¬ HasStrayTilde [] := by
  rintro ⟨before, after, split, -⟩
  simp at split

theorem isSome_unescapeChars?_iff : (unescapeChars? cs).isSome = true ↔ ¬ HasStrayTilde cs := by
  fun_induction unescapeChars? cs with
  | case1 => simp [not_hasStrayTilde_nil]
  | case2 cs ih => simp [hasStrayTilde_cons, ih]
  | case3 cs ih => simp [hasStrayTilde_cons, ih]
  | case4 cs zero one =>
    have stray : cs.head? ≠ some '0' ∧ cs.head? ≠ some '1' := by
      cases cs with
      | nil => simp
      | cons d cs =>
        constructor <;> rintro ⟨⟩
        · exact zero cs rfl rfl
        · exact one cs rfl rfl
    simp [hasStrayTilde_cons, stray]
  | case5 c cs _ _ plain ih => simp [hasStrayTilde_cons, plain, ih]

theorem isSome_unescape?_iff : (unescape? s).isSome = true ↔ ¬ HasStrayTilde s.toList := by
  rw [unescape?, Option.isSome_map, isSome_unescapeChars?_iff]

theorem hasStrayTilde_append :
    HasStrayTilde (part ++ '/' :: rest) ↔ HasStrayTilde part ∨ HasStrayTilde rest := by
  induction part with
  | nil => simp [hasStrayTilde_cons, not_hasStrayTilde_nil]
  | cons c part ih =>
    rw [List.cons_append, hasStrayTilde_cons, hasStrayTilde_cons, ih, or_assoc]
    cases part <;> simp

theorem hasStrayTilde_intercalate :
    HasStrayTilde (['/'].intercalate parts) ↔ ∃ part ∈ parts, HasStrayTilde part := by
  induction parts with
  | nil => simp [not_hasStrayTilde_nil]
  | cons part parts ih =>
    cases parts with
    | nil => simp
    | cons next parts =>
      rw [List.intercalate_cons_cons, List.append_assoc, List.singleton_append,
        hasStrayTilde_append, ih]
      simp

/-- **A text is a pointer exactly if it is empty, or begins with a slash and has no tilde that
stands for nothing.** -/
theorem isPointer_iff :
    isPointer s = true ↔ s = "" ∨ s.toList.head? = some '/' ∧ ¬ HasStrayTilde s.toList := by
  have mapM_isSome (ts : List (List Char)) : (ts.mapM fun t => unescape? (String.ofList t)).isSome =
      ts.all fun t => (unescape? (String.ofList t)).isSome := by
    induction ts with
    | nil => rfl
    | cons t ts ih =>
      rw [List.mapM_cons, List.all_cons, ← ih]
      cases unescape? (String.ofList t) with
      | none => rfl
      | some u => cases ts.mapM fun t => unescape? (String.ofList t) <;> rfl
  have empty : s = "" ↔ s.toList = [] := String.toList_eq_nil_iff.symm
  unfold isPointer tokens?
  rw [empty]
  split
  · rename_i nothing
    simp [nothing]
  · rename_i cs slash
    have parts : HasStrayTilde cs ↔ ∃ part ∈ splitChars '/' cs, HasStrayTilde part := by
      rw [← hasStrayTilde_intercalate, intercalate_splitChars]
    rw [mapM_isSome, slash, hasStrayTilde_cons, parts]
    simp [isSome_unescape?_iff]
  · rename_i nonempty other
    refine iff_of_false nofun ?_
    rintro (nothing | ⟨slash, -⟩)
    · exact nonempty nothing
    · obtain ⟨cs, own⟩ := List.head?_eq_some_iff.1 slash
      exact other cs own

theorem isPointer_ofTokens {tokens : List String} : isPointer (ofTokens tokens) = true := by
  rw [isPointer, tokens?_ofTokens, Option.isSome_some]

/-! ### Paths -/

theorem ne_empty_of_slash (h : path.toList.head? = some '/') : path ≠ "" := by
  rintro rfl
  cases h

theorem ofPath_of_slash (h : path.toList.head? = some '/') : ofPath path = path := by
  obtain ⟨cs, own⟩ := List.head?_eq_some_iff.1 h
  simp only [ofPath, own]

theorem ofPath_of_ne (h : path.toList.head? ≠ some '/') : ofPath path = ofTokens
    (((splitChars '.' (path.toList.dropWhile (· == '$'))).filter fun p => !p.isEmpty).map
      String.ofList) := by
  unfold ofPath
  split
  · rename_i cs slash
    rw [slash] at h
    exact absurd rfl h
  · rfl

/-- **A path stands for a pointer unless it begins with a slash and has a tilde that stands for
nothing.** -/
theorem isPointer_ofPath : isPointer (ofPath path) = true ↔
    ¬ (path.toList.head? = some '/' ∧ HasStrayTilde path.toList) := by
  by_cases slash : path.toList.head? = some '/'
  · rw [ofPath_of_slash slash, isPointer_iff]
    simp [ne_empty_of_slash slash, slash]
  · rw [ofPath_of_ne slash]
    simp [isPointer_ofTokens, slash]

theorem ofTokens_eq_empty_iff {tokens : List String} : ofTokens tokens = "" ↔ tokens = [] := by
  rw [← String.toList_eq_nil_iff, toList_ofTokens]
  cases tokens <;> simp

/-- **A path stands for the whole document exactly if it is blank.** -/
theorem ofPath_eq_empty_iff : ofPath path = "" ↔ IsBlank path := by
  by_cases slash : path.toList.head? = some '/'
  · rw [ofPath_of_slash slash]
    constructor
    · intro empty
      exact absurd empty (ne_empty_of_slash slash)
    · rintro ⟨m, n, blank⟩
      rw [blank] at slash
      cases m <;> cases n <;> simp [List.replicate_succ] at slash
  · rw [ofPath_of_ne slash, ofTokens_eq_empty_iff, List.map_eq_nil_iff, List.filter_eq_nil_iff]
    have parts : (∀ p ∈ splitChars '.' (path.toList.dropWhile (· == '$')), ¬ (!p.isEmpty) = true) ↔
        ∀ c ∈ path.toList.dropWhile (· == '$'), c = '.' := by
      rw [← forall_splitChars_eq_nil]
      simp
    rw [parts]
    constructor
    · intro dots
      have dollars : ∀ c ∈ path.toList.takeWhile (· == '$'), c = '$' := fun c mem =>
        beq_iff_eq.1 (List.all_eq_true.1 List.all_takeWhile c mem)
      refine ⟨(path.toList.takeWhile (· == '$')).length,
        (path.toList.dropWhile (· == '$')).length, ?_⟩
      rw [← List.eq_replicate_of_mem dollars, ← List.eq_replicate_of_mem dots,
        List.takeWhile_append_dropWhile]
    · rintro ⟨m, n, blank⟩
      rw [blank, List.dropWhile_append_of_pos (by simp)]
      intro c mem
      exact List.eq_of_mem_replicate ((List.dropWhile_sublist _).subset mem)

/-! ### Segments -/

theorem isDotted_splitChars :
    IsDotted path ((splitChars '.' path.toList).map String.ofList) where
  ne_nil := by simpa using splitChars_ne_nil
  dotless := by
    intro s mem
    obtain ⟨part, own, rfl⟩ := List.mem_map.1 mem
    rw [String.toList_ofList]
    exact not_mem_of_mem_splitChars own
  joined := by
    apply String.toList_inj.1
    have whole : ['.'].intercalate (splitChars '.' path.toList) = path.toList :=
      intercalate_splitChars
    rw [String.toList_intercalate, List.map_map]
    simpa [Function.comp_def] using whole

namespace IsDotted

variable {first : String} {segments others : List String}

theorem splitChars_eq (h : IsDotted path segments) :
    splitChars '.' path.toList = segments.map String.toList := by
  rw [← h.joined, String.toList_intercalate]
  exact splitChars_intercalate (by simpa using h.ne_nil) (by simpa using h.dotless)

/-- A path has its segments in one way only. -/
theorem unique (h : IsDotted path segments) (h' : IsDotted path others) : segments = others := by
  have same : segments.map String.toList = others.map String.toList :=
    h.splitChars_eq.symm.trans h'.splitChars_eq
  exact (List.map_inj_right fun _ _ => String.toList_inj.1).1 same

theorem dropDollars (h : IsDotted path (first :: others)) :
    IsDotted (dropDollars path) (dropDollars first :: others) where
  ne_nil := List.cons_ne_nil _ _
  dotless := by
    obtain ⟨own, rest⟩ := List.forall_mem_cons.1 h.dotless
    refine List.forall_mem_cons.2 ⟨?_, rest⟩
    rw [Pointer.dropDollars, String.toList_ofList]
    exact fun mem => own ((List.dropWhile_sublist _).subset mem)
  joined := by
    apply String.toList_inj.1
    rw [← h.joined, String.toList_intercalate, Pointer.dropDollars, Pointer.dropDollars,
      String.toList_ofList, String.toList_intercalate]
    cases others with
    | nil => simp
    | cons next others =>
      have dot (cs : List Char) : ('.' :: cs).dropWhile (· == '$') = '.' :: cs := by simp
      simp [List.intercalate_cons_cons, List.dropWhile_append, dot]

theorem ofPath_eq (h : IsDotted path (first :: others)) (dotted : path.toList.head? ≠ some '/') :
    ofPath path = ofTokens ((Pointer.dropDollars first :: others).filter (· ≠ "")) := by
  have parts := h.dropDollars.splitChars_eq
  rw [Pointer.dropDollars, String.toList_ofList] at parts
  have kept : (fun s : String => !s.toList.isEmpty) = fun s => decide (s ≠ "") := by
    funext s
    rw [Bool.eq_iff_iff]
    simp
  rw [ofPath_of_ne dotted, parts, List.filter_map, List.map_map]
  simp only [Function.comp_def, String.ofList_toList, List.map_id', kept]

end IsDotted

theorem dropDollars_of_head?_ne {segment : String} (h : segment.toList.head? ≠ some '$') :
    dropDollars segment = segment := by
  have kept : segment.toList.dropWhile (· == '$') = segment.toList := by
    cases cs : segment.toList with
    | nil => rfl
    | cons c cs' =>
      rw [cs] at h
      exact List.dropWhile_cons_of_neg (by simpa using h)
  rw [dropDollars, kept, String.ofList_toList]

theorem length_dropDollars_lt {segment : String} (h : segment.toList.head? = some '$') :
    (dropDollars segment).toList.length < segment.toList.length := by
  rw [dropDollars, String.toList_ofList]
  cases cs : segment.toList with
  | nil =>
    rw [cs] at h
    cases h
  | cons c cs' =>
    rw [cs] at h
    cases h
    rw [List.dropWhile_cons_of_pos rfl, List.length_cons]
    exact Nat.lt_succ_of_le (List.dropWhile_sublist _).length_le

/-- Without the dollar signs before the first segment the same names are left exactly if these are
the mark of the root, or there are none. -/
theorem filter_dropDollars_eq_named_iff {first : String} {others : List String} :
    (dropDollars first :: others).filter (· ≠ "") = named (first :: others) ↔
      first = "$" ∨ first.toList.head? ≠ some '$' := by
  by_cases root : first = "$"
  · subst root
    have nothing : dropDollars "$" = "" := by decide
    simp [named, nothing]
  · have some : (first :: others).head? ≠ some "$" := by simpa using root
    rw [named, if_neg some]
    constructor
    · intro same
      refine .inr fun dollar => ?_
      have shorter := length_dropDollars_lt dollar
      have nonempty : first ≠ "" := by
        rintro rfl
        cases dollar
      have whole : (first :: others).filter (· ≠ "") = first :: others.filter (· ≠ "") :=
        List.filter_cons_of_pos (by simpa using nonempty)
      rw [whole, List.filter_cons] at same
      split at same
      · have kept := (List.cons.inj same).1
        rw [kept] at shorter
        exact absurd shorter (Nat.lt_irrefl _)
      · have length := congrArg List.length same
        simp at length
    · rintro (rfl | plain)
      · exact absurd rfl root
      · rw [dropDollars_of_head?_ne plain]

/-- What becomes of the segments of a path. -/
structure Tokenized (path first : String) (others : List String) : Prop where
  /-- The path has these segments. -/
  isDotted : IsDotted path (first :: others)
  /-- It has no others. -/
  unique : ∀ segments, IsDotted path segments → segments = first :: others
  isPointer : isPointer (ofPath path) = true
  /-- The tokens are the segments that are not empty, the first one without its dollar signs. -/
  tokens : tokens? (ofPath path) = some ((dropDollars first :: others).filter (· ≠ ""))
  /-- Each segment keeps its name exactly if the first one is the mark of the root or does not begin
  like it. -/
  named_iff : tokens? (ofPath path) = some (named (first :: others)) ↔
    first = "$" ∨ first.toList.head? ≠ some '$'

/-- **The pointer of a dotted path has the segments of the path as its tokens**, in order, but for
the empty ones and the dollar signs before the first one. -/
theorem tokens_of_dotted (path : String) (dotted : path.toList.head? ≠ some '/') :
    ∃ first others, Tokenized path first others := by
  obtain ⟨first, others, split⟩ : ∃ first others,
      (splitChars '.' path.toList).map String.ofList = first :: others :=
    List.exists_cons_of_ne_nil (by simpa using splitChars_ne_nil)
  have own : IsDotted path (first :: others) := split ▸ isDotted_splitChars
  have tokens : tokens? (ofPath path) = some ((dropDollars first :: others).filter (· ≠ "")) := by
    rw [own.ofPath_eq dotted, tokens?_ofTokens]
  refine ⟨first, others, own, fun segments h => h.unique own, ?_, tokens, ?_⟩
  · exact isPointer_ofPath.2 fun h => dotted h.1
  · rw [tokens, Option.some_inj, filter_dropDollars_eq_named_iff]

/-- The mark of the root goes, and a slash in a segment stays in it. -/
theorem tokens_of_dotted_root :
    "$.spec.a/b".toList.head? ≠ some '/' ∧
      tokens? (ofPath "$.spec.a/b") = some ["spec", "a/b"] := by
  have dotted : "$.spec.a/b".toList.head? ≠ some '/' := by decide
  obtain ⟨first, others, tokenized⟩ := tokens_of_dotted "$.spec.a/b" dotted
  have segments : ["$", "spec", "a/b"] = first :: others :=
    tokenized.unique _ ⟨by decide, by decide, by decide⟩
  cases segments
  exact ⟨dotted, tokenized.tokens⟩

/-- **A first segment that begins with a dollar sign loses it**, also where it is no mark of the
root. -/
theorem not_all_segments_kept :
    ¬ ∀ path segments, path.toList.head? ≠ some '/' → IsDotted path segments →
      tokens? (ofPath path) = some (named segments) := by
  intro keeps
  have own : IsDotted "$ref.name" ["$ref", "name"] := ⟨by decide, by decide, by decide⟩
  have kept : tokens? (ofPath "$ref.name") = some (named ["$ref", "name"]) :=
    keeps _ _ (by decide) own
  exact absurd kept (by decide +kernel)

end Sidecar.Pointer

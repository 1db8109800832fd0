import Sidecar.Proofs.Json.Pointer
import Sidecar.Proofs.Value.Members
import Sidecar.Storage.Patch

/-!
# Changing documents

How a cluster changes a document, in two ways:

* `PatchOperation.replaceAll?` carries replacements out one after another, each at the place that
  its pointer names, which has to be there (`Value.replace?`);
* `Value.merge` merges a patch into it: the members of an object one by one, where null takes a
  member away, and anything else in the place of what was there.

For texts both come to the same, which is to set members of an object below the document
(`Value.setTexts`): `replaceAll?_eq_setTexts` and `merge_nest_ofTexts` say so, and
`member?_setTexts` and `member?_setTexts_of_apart` say what that changes.
-/

namespace Sidecar

/-- The index that a token stands for in a list: digits without a leading zero. -/
def Pointer.index? (token : String) : Option Nat :=
  match token.toList with
  | ['0'] => some 0
  | '0' :: _ => none
  | cs => readNatural 10 cs

namespace Value

/-- The members of an object; nothing else has any. -/
def entries : Value → List (String × Value)
  | .object ms => ms
  | _ => []

/-- The member that keys lead to, from one object to the next. -/
def member? : List String → Value → Option Value
  | [], v => some v
  | key :: path, v => (v.get? key).bind (member? path)

/-- Replace what is at a place, which has to be there. -/
def replace? (v : Value) (path : List String) (new : Value) : Option Value :=
  match path, v with
  | [], _ => some new
  | token :: path, .object ms => do
    let w ← (← ms.lookup token).replace? path new
    return .object (insertMember token w ms)
  | token :: path, .list vs => do
    let i ← Pointer.index? token
    let w ← (← vs[i]?).replace? path new
    return .list (vs.set i w)
  | _ :: _, _ => none

/-- Whether a value takes a member away in a patch. -/
def isNull : Value → Bool
  | .null => true
  | _ => false

mutual

/-- Merge a patch into a document. -/
def merge (target : Value) : (patch : Value) → Value
  | .object ps => .object (mergeMembers target.entries ps)
  | v => v

/-- Merge the members of a patch one after another. -/
def mergeMembers (ms : List (String × Value)) : List (String × Value) → List (String × Value)
  | [] => ms
  | (key, v) :: ps =>
    if v.isNull then mergeMembers (ms.filter (·.1 != key)) ps
    else mergeMembers (insertMember key (merge ((ms.lookup key).getD .null) v) ms) ps

end

/-- Set members of the object that keys lead to, and make the objects on the way. -/
def setBelow (path : List String) (pairs : List (String × Value)) (v : Value) : Value :=
  match path with
  | [] => .object (setMembers pairs v.entries)
  | key :: path =>
    .object (insertMember key (setBelow path pairs ((v.get? key).getD .null)) v.entries)

end Value

namespace PatchOperation

/-- Carry a replacement out; other operations are not looked at here. -/
def replaceIn? (v : Value) : PatchOperation → Option Value
  | .replace path new => (Pointer.tokens? path).bind fun ts => v.replace? ts new
  | _ => none

/-- Carry replacements out one after another. -/
def replaceAll? (ops : List PatchOperation) (v : Value) : Option Value := ops.foldlM replaceIn? v

end PatchOperation

namespace Value

variable {v w new : Value} {key other : String} {path q shared : List String}
  {ms pairs more : List (String × Value)} {texts further : List (String × String)}

@[simp] theorem entries_object : (object ms).entries = ms := rfl

theorem get?_eq_lookup : v.get? key = v.entries.lookup key := by
  cases v <;> rfl

@[simp] theorem member?_nil : v.member? [] = some v := rfl

theorem member?_cons : v.member? (key :: path) = (v.get? key).bind (member? path) := rfl

@[simp] theorem get?_object_insertMember :
    (object (insertMember key w ms)).get? other = if other = key then some w else ms.lookup other :=
  lookup_insertMember

/-! ### Setting members below a document -/

theorem member?_null (h : q ≠ []) : null.member? q = none := by
  cases q with
  | nil => exact absurd rfl h
  | cons key q => rfl

theorem member?_getD (h : q ≠ []) : ((v.get? key).getD .null).member? q = v.member? (key :: q) := by
  rw [member?_cons]
  cases v.get? key with
  | none => exact member?_null h
  | some w => rfl

theorem setBelow_setBelow :
    setBelow path more (setBelow path pairs v) = setBelow path (pairs ++ more) v := by
  induction path generalizing v with
  | nil => simp [setBelow, setMembers_append]
  | cons key path ih => simp [setBelow, ih, insertMember_insertMember_self]

theorem setBelow_comm (h : key ≠ other) :
    setBelow (shared ++ [key]) pairs (setBelow (shared ++ [other]) more v) =
      setBelow (shared ++ [other]) more (setBelow (shared ++ [key]) pairs v) := by
  induction shared generalizing v with
  | nil => simp [setBelow, h, h.symm, insertMember_comm h, get?_eq_lookup (v := v)]
  | cons k shared ih => simp [setBelow, ih, insertMember_insertMember_self]

theorem member?_setBelow :
    (setBelow path pairs v).member? (path ++ [key]) =
      (pairs.reverse.lookup key).or (v.member? (path ++ [key])) := by
  induction path generalizing v with
  | nil =>
    simp only [setBelow, List.nil_append, member?_cons, get?_eq_lookup, entries_object,
      lookup_setMembers]
    cases pairs.reverse.lookup key <;> simp
  | cons k path ih =>
    rw [List.cons_append, setBelow, member?_cons, get?_object_insertMember, if_pos rfl,
      Option.bind_some, ih, member?_getD (by simp)]

/-- **Nothing else changes**: neither what is apart from the members that are set, nor what is above
them. -/
theorem member?_setBelow_of_apart (some : pairs ≠ [])
    (h : ∀ p ∈ pairs, ¬ path ++ [p.1] <+: q ∧ ¬ q <+: path ++ [p.1]) :
    (setBelow path pairs v).member? q = v.member? q := by
  obtain ⟨p, mem⟩ := List.exists_mem_of_ne_nil pairs some
  induction path generalizing v q with
  | nil =>
    cases q with
    | nil => exact absurd List.nil_prefix (h p mem).2
    | cons k q =>
      have unset : pairs.reverse.lookup k = none := by
        refine List.lookup_eq_none_iff.2 fun p mem => bne_iff_ne.2 ?_
        rintro rfl
        exact (h p (List.mem_reverse.1 mem)).1 (by simp)
      simp only [setBelow, member?_cons, get?_eq_lookup, entries_object, lookup_setMembers, unset,
        Option.none_or]
  | cons t path ih =>
    cases q with
    | nil => exact absurd List.nil_prefix (h p mem).2
    | cons k q =>
      rw [setBelow, member?_cons, get?_object_insertMember]
      by_cases same : k = t
      · subst same
        have below : ∀ p ∈ pairs, ¬ path ++ [p.1] <+: q ∧ ¬ q <+: path ++ [p.1] := by
          simpa [List.cons_prefix_cons] using h
        have deep : q ≠ [] := by
          rintro rfl
          exact (below p mem).2 List.nil_prefix
        rw [if_pos rfl, Option.bind_some, ih below, member?_getD deep]
      · rw [if_neg same, member?_cons, get?_eq_lookup]

theorem replace?_eq_setBelow (h : (v.member? (path ++ [key])).isSome = true) :
    v.replace? (path ++ [key]) new = some (setBelow path [(key, new)] v) := by
  induction path generalizing v with
  | nil =>
    cases v with
    | object ms =>
      cases there : ms.lookup key with
      | none => simp [member?_cons, get?, there] at h
      | some w => simp [replace?, there, setBelow, setMembers]
    | _ => cases h
  | cons k path ih =>
    cases v with
    | object ms =>
      cases there : ms.lookup k with
      | none => simp [member?_cons, get?, there] at h
      | some w =>
        have inside : (w.member? (path ++ [key])).isSome = true := by
          simpa [member?_cons, get?, there] using h
        simp [replace?, there, ih inside, setBelow, get?]
    | _ => cases h

/-! ### Setting texts -/

/-- Set texts below a document; none leave it as it is. -/
def setTexts (path : List String) (texts : List (String × String)) (v : Value) : Value :=
  if texts.isEmpty then v else v.setBelow path (texts.map fun p => (p.1, text p.2))

@[simp] theorem setTexts_nil : setTexts path [] v = v := rfl

theorem setTexts_of_ne_nil (h : texts ≠ []) :
    setTexts path texts v = setBelow path (texts.map fun p => (p.1, text p.2)) v :=
  if_neg (by simpa using h)

theorem setTexts_setTexts :
    setTexts path further (setTexts path texts v) = setTexts path (texts ++ further) v := by
  by_cases empty : texts = []
  · simp [empty]
  by_cases no_more : further = []
  · simp [no_more]
  rw [setTexts_of_ne_nil no_more, setTexts_of_ne_nil empty, setBelow_setBelow,
    setTexts_of_ne_nil (List.append_ne_nil_of_left_ne_nil empty _), List.map_append]

theorem setTexts_comm (h : key ≠ other) :
    setTexts (shared ++ [key]) texts (setTexts (shared ++ [other]) further v) =
      setTexts (shared ++ [other]) further (setTexts (shared ++ [key]) texts v) := by
  by_cases empty : texts = []
  · simp [empty]
  by_cases no_more : further = []
  · simp [no_more]
  simp only [setTexts_of_ne_nil empty, setTexts_of_ne_nil no_more]
  exact setBelow_comm h

/-- A member that is set has the text that was set last for its key. -/
theorem member?_setTexts :
    (setTexts path texts v).member? (path ++ [key]) =
      ((texts.reverse.lookup key).map text).or (v.member? (path ++ [key])) := by
  by_cases empty : texts = []
  · simp [empty]
  have as_value (ts : List (String × String)) :
      (ts.map fun p => (p.1, text p.2)).lookup key = (ts.lookup key).map text := by
    induction ts with
    | nil => rfl
    | cons t ts ih =>
      obtain ⟨k, u⟩ := t
      simp only [List.map_cons, List.lookup_cons, ih]
      cases key == k <;> rfl
  rw [setTexts_of_ne_nil empty, member?_setBelow, ← List.map_reverse, as_value]

theorem member?_setTexts_of_apart (h : ∀ p ∈ texts, ¬ path ++ [p.1] <+: q ∧ ¬ q <+: path ++ [p.1]) :
    (setTexts path texts v).member? q = v.member? q := by
  by_cases empty : texts = []
  · simp [empty]
  rw [setTexts_of_ne_nil empty]
  exact member?_setBelow_of_apart (by simpa using empty) (List.forall_mem_map.2 h)

theorem isSome_member?_setTexts (length : q.length = path.length + 1)
    (h : (v.member? q).isSome = true) : ((setTexts path texts v).member? q).isSome = true := by
  by_cases set : ∃ p ∈ texts, path ++ [p.1] = q
  · obtain ⟨p, -, rfl⟩ := set
    rw [member?_setTexts, Option.isSome_or, h, Bool.or_true]
  · have apart : ∀ p ∈ texts, ¬ path ++ [p.1] <+: q ∧ ¬ q <+: path ++ [p.1] := by
      refine fun p mem => ⟨fun above => set ⟨p, mem, above.eq_of_length ?_⟩,
        fun below => set ⟨p, mem, (below.eq_of_length ?_).symm⟩⟩ <;> simp [length]
    rw [member?_setTexts_of_apart apart]
    exact h

/-! ### Replacing texts -/

theorem replaceAll?_append {ops next : List PatchOperation} :
    PatchOperation.replaceAll? (ops ++ next) v =
      (PatchOperation.replaceAll? ops v).bind (PatchOperation.replaceAll? next) :=
  List.foldlM_append

/-- **Replacements of texts that are there set them**, the last of a key counting. -/
theorem replaceAll?_eq_setTexts (h : ∀ p ∈ texts, (v.member? (path ++ [p.1])).isSome = true) :
    PatchOperation.replaceAll?
      (texts.map fun p => .replaceText (Pointer.ofTokens (path ++ [p.1])) p.2) v =
      some (setTexts path texts v) := by
  induction texts generalizing v with
  | nil => rfl
  | cons p texts ih =>
    obtain ⟨first, rest⟩ := List.forall_mem_cons.1 h
    have step : PatchOperation.replaceIn? v
        (.replaceText (Pointer.ofTokens (path ++ [p.1])) p.2) = some (setTexts path [p] v) := by
      simp only [PatchOperation.replaceText, PatchOperation.replaceIn?, Pointer.tokens?_ofTokens,
        Option.bind_some]
      exact replace?_eq_setBelow first
    -- what is there stays there
    have kept : ∀ r ∈ texts, ((setTexts path [p] v).member? (path ++ [r.1])).isSome = true :=
      fun r mem => isSome_member?_setTexts (by simp) (rest r mem)
    have later := ih kept
    unfold PatchOperation.replaceAll? at later ⊢
    rw [List.map_cons, List.foldlM_cons, step, Option.bind_eq_bind, Option.bind_some, later,
      setTexts_setTexts]
    rfl

/-! ### Merging texts -/

/-- A value below an otherwise empty document. -/
def nest : List String → Value → Value
  | [], v => v
  | key :: path, v => .object [(key, nest path v)]

theorem mergeMembers_append :
    mergeMembers ms (pairs ++ more) = mergeMembers (mergeMembers ms pairs) more := by
  induction pairs generalizing ms with
  | nil => rw [List.nil_append, mergeMembers]
  | cons p pairs ih =>
    simp only [List.cons_append, mergeMembers, ih]
    split <;> rfl

theorem merge_nest_append :
    v.merge (nest path (.object (pairs ++ more))) =
      (v.merge (nest path (.object pairs))).merge (nest path (.object more)) := by
  induction path generalizing v with
  | nil => simp only [nest, merge, mergeMembers_append, entries_object]
  | cons key path ih =>
    have filled (ps : List (String × Value)) : (nest path (.object ps)).isNull = false := by
      cases path <;> rfl
    simp [nest, merge, mergeMembers, filled, ih, insertMember_insertMember_self,
      lookup_insertMember]

/-- **Merging an object of texts sets them.** -/
theorem merge_nest_ofTexts :
    v.merge (nest path (ofTexts texts)) =
      setBelow path (texts.map fun p => (p.1, text p.2)) v := by
  induction path generalizing v with
  | nil =>
    have set (ts : List (String × String)) (ms : List (String × Value)) :
        mergeMembers ms (ts.map fun p => (p.1, text p.2)) =
          setMembers (ts.map fun p => (p.1, text p.2)) ms := by
      induction ts generalizing ms with
      | nil => rw [List.map_nil, mergeMembers]; rfl
      | cons t ts ih =>
        rw [List.map_cons, setMembers_cons, ← ih]
        simp [mergeMembers, isNull, merge]
    rw [nest, ofTexts, ofPairs, merge, members_map, set, ← members_map, setMembers_members,
      setBelow]
  | cons key path ih =>
    have filled : (nest path (ofTexts texts)).isNull = false := by
      cases path <;> rfl
    simp [nest, merge, mergeMembers, filled, ih, setBelow, get?_eq_lookup]

end Value

end Sidecar

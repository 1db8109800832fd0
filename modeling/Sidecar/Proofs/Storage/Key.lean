import Sidecar.Proofs.Json.Pointer
import Sidecar.Proofs.Storage.Agreement

/-!
# Keys as tokens

The key of an annotation or of a label may be any text; it is written as one token of the pointer
that names its place.  Writing a token is replacing tildes and then slashes
(`Pointer.escape_eq_replaceAll`), and reading one is replacing what they were written as, in the
other order (`Pointer.decode`).

* `Pointer.decode_of_unescape?` : on every token that can be read at all, the two replacements come
  to the same as reading it once from left to right;
* `InKubeConfig.tokens_of_key` : **a key is read back from its token and from its place**, and the
  token has neither a slash nor a tilde that stands for nothing.
-/

namespace Sidecar

namespace Pointer

variable {c x y : Char} {cs ds old new : List Char} {s t : String}

/-! ### Replacing -/

/-- Replace each occurrence of a text that is not empty, from left to right; the first characters
are left out, those of the occurrence before them. -/
def replacing (old new : List Char) : (skipped : Nat) → List Char → List Char
  | _, [] => []
  | k + 1, _ :: cs => replacing old new k cs
  | 0, c :: cs =>
    if old.isPrefixOf (c :: cs) then new ++ replacing old new (old.length - 1) cs
    else c :: replacing old new 0 cs

/-- A text with each occurrence of another replaced. -/
def replaceAll (s old new : String) : String :=
  String.ofList (replacing old.toList new.toList 0 s.toList)

theorem toList_replaceAll {old new : String} :
    (replaceAll s old new).toList = replacing old.toList new.toList 0 s.toList :=
  String.toList_ofList

/-- The token that is written so: slashes are put back before tildes are. -/
def decode (written : String) : String := replaceAll (replaceAll written "~1" "/") "~0" "~"

theorem replacing_singleton :
    replacing [x] new 0 cs = cs.flatMap fun c => if c = x then new else [c] := by
  induction cs with
  | nil => rfl
  | cons c cs ih =>
    by_cases same : c = x
    · simp [replacing, same, ih]
    · simp [replacing, same, Ne.symm same, ih]

theorem replacing_pair_of_ne (h : c ≠ x) :
    replacing [x, y] new 0 (c :: cs) = c :: replacing [x, y] new 0 cs := by
  rw [replacing, if_neg (by simp [Ne.symm h])]

theorem replacing_pair_self :
    replacing [x, y] new 0 (x :: y :: cs) = new ++ replacing [x, y] new 0 cs := by
  simp [replacing]

theorem replacing_pair_cons (second : c ≠ y) (first : c ≠ x) :
    replacing [x, y] new 0 (x :: c :: cs) = x :: c :: replacing [x, y] new 0 cs := by
  rw [replacing, if_neg (by simp [Ne.symm second]), replacing_pair_of_ne first]

/-! ### Tokens -/

/-- **A token is written by replacing its tildes and then its slashes.** -/
theorem escape_eq_replaceAll :
    escape s = replaceAll (replaceAll s "~" "~0") "/" "~1" := by
  have each (c : Char) : (if c = '~' then ['~', '0'] else [c]).flatMap
      (fun c => if c = '/' then ['~', '1'] else [c]) = escapeChar c := by
    by_cases tilde : c = '~'
    · simp [tilde, escapeChar]
    · simp [tilde, escapeChar]
  have passes : replacing ['/'] ['~', '1'] 0 (replacing ['~'] ['~', '0'] 0 s.toList) =
      s.toList.flatMap escapeChar := by
    rw [replacing_singleton, replacing_singleton, List.flatMap_assoc]
    simp only [each]
  apply String.toList_inj.1
  rw [escape, String.toList_ofList, toList_replaceAll, toList_replaceAll]
  exact passes.symm

/-- **What can be read from left to right is read by two replacements as well.** -/
theorem decode_of_unescape? (h : unescape? t = some s) : decode t = s := by
  -- the slash that the first replacement puts is not looked at by the second
  have passes (cs ds : List Char) (h : unescapeChars? cs = some ds) :
      replacing ['~', '0'] ['~'] 0 (replacing ['~', '1'] ['/'] 0 cs) = ds := by
    fun_induction unescapeChars? cs generalizing ds with
    | case1 => exact Option.some.inj h
    | case2 cs ih =>
      obtain ⟨rest, read, rfl⟩ := Option.map_eq_some_iff.1 h
      rw [replacing_pair_cons (by decide) (by decide), replacing_pair_self, ih rest read]
      rfl
    | case3 cs ih =>
      obtain ⟨rest, read, rfl⟩ := Option.map_eq_some_iff.1 h
      rw [replacing_pair_self, List.singleton_append, replacing_pair_of_ne (by decide),
        ih rest read]
    | case4 => cases h
    | case5 c cs _ _ plain ih =>
      obtain ⟨rest, read, rfl⟩ := Option.map_eq_some_iff.1 h
      rw [replacing_pair_of_ne plain, replacing_pair_of_ne plain, ih rest read]
  obtain ⟨ds, read, rfl⟩ := Option.map_eq_some_iff.1 h
  apply String.toList_inj.1
  rw [String.toList_ofList, decode, toList_replaceAll, toList_replaceAll]
  exact passes t.toList ds read

/-- In the other order the replacements would take the tilde of one token for the mark of a
slash. -/
example : replaceAll (replaceAll (escape "~1") "~0" "~") "~1" "/" = "/" ∧
    decode (escape "~1") = "~1" := by decide

theorem not_hasStrayTilde_escape : ¬ HasStrayTilde (escape s).toList :=
  isSome_unescape?_iff.1 (by rw [unescape?_escape, Option.isSome_some])

theorem escape_injective : Function.Injective escape := by
  intro s t same
  have read : unescape? (escape s) = unescape? (escape t) := congrArg unescape? same
  rw [unescape?_escape, unescape?_escape] at read
  exact Option.some.inj read

/-- How a token is written. -/
structure WrittenAs (token written : String) : Prop where
  /-- Its tildes are replaced first, then its slashes. -/
  replaced : written = replaceAll (replaceAll token "~" "~0") "/" "~1"
  slashless : '/' ∉ written.toList
  /-- After each tilde there is a zero or a one. -/
  paired : ¬ HasStrayTilde written.toList
  /-- It is read by the replacements in the other order. -/
  decoded : decode written = token

theorem writtenAs_escape : WrittenAs s (escape s) where
  replaced := escape_eq_replaceAll
  slashless := not_mem_escape
  paired := not_hasStrayTilde_escape
  decoded := decode_of_unescape? unescape?_escape

end Pointer

/-! ### Keys -/

/-- **A key is read back from its token and from its place**, whatever characters it has. -/
theorem InKubeConfig.tokens_of_key :
    (∀ token, Pointer.WrittenAs token (Pointer.escape token)) ∧
    Function.Injective Pointer.escape ∧
    ∀ key, Pointer.tokens? (annotationPath key) = some ["metadata", "annotations", key] ∧
      Pointer.tokens? (labelPath key) = some ["metadata", "labels", key] := by
  refine ⟨fun _ => Pointer.writtenAs_escape, Pointer.escape_injective, fun key => ⟨?_, ?_⟩⟩
  · rw [annotationPath_eq, Pointer.tokens?_ofTokens]
    rfl
  · rw [labelPath_eq, Pointer.tokens?_ofTokens]
    rfl

end Sidecar

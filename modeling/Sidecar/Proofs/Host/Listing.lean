import Sidecar.Proofs.Host.Clock

/-!
# The beginning of all polling

To begin polling a call lists the names, looks each up, and starts a task for each that is found
(`Host.listing`).  It waits for nothing on the way, so all of that is done before time passes:
`Host.Elapses.lists`.
-/

namespace Sidecar.Host

open HostExchange (of)

/-- The task that begins to poll what was found at a position. -/
def pollTask (settings : HostSettings) (position : Nat) (name : String) (e : Entry) : HostTask :=
  .pollAfter (pollDelay settings position) (pollInterval settings) name e.plugin e.registration

/-- What is asked about the names from a position on, the oldest first: each is looked up, and a task
is started for what was found. -/
def listing (settings : HostSettings) : Nat → List (String × Option Entry) → List HostExchange
  | _, [] => []
  | i, (name, none) :: found => of (.lookup name) none :: listing settings (i + 1) found
  | i, (name, some e) :: found =>
    of (.lookup name) (some e) :: of (.spawn (pollTask settings i name e)) () ::
      listing settings (i + 1) found

/-- Whether a call has begun all polling at an instant, given what it has found. -/
structure Listed (settings : HostSettings) (j start : Nat) (found : List (String × Option Entry))
    (log : List (Nat × Event)) : Prop where
  asked : (own j (events log)).reverse =
    of .names (found.map Prod.fst) :: listing settings 0 found
  prompt : ∀ x ∈ log, x.1 = start

variable {settings : HostSettings} {config : Config} {es : List Event}
  {log later : List (Nat × Event)} {w w' w₀ : World} {j start now i : Nat} {c : HostCall}
  {found : List (String × Option Entry)} {name : String} {entry : Entry}

theorem listing_append {more : List (String × Option Entry)} :
    listing settings i (found ++ more) =
      listing settings i found ++ listing settings (i + found.length) more := by
  induction found generalizing i with
  | nil => rfl
  | cons x found ih =>
    obtain ⟨name, entry⟩ := x
    have next : i + (found.length + 1) = i + 1 + found.length := by omega
    rw [List.length_cons, next]
    cases entry with
    | none => exact congrArg _ ih
    | some e => exact congrArg (fun l => _ :: _ :: l) ih

theorem listing_of_found (settings : HostSettings) (position : Nat)
    (h : found[i]? = some (name, some entry)) :
    ∃ before after, listing settings position found =
      before ++ of (.lookup name) (some entry) ::
        of (.spawn (pollTask settings (position + i) name entry)) () :: after := by
  obtain ⟨lt, at_⟩ := List.getElem?_eq_some_iff.1 h
  refine ⟨listing settings position (found.take i),
    listing settings (position + i + 1) (found.drop (i + 1)), ?_⟩
  have split : found = found.take i ++ (name, some entry) :: found.drop (i + 1) := by
    rw [← at_, List.getElem_cons_drop, List.take_append_drop]
  have length : (found.take i).length = i := List.length_take_of_le (Nat.le_of_lt lt)
  conv_lhs => rw [split, listing_append, length]
  rfl

theorem exists_of_own_events {x : HostExchange} {newer older : List HostExchange}
    (h : own j (events log) = newer ++ x :: older) :
    ∃ later t c earlier, log = later ++ (t, .asked j c x) :: earlier ∧
      own j (events later) = newer ∧ own j (events earlier) = older := by
  obtain ⟨later, c, earlier, split, hnew, hold⟩ := exists_of_own h
  obtain ⟨later, rest, rfl, rfl, hrest⟩ := List.map_eq_append_iff.1 split
  obtain ⟨⟨t, e⟩, earlier, rfl, rfl, rfl⟩ := List.map_eq_cons_iff.1 hrest
  exact ⟨later, t, c, earlier, rfl, hnew, hold⟩

/-- **For what was found at a position a task was started** right after, at the same instant. -/
theorem Listed.started (h : Listed settings j start found log)
    (at_ : found[i]? = some (name, some entry)) :
    ∃ later c between c' earlier,
      log = later ++ (start, .asked j c (of (.spawn (pollTask settings i name entry)) ())) ::
        (between ++ (start, .asked j c' (of (.lookup name) (some entry))) :: earlier) ∧
      own j (events between) = [] := by
  obtain ⟨before, after, split⟩ := listing_of_found settings 0 at_
  have asked := h.asked
  rw [split, Nat.zero_add, ← List.cons_append, List.reverse_eq_iff, List.reverse_append,
    List.reverse_cons, List.reverse_cons, List.append_assoc, List.append_assoc] at asked
  obtain ⟨later, t, c, rest, rfl, -, older⟩ := exists_of_own_events asked
  change own j (events rest) = [] ++ _ :: _ at older
  obtain ⟨between, t', c', earlier, rfl, unasked, -⟩ := exists_of_own_events older
  obtain rfl : t = start := h.prompt _ (List.mem_append_right _ List.mem_cons_self)
  obtain rfl : t' = t :=
    h.prompt _ (List.mem_append_right _ (List.mem_cons_of_mem _
      (List.mem_append_right _ List.mem_cons_self)))
  exact ⟨later, c, between, c', earlier, rfl, unasked⟩

/-! ### Nothing is waited for -/

/-- What remains of a call that begins all polling and then goes on, after what it has asked, the
newest first. -/
inductive Lists (settings : HostSettings) (k : Unit → Hosting α) :
    List HostExchange → Hosting α → Prop
  | begins : Lists settings k [] (startPolling settings >>= k)
  | looks (found : List (String × Option Entry)) (name : String) (names : List String) :
      Lists settings k
        (of .names (found.map Prod.fst ++ name :: names) :: listing settings 0 found).reverse
        (pollEach settings found.length (name :: names) >>= k)
  | starts (found : List (String × Option Entry)) (name : String) (e : Entry)
      (names : List String) :
      Lists settings k
        (of (.lookup name) (some e) ::
          (of .names (found.map Prod.fst ++ name :: names) :: listing settings 0 found).reverse)
        (Activity.ask (.spawn (pollTask settings found.length name e))
          fun _ => pollEach settings (found.length + 1) names >>= k)

/-- Whether a call has begun all polling with what it has asked, the newest first. -/
def Complete (settings : HostSettings) (past : List HostExchange) : Prop :=
  ∃ found : List (String × Option Entry),
    past.reverse = of .names (found.map Prod.fst) :: listing settings 0 found

variable {α : Type} {k : Unit → Hosting α} {past : List HostExchange} {x : Hosting α}

theorem lists_of_found (found : List (String × Option Entry)) {names : List String}
    (asked : past.reverse = of .names (found.map Prod.fst ++ names) :: listing settings 0 found) :
    Lists settings k past (pollEach settings found.length names >>= k) ∨
      Complete settings past := by
  obtain rfl := List.reverse_eq_iff.1 asked
  cases names with
  | nil => exact .inr ⟨found, by rw [List.reverse_reverse, List.append_nil]⟩
  | cons name names => exact .inl (.looks found name names)

theorem lists_of_next (name : String) (entry : Option Entry) {names : List String}
    (asked : past.reverse = of .names (found.map Prod.fst ++ name :: names) ::
      (listing settings 0 found ++ listing settings found.length [(name, entry)])) :
    Lists settings k past (pollEach settings (found.length + 1) names >>= k) ∨
      Complete settings past := by
  have length : (found ++ [(name, entry)]).length = found.length + 1 := List.length_append
  rw [← length]
  refine lists_of_found _ (asked.trans ?_)
  rw [listing_append, List.map_append, List.append_assoc, Nat.zero_add]
  rfl

/-- **An answer brings it on**: what remains is still to be asked, or all was. -/
theorem Lists.asked {q : HostAsk} {next : q.Reply → Hosting α}
    (h : Lists settings k past (Activity.ask q next)) (r : q.Reply) :
    Lists settings k (of q r :: past) (next r) ∨ Complete settings (of q r :: past) := by
  generalize hx : (Activity.ask q next : Hosting α) = x at h
  cases h with
  | begins =>
    cases hx
    exact lists_of_found [] rfl
  | looks found name names =>
    cases hx
    cases r with
    | none =>
      refine lists_of_next name none ?_
      rw [List.reverse_cons, List.reverse_reverse]
      rfl
    | some e => exact .inl (.starts found name e names)
  | starts found name e names =>
    cases hx
    refine lists_of_next name (some e) ?_
    rw [List.reverse_cons, List.reverse_cons, List.reverse_reverse, List.append_assoc]
    rfl

theorem isWait_of_isPolling {q : HostAsk} (h : q.isPolling = true) : q.isWait = false := by
  cases q <;> first | rfl | cases h

theorem not_rests_of_isPolling {q : HostAsk} (h : q.isPolling = true) {host : Host}
    {until_ : Nat} : ¬ HostAsk.Rests host until_ q := by
  cases q <;> first | exact id | cases h

theorem Lists.exists_ask (h : Lists settings k past x) :
    ∃ q next, x = Activity.ask q next ∧ HostAsk.isPolling q = true := by
  cases h with
  | begins => exact ⟨_, _, rfl, rfl⟩
  | looks => exact ⟨_, _, rfl, rfl⟩
  | starts => exact ⟨_, _, rfl, rfl⟩

/-! ### All polling has begun before time passes -/

/-- Where a call is that begins all polling: it still lists what there is, at the same instant, or all
that was done at that instant. -/
def Lister (settings : HostSettings) (j : Nat) (c : HostCall) (k : Unit → Hosting c.Result)
    (start : Nat) (log : List (Nat × Event)) (w : World) (now : Nat) : Prop :=
  (∃ x, w.jobs j = some ⟨c, x⟩ ∧ Lists settings k (own j (events log)) x ∧ now = start) ∨
    ∃ later prompt found, log = later ++ prompt ∧ Listed settings j start found prompt

/-- **All polling has begun before time passes**, whatever else goes on. -/
theorem Elapses.lists (t : Trace config es w₀) {k : Unit → Hosting c.Result}
    (doing : w₀.jobs j = some ⟨c, startPolling settings >>= k⟩)
    (h : Elapses config w₀ start log w now) : Lister settings j c k start log w now := by
  induction h with
  | nil => exact .inl ⟨_, doing, .begins, rfl⟩
  | @happens log w₁ w₂ now e before step onTime ih =>
    rcases ih with ⟨x, doing, lists, rfl⟩ | ⟨later, prompt, found, rfl, listed⟩
    · -- the clock has stood still
      have prompt : ∀ y ∈ (now, e) :: log, y.1 = now :=
        List.forall_mem_cons.2 ⟨rfl, fun y mem =>
          Nat.le_antisymm (before.le_of_mem mem).2 (before.le_of_mem mem).1⟩
      cases goes_of_step (t.append before.steps).fresh step doing with
      | same doing' others =>
        refine .inl ⟨x, doing', ?_, rfl⟩
        rwa [events_cons, own_cons_of_ne others]
      | @asked q next r doing' =>
        rcases lists.asked r with lists | ⟨found, asked⟩
        · refine .inl ⟨_, doing', ?_, rfl⟩
          rw [events_cons, own_asked]
          exact lists
        · refine .inr ⟨[], _, found, rfl, ?_, prompt⟩
          rw [events_cons, own_asked]
          exact asked
      | ended =>
        obtain ⟨q, next, heq, -⟩ := lists.exists_ask
        cases heq
      | dropped waits outside =>
        obtain ⟨q, next, heq, polling⟩ := lists.exists_ask
        cases heq
        cases (isWait_of_isPolling polling).symm.trans waits
    · exact .inr ⟨_ :: later, prompt, found, rfl, listed⟩
  | @passes log w₁ now now' before forward whole rests ih =>
    rcases ih with ⟨x, doing, lists, -⟩ | listed
    · obtain ⟨q, next, rfl, polling⟩ := lists.exists_ask
      exact absurd (rests j _ doing) (not_rests_of_isPolling polling)
    · exact .inr listed

end Sidecar.Host

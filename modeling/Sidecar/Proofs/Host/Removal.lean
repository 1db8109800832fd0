import Sidecar.Proofs.Host.Play

/-!
# Removals

A removal looks the entry of a name up, stops its plugin and takes the entry of the name out, and
others may act at each of these steps.  An entry is known by its registration.

* `Host.Trace.entry_since` : an entry is the one that was there before, or it was registered since;
* `Host.Trace.removal` : what a removal takes out is the entry that it has looked up **exactly if
  nothing was registered under the name since**;
* `Host.Trace.failed_removal` : a removal that fails has changed nothing.

`Host.replaced_while_stopping` shows that a removal can take out an instance that nobody stopped.
-/

namespace Sidecar.Host

open HostExchange (of)

/-- Whether an instance is registered under a name with an event. -/
def Event.Registers (name : String) (e : Event) : Prop :=
  ∃ plugin order, e.op? = some (.insert name plugin order)

variable {config : Config} {es : List Event} {w w' : World} {e : Event} {name : String}

theorem Trace.entry_of_step (t : Trace config es w) (step : Step config w e w') {entry : Entry}
    (h : w'.get? name = some entry) :
    (¬ e.Registers name ∧ ∃ old, w.get? name = some old ∧
        old.registration = entry.registration ∧ old.plugin = entry.plugin) ∨
      e.Registers name ∧ entry.registration = [w.host.registry.scopes.next] := by
  rw [t.get?_of_step step] at h
  cases hop : e.op? with
  | none =>
    rw [hop] at h
    refine .inl ⟨?_, entry, h, rfl, rfl⟩
    rintro ⟨plugin, order, heq⟩
    cases hop.symm.trans heq
  | some op =>
    rw [hop] at h
    obtain ⟨old, found, hreg, hp, stays⟩ | ⟨plugin, order, rfl, hreg⟩ :=
      (Registry.was_of_get?_perform h).registration
    · refine .inl ⟨?_, old, found, hreg, hp⟩
      rintro ⟨plugin, order, heq⟩
      cases hop.symm.trans heq
      exact stays rfl
    · exact .inr ⟨⟨plugin, order, hop⟩, hreg⟩

/-- A registration is right under the root, and was made before. -/
theorem Trace.registration_under (t : Trace config es w) {entry : Entry}
    (h : w.get? name = some entry) :
    ∃ n < w.host.registry.scopes.next, entry.registration = [n] := by
  induction t generalizing entry with
  | nil => cases h
  | @cons es w w' e before step ih =>
    have grows := before.next_of_step step
    obtain ⟨-, old, found, hreg, -⟩ | ⟨⟨plugin, order, hop⟩, hreg⟩ := before.entry_of_step step h
    · obtain ⟨n, hn, hreg'⟩ := ih found
      exact ⟨n, by omega, hreg ▸ hreg'⟩
    · rw [hop] at grows
      exact ⟨_, grows, hreg⟩

/-- **An entry is the one that was there before, or it was registered since**, and then its
registration is younger. -/
theorem Trace.entry_since {later earlier : List Event} (t : Trace config (later ++ earlier) w) :
    ∃ w₀, Trace config earlier w₀ ∧
      w₀.host.registry.scopes.next ≤ w.host.registry.scopes.next ∧
      ∀ {name entry}, w.get? name = some entry →
        ((∀ x ∈ later, ¬ x.Registers name) ∧ ∃ old, w₀.get? name = some old ∧
          old.registration = entry.registration ∧ old.plugin = entry.plugin) ∨
        (∃ x ∈ later, x.Registers name) ∧
          ∃ n ≥ w₀.host.registry.scopes.next, entry.registration = [n] := by
  induction later generalizing w with
  | nil =>
    exact ⟨w, t, Nat.le_refl _, fun {_ entry} h =>
      .inl ⟨List.forall_mem_nil _, entry, h, rfl, rfl⟩⟩
  | cons e later ih =>
    cases t with
    | cons before step =>
      obtain ⟨w₀, first, grows, since⟩ := ih before
      have hnext := before.next_of_step step
      refine ⟨w₀, first, by omega, fun {name entry} h => ?_⟩
      obtain ⟨unregistered, old, found, hreg, hp⟩ | ⟨registers, hreg⟩ :=
        before.entry_of_step step h
      · rw [← hreg, ← hp]
        obtain ⟨none, same⟩ | ⟨⟨x, hx, hr⟩, young⟩ := since found
        · exact .inl ⟨List.forall_mem_cons.2 ⟨unregistered, none⟩, same⟩
        · exact .inr ⟨⟨x, List.mem_cons_of_mem _ hx, hr⟩, young⟩
      · exact .inr ⟨⟨e, List.mem_cons_self, registers⟩, _, grows, hreg⟩

theorem Trace.get?_of_lookup {j : Nat} {c : HostCall} {entry : Entry}
    (t : Trace config (.asked j c (of (.lookup name) (some entry)) :: es) w) :
    w.get? name = some entry := by
  cases t with
  | cons before step =>
    rw [before.get?_of_step step]
    exact (eq_of_answer? step rfl).1.symm

/-- What taking out the entry of a name does, for a call that has looked up an entry. -/
structure Removal (es : List Event) (w w' : World) (j : Nat) (name : String) (looked : Entry) :
    Prop where
  /-- The instance that was looked up has stopped. -/
  stopped : ∃ limit, own j es =
    [of (.markStopped name looked.plugin) (), of (.stop looked.plugin limit) (some (.ok ())),
      of (.lookup name) (some looked)]
  /-- There is no entry of the name any more. -/
  gone : w'.get? name = none
  /-- The entries of other names stay as they are. -/
  others : ∀ other, other ≠ name → w'.get? other = w.get? other
  /-- The entry that is taken out is the one that was looked up **exactly if nothing was registered
  under the name since**. -/
  own_iff : ∀ {later earlier entry},
    es = later ++ .asked j (.remove name) (of (.lookup name) (some looked)) :: earlier →
    w.get? name = some entry →
    (entry.registration = looked.registration ↔ ∀ x ∈ later, ¬ x.Registers name)
  /-- Then it is the instance that has stopped. -/
  same_instance : ∀ {later earlier entry},
    es = later ++ .asked j (.remove name) (of (.lookup name) (some looked)) :: earlier →
    w.get? name = some entry → (∀ x ∈ later, ¬ x.Registers name) →
    entry.plugin = looked.plugin

/-- **What a removal takes out.** -/
theorem Trace.removal (t : Trace config es w) {j : Nat} {c : HostCall}
    (step : Step config w (.asked j c (of (.remove name) ())) w') :
    c = .remove name ∧ ∃ looked, Removal es w w' j name looked := by
  obtain ⟨next, doing⟩ := exists_of_asked step
  have may := (t.allows doing).1
  have entries (other : String) :
      w'.get? other = if other = name then none else w.get? other := by
    rw [t.get?_of_step step]
    exact Registry.get?_perform_remove
  generalize hown : own j es = past at may
  cases may with
  | free hf => cases hf
  | @remove _ looked limit =>
    refine ⟨rfl, looked, ⟨limit, hown⟩, ?_, fun other hne => ?_, ?_, ?_⟩
    · rw [entries, if_pos rfl]
    · rw [entries, if_neg hne]
    · intro later earlier entry h found
      subst h
      obtain ⟨w₀, first, -, since⟩ := t.entry_since
      have there := first.get?_of_lookup
      constructor
      · intro heq x hx registers
        obtain ⟨none, -⟩ | ⟨-, n, hn, hreg⟩ := since found
        · exact none x hx registers
        · obtain ⟨m, hm, hreg'⟩ := first.registration_under there
          rw [heq, hreg'] at hreg
          have : m = n := (List.cons.inj hreg).1
          omega
      · intro none
        obtain ⟨-, old, found', hreg, -⟩ | ⟨⟨x, hx, registers⟩, -⟩ := since found
        · cases there.symm.trans found'
          exact hreg.symm
        · exact absurd registers (none x hx)
    · intro later earlier entry h found none
      subst h
      obtain ⟨w₀, first, -, since⟩ := t.entry_since
      obtain ⟨-, old, found', -, hp⟩ | ⟨⟨x, hx, registers⟩, -⟩ := since found
      · cases first.get?_of_lookup.symm.trans found'
        exact hp.symm
      · exact absurd registers (none x hx)

/-- Another instance is registered while the first one stops, and is taken out. -/
theorem replaced_while_stopping : ∃ es w w' looked entry, Trace (onePlugin "a") es w ∧
    Removal es w w' 1 "a" looked ∧ w.get? "a" = some entry ∧
    entry.plugin = 1 ∧ looked.plugin = 0 := by
  have played :
      (play (onePlugin "a") (.failing (.runtime "late") "a")
        [.call (.add "a" 0), .go 0, .go 0, .go 0, .call (.remove "a"), .go 1,
          .call (.add "a" 1), .go 2, .go 2, .go 2, .go 1, .go 1] ([], .new)).map
        (fun p => (p.2.get? "a", p.2.about 1, p.1.filterMap Event.op?)) =
      some (some {
          plugin := 1, bootOrder := 0, state := .bound, status := none
          registration := [1], run := none },
        some (.remove "a", some (.remove "a")),
        [.markStopped "a" 0, .insert "a" 1 0, .insert "a" 0 0]) := by
    decide +kernel
  obtain ⟨⟨es, w⟩, hplay, hw⟩ := Option.map_eq_some_iff.1 played
  obtain ⟨found, hw⟩ := Prod.mk.inj hw
  obtain ⟨about, ops⟩ := Prod.mk.inj hw
  obtain ⟨r, w', step⟩ := exists_step_of_about about
  have t := trace_play .nil hplay
  obtain ⟨-, looked, removal⟩ := t.removal step
  refine ⟨es, w, w', looked, _, t, removal, found, rfl, ?_⟩
  -- the instance that was looked up is the one that was marked
  obtain ⟨limit, hown⟩ := removal.stopped
  obtain ⟨c, hc⟩ := mem_of_own (hown ▸ List.mem_cons_self)
  have mem : Registry.Op.markStopped "a" looked.plugin ∈ es.filterMap Event.op? :=
    List.mem_filterMap.2 ⟨_, hc, rfl⟩
  rw [show es.filterMap Event.op? = _ from ops] at mem
  simpa using mem

/-- **A removal that fails has changed nothing**: it has carried out no operation, and cancelled no
scope. -/
theorem Trace.failed_removal (t : Trace config es w) {j : Nat} {why : HostError}
    {later earlier : List Event} (h : es = later ++ .ended j (.remove name) (.error why) :: earlier)
    {x : HostExchange} (hx : x ∈ own j earlier) :
    x.question.op? = none ∧ ∀ scope, x.question ≠ .cancel scope := by
  obtain ⟨e, limit, -, hok⟩ | ⟨e, limit, outcome, hown, -⟩ | ⟨hown, -⟩ := t.mayEnd h
  · cases hok
  · rw [hown] at hx
    obtain rfl | rfl : x = _ ∨ x = _ := by simpa using hx
    · exact ⟨rfl, nofun⟩
    · exact ⟨rfl, nofun⟩
  · rw [hown] at hx
    obtain rfl := List.mem_singleton.1 hx
    exact ⟨rfl, nofun⟩

end Sidecar.Host

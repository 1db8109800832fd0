import Sidecar.Proofs.Host.Removal
import Sidecar.Proofs.Host.Task
import Sidecar.Proofs.Registry.Lifetime

/-!
# The end of a registration

A registration ends with an event when the entry of its name is taken out or taken again, when
everything is cancelled, or when its own scope is (`Host.Event.Ends`).  That is when its scope is
cancelled:

* `Host.Trace.isCancelled_of_ends` : the scope of a registration that has ended is cancelled;
* `Host.Trace.exists_ends` : **it is cancelled for no other reason**.
-/

namespace Sidecar.Host

open HostExchange (of)

/-- The scope that is cancelled with an event. -/
def Event.cancelled? : Event → Option Scope
  | .asked _ _ ⟨.cancel s, _⟩ => some s
  | .done (.cancel s) => some s
  | _ => none

/-- Whether a scope is cancelled with an event, itself or with one above it. -/
def Event.Cancels (scope : Scope) (e : Event) : Prop := ∃ s, e.cancelled? = some s ∧ s <:+ scope

/-- Whether a registration of a name ends with an event. -/
def Event.Ends (name : String) (scope : Scope) (e : Event) : Prop :=
  e.Replaces name ∨ e.Cancels scope

variable {config : Config} {es later : List Event} {w w' : World} {e : Event} {name other : String}
  {entry entry' : Entry} {scope s : Scope}

/-! ### The scopes of entries -/

theorem Trace.name_eq (t : Trace config es w) (h : w.get? name = some entry)
    (h' : w.get? other = some entry') (same : entry.registration = entry'.registration) :
    name = other := by
  induction t generalizing entry entry' with
  | nil => cases h
  | @cons es w w' e before step ih =>
    -- a registration that is made with the event is younger than those that were there
    have young {name : String} {old entry : Entry} (found : w.get? name = some old)
        (hreg : old.registration = entry.registration)
        (new : entry.registration = [w.host.registry.scopes.next]) : False := by
      obtain ⟨n, hn, under⟩ := before.registration_under found
      rw [hreg, new] at under
      exact Nat.ne_of_gt hn (List.cons.inj under).1
    obtain ⟨-, old, found, hreg, -⟩ | ⟨⟨p, o, hop⟩, hreg⟩ := before.entry_of_step step h
    · obtain ⟨-, old', found', hreg', -⟩ | ⟨-, new⟩ := before.entry_of_step step h'
      · exact ih found found' (hreg.trans (same.trans hreg'.symm))
      · exact (young found (hreg.trans same) new).elim
    · obtain ⟨-, old', found', hreg', -⟩ | ⟨⟨p', o', hop'⟩, -⟩ := before.entry_of_step step h'
      · exact (young found' (hreg'.trans same.symm) hreg).elim
      · cases hop.symm.trans hop'
        rfl

theorem Trace.run_under (t : Trace config es w) (h : w.get? name = some entry)
    (hrun : entry.run = some s) : ∃ k, s = k :: entry.registration := by
  induction t generalizing entry with
  | nil => cases h
  | @cons es w w' e before step ih =>
    rw [before.get?_of_step step] at h
    cases hop : e.op? with
    | none =>
      rw [hop] at h
      exact ih h hrun
    | some op =>
      rw [hop] at h
      cases Registry.was_of_get?_perform h with
      | same found => exact ih found hrun
      | launched found idle => exact ⟨_, (Option.some.inj hrun).symm⟩
      | @polled old status found => exact @ih old found hrun
      | inserted | ended | stopped => cases hrun

theorem Trace.stays_of_step (t : Trace config es w) (step : Step config w e w')
    (h : w.get? name = some entry) (stays : ¬ e.Replaces name) :
    ∃ entry', w'.get? name = some entry' ∧ entry'.registration = entry.registration := by
  rw [t.get?_of_step step]
  cases hop : e.op? with
  | none => exact ⟨entry, h, rfl⟩
  | some op =>
    obtain ⟨entry', found, -, hreg⟩ :=
      Registry.get?_perform_of_stays h fun replaces => stays ⟨op, hop, replaces⟩
    exact ⟨entry', found, hreg⟩

/-! ### The end comes with its events -/

theorem isCancelled_of_cancelled? (step : Step config w e w') (h : e.cancelled? = some s) :
    w'.host.isCancelled s = true := by
  cases step with
  | @asked j c q next r host doing answers =>
    rw [World.host_start]
    cases q with
    | cancel u =>
      obtain rfl : u = s := Option.some.inj h
      cases answers with
      | records found =>
        cases found
        exact Scopes.isCancelled_cancel.2 (.inl (List.suffix_refl u))
      | surroundings hopen => cases hopen
    | _ => cases h
  | @done deed =>
    cases deed with
    | cancel u =>
      obtain rfl : u = s := Option.some.inj h
      exact Scopes.isCancelled_cancel.2 (.inl (List.suffix_refl u))
    | _ => cases h
  | _ => cases h

theorem isCancelled_of_cancels (step : Step config w e w') (h : e.Cancels scope) :
    w'.host.isCancelled scope = true := by
  obtain ⟨s, hs, above⟩ := h
  exact Registry.isCancelled_of_suffix (r := w'.host.registry) above
    (isCancelled_of_cancelled? step hs)

theorem Trace.isCancelled_of_replaces (t : Trace config es w) (step : Step config w e w')
    (h : w.get? name = some entry) (replaces : e.Replaces name) :
    w'.host.isCancelled entry.registration = true := by
  obtain ⟨op, hop, replaced⟩ := replaces
  obtain h' | ⟨none, -⟩ := t.registry_of_step step
  · rw [hop, Option.elim_some] at h'
    have cancelled : (w.host.registry.perform op).isCancelled entry.registration = true := by
      refine Registry.isCancelled_perform.2 (.inl ⟨_, ?_, List.suffix_refl _⟩)
      exact Registry.mem_cancels_of_replaces h replaced
        (List.mem_append_right _ List.mem_cons_self)
    rw [← h'] at cancelled
    exact cancelled
  · cases hop.symm.trans none

theorem Trace.isCancelled_of_steps (t : Trace config es w) (more : Steps config w later w')
    (h : w.host.isCancelled s = true) : w'.host.isCancelled s = true := by
  induction more with
  | nil => exact h
  | cons before step ih => exact (t.append before).isCancelled_of_step step ih

theorem Trace.isCancelled_of_mem (t : Trace config es w) {x : Event} (mem : x ∈ es)
    (cancels : x.Cancels scope) : w.host.isCancelled scope = true := by
  induction t with
  | nil => cases mem
  | cons before step ih =>
    rcases List.mem_cons.1 mem with rfl | mem
    · exact isCancelled_of_cancels step cancels
    · exact before.isCancelled_of_step step (ih mem)

theorem Trace.stays_or_cancelled (t : Trace config es w) (more : Steps config w later w')
    (h : w.get? name = some entry) :
    (∃ entry', w'.get? name = some entry' ∧ entry'.registration = entry.registration) ∨
      w'.host.isCancelled entry.registration = true := by
  induction more with
  | nil => exact .inl ⟨entry, h, rfl⟩
  | @cons later w₁ w₂ e before step ih =>
    rcases ih with ⟨old, found, hreg⟩ | cancelled
    · by_cases replaces : e.Replaces name
      · exact .inr (hreg ▸ (t.append before).isCancelled_of_replaces step found replaces)
      · obtain ⟨entry', found', hreg'⟩ := (t.append before).stays_of_step step found replaces
        exact .inl ⟨entry', found', hreg'.trans hreg⟩
    · exact .inr ((t.append before).isCancelled_of_step step cancelled)

theorem Trace.stays_of_steps (t : Trace config es w) (more : Steps config w later w')
    (h : w.get? name = some entry) (stays : ∀ x ∈ later, ¬ x.Replaces name) :
    ∃ entry', w'.get? name = some entry' ∧ entry'.registration = entry.registration := by
  induction more with
  | nil => exact ⟨entry, h, rfl⟩
  | @cons later w₁ w₂ e before step ih =>
    obtain ⟨first, rest⟩ := List.forall_mem_cons.1 stays
    obtain ⟨old, found, hreg⟩ := ih rest
    obtain ⟨entry', found', hreg'⟩ := (t.append before).stays_of_step step found first
    exact ⟨entry', found', hreg'.trans hreg⟩

/-- **The scope of a registration that has ended is cancelled.** -/
theorem Trace.isCancelled_of_ends (t : Trace config es w) (more : Steps config w later w')
    (h : w.get? name = some entry) {x : Event} (mem : x ∈ later)
    (ends : x.Ends name entry.registration) : w'.host.isCancelled entry.registration = true := by
  induction more with
  | nil => cases mem
  | @cons later w₁ w₂ e before step ih =>
    have t' := t.append before
    rcases List.mem_cons.1 mem with rfl | mem
    · rcases ends with replaces | cancels
      · rcases t.stays_or_cancelled before h with ⟨old, found, hreg⟩ | cancelled
        · exact hreg ▸ t'.isCancelled_of_replaces step found replaces
        · exact t'.isCancelled_of_step step cancelled
      · exact isCancelled_of_cancels step cancels
    · exact t'.isCancelled_of_step step (ih mem)

/-! ### There is no other reason -/

/-- What an event adds to the scopes that are cancelled: the one that it cancels, or the scopes that an
operation does. -/
theorem mem_ended_of_step (step : Step config w e w') (h : s ∈ w'.host.registry.scopes.ended) :
    s ∈ w.host.registry.scopes.ended ∨ e.cancelled? = some s ∨
      ∃ op, e.op? = some op ∧ s ∈ w.host.registry.cancels op := by
  -- an operation, or a cancellation, is carried out
  have performed {op : Registry.Op} (hop : e.op? = some op)
      (h : s ∈ (w.host.registry.perform op).scopes.ended) :
      s ∈ w.host.registry.scopes.ended ∨ e.cancelled? = some s ∨
        ∃ op, e.op? = some op ∧ s ∈ w.host.registry.cancels op :=
    (Registry.mem_ended_perform.1 h).symm.imp_right fun mem => .inr ⟨op, hop, mem⟩
  have cancelled {u : Scope} (hu : e.cancelled? = some u)
      (h : s ∈ (w.host.registry.scopes.cancel u).ended) :
      s ∈ w.host.registry.scopes.ended ∨ e.cancelled? = some s ∨
        ∃ op, e.op? = some op ∧ s ∈ w.host.registry.cancels op :=
    (Scopes.mem_ended_cancel.1 h).symm.imp_right fun (same : s = u) => .inl (same ▸ hu)
  cases step with
  | called => exact .inl h
  | @asked j c q next r host doing answers =>
    rw [World.host_start] at h
    cases answers with
    | records found =>
      cases q with
      | insert | remove | beginRun | markStopped | storeStatus =>
        cases found
        exact performed rfl h
      | cancel u =>
        cases found
        exact cancelled rfl h
      | beginTaking =>
        unfold answer? at found
        split_ifs at found
        cases found
        exact .inl h
      | _ => cases found <;> exact .inl h
    | surroundings | signal => exact .inl h
  | ended =>
    rw [World.host_start] at h
    exact .inl h
  | dropped => exact .inl (registry_release ▸ h)
  | @done deed =>
    cases deed with
    | cancel u => exact cancelled rfl h
    | report | branch => exact .inl h

/-- A scope of which no entry has the registration, and none will: it belongs to a run, or it was the
registration of an entry that is gone. -/
def World.Left (w : World) (s : Scope) : Prop :=
  2 ≤ s.length ∨ ∃ n < w.host.registry.scopes.next, s = [n] ∧
    ∀ {name entry}, w.get? name = some entry → entry.registration ≠ [n]

theorem Trace.gone_of_replaces (t : Trace config es w) (step : Step config w e w')
    (h : w.get? name = some entry) {op : Registry.Op} (hop : e.op? = some op)
    (replaced : op.Replaces name) :
    ∃ n < w'.host.registry.scopes.next, entry.registration = [n] ∧
      ∀ {name entry}, w'.get? name = some entry → entry.registration ≠ [n] := by
  have grows := t.next_of_step step
  obtain ⟨n, hn, hreg⟩ := t.registration_under h
  refine ⟨n, by omega, hreg, fun {other entry'} found heq => ?_⟩
  rw [t.get?_of_step step, hop] at found
  obtain ⟨old, found', hold, -, stays⟩ | ⟨plugin, order, rfl, new⟩ :=
    (Registry.was_of_get?_perform found).registration
  · obtain rfl := t.name_eq h found' (hreg.trans (heq.symm.trans hold.symm))
    exact stays replaced
  · exact Nat.ne_of_gt hn (List.cons.inj (new.symm.trans heq)).1

/-- **What is cancelled was cancelled by itself**, or it is the scope of a run or of an entry that is
gone. -/
theorem Trace.left_of_mem_ended (t : Trace config es w) (h : s ∈ w.host.registry.scopes.ended) :
    (∃ x ∈ es, x.cancelled? = some s) ∨ w.Left s := by
  induction t with
  | nil => cases h
  | @cons es w w' e before step ih =>
    have grows := before.next_of_step step
    rcases mem_ended_of_step step h with old | now | ⟨op, hop, mem⟩
    · rcases ih old with ⟨x, mem, hx⟩ | run | ⟨n, hn, rfl, gone⟩
      · exact .inl ⟨x, List.mem_cons_of_mem _ mem, hx⟩
      · exact .inr (.inl run)
      · refine .inr (.inr ⟨n, by omega, rfl, fun {name entry} found heq => ?_⟩)
        obtain ⟨-, old, found', hreg, -⟩ | ⟨-, hreg⟩ := before.entry_of_step step found
        · exact gone found' (hreg.trans heq)
        · exact Nat.ne_of_gt hn (List.cons.inj (hreg.symm.trans heq)).1
    · exact .inl ⟨e, List.mem_cons_self, now⟩
    · obtain ⟨rfl, -⟩ | ⟨name, entry, found, scopes, replaced⟩ := Registry.mem_cancels mem
      · obtain ⟨j, c, r, rfl⟩ := eq_asked_of_op? hop
        cases hop
      · have run (hrun : entry.run = some s) : w'.Left s := by
          obtain ⟨n, -, hreg⟩ := before.registration_under found
          obtain ⟨k, rfl⟩ := before.run_under found hrun
          exact .inl (by simp [hreg])
        rcases replaced with replaced | ⟨-, hrun⟩
        · rcases List.mem_append.1 scopes with hrun | hreg
          · exact .inr (run (Option.mem_toList.1 hrun))
          · obtain rfl := List.mem_singleton.1 hreg
            exact .inr (.inr (before.gone_of_replaces step found hop replaced))
        · exact .inr (run hrun)

/-- **The scope of an entry that is in its place was cancelled by itself**, or with all others. -/
theorem Trace.exists_cancels (t : Trace config es w) (h : w.get? name = some entry)
    (cancelled : w.host.isCancelled entry.registration = true) :
    ∃ x ∈ es, x.Cancels entry.registration := by
  obtain ⟨n, hn, hreg⟩ := t.registration_under h
  obtain ⟨u, mem, above⟩ := Scopes.isCancelled_iff.1 cancelled
  rcases t.left_of_mem_ended mem with ⟨x, mem, hx⟩ | run | ⟨m, hm, rfl, gone⟩
  · exact ⟨x, mem, u, hx, above⟩
  · have short := above.length_le
    rw [hreg, List.length_singleton] at short
    omega
  · exact absurd (above.eq_of_length (by rw [hreg]; rfl)).symm (gone h)

/-- **A registration is cancelled for no other reason than that it has ended**, unless it was
before. -/
theorem Trace.exists_ends (t : Trace config es w) (more : Steps config w later w')
    (h : w.get? name = some entry) (cancelled : w'.host.isCancelled entry.registration = true) :
    (∃ x ∈ later, x.Ends name entry.registration) ∨ ∃ x ∈ es, x.Cancels entry.registration := by
  by_cases replaced : ∃ x ∈ later, x.Replaces name
  · obtain ⟨x, mem, replaces⟩ := replaced
    exact .inl ⟨x, mem, .inl replaces⟩
  · obtain ⟨entry', found, hreg⟩ :=
      t.stays_of_steps more h fun x mem replaces => replaced ⟨x, mem, replaces⟩
    rw [← hreg] at cancelled ⊢
    obtain ⟨x, mem, cancels⟩ := (t.append more).exists_cancels found cancelled
    rcases List.mem_append.1 mem with mem | mem
    · exact .inl ⟨x, mem, .inr cancels⟩
    · exact .inr ⟨x, mem, cancels⟩

end Sidecar.Host

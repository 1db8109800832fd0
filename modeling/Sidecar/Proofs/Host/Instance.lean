import Sidecar.Proofs.Host.Call

/-!
# The life of an instance

An instance is given to the host with one call (`Host.Trace.call_of_plugin`), so it is registered at
most once, under one name and after it was initialized (`Host.Trace.insertion`).

* `Host.Trace.inserted_of_entry` : an entry was registered, and nothing has replaced it since;
* `Host.Retired` : an instance was registered under a name that was since taken out or taken again.
  It is in no entry any more, for good (`Host.Trace.plugin_ne_of_retired`).
-/

namespace Sidecar.Host

open HostExchange (of)

/-- The registration that an event is: the name and the instance. -/
def Event.insertion? (e : Event) : Option (String × PluginId) :=
  match e.op? with
  | some (.insert name plugin _) => some (name, plugin)
  | _ => none

/-- Whether an event puts another entry, or none, in the place of that of a name. -/
def Event.Replaces (name : String) (e : Event) : Prop := ∃ op, e.op? = some op ∧ op.Replaces name

/-- Whether an instance was registered, and its name was since taken out or taken again. -/
def Retired (plugin : PluginId) (es : List Event) : Prop :=
  ∃ later e earlier name, es = later ++ e :: earlier ∧ e.insertion? = some (name, plugin) ∧
    ∃ x ∈ later, x.Replaces name

variable {config : Config} {es : List Event} {w w' : World} {e : Event} {j k : Nat}
  {c c' : HostCall} {name : String} {plugin : PluginId}

theorem insertion?_eq_some :
    e.insertion? = some (name, plugin) ↔ ∃ order, e.op? = some (.insert name plugin order) := by
  unfold Event.insertion?
  constructor
  · intro h
    split at h
    next n p order hop =>
      cases h
      exact ⟨order, hop⟩
    next => cases h
  · rintro ⟨order, hop⟩
    rw [hop]

theorem Retired.append {later : List Event} (h : Retired plugin es) :
    Retired plugin (later ++ es) := by
  obtain ⟨l, e, earlier, name, rfl, he, x, hx, replaces⟩ := h
  refine ⟨later ++ l, e, earlier, name, ?_, he, x, List.mem_append_right _ hx, replaces⟩
  rw [List.append_assoc]

/-! ### Calls -/

theorem Trace.called_of_job (t : Trace config es w) {x : Hosting c.Result}
    (doing : w.jobs j = some ⟨c, x⟩) (outside : c.isTask = false) : .called j c ∈ es := by
  induction t generalizing j c x with
  | nil => cases doing
  | cons before step ih =>
    cases came_of_step before.fresh step doing with
    | same found => exact List.mem_cons_of_mem _ (ih found outside)
    | asked found => exact List.mem_cons_of_mem _ (ih found outside)
    | called => exact List.mem_cons_self
    | spawned => cases outside
    | follows => cases outside

theorem Trace.called_of_asked (t : Trace config es w) {x : HostExchange}
    (h : .asked j c x ∈ es) (outside : c.isTask = false) : .called j c ∈ es := by
  obtain ⟨later, earlier, rfl⟩ := List.append_of_mem h
  obtain ⟨w₁, w₂, before, step⟩ := t.split rfl
  obtain ⟨next, doing⟩ := exists_of_asked step
  exact List.mem_append_right _ (List.mem_cons_of_mem _ (before.called_of_job doing outside))

theorem World.plugins_start {task : Option HostTask} :
    (w.start config task).plugins = w.plugins := by
  cases task <;> rfl

theorem plugins_of_step (step : Step config w e w') (h : plugin ∈ w.plugins) :
    plugin ∈ w'.plugins := by
  cases step with
  | called => exact List.mem_append_right _ h
  | asked => rwa [World.plugins_start]
  | ended => rwa [World.plugins_start]
  | dropped => exact h
  | done => exact h

theorem Trace.plugins_of_called (t : Trace config es w) (h : .called j c ∈ es)
    (hp : plugin ∈ c.plugin?) : plugin ∈ w.plugins := by
  induction t with
  | nil => cases h
  | cons before step ih =>
    rcases List.mem_cons.1 h with rfl | h
    · cases step with
      | called accepts => exact List.mem_append_left _ (Option.mem_toList.2 hp)
    · exact plugins_of_step step (ih h)

/-- **An instance is given to the host with one call.** -/
theorem Trace.call_of_plugin (t : Trace config es w) (h : .called j c ∈ es)
    (h' : .called k c' ∈ es) (hp : plugin ∈ c.plugin?) (hp' : plugin ∈ c'.plugin?) :
    j = k ∧ c = c' := by
  induction t with
  | nil => cases h
  | @cons es w w' e before step ih =>
    -- a call that is made now is given a new instance
    have unused {i : Nat} {d : HostCall} (he : e = .called i d) (hd : plugin ∈ d.plugin?) :
        plugin ∉ w.plugins := by
      subst he
      cases step with
      | called accepts => exact accepts.2 plugin hd
    rcases List.mem_cons.1 h with heq | h
    · rcases List.mem_cons.1 h' with heq' | h'
      · cases heq.trans heq'.symm
        exact ⟨rfl, rfl⟩
      · exact absurd (before.plugins_of_called h' hp') (unused heq.symm hp)
    · rcases List.mem_cons.1 h' with heq' | h'
      · exact absurd (before.plugins_of_called h hp) (unused heq'.symm hp')
      · exact ih h h'

/-! ### Registrations -/

/-- **An instance is registered by the call that it was given with**, right after it was
initialized. -/
theorem Trace.insertion (t : Trace config es w) {later earlier : List Event}
    (h : es = later ++ e :: earlier) (hi : e.insertion? = some (name, plugin)) :
    ∃ j order value, e = .asked j (.add name plugin) (of (.insert name plugin order) ()) ∧
      own j earlier = [of (.init plugin value) (.ok ()), of (.bind plugin value) (.ok ())] := by
  obtain ⟨order, hop⟩ := insertion?_eq_some.1 hi
  obtain ⟨j, c, r, rfl⟩ := eq_asked_of_op? hop
  have may := t.mayAsk h
  generalize hown : own j earlier = past at may
  cases may with
  | free hf => cases hf
  | @insert _ _ value => exact ⟨j, order, value, rfl, hown⟩

/-- **An instance is registered at most once.** -/
theorem Trace.insertion_unique (t : Trace config es w) {later earlier : List Event}
    (h : es = later ++ e :: earlier) (hi : e.insertion? = some (name, plugin)) :
    ∀ x ∈ later, ∀ other, x.insertion? ≠ some (other, plugin) := by
  intro x hx other hi'
  obtain ⟨newer, older, rfl⟩ := List.append_of_mem hx
  have h' : es = newer ++ x :: (older ++ e :: earlier) := by
    rw [h, List.append_assoc, List.cons_append]
  obtain ⟨j, order, value, rfl, hown⟩ := t.insertion h hi
  obtain ⟨k, order', value', rfl, hown'⟩ := t.insertion h' hi'
  -- both are for the same call, which has asked more by the second time
  have called := t.called_of_asked (h ▸ List.mem_append_right _ List.mem_cons_self) rfl
  have called' := t.called_of_asked (h' ▸ List.mem_append_right _ List.mem_cons_self) rfl
  obtain ⟨rfl, -⟩ := t.call_of_plugin called called' rfl rfl
  rw [own_append, own_asked, hown] at hown'
  have := congrArg List.length hown'
  simp at this

theorem eq_of_first {α : Type} {p : α → Prop} {a a' b b' : List α} {x y : α}
    (h : a ++ x :: b = a' ++ y :: b') (hx : p x) (hy : p y) (ha : ∀ z ∈ a, ¬ p z)
    (ha' : ∀ z ∈ a', ¬ p z) : a = a' ∧ x = y := by
  rcases List.append_eq_append_iff.1 h with ⟨mid, rfl, hmid⟩ | ⟨mid, rfl, hmid⟩
  · cases mid with
    | nil => exact ⟨(List.append_nil a).symm, (List.cons.inj hmid).1⟩
    | cons z mid =>
      obtain ⟨rfl, -⟩ := List.cons.inj hmid
      exact absurd hx (ha' x (List.mem_append_right _ List.mem_cons_self))
  · cases mid with
    | nil => exact ⟨List.append_nil a', (List.cons.inj hmid).1.symm⟩
    | cons z mid =>
      obtain ⟨rfl, -⟩ := List.cons.inj hmid
      exact absurd hy (ha y (List.mem_append_right _ List.mem_cons_self))

theorem Trace.insertion_eq (t : Trace config es w) {e' : Event} {name' : String}
    {later later' earlier earlier' : List Event} (h : es = later ++ e :: earlier)
    (h' : es = later' ++ e' :: earlier') (hi : e.insertion? = some (name, plugin))
    (hi' : e'.insertion? = some (name', plugin)) : later = later' ∧ name = name' := by
  obtain ⟨rfl, rfl⟩ := eq_of_first (h.symm.trans h')
    (p := fun x => ∃ n, x.insertion? = some (n, plugin)) ⟨_, hi⟩ ⟨_, hi'⟩
    (fun y hy ⟨n, hn⟩ => t.insertion_unique h hi y hy n hn)
    (fun y hy ⟨n, hn⟩ => t.insertion_unique h' hi' y hy n hn)
  cases hi.symm.trans hi'
  exact ⟨rfl, rfl⟩

/-- **An entry was registered, and nothing has replaced it since.** -/
theorem Trace.inserted_of_entry (t : Trace config es w) {entry : Entry}
    (h : w.get? name = some entry) :
    ∃ later e earlier, es = later ++ e :: earlier ∧
      e.insertion? = some (name, entry.plugin) ∧ ∀ x ∈ later, ¬ x.Replaces name := by
  induction t generalizing entry with
  | nil => cases h
  | @cons es w w' e before step ih =>
    rw [before.get?_of_step step] at h
    -- an entry with the same instance was there before
    have older {old : Entry} (found : w.get? name = some old) (stays : ¬ e.Replaces name)
        (same : old.plugin = entry.plugin) :
        ∃ later x earlier, e :: es = later ++ x :: earlier ∧
          x.insertion? = some (name, entry.plugin) ∧ ∀ y ∈ later, ¬ y.Replaces name := by
      obtain ⟨later, x, earlier, rfl, hi, rest⟩ := ih found
      exact ⟨e :: later, x, earlier, rfl, same ▸ hi, List.forall_mem_cons.2 ⟨stays, rest⟩⟩
    cases hop : e.op? with
    | none =>
      rw [hop] at h
      exact older h (by simp [Event.Replaces, hop]) rfl
    | some op =>
      rw [hop] at h
      have stays (keeps : ¬ op.Replaces name) : ¬ e.Replaces name := by
        simpa [Event.Replaces, hop] using keeps
      cases Registry.was_of_get?_perform h with
      | same found keeps => exact older found (stays keeps) rfl
      | inserted =>
        exact ⟨[], e, es, rfl, insertion?_eq_some.2 ⟨_, hop⟩, List.forall_mem_nil _⟩
      | launched found | ended found | stopped found | polled found =>
        exact older found (stays id) rfl

/-! ### Instances that have retired -/

/-- **An instance that has retired is in no entry.** -/
theorem Trace.plugin_ne_of_retired (t : Trace config es w) (retired : Retired plugin es)
    {entry : Entry} (found : w.get? name = some entry) : entry.plugin ≠ plugin := by
  rintro rfl
  obtain ⟨l, f, r, other, hes, hf, x, hx, replaces⟩ := retired
  obtain ⟨later, e, earlier, hes', he, rest⟩ := t.inserted_of_entry found
  -- it is the same registration, whose name was replaced since and was not
  obtain ⟨rfl, rfl⟩ := t.insertion_eq hes hes' hf he
  exact rest x hx replaces

end Sidecar.Host

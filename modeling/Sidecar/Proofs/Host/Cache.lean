import Sidecar.Proofs.Host.Play

/-!
# The cached statuses

A status is asked for outside the registry, so by the time that it is recorded the name may be
another's, or be taken again.  `Host.recorded` reads from what has happened which status of an
instance was recorded last under a name since something was registered there.

* `Host.Trace.status_eq_recorded` : the status of an entry is the one that was recorded last of its
  instance since it was registered;
* `Host.Trace.sound_cache` : **so it is what a call of this very instance has returned**, and what
  is served from the cache is the status of the entry that is there.
-/

namespace Sidecar

open HostExchange (of)

/-- What an operation does to the status of an entry: the entry is new, the status was recorded, or
nothing has happened to either. -/
theorem Registry.status_of_get?_perform {r : Registry} {name : String} {op : Registry.Op}
    {e : Entry} (h : (r.perform op).get? name = some e) :
    (∃ order, op = .insert name e.plugin order) ∧ e.status = none ∨
    (∃ status, op = .storeStatus name e.plugin status ∧ e.status = some status) ∨
    (¬ op.Replaces name ∧ (∀ status, op ≠ .storeStatus name e.plugin status) ∧
      ∃ old, r.get? name = some old ∧ old.plugin = e.plugin ∧ old.status = e.status) := by
  cases was_of_get?_perform h with
  | same found stays =>
    by_cases hop : ∃ status, op = .storeStatus name e.plugin status
    · -- the entry is the same because it already had the status that was recorded
      obtain ⟨status, rfl⟩ := hop
      rw [get?_perform_storeStatus, if_pos rfl, found, Option.map_some, if_pos rfl] at h
      exact .inr (.inl ⟨status, rfl, congrArg Entry.status (Option.some.inj h).symm⟩)
    · exact .inr (.inr ⟨stays, fun status heq => hop ⟨status, heq⟩, e, found, rfl, rfl⟩)
  | inserted => exact .inl ⟨⟨_, rfl⟩, rfl⟩
  | @polled old status found => exact .inr (.inl ⟨status, rfl, rfl⟩)
  | launched found | ended found | stopped found =>
    exact .inr (.inr ⟨id, nofun, _, found, rfl, rfl⟩)

namespace Host

/-- The status of an instance that was recorded last under a name, since an instance was registered
there. -/
def recorded (name : String) (plugin : PluginId) : List Event → Option PluginStatus
  | [] => none
  | e :: es =>
    match e.op? with
    | some (.insert n _ _) => if n = name then none else recorded name plugin es
    | some (.storeStatus n p status) =>
      if n = name ∧ p = plugin then some status else recorded name plugin es
    | _ => recorded name plugin es

variable {config : Config} {es : List Event} {w : World} {e : Event} {name : String}
  {plugin : PluginId}

theorem recorded_insert {p : PluginId} {order : Int} (h : e.op? = some (.insert name p order)) :
    recorded name plugin (e :: es) = none := by
  simp only [recorded, h, if_true]

theorem recorded_storeStatus {status : PluginStatus}
    (h : e.op? = some (.storeStatus name plugin status)) :
    recorded name plugin (e :: es) = some status := by
  simp only [recorded, h, and_self, if_true]

/-- Whether an event decides what the last recorded status of an instance under a name is. -/
def Event.Decides (name : String) (plugin : PluginId) (e : Event) : Prop :=
  (∃ p order, e.op? = some (.insert name p order)) ∨
    ∃ status, e.op? = some (.storeStatus name plugin status)

theorem recorded_cons (h : ¬ e.Decides name plugin) :
    recorded name plugin (e :: es) = recorded name plugin es := by
  simp only [recorded]
  split
  next n p order hop =>
    refine if_neg fun hn => h (.inl ⟨p, order, ?_⟩)
    rw [hop, hn]
  next n p status hop =>
    refine if_neg fun hn => h (.inr ⟨status, ?_⟩)
    rw [hop, hn.1, hn.2]
  next => rfl

/-- **The status of an entry is the last that was recorded of its instance** since it was
registered. -/
theorem Trace.status_eq_recorded (t : Trace config es w) {entry : Entry}
    (h : w.get? name = some entry) : entry.status = recorded name entry.plugin es := by
  induction t generalizing entry with
  | nil => cases h
  | @cons es w w' e before step ih =>
    rw [before.get?_of_step step] at h
    cases hop : e.op? with
    | none =>
      rw [hop] at h
      rw [recorded_cons (by simp [Event.Decides, hop])]
      exact ih h
    | some op =>
      rw [hop] at h
      obtain ⟨⟨order, rfl⟩, hs⟩ | ⟨status, rfl, hs⟩ | ⟨stays, other, old, found, hp, hs⟩ :=
        Registry.status_of_get?_perform h
      · rw [hs, recorded_insert hop]
      · rw [hs, recorded_storeStatus hop]
      · have undecided : ¬ e.Decides name entry.plugin := by
          rintro (⟨p, order, heq⟩ | ⟨status, heq⟩)
          · cases hop.symm.trans heq
            exact stays rfl
          · cases hop.symm.trans heq
            exact other status rfl
        rw [recorded_cons undecided, ← hp, ← hs]
        exact ih found

theorem exists_of_recorded {status : PluginStatus} (h : recorded name plugin es = some status) :
    ∃ later e earlier, es = later ++ e :: earlier ∧
      e.op? = some (.storeStatus name plugin status) ∧ ∀ x ∈ later, ¬ x.Decides name plugin := by
  induction es with
  | nil => cases h
  | cons e es ih =>
    by_cases decides : e.Decides name plugin
    · rcases decides with ⟨p, order, hop⟩ | ⟨status', hop⟩
      · rw [recorded_insert hop] at h
        cases h
      · rw [recorded_storeStatus hop] at h
        cases h
        exact ⟨[], e, es, rfl, hop, List.forall_mem_nil _⟩
    · rw [recorded_cons decides] at h
      obtain ⟨later, e', earlier, rfl, hop, rest⟩ := ih h
      exact ⟨e :: later, e', earlier, rfl, hop, List.forall_mem_cons.2 ⟨decides, rest⟩⟩

theorem Trace.given (t : Trace config es w) {j : Nat} {c : HostCall} {status : PluginStatus}
    {later earlier : List Event}
    (h : es = later ++ .asked j c (of (.storeStatus name plugin status) ()) :: earlier) :
    ∃ past, own j earlier = of (.status plugin) (.ok status) :: past := by
  have may := t.mayAsk h
  generalize own j earlier = past at may
  cases may with
  | free hf => cases hf
  | @storeStatus _ past => exact ⟨past, rfl⟩

/-- What holds of the cached statuses in every world. -/
structure SoundCache (config : Config) (es : List Event) (w : World) : Prop where
  /-- The status of an entry is the last that was recorded of its instance since it was
  registered. -/
  last : ∀ {name entry}, w.get? name = some entry →
    entry.status = recorded name entry.plugin es
  /-- It is what a call of this instance has returned, and nothing was recorded of the instance or
  registered under the name since it was recorded. -/
  given : ∀ {name entry status}, w.get? name = some entry → entry.status = some status →
    ∃ later j c earlier past,
      es = later ++ .asked j c (of (.storeStatus name entry.plugin status) ()) :: earlier ∧
      own j earlier = of (.status entry.plugin) (.ok status) :: past ∧
      ∀ x ∈ later, ¬ x.Decides name entry.plugin
  /-- An instance that was just registered has no status. -/
  fresh : ∀ {name entry e earlier plugin order}, w.get? name = some entry →
    es = e :: earlier → e.op? = some (.insert name plugin order) → entry.status = none
  /-- What is found in the cache is the status of the entry that is there then. -/
  found : ∀ {later earlier j c name status},
    es = later ++ .asked j c (of (.cachedStatus name) (some status)) :: earlier →
    ∃ w' entry, Trace config earlier w' ∧ w'.get? name = some entry ∧ entry.status = some status
  /-- A status that is served was found in the cache, or the plugin has just given it. -/
  served : ∀ {later earlier j name status},
    es = later ++ .ended j (.status name) (.ok status) :: earlier →
    own j earlier = [of (.cachedStatus name) (some status)] ∨
      ∃ entry, own j earlier =
        [of (.storeStatus name entry.plugin status) (), of (.status entry.plugin) (.ok status),
          of (.lookup name) (some entry), of (.cachedStatus name) none]

/-- **The cache is sound, whatever happens in between**: no status of an instance that was replaced
or taken out is ever cached, or served from the cache. -/
theorem Trace.sound_cache (t : Trace config es w) : SoundCache config es w where
  last := t.status_eq_recorded
  given h hs := by
    rw [t.status_eq_recorded h] at hs
    obtain ⟨later, e, earlier, heq, hop, rest⟩ := exists_of_recorded hs
    obtain ⟨j, c, r, rfl⟩ := eq_asked_of_op? hop
    obtain ⟨past, hpast⟩ := t.given heq
    exact ⟨later, j, c, earlier, past, heq, hpast, rest⟩
  fresh h heq hop := by
    rw [t.status_eq_recorded h, heq, recorded_insert hop]
  found := by
    intro later earlier j c name status h
    obtain ⟨w₁, w₂, before, step⟩ := t.split h
    have hstatus : some status = w₁.host.registry.cachedStatus name := (eq_of_answer? step rfl).1
    obtain ⟨entry, hentry, hs⟩ := Option.bind_eq_some_iff.1 hstatus.symm
    exact ⟨w₁, entry, before, hentry, hs⟩
  served h := t.mayEnd h _ rfl

/-- A plugin that was polled has a status in the cache. -/
theorem sound_cache_polled : ∃ es w entry,
    SoundCache (onePlugin "a") es w ∧ w.get? "a" = some entry ∧
    entry.status = some (.new "a" "1.0.0") := by
  have played :
      (play (onePlugin "a") (.failing (.runtime "late") "a")
        [.call (.add "a" 0), .go 0, .go 0, .go 0, .call (.poll "a"), .go 1, .go 1, .go 1]
        ([], .new)).map (fun p => p.2.get? "a") =
      some (some {
        plugin := 0, bootOrder := 0, state := .bound, status := some (.new "a" "1.0.0")
        registration := [0], run := none }) := by
    decide +kernel
  obtain ⟨⟨es, w⟩, hplay, found⟩ := Option.map_eq_some_iff.1 played
  exact ⟨es, w, _, (trace_play .nil hplay).sound_cache, found, rfl⟩

end Host

end Sidecar

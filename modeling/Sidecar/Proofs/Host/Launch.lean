import Sidecar.Proofs.Host.Call
import Sidecar.Proofs.Host.Play

/-!
# Launches and the ends of runs

A run is known by its scope, which no other run ever has (`Host.Trace.scope_ne_of_launch`).  The run
of an entry that runs is the one that was launched last under its name
(`Host.Trace.run_eq_lastLaunch`).

The end of a run names the instance and not the run.  `Host.Trace.end_of_run` says exactly what it
does: it ends whatever run the entry of the name has, as long as that is one of the same instance;
this is the run itself **exactly if no other was launched under the name since**.
-/

namespace Sidecar.Host

open HostExchange (of)

/-- The launch that an event is: the name, the instance and the scope of the run. -/
def Event.launch? : Event → Option (String × PluginId × Scope)
  | .asked _ _ ⟨.beginRun name, some (plugin, scope)⟩ => some (name, plugin, scope)
  | _ => none

/-- The last launch under a name: the instance and the scope of the run. -/
def lastLaunch (name : String) : List Event → Option (PluginId × Scope)
  | [] => none
  | e :: es =>
    match e.launch? with
    | some (n, run) => if n = name then some run else lastLaunch name es
    | none => lastLaunch name es

variable {config : Config} {es : List Event} {w w' : World} {e : Event} {name : String}
  {plugin : PluginId} {scope : Scope}

theorem lastLaunch_cons {run : PluginId × Scope} (h : e.launch? = some (name, run)) :
    lastLaunch name (e :: es) = some run := by
  simp only [lastLaunch, h, if_true]

theorem lastLaunch_cons_of_ne (h : ∀ run, e.launch? ≠ some (name, run)) :
    lastLaunch name (e :: es) = lastLaunch name es := by
  simp only [lastLaunch]
  split
  next n run hl => exact if_neg fun hn => h run (hl.trans (by rw [hn]))
  next => rfl

theorem lastLaunch_append {later : List Event}
    (h : ∀ x ∈ later, ∀ run, x.launch? ≠ some (name, run)) :
    lastLaunch name (later ++ es) = lastLaunch name es := by
  induction later with
  | nil => rfl
  | cons x later ih =>
    obtain ⟨hx, rest⟩ := List.forall_mem_cons.1 h
    rw [List.cons_append, lastLaunch_cons_of_ne hx, ih rest]

theorem lastLaunch_append_of_mem {later : List Event}
    (h : ∃ x ∈ later, ∃ run, x.launch? = some (name, run)) :
    ∃ x ∈ later, ∃ run, x.launch? = some (name, run) ∧
      lastLaunch name (later ++ es) = some run := by
  induction later with
  | nil =>
    obtain ⟨x, hx, -⟩ := h
    cases hx
  | cons y later ih =>
    by_cases hy : ∃ run, y.launch? = some (name, run)
    · obtain ⟨run, hy⟩ := hy
      exact ⟨y, List.mem_cons_self, run, hy, lastLaunch_cons hy⟩
    · obtain ⟨x, hx, hrun⟩ := h
      have hx : x ∈ later := by
        rcases List.mem_cons.1 hx with rfl | hx
        · exact absurd hrun hy
        · exact hx
      obtain ⟨z, hz, run, hl, hlast⟩ := ih ⟨x, hx, hrun⟩
      refine ⟨z, List.mem_cons_of_mem _ hz, run, hl, ?_⟩
      rw [List.cons_append, lastLaunch_cons_of_ne fun run hl => hy ⟨run, hl⟩, hlast]

theorem exists_of_lastLaunch (h : lastLaunch name es = some (plugin, scope)) :
    ∃ e ∈ es, e.launch? = some (name, plugin, scope) := by
  induction es with
  | nil => cases h
  | cons e es ih =>
    by_cases he : ∃ run, e.launch? = some (name, run)
    · obtain ⟨run, he⟩ := he
      obtain rfl : run = (plugin, scope) := Option.some.inj ((lastLaunch_cons he).symm.trans h)
      exact ⟨e, List.mem_cons_self, he⟩
    · rw [lastLaunch_cons_of_ne fun run hl => he ⟨run, hl⟩] at h
      obtain ⟨x, hx, hl⟩ := ih h
      exact ⟨x, List.mem_cons_of_mem e hx, hl⟩

/-! ### What a launch is -/

theorem eq_asked_of_launch? (h : e.launch? = some (name, plugin, scope)) :
    ∃ j c, e = .asked j c (of (.beginRun name) (some (plugin, scope))) := by
  unfold Event.launch? at h
  split at h
  · cases h
    exact ⟨_, _, rfl⟩
  · cases h

theorem launch?_of_step (step : Step config w e w') (h : e.op? = some (.beginRun name)) :
    e.launch? = (w.host.registry.beginRun name).1.map (name, ·) := by
  obtain ⟨j, c, r, rfl⟩ := eq_asked_of_op? h
  have hr : r = (w.host.registry.beginRun name).1 := (eq_of_answer? step rfl).1
  rw [← hr]
  cases r <;> rfl

/-- A run is launched of the entry of the name, which does not run, in a new scope. -/
theorem launched_of_step (step : Step config w e w')
    (h : e.launch? = some (name, plugin, scope)) :
    e.op? = some (.beginRun name) ∧ ∃ entry, w.get? name = some entry ∧
      entry.state.isRunning = false ∧ entry.plugin = plugin ∧
      scope = (w.host.registry.child entry.registration).1 := by
  obtain ⟨j, c, rfl⟩ := eq_asked_of_launch? h
  have hl := launch?_of_step step rfl
  rw [h, eq_comm, Option.map_eq_some_iff] at hl
  obtain ⟨run, begun, heq⟩ := hl
  cases heq
  exact ⟨rfl, Registry.beginRun_eq_some_iff.1 begun⟩

/-! ### The run of an entry -/

/-- **The run of an entry is the one that was launched last under its name**, and it has one exactly
while it runs. -/
theorem Trace.run_eq_lastLaunch (t : Trace config es w) {entry : Entry}
    (h : w.get? name = some entry) :
    entry.run.isSome = entry.state.isRunning ∧
      ∀ s, entry.run = some s → lastLaunch name es = some (entry.plugin, s) := by
  induction t generalizing entry with
  | nil => cases h
  | @cons es w w' e before step ih =>
    rw [before.get?_of_step step] at h
    by_cases launches : ∃ run, e.launch? = some (name, run)
    · -- the entry has just been launched
      obtain ⟨⟨plugin, scope⟩, hl⟩ := launches
      obtain ⟨hop, old, found, idle, rfl, rfl⟩ := launched_of_step step hl
      rw [hop, Option.elim_some, Registry.get?_perform_beginRun, if_pos rfl] at h
      obtain ⟨old', found', rfl⟩ := Option.map_eq_some_iff.1 h
      obtain rfl : old = old' := Option.some.inj (found.symm.trans found')
      rw [if_neg (by rw [idle]; exact Bool.false_ne_true)]
      refine ⟨rfl, fun s hs => ?_⟩
      rw [lastLaunch_cons hl, Option.some.inj hs]
    · rw [lastLaunch_cons_of_ne fun run hl => launches ⟨run, hl⟩]
      cases hop : e.op? with
      | none =>
        rw [hop] at h
        exact ih h
      | some op =>
        rw [hop] at h
        cases Registry.was_of_get?_perform h with
        | same found => exact ih found
        | inserted => exact ⟨rfl, nofun⟩
        | @launched old found idle =>
          -- a run that begins is a launch
          have hl := launch?_of_step step hop
          rw [Registry.beginRun_eq_some_iff.2 ⟨old, found, idle, rfl, rfl⟩] at hl
          exact absurd ⟨_, hl⟩ launches
        | @ended _ state halted => exact ⟨halted.symm, nofun⟩
        | stopped => exact ⟨rfl, nofun⟩
        | @polled old status found => exact @ih old found

/-! ### The scope of a run -/

theorem Trace.scope_lt (t : Trace config es w) (h : e ∈ es)
    (hl : e.launch? = some (name, plugin, scope)) :
    ∃ k < w.host.registry.scopes.next, ∃ parent, scope = k :: parent := by
  induction t with
  | nil => cases h
  | @cons es w w' e' before step ih =>
    have grows := before.next_of_step step
    rcases List.mem_cons.1 h with rfl | h
    · obtain ⟨hop, entry, found, idle, -, rfl⟩ := launched_of_step step hl
      rw [hop, Option.elim_some, Registry.made_beginRun found idle] at grows
      exact ⟨_, grows, _, rfl⟩
    · obtain ⟨k, hk, parent, rfl⟩ := ih h
      exact ⟨k, by omega, parent, rfl⟩

/-- **No two runs have the same scope.** -/
theorem Trace.scope_ne_of_launch (t : Trace config es w) {later earlier : List Event}
    (h : es = later ++ e :: earlier) (hl : e.launch? = some (name, plugin, scope)) {x : Event}
    (hx : x ∈ later) {name' : String} {plugin' : PluginId} {scope' : Scope}
    (hl' : x.launch? = some (name', plugin', scope')) : scope' ≠ scope := by
  obtain ⟨last, between, rfl⟩ := List.append_of_mem hx
  have split : es = last ++ x :: (between ++ e :: earlier) := by
    rw [h, List.append_assoc, List.cons_append]
  obtain ⟨w₁, w₂, before, step⟩ := t.split split
  obtain ⟨k, hk, parent, rfl⟩ :=
    before.scope_lt (List.mem_append_right _ List.mem_cons_self) hl
  obtain ⟨-, entry, -, -, -, rfl⟩ := launched_of_step step hl'
  intro heq
  have : w₁.host.registry.scopes.next = k := (List.cons.inj heq).1
  omega

/-- The task of a run was there before an event, or it is started with the event, for a call that has
just launched the run. -/
theorem Trace.came_of_run (t : Trace config es w) (step : Step config w e w') {j : Nat}
    {x : Hosting (Option HostTask)}
    (h : w'.jobs j = some ⟨.task (.run name plugin scope), x⟩) :
    (∃ y, w.jobs j = some ⟨.task (.run name plugin scope), y⟩) ∨
      j = w.next ∧ ∃ i past, own i es = of (.beginRun name) (some (plugin, scope)) :: past ∧
        own i (e :: es) = of (.spawn (.run name plugin scope)) () :: own i es := by
  generalize hjob : (⟨.task (.run name plugin scope), x⟩ : Job) = job at h
  cases came_of_step t.fresh step h with
  | same found => exact .inl ⟨x, hjob ▸ found⟩
  | asked found =>
    cases hjob
    exact .inl ⟨_, found⟩
  | called new outside =>
    cases hjob
    cases outside
  | @spawned i c _ r next new other found =>
    cases hjob
    have may := (t.allows found).1
    generalize hown : own i es = past at may
    cases may with
    | free hf => cases hf
    | @spawnRun _ past => exact .inr ⟨new, i, past, hown, own_asked.trans (by rw [hown]; rfl)⟩
  | @follows i t₀ _ new found =>
    cases hjob
    -- no task goes on as a run
    have ends := t.allows found
    cases t₀ with
    | run => cases ends
    | pollAfter => obtain ⟨time, ht⟩ := ends _ rfl; cases ht
    | poll => obtain ⟨time, ht⟩ := ends _ rfl; cases ht
    | serve => cases ends
    | heed => cases ends

theorem Trace.launched (t : Trace config es w) {j : Nat} {x : Hosting (Option HostTask)}
    (h : w.jobs j = some ⟨.task (.run name plugin scope), x⟩) :
    ∃ e ∈ es, e.launch? = some (name, plugin, scope) := by
  induction t generalizing j x with
  | nil => cases h
  | @cons es w w' e before step ih =>
    have older : ∃ x ∈ es, x.launch? = some (name, plugin, scope) := by
      rcases before.came_of_run step h with ⟨y, found⟩ | ⟨-, i, past, launched, -⟩
      · exact ih found
      · obtain ⟨c, hc⟩ := mem_of_own (launched ▸ List.mem_cons_self)
        exact ⟨_, hc, rfl⟩
    obtain ⟨x, hx, hl⟩ := older
    exact ⟨x, List.mem_cons_of_mem e hx, hl⟩

/-! ### The end of a run -/

/-- What the end of a run does, which is recorded with an instance and a state. -/
structure EndOfRun (es : List Event) (w w' : World) (name : String) (plugin : PluginId)
    (scope : Scope) (state : Lifecycle) : Prop where
  /-- The run was launched before. -/
  launched : ∃ e ∈ es, e.launch? = some (name, plugin, scope)
  /-- The entries of other names stay as they are. -/
  others : ∀ other, other ≠ name → w'.get? other = w.get? other
  /-- The entry of the name changes exactly if it has the same instance and runs. -/
  changes_iff : w'.get? name ≠ w.get? name ↔
    ∃ entry, w.get? name = some entry ∧ entry.plugin = plugin ∧ entry.state.isRunning = true
  /-- Then it is in the state that was recorded, and has no run any more. -/
  ends : ∀ entry, w.get? name = some entry → entry.plugin = plugin →
    entry.state.isRunning = true → w'.get? name = some { entry with state, run := none }
  /-- It is the run of the entry that it ends, if it ends one, **unless the entry has the same
  instance and runs, and another run was launched under the name since**. -/
  own_iff : ∀ {later e earlier}, es = later ++ e :: earlier →
    e.launch? = some (name, plugin, scope) →
    ((w'.get? name ≠ w.get? name → ∃ entry, w.get? name = some entry ∧ entry.run = some scope) ↔
      ¬ ∃ entry, w.get? name = some entry ∧ entry.plugin = plugin ∧
        entry.state.isRunning = true ∧ ∃ x ∈ later, ∃ run, x.launch? = some (name, run))

theorem Trace.run_eq_iff (t : Trace config es w) {later earlier : List Event}
    (h : es = later ++ e :: earlier) (hl : e.launch? = some (name, plugin, scope)) {entry : Entry}
    (found : w.get? name = some entry) (busy : entry.state.isRunning = true) :
    entry.run = some scope ↔ ∀ x ∈ later, ∀ run, x.launch? ≠ some (name, run) := by
  obtain ⟨isSome, last⟩ := t.run_eq_lastLaunch found
  constructor
  · intro hrun x hx run hx'
    -- the last launch is a later one, with another scope
    obtain ⟨y, hy, ⟨p, s⟩, hy', hlast⟩ :=
      @lastLaunch_append_of_mem (e :: earlier) name later ⟨x, hx, run, hx'⟩
    have same := last scope hrun
    rw [h, hlast] at same
    cases same
    exact t.scope_ne_of_launch h hl hy hy' rfl
  · intro none
    -- it has a run, and the last launch is the event itself
    rw [busy, Option.isSome_iff_exists] at isSome
    obtain ⟨s, hs⟩ := isSome
    have same := last s hs
    rw [h, lastLaunch_append none, lastLaunch_cons hl] at same
    cases same
    exact hs

theorem Trace.get?_of_endRun (t : Trace config es w) {j : Nat} {c : HostCall} {state : Lifecycle}
    (step : Step config w (.asked j c (of (.endRun name plugin state) ())) w')
    (halted : state.isRunning = false) (other : String) :
    w'.get? other =
      if other = name then
        (w.get? other).map fun e =>
          if e.plugin = plugin ∧ e.state.isRunning then { e with state, run := none } else e
      else w.get? other := by
  have hop : (Event.asked j c (of (.endRun name plugin state) ())).op? =
      some (.endRun name plugin state halted) := op?_endRun halted
  rw [t.get?_of_step step, hop, Option.elim_some, Registry.get?_perform_endRun]
  rfl

theorem Trace.ends_of_endRun (t : Trace config es w) {j : Nat} {c : HostCall} {state : Lifecycle}
    (step : Step config w (.asked j c (of (.endRun name plugin state) ())) w')
    (halted : state.isRunning = false) {entry : Entry} (found : w.get? name = some entry)
    (same : entry.plugin = plugin) (busy : entry.state.isRunning = true) :
    w'.get? name = some { entry with state, run := none } := by
  rw [t.get?_of_endRun step halted, if_pos rfl, found, Option.map_some, if_pos ⟨same, busy⟩]

theorem Trace.changes_iff_of_endRun (t : Trace config es w) {j : Nat} {c : HostCall}
    {state : Lifecycle}
    (step : Step config w (.asked j c (of (.endRun name plugin state) ())) w')
    (halted : state.isRunning = false) :
    w'.get? name ≠ w.get? name ↔
      ∃ entry, w.get? name = some entry ∧ entry.plugin = plugin ∧
        entry.state.isRunning = true := by
  constructor
  · intro changed
    have after := t.get?_of_endRun step halted name
    rw [if_pos rfl] at after
    cases found : w.get? name with
    | none =>
      rw [found] at after
      exact absurd (after.trans found.symm) changed
    | some entry =>
      rw [found, Option.map_some] at after
      split_ifs at after with hp
      · exact ⟨entry, rfl, hp⟩
      · exact absurd (after.trans found.symm) changed
  · rintro ⟨entry, found, same, busy⟩ unchanged
    have ended := t.ends_of_endRun step halted found same busy
    rw [unchanged, found] at ended
    have hstate : entry.state = state := congrArg Entry.state (Option.some.inj ended)
    rw [hstate, halted] at busy
    cases busy

/-- **The end of a run**, however late it comes. -/
theorem Trace.end_of_run (t : Trace config es w) {j : Nat} {c : HostCall} {state : Lifecycle}
    (step : Step config w (.asked j c (of (.endRun name plugin state) ())) w') :
    ∃ scope, c = .task (.run name plugin scope) ∧
      EndOfRun es w w' name plugin scope state := by
  obtain ⟨next, doing⟩ := exists_of_asked step
  have may := (t.allows doing).1
  generalize own j es = past at may
  cases may with
  | free hf => cases hf
  | @endRun _ _ scope result =>
    have halted : (HostTask.stateAfter result).isRunning = false := isRunning_stateAfter
    have changes_iff := t.changes_iff_of_endRun step halted
    refine ⟨scope, rfl, t.launched doing, fun other hne => ?_, changes_iff,
      fun _ => t.ends_of_endRun step halted, fun {later e earlier} h hl => ⟨?_, ?_⟩⟩
    · rw [t.get?_of_endRun step halted, if_neg hne]
    · rintro own ⟨entry, found, same, busy, x, hx, run, hx'⟩
      obtain ⟨entry', found', hrun⟩ := own (changes_iff.2 ⟨entry, found, same, busy⟩)
      cases found.symm.trans found'
      exact (t.run_eq_iff h hl found busy).1 hrun x hx run hx'
    · intro none_since changed
      obtain ⟨entry, found, same, busy⟩ := changes_iff.1 changed
      refine ⟨entry, found, (t.run_eq_iff h hl found busy).2 fun x hx run hx' => ?_⟩
      exact none_since ⟨entry, found, same, busy, x, hx, run, hx'⟩

/-- A plugin is started, stopped and started again, and then its first run fails. -/
def restart : List Turn :=
  [.call (.add "a" 0), .go 0, .go 0, .go 0, .call .startAll, .go 1, .go 1, .go 1,
    .call .stopAll, .go 3, .go 3, .go 3, .go 3, .call .startAll, .go 4, .go 4, .go 4, .go 2]

/-- The first of two runs of an instance can end while the second goes on. -/
theorem late_end : ∃ es w w' entry, Trace (onePlugin "a") es w ∧
    Step (onePlugin "a") w (.asked 2 (.task (.run "a" 0 [1, 0]))
      (of (.endRun "a" 0 (.failed "Runtime error: late")) ())) w' ∧
    w.get? "a" = some entry ∧ entry.plugin = 0 ∧ entry.state = .running ∧
    entry.run = some [2, 0] := by
  have played :
      (play (onePlugin "a") (.failing (.runtime "late") "a") restart ([], .new)).map
        (fun p => (p.2.get? "a", p.2.about 2)) =
      some (some {
          plugin := 0, bootOrder := 0, state := .running, status := none
          registration := [0], run := some [2, 0] },
        some (.task (.run "a" 0 [1, 0]),
          some (.endRun "a" 0 (.failed "Runtime error: late") rfl))) := by
    decide +kernel
  obtain ⟨⟨es, w⟩, hplay, hw⟩ := Option.map_eq_some_iff.1 played
  obtain ⟨found, about⟩ := Prod.mk.inj hw
  obtain ⟨r, w', step⟩ := exists_step_of_about about
  exact ⟨es, w, w', _, trace_play .nil hplay, step, found, rfl, rfl, rfl⟩

theorem end_of_run_late : ∃ es w w',
    EndOfRun es w w' "a" 0 [1, 0] (.failed "Runtime error: late") ∧
    w'.get? "a" ≠ w.get? "a" := by
  obtain ⟨es, w, w', entry, t, step, found, same, busy, -⟩ := late_end
  obtain ⟨scope, hc, ends⟩ := t.end_of_run step
  cases hc
  exact ⟨es, w, w', ends, ends.changes_iff.2 ⟨entry, found, same, by rw [busy]; rfl⟩⟩

/-- **A run that ends late ends another.** -/
theorem not_only_own_run_ends : ¬ ∀ (config : Config) (es : List Event) (w w' : World) (j : Nat)
    (name : String) (plugin : PluginId) (scope : Scope) (state : Lifecycle),
    Trace config es w →
    Step config w (.asked j (.task (.run name plugin scope))
      (of (.endRun name plugin state) ())) w' →
    w'.get? name ≠ w.get? name →
    ∃ entry, w.get? name = some entry ∧ entry.run = some scope := by
  intro only_own
  obtain ⟨es, w, w', entry, t, step, found, same, busy, hrun⟩ := late_end
  have changes : w'.get? "a" ≠ w.get? "a" := by
    rw [t.changes_iff_of_endRun step rfl]
    exact ⟨entry, found, same, by rw [busy]; rfl⟩
  obtain ⟨entry', found', hrun'⟩ := only_own _ es w w' _ _ _ _ _ t step changes
  cases found.symm.trans found'
  cases hrun.symm.trans hrun'

end Sidecar.Host

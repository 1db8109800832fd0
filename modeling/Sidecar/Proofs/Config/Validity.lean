import Mathlib.Data.List.Nodup
import Sidecar.Config.Load

/-!
# Valid configurations

What makes a configuration valid is said without an order (`Config.Valid`); what is reported of one
that is not is the first fault in an order (`Config.FirstFault`): the plugins one after another, of
each its name, whether it is new, and its own configuration; then the polling of the host, then its
addresses.

* `Config.firstInvalidPlugin_eq_some_iff` : the fault that is found is that of the first plugin that
  does not go with those before it;
* `Config.valid_or_first_fault` : **a configuration is accepted exactly if it is valid, and
  otherwise its first fault is reported**; in one that was loaded each plugin is found under its
  name.
-/

namespace Sidecar.Config

variable {c : Config} {d : PluginDescriptor} {ds es : List PluginDescriptor} {h : HostSettings}
  {why other : Invalid}

/-- What a list of plugins has to keep to. -/
structure ValidPlugins (ds : List PluginDescriptor) : Prop where
  named : ∀ d ∈ ds, d.name ≠ ""
  distinct : (ds.map PluginDescriptor.name).Nodup
  mappings : ∀ d ∈ ds, ∃ ms, d.config = .object ms

/-- What host settings have to keep to. -/
structure ValidHost (h : HostSettings) : Prop where
  polls : 0 < h.pollInterval.nanos
  /-- The web server is off, or listens elsewhere than the metrics. -/
  apart : h.webServer.enabled = false ∨ h.webServer.listen ≠ h.metricsListen

/-- What a configuration has to keep to. -/
structure Valid (c : Config) : Prop where
  plugins : ValidPlugins c.plugins
  host : ValidHost c.host

/-- The fault of a plugin that comes after others. -/
inductive PluginFault (before : List PluginDescriptor) (d : PluginDescriptor) : Invalid → Prop
  | unnamed (empty : d.name = "") : PluginFault before d .emptyPluginName
  | repeated (named : d.name ≠ "") (known : ∃ e ∈ before, e.name = d.name) :
      PluginFault before d (.duplicatePlugin d.name)
  | shapeless (named : d.name ≠ "") (new : ∀ e ∈ before, e.name ≠ d.name)
      (noMapping : ∀ ms, d.config ≠ .object ms) : PluginFault before d (.configNotMapping d.name)

/-- The fault of host settings. -/
inductive HostFault (h : HostSettings) : Invalid → Prop
  | idle (zero : h.pollInterval.nanos = 0) : HostFault h .zeroPollInterval
  | collision (polls : 0 < h.pollInterval.nanos) (enabled : h.webServer.enabled = true)
      (same : h.webServer.listen = h.metricsListen) :
      HostFault h (.addressCollision h.webServer.listen)

/-- The first fault of a configuration. -/
inductive FirstFault (c : Config) : Invalid → Prop
  /-- That of a plugin, where there is none in those before it. -/
  | plugin {before after : List PluginDescriptor} {d : PluginDescriptor} {why : Invalid}
      (split : c.plugins = before ++ d :: after) (earlier : ValidPlugins before)
      (fault : PluginFault before d why) : FirstFault c why
  /-- That of the host, where there is none in the plugins. -/
  | host {why : Invalid} (plugins : ValidPlugins c.plugins) (fault : HostFault c.host why) :
      FirstFault c why

/-! ### Plugins -/

theorem validPlugins_nil : ValidPlugins [] := ⟨nofun, List.nodup_nil, nofun⟩

theorem ValidPlugins.of_append (h : ValidPlugins (ds ++ es)) : ValidPlugins ds where
  named d mem := h.named d (List.mem_append_left es mem)
  distinct := by
    have distinct := h.distinct
    rw [List.map_append] at distinct
    exact distinct.of_append_left
  mappings d mem := h.mappings d (List.mem_append_left es mem)

/-- **Valid plugins go on with one that has no fault.** -/
theorem validPlugins_concat_iff :
    ValidPlugins (ds ++ [d]) ↔ ValidPlugins ds ∧ ∀ why, ¬ PluginFault ds d why := by
  constructor
  · intro valid
    refine ⟨valid.of_append, fun why fault => ?_⟩
    have last : d ∈ ds ++ [d] := List.mem_append_right ds List.mem_cons_self
    cases fault with
    | unnamed empty => exact valid.named d last empty
    | repeated named known =>
      obtain ⟨e, mem, same⟩ := known
      have distinct := valid.distinct
      rw [List.map_append, List.nodup_append] at distinct
      exact distinct.2.2 _ (List.mem_map_of_mem mem) d.name List.mem_cons_self same
    | shapeless named new noMapping =>
      obtain ⟨ms, mapping⟩ := valid.mappings d last
      exact noMapping ms mapping
  · rintro ⟨valid, faultless⟩
    have named : d.name ≠ "" := fun empty => faultless _ (.unnamed empty)
    have new : ∀ e ∈ ds, e.name ≠ d.name := fun e mem same =>
      faultless _ (.repeated named ⟨e, mem, same⟩)
    have mapping : ∃ ms, d.config = .object ms := by
      by_contra none
      exact faultless _ (.shapeless named new (not_exists.1 none))
    refine ⟨?_, ?_, ?_⟩
    · exact List.forall_mem_append.2 ⟨valid.named, List.forall_mem_singleton.2 named⟩
    · rw [List.map_append, List.nodup_append]
      refine ⟨valid.distinct, List.nodup_singleton _, fun n mem m last => ?_⟩
      obtain ⟨e, there, rfl⟩ := List.mem_map.1 mem
      obtain rfl := List.mem_singleton.1 last
      exact new e there
    · exact List.forall_mem_append.2 ⟨valid.mappings, List.forall_mem_singleton.2 mapping⟩

/-- A plugin has one fault at most. -/
theorem PluginFault.unique (h : PluginFault ds d why) (h' : PluginFault ds d other) :
    why = other := by
  cases h with
  | unnamed empty =>
    cases h' with
    | unnamed => rfl
    | repeated named => exact absurd empty named
    | shapeless named => exact absurd empty named
  | repeated named known =>
    cases h' with
    | unnamed empty => exact absurd empty named
    | repeated => rfl
    | shapeless _ new =>
      obtain ⟨e, mem, same⟩ := known
      exact absurd same (new e mem)
  | shapeless named new =>
    cases h' with
    | unnamed empty => exact absurd empty named
    | repeated _ known =>
      obtain ⟨e, mem, same⟩ := known
      exact absurd same (new e mem)
    | shapeless => rfl

/-- The names of the plugins that were looked at, the last one first. -/
def namesBefore (ds : List PluginDescriptor) : List String := (ds.map PluginDescriptor.name).reverse

theorem namesBefore_concat : namesBefore (ds ++ [d]) = d.name :: namesBefore ds := by
  simp [namesBefore]

theorem mem_namesBefore {name : String} :
    name ∈ namesBefore ds ↔ ∃ e ∈ ds, e.name = name := by
  simp [namesBefore]

theorem isObject_iff {v : Value} : v.isObject = true ↔ ∃ ms, v = .object ms := by
  cases v <;> simp [Value.isObject]

theorem firstInvalidPlugin_cons (before ds : List PluginDescriptor) (d : PluginDescriptor) :
    (∃ why, PluginFault before d why ∧
      firstInvalidPlugin (namesBefore before) (d :: ds) = some why) ∨
    ((∀ why, ¬ PluginFault before d why) ∧
      firstInvalidPlugin (namesBefore before) (d :: ds) =
        firstInvalidPlugin (namesBefore (before ++ [d])) ds) := by
  rw [firstInvalidPlugin, namesBefore_concat]
  by_cases named : d.name = ""
  · exact .inl ⟨_, .unnamed named, if_pos named⟩
  rw [if_neg named]
  by_cases known : ∃ e ∈ before, e.name = d.name
  · exact .inl ⟨_, .repeated named known, if_pos (by simpa using mem_namesBefore.2 known)⟩
  rw [if_neg (by simpa using mt mem_namesBefore.1 known)]
  have new : ∀ e ∈ before, e.name ≠ d.name := fun e mem same => known ⟨e, mem, same⟩
  by_cases mapping : ∃ ms, d.config = .object ms
  · refine .inr ⟨?_, if_neg (by simpa using isObject_iff.2 mapping)⟩
    rintro why (empty | ⟨-, known⟩ | ⟨-, -, noMapping⟩)
    · exact named empty
    · obtain ⟨e, mem, same⟩ := known
      exact new e mem same
    · obtain ⟨ms, own⟩ := mapping
      exact noMapping ms own
  · refine .inl ⟨_, .shapeless named new (not_exists.1 mapping), if_pos ?_⟩
    simpa using mt isObject_iff.1 mapping

/-- **No fault is found exactly in valid plugins.** -/
theorem firstInvalidPlugin_eq_none_iff {before : List PluginDescriptor}
    (valid : ValidPlugins before) :
    firstInvalidPlugin (namesBefore before) ds = none ↔ ValidPlugins (before ++ ds) := by
  induction ds generalizing before with
  | nil => simp [firstInvalidPlugin, valid]
  | cons d ds ih =>
    rw [List.append_cons]
    rcases firstInvalidPlugin_cons before ds d with ⟨why, fault, found⟩ | ⟨faultless, next⟩
    · rw [found]
      refine iff_of_false nofun fun whole => ?_
      exact (validPlugins_concat_iff.1 whole.of_append).2 why fault
    · rw [next, ih (validPlugins_concat_iff.2 ⟨valid, faultless⟩)]

theorem firstInvalidPlugin_nil_eq_none_iff : firstInvalidPlugin [] ds = none ↔ ValidPlugins ds :=
  firstInvalidPlugin_eq_none_iff validPlugins_nil

/-- **The fault that is found is that of the first plugin that does not go with those before
it.** -/
theorem firstInvalidPlugin_eq_some_iff {before : List PluginDescriptor}
    (valid : ValidPlugins before) :
    firstInvalidPlugin (namesBefore before) ds = some why ↔ ∃ earlier d later,
      ds = earlier ++ d :: later ∧ ValidPlugins (before ++ earlier) ∧
        PluginFault (before ++ earlier) d why := by
  induction ds generalizing before with
  | nil => simp [firstInvalidPlugin]
  | cons d ds ih =>
    rcases firstInvalidPlugin_cons before ds d with ⟨own, fault, found⟩ | ⟨faultless, next⟩
    · rw [found, Option.some_inj]
      constructor
      · rintro rfl
        exact ⟨[], d, ds, rfl, by rwa [List.append_nil], by rwa [List.append_nil]⟩
      · rintro ⟨earlier, e, later, split, still, other⟩
        cases earlier with
        | nil =>
          cases split
          rw [List.append_nil] at other
          exact fault.unique other
        | cons e' earlier =>
          cases split
          rw [List.append_cons] at still
          exact absurd fault ((validPlugins_concat_iff.1 still.of_append).2 own)
    · rw [next, ih (validPlugins_concat_iff.2 ⟨valid, faultless⟩)]
      constructor
      · rintro ⟨earlier, e, later, rfl, still, fault⟩
        refine ⟨d :: earlier, e, later, rfl, ?_⟩
        rw [List.append_cons]
        exact ⟨still, fault⟩
      · rintro ⟨earlier, e, later, split, still, fault⟩
        cases earlier with
        | nil =>
          cases split
          rw [List.append_nil] at fault
          exact absurd fault (faultless why)
        | cons e' earlier =>
          cases split
          rw [List.append_cons] at still fault
          exact ⟨earlier, e, later, rfl, still, fault⟩

/-! ### The host -/

theorem invalidHost_eq_none_iff : invalidHost h = none ↔ ValidHost h := by
  unfold invalidHost
  split_ifs with zero collision
  · exact iff_of_false nofun fun valid => Nat.lt_irrefl 0 (zero ▸ valid.polls)
  · refine iff_of_false nofun fun valid => ?_
    rcases valid.apart with off | elsewhere
    · simp [off] at collision
    · exact elsewhere collision.2
  · refine iff_of_true rfl ⟨Nat.pos_of_ne_zero zero, ?_⟩
    by_contra both
    rw [not_or, Bool.not_eq_false, not_not] at both
    exact collision both

theorem invalidHost_eq_some_iff : invalidHost h = some why ↔ HostFault h why := by
  unfold invalidHost
  split_ifs with zero collision
  · rw [Option.some_inj]
    constructor
    · rintro rfl
      exact .idle zero
    · rintro (_ | ⟨polls, -, -⟩)
      · rfl
      · exact absurd polls (by omega)
  · rw [Option.some_inj]
    constructor
    · rintro rfl
      exact .collision (Nat.pos_of_ne_zero zero) collision.1 collision.2
    · rintro (idle | _)
      · exact absurd idle zero
      · rfl
  · refine iff_of_false nofun ?_
    rintro (idle | ⟨-, enabled, same⟩)
    · exact zero idle
    · exact collision ⟨enabled, same⟩

/-! ### Configurations -/

theorem firstFault_iff :
    (firstInvalidPlugin [] c.plugins).or (invalidHost c.host) = some why ↔ c.FirstFault why := by
  have faulty : firstInvalidPlugin [] c.plugins = some why ↔ ∃ before d after,
      c.plugins = before ++ d :: after ∧ ValidPlugins before ∧ PluginFault before d why :=
    firstInvalidPlugin_eq_some_iff validPlugins_nil
  rw [Option.or_eq_some_iff, firstInvalidPlugin_nil_eq_none_iff, faulty, invalidHost_eq_some_iff]
  constructor
  · rintro (⟨before, d, after, split, earlier, fault⟩ | ⟨valid, fault⟩)
    · exact .plugin split earlier fault
    · exact .host valid fault
  · rintro (⟨split, earlier, fault⟩ | ⟨valid, fault⟩)
    · exact .inl ⟨_, _, _, split, earlier, fault⟩
    · exact .inr ⟨valid, fault⟩

theorem validate_eq_ok_iff : validate c = .ok () ↔ c.Valid := by
  have none : (firstInvalidPlugin [] c.plugins).or (invalidHost c.host) = none ↔ c.Valid := by
    rw [Option.or_eq_none_iff, firstInvalidPlugin_nil_eq_none_iff, invalidHost_eq_none_iff]
    exact ⟨fun ⟨plugins, host⟩ => ⟨plugins, host⟩, fun valid => ⟨valid.plugins, valid.host⟩⟩
  rw [← none, validate]
  split
  · rename_i found
    simp [found]
  · rename_i nothing
    simp [nothing]

theorem validate_eq_error_iff {e : Error} :
    validate c = .error e ↔ ∃ why, e = .invalid why ∧ c.FirstFault why := by
  simp only [← firstFault_iff]
  rw [validate]
  split
  · rename_i why found
    rw [found]
    constructor
    · rintro ⟨⟩
      exact ⟨why, rfl, rfl⟩
    · rintro ⟨_, rfl, ⟨⟩⟩
      rfl
  · rename_i nothing
    simp [nothing]

theorem bind_eq_ok_iff {α β : Type} {x : Except Error α} {f : α → Except Error β} {b : β} :
    x >>= f = .ok b ↔ ∃ a, x = .ok a ∧ f a = .ok b := by
  cases x <;> simp [bind, Except.bind]

theorem load_eq_ok_iff {path : String} {bytes : Option ByteArray} {env : Environment} :
    load path bytes env = .ok c ↔ ∃ text format, fileText bytes = .ok text ∧
      Format.ofPath path = .ok format ∧ ofText format env text = .ok c ∧ c.Valid := by
  simp only [load, bind_eq_ok_iff, pure, Except.pure, Except.ok.injEq]
  constructor
  · rintro ⟨text, read, format, known, c, parsed, ⟨⟩, checked, rfl⟩
    exact ⟨text, format, read, known, parsed, validate_eq_ok_iff.1 checked⟩
  · rintro ⟨text, format, read, known, parsed, valid⟩
    exact ⟨text, read, format, known, c, parsed, (), validate_eq_ok_iff.2 valid, rfl⟩

theorem plugin?_of_distinct {before after : List PluginDescriptor}
    (distinct : c.pluginNames.Nodup) (split : c.plugins = before ++ d :: after) :
    c.plugin? d.name = some d ∧ ∀ e ∈ before ++ after, e.name ≠ d.name := by
  have own : d.name ∉ (before ++ after).map PluginDescriptor.name := by
    rw [pluginNames, split, List.map_append, List.map_cons, List.nodup_middle] at distinct
    rw [List.map_append]
    exact (List.nodup_cons.1 distinct).1
  have others : ∀ e ∈ before ++ after, e.name ≠ d.name := fun e mem same =>
    own (List.mem_map.2 ⟨e, mem, same⟩)
  refine ⟨List.find?_eq_some_iff_append.2 ⟨decide_eq_true rfl, before, after, split, ?_⟩, others⟩
  intro e mem
  simpa using others e (List.mem_append_left after mem)

/-- **A configuration is accepted exactly if it is valid, and otherwise its first fault is
reported.**  In one that was loaded each plugin is found under its name, which no other has. -/
theorem valid_or_first_fault (c : Config) :
    (validate c = .ok () ↔ c.Valid) ∧
    (∀ e, validate c = .error e ↔ ∃ why, e = .invalid why ∧ c.FirstFault why) ∧
    ∀ path bytes env, load path bytes env = .ok c → ∀ before d after,
      c.plugins = before ++ d :: after →
        c.plugin? d.name = some d ∧ ∀ e ∈ before ++ after, e.name ≠ d.name := by
  refine ⟨validate_eq_ok_iff, fun _ => validate_eq_error_iff, ?_⟩
  intro path bytes env loaded before d after split
  obtain ⟨-, -, -, -, -, valid⟩ := load_eq_ok_iff.1 loaded
  exact plugin?_of_distinct valid.plugins.distinct split

theorem valid_or_first_fault_loaded : ∃ c d e,
    load "sidecar.yaml" (some "plugins:\n- name: b\n- name: a\n".toUTF8) .empty = .ok c ∧
      c.plugins = [d, e] ∧ e.name = "a" ∧ c.plugin? "a" = some e := by
  have check : (load "sidecar.yaml" (some "plugins:\n- name: b\n- name: a\n".toUTF8)
      .empty).toOption.any (fun c => decide (c.pluginNames = ["b", "a"])) = true := by
    decide +kernel
  cases loaded : load "sidecar.yaml" (some "plugins:\n- name: b\n- name: a\n".toUTF8) .empty with
  | ok c =>
    rw [loaded] at check
    obtain ⟨d, es, split, first, names⟩ := List.map_eq_cons_iff.1 (of_decide_eq_true check)
    obtain ⟨e, rest, rfl, second, last⟩ := List.map_eq_cons_iff.1 names
    obtain rfl := List.map_eq_nil_iff.1 last
    have found := (valid_or_first_fault c).2.2 _ _ _ loaded [d] e [] split
    exact ⟨c, d, e, rfl, split, second, second ▸ found.1⟩
  | error _ =>
    rw [loaded] at check
    cases check

end Sidecar.Config

import Sidecar.Proofs.Host.Overlap
import Sidecar.Proofs.Registry.Names

/-!
# Registrations

An `Addition` is an instance that is given to the host, with what comes of binding its configuration
and what comes of initializing it.  `Addition.Registers` lists how its registration may end: only if
the plugin is configured, its configuration bound and the instance initialized are the records of the
host changed, by one insertion.  The host tells the two steps apart by their errors; an initialization
that gives the error of a binding is told like one.

* `Host.Registered.of_all` : after any sequence of additions the entry of a name is that of the last
  one that succeeded, if any did;
* `Host.Trace.prepared` : in every run of the host, only instances that were bound and initialized
  are started;
* `Host.registrations` : **what is registered after any sequence of additions**, and in which order
  it is listed.
-/

namespace Sidecar.Host

open HostExchange (of)

/-- An instance that is given to the host under a name, with what comes of binding a free
configuration to the type that it declares and what comes of initializing it with that. -/
structure Addition where
  name : String
  plugin : PluginId
  bind : Value → Except BindError Unit
  init : Value → Except PluginError Unit

namespace Addition

/-- The answer to a question that is asked for an addition, and the records afterwards. -/
def answer? (a : Addition) (h : Host) : (q : HostAsk) → Option (q.Reply × Host)
  | .bind _ value => some (a.bind value, h)
  | .init _ value => some (a.init value, h)
  | q => h.answer? q

/-- Do what is asked of the host for an addition, while nothing else happens: the result, and the
records afterwards. -/
def perform {α : Type} (a : Addition) (x : Hosting α) (h : Host) : Option (α × Host) :=
  x.run (m := StateT Host Option) (fun q h => a.answer? h q) h

/-- Register an instance. -/
def register (config : Config) (a : Addition) : Host → Option (Except HostError Unit × Host) :=
  a.perform (addPlugin config a.name a.plugin)

/-- Whether the plugin of an addition is configured, its configuration bound and the instance
initialized. -/
def Succeeds (config : Config) (a : Addition) : Prop :=
  a.name ≠ "" ∧ ∃ d, config.plugin? a.name = some d ∧ a.bind d.config = .ok () ∧
    a.init d.config = .ok ()

/-- How a registration ends, and what the records are then. -/
inductive Registers (config : Config) (a : Addition) (h : Host) :
    Except HostError Unit → Host → Prop
  | emptyName (unnamed : a.name = "") : Registers config a h (.error .emptyName) h
  /-- Plugins that are not configured are passed over. -/
  | skipped (named : a.name ≠ "") (unconfigured : config.plugin? a.name = none) :
      Registers config a h (.ok ()) h
  | unbound {d why} (named : a.name ≠ "") (configured : config.plugin? a.name = some d)
      (fails : a.bind d.config = .error why) :
      Registers config a h (.error (.configBind a.name (.bind why))) h
  | uninitialized {d why} (named : a.name ≠ "") (configured : config.plugin? a.name = some d)
      (bound : a.bind d.config = .ok ()) (fails : a.init d.config = .error why)
      (own : ∀ b, why ≠ .bind b) :
      Registers config a h (.error (.pluginInit a.name why)) h
  /-- An initialization that gives the error of a binding is told like one. -/
  | mistaken {d why} (named : a.name ≠ "") (configured : config.plugin? a.name = some d)
      (bound : a.bind d.config = .ok ()) (fails : a.init d.config = .error (.bind why)) :
      Registers config a h (.error (.configBind a.name (.bind why))) h
  | registered {d} (named : a.name ≠ "") (configured : config.plugin? a.name = some d)
      (bound : a.bind d.config = .ok ()) (ready : a.init d.config = .ok ()) :
      Registers config a h (.ok ()) (h.withRegistry (·.insert a.name a.plugin d.bootOrder))

variable {config : Config} {a : Addition} {h h' : Host} {result : Except HostError Unit}

theorem perform_ask {α : Type} {q : HostAsk} {r : q.Reply} {f : q.Reply → Hosting α}
    (answer : a.answer? h q = some (r, h')) :
    a.perform (Activity.query q >>= f) h = a.perform (f r) h' :=
  Activity.run_query_bind answer

theorem perform_bind {α β : Type} {x : Hosting α} {f : α → Hosting β} :
    a.perform (x >>= f) h = (a.perform x h).bind fun p => a.perform (f p.1) p.2 := by
  unfold perform
  rw [Activity.run_bind]
  rfl

theorem perform_bindAndInit_of_unbound {value : Value} {why : BindError}
    (fails : a.bind value = .error why) :
    a.perform (bindAndInit a.plugin value) h = some (.error (.bind why), h) := by
  have answer : a.answer? h (.bind a.plugin value) = some (.error why, h) := by
    rw [answer?, fails]
  exact perform_ask answer

theorem perform_bindAndInit_of_bound {value : Value} (bound : a.bind value = .ok ()) :
    a.perform (bindAndInit a.plugin value) h = some (a.init value, h) := by
  have answer : a.answer? h (.bind a.plugin value) = some (.ok (), h) := by
    rw [answer?, bound]
  exact perform_ask answer

/-- **Every registration ends in one of these ways.** -/
theorem exists_register (config : Config) (a : Addition) (h : Host) :
    ∃ result h', a.register config h = some (result, h') ∧ a.Registers config h result h' := by
  unfold register addPlugin
  by_cases unnamed : a.name = ""
  · rw [if_pos unnamed]
    exact ⟨_, h, rfl, .emptyName unnamed⟩
  · rw [if_neg unnamed]
    cases configured : config.plugin? a.name with
    | none => exact ⟨_, h, rfl, .skipped unnamed configured⟩
    | some d =>
      simp only [perform_bind]
      cases bound : a.bind d.config with
      | error why =>
        rw [perform_bindAndInit_of_unbound bound]
        exact ⟨_, h, rfl, .unbound unnamed configured bound⟩
      | ok =>
        -- what remains depends on what comes of initializing the instance
        rw [perform_bindAndInit_of_bound bound]
        cases ready : a.init d.config with
        | ok => exact ⟨_, _, rfl, .registered unnamed configured bound ready⟩
        | error why =>
          refine ⟨.error (.ofAddition a.name why), h, rfl, ?_⟩
          cases why with
          | bind b => exact .mistaken unnamed configured bound ready
          | _ => exact .uninitialized unnamed configured bound ready nofun

theorem Registers.unchanged (r : a.Registers config h result h') (fails : ¬ a.Succeeds config) :
    h' = h := by
  cases r with
  | registered named configured bound ready =>
    exact absurd ⟨named, _, configured, bound, ready⟩ fails
  | emptyName | skipped | unbound | uninitialized | mistaken => rfl

theorem Registers.inserted (r : a.Registers config h result h') (succeeds : a.Succeeds config) :
    ∃ d, config.plugin? a.name = some d ∧
      h' = h.withRegistry (·.insert a.name a.plugin d.bootOrder) := by
  obtain ⟨named, d, configured, bound, ready⟩ := succeeds
  cases r with
  | emptyName unnamed => exact absurd unnamed named
  | skipped _ unconfigured => cases configured.symm.trans unconfigured
  | unbound _ configured' fails =>
    cases configured.symm.trans configured'
    cases bound.symm.trans fails
  | uninitialized _ configured' _ fails | mistaken _ configured' _ fails =>
    cases configured.symm.trans configured'
    cases ready.symm.trans fails
  | @registered d' _ configured' => exact ⟨d', configured', rfl⟩

end Addition

/-! ### Sequences of additions -/

/-- Register some instances one after another: the results, and the records afterwards. -/
def registerEach (config : Config) :
    List Addition → Host → Option (List (Except HostError Unit) × Host)
  | [], h => some ([], h)
  | a :: calls, h => do
    let (result, h) ← a.register config h
    let (results, h) ← registerEach config calls h
    return (result :: results, h)

/-- That an entry is what an addition has made of the first plugin of a name. -/
structure Made (config : Config) (a : Addition) (e : Entry) : Prop where
  plugin : e.plugin = a.plugin
  state : e.state = .bound
  status : e.status = none
  run : e.run = none
  /-- Its place is that of the first plugin of the name. -/
  bootOrder : ∃ before d after, config.plugins = before ++ d :: after ∧ d.name = a.name ∧
    (∀ x ∈ before, x.name ≠ a.name) ∧ e.bootOrder = d.bootOrder

/-- What is registered after some additions, the oldest first. -/
structure Registered (config : Config) (calls : List Addition) (r : Registry) : Prop where
  /-- No name is registered twice. -/
  distinct : r.Distinct
  /-- The entry of a name is that of the last addition that succeeded. -/
  last : ∀ {name e}, r.get? name = some e → ∃ earlier a later,
    calls = earlier ++ a :: later ∧ a.name = name ∧ a.Succeeds config ∧
      (∀ x ∈ later, x.name = name → ¬ x.Succeeds config) ∧ Made config a e
  /-- There is one if any addition succeeded. -/
  registers : ∀ {a}, a ∈ calls → a.Succeeds config → ∃ e, r.get? a.name = some e

variable {config : Config} {calls : List Addition} {a : Addition}

theorem exists_of_plugin? {name : String} {d : PluginDescriptor}
    (h : config.plugin? name = some d) :
    ∃ before after, config.plugins = before ++ d :: after ∧ d.name = name ∧
      ∀ x ∈ before, x.name ≠ name := by
  obtain ⟨hd, before, after, heq, others⟩ := List.find?_eq_some_iff_append.1 h
  refine ⟨before, after, heq, of_decide_eq_true hd, fun x hx => ?_⟩
  simpa using others x hx

theorem Made.bootOrder_eq {b : Addition} {e e' : Entry} (h : Made config a e)
    (h' : Made config b e') (same : a.name = b.name) : e.bootOrder = e'.bootOrder := by
  obtain ⟨before, d, after, heq, named, others, order⟩ := h.bootOrder
  obtain ⟨before', d', after', heq', named', others', order'⟩ := h'.bootOrder
  rw [← same] at named' others'
  obtain ⟨-, rfl⟩ := eq_of_first (heq.symm.trans heq') (p := fun x => x.name = a.name) named named'
    others others'
  rw [order, order']

namespace Registered

theorem nil : Registered config [] .empty where
  distinct := Registry.distinct_empty
  last h := by cases h
  registers h := by cases h

theorem snoc_of_fails {r : Registry} (h : Registered config calls r)
    (fails : ¬ a.Succeeds config) : Registered config (calls ++ [a]) r where
  distinct := h.distinct
  last {name e} found := by
    obtain ⟨earlier, b, later, rfl, named, succeeds, last, made⟩ := h.last found
    refine ⟨earlier, b, later ++ [a], by simp, named, succeeds, fun x hx heq => ?_, made⟩
    rcases List.mem_append.1 hx with hx | hx
    · exact last x hx heq
    · rwa [List.mem_singleton.1 hx]
  registers {b} mem succeeds := by
    rcases List.mem_append.1 mem with mem | mem
    · exact h.registers mem succeeds
    · rw [List.mem_singleton.1 mem] at succeeds
      exact absurd succeeds fails

theorem snoc_of_succeeds {r : Registry} (h : Registered config calls r) {d : PluginDescriptor}
    (succeeds : a.Succeeds config) (configured : config.plugin? a.name = some d) :
    Registered config (calls ++ [a]) (r.insert a.name a.plugin d.bootOrder) where
  distinct := h.distinct.insert
  last {name e} found := by
    rw [Registry.get?_insert] at found
    split_ifs at found with own
    · -- the entry is the new one
      obtain ⟨before, after, heq, named, others⟩ := exists_of_plugin? configured
      cases found
      exact ⟨calls, a, [], rfl, own.symm, succeeds, List.forall_mem_nil _, rfl, rfl, rfl, rfl,
        before, d, after, heq, named, others, rfl⟩
    · obtain ⟨earlier, b, later, rfl, named, done, last, made⟩ := h.last found
      refine ⟨earlier, b, later ++ [a], by simp, named, done, fun x hx heq => ?_, made⟩
      rcases List.mem_append.1 hx with hx | hx
      · exact last x hx heq
      · rw [List.mem_singleton.1 hx] at heq
        exact absurd heq.symm own
  registers {b} mem done := by
    rw [Registry.get?_insert]
    split_ifs with own
    · exact ⟨_, rfl⟩
    · rcases List.mem_append.1 mem with mem | mem
      · exact h.registers mem done
      · exact absurd (congrArg Addition.name (List.mem_singleton.1 mem)) own

/-- **What is registered after more additions.** -/
theorem of_each {past : List Addition} {h : Host} (before : Registered config past h.registry) :
    ∃ results h', registerEach config calls h = some (results, h') ∧
      Registered config (past ++ calls) h'.registry := by
  induction calls generalizing past h with
  | nil => exact ⟨[], h, rfl, by rwa [List.append_nil]⟩
  | cons a calls ih =>
    -- the next addition joins those that are done
    obtain ⟨result, h₁, registers, ends⟩ := a.exists_register config h
    have now : Registered config (past ++ [a]) h₁.registry := by
      by_cases succeeds : a.Succeeds config
      · obtain ⟨d, configured, rfl⟩ := ends.inserted succeeds
        exact before.snoc_of_succeeds succeeds configured
      · rw [ends.unchanged succeeds]
        exact before.snoc_of_fails succeeds
    obtain ⟨results, h₂, rest, after⟩ := ih now
    refine ⟨result :: results, h₂, ?_, by rwa [List.append_cons]⟩
    simp only [registerEach, registers, rest, Option.bind_eq_bind, Option.bind_some, Option.pure_def]

/-- What is registered after some additions. -/
theorem of_all (config : Config) (calls : List Addition) :
    ∃ results h, registerEach config calls .empty = some (results, h) ∧
      Registered config calls h.registry :=
  @of_each config calls [] .empty nil

/-- The names that are registered are those for which an addition succeeded. -/
theorem mem_names_iff {r : Registry} (h : Registered config calls r) {name : String} :
    name ∈ r.names ↔ ∃ a ∈ calls, a.name = name ∧ a.Succeeds config := by
  rw [h.distinct.mem_names_iff]
  constructor
  · rintro ⟨e, found⟩
    obtain ⟨earlier, a, later, rfl, named, succeeds, -⟩ := h.last found
    exact ⟨a, List.mem_append_right _ List.mem_cons_self, named, succeeds⟩
  · rintro ⟨a, mem, rfl, succeeds⟩
    exact h.registers mem succeeds

/-- The order in which names are listed does not depend on the order of the additions. -/
theorem names_eq {r r' : Registry} {calls' : List Addition} (h : Registered config calls r)
    (h' : Registered config calls' r')
    (same : ∀ name, (∃ a ∈ calls, a.name = name ∧ a.Succeeds config) ↔
      ∃ a ∈ calls', a.name = name ∧ a.Succeeds config) : r.names = r'.names := by
  refine Registry.names_eq h.distinct h'.distinct fun name => ?_
  have both : (∃ e, r.get? name = some e) ↔ ∃ e, r'.get? name = some e := by
    rw [← h.distinct.mem_names_iff, ← h'.distinct.mem_names_iff, h.mem_names_iff,
      h'.mem_names_iff, same]
  cases found : r.get? name with
  | none =>
    cases found' : r'.get? name with
    | none => rfl
    | some e' =>
      obtain ⟨e, he⟩ := both.2 ⟨e', found'⟩
      cases found.symm.trans he
  | some e =>
    obtain ⟨e', found'⟩ := both.1 ⟨e, found⟩
    obtain ⟨-, a, -, -, named, -, -, made⟩ := h.last found
    obtain ⟨-, a', -, -, named', -, -, made'⟩ := h'.last found'
    rw [found', Option.map_some, Option.map_some,
      made.bootOrder_eq made' (named.trans named'.symm)]

end Registered

/-! ### Instances that are started -/

/-- What may be asked to register an instance, after what was asked before. -/
inductive AddMay (config : Config) (name : String) (plugin : PluginId) :
    List HostExchange → HostAsk → Prop
  | bind {d} (named : name ≠ "") (configured : config.plugin? name = some d) :
      AddMay config name plugin [] (.bind plugin d.config)
  | init {d} (named : name ≠ "") (configured : config.plugin? name = some d) :
      AddMay config name plugin [of (.bind plugin d.config) (.ok ())] (.init plugin d.config)
  | insert {d} (named : name ≠ "") (configured : config.plugin? name = some d) :
      AddMay config name plugin
        [of (.init plugin d.config) (.ok ()), of (.bind plugin d.config) (.ok ())]
        (.insert name plugin d.bootOrder)

/-- How many questions are asked to register an instance before one. -/
def AddMay.place : HostAsk → Nat
  | .bind .. => 0
  | .init .. => 1
  | _ => 2

theorem AddMay.length_eq {name : String} {plugin : PluginId} {past : List HostExchange}
    {q : HostAsk} (h : AddMay config name plugin past q) : past.length = AddMay.place q := by
  cases h <;> rfl

theorem keeps_addPlugin {name : String} {plugin : PluginId} :
    (addPlugin config name plugin).Keeps (AddMay config name plugin) (fun _ _ => True) [] := by
  unfold addPlugin
  split_ifs with unnamed
  · trivial
  · split
    · trivial
    next d configured =>
      refine .ask (.bind unnamed configured) fun bound => ?_
      cases bound with
      | error why => trivial
      | ok =>
        refine .ask (.init unnamed configured) fun ready => ?_
        cases ready with
        | error why => trivial
        | ok => exact .ask (.insert unnamed configured) fun _ => trivial

variable {es : List Event} {w : World} {j k : Nat} {name : String} {plugin : PluginId}

/-- That a call has bound the configuration of an instance and initialized it. -/
structure Prepared (config : Config) (es : List Event) (k : Nat) (name : String)
    (plugin : PluginId) (d : PluginDescriptor) : Prop where
  named : name ≠ ""
  configured : config.plugin? name = some d
  bound : .asked k (.add name plugin) (of (.bind plugin d.config) (.ok ())) ∈ es
  initialized : .asked k (.add name plugin) (of (.init plugin d.config) (.ok ())) ∈ es

theorem Prepared.append {d : PluginDescriptor} (later : List Event)
    (h : Prepared config es k name plugin d) : Prepared config (later ++ es) k name plugin d where
  named := h.named
  configured := h.configured
  bound := List.mem_append_right _ h.bound
  initialized := List.mem_append_right _ h.initialized

theorem Trace.prepared_of_insertion (t : Trace config es w) {e : Event}
    {later earlier : List Event} (h : es = later ++ e :: earlier)
    (hi : e.insertion? = some (name, plugin)) :
    ∃ j d, own j earlier =
        [of (.init plugin d.config) (.ok ()), of (.bind plugin d.config) (.ok ())] ∧
      Prepared config earlier j name plugin d := by
  obtain ⟨j, order, value, rfl, hown⟩ := t.insertion h hi
  have may := t.keeps_asked (c := .add name plugin) keeps_addPlugin h
  obtain ⟨w₁, w₂, before, step⟩ := t.split h
  obtain ⟨next, doing⟩ := exists_of_asked step
  have asked (newer : List HostExchange) {x : HostExchange} {older : List HostExchange}
      (split : own j earlier = newer ++ x :: older) : .asked j (.add name plugin) x ∈ earlier := by
    obtain ⟨later, before', heq, -, -⟩ := before.asked_of_own doing split
    exact heq ▸ List.mem_append_right _ List.mem_cons_self
  have initialized := asked [] hown
  have bound := asked [_] hown
  rw [hown] at may
  cases may with
  | @insert d named configured => exact ⟨j, d, hown, named, configured, bound, initialized⟩

/-- **Only instances that were bound and initialized are started.** -/
theorem Trace.prepared (t : Trace config es w) {scope : Scope}
    (h : w.execution? j = some (name, plugin, scope)) :
    ∃ k d, Prepared config es k name plugin d := by
  obtain ⟨x, doing⟩ := exists_of_execution? h
  obtain ⟨e, he, hl⟩ := t.launched doing
  obtain ⟨later, earlier, rfl⟩ := List.append_of_mem he
  obtain ⟨newer, y, older, rfl, hi⟩ := t.inserted_of_launch rfl hl
  have split : later ++ e :: (newer ++ y :: older) = (later ++ e :: newer) ++ y :: older := by simp
  obtain ⟨k, d, -, prepared⟩ := t.prepared_of_insertion split hi
  exact ⟨k, d, split ▸ List.append_cons .. ▸ prepared.append _⟩

theorem Trace.answer_unique (t : Trace config es w) {name' : String} {q q' : HostAsk}
    {r : q.Reply} {r' : q'.Reply} (h : .asked j (.add name plugin) (of q r) ∈ es)
    (h' : .asked k (.add name' plugin) (of q' r') ∈ es)
    (same : AddMay.place q = AddMay.place q') : of q r = of q' r' := by
  -- the instance is given to the host with one call
  obtain ⟨rfl, heq⟩ := t.call_of_plugin (t.called_of_asked h rfl) (t.called_of_asked h' rfl) rfl rfl
  cases heq
  have asked {p : HostAsk} {o : p.Reply} (h : .asked j (.add name plugin) (of p o) ∈ es) :
      ∃ newer past, own j es = newer ++ of p o :: past ∧ AddMay config name plugin past p := by
    obtain ⟨later, earlier, rfl⟩ := List.append_of_mem h
    have may := t.keeps_asked (c := .add name plugin) keeps_addPlugin rfl
    exact ⟨own j later, own j earlier, by rw [own_append, own_asked], may⟩
  obtain ⟨newer, past, hown, may⟩ := asked h
  obtain ⟨newer', past', hown', may'⟩ := asked h'
  have length : (of q r :: past).length = (of q' r' :: past').length := by
    rw [List.length_cons, List.length_cons, may.length_eq, may'.length_eq, same]
  exact (List.cons.inj (List.append_inj' (hown.symm.trans hown') length).2).1

/-- What is registered after some additions, and how it is listed. -/
structure Registration (config : Config) (calls : List Addition) (r : Registry) : Prop where
  /-- The registered names are those of configured plugins for which an addition succeeded. -/
  names_iff : ∀ name, name ∈ r.names ↔ ∃ a ∈ calls, a.name = name ∧ a.Succeeds config
  /-- Each has an entry, which is that of its last addition that succeeded. -/
  entries : ∀ name ∈ r.names, ∃ e earlier a later, r.get? name = some e ∧
    calls = earlier ++ a :: later ∧ a.name = name ∧ a.Succeeds config ∧
    (∀ x ∈ later, x.name = name → ¬ x.Succeeds config) ∧ Made config a e
  /-- Each is listed once, in strictly increasing order of places and names. -/
  sorted : r.names.Pairwise fun m n => ∃ e e', r.get? m = some e ∧ r.get? n = some e' ∧
    (e.bootOrder < e'.bootOrder ∨ e.bootOrder = e'.bootOrder ∧ m < n)
  /-- The order of the additions has no part in that. -/
  independent : ∀ {calls' results h}, registerEach config calls' .empty = some (results, h) →
    (∀ name, (∃ a ∈ calls, a.name = name ∧ a.Succeeds config) ↔
      ∃ a ∈ calls', a.name = name ∧ a.Succeeds config) → h.registry.names = r.names

/-- How plugins are registered. -/
structure Registrations (config : Config) : Prop where
  /-- Every addition ends with a result, and changes nothing unless it succeeds. -/
  each : ∀ (a : Addition) (h : Host), ∃ result h',
    a.register config h = some (result, h') ∧ a.Registers config h result h' ∧
      (¬ a.Succeeds config → h' = h)
  /-- What is registered after any sequence of additions. -/
  all : ∀ calls, ∃ results h, registerEach config calls .empty = some (results, h) ∧
    Registration config calls h.registry
  /-- Whatever else happens, an instance is started only if it was bound and initialized. -/
  started : ∀ {es w j name plugin scope}, Trace config es w →
    w.execution? j = some (name, plugin, scope) →
    (∃ k d, Prepared config es k name plugin d) ∧
    (∀ {k name' value why},
      .asked k (.add name' plugin) (of (.bind plugin value) (.error why)) ∉ es) ∧
    ∀ {k name' value why},
      .asked k (.add name' plugin) (of (.init plugin value) (.error why)) ∉ es

/-- **Exactly the configured plugins that could be bound and initialized are registered.** -/
theorem registrations (config : Config) : Registrations config where
  each a h := by
    obtain ⟨result, h', registers, ends⟩ := a.exists_register config h
    exact ⟨result, h', registers, ends, ends.unchanged⟩
  all calls := by
    obtain ⟨results, h, registers, after⟩ := Registered.of_all config calls
    refine ⟨results, h, registers, fun _ => after.mem_names_iff, fun name mem => ?_,
      after.distinct.names_sorted, fun {calls' results' h'} registers' same => ?_⟩
    · obtain ⟨e, found⟩ := after.distinct.mem_names_iff.1 mem
      obtain ⟨earlier, a, later, last⟩ := after.last found
      exact ⟨e, earlier, a, later, found, last⟩
    · obtain ⟨_, _, again, after'⟩ := Registered.of_all config calls'
      cases registers'.symm.trans again
      exact (after.names_eq after' same).symm
  started {es w j name plugin scope} t execution := by
    obtain ⟨k, d, prepared⟩ := t.prepared execution
    refine ⟨⟨k, d, prepared⟩, fun {k' name' value why} mem => ?_, fun {k' name' value why} mem => ?_⟩
    · cases t.answer_unique prepared.bound mem rfl
    · cases t.answer_unique prepared.initialized mem rfl

/-- A plugin whose configuration is bound, and whose initialization gives the error of a binding. -/
def fragmentary (name : String) (plugin : PluginId) : Addition where
  name
  plugin
  bind _ := .ok ()
  init _ := .error (.bind .malformed)

/-- **Not every failed initialization is told as one.** -/
theorem not_all_failed_initializations_told :
    ¬ ∀ (config : Config) (a : Addition) (h : Host) (d : PluginDescriptor) (why : PluginError),
      a.name ≠ "" → config.plugin? a.name = some d → a.bind d.config = .ok () →
      a.init d.config = .error why →
      ∃ h', a.register config h = some (.error (.pluginInit a.name why), h') := by
  intro told
  obtain ⟨h', registers⟩ :=
    told (onePlugin "a") (fragmentary "a" 0) .empty _ _ (by decide) rfl rfl rfl
  cases registers

end Sidecar.Host

import Sidecar.Proofs.Config.Environment
import Sidecar.Proofs.Config.Sound
import Sidecar.Proofs.Net.Address

/-!
# Configurations that are read back

A configuration that was read from a text, of whatever format, is read back from its own JSON text
(`Config.ofText_compact`):

* the text has nothing to replace, and is read back as the tree of the configuration
  (`Config.Sound.legible`);
* the tree is read back as the configuration (`Config.Sound.ofNode?_laidOut`), record by record.

Nothing depends on the order in which the fields of a record are written (`Config.laidOut`); byte
order is that of the configuration as a value (`Config.laidOut_sorted`).
-/

namespace Sidecar

variable {a : Arrangement} {depth : Nat}

/-! ### Plugins -/

namespace PluginDescriptor

/-- The fields of a descriptor. -/
def fields (d : PluginDescriptor) : List (String × Value) :=
  [("name", .text d.name), ("bootOrder", .int d.bootOrder), ("config", d.config)]

/-- A descriptor with its fields in some order. -/
def laidOut (a : Arrangement) (d : PluginDescriptor) : Value := .object (a.arrange d.fields)

variable {d : PluginDescriptor}

theorem distinct_fields : (d.fields.map Prod.fst).Nodup := by
  change ["name", "bootOrder", "config"].Nodup
  decide

theorem Sound.legible (h : d.Sound) (free : d.config.floatFree = true)
    (shallow : (d.laidOut a).nesting ≤ depth) : Json.Legible .any depth (d.laidOut a) := by
  have least : -Int.pow 2 63 ≤ d.bootOrder := Int.le_trans (by decide) h.least
  have most : d.bootOrder < Int.pow 2 64 := Int.lt_of_le_of_lt h.most (by decide)
  refine Arrangement.legible_arrange distinct_fields shallow ?_
  simp only [fields, List.forall_mem_cons]
  exact ⟨⟨_, rfl, fun _ _ => .text⟩, ⟨_, rfl, fun _ _ => .int least most⟩,
    ⟨_, rfl, fun _ => h.config.legible free⟩, nofun⟩

/-- **A descriptor is read back.** -/
theorem Sound.ofNode?_laidOut (h : d.Sound) (free : d.config.floatFree = true) :
    ofNode? (Node.ofValue (d.laidOut a)) = some d := by
  obtain ⟨r, record, found⟩ := a.record?_arrange (@distinct_fields d)
  have record : (Node.ofValue (d.laidOut a)).record? ["name", "bootOrder", "config"] [] = some r :=
    record
  simp only [fields, List.forall_mem_cons] at found
  obtain ⟨name, bootOrder, config, -⟩ := found
  have read : configOfNode? (Node.ofValue d.config) = some d.config := by
    have some := h.present
    rw [configOfNode?, h.config.toValue?_ofValue free]
    cases config : d.config with
    | null => exact absurd config some
    | _ => rfl
  have order : (Node.ofValue (.int d.bootOrder)).intIn? minBootOrder maxBootOrder =
      some d.bootOrder := if_pos ⟨h.least, h.most⟩
  simp [ofNode?, record, Record.defaulting, name, bootOrder, config, read, Node.text?_ofValue,
    order]

end PluginDescriptor

/-! ### The host -/

namespace WebServer

/-- The fields of web server settings. -/
def fields (w : WebServer) : List (String × Value) :=
  [("enabled", .bool w.enabled), ("listen", .text w.listen.render)]

/-- Web server settings with their fields in some order. -/
def laidOut (a : Arrangement) (w : WebServer) : Value := .object (a.arrange w.fields)

variable {w : WebServer}

theorem distinct_fields : (w.fields.map Prod.fst).Nodup := by
  change ["enabled", "listen"].Nodup
  decide

theorem legible (shallow : (w.laidOut a).nesting ≤ depth) :
    Json.Legible shape depth (w.laidOut a) := by
  refine Arrangement.legible_arrange distinct_fields shallow ?_
  simp only [fields, List.forall_mem_cons]
  exact ⟨⟨_, rfl, fun _ _ => .bool⟩, ⟨_, rfl, fun _ _ => .text⟩, nofun⟩

theorem address?_ofValue {address : Address} :
    address? (Node.ofValue (.text address.render)) = some address := Address.parse_render address

/-- **Web server settings are read back.** -/
theorem ofNode?_laidOut : ofNode? (Node.ofValue (w.laidOut a)) = some w := by
  obtain ⟨r, record, found⟩ := a.record?_arrange (@distinct_fields w)
  have record : (Node.ofValue (w.laidOut a)).record? ["enabled", "listen"] [] = some r := record
  simp only [fields, List.forall_mem_cons] at found
  obtain ⟨enabled, listen, -⟩ := found
  simp [ofNode?, record, Record.defaulting, enabled, listen, address?_ofValue, Node.bool?_ofValue]

end WebServer

namespace HostSettings

/-- The fields of host settings. -/
def fields (a : Arrangement) (h : HostSettings) : List (String × Value) :=
  [("pollInterval", .text h.pollInterval.render), ("pollStagger", .text h.pollStagger.render),
    ("stopTimeout", .text h.stopTimeout.render), ("webServer", h.webServer.laidOut a),
    ("metricsListen", .text h.metricsListen.render)]

/-- Host settings with their fields in some order, and those of the web server as well. -/
def laidOut (a : Arrangement) (h : HostSettings) : Value := .object (a.arrange (h.fields a))

variable {h : HostSettings}

theorem distinct_fields : ((h.fields a).map Prod.fst).Nodup := by
  change ["pollInterval", "pollStagger", "stopTimeout", "webServer", "metricsListen"].Nodup
  decide

theorem legible (shallow : (h.laidOut a).nesting ≤ depth) :
    Json.Legible shape depth (h.laidOut a) := by
  refine Arrangement.legible_arrange distinct_fields shallow ?_
  simp only [fields, List.forall_mem_cons]
  exact ⟨⟨_, rfl, fun _ _ => .text⟩, ⟨_, rfl, fun _ _ => .text⟩, ⟨_, rfl, fun _ _ => .text⟩,
    ⟨_, rfl, fun _ => WebServer.legible⟩, ⟨_, rfl, fun _ _ => .text⟩, nofun⟩

theorem span?_ofValue {s : Span} (held : s.Held) :
    span? (Node.ofValue (.text s.render)) = some s := Span.parse_render held

/-- **Host settings are read back.** -/
theorem Sound.ofNode?_laidOut (sound : h.Sound) :
    ofNode? (Node.ofValue (h.laidOut a)) = some h := by
  obtain ⟨r, record, found⟩ := a.record?_arrange (@distinct_fields a h)
  have record : (Node.ofValue (h.laidOut a)).record?
      ["pollInterval", "pollStagger", "stopTimeout", "webServer", "metricsListen"] [] = some r :=
    record
  simp only [fields, List.forall_mem_cons] at found
  obtain ⟨pollInterval, pollStagger, stopTimeout, webServer, metricsListen, -⟩ := found
  simp [ofNode?, record, Record.defaulting, pollInterval, pollStagger, stopTimeout, webServer,
    metricsListen, span?_ofValue sound.pollInterval, span?_ofValue sound.pollStagger,
    span?_ofValue sound.stopTimeout, WebServer.ofNode?_laidOut, WebServer.address?_ofValue]

end HostSettings

/-! ### Configurations -/

theorem RestartPolicy.ofName?_name : ∀ p : RestartPolicy, ofName? p.name = some p := by
  intro p
  cases p <;> decide

theorem StartOrder.ofName?_name : ∀ o : StartOrder, ofName? o.name = some o := by
  intro o
  cases o <;> decide

namespace Config

/-- The fields of a configuration. -/
def fields (a : Arrangement) (c : Config) : List (String × Value) :=
  [("plugins", .list (c.plugins.map (PluginDescriptor.laidOut a))),
    ("restartPolicy", .text c.restartPolicy.name), ("resources", Value.ofTexts c.resources),
    ("sidecarStartOrder", .text c.startOrder.name), ("host", c.host.laidOut a)]

/-- A configuration with its fields in some order, and those of its parts as well. -/
def laidOut (a : Arrangement) (c : Config) : Value := .object (a.arrange (c.fields a))

/-- In byte order of the keys, that is the configuration as a value. -/
theorem laidOut_sorted (c : Config) : c.laidOut .sorted = c.toValue := rfl

variable {c : Config}

theorem distinct_fields : ((c.fields a).map Prod.fst).Nodup := by
  change ["plugins", "restartPolicy", "resources", "sidecarStartOrder", "host"].Nodup
  decide

theorem Sound.legible_resources (sound : c.Sound)
    (shallow : (Value.ofTexts c.resources).nesting ≤ depth) :
    Json.Legible .texts depth (Value.ofTexts c.resources) := by
  rw [Value.ofTexts_of_ordered sound.resources] at shallow ⊢
  obtain ⟨depth, rfl⟩ := Nat.exists_eq_add_of_le' (Nat.le_trans (Nat.le_add_left 1 _) shallow)
  refine .object (fun _ _ => rfl) fun p mem t _ => ?_
  obtain ⟨q, -, rfl⟩ := List.mem_map.1 mem
  exact .text

theorem Sound.table?_resources (sound : c.Sound) :
    (Node.ofValue (Value.ofTexts c.resources)).table? Node.text? = some c.resources :=
  Node.table?_ofTexts sound.resources

theorem Sound.legible_plugins (sound : c.Sound) (free : ∀ d ∈ c.plugins, d.config.floatFree = true)
    (shallow : (Value.list (c.plugins.map (PluginDescriptor.laidOut a))).nesting ≤ depth) :
    Json.Legible .any depth (.list (c.plugins.map (PluginDescriptor.laidOut a))) := by
  obtain ⟨depth, rfl⟩ := Nat.exists_eq_add_of_le' (Nat.le_trans (Nat.le_add_left 1 _) shallow)
  have each := Value.itemsNesting_le_iff.1 (Nat.le_of_succ_le_succ shallow)
  refine .list rfl fun v mem => ?_
  obtain ⟨d, there, rfl⟩ := List.mem_map.1 mem
  exact (sound.plugins d there).legible (free d there) (each _ mem)

/-- All of a configuration is looked at. -/
theorem Sound.legible (sound : c.Sound) (free : ∀ d ∈ c.plugins, d.config.floatFree = true)
    (shallow : (c.laidOut a).nesting ≤ depth) : Json.Legible shape depth (c.laidOut a) := by
  refine Arrangement.legible_arrange distinct_fields shallow ?_
  simp only [fields, List.forall_mem_cons]
  exact ⟨⟨_, rfl, fun _ => sound.legible_plugins free⟩, ⟨_, rfl, fun _ _ => .text⟩,
    ⟨_, rfl, fun _ => sound.legible_resources⟩, ⟨_, rfl, fun _ _ => .text⟩,
    ⟨_, rfl, fun _ => HostSettings.legible⟩, nofun⟩

/-- **A configuration is read back from its tree.** -/
theorem Sound.ofNode?_laidOut (sound : c.Sound)
    (free : ∀ d ∈ c.plugins, d.config.floatFree = true) :
    ofNode? (Node.ofValue (c.laidOut a)) = some c := by
  obtain ⟨r, record, found⟩ := a.record?_arrange (@distinct_fields a c)
  have record : (Node.ofValue (c.laidOut a)).record?
      ["plugins", "restartPolicy", "resources", "sidecarStartOrder", "host"] [] = some r := record
  simp only [fields, List.forall_mem_cons] at found
  obtain ⟨plugins, restartPolicy, resources, startOrder, host, -⟩ := found
  have read : pluginsOfNode? (Node.ofValue (.list (c.plugins.map (PluginDescriptor.laidOut a)))) =
      some c.plugins :=
    Node.mapM_ofItems fun d mem => (sound.plugins d mem).ofNode?_laidOut (free d mem)
  simp [ofNode?, record, Record.defaulting, plugins, restartPolicy, resources, startOrder, host,
    read, Node.text?_ofValue, RestartPolicy.ofName?_name, StartOrder.ofName?_name,
    sound.table?_resources, sound.host.ofNode?_laidOut]

/-- **A configuration is read back from its text**: whatever text it was read from, and in whatever
order the fields of its records are written, if its plugins' own configurations hold no doubles and
its text neither mentions a variable nor nests too deep.  None of those configurations is null: one
that was has become an empty object. -/
theorem ofText_compact {format : Format} {env : Environment} {text : String}
    (h : ofText format env text = .ok c) (a : Arrangement)
    (free : ∀ d ∈ c.plugins, d.config.floatFree = true)
    (plain : ¬ Environment.Mentions (c.laidOut a).compact)
    (shallow : (c.laidOut a).nesting ≤ Json.maxDepth) (env' : Environment) :
    ofText .json env' (c.laidOut a).compact = .ok c ∧ ∀ d ∈ c.plugins, d.config ≠ .null := by
  have sound := sound_of_ofText h
  refine ⟨?_, fun d mem => (sound.plugins d mem).present⟩
  rw [ofText, env'.expand_of_not_mentions plain]
  simp only [Format.read, (sound.legible free shallow).read_compact, Option.bind_some,
    sound.ofNode?_laidOut free]

theorem ofText_compact_null :
    ∃ c, ofText .yaml .empty
        "plugins:\n  probe:\n    config: null\nhost:\n  pollInterval: 1m 30s\n" = .ok c ∧
      ofText .json .empty (c.laidOut .declared).compact = .ok c ∧ c.pluginNames = ["probe"] ∧
      c.plugins.map (·.config.isObject) = [true] ∧ c.host.pollInterval = .ofSeconds 90 := by
  -- configurations cannot be compared, so the text is read once for all that is said of it
  have check : (ofText .yaml .empty
      "plugins:\n  probe:\n    config: null\nhost:\n  pollInterval: 1m 30s\n").toOption.any
      (fun c => decide ((∀ d ∈ c.plugins, d.config.floatFree = true) ∧
        '$' ∉ (c.laidOut .declared).write [] ∧ (c.laidOut .declared).nesting ≤ Json.maxDepth ∧
        c.pluginNames = ["probe"] ∧ c.plugins.map (·.config.isObject) = [true] ∧
        c.host.pollInterval = .ofSeconds 90)) = true := by decide +kernel
  cases read : ofText .yaml .empty
      "plugins:\n  probe:\n    config: null\nhost:\n  pollInterval: 1m 30s\n" with
  | ok c =>
    rw [read] at check
    obtain ⟨free, plain, shallow, shown⟩ := of_decide_eq_true check
    have plain : ¬ Environment.Mentions (c.laidOut .declared).compact :=
      Environment.not_mentions_of_not_mem (by rwa [Value.compact, String.toList_ofList])
    have back := ofText_compact read .declared free plain shallow .empty
    exact ⟨c, rfl, back.1, shown⟩
  | error _ =>
    rw [read] at check
    cases check

end Config

end Sidecar

import Sidecar.Config.Load
import Sidecar.Proofs.Node.Record
import Sidecar.Proofs.Time.Span
import Sidecar.Proofs.Toml.Bounded
import Sidecar.Proofs.Yaml.Bounded

/-!
# Configurations as they are read

Whatever a configuration is read from, its parts keep to what their types leave open
(`Config.sound_of_ofText`): boot orders fit 32 bits, no plugin's own configuration is null, and
each is well-formed; resources are in order; and each span of the host is within what a span can
hold.
-/

namespace Sidecar

/-! ### Plugins -/

variable {n : Node}

/-- What a descriptor keeps to. -/
structure PluginDescriptor.Sound (d : PluginDescriptor) : Prop where
  /-- Boot orders fit 32 bits. -/
  least : minBootOrder ≤ d.bootOrder
  most : d.bootOrder ≤ maxBootOrder
  /-- There is a configuration, if an empty one. -/
  present : d.config ≠ .null
  config : d.config.WellFormed

namespace PluginDescriptor

variable {d : PluginDescriptor} {v : Value}

theorem sound_configOfNode? (h : n.Bounded) (read : configOfNode? n = some v) :
    v ≠ .null ∧ v.WellFormed := by
  simp only [configOfNode?, Option.bind_eq_bind, Option.bind_eq_some_iff] at read
  obtain ⟨w, value, read⟩ := read
  split at read
  · cases read
    exact ⟨by simp, .object List.Pairwise.nil (List.forall_mem_nil _)⟩
  · rename_i some
    cases read
    exact ⟨some, h.wellFormed value⟩

theorem sound_ofNode? (h : n.Bounded) (read : ofNode? n = some d) : d.Sound := by
  simp only [ofNode?, Option.bind_eq_bind, Option.bind_eq_some_iff] at read
  obtain ⟨r, record, name, -, bootOrder, order, config, value, ⟨⟩⟩ := read
  have order : minBootOrder ≤ bootOrder ∧ bootOrder ≤ maxBootOrder := by
    rcases Record.defaulting_eq_some order with rfl | ⟨m, -, int⟩
    · decide
    · exact Node.bounds_of_intIn? int
  have config : config ≠ .null ∧ config.WellFormed := by
    rcases Record.defaulting_eq_some value with rfl | ⟨m, found, value⟩
    · exact ⟨by simp, .object List.Pairwise.nil (List.forall_mem_nil _)⟩
    · exact sound_configOfNode? (Record.bounded_lookup h record found) value
  exact ⟨order.1, order.2, config.1, config.2⟩

end PluginDescriptor

/-! ### The host -/

/-- What a span can hold. -/
def Span.Held (s : Span) : Prop := s.nanos < Span.secondsLimit * Span.perSecond

/-- What host settings keep to. -/
structure HostSettings.Sound (h : HostSettings) : Prop where
  pollInterval : h.pollInterval.Held
  pollStagger : h.pollStagger.Held
  stopTimeout : h.stopTimeout.Held

theorem HostSettings.sound_default : HostSettings.default.Sound := by
  constructor <;> (unfold Span.Held; decide)

theorem HostSettings.sound_ofNode? {h : HostSettings} (read : ofNode? n = some h) : h.Sound := by
  simp only [ofNode?, Option.bind_eq_bind, Option.bind_eq_some_iff] at read
  obtain ⟨r, -, pollInterval, first, pollStagger, second, stopTimeout, third, _, -, _, -, ⟨⟩⟩ :=
    read
  have held {field : String} {s t : Span} (default : s.Held)
      (read : r.defaulting field span? s = some t) : t.Held := by
    rcases Record.defaulting_eq_some read with rfl | ⟨m, -, text⟩
    · exact default
    · obtain ⟨_, -, parsed⟩ := Option.bind_eq_some_iff.1 text
      exact Span.lt_of_parse parsed
  exact ⟨held sound_default.pollInterval first, held sound_default.pollStagger second,
    held sound_default.stopTimeout third⟩

/-! ### Configurations -/

/-- What a configuration keeps to. -/
structure Config.Sound (c : Config) : Prop where
  plugins : ∀ d ∈ c.plugins, d.Sound
  resources : Value.Ordered c.resources
  host : c.host.Sound

namespace Config

variable {c : Config} {ds : List PluginDescriptor}

theorem sound_pluginsOfNode? (h : n.Bounded) (read : pluginsOfNode? n = some ds) :
    ∀ d ∈ ds, d.Sound := by
  intro d mem
  unfold pluginsOfNode? at read
  split at read
  · cases read
    cases mem
  · obtain ⟨m, there, own⟩ := exists_of_mem_mapM read mem
    exact PluginDescriptor.sound_ofNode? (Node.bounded_list_iff.1 h m there) own
  · simp only [Option.bind_eq_bind, Option.bind_eq_some_iff] at read
    obtain ⟨ps, table, ⟨⟩⟩ := read
    obtain ⟨⟨key, e⟩, there, rfl⟩ := List.mem_map.1 mem
    obtain ⟨es, rfl, m, entry, own⟩ := Node.exists_of_mem_table? table there
    have sound := PluginDescriptor.sound_ofNode? (Node.bounded_table_iff.1 h m entry) own
    simp only
    split
    · exact ⟨sound.least, sound.most, sound.present, sound.config⟩
    · exact sound

theorem sound_ofNode? (h : n.Bounded) (read : ofNode? n = some c) : c.Sound := by
  simp only [ofNode?, Option.bind_eq_bind, Option.bind_eq_some_iff] at read
  obtain ⟨r, record, plugins, first, _, -, resources, second, _, -, host, third, ⟨⟩⟩ := read
  refine ⟨?_, ?_, ?_⟩
  · rcases Record.defaulting_eq_some first with rfl | ⟨m, found, read⟩
    · exact List.forall_mem_nil _
    · exact sound_pluginsOfNode? (Record.bounded_lookup h record found) read
  · rcases Record.defaulting_eq_some second with rfl | ⟨m, -, read⟩
    · exact List.Pairwise.nil
    · exact Node.ordered_table? read
  · rcases Record.defaulting_eq_some third with rfl | ⟨m, -, read⟩
    · exact HostSettings.sound_default
    · exact HostSettings.sound_ofNode? read

/-- **Whatever is read from a text is sound.** -/
theorem sound_of_ofText {format : Format} {env : Environment} {text : String}
    (h : ofText format env text = .ok c) : c.Sound := by
  unfold ofText at h
  split at h
  · cases h
  · split at h
    · rename_i read
      cases h
      obtain ⟨n, tree, read⟩ := Option.bind_eq_some_iff.1 read
      have bounded : n.Bounded := by
        cases format <;> rw [Format.read] at tree
        · exact Yaml.bounded_read tree
        · exact Toml.bounded_read tree
        · exact Json.bounded_read tree
      exact sound_ofNode? bounded read
    · cases h

end Config

end Sidecar

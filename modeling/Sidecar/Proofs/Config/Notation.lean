import Sidecar.Proofs.Config.Environment
import Sidecar.Proofs.Config.Sound
import Sidecar.Proofs.Node.Table

/-!
# Plugins as a list and as a table

The plugins of a configuration may be written as a list of descriptors, or as a table from names to
descriptors.  What either of them says is told without reading it (`Config.Plugins`): a list says
its items in order, a table the last entries under its keys in byte order, each named by its own
name or else by its key.

* `PluginDescriptor.ofNode?_eq_some_iff` : what a tree says of a plugin; a configuration that is
  missing or null is empty;
* `Config.pluginsOfNode?_eq_some_iff` : the plugins that are read are those that are said;
* `Config.ofText_of_tells` : a text loads with the plugins that it says;
* `Config.plugins_by_notation` : **a table of descriptors in any order loads as the list of them
  that is sorted by name**.
-/

namespace Sidecar

/-! ### Descriptors -/

namespace PluginDescriptor

variable {n : Node} {r : Record} {d : PluginDescriptor} {name : Option String} {v : Value} {i : Int}

/-- What a record says of the order in which a plugin starts. -/
inductive OrderSaid (r : Record) : Int → Prop
  | missing (absent : r.lookup "bootOrder" = none) : OrderSaid r 0
  | given {i : Int} (found : r.lookup "bootOrder" = some (.int i)) (least : minBootOrder ≤ i)
      (most : i ≤ maxBootOrder) : OrderSaid r i

/-- What a record says of a plugin's own configuration: one that is missing or null is empty. -/
inductive ConfigSaid (r : Record) : Value → Prop
  | missing (absent : r.lookup "config" = none) : ConfigSaid r (.object [])
  | null {n : Node} (found : r.lookup "config" = some n) (null : n.toValue? = some .null) :
      ConfigSaid r (.object [])
  | given {n : Node} {v : Value} (found : r.lookup "config" = some n)
      (value : n.toValue? = some v) (some : v ≠ .null) : ConfigSaid r v

/-- What a tree says of a plugin: its name if it gives one, and all of `d` but the name. -/
def Says (n : Node) (name : Option String) (d : PluginDescriptor) : Prop :=
  ∃ r, n.record? ["name", "bootOrder", "config"] [] = some r ∧
    r.lookup "name" = name.map .text ∧ OrderSaid r d.bootOrder ∧ ConfigSaid r d.config

/-- That a tree describes a plugin; one that gives no name leaves it empty. -/
def Describes (n : Node) (d : PluginDescriptor) : Prop :=
  ∃ name, Says n name d ∧ d.name = name.getD ""

/-- A descriptor with an empty configuration instead of none. -/
def filled (d : PluginDescriptor) : PluginDescriptor :=
  match d.config with
  | .null => { d with config := .object [] }
  | _ => d

/-- A descriptor under a key, which names it if it has no name of its own. -/
def under (key : String) (d : PluginDescriptor) : PluginDescriptor :=
  if d.name = "" then { d with name := key } else d

theorem defaulting_bootOrder_eq_some_iff :
    r.defaulting "bootOrder" (Node.intIn? minBootOrder maxBootOrder) 0 = some i ↔
      OrderSaid r i := by
  unfold Record.defaulting
  constructor
  · intro read
    split at read
    · rename_i n found
      cases n with
      | int j =>
        rw [Node.intIn?] at read
        split at read
        · rename_i bounds
          cases read
          exact .given found bounds.1 bounds.2
        · cases read
      | _ => cases read
    · rename_i absent
      cases read
      exact .missing absent
  · rintro (absent | ⟨found, least, most⟩)
    · rw [absent]
    · rw [found]
      exact if_pos ⟨least, most⟩

theorem configOfNode?_eq : configOfNode? n = n.toValue?.map fun v =>
    match v with
    | .null => .object []
    | v => v := by
  rw [configOfNode?]
  cases n.toValue? with
  | none => rfl
  | some v => cases v <;> rfl

theorem defaulting_config_eq_some_iff :
    r.defaulting "config" configOfNode? (.object []) = some v ↔ ConfigSaid r v := by
  unfold Record.defaulting
  constructor
  · intro read
    split at read
    · rename_i n found
      rw [configOfNode?_eq] at read
      obtain ⟨w, value, own⟩ := Option.map_eq_some_iff.1 read
      split at own
      · cases own
        exact .null found value
      · rename_i some
        cases own
        exact .given found value some
    · rename_i absent
      cases read
      exact .missing absent
  · rintro (absent | ⟨found, null⟩ | ⟨found, value, some⟩)
    · rw [absent]
    · simp only [found, configOfNode?_eq, null, Option.map_some]
    · simp only [found, configOfNode?_eq, value, Option.map_some]

theorem defaulting_name_eq_some_iff {s : String} :
    r.defaulting "name" Node.text? "" = some s ↔
      ∃ name : Option String, r.lookup "name" = name.map .text ∧ s = name.getD "" := by
  unfold Record.defaulting
  constructor
  · intro read
    split at read
    · rename_i n found
      cases n with
      | text t =>
        cases read
        exact ⟨some s, found, rfl⟩
      | _ => cases read
    · rename_i absent
      cases read
      exact ⟨none, absent, rfl⟩
  · rintro ⟨name, found, rfl⟩
    rw [found]
    cases name <;> rfl

/-- **A tree is read as the descriptor that it describes.** -/
theorem ofNode?_eq_some_iff : ofNode? n = some d ↔ Describes n d := by
  simp only [ofNode?, Option.bind_eq_bind, Option.bind_eq_some_iff,
    defaulting_bootOrder_eq_some_iff, defaulting_config_eq_some_iff, defaulting_name_eq_some_iff]
  constructor
  · rintro ⟨r, record, s, ⟨name, found, rfl⟩, i, order, v, config, ⟨⟩⟩
    exact ⟨name, ⟨r, record, found, order, config⟩, rfl⟩
  · rintro ⟨name, ⟨r, record, found, order, config⟩, own⟩
    exact ⟨r, record, d.name, ⟨name, found, own⟩, d.bootOrder, order, d.config, config, rfl⟩

@[simp] theorem name_filled : d.filled.name = d.name := by
  unfold filled
  split <;> rfl

/-- The fields of a descriptor, with some other name or with none. -/
def fieldsWith (name : Option String) (d : PluginDescriptor) : List (String × Value) :=
  name.toList.map (fun s => ("name", .text s)) ++
    [("bootOrder", .int d.bootOrder), ("config", d.config)]

/-- A descriptor as a value, with some other name or with none. -/
def written (name : Option String) (d : PluginDescriptor) : Value :=
  Value.ofPairs (d.fieldsWith name)

/-- **A descriptor is said by what is written of it.** -/
theorem says_written (least : minBootOrder ≤ d.bootOrder) (most : d.bootOrder ≤ maxBootOrder)
    (read : (Node.ofValue d.config).toValue? = some d.config) :
    Says (Node.ofValue (d.written name)) name d.filled := by
  have distinct : ((d.fieldsWith name).map Prod.fst).Nodup := by
    cases name <;> simp [fieldsWith]
  have known : ∀ p ∈ d.fieldsWith name,
      p.1 ∈ ["name", "bootOrder", "config"] ∧ ([] : List (String × String)).lookup p.1 = none := by
    cases name <;> simp [fieldsWith]
  obtain ⟨r, record, found⟩ := Arrangement.record?_of_known .sorted distinct known
  refine ⟨r, record, ?_, ?_, ?_⟩
  · rw [found]
    cases name <;> rfl
  · have order : d.filled.bootOrder = d.bootOrder := by
      unfold filled
      split <;> rfl
    rw [order]
    refine .given ?_ least most
    rw [found]
    cases name <;> rfl
  · have own : r.lookup "config" = some (Node.ofValue d.config) := by
      rw [found]
      cases name <;> rfl
    unfold filled
    split
    · rename_i null
      exact .null own (null ▸ read)
    · rename_i some
      exact .given own read some

theorem legible_written {depth : Nat} (least : minBootOrder ≤ d.bootOrder)
    (most : d.bootOrder ≤ maxBootOrder) (config : Json.Legible .any depth d.config) :
    Json.Legible .any (depth + 1) (d.written name) := by
  have order : Json.Legible .any depth (.int d.bootOrder) :=
    .int (Int.le_trans (by decide) least) (Int.lt_of_le_of_lt most (by decide))
  refine .ofPairs (List.forall_mem_append.2 ⟨fun p mem => ?_, ?_⟩)
  · obtain ⟨s, -, rfl⟩ := List.mem_map.1 mem
    exact .text
  · simpa using ⟨order, config⟩

end PluginDescriptor

/-! ### Plugins -/

namespace Config

variable {n p : Node} {c : Config} {d : PluginDescriptor} {ds es : List PluginDescriptor}
  {entries : List (Node × Node)} {ns : List Node} {qs : List (String × PluginDescriptor)}
  {rest : Record} {format : Format} {env : Environment} {text : String}

/-- What a tree says of the plugins. -/
inductive Plugins : Node → List PluginDescriptor → Prop
  | nothing : Plugins .null []
  | list {ns : List Node} {ds : List PluginDescriptor}
      (items : List.Forall₂ PluginDescriptor.Describes ns ds) : Plugins (.list ns) ds
  /-- One descriptor for each key. -/
  | table {es : List (Node × Node)} {ps : List (String × PluginDescriptor)}
      (members : Node.TableSays PluginDescriptor.Describes es ps) :
      Plugins (.table es) (ps.map fun p => p.2.under p.1)

theorem tableSays_iff :
    Node.TableSays (fun n d => PluginDescriptor.ofNode? n = some d) entries qs ↔
      Node.TableSays PluginDescriptor.Describes entries qs := by
  simp only [PluginDescriptor.ofNode?_eq_some_iff]

/-- **The plugins that are read are those that are said.** -/
theorem pluginsOfNode?_eq_some_iff : pluginsOfNode? n = some ds ↔ Plugins n ds := by
  cases n with
  | null =>
    rw [pluginsOfNode?, Option.some_inj]
    constructor
    · rintro rfl
      exact .nothing
    · rintro ⟨⟩
      rfl
  | list ns =>
    simp only [pluginsOfNode?, mapM_eq_some_iff, PluginDescriptor.ofNode?_eq_some_iff]
    constructor
    · exact .list
    · rintro (_ | items)
      exact items
  | table entries =>
    simp only [pluginsOfNode?, Option.bind_eq_bind, Option.bind_eq_some_iff,
      Node.table?_eq_some_iff, tableSays_iff]
    constructor
    · rintro ⟨ps, members, ⟨⟩⟩
      exact .table members
    · rintro (_ | _ | members)
      exact ⟨_, members, rfl⟩
  | bool | int | float | text =>
    constructor
    · intro read
      cases read
    · intro said
      cases said

/-- A tree says one thing only. -/
theorem Plugins.unique (h : Plugins n ds) (h' : Plugins n es) : ds = es :=
  Option.some.inj ((pluginsOfNode?_eq_some_iff.2 h).symm.trans (pluginsOfNode?_eq_some_iff.2 h'))

/-! ### Documents -/

/-- That a document says what the plugins are, and that its other fields are those of a record. -/
def Document (n plugins : Node) (rest : Record) : Prop :=
  ∃ r : Record,
    n.record? ["plugins", "restartPolicy", "resources", "sidecarStartOrder", "host"] [] = some r ∧
    r.lookup "plugins" = some plugins ∧
    ∀ field, field ≠ "plugins" → r.lookup field = rest.lookup field

/-- The document that a text is, as far as a configuration is read from it. -/
def documentOf? (format : Format) (env : Environment) (text : String) : Option Node :=
  (env.expand text).toOption.bind (format.read shape)

/-- That a text is a document with these plugins and other fields. -/
def Tells (format : Format) (env : Environment) (text : String) (plugins : Node)
    (rest : Record) : Prop :=
  ∃ n, documentOf? format env text = some n ∧ Document n plugins rest

/-- That a configuration is read from the fields of a record, apart from its plugins. -/
structure ReadApart (rest : Record) (c : Config) : Prop where
  restartPolicy : rest.defaulting "restartPolicy"
    (fun n => n.text?.bind RestartPolicy.ofName?) .always = some c.restartPolicy
  resources : rest.defaulting "resources" (Node.table? Node.text?) [] = some c.resources
  startOrder : rest.defaulting "sidecarStartOrder"
    (fun n => n.text?.bind StartOrder.ofName?) .after = some c.startOrder
  host : rest.defaulting "host" HostSettings.ofNode? .default = some c.host

theorem ofText_eq_ok_iff :
    ofText format env text = .ok c ↔ ∃ n, documentOf? format env text = some n ∧
      ofNode? n = some c := by
  rw [← Option.bind_eq_some_iff]
  unfold ofText documentOf?
  cases env.expand text with
  | error name => simp [Except.toOption]
  | ok text =>
    simp only [Except.toOption, Option.bind_some]
    cases (format.read shape text).bind ofNode? <;> simp

theorem ofNode?_of_document (h : Document n p rest) :
    ofNode? n = some c ↔ Plugins p c.plugins ∧ ReadApart rest c := by
  obtain ⟨r, record, plugins, others⟩ := h
  have same {α : Type} {field : String} {read : Node → Option α} {default : α}
      (other : field ≠ "plugins") :
      r.defaulting field read default = rest.defaulting field read default := by
    rw [Record.defaulting, Record.defaulting, others field other]
  have own : r.defaulting "plugins" pluginsOfNode? [] = pluginsOfNode? p := by
    rw [Record.defaulting, plugins]
  simp only [ofNode?, record, own, Option.bind_eq_bind, Option.bind_some]
  rw [same (by decide), same (by decide), same (by decide), same (by decide)]
  simp only [Option.bind_eq_some_iff, pluginsOfNode?_eq_some_iff]
  constructor
  · rintro ⟨ds, plugins, policy, restartPolicy, limits, resources, order, startOrder, h, host, ⟨⟩⟩
    exact ⟨plugins, restartPolicy, resources, startOrder, host⟩
  · rintro ⟨plugins, restartPolicy, resources, startOrder, host⟩
    exact ⟨_, plugins, _, restartPolicy, _, resources, _, startOrder, _, host, rfl⟩

/-- **A text loads with the plugins that it says**, if the rest of it can be read. -/
theorem ofText_of_tells (h : Tells format env text p rest) :
    ofText format env text = .ok c ↔ Plugins p c.plugins ∧ ReadApart rest c := by
  obtain ⟨n, tree, document⟩ := h
  rw [ofText_eq_ok_iff, ← ofNode?_of_document document, tree]
  simp

theorem ofText_of_plugins (h : Tells format env text p rest) (plugins : Plugins p ds) :
    ofText format env text = .ok c ↔ c.plugins = ds ∧ ReadApart rest c := by
  rw [ofText_of_tells h]
  refine and_congr_left fun _ => ⟨fun own => own.unique plugins, ?_⟩
  rintro rfl
  exact plugins

/-- A document as it may be written. -/
def documentWith (plugins : Value) (others : List (String × Value)) : Value :=
  .object (("plugins", plugins) :: others)

theorem legible_documentWith {plugins : Value} {others : List (String × Value)} {depth : Nat}
    (value : Json.Legible .any depth plugins)
    (fields : ∀ q ∈ others, ∃ t, shape.field? q.1 = some t ∧ Json.Legible t depth q.2) :
    Json.Legible shape (depth + 1) (documentWith plugins others) := by
  have members : ∀ q ∈ ("plugins", plugins) :: others,
      ∃ t, shape.field? q.1 = some t ∧ Json.Legible t depth q.2 :=
    List.forall_mem_cons.2 ⟨⟨.any, rfl, value⟩, fields⟩
  refine .object (fun q mem => ?_) fun q mem t known => ?_
  · obtain ⟨t, known, -⟩ := members q mem
    exact known ▸ rfl
  · obtain ⟨_, known', legible⟩ := members q mem
    exact Option.some.inj (known'.symm.trans known) ▸ legible

theorem document_documentWith {plugins : Value} {others : List (String × Value)}
    (distinct : (others.map Prod.fst).Nodup)
    (known : ∀ q ∈ others, q.1 ∈ ["restartPolicy", "resources", "sidecarStartOrder", "host"]) :
    Document (Node.ofValue (documentWith plugins others)) (Node.ofValue plugins)
      (others.map fun q => (q.1, Node.ofValue q.2)) := by
  have new : "plugins" ∉ others.map Prod.fst := fun mem => by
    obtain ⟨q, there, own⟩ := List.mem_map.1 mem
    simpa [own] using known q there
  have distinct : ((("plugins", plugins) :: others).map Prod.fst).Nodup :=
    List.nodup_cons.2 ⟨new, distinct⟩
  have known : ∀ q ∈ ("plugins", plugins) :: others,
      q.1 ∈ ["plugins", "restartPolicy", "resources", "sidecarStartOrder", "host"] ∧
        ([] : List (String × String)).lookup q.1 = none :=
    List.forall_mem_cons.2 ⟨by simp, fun q mem => ⟨List.mem_cons_of_mem _ (known q mem), rfl⟩⟩
  obtain ⟨r, record, found⟩ := Arrangement.record?_of_known .declared distinct known
  refine ⟨r, record, ?_, fun field other => ?_⟩
  · simp [found]
  · rw [found, Arrangement.lookup_ofMembers]
    simp [List.lookup_cons, beq_eq_false_iff_ne.2 other]

/-- **A written document without references tells its plugins and its other fields.** -/
theorem tells_documentWith {plugins : Value} {others : List (String × Value)}
    (distinct : (others.map Prod.fst).Nodup)
    (known : ∀ q ∈ others, q.1 ∈ ["restartPolicy", "resources", "sidecarStartOrder", "host"])
    (legible : Json.Legible shape Json.maxDepth (documentWith plugins others))
    (plain : '$' ∉ (documentWith plugins others).write []) (env : Environment) :
    Tells .json env (documentWith plugins others).compact (Node.ofValue plugins)
      (others.map fun q => (q.1, Node.ofValue q.2)) := by
  have unmentioned : ¬ Environment.Mentions (documentWith plugins others).compact :=
    Environment.not_mentions_of_not_mem (by rwa [Value.compact, String.toList_ofList])
  refine ⟨_, ?_, document_documentWith distinct known⟩
  rw [documentOf?, env.expand_of_not_mentions unmentioned]
  exact legible.read_compact

/-! ### Two notations -/

/-- Descriptors in byte order of their names. -/
def sortedByName (ds : List PluginDescriptor) : List PluginDescriptor :=
  ds.mergeSort fun d e => decide (d.name ≤ e.name)

/-- That an entry of a table is a descriptor under its name; the name of its own is left out, left
empty or the same. -/
def IsEntry (e : Node × Node) (d : PluginDescriptor) : Prop :=
  e.1 = .text d.name ∧ ∃ name : Option String,
    (name = none ∨ name = some "" ∨ name = some d.name) ∧ PluginDescriptor.Says e.2 name d.filled

/-- That a table is one of descriptors, in whatever order its entries are. -/
def IsTable (entries : List (Node × Node)) (ds : List PluginDescriptor) : Prop :=
  ∃ shuffled : List PluginDescriptor, shuffled.Perm ds ∧ List.Forall₂ IsEntry entries shuffled

/-- That an item of a list is a descriptor. -/
def IsItem (n : Node) (d : PluginDescriptor) : Prop :=
  PluginDescriptor.Says n (some d.name) d.filled

theorem pairwise_sortedByName (distinct : (ds.map PluginDescriptor.name).Nodup) :
    (sortedByName ds).Pairwise fun d e => d.name < e.name := by
  have sorted : (sortedByName ds).Pairwise fun d e => d.name ≤ e.name := by
    refine List.Pairwise.imp of_decide_eq_true (List.pairwise_mergeSort ?_ ?_ ds)
    · intro d e f le le'
      exact decide_eq_true (String.le_trans (of_decide_eq_true le) (of_decide_eq_true le'))
    · intro d e
      simpa using String.le_total d.name e.name
  have apart : (sortedByName ds).Pairwise fun d e => d.name ≠ e.name := by
    rw [← List.pairwise_map (f := PluginDescriptor.name)]
    exact ((List.mergeSort_perm ds _).map _).nodup_iff.2 distinct
  refine (sorted.and apart).imp fun {d e} ⟨le, ne⟩ => ?_
  by_contra gt
  exact ne (String.le_antisymm le (String.not_lt.1 gt))

theorem IsEntry.exists_pair {e : Node × Node} (h : IsEntry e d) : ∃ own : PluginDescriptor,
    Node.pair? PluginDescriptor.ofNode? e = some (d.name, own) ∧ own.under d.name = d.filled := by
  obtain ⟨text, name, left, said⟩ := h
  refine ⟨{ d.filled with name := name.getD "" }, Node.pair?_eq_some_iff.2 ⟨text, ?_⟩, ?_⟩
  · exact PluginDescriptor.ofNode?_eq_some_iff.2 ⟨name, said, rfl⟩
  · have renamed : { d.filled with name := d.name } = d.filled := by
      rw [← d.name_filled]
    unfold PluginDescriptor.under
    rcases left with rfl | rfl | rfl
    · exact renamed
    · exact renamed
    · split <;> exact renamed

theorem eq_of_sorted (h : ds.Pairwise fun d e => d.name < e.name)
    (h' : es.Pairwise fun d e => d.name < e.name) (perm : ds.Perm es) : ds = es := by
  refine List.Perm.eq_of_pairwise ?_ h h' perm
  intro d e _ _ lt gt
  exact absurd gt (String.lt_asymm lt)

theorem exists_pairs (h : List.Forall₂ IsEntry entries ds) :
    ∃ qs : List (String × PluginDescriptor),
      entries.mapM (Node.pair? PluginDescriptor.ofNode?) = some qs ∧
      qs.map Prod.fst = ds.map PluginDescriptor.name ∧
      qs.map (fun q => q.2.under q.1) = ds.map PluginDescriptor.filled := by
  induction h with
  | nil => exact ⟨[], rfl, rfl, rfl⟩
  | @cons e d entries ds entry _ ih =>
    obtain ⟨qs, pairs, keys, named⟩ := ih
    obtain ⟨own, pair, named_own⟩ := entry.exists_pair
    refine ⟨(d.name, own) :: qs, ?_, ?_, ?_⟩
    · simp [pair, pairs]
    · simp [keys]
    · simp [named, named_own]

/-- **A table of descriptors says them in order of their names.** -/
theorem IsTable.plugins (distinct : (ds.map PluginDescriptor.name).Nodup)
    (h : IsTable entries ds) :
    Plugins (.table entries) ((sortedByName ds).map PluginDescriptor.filled) := by
  obtain ⟨shuffled, perm, items⟩ := h
  obtain ⟨qs, pairs, keys, named⟩ := exists_pairs items
  have apart : (qs.map Prod.fst).Nodup := keys ▸ (perm.map _).nodup_iff.2 distinct
  have names : ∀ q ∈ qs, (q.2.under q.1).name = q.1 := by
    refine List.map_inj_left.1 (Eq.trans ?_ keys.symm)
    simpa [Function.comp_def] using congrArg (List.map PluginDescriptor.name) named
  have read : pluginsOfNode? (.table entries) =
      some ((Value.members qs).map fun q => q.2.under q.1) := by
    simp only [pluginsOfNode?, Node.table?, pairs]
    rfl
  rw [← pluginsOfNode?_eq_some_iff, read, Option.some_inj]
  -- both are sorted by name and have the same descriptors
  refine eq_of_sorted ?_ ?_ ?_
  · refine List.pairwise_map.2 (Value.ordered_members.imp_of_mem fun {p q} hp hq lt => ?_)
    rw [names p (Value.mem_of_mem_members hp), names q (Value.mem_of_mem_members hq)]
    exact lt
  · simpa [List.pairwise_map] using pairwise_sortedByName distinct
  · have sorted : (sortedByName ds).Perm ds := List.mergeSort_perm ds _
    have gathered : (Value.members qs).Perm qs := Value.members_perm apart
    refine (gathered.map _).trans ?_
    rw [named]
    exact (perm.trans sorted.symm).map _

/-- **A list of descriptors says them in its order.** -/
theorem plugins_of_items (h : List.Forall₂ IsItem ns ds) :
    Plugins (.list ns) (ds.map PluginDescriptor.filled) := by
  refine .list ?_
  rw [List.forall₂_map_right_iff]
  exact h.imp fun n d item => ⟨some d.name, item, d.name_filled⟩

/-- **A document loads with the plugins that it says, and it does not matter in which notation.**
Of a table of descriptors of different names that are the descriptors in order of their names,
whatever order its entries have, as of the list of them in this order. -/
theorem plugins_by_notation :
    (∀ format env text p rest c, Tells format env text p rest →
      (ofText format env text = .ok c ↔ Plugins p c.plugins ∧ ReadApart rest c)) ∧
    ∀ ds entries items, (ds.map PluginDescriptor.name).Nodup → IsTable entries ds →
      List.Forall₂ IsItem items (sortedByName ds) →
      ∀ format env text format' env' text' rest, Tells format env text (.table entries) rest →
        Tells format' env' text' (.list items) rest → ∀ c,
        (ofText format env text = .ok c ↔ ofText format' env' text' = .ok c) ∧
        (ofText format env text = .ok c ↔
          c.plugins = (sortedByName ds).map PluginDescriptor.filled ∧ ReadApart rest c) := by
  refine ⟨fun format env text p rest c => ofText_of_tells, ?_⟩
  intro ds entries items distinct table list format env text format' env' text' rest whole whole' c
  have loads := ofText_of_plugins (c := c) whole (table.plugins distinct)
  have loads' := ofText_of_plugins (c := c) whole' (plugins_of_items list)
  exact ⟨loads.trans loads'.symm, loads⟩

theorem plugins_by_notation_two :
    let probe : PluginDescriptor := ⟨"probe", 2, .null⟩
    let audit : PluginDescriptor := ⟨"audit", 0, .object [("level", .int 3)]⟩
    let table := Value.object [("probe", probe.written none), ("audit", audit.written (some ""))]
    let list := Value.list [audit.written (some "audit"), probe.written (some "probe")]
    let others := [("restartPolicy", Value.text "Never")]
    ∃ c, ofText .json .empty (documentWith table others).compact = .ok c ∧
      ofText .json .empty (documentWith list others).compact = .ok c ∧
      c.plugins = [audit, { probe with config := .object [] }] ∧ c.restartPolicy = .never := by
  intro probe audit table list others
  -- what is said of the two plugins
  have probe_said {name : Option String} :
      PluginDescriptor.Says (Node.ofValue (probe.written name)) name probe.filled :=
    PluginDescriptor.says_written (by decide) (by decide) rfl
  have audit_said {name : Option String} :
      PluginDescriptor.Says (Node.ofValue (audit.written name)) name audit.filled :=
    PluginDescriptor.says_written (by decide) (by decide) rfl
  have distinct : ([probe, audit].map PluginDescriptor.name).Nodup := by decide
  have sorted : sortedByName [probe, audit] = [audit, probe] := by
    refine eq_of_sorted (pairwise_sortedByName distinct) (by decide) ?_
    exact (List.mergeSort_perm _ _).trans (.swap _ _ _)
  have is_table : IsTable [(.text "probe", Node.ofValue (probe.written none)),
      (.text "audit", Node.ofValue (audit.written (some "")))] [probe, audit] :=
    ⟨_, .rfl, .cons ⟨rfl, none, .inl rfl, probe_said⟩
      (.cons ⟨rfl, _, .inr (.inl rfl), audit_said⟩ .nil)⟩
  have is_list : List.Forall₂ IsItem [Node.ofValue (audit.written (some "audit")),
      Node.ofValue (probe.written (some "probe"))] (sortedByName [probe, audit]) :=
    sorted ▸ .cons audit_said (.cons probe_said .nil)
  -- the documents are read back
  have probe_legible {name : Option String} : Json.Legible .any 125 (probe.written name) :=
    PluginDescriptor.legible_written (by decide) (by decide) .null
  have audit_legible {name : Option String} : Json.Legible .any 125 (audit.written name) :=
    PluginDescriptor.legible_written (by decide) (by decide)
      (.ofMembers (List.forall_mem_singleton.2 (.int (by decide) (by decide))))
  have table_legible : Json.Legible .any 126 table :=
    .ofMembers (List.forall_mem_cons.2 ⟨probe_legible, List.forall_mem_singleton.2 audit_legible⟩)
  have list_legible : Json.Legible .any 126 list :=
    .list rfl (List.forall_mem_cons.2 ⟨audit_legible, List.forall_mem_singleton.2 probe_legible⟩)
  have tells {plugins : Value} (legible : Json.Legible .any 126 plugins)
      (plain : '$' ∉ (documentWith plugins others).write []) :
      Tells .json .empty (documentWith plugins others).compact (Node.ofValue plugins)
        (others.map fun q => (q.1, Node.ofValue q.2)) := by
    refine tells_documentWith (by decide) (by simp [others]) (legible_documentWith legible ?_)
      plain .empty
    exact List.forall_mem_singleton.2 ⟨_, rfl, .text⟩
  have alike := plugins_by_notation.2 _ _ _ distinct is_table is_list _ _ _ _ _ _ _
    (tells table_legible (by decide +kernel)) (tells list_legible (by decide +kernel))
    ⟨[audit, probe.filled], .never, [], .after, .default⟩
  have loads := alike.2.2 ⟨by rw [sorted]; rfl, rfl, rfl, rfl, rfl⟩
  exact ⟨_, loads, alike.1.1 loads, rfl, rfl⟩

end Config

end Sidecar

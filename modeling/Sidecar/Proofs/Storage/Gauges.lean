import Mathlib.Data.List.Nodup
import Sidecar.Storage.Ask

/-!
# Gauges over many stores

A gauge is kept twice, among the known names and in the registry from which it is shown, and it is
made when data is first stored under its name.  `Gauges.Sound` is what making one has to keep: both
hold the same gauges, each name once, and each gauge has a place of its own for its value.

* `Gauges.Sound.exists_set` : setting a gauge keeps this, and changes the value of that gauge only;
* `GaugeCall.refusal?`, `storeGauge_of_sound` : a store is refused for its data and configuration
  only, never for the gauges that there are;
* `StorageMemory.gauges_of_stores` : **after any stores the gauges are those that were stored under,
  each once and with the number stored last**, and a refused store changes nothing.
-/

namespace Sidecar

/-- A store of data as a gauge. -/
structure GaugeCall where
  data : String
  config : StorageConfig

namespace GaugeCall

/-- The name of the gauge to set. -/
def name? (x : GaugeCall) : Option String :=
  match x.config with
  | .gauge c => some c.metricName
  | .inKube _ => none

/-- The number that the data says. -/
def number? (x : GaugeCall) : Option Binary64 := readFloat (trimBlank x.data)

/-- Why a store is refused, whatever gauges there are: the configuration is for another storage, it
names no gauge, the data is no number, or the name is not one for a metric. -/
def refusal? (x : GaugeCall) : Option StorageError :=
  match x.config with
  | .inKube _ => some (.invalidConfig (.wrongKind .gauge .inKube))
  | .gauge c =>
    if c.metricName = "" then some (.invalidConfig .emptyMetricName)
    else
      match x.number? with
      | none => some (.notNumeric x.data)
      | some _ =>
        if Gauges.isMetricName c.metricName then none
        else some (.metric ("Error: '" ++ c.metricName ++ "' is not a valid metric name"))

end GaugeCall

/-- A store with its result. -/
structure GaugeOutcome where
  call : GaugeCall
  result : Except StorageError Unit

/-- Whether it is a store under a name that succeeded. -/
def GaugeOutcome.stored (name : String) (o : GaugeOutcome) : Bool :=
  o.call.name? == some name && o.result.isOk

/-- Store again and again, the latest store first: what the stores came to, and what is kept. -/
def StorageMemory.storeGauges (m : StorageMemory) :
    List GaugeCall → List GaugeOutcome × StorageMemory
  | [] => ([], m)
  | x :: earlier =>
    let (past, m) := m.storeGauges earlier
    let (result, m) := m.storeGauge x.data x.config
    (⟨x, result⟩ :: past, m)

namespace Gauges

variable {g g' : Gauges} {name : String} {x : Binary64} {i : Nat}

/-- The known names are those of the registry, each is a name for a metric and occurs once, and the
values have one place for each. -/
structure Sound (g : Gauges) : Prop where
  registry : g.registry = g.known.reverse
  places : g.known.map Prod.snd = (List.range g.values.length).reverse
  nodup : (g.known.map Prod.fst).Nodup
  valid : ∀ p ∈ g.known, isMetricName p.1 = true

/-- What the gauges have to be after some stores: those that were stored under, each once among the
known names and once in the registry, with the number that was stored last, also where they are
shown. -/
structure KeepsLast (past : List GaugeOutcome) (g : Gauges) : Prop where
  known : (g.known.map Prod.fst).Nodup
  registry : (g.registry.map Prod.fst).Nodup
  mem_known : ∀ name, name ∈ g.known.map Prod.fst ↔ ∃ o ∈ past, o.stored name = true
  mem_registry : ∀ name, name ∈ g.registry.map Prod.fst ↔ ∃ o ∈ past, o.stored name = true
  value : ∀ name o, past.find? (·.stored name) = some o →
    ∃ x, o.call.number? = some x ∧ g.value? name = some x
  shown : ∀ name i, (name, i) ∈ g.registry → g.values[i]? = g.value? name

theorem sound_empty : empty.Sound where
  registry := rfl
  places := rfl
  nodup := List.nodup_nil
  valid := List.forall_mem_nil _

namespace Sound

theorem lt (h : g.Sound) (mem : (name, i) ∈ g.known) : i < g.values.length := by
  have place : i ∈ g.known.map Prod.snd := List.mem_map_of_mem mem
  rw [h.places] at place
  simpa using place

theorem lookup_eq_some (h : g.Sound) (mem : (name, i) ∈ g.known) :
    g.known.lookup name = some i := by
  obtain ⟨before, after, split⟩ := List.append_of_mem mem
  have nodup := h.nodup
  rw [split] at nodup
  refine List.lookup_eq_some_iff.2 ⟨before, after, split, fun p hp => ?_⟩
  rw [bne_iff_ne]
  rintro rfl
  simp only [List.map_append, List.map_cons, List.nodup_append, List.mem_map] at nodup
  exact nodup.2.2 _ ⟨p, hp, rfl⟩ _ List.mem_cons_self rfl

theorem isSome_value?_iff (h : g.Sound) :
    (g.value? name).isSome = true ↔ name ∈ g.known.map Prod.fst := by
  constructor
  · intro value
    cases found : g.known.lookup name with
    | none => simp [value?, found] at value
    | some i =>
      obtain ⟨before, after, split, -⟩ := List.lookup_eq_some_iff.1 found
      simp [split]
  · intro known
    obtain ⟨⟨name, i⟩, mem, rfl⟩ := List.mem_map.1 known
    simp [value?, h.lookup_eq_some mem, h.lt mem]

theorem name_eq_of_place {other : String} (h : g.Sound) (mem : (name, i) ∈ g.known)
    (mem' : (other, i) ∈ g.known) : other = name := by
  have places : (g.known.map Prod.snd).Nodup := by
    rw [h.places]
    exact List.nodup_reverse.2 List.nodup_range
  exact congrArg Prod.fst (List.inj_on_of_nodup_map places mem' mem rfl)

theorem add (h : g.Sound) (new : name ∉ g.known.map Prod.fst) (valid : isMetricName name = true)
    (x : Binary64) :
    Sound { known := (name, g.values.length) :: g.known
            registry := g.registry ++ [(name, g.values.length)]
            values := g.values ++ [x] } where
  registry := by simp [h.registry]
  places := by simp [h.places, List.range_succ]
  nodup := by simpa using ⟨by simpa using new, h.nodup⟩
  valid := List.forall_mem_cons.2 ⟨valid, h.valid⟩

theorem setPlace (h : g.Sound) (i : Nat) (x : Binary64) :
    Sound { g with values := g.values.set i x } where
  registry := h.registry
  places := by simpa using h.places
  nodup := h.nodup
  valid := h.valid

theorem value?_setPlace (h : g.Sound) (mem : (name, i) ∈ g.known) (other : String) :
    { g with values := g.values.set i x : Gauges }.value? other =
      if other = name then some x else g.value? other := by
  unfold value?
  cases found : g.known.lookup other with
  | none =>
    have differs : other ≠ name := by
      rintro rfl
      rw [h.lookup_eq_some mem] at found
      cases found
    simp [differs]
  | some j =>
    obtain ⟨before, after, split, -⟩ := List.lookup_eq_some_iff.1 found
    have mem' : (other, j) ∈ g.known := by simp [split]
    by_cases same : other = name
    · subst same
      obtain rfl : j = i := Option.some.inj (found.symm.trans (h.lookup_eq_some mem))
      simp [h.lt mem]
    · have apart : i ≠ j := by
        rintro rfl
        exact same (h.name_eq_of_place mem mem')
      simp [same, apart]

/-- **A gauge with a name for a metric can always be set**, which makes it if it is new and changes
no other value. -/
theorem exists_set (h : g.Sound) (valid : isMetricName name = true) (x : Binary64) :
    ∃ g', g.set name x = .ok g' ∧ g'.Sound ∧
      ∀ other, g'.value? other = if other = name then some x else g.value? other := by
  by_cases known : name ∈ g.known.map Prod.fst
  · obtain ⟨⟨name, i⟩, mem, rfl⟩ := List.mem_map.1 known
    have obtains : g.obtain? name = .ok (g, i) := by simp [obtain?, h.lookup_eq_some mem]
    exact ⟨_, by rw [set, obtains]; rfl, h.setPlace i x, h.value?_setPlace mem⟩
  · have other : ∀ p ∈ g.known, (name != p.1) = true := fun p mem =>
      bne_iff_ne.2 fun same => known (same ▸ List.mem_map_of_mem mem)
    have unknown : g.known.lookup name = none := List.lookup_eq_none_iff.2 other
    have unshown : g.registry.lookup name = none := by
      rw [h.registry, List.lookup_eq_none_iff]
      exact fun p mem => other p (List.mem_reverse.1 mem)
    have added := h.add known valid (.zero false)
    have obtains : g.obtain? name = .ok (
        { known := (name, g.values.length) :: g.known
          registry := g.registry ++ [(name, g.values.length)]
          values := g.values ++ [.zero false] }, g.values.length) := by
      simp only [obtain?, unknown, valid, unshown]
      rfl
    refine ⟨_, by rw [set, obtains]; rfl, added.setPlace _ x, fun other => ?_⟩
    rw [added.value?_setPlace List.mem_cons_self other]
    -- before it is set, only the value of the new gauge differs
    by_cases same : other = name
    · simp [same]
    · simp only [same, if_false]
      unfold value?
      rw [List.lookup_cons, beq_eq_false_iff_ne.2 same]
      cases found : g.known.lookup other with
      | none => simp
      | some j =>
        obtain ⟨before, after, split, -⟩ := List.lookup_eq_some_iff.1 found
        have mem : (other, j) ∈ g.known := by simp [split]
        simp [List.getElem?_append_left (h.lt mem)]

theorem set_eq_error (h : g.Sound) (invalid : isMetricName name = false) (x : Binary64) :
    g.set name x = .error (.metric ("Error: '" ++ name ++ "' is not a valid metric name")) := by
  have unknown : g.known.lookup name = none := by
    rw [List.lookup_eq_none_iff]
    intro p mem
    rw [bne_iff_ne]
    rintro rfl
    rw [h.valid p mem] at invalid
    cases invalid
  have obtains : g.obtain? name =
      .error (.metric ("Error: '" ++ name ++ "' is not a valid metric name")) := by
    simp [obtain?, unknown, invalid]
  rw [set, obtains]
  rfl

end Sound

theorem store_gauge_eq {data : String} {c : GaugeConfig} (named : c.metricName ≠ "") :
    store (some g) data (.gauge c) =
      match readFloat (trimBlank data) with
      | some x => g.set c.metricName x
      | none => .error (.notNumeric data) := by
  have passes : StorageConfig.validate (.gauge c) = .ok () := by
    simp [StorageConfig.validate, StorageConfig.invalid?, GaugeConfig.invalid?, named]
  simp only [store, passes, number?]
  cases readFloat (trimBlank data) <;> rfl

/-- **A store is refused for its data and configuration only**; otherwise it sets the gauge that it
names. -/
theorem Sound.store_cases (h : g.Sound) (call : GaugeCall) :
    (∃ e, call.refusal? = some e ∧ store (some g) call.data call.config = .error e) ∨
      (call.refusal? = none ∧ ∃ name x g', call.name? = some name ∧ call.number? = some x ∧
        store (some g) call.data call.config = .ok g' ∧ g'.Sound ∧
        ∀ other, g'.value? other = if other = name then some x else g.value? other) := by
  obtain ⟨data, config⟩ := call
  cases config with
  | inKube c => exact .inl ⟨_, rfl, rfl⟩
  | gauge c =>
    simp only [GaugeCall.refusal?, GaugeCall.name?, GaugeCall.number?]
    by_cases named : c.metricName = ""
    · refine .inl ⟨_, if_pos named, ?_⟩
      simp only [store, StorageConfig.validate, StorageConfig.invalid?, GaugeConfig.invalid?, named]
      rfl
    rw [if_neg named, store_gauge_eq named]
    obtain numeric | ⟨x, numeric⟩ := Option.eq_none_or_eq_some (readFloat (trimBlank data))
    · exact .inl ⟨.notNumeric data, by rw [numeric], by rw [numeric]⟩
    · simp only [numeric]
      cases valid : isMetricName c.metricName with
      | false => exact .inl ⟨_, rfl, h.set_eq_error valid x⟩
      | true =>
        obtain ⟨g', sets, sound, value⟩ := h.exists_set valid x
        exact .inr ⟨rfl, c.metricName, x, g', rfl, rfl, sets, sound, value⟩

/-- What holds of the gauges after some stores, which goes from each store to the next. -/
structure After (past : List GaugeOutcome) (g : Gauges) : Prop where
  sound : g.Sound
  value : ∀ name, g.value? name = (past.find? (·.stored name)).bind (·.call.number?)
  numeric : ∀ name o, past.find? (·.stored name) = some o → o.call.number?.isSome = true

namespace After

variable {past : List GaugeOutcome}

theorem start : After [] empty where
  sound := sound_empty
  value := fun _ => rfl
  numeric := fun _ _ none => nomatch none

theorem refused (h : After past g) (call : GaugeCall) (e : StorageError) :
    After (⟨call, .error e⟩ :: past) g := by
  have skips (name : String) :
      (⟨call, .error e⟩ :: past : List GaugeOutcome).find? (·.stored name) =
        past.find? (·.stored name) := by
    simp [GaugeOutcome.stored, Except.isOk, Except.toBool]
  exact ⟨h.sound, fun name => by rw [skips]; exact h.value name,
    fun name o found => h.numeric name o (by rwa [skips] at found)⟩

/-- A store that succeeds is the last one for the gauge that it names, and for no other. -/
theorem stored {call : GaugeCall} (h : After past g) (named : call.name? = some name)
    (number : call.number? = some x) (sound : g'.Sound)
    (value : ∀ other, g'.value? other = if other = name then some x else g.value? other) :
    After (⟨call, .ok ()⟩ :: past) g' := by
  have latest (other : String) :
      (⟨call, .ok ()⟩ :: past : List GaugeOutcome).find? (·.stored other) =
        if other = name then some ⟨call, .ok ()⟩ else past.find? (·.stored other) := by
    by_cases same : other = name
    · simp [GaugeOutcome.stored, named, same, Except.isOk, Except.toBool]
    · simp [GaugeOutcome.stored, named, same, Ne.symm same]
  refine ⟨sound, fun other => ?_, fun other o found => ?_⟩
  · rw [value, latest]
    split
    · rw [Option.bind_some, number]
    · exact h.value other
  · rw [latest] at found
    split at found
    · cases found
      simp [number]
    · exact h.numeric other o found

theorem mem_known_iff (h : After past g) :
    name ∈ g.known.map Prod.fst ↔ ∃ o ∈ past, o.stored name = true := by
  calc name ∈ g.known.map Prod.fst
    _ ↔ (g.value? name).isSome = true := h.sound.isSome_value?_iff.symm
    _ ↔ (past.find? (·.stored name)).isSome = true := by
      rw [h.value]
      cases found : past.find? (·.stored name) with
      | none => simp
      | some o => simp [h.numeric name o found]
    _ ↔ ∃ o ∈ past, o.stored name = true := List.find?_isSome

theorem keepsLast (h : After past g) : g.KeepsLast past where
  known := h.sound.nodup
  registry := by
    rw [h.sound.registry, List.map_reverse]
    exact List.nodup_reverse.2 h.sound.nodup
  mem_known := fun _ => h.mem_known_iff
  mem_registry := fun _ => by
    rw [h.sound.registry, List.map_reverse, List.mem_reverse]
    exact h.mem_known_iff
  value := fun name o found => by
    obtain ⟨x, number⟩ := Option.isSome_iff_exists.1 (h.numeric name o found)
    exact ⟨x, number, by rw [h.value, found, Option.bind_some, number]⟩
  shown := fun name i mem => by
    rw [h.sound.registry, List.mem_reverse] at mem
    simp [value?, h.sound.lookup_eq_some mem]

end After

end Gauges

namespace StorageMemory

variable {m : StorageMemory} {g : Gauges}

/-- What a store as a gauge comes to, and what is kept then. -/
theorem storeGauge_cases (there : m.gauges = some g) (h : g.Sound) (call : GaugeCall) :
    (∃ e, call.refusal? = some e ∧ m.storeGauge call.data call.config = (.error e, m)) ∨
      (call.refusal? = none ∧ ∃ name x g', call.name? = some name ∧ call.number? = some x ∧
        m.storeGauge call.data call.config = (.ok (), { m with gauges := some g' }) ∧ g'.Sound ∧
        ∀ other, g'.value? other = if other = name then some x else g.value? other) := by
  rcases h.store_cases call with
    ⟨e, refused, fails⟩ | ⟨taken, name, x, g', named, number, stores, rest⟩
  · exact .inl ⟨e, refused, by simp only [storeGauge, there, fails]⟩
  · exact .inr ⟨taken, name, x, g', named, number, by simp only [storeGauge, there, stores], rest⟩

theorem exists_after (there : m.gauges = some .empty) (calls : List GaugeCall) :
    (m.storeGauges calls).2.inKube = m.inKube ∧
      ∃ g, (m.storeGauges calls).2.gauges = some g ∧ Gauges.After (m.storeGauges calls).1 g := by
  induction calls with
  | nil => exact ⟨rfl, .empty, there, .start⟩
  | cons call earlier ih =>
    obtain ⟨apart, g, kept, after⟩ := ih
    simp only [storeGauges]
    rcases storeGauge_cases kept after.sound call with
      ⟨e, -, fails⟩ | ⟨-, name, x, g', named, number, stores, sound, value⟩
    · rw [fails]
      exact ⟨apart, g, kept, after.refused call e⟩
    · rw [stores]
      exact ⟨apart, g', rfl, after.stored named number sound value⟩

/-- **Gauges keep what was stored last.**  Once gauge storage is set up, after any stores the gauges
are those that a store succeeded for, each once among the known ones and once in the registry, with
the number of the last such store.  A further store is refused only for its data and configuration,
and then everything stays as it is. -/
theorem gauges_of_stores (inKube : Option InKubeMemory) (calls : List GaugeCall) :
    let opened := openGauges { inKube, gauges := none }
    let m := (opened.storeGauges calls).2
    m.inKube = inKube ∧
      (∃ g, m.gauges = some g ∧ g.KeepsLast (opened.storeGauges calls).1) ∧
      ∀ call : GaugeCall,
        (∃ e, call.refusal? = some e ∧ m.storeGauge call.data call.config = (.error e, m)) ∨
          (call.refusal? = none ∧ (m.storeGauge call.data call.config).1 = .ok ()) := by
  intro opened m
  obtain ⟨apart, g, kept, after⟩ := exists_after (m := opened) rfl calls
  refine ⟨apart, ⟨g, kept, after.keepsLast⟩, fun call => ?_⟩
  rcases storeGauge_cases kept after.sound call with refused | ⟨taken, name, x, g', -, -, stores, -⟩
  · exact .inl refused
  · exact .inr ⟨taken, by rw [stores]⟩

end StorageMemory

end Sidecar

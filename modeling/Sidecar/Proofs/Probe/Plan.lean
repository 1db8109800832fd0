import Sidecar.Probe.Plugin
import Sidecar.Proofs.Activity

/-!
# The probe plugin, step by step

What a worker of the probe plugin and its main loop ask next depends on where they stand, which the
questions so far and their answers say:

* `Place` is where a worker stands, `WorkMay` what it asks there (`keeps_work`);
* `Stage` is how far the main loop is, `StartMay` what it asks there (`keeps_start`);
* a stop reads the state, cancels a scope and sets the health, and nothing else (`asks_stop`).
-/

namespace Sidecar.Probe

/-- A question of the plugin with its answer. -/
abbrev ProbeExchange := Exchange (PluginI State)

open State

/-! ### Workers -/

/-- Where a worker stands. -/
inductive Place where
  /-- It is about to enter. -/
  | outside
  /-- It has entered. -/
  | entered
  /-- It looks for its endpoint. -/
  | looking
  /-- It probes the endpoint that it finds in a configuration. -/
  | probing (config : Option Config)
  /-- A round has come to a result, which is not recorded yet. -/
  | holding (result : Except ProbeError Unit)
  /-- The result is recorded. -/
  | recorded
  /-- It waits for the next round. -/
  | waiting (time : Nat)
  /-- It goes on with the next round. -/
  | onward
  /-- It was cancelled and is about to leave. -/
  | leaving
  /-- It has left. -/
  | left

/-- Where a worker stands after a question was answered. -/
def Place.after : Place → ProbeExchange → Place
  | .outside, _ => .entered
  | .looking, ⟨.update _, s⟩ => .probing (State.config s)
  | .probing _, ⟨.probe .., some result⟩ => .holding result
  | .probing _, ⟨.probe .., none⟩ => .leaving
  | .holding _, _ => .recorded
  | .recorded, ⟨.timer _, time⟩ => .waiting time
  | .waiting _, ⟨.await _, .due _⟩ => .onward
  | .waiting _, ⟨.await _, _⟩ => .leaving
  | .leaving, _ => .left
  | p, _ => p

/-- Where a worker stands in a step in which it has asked this, the newest first. -/
def place (entered : Bool) : List ProbeExchange → Place
  | [] => if entered then .looking else .outside
  | x :: past => (place entered past).after x

/-- What a worker asks where it stands. -/
inductive WorkMay (position : Nat) (scope : Scope) : Place → PluginAsk State → Prop
  | enter : WorkMay position scope .outside (.update enter)
  | look : WorkMay position scope .looking (.update id)
  | probe {config : Config} {endpoint : EndpointConfig}
      (found : config.endpoints[position]? = some endpoint) :
      WorkMay position scope (.probing (some config)) (.probe endpoint scope)
  | record {result : Except ProbeError Unit} :
      WorkMay position scope (.holding result) (.update (record result))
  | time {span : Span} : WorkMay position scope .recorded (.timer span)
  | wait {time : Nat} :
      WorkMay position scope (.waiting time) (.await [.cancelled scope, .due time])
  | leave : WorkMay position scope .leaving (.update leave)

/-- Where a worker stands when a step has ended, and whether it goes on. -/
inductive WorkEnds (position : Nat) : Place → Bool → Prop
  | entered : WorkEnds position .entered true
  | onward : WorkEnds position .onward true
  | left : WorkEnds position .left false
  /-- It has found no endpoint. -/
  | lost {config : Option Config} (lost : ∀ c ∈ config, c.endpoints[position]? = none) :
      WorkEnds position (.probing config) false

section Workers

variable {config : Config} {endpoint : EndpointConfig} {position : Nat} {scope : Scope}
  {entered : Bool} {past : List ProbeExchange}

/-- Whether an activity keeps to what a worker may ask. -/
abbrev Works (position : Nat) (scope : Scope) (entered : Bool) (past : List ProbeExchange)
    (x : Working State α) (ends : List ProbeExchange → α → Prop) : Prop :=
  x.Keeps (fun past q => WorkMay position scope (place entered past) q) ends past

theorem works_sleepIn {span : Span} (h : place entered past = .recorded) :
    Works position scope entered past (Working.sleepIn scope span) fun past more =>
      place entered past = if more then .onward else .leaving := by
  refine .ask (by rw [h]; exact .time) fun time => ?_
  have waits : place entered (⟨.timer span, time⟩ :: past) = .waiting time := by
    rw [place, h]
    rfl
  refine .ask (by rw [waits]; exact .wait) fun signal => ?_
  cases signal <;>
  · change place entered (_ :: _) = _
    rw [place, waits]
    rfl

theorem works_round (h : place entered past = .probing (some config))
    (found : config.endpoints[position]? = some endpoint) :
    Works position scope entered past (round config endpoint scope) fun past more =>
      place entered past = if more then .onward else .leaving := by
  refine .ask (by rw [h]; exact .probe found) fun result => ?_
  cases result with
  | none =>
    change place entered (_ :: _) = .leaving
    rw [place, h]
    rfl
  | some result =>
    have holds :
        place entered (⟨.probe endpoint scope, some result⟩ :: past) = .holding result := by
      rw [place, h]
      rfl
    refine .ask (by rw [holds]; exact .record) fun s => works_sleepIn ?_
    rw [place, holds]
    rfl

/-- **What a step of a worker asks.** -/
theorem keeps_work :
    Works position scope entered [] (work position scope entered) fun past more =>
      WorkEnds position (place entered past) more := by
  unfold work
  cases entered with
  | false => exact .ask .enter fun s => .entered
  | true =>
    refine .ask .look fun s => ?_
    have looked : place true [⟨.update id, s⟩] = .probing (State.config s) := rfl
    split
    next unset =>
      rw [unset] at looked
      change WorkEnds position (place true _) false
      rw [looked]
      exact .lost nofun
    next config set =>
      rw [set] at looked
      split
      next absent =>
        change WorkEnds position (place true _) false
        rw [looked]
        exact .lost fun c hc => Option.some.inj hc ▸ absent
      next endpoint found =>
        refine .bind (works_round looked found) fun past more h => ?_
        cases more with
        | true =>
          change WorkEnds position (place true past) true
          rw [h]
          exact .onward
        | false =>
          refine .ask (by rw [h]; exact .leave) fun s => ?_
          change WorkEnds position (place true (_ :: _)) false
          rw [place, h]
          exact .left

end Workers

/-! ### The main loop -/

/-- How far the main loop is. -/
inductive Stage where
  /-- It looks for a configuration. -/
  | looking
  /-- It is about to make a scope of its own. -/
  | branching
  /-- It is about to record the scope. -/
  | keeping (own : Scope)
  /-- It is about to wait. -/
  | pausing (own : Scope)
  /-- It waits. -/
  | delayed (own : Scope) (time : Nat)
  /-- It is about to begin. -/
  | ready (own : Scope)
  /-- It has started some workers. -/
  | employing (own : Scope) (count : Nat)
  /-- It is about to end: it was cancelled before it has begun, or its workers have ended. -/
  | over
  /-- It has ended. -/
  | finished
  /-- It has found another configuration, or none. -/
  | lost

/-- How far the main loop is after a question was answered. -/
def Stage.after (config : Config) : Stage → ProbeExchange → Stage
  | .looking, ⟨.update _, s⟩ => if State.config s = some config then .branching else .lost
  | .branching, ⟨.child _, own⟩ => .keeping own
  | .keeping own, _ => if config.startDelay = 0 then .ready own else .pausing own
  | .pausing own, ⟨.timer _, time⟩ => .delayed own time
  | .delayed own _, ⟨.await _, .due _⟩ => .ready own
  | .delayed _ _, ⟨.await _, _⟩ => .over
  | .ready own, _ => if config.endpoints.isEmpty then .finished else .employing own 0
  | .employing own n, ⟨.spawn .., _⟩ => .employing own (n + 1)
  | .employing _ _, ⟨.await _, _⟩ => .over
  | .over, _ => .finished
  | p, _ => p

/-- How far the main loop is when it has asked this, the newest first. -/
def stage (config : Config) : List ProbeExchange → Stage
  | [] => .looking
  | x :: past => (stage config past).after config x

/-- What the main loop asks at a stage. -/
inductive StartMay (config : Config) (scope : Scope) : Stage → PluginAsk State → Prop
  | look : StartMay config scope .looking (.update id)
  | branch : StartMay config scope .branching (.child scope)
  | keep {own : Scope} :
      StartMay config scope (.keeping own) (.update fun s => { s with scope := some own })
  | time {own : Scope} {span : Span} : StartMay config scope (.pausing own) (.timer span)
  | wait {own : Scope} {time : Nat} :
      StartMay config scope (.delayed own time) (.await [.cancelled own, .due time])
  | begin {own : Scope} (busy : config.endpoints.isEmpty = false) :
      StartMay config scope (.ready own) (.update (withHealth .running))
  | skip {own : Scope} (empty : config.endpoints.isEmpty = true) :
      StartMay config scope (.ready own) (.update (withHealth .stopped))
  | employ {own : Scope} {n : Nat} (lt : n < config.endpoints.length) :
      StartMay config scope (.employing own n) (.spawn n own)
  | settle {own : Scope} :
      StartMay config scope (.employing own config.endpoints.length) (.await [.idle own])
  | finish : StartMay config scope .over (.update (withHealth .stopped))
  | lost {q : PluginAsk State} : StartMay config scope .lost q

/-- How far the main loop is when it has ended, and its result. -/
inductive StartEnds : Stage → Except PluginError Unit → Prop
  | finished : StartEnds .finished (.ok ())
  | lost {result : Except PluginError Unit} : StartEnds .lost result

section Start

variable {config : Config} {scope own : Scope} {past : List ProbeExchange}

/-- Whether an activity keeps to what the main loop may ask. -/
abbrev Starts (config : Config) (scope : Scope) (past : List ProbeExchange) (x : Working State α)
    (ends : List ProbeExchange → α → Prop) : Prop :=
  x.Keeps (fun past q => StartMay config scope (stage config past) q) ends past

theorem starts_of_lost {x : Working State (Except PluginError Unit)}
    (h : stage config past = .lost) :
    Starts config scope past x fun past result => StartEnds (stage config past) result := by
  induction x generalizing past with
  | done result =>
    change StartEnds (stage config past) result
    rw [h]
    exact .lost
  | ask q next ih =>
    have may : StartMay config scope (stage config past) q := by
      rw [h]
      exact .lost
    refine ⟨may, fun r => ih r ?_⟩
    rw [stage, h]
    rfl

theorem starts_sleepIn {span : Span} (h : stage config past = .pausing own) :
    Starts config scope past (Working.sleepIn own span) fun past begun =>
      stage config past = if begun then .ready own else .over := by
  refine .ask (by rw [h]; exact .time) fun time => ?_
  have waits : stage config (⟨.timer span, time⟩ :: past) = .delayed own time := by
    rw [stage, h]
    rfl
  refine .ask (by rw [waits]; exact .wait) fun signal => ?_
  cases signal <;>
  · change stage config (_ :: _) = _
    rw [stage, waits]
    rfl

theorem starts_spawnFrom {position count : Nat} (h : stage config past = .employing own position)
    (le : position + count ≤ config.endpoints.length) :
    Starts config scope past (spawnFrom own position count) fun past _ =>
      stage config past = .employing own (position + count) := by
  induction count generalizing past position with
  | zero => exact h
  | succ count ih =>
    refine .ask (by rw [h]; exact .employ (by omega)) fun _ => ?_
    have next :
        stage config (⟨.spawn position own, ()⟩ :: past) = .employing own (position + 1) := by
      rw [stage, h]
      rfl
    refine .weaken (ih next (by omega)) fun past _ employs => ?_
    rw [employs, Nat.add_right_comm, Nat.add_assoc]

theorem starts_probeAll (h : stage config past = .ready own)
    (busy : config.endpoints.isEmpty = false) :
    Starts config scope past (probeAll config own) fun past _ => stage config past = .over := by
  refine .ask (by rw [h]; exact .begin busy) fun s => ?_
  have begun : stage config (⟨.update (withHealth .running), s⟩ :: past) = .employing own 0 := by
    rw [stage, h]
    exact if_neg (by simp [busy])
  refine .bind (starts_spawnFrom begun (by omega)) fun past _ employs => ?_
  rw [Nat.zero_add] at employs
  refine .ask (by rw [employs]; exact .settle) fun signal => ?_
  change stage config (_ :: _) = .over
  rw [stage, employs]
  rfl

theorem stage_of_keeping {x : ProbeExchange} (h : stage config past = .keeping own) :
    stage config (x :: past) =
      if config.startDelay = 0 then .ready own else .pausing own := by
  rw [stage, h]
  rfl

theorem starts_finish
    (h : stage config past = .over ∨
      stage config past = .ready own ∧ config.endpoints.isEmpty = true) :
    Starts config scope past
      (do
        let _ ← Working.update (withHealth .stopped)
        return (Except.ok () : Except PluginError Unit))
      fun past result => StartEnds (stage config past) result := by
  have may : StartMay config scope (stage config past) (.update (withHealth .stopped)) := by
    rcases h with h | ⟨h, empty⟩
    · rw [h]
      exact .finish
    · rw [h]
      exact .skip empty
  refine .ask may fun s => ?_
  change StartEnds (stage config (_ :: _)) (.ok ())
  rcases h with h | ⟨h, empty⟩
  · rw [stage, h]
    exact .finished
  · rw [stage, h, Stage.after, if_pos empty]
    exact .finished

theorem starts_rest {begun : Bool}
    (h : stage config past = if begun then .ready own else .over) :
    Starts config scope past
      (do
        if begun && !config.endpoints.isEmpty then probeAll config own
        let _ ← Working.update (withHealth .stopped)
        return (Except.ok () : Except PluginError Unit))
      fun past result => StartEnds (stage config past) result := by
  cases begun with
  | false => exact @starts_finish config scope own past (.inl h)
  | true =>
    cases empty : config.endpoints.isEmpty with
    | true => exact @starts_finish config scope own past (.inr ⟨h, empty⟩)
    | false =>
      refine .bind (starts_probeAll h empty) fun past _ h => ?_
      exact @starts_finish config scope own past (.inl h)

/-- **What the main loop asks.** -/
theorem keeps_start :
    Starts config scope [] (start scope) fun past result =>
      StartEnds (stage config past) result := by
  refine .ask .look fun s => ?_
  by_cases hs : State.config s = some config
  · have looked : stage config [⟨.update id, s⟩] = .branching := if_pos hs
    rw [hs]
    refine .ask (by rw [looked]; exact .branch) fun own => ?_
    have branched : stage config [⟨.child scope, own⟩, ⟨.update id, s⟩] = .keeping own := by
      rw [stage, looked]
      rfl
    refine .ask (by rw [branched]; exact .keep) fun s' => ?_
    split
    next now =>
      exact @starts_rest config scope own _ true ((stage_of_keeping branched).trans (if_pos now))
    next later =>
      refine .bind (starts_sleepIn ?_) fun past begun h => starts_rest h
      exact (stage_of_keeping branched).trans (if_neg later)
  · exact starts_of_lost (if_neg hs)

end Start

/-! ### Stops -/

/-- What a stop asks. -/
inductive StopMay : PluginAsk State → Prop
  | look : StopMay (.update id)
  | cancel {scope : Scope} : StopMay (.cancel scope)
  | finish : StopMay (.update (withHealth .stopped))

/-- **What a stop asks.** -/
theorem asks_stop : stop.Asks StopMay := by
  refine .ask .look fun s => ?_
  split
  · exact .ask .cancel fun _ => .ask .finish fun _ => trivial
  · exact .ask .finish fun _ => trivial

end Sidecar.Probe

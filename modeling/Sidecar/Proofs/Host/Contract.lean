import Sidecar.Host.Operation
import Sidecar.Proofs.Activity

/-!
# What the host does for a call

A `HostCall` is something that is asked of the host, or a task that it has started.
`HostCall.MayAsk` lists the questions it may ask and what must have come before each: an instance
is registered once it is initialized, taken out once it has stopped, and only what an instance
answered is recorded about it.  `HostCall.allows_activity` is the proof, from one lemma for each
operation.

What is *not* in the list is that nothing has changed since: an entry that was looked up may be
another's by the time that its plugin has stopped.
-/

namespace Sidecar

/-- Something that is asked of the host, or a task that it has started. -/
inductive HostCall where
  /-- Register an instance. -/
  | add (name : String) (plugin : PluginId)
  /-- Start all plugins. -/
  | startAll
  /-- Start to poll all plugins. -/
  | startPolling
  /-- Get the status of a plugin. -/
  | status (name : String)
  /-- Poll a plugin now. -/
  | poll (name : String)
  /-- Stop a plugin and take it out. -/
  | remove (name : String)
  /-- Stop all plugins. -/
  | stopAll
  /-- Run the host. -/
  | run
  /-- Cancel everything and wait for the tasks. -/
  | shutDown
  /-- Do a task. -/
  | task (t : HostTask)
  deriving DecidableEq

namespace HostCall

/-- What a call results in. -/
def Result : HostCall → Type
  | .add .. => Except HostError Unit
  | .startAll => Nat
  | .startPolling => Unit
  | .status _ => Except HostError PluginStatus
  | .poll _ => Except HostError PluginStatus
  | .remove _ => Except HostError Unit
  | .stopAll => Except HostError Unit
  | .run => Except HostError Unit
  | .shutDown => Unit
  | .task _ => Option HostTask

/-- What the host does for a call. -/
def activity (config : Config) : (c : HostCall) → Hosting c.Result
  | .add name plugin => Host.addPlugin config name plugin
  | .startAll => Host.startAll
  | .startPolling => Host.startPolling config.host
  | .status name => Host.pluginStatus name
  | .poll name => Host.pollStatus name
  | .remove name => Host.removePlugin config.host name
  | .stopAll => Host.stopAll config.host
  | .run => Host.run config.host
  | .shutDown => Host.shutDown config.host
  | .task t => t.activity

end HostCall

/-- The state of a plugin after its main loop has ended. -/
def HostTask.stateAfter : Except PluginError Unit → Lifecycle
  | .ok () => .stopped
  | .error why => .failed why.details

/-- A question of the host with its answer. -/
abbrev HostExchange := Exchange HostI

/-- That a question of the host was answered in a way. -/
def HostExchange.of (q : HostAsk) (r : q.Reply) : HostExchange := ⟨q, r⟩

/-- Whether a question may be asked whatever came before: it changes no entry but to begin a run. -/
def HostAsk.isFree : HostAsk → Bool
  | .names | .lookup _ | .beginRun _ | .cachedStatus _ | .beginTaking | .takeFailure | .endTaking
  | .bind .. | .init .. | .stop .. | .status _ | .listen _ | .timer _ | .await _ => true
  | .insert .. | .remove _ | .endRun .. | .markStopped .. | .storeStatus .. | .report ..
  | .cancel _ | .start .. | .spawn _ => false

namespace HostCall

open HostExchange (of)

/-- What may be asked for a call, after what was asked before, the newest first. -/
inductive MayAsk : HostCall → List HostExchange → HostAsk → Prop
  | free {c past q} (free : q.isFree = true) : MayAsk c past q
  /-- An instance is registered once it is initialized, with what its configuration was bound to. -/
  | insert {name plugin config order} :
      MayAsk (.add name plugin)
        [of (.init plugin config) (.ok ()), of (.bind plugin config) (.ok ())]
        (.insert name plugin order)
  /-- A plugin is marked as stopped if the instance that was looked up has stopped. -/
  | markStopped {c past name e limit} :
      MayAsk c (of (.stop e.plugin limit) (some (.ok ())) :: of (.lookup name) (some e) :: past)
        (.markStopped name e.plugin)
  /-- A plugin is taken out if the instance that was looked up has stopped. -/
  | remove {name e limit} :
      MayAsk (.remove name)
        [of (.markStopped name e.plugin) (), of (.stop e.plugin limit) (some (.ok ())),
          of (.lookup name) (some e)]
        (.remove name)
  /-- A status is recorded if the instance has just given it. -/
  | storeStatus {c past name plugin status} :
      MayAsk c (of (.status plugin) (.ok status) :: past) (.storeStatus name plugin status)
  /-- The main loop of an instance is run by the task of the run. -/
  | start {name plugin scope} : MayAsk (.task (.run name plugin scope)) [] (.start plugin scope)
  /-- The end of a run is recorded after the main loop. -/
  | endRun {name plugin scope result} :
      MayAsk (.task (.run name plugin scope)) [of (.start plugin scope) result]
        (.endRun name plugin (HostTask.stateAfter result))
  /-- The error of a main loop is reported. -/
  | report {name plugin scope why} :
      MayAsk (.task (.run name plugin scope))
        [of (.endRun name plugin (.failed why.details)) (), of (.start plugin scope) (.error why)]
        (.report { plugin := name, scope } why)
  /-- The task of a run is started if the run has just begun. -/
  | spawnRun {c past name plugin scope} :
      MayAsk c (of (.beginRun name) (some (plugin, scope)) :: past)
        (.spawn (.run name plugin scope))
  /-- The instance that was looked up is polled. -/
  | spawnPoll {c past name e delay interval} :
      MayAsk c (of (.lookup name) (some e) :: past)
        (.spawn (.pollAfter delay interval name e.plugin e.registration))
  | spawnServe {past address} : MayAsk .run past (.spawn (.serve address))
  /-- Everything is cancelled at the end of a run of the host and at its shutdown. -/
  | cancelAll {c past} (ends : c = .run ∨ c = .shutDown) : MayAsk c past (.cancel .root)
  | heed {past scope} : MayAsk (.task (.heed scope)) past (.cancel scope)

/-- What a call may result in: a status is the one in the cache or has just been given, a plugin is
removed once it has stopped, a poll goes on as another of the same instance, and no other task goes
on. -/
def MayEnd : (c : HostCall) → List HostExchange → c.Result → Prop
  | .status name, past, result =>
    ∀ given, result = .ok given → past = [of (.cachedStatus name) (some given)] ∨
      ∃ e, past = [of (.storeStatus name e.plugin given) (), of (.status e.plugin) (.ok given),
        of (.lookup name) (some e), of (.cachedStatus name) none]
  | .remove name, past, result =>
    (∃ e limit, past = [of (.remove name) (), of (.markStopped name e.plugin) (),
      of (.stop e.plugin limit) (some (.ok ())), of (.lookup name) (some e)] ∧ result = .ok ()) ∨
    (∃ e limit outcome, past = [of (.stop e.plugin limit) outcome, of (.lookup name) (some e)] ∧
      outcome ≠ some (.ok ()) ∧ ∃ why, result = .error (.pluginStop name why)) ∨
    past = [of (.lookup name) none] ∧ result = .error (.pluginNotFound name)
  | .task (.pollAfter _ interval name plugin scope), _, result
  | .task (.poll _ interval name plugin scope), _, result =>
    ∀ t, result = some t → ∃ time, t = .poll time interval name plugin scope
  | .task (.run ..), _, result | .task (.serve _), _, result | .task (.heed _), _, result =>
    result = none
  | _, _, _ => True

/-! ### The operations -/

variable {c : HostCall} {past : List HostExchange} {name : String} {plugin : PluginId}
  {settings : HostSettings}

/-- Whether an activity keeps to what may be asked for a call. -/
abbrev Allows (c : HostCall) (past : List HostExchange) (x : Hosting α)
    (ends : List HostExchange → α → Prop) : Prop :=
  x.Keeps c.MayAsk ends past

theorem allows_bindAndInit {config : Value} :
    c.Allows past (Host.bindAndInit plugin config) fun past' result =>
      result = .ok () →
        past' = of (.init plugin config) (.ok ()) :: of (.bind plugin config) (.ok ()) :: past := by
  refine .ask (.free rfl) fun bound => ?_
  cases bound with
  | error why => exact nofun
  | ok =>
    refine ⟨.free rfl, fun ready hready => ?_⟩
    subst hready
    rfl

theorem allows_addPlugin {config : Config} :
    (add name plugin).Allows [] (Host.addPlugin config name plugin) fun _ _ => True := by
  unfold Host.addPlugin
  split
  · trivial
  · split
    · trivial
    · refine .bind allows_bindAndInit fun past ready asked => ?_
      cases ready with
      | error why => trivial
      | ok =>
        rw [asked rfl]
        exact .ask .insert fun _ => trivial

theorem allows_launch : c.Allows past (Host.launch name) fun _ _ => True := by
  refine .ask (.free rfl) fun run => ?_
  cases run with
  | none => trivial
  | some run => exact .ask .spawnRun fun _ => trivial

theorem allows_launchEach {names : List String} :
    c.Allows past (Host.launchEach names) fun _ _ => True := by
  induction names generalizing past with
  | nil => trivial
  | cons name names ih =>
    refine .bind allows_launch fun past started _ => ?_
    exact .bind ih fun past more _ => trivial

theorem allows_startAll : c.Allows past Host.startAll fun _ _ => True :=
  .ask (.free rfl) fun _ => allows_launchEach

theorem allows_pollEach {position : Nat} {names : List String} :
    c.Allows past (Host.pollEach settings position names) fun _ _ => True := by
  induction names generalizing past position with
  | nil => trivial
  | cons name names ih =>
    refine .ask (.free rfl) fun entry => ?_
    cases entry with
    | none => exact ih
    | some e => exact .ask .spawnPoll fun _ => ih

theorem allows_startPolling : c.Allows past (Host.startPolling settings) fun _ _ => True :=
  .ask (.free rfl) fun _ => allows_pollEach

theorem allows_pollStatus :
    c.Allows past (Host.pollStatus name) fun past' result =>
      ∀ given, result = .ok given → ∃ e : Entry, past' =
        of (.storeStatus name e.plugin given) () :: of (.status e.plugin) (.ok given) ::
          of (.lookup name) (some e) :: past := by
  refine .ask (.free rfl) fun entry => ?_
  cases entry with
  | none => exact nofun
  | some e =>
    refine .ask (.free rfl) fun status => ?_
    cases status with
    | error why => exact nofun
    | ok status =>
      refine .ask .storeStatus fun _ given hgiven => ⟨e, ?_⟩
      cases hgiven
      rfl

theorem allows_pluginStatus :
    (status name).Allows [] (Host.pluginStatus name) fun past result =>
      (status name).MayEnd past result := by
  refine .ask (.free rfl) fun cached => ?_
  cases cached with
  | none => exact .weaken allows_pollStatus fun past result h given hgiven => .inr (h given hgiven)
  | some cached =>
    refine fun given hgiven => .inl ?_
    cases hgiven
    rfl

/-- What a stop of a plugin that was looked up has asked: it is marked only if it has stopped. -/
def Stopped (e : Entry) (name : String) (past : List HostExchange) (limit : Span) :
    List HostExchange → Except PluginError Unit → Prop
  | past', .ok () => past' =
      of (.markStopped name e.plugin) () :: of (.stop e.plugin limit) (some (.ok ())) :: past
  | past', .error _ => ∃ outcome, past' = of (.stop e.plugin limit) outcome :: past ∧
      outcome ≠ some (.ok ())

theorem allows_stopPlugin {e : Entry} :
    c.Allows (of (.lookup name) (some e) :: past) (Host.stopPlugin settings name e.plugin)
      (Stopped e name (of (.lookup name) (some e) :: past) settings.stopTimeout) := by
  refine .ask (.free rfl) fun outcome => ?_
  cases outcome with
  | none => exact ⟨none, rfl, nofun⟩
  | some outcome =>
    cases outcome with
    | error why => exact ⟨some (.error why), rfl, nofun⟩
    | ok => exact .ask .markStopped fun _ => rfl

theorem allows_removePlugin :
    (remove name).Allows [] (Host.removePlugin settings name) fun past result =>
      (remove name).MayEnd past result := by
  refine .ask (.free rfl) fun entry => ?_
  cases entry with
  | none => exact .inr (.inr ⟨rfl, rfl⟩)
  | some e =>
    refine .bind allows_stopPlugin fun past result stopped => ?_
    cases result with
    | error why =>
      obtain ⟨outcome, rfl, failed⟩ := stopped
      exact .inr (.inl ⟨e, _, outcome, rfl, failed, why, rfl⟩)
    | ok =>
      rw [show past = _ from stopped]
      exact .ask .remove fun _ => .inl ⟨e, _, rfl, rfl⟩

theorem allows_stopEach {names : List String} :
    c.Allows past (Host.stopEach settings names) fun _ _ => True := by
  induction names generalizing past with
  | nil => trivial
  | cons name names ih =>
    refine .ask (.free rfl) fun entry => ?_
    cases entry with
    | none => exact ih
    | some e =>
      refine .bind allows_stopPlugin fun past result _ => ?_
      cases result with
      | ok => exact ih
      | error why => exact .bind ih fun _ _ _ => trivial

theorem allows_stopAll : c.Allows past (Host.stopAll settings) fun _ _ => True := by
  refine .ask (.free rfl) fun names => ?_
  refine .bind allows_stopEach fun past failures _ => ?_
  cases failures <;> trivial

theorem allows_watch : c.Allows past Host.watch fun _ _ => True := by
  refine .ask (.free rfl) fun signal => ?_
  cases signal with
  | failure =>
    refine .ask (.free rfl) fun failure => ?_
    cases failure <;> trivial
  | _ => trivial

theorem allows_openEndpoint : run.Allows past (Host.openEndpoint settings) fun _ _ => True := by
  unfold Host.openEndpoint
  split
  · refine .ask (.free rfl) fun opened => ?_
    cases opened with
    | false => trivial
    | true => exact .ask .spawnServe fun _ => trivial
  · trivial

theorem allows_run : run.Allows past (Host.run settings) fun _ _ => True := by
  refine .ask (.free rfl) fun _ => .bind allows_openEndpoint fun past ready _ => ?_
  have rest {past : List HostExchange} (result : Except HostError Unit) :
      run.Allows past (do Hosting.ask .endTaking; return result) fun _ _ => True :=
    .ask (.free rfl) fun _ => trivial
  split
  · refine .bind allows_startAll fun past _ _ => .bind allows_startPolling fun past _ _ => ?_
    refine .bind allows_watch fun past result _ => ?_
    exact .ask (.cancelAll (.inl rfl)) fun _ => rest result
  · exact rest _

theorem allows_shutDown : shutDown.Allows past (Host.shutDown settings) fun _ _ => True := by
  refine .ask (.cancelAll (.inr rfl)) fun _ => ?_
  exact .ask (.free rfl) fun limit => .ask (.free rfl) fun _ => trivial

theorem allows_task (t : HostTask) :
    (task t).Allows [] t.activity fun past result => (task t).MayEnd past result := by
  cases t with
  | run name plugin scope =>
    refine .ask .start fun result => ?_
    cases result with
    | ok => exact .ask .endRun fun _ => rfl
    | error why =>
      refine .ask (@MayAsk.endRun _ _ _ (.error why)) fun _ => ?_
      exact .ask .report fun _ => rfl
  | pollAfter delay interval name plugin scope =>
    refine .ask (.free rfl) fun time => .ask (.free rfl) fun signal => ?_
    cases signal with
    | due _ => exact .ask (.free rfl) fun now t ht => ⟨now, (Option.some.inj ht).symm⟩
    | _ => exact nofun
  | poll time interval name plugin scope =>
    refine .ask (.free rfl) fun signal => ?_
    cases signal with
    | due _ =>
      refine .ask (.free rfl) fun now => .ask (.free rfl) fun status => ?_
      cases status with
      | error why => exact fun t ht => ⟨_, (Option.some.inj ht).symm⟩
      | ok status => exact .ask .storeStatus fun _ t ht => ⟨_, (Option.some.inj ht).symm⟩
    | _ => exact nofun
  | serve address => exact .ask (.free rfl) fun _ => rfl
  | heed scope =>
    refine .ask (.free rfl) fun signal => ?_
    split
    · exact .ask .heed fun _ => rfl
    · exact rfl

/-- **Everything that is done for a call keeps to what may be asked for it.** -/
theorem allows_activity (config : Config) (c : HostCall) :
    c.Allows [] (c.activity config) fun past result => c.MayEnd past result := by
  cases c with
  | add name plugin => exact allows_addPlugin
  | startAll => exact allows_startAll
  | startPolling => exact allows_startPolling
  | status name => exact allows_pluginStatus
  | poll name => exact .weaken allows_pollStatus fun _ _ _ => trivial
  | remove name => exact allows_removePlugin
  | stopAll => exact allows_stopAll
  | run => exact allows_run
  | shutDown => exact allows_shutDown
  | task t => exact allows_task t

end HostCall

end Sidecar

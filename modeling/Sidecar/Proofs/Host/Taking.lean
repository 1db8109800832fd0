import Sidecar.Proofs.Host.Call

/-!
# Who takes the failures

Only runs of the host ask about taking failures (`HostCall.asks_activity`).  `HostCall.RunMay` is what
a run may ask and `HostCall.RunEnds` what it has asked when it ends: it takes a failure only right
after one was signalled to it, and only between the questions that begin and end its taking.

At any time at most one of them takes failures (`Host.Trace.holder_unique`).
-/

namespace Sidecar

/-- Whether it is a question about who takes failures, or takes one. -/
def HostAsk.isTaking : HostAsk → Bool
  | .beginTaking | .takeFailure | .endTaking => true
  | _ => false

/-- Whether it is a question with which plugins are started, or their polling. -/
def HostAsk.isStarting : HostAsk → Bool
  | .names | .beginRun _ | .lookup _ | .spawn _ => true
  | _ => false

/-- Whether it is a question with which the polling of plugins is started. -/
def HostAsk.isPolling : HostAsk → Bool
  | .names | .lookup _ | .spawn _ => true
  | _ => false

/-- Whether it is a question that neither begins a run nor is about who takes failures. -/
def HostAsk.isPlain : HostAsk → Bool
  | .beginRun _ | .beginTaking | .takeFailure | .endTaking => false
  | _ => true

namespace HostCall

open HostExchange (of)

/-- What a run of the host waits for. -/
abbrev watched : List Signal := [.failure, .cancelled .root]

/-- Whether someone has begun to take failures and has not let others. -/
def Holding (past : List HostExchange) : Prop :=
  of .beginTaking () ∈ past ∧ of .endTaking () ∉ past

/-- What a run of the host may ask, after what it has asked before. -/
inductive RunMay : List HostExchange → HostAsk → Prop
  | begins : RunMay [] .beginTaking
  /-- A failure is taken right after it was signalled. -/
  | takes {past} (holding : Holding past) :
      RunMay (of (.await watched) .failure :: past) .takeFailure
  | holds {past q} (holding : Holding past) (ne_begin : q ≠ .beginTaking)
      (ne_take : q ≠ .takeFailure) : RunMay past q

/-- Whether the liveness endpoint has not been found impossible to open. -/
def Opened (past : List HostExchange) : Prop := ∀ address, of (.listen address) false ∉ past

/-- What a run of the host has asked when it ends, and its result. -/
inductive RunEnds (settings : HostSettings) : List HostExchange → Except HostError Unit → Prop
  /-- The liveness endpoint cannot be opened. -/
  | closed : RunEnds settings
      [of .endTaking (), of (.listen settings.webServer.listen) false, of .beginTaking ()]
      (.error .server)
  /-- A failure was signalled and taken. -/
  | failed {past f} (opened : Opened past) : RunEnds settings
      (of .endTaking () :: of (.cancel .root) () :: of .takeFailure (some f) ::
        of (.await watched) .failure :: past)
      (.error (.pluginFailed f.plugin f.why))
  /-- A failure was signalled, but there was none. -/
  | deceived {past} (opened : Opened past) : RunEnds settings
      (of .endTaking () :: of (.cancel .root) () :: of .takeFailure none ::
        of (.await watched) .failure :: past)
      (.ok ())
  /-- Something else was signalled. -/
  | stopped {past signal} (opened : Opened past) (other : signal ≠ .failure) : RunEnds settings
      (of .endTaking () :: of (.cancel .root) () :: of (.await watched) signal :: past) (.ok ())

variable {settings : HostSettings} {name : String} {plugin : PluginId}

/-- Whether an activity begins no runs, and leaves the taking of failures alone. -/
abbrev Plain (x : Hosting α) : Prop := x.Asks fun q : HostAsk => q.isPlain = true

/-! ### Starting plugins -/

theorem starts_launchEach {names : List String} :
    (Host.launchEach names).Asks fun q : HostAsk => q.isStarting = true := by
  induction names with
  | nil => trivial
  | cons name names ih =>
    have launch : (Host.launch name).Asks fun q : HostAsk => q.isStarting = true := by
      refine .ask rfl fun run => ?_
      cases run with
      | none => trivial
      | some run => exact .ask rfl fun _ => trivial
    exact .bind launch fun started => .bind ih fun more => trivial

theorem starts_startAll : Host.startAll.Asks fun q : HostAsk => q.isStarting = true :=
  .ask rfl fun _ => starts_launchEach

theorem polls_pollEach {position : Nat} {names : List String} :
    (Host.pollEach settings position names).Asks fun q : HostAsk => q.isPolling = true := by
  induction names generalizing position with
  | nil => trivial
  | cons name names ih =>
    refine .ask rfl fun entry => ?_
    cases entry with
    | none => exact ih
    | some e => exact .ask rfl fun _ => ih

theorem polls_startPolling :
    (Host.startPolling settings).Asks fun q : HostAsk => q.isPolling = true :=
  .ask rfl fun _ => polls_pollEach

theorem isStarting_of_isPolling {q : HostAsk} (h : q.isPolling = true) : q.isStarting = true := by
  cases q <;> first | rfl | cases h

theorem starts_startPolling :
    (Host.startPolling settings).Asks fun q : HostAsk => q.isStarting = true :=
  polls_startPolling.mono fun _ => isStarting_of_isPolling

theorem plain_startPolling : Plain (Host.startPolling settings) := by
  refine polls_startPolling.mono fun q h => ?_
  cases q <;> first | rfl | cases h

theorem isTaking_of_isStarting {q : HostAsk} (h : q.isStarting = true) : q.isTaking = false := by
  cases q <;> first | rfl | cases h

theorem isTaking_of_isPlain {q : HostAsk} (h : q.isPlain = true) : q.isTaking = false := by
  cases q <;> first | rfl | cases h

/-! ### The other calls -/

theorem plain_bindAndInit {value : Value} : Plain (Host.bindAndInit plugin value) := by
  refine .ask rfl fun bound => ?_
  cases bound with
  | error why => trivial
  | ok => exact .ask rfl fun _ => trivial

theorem plain_addPlugin {config : Config} : Plain (Host.addPlugin config name plugin) := by
  unfold Host.addPlugin
  split
  · trivial
  · split
    · trivial
    · refine .bind plain_bindAndInit fun ready => ?_
      cases ready with
      | error why => trivial
      | ok => exact .ask rfl fun _ => trivial

theorem plain_pollStatus : Plain (Host.pollStatus name) := by
  refine .ask rfl fun entry => ?_
  cases entry with
  | none => trivial
  | some e =>
    refine .ask rfl fun status => ?_
    cases status with
    | error why => trivial
    | ok status => exact .ask rfl fun _ => trivial

theorem plain_pluginStatus : Plain (Host.pluginStatus name) := by
  refine .ask rfl fun cached => ?_
  cases cached with
  | none => exact plain_pollStatus
  | some cached => trivial

theorem plain_stopPlugin : Plain (Host.stopPlugin settings name plugin) := by
  refine .ask rfl fun outcome => ?_
  cases outcome with
  | none => trivial
  | some outcome =>
    cases outcome with
    | error why => trivial
    | ok => exact .ask rfl fun _ => trivial

theorem plain_removePlugin : Plain (Host.removePlugin settings name) := by
  refine .ask rfl fun entry => ?_
  cases entry with
  | none => trivial
  | some e =>
    refine .bind plain_stopPlugin fun result => ?_
    cases result with
    | error why => trivial
    | ok => exact .ask rfl fun _ => trivial

theorem plain_stopEach {names : List String} : Plain (Host.stopEach settings names) := by
  induction names with
  | nil => trivial
  | cons name names ih =>
    refine .ask rfl fun entry => ?_
    cases entry with
    | none => exact ih
    | some e =>
      refine .bind plain_stopPlugin fun result => ?_
      cases result with
      | ok => exact ih
      | error why => exact .bind ih fun _ => trivial

theorem plain_stopAll : Plain (Host.stopAll settings) := by
  refine .ask rfl fun names => .bind plain_stopEach fun failures => ?_
  cases failures <;> trivial

theorem plain_shutDown : Plain (Host.shutDown settings) :=
  .ask rfl fun _ => .ask rfl fun _ => .ask rfl fun _ => trivial

theorem plain_task (t : HostTask) : Plain t.activity := by
  cases t with
  | run name plugin scope =>
    refine .ask rfl fun result => ?_
    cases result with
    | ok => exact .ask rfl fun _ => trivial
    | error why => exact .ask rfl fun _ => .ask rfl fun _ => trivial
  | pollAfter delay interval name plugin scope =>
    refine .ask rfl fun time => .ask rfl fun signal => ?_
    cases signal with
    | due _ => exact .ask rfl fun _ => trivial
    | _ => trivial
  | poll time interval name plugin scope =>
    refine .ask rfl fun signal => ?_
    cases signal with
    | due _ =>
      refine .ask rfl fun now => .ask rfl fun status => ?_
      cases status with
      | error why => trivial
      | ok status => exact .ask rfl fun _ => trivial
    | _ => trivial
  | serve address => exact .ask rfl fun _ => trivial
  | heed scope =>
    refine .ask rfl fun signal => ?_
    split
    · exact .ask rfl fun _ => trivial
    · trivial

theorem plain_openEndpoint : Plain (Host.openEndpoint settings) := by
  unfold Host.openEndpoint
  split
  · refine .ask rfl fun opened => ?_
    cases opened with
    | false => trivial
    | true => exact .ask rfl fun _ => trivial
  · trivial

/-- **Runs are begun only where all plugins are started.** -/
theorem plain_activity (config : Config) {c : HostCall} (h : c ≠ .run) (h' : c ≠ .startAll) :
    Plain (c.activity config) := by
  cases c with
  | add name plugin => exact plain_addPlugin
  | startAll => exact absurd rfl h'
  | startPolling => exact plain_startPolling
  | status name => exact plain_pluginStatus
  | poll name => exact plain_pollStatus
  | remove name => exact plain_removePlugin
  | stopAll => exact plain_stopAll
  | run => exact absurd rfl h
  | shutDown => exact plain_shutDown
  | task t => exact plain_task t

/-- **Only runs of the host take failures.** -/
theorem asks_activity (config : Config) {c : HostCall} (h : c ≠ .run) :
    (c.activity config).Asks fun q : HostAsk => q.isTaking = false := by
  by_cases h' : c = .startAll
  · subst h'
    exact starts_startAll.mono fun _ => isTaking_of_isStarting
  · exact (plain_activity config h h').mono fun _ => isTaking_of_isPlain

/-! ### Runs -/

theorem of_ne_of {q q' : HostAsk} {r : q.Reply} {r' : q'.Reply} (h : q ≠ q') :
    of q r ≠ of q' r' :=
  fun heq => h (congrArg Exchange.question heq)

theorem Holding.cons {past : List HostExchange} {q : HostAsk} {r : q.Reply} (h : Holding past)
    (hq : q ≠ .endTaking) : Holding (of q r :: past) := by
  refine ⟨List.mem_cons_of_mem _ h.1, fun hm => ?_⟩
  rcases List.mem_cons.1 hm with heq | hm
  · exact of_ne_of hq heq.symm
  · exact h.2 hm

theorem Opened.cons {past : List HostExchange} {q : HostAsk} {r : q.Reply} (h : Opened past)
    (hq : ∀ address, q ≠ .listen address) : Opened (of q r :: past) := by
  intro address hm
  rcases List.mem_cons.1 hm with heq | hm
  · exact of_ne_of (hq address) heq.symm
  · exact h address hm

theorem holding_append {past later : List HostExchange} (holding : Holding past)
    (opened : Opened past) (h : ∀ x ∈ later, x.question.isStarting = true) :
    Holding (later ++ past) ∧ Opened (later ++ past) := by
  induction later with
  | nil => exact ⟨holding, opened⟩
  | cons x later ih =>
    obtain ⟨hx, rest⟩ := List.forall_mem_cons.1 h
    obtain ⟨hold, open'⟩ := ih rest
    refine ⟨hold.cons ?_, open'.cons fun address => ?_⟩
    · rintro heq
      rw [heq] at hx
      cases hx
    · rintro heq
      rw [heq] at hx
      cases hx

theorem runMay_starting {past : List HostExchange} {x : Hosting α} (holding : Holding past)
    (opened : Opened past) (h : x.Asks fun q : HostAsk => q.isStarting = true) :
    x.Keeps RunMay (fun past _ => Holding past ∧ Opened past) past := by
  refine .weaken (h.keeps fun later q asked hq => ?_) ?_
  · refine .holds (holding_append holding opened asked).1 ?_ ?_
    · rintro rfl; cases hq
    · rintro rfl; cases hq
  · rintro past' - ⟨later, rfl, asked⟩
    exact holding_append holding opened asked

/-- What a run of the host has asked when it has watched, and its result. -/
inductive Watched : List HostExchange → Except HostError Unit → Prop
  | failed {past f} (holding : Holding past) (opened : Opened past) :
      Watched (of .takeFailure (some f) :: of (.await watched) .failure :: past)
        (.error (.pluginFailed f.plugin f.why))
  | deceived {past} (holding : Holding past) (opened : Opened past) :
      Watched (of .takeFailure none :: of (.await watched) .failure :: past) (.ok ())
  | stopped {past signal} (holding : Holding past) (opened : Opened past)
      (other : signal ≠ .failure) : Watched (of (.await watched) signal :: past) (.ok ())

theorem Watched.holding {past : List HostExchange} {result : Except HostError Unit}
    (h : Watched past result) : Holding past := by
  cases h with
  | @failed past f holding =>
    have signalled : Holding (of (.await watched) .failure :: past) := holding.cons nofun
    exact signalled.cons nofun
  | @deceived past holding =>
    have signalled : Holding (of (.await watched) .failure :: past) := holding.cons nofun
    exact signalled.cons nofun
  | stopped holding => exact holding.cons nofun

theorem Watched.ends {past : List HostExchange} {result : Except HostError Unit}
    (h : Watched past result) :
    RunEnds settings (of .endTaking () :: of (.cancel .root) () :: past) result := by
  cases h with
  | failed _ opened => exact .failed opened
  | deceived _ opened => exact .deceived opened
  | stopped _ opened other => exact .stopped opened other

theorem runMay_watch {past : List HostExchange} (holding : Holding past) (opened : Opened past) :
    Host.watch.Keeps RunMay Watched past := by
  refine .ask (.holds holding nofun nofun) fun signal => ?_
  cases signal with
  | failure =>
    refine .ask (.takes holding) fun failure => ?_
    cases failure with
    | none => exact .deceived holding opened
    | some f => exact .failed holding opened
  | _ => exact .stopped holding opened nofun

/-- What a run of the host has asked when it has tried to open the endpoint. -/
def AfterOpening (settings : HostSettings) (past : List HostExchange) : Bool → Prop
  | true => Holding past ∧ Opened past
  | false => past = [of (.listen settings.webServer.listen) false, of .beginTaking ()]

theorem holding_begin : Holding [of .beginTaking ()] :=
  ⟨List.mem_cons_self, fun h => by cases List.mem_singleton.1 h⟩

theorem opened_begin : Opened [of .beginTaking ()] :=
  fun _ h => by cases List.mem_singleton.1 h

theorem runMay_openEndpoint :
    (Host.openEndpoint settings).Keeps RunMay (AfterOpening settings) [of .beginTaking ()] := by
  unfold Host.openEndpoint
  split
  · refine .ask (.holds holding_begin nofun nofun) fun opened => ?_
    cases opened with
    | false => rfl
    | true =>
      have holding : Holding [of (.listen settings.webServer.listen) true, of .beginTaking ()] :=
        holding_begin.cons nofun
      have opened : Opened [of (.listen settings.webServer.listen) true, of .beginTaking ()] := by
        intro address h
        rcases List.mem_cons.1 h with heq | h
        · cases heq
        · exact opened_begin address h
      exact .ask (.holds holding nofun nofun) fun _ => ⟨holding.cons nofun, opened.cons nofun⟩
  · exact ⟨holding_begin, opened_begin⟩

/-- **A run of the host keeps to what it may ask.** -/
theorem runMay_run : (Host.run settings).Keeps RunMay (RunEnds settings) [] := by
  refine .ask .begins fun _ => .bind runMay_openEndpoint fun past ready opening => ?_
  cases ready with
  | false =>
    obtain rfl : past = _ := opening
    refine .ask (.holds (holding_begin.cons nofun) nofun nofun) fun _ => .closed
  | true =>
    refine .bind (runMay_starting opening.1 opening.2 starts_startAll) fun past _ h => ?_
    refine .bind (runMay_starting h.1 h.2 starts_startPolling) fun past _ h => ?_
    refine .bind (runMay_watch h.1 h.2) fun past result done => ?_
    refine .ask (.holds done.holding nofun nofun) fun _ => ?_
    exact .ask (.holds (done.holding.cons nofun) nofun nofun) fun _ => done.ends

theorem holding_of_signalled {past : List HostExchange} {x : Hosting (Except HostError Unit)}
    (h : x.Keeps RunMay (RunEnds settings) (of (.await watched) .failure :: past)) :
    Holding (of (.await watched) .failure :: past) := by
  cases x with
  | done result => cases h
  | ask q next =>
    cases h.1 with
    | takes holding => exact holding.cons nofun
    | holds holding => exact holding

end HostCall

namespace Host

open HostExchange (of)
open HostCall (Holding RunMay RunEnds watched)

variable {config : Config} {es : List Event} {w w' : World} {e : Event} {i j : Nat}

/-- Whether a call is a run of the host that takes the failures. -/
def Holder (es : List Event) (w : World) (j : Nat) : Prop :=
  (∃ x, w.jobs j = some ⟨.run, x⟩) ∧ Holding (own j es)

/-- **Only runs of the host take failures, and only as they may.** -/
theorem Trace.runMay (t : Trace config es w) {c : HostCall} {q : HostAsk}
    {next : q.Reply → Hosting c.Result} (doing : w.jobs j = some ⟨c, Activity.ask q next⟩)
    (h : c = .run ∨ q.isTaking = true) : c = .run ∧ RunMay (own j es) q := by
  by_cases hc : c = .run
  · subst hc
    exact ⟨rfl, (t.keeps HostCall.runMay_run doing).1⟩
  · have whole : (c.activity config).Keeps (fun _ (q : HostAsk) => q.isTaking = false) _ [] :=
      (HostCall.asks_activity config hc).keeps fun _ _ _ hq => hq
    have leaves : q.isTaking = false := (t.keeps whole doing).1
    rcases h with h | h
    · exact absurd h hc
    · exact absurd (leaves.symm.trans h) Bool.false_ne_true

theorem Trace.holder_of_ask (t : Trace config es w) {c : HostCall} {q : HostAsk}
    {next : q.Reply → Hosting c.Result} (doing : w.jobs j = some ⟨c, Activity.ask q next⟩)
    (h : c = .run ∨ q.isTaking = true) (hq : q ≠ .beginTaking) : Holder es w j := by
  obtain ⟨rfl, may⟩ := t.runMay doing h
  refine ⟨⟨_, doing⟩, ?_⟩
  generalize own j es = past at may
  cases may with
  | begins => exact absurd rfl hq
  | takes holding => exact holding.cons nofun
  | holds holding => exact holding

theorem taking_of_step (step : Step config w e w') :
    w'.host.taking = w.host.taking ∨
    (∃ j c, e = .asked j c (of .beginTaking ()) ∧ w.host.taking = false ∧
      w'.host.taking = true) ∨
    (∃ j c next, e = .asked j c (of .endTaking ()) ∧
      w.jobs j = some ⟨c, Activity.ask .endTaking next⟩) ∨
    ∃ j q next, e = .dropped j ∧ w.jobs j = some ⟨.run, Activity.ask q next⟩ ∧
      q ≠ .beginTaking ∧ w'.jobs j = none := by
  cases step with
  | called => exact .inl rfl
  | @asked j c q next r h doing answers =>
    rw [World.host_start]
    cases answers with
    | records found =>
      cases q with
      | beginTaking =>
        unfold answer? at found
        split_ifs at found with idle
        cases found
        exact .inr (.inl ⟨j, c, rfl, by simpa using idle, rfl⟩)
      | endTaking =>
        cases found
        exact .inr (.inr (.inl ⟨j, c, next, rfl, doing⟩))
      | _ =>
        cases found
        try exact .inl rfl
    | surroundings => exact .inl rfl
    | signal => exact .inl rfl
  | ended =>
    rw [World.host_start]
    exact .inl rfl
  | @dropped j c q next doing waits outside =>
    cases c with
    | run =>
      by_cases hq : q = .beginTaking
      · subst hq
        exact .inl rfl
      · exact .inr (.inr (.inr ⟨j, q, next, rfl, doing, hq, if_pos rfl⟩))
    | _ => exact .inl rfl
  | @done deed => cases deed <;> exact .inl rfl

/-- Who takes the failures took them before, or has just begun. -/
theorem Trace.holder_of_step (t : Trace config es w) (step : Step config w e w')
    (h : Holder (e :: es) w' j) :
    Holder es w j ∨ e = .asked j .run (of .beginTaking ()) := by
  obtain ⟨⟨x, doing⟩, holding⟩ := h
  generalize hjob : (⟨.run, x⟩ : Job) = job at doing
  cases came_of_step t.fresh step doing with
  | same found others =>
    rw [own_cons_of_ne others] at holding
    exact .inl ⟨⟨x, hjob ▸ found⟩, holding⟩
  | @asked c q next r found =>
    cases hjob
    rw [own_asked] at holding
    rcases List.mem_cons.1 holding.1 with heq | begun
    · exact .inr (by rw [← heq])
    · exact .inl ⟨⟨_, found⟩, begun, fun h => holding.2 (List.mem_cons_of_mem _ h)⟩
  | called new outside =>
    have unasked : own j es = [] := t.own_eq_nil (Nat.le_of_eq new.symm)
    have begun : of .beginTaking () ∈ own j es := holding.1
    rw [unasked] at begun
    cases begun
  | spawned => cases hjob
  | follows => cases hjob

theorem Trace.holder_spec (t : Trace config es w) :
    (∀ {j}, Holder es w j → w.host.taking = true) ∧
      ∀ {i j}, Holder es w i → Holder es w j → i = j := by
  induction t with
  | nil =>
    have none {j} : ¬ Holder [] .new j := by
      rintro ⟨⟨x, h⟩, -⟩
      cases h
    exact ⟨fun h => absurd h none, fun h _ => absurd h none⟩
  | @cons es w w' e before step ih =>
    obtain ⟨taking, unique⟩ := ih
    obtain same | ⟨k, c, rfl, idle, begun⟩ | ⟨k, c, next, rfl, doing⟩ |
        ⟨k, q, next, rfl, doing, hq, gone⟩ := taking_of_step step
    · -- nobody has begun, as someone would have to have waited for that
      have holder {j} (h : Holder (e :: es) w' j) : Holder es w j := by
        rcases before.holder_of_step step h with h | rfl
        · exact h
        · cases step with
          | asked doing answers =>
            rw [World.host_start] at same
            cases answers with
            | records found =>
              change (if w.host.taking = true then none else some _) = some _ at found
              split_ifs at found with idle
              cases found
              exact absurd same.symm idle
            | surroundings hopen => cases hopen
      exact ⟨fun h => same.trans (taking (holder h)), fun h h' => unique (holder h) (holder h')⟩
    · -- nobody has taken them before, so it is the one that has begun
      have only {j} (h : Holder (.asked k c (of .beginTaking ()) :: es) w' j) : k = j := by
        rcases before.holder_of_step step h with h | heq
        · exact absurd (idle.symm.trans (taking h)) Bool.false_ne_true
        · cases heq
          rfl
      exact ⟨fun _ => begun, fun h h' => (only h).symm.trans (only h')⟩
    · -- it was the one who took them that has ended that, and is none any more
      have held := before.holder_of_ask doing (.inr rfl) nofun
      have none {j} (h : Holder (.asked k c (of .endTaking ()) :: es) w' j) : False := by
        rcases before.holder_of_step step h with h' | heq
        · obtain rfl := unique held h'
          have ended := h.2.2
          rw [own_asked] at ended
          exact ended List.mem_cons_self
        · cases heq
      exact ⟨fun h => (none h).elim, fun h _ => (none h).elim⟩
    · -- it was the one who took them that has given up
      have held := before.holder_of_ask doing (.inl rfl) hq
      have none {j} (h : Holder (.dropped k :: es) w' j) : False := by
        rcases before.holder_of_step step h with h' | heq
        · obtain rfl := unique held h'
          obtain ⟨⟨x, hx⟩, -⟩ := h
          cases gone.symm.trans hx
        · cases heq
      exact ⟨fun h => (none h).elim, fun h _ => (none h).elim⟩

/-- **At most one call takes the failures.** -/
theorem Trace.holder_unique (t : Trace config es w) (hi : Holder es w i) (hj : Holder es w j) :
    i = j :=
  t.holder_spec.2 hi hj

end Host

end Sidecar

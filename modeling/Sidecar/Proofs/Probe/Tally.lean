import Mathlib.Tactic.Tauto
import Sidecar.Proofs.Probe.Plan

/-!
# What the probe plugin counts

A `Probe.World` is the probe plugin at work: its main loop, the workers that this has started, and
the stops that were called.  Between two questions of one of them anything may happen to the others:
`Probe.Step` is one event, chosen freely among all that are possible, and `Probe.Trace` relates a
world to the events that led to it, the newest first.  A round may come to any result, a wait may end
at any time, and any scope may be cancelled at any time.

* `Probe.Sound` : how the workers, the main loop and the stops belong together;
* `Probe.Counted` : what the counts of the state are;
* `Probe.Trace.tally` : **so they are whatever has happened**, and when the main loop has returned
  there are no workers any more.
-/

namespace Sidecar.Probe

/-! ### The plugin at work -/

/-- A worker that has not ended. -/
structure Worker where
  position : Nat
  scope : Scope
  /-- Whether it has entered with an earlier step. -/
  entered : Bool
  /-- What it has asked in the current step, the newest first. -/
  past : List ProbeExchange
  /-- What remains of the step. -/
  remaining : Working State Bool

namespace Worker

/-- A worker that was just started. -/
def new (position : Nat) (scope : Scope) : Worker :=
  { position, scope, entered := false, past := [], remaining := State.work position scope false }

/-- A worker that goes on with another step. -/
def again (v : Worker) : Worker :=
  { v with entered := true, past := [], remaining := State.work v.position v.scope true }

/-- A worker whose question was answered. -/
def answer (v : Worker) (x : ProbeExchange) (remaining : Working State Bool) : Worker :=
  { v with past := x :: v.past, remaining }

/-- Where a worker stands. -/
def place (v : Worker) : Place := Probe.place v.entered v.past

end Worker

/-- Whether a worker has entered and not left. -/
def Place.isInside : Place → Bool
  | .outside | .left => false
  | _ => true

/-- Whether a worker is about to enter. -/
def Place.isOutside : Place → Bool
  | .outside => true
  | _ => false

/-- Whether a worker is about to leave. -/
def Place.isLeaving : Place → Bool
  | .leaving => true
  | _ => false

/-- The result of a round that a worker has not recorded yet. -/
def Place.held? : Place → Option (Except ProbeError Unit)
  | .holding result => some result
  | _ => none

/-- The probe plugin at work. -/
structure World where
  state : State
  scopes : Scopes
  /-- What the main loop has asked, the newest first. -/
  asked : List ProbeExchange
  /-- What remains of the main loop. -/
  main : Working State (Except PluginError Unit)
  workers : List Worker
  /-- What remains of the stops that were called. -/
  stops : List (Working State (Except PluginError Unit))

namespace World

/-- A plugin that begins to run in a scope. -/
def begin (state : State) (scope : Scope) (scopes : Scopes) : World :=
  { state, scopes, asked := [], main := State.start scope, workers := [], stops := [] }

/-- The results that are not recorded yet. -/
def held (w : World) : List (Except ProbeError Unit) := w.workers.filterMap fun v => v.place.held?

/-- The same with another state and other scopes. -/
def withState (w : World) (state : State) (scopes : Scopes) : World := { w with state, scopes }

end World

/-- The workers that are started with a question. -/
def employed : PluginAsk State → List Worker
  | .spawn position scope => [.new position scope]
  | _ => []

/-- How a question may be answered, with the state and the scopes afterwards. -/
inductive Answers (w : World) : (q : PluginAsk State) → q.Reply → State → Scopes → Prop
  | update {f : State → State} : Answers w (.update f) (f w.state) (f w.state) w.scopes
  | timer {span : Span} {time : Nat} : Answers w (.timer span) time w.state w.scopes
  | cancelled {signals : List Signal} {scope : Scope} (mem : .cancelled scope ∈ signals)
      (come : w.scopes.isCancelled scope = true) :
      Answers w (.await signals) (.cancelled scope) w.state w.scopes
  | due {signals : List Signal} {time : Nat} (mem : .due time ∈ signals) :
      Answers w (.await signals) (.due time) w.state w.scopes
  /-- All workers in a scope have ended. -/
  | idle {signals : List Signal} {scope : Scope} (mem : .idle scope ∈ signals)
      (come : ∀ v ∈ w.workers, v.scope ≠ scope) :
      Answers w (.await signals) (.idle scope) w.state w.scopes
  | child {parent : Scope} :
      Answers w (.child parent) (w.scopes.child parent).1 w.state (w.scopes.child parent).2
  | cancel {scope : Scope} : Answers w (.cancel scope) () w.state (w.scopes.cancel scope)
  | spawn {position : Nat} {scope : Scope} : Answers w (.spawn position scope) () w.state w.scopes
  /-- A round comes to a result. -/
  | probed {endpoint : EndpointConfig} {scope : Scope} {result : Except ProbeError Unit} :
      Answers w (.probe endpoint scope) (some result) w.state w.scopes
  /-- A round is cut off. -/
  | cut {endpoint : EndpointConfig} {scope : Scope} (come : w.scopes.isCancelled scope = true) :
      Answers w (.probe endpoint scope) none w.state w.scopes

/-- Something that happens. -/
inductive Event where
  /-- A question of the main loop is answered. -/
  | started (x : ProbeExchange)
  /-- A question of a worker is answered. -/
  | worked (v : Worker) (x : ProbeExchange)
  /-- A worker goes on with another step. -/
  | wentOn (v : Worker)
  /-- A worker ends. -/
  | ended (v : Worker)
  /-- A stop is called. -/
  | called
  /-- A question of a stop is answered. -/
  | stopped (x : ProbeExchange)
  /-- A scope is cancelled. -/
  | cancelled (scope : Scope)
  /-- A scope is made under another. -/
  | branched (parent : Scope)

/-- What may happen, and the world afterwards. -/
inductive Step : World → Event → World → Prop
  | started {w : World} {q : PluginAsk State}
      {next : q.Reply → Working State (Except PluginError Unit)} {r : q.Reply} {s : State}
      {t : Scopes} (asks : w.main = Activity.ask q next) (answers : Answers w q r s t) :
      Step w (.started ⟨q, r⟩)
        { w.withState s t with
          asked := ⟨q, r⟩ :: w.asked, main := next r, workers := w.workers ++ employed q }
  | worked {w : World} {l₁ l₂ : List Worker} {v : Worker} {q : PluginAsk State}
      {next : q.Reply → Working State Bool} {r : q.Reply} {s : State} {t : Scopes}
      (mem : w.workers = l₁ ++ v :: l₂) (asks : v.remaining = Activity.ask q next)
      (answers : Answers w q r s t) :
      Step w (.worked v ⟨q, r⟩)
        { w.withState s t with workers := l₁ ++ v.answer ⟨q, r⟩ (next r) :: l₂ ++ employed q }
  | wentOn {w : World} {l₁ l₂ : List Worker} {v : Worker} (mem : w.workers = l₁ ++ v :: l₂)
      (goes : v.remaining = .done true) :
      Step w (.wentOn v) { w with workers := l₁ ++ v.again :: l₂ }
  | ended {w : World} {l₁ l₂ : List Worker} {v : Worker} (mem : w.workers = l₁ ++ v :: l₂)
      (ends : v.remaining = .done false) : Step w (.ended v) { w with workers := l₁ ++ l₂ }
  | called {w : World} : Step w .called { w with stops := State.stop :: w.stops }
  | stopped {w : World} {l₁ l₂ : List (Working State (Except PluginError Unit))}
      {q : PluginAsk State} {next : q.Reply → Working State (Except PluginError Unit)}
      {r : q.Reply} {s : State} {t : Scopes} (mem : w.stops = l₁ ++ Activity.ask q next :: l₂)
      (answers : Answers w q r s t) :
      Step w (.stopped ⟨q, r⟩)
        { w.withState s t with
          stops := l₁ ++ next r :: l₂, workers := w.workers ++ employed q }
  | cancelled {w : World} {scope : Scope} :
      Step w (.cancelled scope) { w with scopes := w.scopes.cancel scope }
  | branched {w : World} {parent : Scope} :
      Step w (.branched parent) { w with scopes := (w.scopes.child parent).2 }

/-- What may have happened from one world to another, the newest first. -/
inductive Trace (w₀ : World) : List Event → World → Prop
  | nil : Trace w₀ [] w₀
  | cons {es : List Event} {w w' : World} {e : Event} (before : Trace w₀ es w)
      (step : Step w e w') : Trace w₀ (e :: es) w'

/-! ### What has happened -/

/-- What a round has come to with an exchange, if not to an end by cancellation. -/
def result? : ProbeExchange → Option (Except ProbeError Unit)
  | ⟨.probe .., result⟩ => result
  | _ => none

namespace Event

/-- What a round comes to with an event: a result, or an end by cancellation. -/
def round? : Event → Option (Option (Except ProbeError Unit))
  | .worked _ ⟨.probe .., result⟩ => some result
  | _ => none

/-- The result that a worker records with an event: the one that it holds. -/
def recorded? : Event → Option (Except ProbeError Unit)
  | .worked v _ => v.place.held?
  | _ => none

/-- Whether a question of a worker is answered. -/
def isWorked : Event → Bool
  | .worked .. => true
  | _ => false

/-- Whether a worker enters with an event. -/
def enters : Event → Bool
  | .worked v _ => v.place.isOutside
  | _ => false

/-- Whether a worker leaves with an event. -/
def leaves : Event → Bool
  | .worked v _ => v.place.isLeaving
  | _ => false

end Event

/-- What all rounds came to, the newest first. -/
def rounds (es : List Event) : List (Option (Except ProbeError Unit)) := es.filterMap Event.round?

/-- The results of the rounds that came to one, the newest first. -/
def results (es : List Event) : List (Except ProbeError Unit) := (rounds es).filterMap id

/-- The results that were recorded, the newest first. -/
def recorded (es : List Event) : List (Except ProbeError Unit) := es.filterMap Event.recorded?

/-- Why a round has failed, in words. -/
def reason? : Except ProbeError Unit → Option String
  | .ok () => none
  | .error why => some why.message

variable {config : Config} {scope : Scope} {w w₀ w' : World} {es : List Event} {e : Event}

/-! ### How the parts belong together -/

/-- A worker of an endpoint that goes by the configuration. -/
structure Worker.Sound (config : Config) (v : Worker) : Prop where
  position : v.position < config.endpoints.length
  configured : ∀ c, v.place = .probing c → c = some config
  works : Works v.position v.scope v.entered v.past v.remaining fun past more =>
    WorkEnds v.position (Probe.place v.entered past) more

/-- How the workers, the main loop and the stops belong together. -/
structure Sound (config : Config) (scope : Scope) (w : World) : Prop where
  configured : w.state.config = some config
  main : Starts config scope w.asked w.main fun past result =>
    StartEnds (stage config past) result
  found : stage config w.asked ≠ .lost
  workers : ∀ v ∈ w.workers, v.Sound config
  /-- There are workers only while the main loop employs them, in its own scope. -/
  employed : ∀ v ∈ w.workers, ∃ n, stage config w.asked = .employing v.scope n
  stops : ∀ x ∈ w.stops, x.Asks StopMay
  stopped : stage config w.asked = .finished → w.state.health = .stopped

/-! ### One question -/

section Question

variable {position : Nat} {p : Place} {q : PluginAsk State} {r : q.Reply} {s : State} {t : Scopes}
  {rs : List (Except ProbeError Unit)}

/-- That the counts of a state are those of the results that were recorded, the newest first. -/
structure Tells (s : State) (rs : List (Except ProbeError Unit)) : Prop where
  successes : s.successes = rs.countP Except.isOk
  failures : s.failures = rs.countP fun result => !result.isOk
  lastError : s.lastError = rs.findSome? reason?

theorem Tells.record (h : Tells s rs) (result : Except ProbeError Unit) :
    Tells (s.record result) (result :: rs) := by
  cases result with
  | ok =>
    refine ⟨?_, ?_, ?_⟩
    · rw [List.countP_cons_of_pos rfl, ← h.successes]
      rfl
    · rw [List.countP_cons_of_neg Bool.false_ne_true, ← h.failures]
      rfl
    · exact h.lastError
  | error why =>
    refine ⟨?_, ?_, rfl⟩
    · rw [List.countP_cons_of_neg Bool.false_ne_true, ← h.successes]
      rfl
    · rw [List.countP_cons_of_pos rfl, ← h.failures]
      rfl

theorem WorkMay.frame (may : WorkMay position scope p q) (answers : Answers w q r s t) :
    s.config = w.state.config ∧ s.health = w.state.health := by
  cases may with
  | @record result =>
    cases answers
    cases result <;> exact ⟨rfl, rfl⟩
  | _ =>
    cases answers
    all_goals exact ⟨rfl, rfl⟩

theorem WorkMay.active (may : WorkMay position scope p q) (answers : Answers w q r s t)
    {others : Nat} (h : w.state.active = others + p.isInside.toNat) :
    s.active = others + (p.after ⟨q, r⟩).isInside.toNat := by
  cases may with
  | @record result =>
    cases answers
    cases result <;> exact h
  | leave =>
    cases answers
    exact congrArg (· - 1) h
  | enter =>
    cases answers
    exact congrArg (· + 1) h
  | _ =>
    cases answers
    all_goals exact h

/-- A worker records the result that it holds. -/
theorem WorkMay.tells (may : WorkMay position scope p q) (answers : Answers w q r s t)
    (h : Tells w.state rs) : Tells s (p.held?.toList ++ rs) := by
  cases may with
  | @record result =>
    cases answers
    exact h.record result
  | _ =>
    cases answers
    all_goals exact ⟨h.successes, h.failures, h.lastError⟩

theorem WorkMay.held? (may : WorkMay position scope p q) (answers : Answers w q r s t) :
    (p.after ⟨q, r⟩).held? = result? ⟨q, r⟩ := by
  cases may with
  | _ =>
    cases answers
    all_goals rfl

theorem WorkMay.isInside (may : WorkMay position scope p q) (answers : Answers w q r s t) :
    (p.after ⟨q, r⟩).isInside.toNat + p.isLeaving.toNat =
      p.isInside.toNat + p.isOutside.toNat := by
  cases may with
  | _ =>
    cases answers
    all_goals rfl

/-! ### The main loop and stops -/

/-- That two states have the same configuration and counts. -/
structure Alike (s s' : State) : Prop where
  config : s'.config = s.config
  active : s'.active = s.active
  successes : s'.successes = s.successes
  failures : s'.failures = s.failures
  lastError : s'.lastError = s.lastError

theorem Alike.refl (s : State) : Alike s s := ⟨rfl, rfl, rfl, rfl, rfl⟩

theorem Tells.of_alike {s' : State} (h : Tells s rs) (alike : Alike s s') : Tells s' rs where
  successes := alike.successes.trans h.successes
  failures := alike.failures.trans h.failures
  lastError := alike.lastError.trans h.lastError

theorem StartMay.alike {n : Stage} (may : StartMay config scope n q) (found : n ≠ .lost)
    (answers : Answers w q r s t) : Alike w.state s := by
  cases may with
  | lost => exact absurd rfl found
  | _ =>
    cases answers
    all_goals exact ⟨rfl, rfl, rfl, rfl, rfl⟩

theorem StopMay.alike (may : StopMay q) (answers : Answers w q r s t) :
    Alike w.state s ∧ (w.state.health = .stopped → s.health = .stopped) := by
  cases may with
  | finish =>
    cases answers
    exact ⟨⟨rfl, rfl, rfl, rfl, rfl⟩, fun _ => rfl⟩
  | _ =>
    cases answers
    all_goals exact ⟨⟨rfl, rfl, rfl, rfl, rfl⟩, id⟩

theorem StartMay.found {n : Stage} (may : StartMay config scope n q) (found : n ≠ .lost)
    (answers : Answers w q r s t) (configured : w.state.config = some config) :
    n.after config ⟨q, r⟩ ≠ .lost := by
  cases may with
  | look =>
    cases answers
    change (if w.state.config = some config then Stage.branching else .lost) ≠ .lost
    rw [if_pos configured]
    exact Stage.noConfusion
  | @keep own =>
    cases answers
    change (if config.startDelay = 0 then Stage.ready own else .pausing own) ≠ .lost
    split <;> exact Stage.noConfusion
  | begin busy =>
    cases answers
    rw [Stage.after, if_neg (by simp [busy])]
    exact Stage.noConfusion
  | skip empty =>
    cases answers
    rw [Stage.after, if_pos empty]
    exact Stage.noConfusion
  | lost => exact absurd rfl found
  | _ =>
    cases answers
    all_goals exact Stage.noConfusion

/-- The last thing that the main loop does is to record that it has stopped. -/
theorem StartMay.stopped {n : Stage} (may : StartMay config scope n q)
    (answers : Answers w q r s t) (finished : n.after config ⟨q, r⟩ = .finished) :
    s.health = .stopped := by
  cases may with
  | look =>
    cases answers
    change (if w.state.config = some config then Stage.branching else .lost) = .finished at finished
    split at finished <;> cases finished
  | @keep own =>
    cases answers
    change (if config.startDelay = 0 then Stage.ready own else .pausing own) = .finished at finished
    split at finished <;> cases finished
  | begin busy =>
    cases answers
    rw [Stage.after, if_neg (by simp [busy])] at finished
    cases finished
  | skip =>
    cases answers
    rfl
  | finish =>
    cases answers
    rfl
  | _ =>
    cases answers
    all_goals cases finished

theorem StartMay.employing {own : Scope} {k : Nat}
    (may : StartMay config scope (.employing own k) q) (answers : Answers w q r s t)
    (busy : ∃ v ∈ w.workers, v.scope = own) :
    ∃ k', (Stage.employing own k).after config ⟨q, r⟩ = .employing own k' := by
  cases may with
  | employ lt =>
    cases answers
    exact ⟨_, rfl⟩
  | settle =>
    obtain ⟨v, hv, heq⟩ := busy
    cases answers with
    | cancelled mem => cases List.mem_singleton.1 mem
    | due mem => cases List.mem_singleton.1 mem
    | idle mem come =>
      cases List.mem_singleton.1 mem
      exact absurd heq (come v hv)

end Question

/-! ### One event -/

theorem mem_of_replaced {α : Type} {l₁ l₂ : List α} {u v v' : α} (h : u ∈ l₁ ++ v' :: l₂) :
    u = v' ∨ u ∈ l₁ ++ v :: l₂ := by
  simp only [List.mem_append, List.mem_cons] at h ⊢
  tauto

theorem StartMay.employed {n : Stage} {q : PluginAsk State} (may : StartMay config scope n q)
    (found : n ≠ .lost) {r : q.Reply} {v : Worker} (hv : v ∈ employed q) :
    v.Sound config ∧ ∃ k, n.after config ⟨q, r⟩ = .employing v.scope k := by
  cases may with
  | employ lt =>
    obtain rfl := List.mem_singleton.1 hv
    exact ⟨⟨lt, nofun, keeps_work⟩, _, rfl⟩
  | lost => exact absurd rfl found
  | _ => cases hv

theorem WorkMay.employed {position : Nat} {p : Place} {q : PluginAsk State}
    (may : WorkMay position scope p q) : employed q = [] := by
  cases may <;> rfl

theorem StopMay.employed {q : PluginAsk State} (may : StopMay q) : employed q = [] := by
  cases may <;> rfl

/-- A worker keeps to its plan. -/
theorem Worker.Sound.answer {v : Worker} (sound : v.Sound config) {q : PluginAsk State}
    {next : q.Reply → Working State Bool} {r : q.Reply} {s : State} {t : Scopes}
    (asks : v.remaining = Activity.ask q next) (answers : Answers w q r s t)
    (configured : w.state.config = some config) : (v.answer ⟨q, r⟩ (next r)).Sound config := by
  have works := sound.works
  rw [asks] at works
  refine ⟨sound.position, fun c hc => ?_, works.2 r⟩
  have may : WorkMay v.position v.scope v.place q := works.1
  change v.place.after ⟨q, r⟩ = .probing c at hc
  generalize v.place = p at may hc
  cases may with
  | look =>
    cases answers
    cases hc
    exact configured
  | _ =>
    cases answers
    all_goals cases hc

namespace Sound

theorem of_workers (sound : Sound config scope w) {s : State} {t : Scopes} {workers : List Worker}
    (frame : s.config = w.state.config ∧ s.health = w.state.health)
    (h : ∀ u ∈ workers, u.Sound config ∧ ∃ v ∈ w.workers, u.scope = v.scope) :
    Sound config scope { w.withState s t with workers } where
  configured := frame.1.trans sound.configured
  main := sound.main
  found := sound.found
  workers u hu := (h u hu).1
  employed u hu := by
    obtain ⟨-, v, hv, heq⟩ := h u hu
    rw [heq]
    exact sound.employed v hv
  stops := sound.stops
  stopped finished := frame.2.trans (sound.stopped finished)

theorem begin {s : State} {scopes : Scopes} (configured : s.config = some config) :
    Sound config scope (.begin s scope scopes) where
  configured := configured
  main := keeps_start
  found := nofun
  workers := nofun
  employed := nofun
  stops := nofun
  stopped := nofun

/-- **The parts belong together after every event.** -/
theorem step (sound : Sound config scope w) (step : Step w e w') : Sound config scope w' := by
  cases step with
  | @started q next r s t asks answers =>
    have main := sound.main
    rw [asks] at main
    obtain ⟨may, rest⟩ := main
    have may : StartMay config scope (stage config w.asked) q := may
    refine ⟨(may.alike sound.found answers).config.trans sound.configured, rest r,
      may.found sound.found answers sound.configured, fun v hv => ?_, fun v hv => ?_, sound.stops,
      may.stopped answers⟩
    · rcases List.mem_append.1 hv with hv | hv
      · exact sound.workers v hv
      · exact (may.employed sound.found (r := r) hv).1
    · rcases List.mem_append.1 hv with hv | hv
      · obtain ⟨k, hk⟩ := sound.employed v hv
        change ∃ n, (stage config w.asked).after config _ = _
        rw [hk] at may ⊢
        exact may.employing answers ⟨v, hv, rfl⟩
      · exact (may.employed sound.found hv).2
  | @worked l₁ l₂ v q next r s t mem asks answers =>
    have hv : v ∈ w.workers := mem ▸ List.mem_append_right _ List.mem_cons_self
    have works := (sound.workers v hv).works
    rw [asks] at works
    have may : WorkMay v.position v.scope v.place q := works.1
    rw [may.employed, List.append_nil]
    refine sound.of_workers (may.frame answers) fun u hu => ?_
    rcases mem_of_replaced (v := v) hu with rfl | hu
    · exact ⟨(sound.workers v hv).answer asks answers sound.configured, v, hv, rfl⟩
    · rw [← mem] at hu
      exact ⟨sound.workers u hu, u, hu, rfl⟩
  | @wentOn l₁ l₂ v mem goes =>
    have hv : v ∈ w.workers := mem ▸ List.mem_append_right _ List.mem_cons_self
    refine sound.of_workers ⟨rfl, rfl⟩ fun u hu => ?_
    rcases mem_of_replaced (v := v) hu with rfl | hu
    · exact ⟨⟨(sound.workers v hv).position, nofun, keeps_work⟩, v, hv, rfl⟩
    · rw [← mem] at hu
      exact ⟨sound.workers u hu, u, hu, rfl⟩
  | @ended l₁ l₂ v mem ends =>
    refine sound.of_workers ⟨rfl, rfl⟩ fun u hu => ?_
    have hu : u ∈ w.workers := by
      rw [mem]
      exact List.Sublist.mem hu (.append_left (List.sublist_cons_self v l₂) l₁)
    exact ⟨sound.workers u hu, u, hu, rfl⟩
  | called =>
    exact { sound with stops := List.forall_mem_cons.2 ⟨asks_stop, sound.stops⟩ }
  | @stopped l₁ l₂ q next r s t mem answers =>
    have stops := sound.stops
    rw [mem, List.forall_mem_append, List.forall_mem_cons] at stops
    obtain ⟨before, ⟨may, rest⟩, after⟩ := stops
    obtain ⟨alike, halted⟩ := may.alike answers
    rw [StopMay.employed may, List.append_nil]
    exact {
      configured := alike.config.trans sound.configured
      main := sound.main
      found := sound.found
      workers := sound.workers
      employed := sound.employed
      stops := List.forall_mem_append.2 ⟨before, List.forall_mem_cons.2 ⟨rest r, after⟩⟩
      stopped := fun finished => halted (sound.stopped finished) }
  | cancelled => exact { sound with }
  | branched => exact { sound with }

end Sound

/-! ### The counts -/

theorem countP_cons_eq {α : Type} {f : α → Bool} {x : α} {xs : List α} :
    (x :: xs).countP f = xs.countP f + (f x).toNat := by
  rw [List.countP_cons]
  cases f x <;> rfl

theorem countP_replaced {α : Type} {f : α → Bool} {l₁ l₂ : List α} {v : α} :
    (l₁ ++ v :: l₂).countP f = l₁.countP f + l₂.countP f + (f v).toNat := by
  rw [List.countP_append, countP_cons_eq, Nat.add_assoc]

theorem filterMap_cons_eq {α β : Type} {f : α → Option β} {x : α} {xs : List α} :
    (x :: xs).filterMap f = (f x).toList ++ xs.filterMap f := by
  rw [List.filterMap_cons]
  cases f x <;> rfl

theorem filterMap_replaced {α β : Type} {f : α → Option β} {l₁ l₂ : List α} {v : α} :
    (l₁ ++ v :: l₂).filterMap f =
      l₁.filterMap f ++ ((f v).toList ++ l₂.filterMap f) := by
  rw [List.filterMap_append, filterMap_cons_eq]

theorem perm_exchange {α : Type} {xs rs first last held held' : List α}
    (h : xs.Perm (rs ++ (first ++ (held ++ last)))) :
    (held' ++ xs).Perm ((held ++ rs) ++ (first ++ (held' ++ last))) := by
  classical
  rw [List.perm_iff_count] at h ⊢
  intro a
  have same := h a
  simp only [List.count_append] at same ⊢
  omega

/-- What the counts of the state are. -/
structure Counted (es : List Event) (w : World) : Prop where
  active : w.state.active = w.workers.countP fun v => v.place.isInside
  balance : es.countP Event.enters = es.countP Event.leaves + w.state.active
  tells : Tells w.state (recorded es)
  /-- What rounds came to is recorded, or about to be. -/
  perm : (results es).Perm (recorded es ++ w.held)

namespace Counted

theorem begin {s : State} {scopes : Scopes} (idle : s.active = 0) (tells : Tells s []) :
    Counted [] (.begin s scope scopes) where
  active := idle
  balance := by simp [World.begin, idle]
  tells := tells
  perm := .refl _

theorem countP_employed {workers : List Worker} {q : PluginAsk State} :
    (workers ++ employed q).countP (fun v => v.place.isInside) =
      workers.countP fun v => v.place.isInside := by
  cases q with
  | spawn => simp [employed, Worker.new, Worker.place, place, Place.isInside]
  | _ => simp [employed]

theorem held_employed {workers : List Worker} {q : PluginAsk State} :
    (workers ++ employed q).filterMap (fun v => v.place.held?) =
      workers.filterMap fun v => v.place.held? := by
  cases q with
  | spawn => simp [employed, Worker.new, Worker.place, place, Place.held?]
  | _ => simp [employed]

theorem of_alike (h : Counted es w) (others : e.isWorked = false)
    (alike : Alike w.state w'.state)
    (inside : w'.workers.countP (fun v => v.place.isInside) =
      w.workers.countP fun v => v.place.isInside)
    (held : w'.held = w.held) : Counted (e :: es) w' := by
  have silent : e.round? = none ∧ e.recorded? = none ∧ e.enters = false ∧ e.leaves = false := by
    cases e with
    | worked => cases others
    | _ => exact ⟨rfl, rfl, rfl, rfl⟩
  obtain ⟨idle, unrecorded, enters, leaves⟩ := silent
  refine ⟨?_, ?_, ?_, ?_⟩
  · rw [alike.active, h.active, inside]
  · rw [List.countP_cons_of_neg (by simp [enters]), List.countP_cons_of_neg (by simp [leaves]),
      alike.active, h.balance]
  · rw [recorded, List.filterMap_cons_none unrecorded]
    exact h.tells.of_alike alike
  · rw [results, rounds, List.filterMap_cons_none idle, recorded,
      List.filterMap_cons_none unrecorded, held]
    exact h.perm

theorem results_cons :
    results (e :: es) = (e.round?.bind id).toList ++ results es := by
  rw [results, rounds, filterMap_cons_eq, List.filterMap_append]
  cases e.round? with
  | none => rfl
  | some end? => cases end? <;> rfl

/-- **A worker counts as its plan says.** -/
theorem worked (h : Counted es w) {l₁ l₂ : List Worker} {v : Worker} {q : PluginAsk State}
    {r : q.Reply} {s : State} {t : Scopes} {x : Working State Bool}
    (mem : w.workers = l₁ ++ v :: l₂) (may : WorkMay v.position v.scope v.place q)
    (answers : Answers w q r s t) :
    Counted (.worked v ⟨q, r⟩ :: es)
      { w.withState s t with workers := l₁ ++ v.answer ⟨q, r⟩ x :: l₂ } := by
  have active := h.active
  rw [mem, countP_replaced] at active
  have active' := may.active answers active
  have inside := may.isInside answers
  refine ⟨?_, ?_, ?_, ?_⟩
  · change s.active = (l₁ ++ v.answer ⟨q, r⟩ x :: l₂).countP fun v => v.place.isInside
    rw [countP_replaced]
    exact active'
  · have balance := h.balance
    have enters : (Event.worked v ⟨q, r⟩).enters = v.place.isOutside := rfl
    have leaves : (Event.worked v ⟨q, r⟩).leaves = v.place.isLeaving := rfl
    change _ = _ + s.active
    rw [countP_cons_eq, countP_cons_eq, enters, leaves]
    omega
  · rw [recorded, filterMap_cons_eq]
    exact may.tells answers h.tells
  · have round : (Event.worked v ⟨q, r⟩).round?.bind id = (v.place.after ⟨q, r⟩).held? := by
      rw [may.held? answers]
      cases q <;> rfl
    have results := h.perm
    rw [World.held, mem, filterMap_replaced] at results
    rw [results_cons, round, recorded, filterMap_cons_eq, World.held, filterMap_replaced]
    exact perm_exchange results

/-- **The counts are right after every event.** -/
theorem step (h : Counted es w) (sound : Sound config scope w) (step : Step w e w') :
    Counted (e :: es) w' := by
  cases step with
  | @started q next r s t asks answers =>
    have main := sound.main
    rw [asks] at main
    have may : StartMay config scope (stage config w.asked) q := main.1
    exact h.of_alike rfl (may.alike sound.found answers) countP_employed held_employed
  | @worked l₁ l₂ v q next r s t mem asks answers =>
    have hv : v ∈ w.workers := mem ▸ List.mem_append_right _ List.mem_cons_self
    have works := (sound.workers v hv).works
    rw [asks] at works
    have may : WorkMay v.position v.scope v.place q := works.1
    rw [may.employed, List.append_nil]
    exact h.worked mem may answers
  | @wentOn l₁ l₂ v mem goes =>
    have hv : v ∈ w.workers := mem ▸ List.mem_append_right _ List.mem_cons_self
    have works := (sound.workers v hv).works
    rw [goes] at works
    have ends : WorkEnds v.position v.place true := works
    -- it was inside and held nothing, and so it is now
    have same : v.again.place.isInside = v.place.isInside ∧
        v.again.place.held? = v.place.held? := by
      generalize v.place = p at ends
      cases ends <;> exact ⟨rfl, rfl⟩
    refine h.of_alike rfl (.refl _) ?_ ?_
    · rw [mem, countP_replaced, countP_replaced, same.1]
    · rw [World.held, World.held, mem, filterMap_replaced, filterMap_replaced, same.2]
  | @ended l₁ l₂ v mem ends =>
    have hv : v ∈ w.workers := mem ▸ List.mem_append_right _ List.mem_cons_self
    have works := (sound.workers v hv).works
    rw [ends] at works
    have ends : WorkEnds v.position v.place false := works
    -- it has left, as its endpoint was there
    have gone : v.place.isInside = false ∧ v.place.held? = none := by
      have configured := (sound.workers v hv).configured
      have position := (sound.workers v hv).position
      generalize v.place = p at ends configured
      cases ends with
      | left => exact ⟨rfl, rfl⟩
      | @lost c lost =>
        have absent := lost config (configured c rfl)
        rw [List.getElem?_eq_none_iff] at absent
        omega
    refine h.of_alike rfl (.refl _) ?_ ?_
    · rw [mem, countP_replaced, gone.1, List.countP_append]
      rfl
    · rw [World.held, World.held, mem, filterMap_replaced, gone.2, List.filterMap_append]
      rfl
  | called => exact h.of_alike rfl (.refl _) rfl rfl
  | @stopped l₁ l₂ q next r s t mem answers =>
    have stops := sound.stops
    rw [mem, List.forall_mem_append, List.forall_mem_cons] at stops
    have may : StopMay q := stops.2.1.1
    exact h.of_alike rfl (may.alike answers).1 countP_employed held_employed
  | cancelled => exact h.of_alike rfl (.refl _) rfl rfl
  | branched => exact h.of_alike rfl (.refl _) rfl rfl

end Counted

/-! ### Whole runs -/

/-- That no worker is left once the main loop has returned, and everything is counted. -/
structure Returned (es : List Event) (w : World) : Prop where
  /-- All workers have ended. -/
  ended : w.workers = []
  idle : w.state.active = 0
  stopped : w.state.health = .stopped
  status : w.state.status.running = false ∧ w.state.status.health = "Stopped"
  successes : (results es).countP Except.isOk = w.state.successes
  failures : ((results es).countP fun result => !result.isOk) = w.state.failures

/-- What a run of the plugin has counted. -/
structure Tally (es : List Event) (w : World) : Prop where
  /-- The rounds that succeeded are those that the state counts, and those that are about to be
  recorded. -/
  successes : (results es).countP Except.isOk = w.state.successes + w.held.countP Except.isOk
  /-- So are those that failed. -/
  failures : ((results es).countP fun result => !result.isOk) =
    w.state.failures + w.held.countP fun result => !result.isOk
  /-- A round that was cut off is counted nowhere. -/
  cut_off : (rounds es).length =
    w.state.successes + w.state.failures + w.held.length + (rounds es).countP Option.isNone
  /-- The active workers are those that have entered and not left. -/
  active : w.state.active = w.workers.countP fun v => v.place.isInside
  /-- No more workers have left than have entered. -/
  balance : es.countP Event.enters = es.countP Event.leaves + w.state.active
  /-- The last error is that of the failed round that was recorded last. -/
  last_error : w.state.lastError = (recorded es).findSome? reason?
  /-- The main loop returns without an error, and only when all is over. -/
  returned : ∀ {result}, w.main = .done result → result = .ok () ∧ Returned es w

theorem Trace.sound (t : Trace w₀ es w) (sound : Sound config scope w₀) : Sound config scope w := by
  induction t with
  | nil => exact sound
  | cons before step ih => exact ih.step step

theorem Trace.counted (t : Trace w₀ es w) (sound : Sound config scope w₀)
    (counted : Counted [] w₀) : Counted es w := by
  induction t with
  | nil => exact counted
  | cons before step ih => exact ih.step (before.sound sound) step

theorem eq_of_init {s : State} (ready : State.new.init config = .ok s) :
    s = { State.new with config := some config } := by
  unfold State.init at ready
  split at ready
  · cases ready
  · exact (Except.ok.inj ready).symm

theorem length_eq_countP_add {α : Type} {f : α → Bool} {xs : List α} :
    xs.length = xs.countP f + xs.countP fun x => !f x := by
  rw [List.length_eq_countP_add_countP f]
  simp

theorem length_rounds :
    (rounds es).length = (results es).length + (rounds es).countP Option.isNone := by
  unfold results
  induction rounds es with
  | nil => rfl
  | cons x xs ih =>
    rw [filterMap_cons_eq, countP_cons_eq, List.length_cons, ih, List.length_append]
    cases x <;> simp <;> omega

theorem Counted.successes (h : Counted es w) :
    (results es).countP Except.isOk = w.state.successes + w.held.countP Except.isOk := by
  rw [h.perm.countP_eq, List.countP_append, h.tells.successes]

theorem Counted.failures (h : Counted es w) :
    ((results es).countP fun result => !result.isOk) =
      w.state.failures + w.held.countP fun result => !result.isOk := by
  rw [h.perm.countP_eq, List.countP_append, h.tells.failures]

/-- When the main loop has returned, all workers have ended. -/
theorem Sound.returned (sound : Sound config scope w) (counted : Counted es w)
    {result : Except PluginError Unit} (done : w.main = .done result) :
    result = .ok () ∧ Returned es w := by
  have main := sound.main
  rw [done] at main
  have ends : StartEnds (stage config w.asked) result := main
  generalize hstage : stage config w.asked = n at ends
  cases ends with
  | lost => exact absurd hstage sound.found
  | finished =>
    have ended : w.workers = [] := by
      refine List.eq_nil_iff_forall_not_mem.2 fun v hv => ?_
      obtain ⟨k, hk⟩ := sound.employed v hv
      cases hstage.symm.trans hk
    have none : w.held = [] := by rw [World.held, ended, List.filterMap_nil]
    have stopped := sound.stopped hstage
    refine ⟨rfl, ended, by rw [counted.active, ended, List.countP_nil], stopped, ?_, ?_, ?_⟩
    · simp [State.status, stopped, Health.render]
    · rw [counted.successes, none, List.countP_nil, Nat.add_zero]
    · rw [counted.failures, none, List.countP_nil, Nat.add_zero]

/-- **The plugin counts right**, whatever rounds come to, in whatever order the workers take their
turns, and whenever a scope is cancelled or the plugin is stopped. -/
theorem Trace.tally {s : State} {scopes : Scopes} (ready : State.new.init config = .ok s)
    (t : Trace (.begin s scope scopes) es w) : Tally es w := by
  obtain rfl := eq_of_init ready
  have sound : Sound config scope (.begin { State.new with config := some config } scope scopes) :=
    .begin rfl
  have counted := t.counted sound (.begin rfl ⟨rfl, rfl, rfl⟩)
  exact {
    successes := counted.successes
    failures := counted.failures
    cut_off := by
      have successes := counted.successes
      have failures := counted.failures
      rw [length_rounds, @length_eq_countP_add _ Except.isOk (results es),
        @length_eq_countP_add _ Except.isOk w.held]
      omega
    active := counted.active
    balance := counted.balance
    last_error := counted.tells.lastError
    returned := (t.sound sound).returned counted }

/-- A configuration with two endpoints, which are probed at once and again after a second. -/
def playersAndLoad : Config where
  startDelay := 0
  interval := 1
  endpoints := [
    { url := "http://a", method := "", headers := [], timeout := 0, expectedStatus := 0
      storage := .gauge { metricName := "players" }, path := none },
    { url := "http://b", method := "", headers := [], timeout := 0, expectedStatus := 0
      storage := .gauge { metricName := "load" }, path := none }]

/-- One worker has a round that succeeds and one that fails; the other one is still in its first
when the plugin is stopped. -/
theorem tally_cut_off : ∃ es w, Tally es w ∧ w.main = .done (.ok ()) ∧ (rounds es).length = 3 ∧
    w.state.successes = 1 ∧ w.state.failures = 1 := by
  have ready : State.new.init playersAndLoad =
    .ok { State.new with config := some playersAndLoad } := rfl
  have t : Trace (.begin { State.new with config := some playersAndLoad } [0] .empty) [] _ := .nil
  have t := (((t.cons (.started rfl .update)).cons (.started rfl .child)).cons
    (.started rfl .update)).cons (.started rfl .update)
  have t := (t.cons (.started rfl .spawn)).cons (.started rfl .spawn)
  -- the first worker enters, and its first round succeeds
  have t := t.cons (.worked (rfl : _ = [] ++ _ :: [_]) rfl .update)
  have t := t.cons (.wentOn (rfl : _ = [] ++ _ :: [_]) rfl)
  have t := t.cons (.worked (rfl : _ = [] ++ _ :: [_]) rfl .update)
  have t := t.cons (.worked (rfl : _ = [] ++ _ :: [_]) rfl (@Answers.probed _ _ _ (.ok ())))
  -- the second one enters and begins a round
  have t := t.cons (.worked (rfl : _ = [_] ++ _ :: []) rfl .update)
  have t := t.cons (.wentOn (rfl : _ = [_] ++ _ :: []) rfl)
  have t := t.cons (.worked (rfl : _ = [_] ++ _ :: []) rfl .update)
  -- the first one records, waits, and fails in its next round
  have t := t.cons (.worked (rfl : _ = [] ++ _ :: [_]) rfl .update)
  have t := t.cons (.worked (rfl : _ = [] ++ _ :: [_]) rfl (@Answers.timer _ _ 0))
  have t := t.cons (.worked (rfl : _ = [] ++ _ :: [_]) rfl (.due (.tail _ (.head _))))
  have t := t.cons (.wentOn (rfl : _ = [] ++ _ :: [_]) rfl)
  have t := t.cons (.worked (rfl : _ = [] ++ _ :: [_]) rfl .update)
  have t := t.cons (.worked (rfl : _ = [] ++ _ :: [_]) rfl (@Answers.probed _ _ _ (.error .request)))
  have t := t.cons (.worked (rfl : _ = [] ++ _ :: [_]) rfl .update)
  have t := t.cons (.worked (rfl : _ = [] ++ _ :: [_]) rfl (@Answers.timer _ _ 0))
  -- the plugin is stopped
  have t := t.cons .called
  have t := t.cons (.stopped (rfl : _ = [] ++ _ :: []) .update)
  have t := t.cons (.stopped (rfl : _ = [] ++ _ :: []) .cancel)
  have t := t.cons (.stopped (rfl : _ = [] ++ _ :: []) .update)
  have t := t.cons (.worked (rfl : _ = [] ++ _ :: [_]) rfl (.cancelled List.mem_cons_self rfl))
  have t := t.cons (.worked (rfl : _ = [] ++ _ :: [_]) rfl .update)
  have t := t.cons (.ended (rfl : _ = [] ++ _ :: [_]) rfl)
  have t := t.cons (.worked (rfl : _ = [] ++ _ :: []) rfl (.cut rfl))
  have t := t.cons (.worked (rfl : _ = [] ++ _ :: []) rfl .update)
  have t := t.cons (.ended (rfl : _ = [] ++ _ :: []) rfl)
  have t := t.cons (.started rfl (.idle List.mem_cons_self nofun))
  have t := t.cons (.started rfl .update)
  exact ⟨_, _, t.tally ready, rfl, rfl, rfl, rfl⟩

end Sidecar.Probe

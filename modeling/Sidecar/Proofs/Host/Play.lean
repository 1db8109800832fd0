import Sidecar.Proofs.Host.World

/-!
# Playing a trace

A trace is made by saying whose turn it is, given what the surroundings answer: `Host.play` computes
the events and the world that some turns lead to, and `Host.trace_play` that they are possible.
-/

namespace Sidecar.Host

/-- What the surroundings answer, whenever they are asked; every configuration is bound. -/
structure Surroundings where
  init : Except PluginError Unit
  start : Except PluginError Unit
  stop : Option (Except PluginError Unit)
  status : Except PluginError PluginStatus

/-- Surroundings in which every plugin fails with an error once it runs. -/
def Surroundings.failing (why : PluginError) (name : String) : Surroundings where
  init := .ok ()
  start := .error why
  stop := some (.ok ())
  status := .ok (.new name "1.0.0")

/-- A configuration with one plugin. -/
def onePlugin (name : String) : Config where
  plugins := [{ name, bootOrder := 0, config := .object [] }]
  restartPolicy := .always
  resources := []
  startOrder := .after
  host := .default

/-- Whose turn it is. -/
inductive Turn where
  /-- A call is made. -/
  | call (c : HostCall)
  /-- It is the turn of a call that was made. -/
  | go (j : Nat)

variable {config : Config} {s : Surroundings} {es es' : List Event} {w w' : World} {e : Event}

/-- The answer to a question, and the records afterwards. -/
def Surroundings.answer? (s : Surroundings) (h : Host) : (q : HostAsk) → Option (q.Reply × Host)
  | .bind .. => some (.ok (), h)
  | .init .. => some (s.init, h)
  | .start .. => some (s.start, h)
  | .stop .. => some (s.stop, h)
  | .status _ => some (s.status, h)
  | .spawn _ => some ((), h)
  | .timer _ => some ((0 : Nat), h)
  | .await signals => (signals.find? h.mayBring).map (·, h)
  | q => h.answer? q

theorem Surroundings.answers {h h' : Host} {q : HostAsk} {r : q.Reply}
    (found : s.answer? h q = some (r, h')) : h.Answers q r h' := by
  cases q with
  | bind | init | start | stop | status | spawn | timer =>
    cases found
    exact .surroundings rfl
  | await signals =>
    obtain ⟨signal, hs, heq⟩ := Option.map_eq_some_iff.1 found
    cases heq
    exact .signal (List.mem_of_find?_eq_some hs) (List.find?_some hs)
  | _ => exact .records found

instance {c : HostCall} : Decidable (w.Accepts c) :=
  inferInstanceAs (Decidable (_ ∧ _))

/-- The event of a turn, and the world afterwards. -/
def World.turn (config : Config) (s : Surroundings) (w : World) : Turn → Option (Event × World)
  | .call c => if w.Accepts c then some (.called w.next c, w.begin config c) else none
  | .go j =>
    match w.jobs j with
    | some ⟨c, Activity.ask q next⟩ =>
      match s.answer? w.host q with
      | some (r, h) =>
        some (.asked j c ⟨q, r⟩,
          ((w.withHost h).set j (some ⟨c, next r⟩)).start config q.task?)
      | none => none
    | some ⟨c, .done result⟩ =>
      some (.ended j c result, (w.set j none).start config (c.next? result))
    | none => none

theorem step_turn {turn : Turn} (h : w.turn config s turn = some (e, w')) :
    Step config w e w' := by
  cases turn with
  | call c =>
    simp only [World.turn] at h
    split_ifs at h with accepts
    cases h
    exact .called accepts
  | go j =>
    simp only [World.turn] at h
    split at h
    next c q next doing =>
      split at h
      next r host found =>
        cases h
        exact .asked doing (Surroundings.answers found)
      next => cases h
    next c result doing =>
      cases h
      exact .ended doing
    next => cases h

/-- The events and the world after some turns. -/
def play (config : Config) (s : Surroundings) :
    List Turn → List Event × World → Option (List Event × World)
  | [], p => some p
  | turn :: turns, (es, w) =>
    match w.turn config s turn with
    | some (e, w) => play config s turns (e :: es, w)
    | none => none

/-- **What is played is possible.** -/
theorem trace_play {turns : List Turn} (t : Trace config es w)
    (h : play config s turns (es, w) = some (es', w')) : Trace config es' w' := by
  induction turns generalizing es w with
  | nil =>
    cases h
    exact t
  | cons turn turns ih =>
    simp only [play] at h
    split at h
    next e w₁ hturn => exact ih (.cons t (step_turn hturn)) h
    next => cases h

/-- The failure with which a run of the host has ended. -/
def Event.failedRun? : Event → Option (Nat × Failure)
  | .ended j .run (.error (.pluginFailed plugin why)) => some (j, { plugin, why })
  | _ => none

theorem eq_ended_of_failedRun? {j : Nat} {plugin : String} {why : PluginError}
    (h : e.failedRun? = some (j, ⟨plugin, why⟩)) :
    e = .ended j .run (.error (.pluginFailed plugin why)) := by
  unfold Event.failedRun? at h
  split at h
  · cases h
    rfl
  · cases h

/-- The error that a main loop returns to the task of the run with an event. -/
def Event.startError? : Event → Option (Nat × HostTask × PluginError)
  | .asked j (.task (.run name plugin scope)) ⟨.start plugin' scope', .error why⟩ =>
    if plugin' = plugin ∧ scope' = scope then some (j, .run name plugin scope, why) else none
  | _ => none

theorem eq_asked_of_startError? {j : Nat} {name : String} {plugin : PluginId} {scope : Scope}
    {why : PluginError} (h : e.startError? = some (j, .run name plugin scope, why)) :
    e = .asked j (.task (.run name plugin scope)) (.of (.start plugin scope) (.error why)) := by
  unfold Event.startError? at h
  split at h
  · split_ifs at h with same
    obtain ⟨rfl, rfl⟩ := same
    cases h
    rfl
  · cases h

/-- The name whose plugin has been removed with a call that ends. -/
def Event.removed? : Event → Option String
  | .ended _ (.remove name) (.ok ()) => some name
  | _ => none

theorem exists_of_removed? {name : String} (h : e.removed? = some name) :
    ∃ j, e = .ended j (.remove name) (.ok ()) := by
  unfold Event.removed? at h
  split at h
  · cases h
    exact ⟨_, rfl⟩
  · cases h

/-- The shutdown to which an event signals that all tasks have ended, and the signals that it has
waited for. -/
def Event.settled? : Event → Option (Nat × List Signal)
  | .asked j .shutDown ⟨.await signals, .settled⟩ => some (j, signals)
  | _ => none

theorem eq_asked_of_settled? {j : Nat} {signals : List Signal}
    (h : e.settled? = some (j, signals)) :
    e = .asked j .shutDown (.of (.await signals) .settled) := by
  unfold Event.settled? at h
  split at h
  · cases h
    rfl
  · cases h

theorem eq_take_append {n : Nat} (h : es[n]? = some e) : es = es.take n ++ e :: es.drop (n + 1) := by
  obtain ⟨hn, rfl⟩ := List.getElem?_eq_some_iff.1 h
  rw [← List.drop_eq_getElem_cons hn, List.take_append_drop]

/-- The call that is worked on, and the operation on the registry that comes next. -/
def World.about (w : World) (j : Nat) : Option (HostCall × Option Registry.Op) :=
  (w.jobs j).map fun job =>
    (job.call, match job.remaining with
      | Activity.ask q _ => HostAsk.op? q
      | .done _ => none)

/-- The tasks that are at work. -/
def World.tasks (w : World) : List HostTask :=
  (List.range w.next).filterMap fun j => (w.jobs j).bind fun job =>
    match job.call with
    | .task t => some t
    | _ => none

theorem mem_tasks {j : Nat} {t : HostTask} {x : Hosting (Option HostTask)} (fresh : w.Fresh)
    (doing : w.jobs j = some ⟨.task t, x⟩) : t ∈ w.tasks := by
  refine List.mem_filterMap.2 ⟨j, List.mem_range.2 (fresh.lt doing), ?_⟩
  rw [doing]
  rfl

theorem exists_step_of_about {j : Nat} {c : HostCall} {op : Registry.Op}
    (h : w.about j = some (c, some op)) :
    ∃ r w', Step config w (.asked j c ⟨.ofOp op, r⟩) w' := by
  obtain ⟨⟨c', remaining⟩, doing, heq⟩ := Option.map_eq_some_iff.1 h
  cases remaining with
  | done => cases heq
  | ask q next =>
    obtain ⟨rfl, hop⟩ := Prod.mk.inj heq
    obtain rfl := HostAsk.eq_ofOp hop
    cases op <;> exact ⟨_, _, .asked doing (.records rfl)⟩

end Sidecar.Host

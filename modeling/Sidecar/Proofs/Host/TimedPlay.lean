import Sidecar.Proofs.Host.Clock
import Sidecar.Proofs.Host.Play

/-!
# Playing a trace in time

`Host.playTimed` computes the events with their times, and the world and the time, that some moves
lead to; `Host.Moment.From.play` says that they are possible.
-/

namespace Sidecar.Host

instance (h : Host) (later : Nat) : (s : Signal) → Decidable (h.Lacks later s)
  | .due time => inferInstanceAs (Decidable (later ≤ Clock.fires time))
  | .cancelled scope => inferInstanceAs (Decidable (h.isCancelled scope = false))
  | .failure => inferInstanceAs (Decidable (h.failures.waiting = []))
  | .settled | .idle _ | .interrupt => inferInstanceAs (Decidable True)

instance (h : Host) (later : Nat) : (q : HostAsk) → Decidable (q.Rests h later)
  | .init .. | .start .. | .stop .. | .listen _ => inferInstanceAs (Decidable True)
  | .beginTaking => inferInstanceAs (Decidable (h.taking = true))
  | .await signals => inferInstanceAs (Decidable (∀ s ∈ signals, h.Lacks later s))
  | .names | .lookup _ | .insert .. | .remove _ | .beginRun _ | .endRun .. | .markStopped ..
  | .cachedStatus _ | .storeStatus .. | .report .. | .takeFailure | .endTaking | .cancel _
  | .bind .. | .status _ | .spawn _ | .timer _ => inferInstanceAs (Decidable False)

instance (h : Host) (later : Nat) : (job : Job) → Decidable (job.Rests h later)
  | ⟨_, .done _⟩ => inferInstanceAs (Decidable False)
  | ⟨_, Activity.ask q _⟩ => inferInstanceAs (Decidable (HostAsk.Rests h later q))

/-- What is done next. -/
inductive Move where
  /-- A call is made, or it is the turn of one. -/
  | turn (turn : Turn)
  /-- It is the turn of a call, and plugins fail. -/
  | fail (j : Nat) (why : PluginError)
  /-- The clock moves to a time. -/
  | pass (later : Nat)

/-- Some turns of one call. -/
def goes (j n : Nat) : List Move := List.replicate n (.turn (.go j))

/-- What has come about. -/
structure Moment where
  log : List (Nat × Event)
  world : World
  now : Nat

/-- Whether a signal has come by a time. -/
def come (h : Host) (now : Nat) : Signal → Bool
  | .due time => decide (Clock.fires time ≤ now)
  | s => h.mayBring s

/-- The answer to a question at a time, and the records afterwards.  The names are listed only where
they were registered in the order of starts, the last one first. -/
def Surroundings.answerAt? (s : Surroundings) (h : Host) (now : Nat) :
    (q : HostAsk) → Option (q.Reply × Host)
  | .timer span => some (Clock.deadline now span, h)
  | .await signals => (signals.find? (h.come now)).map (·, h)
  | .names =>
    if h.registry.entries.Pairwise fun a b => Registry.before a b = true then
      some (h.registry.entries.map Prod.fst, h)
    else none
  | q => s.answer? h q

variable {config : Config} {s : Surroundings} {w w' w₀ : World} {e : Event} {now start : Nat}

theorem Surroundings.answersAt {h h' : Host} {q : HostAsk} {r : q.Reply}
    (found : s.answerAt? h now q = some (r, h')) :
    h.Answers q r h' ∧ HostExchange.OnTime now ⟨q, r⟩ := by
  cases q with
  | timer span =>
    cases found
    exact ⟨.surroundings rfl, rfl⟩
  | await signals =>
    obtain ⟨signal, hs, heq⟩ := Option.map_eq_some_iff.1 found
    obtain ⟨rfl, rfl⟩ := Prod.mk.inj heq
    have has := List.find?_some hs
    refine ⟨.signal (List.mem_of_find?_eq_some hs) ?_, ?_⟩
    · cases signal <;> first | exact has | rfl
    · cases signal with
      | due time => exact of_decide_eq_true (p := Clock.fires time ≤ now) has
      | _ => trivial
  | names =>
    simp only [Surroundings.answerAt?] at found
    split_ifs at found with sorted
    cases found
    have names : h.registry.names = h.registry.entries.map Prod.fst :=
      congrArg (List.map Prod.fst) (List.mergeSort_of_pairwise sorted)
    exact ⟨.records (congrArg (fun l => some (l, h)) names), trivial⟩
  | _ => exact ⟨Surroundings.answers (s := s) found, trivial⟩

/-- The event of the turn of a call at a time, and the world afterwards. -/
def World.goAt (config : Config) (s : Surroundings) (w : World) (now j : Nat) :
    Option (Event × World) :=
  match w.jobs j with
  | some ⟨c, Activity.ask q next⟩ =>
    match s.answerAt? w.host now q with
    | some (r, h) =>
      some (.asked j c ⟨q, r⟩, ((w.withHost h).set j (some ⟨c, next r⟩)).start config q.task?)
    | none => none
  | some ⟨c, .done result⟩ => some (.ended j c result, (w.set j none).start config (c.next? result))
  | none => none

theorem step_goAt {j : Nat} (h : w.goAt config s now j = some (e, w')) :
    Step config w e w' ∧ e.OnTime now := by
  simp only [World.goAt] at h
  split at h
  next c q next doing =>
    split at h
    next r host found =>
      cases h
      obtain ⟨answers, onTime⟩ := Surroundings.answersAt found
      exact ⟨.asked doing answers, onTime⟩
    next => cases h
  next c result doing =>
    cases h
    exact ⟨.ended doing, trivial⟩
  next => cases h

/-- What has come about after a move. -/
def Moment.move (config : Config) (s : Surroundings) (m : Moment) : Move → Option Moment
  | .turn (.call c) =>
    if m.world.Accepts c then
      some ⟨(m.now, .called m.world.next c) :: m.log, m.world.begin config c, m.now⟩
    else none
  | .turn (.go j) =>
    (m.world.goAt config s m.now j).map fun (e, w) => ⟨(m.now, e) :: m.log, w, m.now⟩
  | .fail j why =>
    (m.world.goAt config { s with status := .error why } m.now j).map
      fun (e, w) => ⟨(m.now, e) :: m.log, w, m.now⟩
  | .pass later =>
    if m.now < later ∧ Span.perMilli ∣ later ∧
        ∀ j < m.world.next, ∀ job ∈ m.world.jobs j, job.Rests m.world.host later then
      some { m with now := later }
    else none

/-- What has come about after some moves. -/
def playTimed (config : Config) (s : Surroundings) (moves : List Move) (m : Moment) :
    Option Moment :=
  moves.foldlM (Moment.move config s) m

variable {m m' : Moment}

/-- Whether a moment can come about from a world and a time on. -/
structure Moment.From (config : Config) (w₀ : World) (start : Nat) (m : Moment) : Prop where
  elapses : Elapses config w₀ start m.log m.world m.now
  fresh : m.world.Fresh

namespace Moment.From

theorem happens (h : m.From config w₀ start) (step : Step config m.world e w)
    (onTime : e.OnTime m.now) : Moment.From config w₀ start ⟨(m.now, e) :: m.log, w, m.now⟩ :=
  ⟨.happens h.elapses step onTime, fresh_of_step h.fresh step⟩

theorem goes (h : m.From config w₀ start) {j : Nat}
    (goes : (m.world.goAt config s m.now j).map
      (fun p => (⟨(m.now, p.1) :: m.log, p.2, m.now⟩ : Moment)) = some m') :
    m'.From config w₀ start := by
  obtain ⟨⟨e, w⟩, hgo, rfl⟩ := Option.map_eq_some_iff.1 goes
  obtain ⟨step, onTime⟩ := step_goAt hgo
  exact h.happens step onTime

theorem move {move : Move} (h : m.From config w₀ start) (hmove : m.move config s move = some m') :
    m'.From config w₀ start := by
  cases move with
  | turn turn =>
    cases turn with
    | call c =>
      simp only [Moment.move] at hmove
      split_ifs at hmove with accepts
      cases hmove
      exact h.happens (.called accepts) trivial
    | go j => exact h.goes hmove
  | fail j why => exact h.goes hmove
  | pass later =>
    simp only [Moment.move] at hmove
    split_ifs at hmove with passes
    cases hmove
    obtain ⟨forward, whole, rests⟩ := passes
    exact ⟨.passes h.elapses forward whole fun j job doing =>
      rests j (h.fresh.lt doing) job doing, h.fresh⟩

/-- **What is played is possible.** -/
theorem play {moves : List Move} (h : m.From config w₀ start)
    (played : playTimed config s moves m = some m') : m'.From config w₀ start := by
  induction moves generalizing m with
  | nil =>
    cases played
    exact h
  | cons move moves ih =>
    obtain ⟨m₁, hmove, rest⟩ := Option.bind_eq_some_iff.1 played
    exact ih (h.move hmove) rest

end Moment.From

end Sidecar.Host

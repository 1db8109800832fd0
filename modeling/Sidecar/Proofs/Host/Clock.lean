import Mathlib.Tactic.ByContra
import Mathlib.Tactic.Push
import Sidecar.Proofs.Host.Task
import Sidecar.Time.Span

/-!
# A host in time

`Host.Elapses` gives every event a time.  Calls of plugins may take any time, but for the question for
a status, which is answered at once; all else is answered at once too, and a wait is over as soon as
one of its signals has come.  So the clock stands still while any call can go on
(`Host.World.Rests`), and otherwise moves by whole milliseconds, up to the next timer at most.

* `Host.Elapses.split` : the worlds and the time before and after one of the events;
* `Host.Elapses.passing` : the world as the clock passes a time;
* `Host.can_move` : **time is never stuck**: the clock can move, or some call can take its turn.
-/

namespace Sidecar

/-- Whether a signal stays away until a later time. -/
def Host.Lacks (h : Host) (later : Nat) : Signal → Prop
  | .due time => later ≤ Clock.fires time
  | .cancelled scope => h.isCancelled scope = false
  | .failure => h.failures.waiting = []
  | .settled | .idle _ | .interrupt => True

/-- Whether a question may be open until a later time. -/
def HostAsk.Rests (h : Host) (later : Nat) : HostAsk → Prop
  | .init .. | .start .. | .stop .. | .listen _ => True
  | .beginTaking => h.taking = true
  | .await signals => ∀ s ∈ signals, h.Lacks later s
  | _ => False

/-- Whether an answer is right at a time: a timer is set from now on, and has not gone off early. -/
def HostExchange.OnTime (now : Nat) : HostExchange → Prop
  | ⟨.timer span, time⟩ => time = Clock.deadline now span
  | ⟨.await _, .due time⟩ => Clock.fires time ≤ now
  | _ => True

namespace Host

/-- Whether an event is possible at a time. -/
def Event.OnTime (now : Nat) : Event → Prop
  | .asked _ _ x => x.OnTime now
  | .called .. | .ended .. | .dropped _ | .done _ => True

/-- Whether a call that is worked on may wait until a later time. -/
def Job.Rests (h : Host) (later : Nat) (job : Job) : Prop :=
  match job.remaining with
  | .done _ => False
  | Activity.ask q _ => HostAsk.Rests h later q

/-- Whether nobody has anything to do until a later time. -/
def World.Rests (w : World) (later : Nat) : Prop :=
  ∀ j job, w.jobs j = some job → job.Rests w.host later

/-- What may happen from a world and a time on, the newest first, each event with its time. -/
inductive Elapses (config : Config) (w : World) (start : Nat) :
    List (Nat × Event) → World → Nat → Prop
  | nil : Elapses config w start [] w start
  | happens {log : List (Nat × Event)} {w₁ w₂ : World} {now : Nat} {e : Event}
      (before : Elapses config w start log w₁ now) (step : Step config w₁ e w₂)
      (onTime : e.OnTime now) : Elapses config w start ((now, e) :: log) w₂ now
  | passes {log : List (Nat × Event)} {w₁ : World} {now later : Nat}
      (before : Elapses config w start log w₁ now) (forward : now < later)
      (whole : Span.perMilli ∣ later) (rests : w₁.Rests later) :
      Elapses config w start log w₁ later

/-- What may have happened by a time, from the time zero on. -/
abbrev Timed (config : Config) (log : List (Nat × Event)) (w : World) (now : Nat) : Prop :=
  Elapses config .new 0 log w now

/-- The events without their times. -/
def events (log : List (Nat × Event)) : List Event := log.map Prod.snd

variable {config : Config} {log log' : List (Nat × Event)} {w w' w₀ : World} {e : Event}
  {start now t : Nat}

@[simp] theorem events_nil : events [] = [] := rfl

@[simp] theorem events_cons : events ((t, e) :: log) = e :: events log := rfl

@[simp] theorem events_append : events (log ++ log') = events log ++ events log' :=
  List.map_append

namespace Elapses

theorem steps (h : Elapses config w₀ start log w now) : Steps config w₀ (events log) w := by
  induction h with
  | nil => exact .nil
  | happens before step onTime ih => exact .cons ih step
  | passes before forward whole rests ih => exact ih

theorem trace (h : Timed config log w now) : Trace config (events log) w := by
  have := Trace.nil.append h.steps
  rwa [List.append_nil] at this

theorem append (h : Elapses config w₀ start log w t) (more : Elapses config w t log' w' now) :
    Elapses config w₀ start (log' ++ log) w' now := by
  induction more with
  | nil => exact h
  | happens before step onTime ih => exact .happens ih step onTime
  | passes before forward whole rests ih => exact .passes ih forward whole rests

theorem le (h : Elapses config w₀ start log w now) : start ≤ now := by
  induction h with
  | nil => exact Nat.le_refl _
  | happens before step onTime ih => exact ih
  | passes before forward whole rests ih => omega

theorem whole (h : Elapses config w₀ start log w now) (first : Span.perMilli ∣ start) :
    Span.perMilli ∣ now := by
  induction h with
  | nil => exact first
  | happens before step onTime ih => exact ih
  | passes before forward whole rests ih => exact whole

/-- **The worlds and the time before and after one of the events.** -/
theorem split {later earlier : List (Nat × Event)}
    (h : Elapses config w₀ start (later ++ (t, e) :: earlier) w now) :
    ∃ w₁ w₂, Elapses config w₀ start earlier w₁ t ∧ Step config w₁ e w₂ ∧ e.OnTime t ∧
      Elapses config w₂ t later w now := by
  generalize hlog : later ++ (t, e) :: earlier = log at h
  induction h generalizing later with
  | nil => simp at hlog
  | happens before step onTime ih =>
    cases later with
    | nil =>
      obtain ⟨heq, rfl⟩ := List.cons.inj hlog
      cases heq
      exact ⟨_, _, before, step, onTime, .nil⟩
    | cons first later =>
      obtain ⟨rfl, rest⟩ := List.cons.inj hlog
      obtain ⟨w₁, w₂, until_, step', onTime', since⟩ := ih rest
      exact ⟨w₁, w₂, until_, step', onTime', .happens since step onTime⟩
  | passes before forward whole rests ih =>
    obtain ⟨w₁, w₂, until_, step', onTime', since⟩ := ih hlog
    exact ⟨w₁, w₂, until_, step', onTime', .passes since forward whole rests⟩

theorem le_of_mem (h : Elapses config w₀ start log w now) (mem : (t, e) ∈ log) :
    start ≤ t ∧ t ≤ now := by
  obtain ⟨later, earlier, rfl⟩ := List.append_of_mem mem
  obtain ⟨w₁, w₂, until_, -, -, since⟩ := h.split
  exact ⟨until_.le, since.le⟩

/-- **The world as the clock passes a time.** -/
theorem passing (h : Elapses config w₀ start log w now) (first : start ≤ t) (past : t < now) :
    ∃ later earlier w₁ now', log = later ++ earlier ∧ Elapses config w₀ start earlier w₁ now' ∧
      (∀ x ∈ earlier, x.1 ≤ t) ∧ t < now' ∧ Elapses config w₁ now' later w now := by
  induction h with
  | nil => omega
  | happens before step onTime ih =>
    obtain ⟨later, earlier, w₁, now', rfl, until_, bounded, passed, since⟩ := ih past
    exact ⟨_ :: later, earlier, w₁, now', rfl, until_, bounded, passed,
      .happens since step onTime⟩
  | @passes log w₁ now now' before forward whole rests ih =>
    by_cases early : t < now
    · obtain ⟨later, earlier, w₁, now', rfl, until_, bounded, passed, since⟩ := ih early
      exact ⟨later, earlier, w₁, now', rfl, until_, bounded, passed,
        .passes since forward whole rests⟩
    · refine ⟨[], log, w₁, now', rfl, .passes before forward whole rests, fun x mem => ?_, past,
        .nil⟩
      exact Nat.le_trans (before.le_of_mem mem).2 (Nat.le_of_not_lt early)

end Elapses

/-! ### Time is never stuck -/

theorem exists_answer_of_not_rests {h : Host} {q : HostAsk} (whole : Span.perMilli ∣ now)
    (urgent : ¬ q.Rests h (now + Span.perMilli)) :
    ∃ r h', h.Answers q r h' ∧ HostExchange.OnTime now ⟨q, r⟩ := by
  cases q with
  | init | start | stop | listen => exact absurd trivial urgent
  | beginTaking =>
    have free : ¬ h.taking = true := urgent
    exact ⟨(), { h with taking := true }, .records (if_neg free), trivial⟩
  | await signals =>
    obtain ⟨s, mem, come⟩ : ∃ s ∈ signals, ¬ h.Lacks (now + Span.perMilli) s := by
      by_contra none
      push Not at none
      exact urgent none
    refine ⟨s, h, .signal mem ?_, ?_⟩
    · cases s with
      | cancelled scope => exact eq_true_of_ne_false come
      | failure =>
        have waiting : h.failures.waiting ≠ [] := come
        simpa [mayBring] using waiting
      | _ => rfl
    · cases s with
      | due time =>
        have fired : Clock.fires time < now + Span.perMilli := Nat.lt_of_not_le come
        have fires : Span.perMilli ∣ Clock.fires time := Nat.dvd_mul_left _ _
        change Clock.fires time ≤ now
        simp only [Span.perMilli] at *
        omega
      | _ => trivial
  | timer span => exact ⟨Clock.deadline now span, h, .surroundings rfl, rfl⟩
  | bind => exact ⟨.ok (), h, .surroundings rfl, trivial⟩
  | spawn task => exact ⟨(), h, .surroundings rfl, trivial⟩
  | status plugin => exact ⟨.error (.runtime ""), h, .surroundings rfl, trivial⟩
  | _ => exact ⟨_, _, .records rfl, trivial⟩

/-- **Time is never stuck**: the clock can move by a millisecond, or some call can take its turn. -/
theorem can_move (w : World) (whole : Span.perMilli ∣ now) :
    w.Rests (now + Span.perMilli) ∨ ∃ e w', Step config w e w' ∧ e.OnTime now := by
  by_contra stuck
  push Not at stuck
  obtain ⟨busy, idle⟩ := stuck
  refine busy fun j job doing => ?_
  obtain ⟨c, remaining⟩ := job
  cases remaining with
  | done result => exact absurd trivial (idle _ _ (.ended doing))
  | ask q next =>
    by_contra urgent
    obtain ⟨r, h, answers, onTime⟩ := exists_answer_of_not_rests whole urgent
    exact idle _ _ (.asked doing answers) onTime

end Host

end Sidecar

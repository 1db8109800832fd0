import Sidecar.Proofs.Rehearsal.Tasks

/-!
# Waiting with a limit

A stage on which all tasks wait plays an activity that waits by setting its clock to the next timer,
once all have come to rest (`Stage.playFrom_of_waits`).  So it is known when an activity with a limit
is over, and with what (`Stage.playFrom_timed`): with the first of its times that has come when the
timer of the earliest has gone off, or without a result if that is the limit.
-/

namespace Sidecar.Rehearsal

/-- Do something for at most a span; there is no result when it takes longer. -/
def timed {α : Type} (limit : Span) (x : Playing α) : Playing (Option α) := do
  let time : Nat ← Playing.ask (.timer limit)
  Playing.within (.due time) x

theorem hostAnswer_stop (ctx : StorageContext) (plugin : PluginId) (limit : Span) :
    hostAnswer ctx (.stop plugin limit) = timed limit (withActor ctx plugin Actor.stop) := rfl

/-- Wait for the first of some times. -/
def awaitDue {α : Type} (times : List Nat) (f : Signal → α) : Playing α := do
  let signal : Signal ← Playing.ask (.await (times.map .due))
  return f signal

theorem awaitDue_eq {α : Type} {times : List Nat} {f : Signal → α} :
    awaitDue times f = Activity.ask (I := RehearsalI) (.await (times.map .due))
      fun (signal : Signal) => .done (f signal) := rfl

theorem within_awaitDue {α : Type} {times : List Nat} {f : Signal → α} (limit : Nat) :
    Playing.within (.due limit) (awaitDue times f) =
      awaitDue (times ++ [limit]) fun signal =>
        if (times.map Signal.due).contains signal then some (f signal) else none := by
  change Activity.ask (I := RehearsalI) (.await (times.map .due ++ [.due limit])) _ =
    Activity.ask (I := RehearsalI) (.await ((times ++ [limit]).map .due)) _
  rw [List.map_append]
  congr 1
  funext signal
  exact (apply_ite Activity.done _ _ _).symm

namespace Stage

variable {α : Type} {s s' : Stage} {x : Playing α} {limit : Span} {times : List Nat}
  {f : Signal → α} {fuel time later : Nat} {moved : Bool}

theorem find?_map_due : (times.map Signal.due).find? s.hasCome =
    (times.find? (· ≤ s.now)).map .due := List.find?_map ..

theorem runAhead_awaitDue_of_come (come : times.find? (· ≤ s.now) = some time) :
    s.runAhead moved (awaitDue times f) = (s, .done (f (.due time)), true) :=
  runAhead_of_answer (answer?_await.trans
    (congrArg (Option.map _) (find?_map_due.trans (congrArg (Option.map _) come))))

theorem runAhead_awaitDue_of_none (waits : times.find? (· ≤ s.now) = none) :
    s.runAhead moved (awaitDue times f) = (s, awaitDue times f, moved) :=
  runAhead_of_open (answer?_await.trans
    (congrArg (Option.map _) (find?_map_due.trans (congrArg (Option.map _) waits))))

theorem runAhead_timed : s.runAhead moved (timed limit x) =
    s.runAhead true (Playing.within (.due (Clock.deadline s.now limit)) x) := rfl

theorem playFrom_of_done {a : α} (ends : s.runAhead false x = (s', .done a, moved)) :
    s.playFrom (fuel + 1) x = some (a, s') := by
  rw [playFrom, ends]

theorem playFrom_of_moved (stays : s.runAhead false x = (s', awaitDue times f, moved))
    (any : (moved || s'.pass.2) = true) :
    s.playFrom (fuel + 1) x = s'.pass.1.playFrom fuel (awaitDue times f) := by
  rw [awaitDue_eq] at *
  rw [playFrom, stays]
  simp only [any, if_true]

theorem nextTimer?_eq (waits : s.Waits later) (timer : times.min? = some time)
    (enough : time ≤ later) : s.nextTimer? (times.map .due) = some time := by
  obtain ⟨mem, least⟩ := List.min?_eq_some_iff.1 timer
  unfold nextTimer?
  rw [List.filterMap_append, List.filterMap_map]
  have own : times.filterMap (timeOf? ∘ Signal.due) = times := List.filterMap_some
  rw [own]
  refine List.min?_eq_some_iff.2 ⟨List.mem_append_left _ mem, fun other hmem => ?_⟩
  rcases List.mem_append.1 hmem with hmem | hmem
  · exact least other hmem
  · obtain ⟨signal, hsignal, htime⟩ := List.mem_filterMap.1 hmem
    obtain ⟨t, ht, hsignal⟩ := List.mem_flatMap.1 hsignal
    obtain ⟨next, heeds⟩ := exists_heeds (waits.tasks t ht)
    cases signal with
    | due =>
      cases htime
      have far : later < other := heeds (.due other) hsignal
      omega
    | _ => cases htime

theorem playFrom_of_timer (waits : s.pass.1.Waits later)
    (stays : s.runAhead false (awaitDue times f) = (s, awaitDue times f, false))
    (still : s.pass.2 = false) (timer : times.min? = some time) (enough : time ≤ later) :
    s.playFrom (fuel + 1) (awaitDue times f) =
      (s.pass.1.setClock (Clock.fires time)).playFrom fuel (awaitDue times f) := by
  have next : s.pass.1.nextTimer? (awaited (awaitDue times f)) = some time :=
    nextTimer?_eq waits timer enough
  rw [awaitDue_eq] at *
  rw [playFrom, stays]
  simp only [still, Bool.or_self, Bool.false_eq_true, if_false, next]

/-- **While all tasks wait the clock jumps to the earliest time.**  It takes one pass for each task to
come to rest, and another one for those that wait for workers. -/
theorem playFrom_of_waits (waits : s.Waits later) (distinct : s.host.registry.Distinct) {k n : Nat}
    (calm : s.Calm k) (passes : k + n = 2) {now : Nat} (clock : s.now = now) (early : now ≤ later)
    (none : times.find? (· ≤ now) = none) (timer : times.min? = some time) (enough : time ≤ later) :
    ∃ (s' : Stage) (fuel' : Nat), s'.Alike s ∧ s'.Waits later ∧
      s.playFrom (fuel + n + 2) (awaitDue times f) =
        (s'.setClock (Clock.fires time)).playFrom (fuel' + 1) (awaitDue times f) := by
  have stays : s.runAhead false (awaitDue times f) = (s, awaitDue times f, false) :=
    runAhead_awaitDue_of_none (clock ▸ none)
  have early_now : s.now ≤ later := clock ▸ early
  induction n generalizing k s with
  | zero =>
    -- all rest by now
    have rests : ∀ t ∈ s.tasks, t.Rests s := fun t mem => calm t mem ⟨by omega, fun _ => by omega⟩
    have still : s.pass = (s, false) := (turned_pass waits early_now distinct calm).1.still rests
    refine ⟨s, fuel, .refl, waits, ?_⟩
    rw [playFrom_of_timer (still ▸ waits) stays (by rw [still]) timer enough, still]
  | succ n ih =>
    obtain ⟨turned, calmer⟩ := turned_pass waits early_now distinct calm
    cases any : s.pass.2 with
    | false =>
      exact ⟨s.pass.1, fuel + n + 1, turned.like, turned.waits,
        playFrom_of_timer turned.waits stays any timer enough⟩
    | true =>
      have same := turned.like.now.trans clock
      obtain ⟨s', fuel', like, waits', played⟩ := ih turned.waits (turned.like.registry ▸ distinct)
        calmer (by omega) same (runAhead_awaitDue_of_none (same ▸ none)) (same ▸ early)
      exact ⟨s', fuel', like.trans turned.like, waits', (playFrom_of_moved stays any).trans played⟩

theorem now_setClock : (s.setClock time).now = time := rfl

theorem Waits.setClock (h : s.Waits later) : (s.setClock time).Waits later where
  ids := h.ids
  tasks t mem := ⟨(h.tasks t mem).asks, (h.tasks t mem).apart⟩

/-- The stage when a timer has gone off. -/
def reach (s : Stage) (time : Nat) : Stage :=
  if time ≤ s.now then s else s.setClock (Clock.fires time)

theorem le_now_reach (s : Stage) (time : Nat) : time ≤ (s.reach time).now := by
  unfold reach
  split_ifs with h
  · exact h
  · rw [now_setClock]
    exact Clock.le_fires time

/-- **Waiting with a limit ends with the first time that has come when the timer of the earliest has
gone off.** -/
theorem playFrom_timed (waits : s.Waits later) (distinct : s.host.registry.Distinct)
    {earliest first : Nat} (enough : (s.reach earliest).now ≤ later)
    (min : (times ++ [Clock.deadline s.now limit]).min? = some earliest)
    (come : (times ++ [Clock.deadline s.now limit]).find? (· ≤ (s.reach earliest).now) =
      some first) :
    ∃ s' : Stage, s'.Alike (s.reach earliest) ∧ s'.Waits later ∧
      s.playFrom (fuel + 4) (timed limit (awaitDue times f)) =
        some (if (times.map Signal.due).contains (.due first) then some (f (.due first)) else none,
          s') := by
  have reached := s.le_now_reach earliest
  by_cases now : earliest ≤ s.now
  · rw [reach, if_pos now] at come ⊢
    exact ⟨s, .refl, waits, playFrom_of_done
      (by rw [runAhead_timed, within_awaitDue, runAhead_awaitDue_of_come come])⟩
  · -- nothing has come yet, so the clock jumps to the earliest time
    have none : (times ++ [Clock.deadline s.now limit]).find? (· ≤ s.now) = none := by
      refine List.find?_eq_none.2 fun time mem le => now ?_
      exact Nat.le_trans ((List.min?_eq_some_iff.1 min).2 time mem) (of_decide_eq_true le)
    rw [reach, if_neg now] at come enough reached ⊢
    have early : s.now ≤ later := by omega
    have begun := (@runAhead_timed _ s (awaitDue times f) limit false).trans
      ((congrArg (s.runAhead true) (within_awaitDue _)).trans (runAhead_awaitDue_of_none none))
    obtain ⟨turned, calm⟩ := turned_pass waits early distinct calm_zero
    obtain ⟨s', fuel', like, waits', played⟩ := @playFrom_of_waits _ _ _ _ fuel _ _ turned.waits
      (turned.like.registry ▸ distinct) 1 1 calm rfl _ turned.like.now early none min
      (Nat.le_trans reached enough)
    refine ⟨_, ((like.trans turned.like).setClock), waits'.setClock, ?_⟩
    rw [playFrom_of_moved begun rfl, played]
    exact playFrom_of_done (runAhead_awaitDue_of_come come)

theorem playFrom_timed_one (waits : s.Waits later) (distinct : s.host.registry.Distinct)
    {done timer : Nat} (enough : (s.reach (min done timer)).now ≤ later)
    (set : Clock.deadline s.now limit = timer) :
    ∃ s' : Stage, s'.Alike (s.reach (min done timer)) ∧ s'.Waits later ∧
      s.playFrom (fuel + 4) (timed limit (awaitDue [done] f)) =
        some (if done ≤ (s.reach (min done timer)).now then some (f (.due done)) else none, s') := by
  have reached := s.le_now_reach (min done timer)
  generalize clock : (s.reach (min done timer)).now = now at *
  have come (first : Nat) (h : first = if done ≤ now then done else timer) :
      ([done] ++ [Clock.deadline s.now limit]).find? (· ≤ (s.reach (min done timer)).now) =
        some first := by
    rw [set, clock, h]
    split_ifs with h
    · simp [h]
    · have late : timer ≤ now := by omega
      simp [h, late]
  have played (first : Nat) (h : first = if done ≤ now then done else timer) :=
    @playFrom_timed _ s limit [done] f fuel later waits distinct (min done timer) first
      (clock ▸ enough) (by rw [set]; rfl) (come first h)
  by_cases h : done ≤ now
  · obtain ⟨s', like, waits', played⟩ := played done (if_pos h).symm
    refine ⟨s', like, waits', played.trans ?_⟩
    simp [h]
  · have other : timer ≠ done := by omega
    obtain ⟨s', like, waits', played⟩ := played timer (if_neg h).symm
    refine ⟨s', like, waits', played.trans ?_⟩
    simp [h, other]

end Stage

end Sidecar.Rehearsal

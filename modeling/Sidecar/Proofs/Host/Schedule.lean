import Sidecar.Proofs.Host.Ending
import Sidecar.Proofs.Host.Listing
import Sidecar.Proofs.Host.Polling
import Sidecar.Proofs.Host.TimedPlay

/-!
# Polls on schedule

When polling begins, what is found at each position is polled at the times `Host.pollTime`, up to the
moment at which its registration has ended (`Host.Polling.EndedBy`): its entry was taken out or
replaced, or everything was cancelled.

* `Host.Polling.Started.punctual` : **a polling that has been started is on time**, from what
  `Polling.runs`, `Polling.At.made` and `Polling.stops` say about its scope, and `Trace.exists_ends`
  about when that is cancelled;
* `Host.Trace.own_of_failed` : a poll that fails has only waited and asked;
* `Host.polls_on_schedule` : **all that is registered when polling begins is polled on schedule**.

At the very moment at which a registration ends a poll that is due may be made or not.  Positions are
told apart by 32 bits, so the schedule is that of the positions below `Nat.pow 2 32`.
-/

namespace Sidecar.Host

open HostExchange (of)

variable {config : Config} {log later before since : List (Nat × Event)} {w w' w₀ w₁ w₂ : World}
  {e : Event} {name : String} {entry : Entry} {start now t : Nat} {j : Nat} {c : HostCall}

namespace Polling

variable {p : Polling}

/-- Whether a registration that was found between some events had ended by a time: it ended since it
was found, or its scope was cancelled before. -/
def EndedBy (p : Polling) (since before : List (Nat × Event)) (t : Nat) : Prop :=
  (∃ u ≤ t, ∃ x, (u, x) ∈ since ∧ x.Ends p.name p.scope) ∨
    ∃ u ≤ t, ∃ x, (u, x) ∈ before ∧ x.Cancels p.scope

/-- That a polling is on time, given what has happened since the registration was found and before. -/
structure Punctual (p : Polling) (since before : List (Nat × Event)) (now : Nat) : Prop where
  /-- The polls are made at the times for which they are due, one after another. -/
  in_turn : ∃ n, p.times (since ++ before) = (List.range n).map p.slot
  /-- None that was due is missing, unless the registration had ended by then. -/
  none_missing : ∀ n, p.slot n < now → ¬ p.EndedBy since before (p.slot n) →
    p.slot n ∈ p.times (since ++ before)
  /-- None is made later than that. -/
  none_after : ∀ t, p.EndedBy since before t → ∀ u ∈ p.times (since ++ before), u ≤ max p.start t

theorem EndedBy.mono (h : p.EndedBy since before t) : p.EndedBy (later ++ since) before t :=
  h.imp_left fun ⟨u, le, x, mem, ends⟩ => ⟨u, le, x, List.mem_append_right _ mem, ends⟩

/-- The start of the task of a polling. -/
abbrev spawned (p : Polling) (j : Nat) (c : HostCall) : Nat × Event :=
  (p.start, .asked j c (of (.spawn p.task) ()))

/-- That a call has found a registration and has started the task that polls it, at one instant. -/
structure Started (config : Config) (p : Polling) (j : Nat) (c : HostCall)
    (between before : List (Nat × Event)) (w₀ w : World) : Prop where
  timed : Timed config before w₀ p.start
  found : ∃ entry, w₀.get? p.name = some entry ∧ entry.registration = p.scope
  step : ∃ w₁, Elapses config w₀ p.start between w₁ p.start ∧ Step config w₁ (p.spawned j c).2 w
  first : p.first = begun (events (between ++ before))

namespace Started

variable {between : List (Nat × Event)} {u : Nat}

theorem elapses (s : p.Started config j c between before w₀ w₁) :
    Elapses config w₀ p.start (p.spawned j c :: between) w₁ p.start := by
  obtain ⟨w, until_, step⟩ := s.step
  exact .happens until_ step trivial

theorem isCancelled_of_endedBy (s : p.Started config j c between before w₀ w₁)
    (more : Elapses config w₀ p.start since w now) (ended : p.EndedBy since before t) :
    w.host.isCancelled p.scope = true := by
  rcases ended with ⟨u, -, x, mem, ends⟩ | ⟨u, -, x, mem, cancels⟩
  · obtain ⟨entry, found, registered⟩ := s.found
    rw [← registered] at ends ⊢
    exact s.timed.trace.isCancelled_of_ends more.steps found (List.mem_map_of_mem mem) ends
  · exact s.timed.trace.isCancelled_of_steps more.steps
      (s.timed.trace.isCancelled_of_mem (List.mem_map_of_mem mem) cancels)

theorem endedBy_of_isCancelled (s : p.Started config j c between before w₀ w₁)
    (more : Elapses config w₀ p.start since w now) (cancelled : w.host.isCancelled p.scope = true)
    (first : p.start ≤ t) (bounded : ∀ x ∈ since, x.1 ≤ t) : p.EndedBy since before t := by
  obtain ⟨entry, found, registered⟩ := s.found
  rw [← registered] at cancelled
  rcases s.timed.trace.exists_ends more.steps found cancelled with ⟨x, h, ends⟩ | ⟨x, h, cancels⟩
  · obtain ⟨⟨u, x⟩, mem, rfl⟩ := List.mem_map.1 h
    exact .inl ⟨u, bounded _ mem, x, mem, registered ▸ ends⟩
  · obtain ⟨⟨u, x⟩, mem, rfl⟩ := List.mem_map.1 h
    exact .inr ⟨u, Nat.le_trans (s.timed.le_of_mem mem).2 first, x, mem, registered ▸ cancels⟩

theorem exists_at (s : p.Started config j c between before w₀ w₁)
    (after : Elapses config w₁ p.start later w now) (regular : p.Regular now) :
    ∃ n, p.At (later ++ p.spawned j c :: between ++ before) w now n ∧
      p.times (later ++ p.spawned j c :: between ++ before) = (List.range n).map p.slot := by
  obtain ⟨w, until_, step⟩ := s.step
  have t : Trace config (events (between ++ before)) w := (s.timed.append until_).trace
  obtain ⟨here, unpolled⟩ := At.of_spawned t (s.first.trans t.next_eq.symm) step
  rw [List.append_assoc]
  exact runs here unpolled (t.cons step) after regular

/-- **No poll that was due is missing**, unless the registration had ended by then. -/
theorem mem_times (s : p.Started config j c between before w₀ w₁)
    (after : Elapses config w₁ p.start later w now) (regular : p.Regular now) {n : Nat}
    (due : p.slot n < now)
    (going : ¬ p.EndedBy (later ++ p.spawned j c :: between) before (p.slot n)) :
    p.slot n ∈ p.times (later ++ p.spawned j c :: between ++ before) := by
  have le : p.start ≤ p.slot n := Nat.le_trans (Nat.le_add_right _ _) (Nat.le_add_right _ _)
  -- the scope is not cancelled yet as the clock passes the time of the poll
  obtain ⟨rest, passed, w₂, now', rfl, until_, bounded, lt, more⟩ := after.passing le due
  obtain ⟨m, here, polled⟩ := s.exists_at until_ (regular.mono more.le)
  have uncancelled : w₂.host.isCancelled p.scope = false := by
    refine eq_false_of_ne_true fun cancelled => going ?_
    rw [List.append_assoc]
    refine (s.endedBy_of_isCancelled (s.elapses.append until_) cancelled le fun x mem => ?_).mono
    rcases List.mem_append.1 mem with mem | mem
    · exact bounded x mem
    · exact Nat.le_trans (s.elapses.le_of_mem mem).2 le
  have made := List.mem_map_of_mem (f := p.slot) (List.mem_range.2 (here.made uncancelled lt))
  rw [← polled] at made
  rw [List.append_assoc, List.append_assoc]
  exact (prefix_times rest).mem (by rwa [List.append_assoc] at made)

theorem le_of_ended (s : p.Started config j c between before w₀ w₁)
    (after : Elapses config w₁ p.start later w now)
    (ended : p.EndedBy (later ++ p.spawned j c :: between) before t)
    {later' : List (Nat × Event)} {now' : Nat} (more : Elapses config w now later' w' now')
    (regular : p.Regular now')
    (mem : u ∈ p.times (later' ++ (later ++ p.spawned j c :: between ++ before))) : u ≤ now := by
  obtain ⟨n, here, -⟩ := s.exists_at after (regular.mono more.le)
  have since := s.elapses.append after
  have timed := s.timed.append since
  refine stops here (fun u mem => ?_) timed.trace (s.isCancelled_of_endedBy since ended) more
    regular u mem
  obtain ⟨e, mem⟩ := exists_of_mem_times mem
  exact (timed.le_of_mem mem).2

/-- **None is made later than the registration has ended.** -/
theorem le_of_mem_times (s : p.Started config j c between before w₀ w₁)
    (after : Elapses config w₁ p.start later w now) (regular : p.Regular now)
    (ended : p.EndedBy (later ++ p.spawned j c :: between) before t)
    (mem : u ∈ p.times (later ++ p.spawned j c :: between ++ before)) : u ≤ max p.start t := by
  -- it has ended by the time of the start, or with an event since
  have early (ended : p.EndedBy (p.spawned j c :: between) before t) : u ≤ max p.start t := by
    refine Nat.le_trans ?_ (Nat.le_max_left _ _)
    refine s.le_of_ended .nil ended after regular ?_
    rwa [List.nil_append, ← List.append_assoc]
  rcases ended with ⟨v, le, x, h, ends⟩ | cancelled
  · rcases List.mem_append.1 h with h | h
    · obtain ⟨rest, passed, rfl⟩ := List.append_of_mem h
      obtain ⟨w₂, w₃, until_, step, onTime, more⟩ := after.split
      refine Nat.le_trans ?_ (Nat.le_trans le (Nat.le_max_right _ _))
      refine s.le_of_ended (.happens until_ step onTime) (t := v) ?_ more regular ?_
      · exact .inl ⟨v, Nat.le_refl _, x, List.mem_cons_self, ends⟩
      · simpa only [List.append_assoc] using mem
    · exact early (.inl ⟨v, le, x, h, ends⟩)
  · exact early (.inr cancelled)

/-- **A polling that has been started is on time.** -/
theorem punctual (s : p.Started config j c between before w₀ w₁)
    (after : Elapses config w₁ p.start later w now) (regular : p.Regular now) :
    p.Punctual (later ++ p.spawned j c :: between) before now where
  in_turn := (s.exists_at after regular).imp fun _ h => h.2
  none_missing _ := s.mem_times after regular
  none_after _ ended _ := s.le_of_mem_times after regular ended

end Started

end Polling

/-! ### Polls that fail -/

section Failing

variable {due : Nat} {interval : Span} {plugin other : PluginId} {scope : Scope}
  {why : PluginError} {es : List Event}

/-- **A poll that fails has asked nothing else**: it has waited until it was due. -/
theorem Trace.own_of_failed (t : Trace config es w)
    (failed : .asked j (.task (.poll due interval name plugin scope))
      (of (.status other) (.error why)) ∈ es) :
    ∃ time now, own j es = [of (.status plugin) (.error why), of (.timer ⟨0⟩) now,
      of (.await [.cancelled scope, .due due]) (.due time)] := by
  obtain ⟨later, earlier, rfl⟩ := List.append_of_mem failed
  have may : HostCall.PollMay due name plugin scope (own j earlier) (.status other) :=
    t.keeps_asked HostCall.keeps_poll rfl
  rw [own_append, own_asked]
  rcases List.eq_nil_or_concat (own j later) with none | ⟨newer, x, more⟩
  · rw [none]
    generalize own j earlier = past at may
    cases may
    exact ⟨_, _, rfl⟩
  · -- the first thing that it asked since was asked after the failure
    obtain ⟨rest, c, between, rfl, -, unasked⟩ :=
      exists_of_own (more.trans (List.concat_eq_append ..))
    rw [List.append_assoc, List.cons_append] at t
    obtain ⟨w₁, w₂, before, step⟩ := t.split rfl
    obtain ⟨next, doing⟩ := exists_of_asked step
    obtain rfl := before.call_eq doing (List.mem_append_right _ List.mem_cons_self)
    have again := (before.keeps HostCall.keeps_poll doing).1
    rw [own_append, unasked, List.nil_append, own_asked] at again
    cases again

theorem eq_of_answers {h h' : Host} {q : HostAsk} {r : q.Reply} (foreign : h.answer? q = none)
    (answers : h.Answers q r h') : h' = h := by
  cases answers with
  | records found => cases foreign.symm.trans found
  | surroundings => rfl
  | signal => rfl

end Failing

/-! ### All polling -/

section All

variable {settings : HostSettings} {i : Nat} {found : List (String × Option Entry)}

/-- The time of a poll of the plugin at a position, when all polling began at a time; without an
interval a plugin is polled every five seconds. -/
def pollTime (settings : HostSettings) (start i n : Nat) : Nat :=
  start + i * settings.pollStagger.nanos +
    n * if settings.pollInterval.nanos = 0 then 5 * Span.perSecond else settings.pollInterval.nanos

/-- The polling of what was found at a position, by the task with a number. -/
def polling (settings : HostSettings) (start i first : Nat) (name : String) (e : Entry) :
    Polling where
  first
  start
  delay := pollDelay settings i
  interval := pollInterval settings
  name
  plugin := e.plugin
  scope := e.registration

theorem nanos_pollDelay (low : i < Nat.pow 2 32)
    (near : start + i * settings.pollStagger.nanos < Clock.horizon) :
    (pollDelay settings i).nanos = i * settings.pollStagger.nanos := by
  have limit : Clock.horizon ≤ Span.longest.nanos := by decide
  have le : settings.pollStagger.nanos * i ≤ Span.longest.nanos := by
    rw [Nat.mul_comm]
    omega
  unfold pollDelay Span.shorter
  rw [Nat.mod_eq_of_lt low, if_pos le]
  exact Nat.mul_comm ..

theorem nanos_pollInterval : (pollInterval settings).nanos =
    if settings.pollInterval.nanos = 0 then 5 * Span.perSecond
    else settings.pollInterval.nanos := by
  unfold pollInterval
  split <;> rfl

theorem slot_polling {first : Nat} (low : i < Nat.pow 2 32)
    (near : start + i * settings.pollStagger.nanos < Clock.horizon) :
    (polling settings start i first name entry).slot = pollTime settings start i := by
  funext n
  simp only [Polling.slot, pollTime, polling, nanos_pollDelay low near, nanos_pollInterval]

theorem regular_polling {first : Nat} (whole : Span.perMilli ∣ start)
    (stagger : Span.perMilli ∣ settings.pollStagger.nanos)
    (interval : Span.perMilli ∣ settings.pollInterval.nanos) (low : i < Nat.pow 2 32)
    (near : start + i * settings.pollStagger.nanos < Clock.horizon)
    (next : now + (pollInterval settings).nanos < Clock.horizon) :
    (polling settings start i first name entry).Regular now where
  start := whole
  delay := by
    simp only [polling, nanos_pollDelay low near]
    exact Nat.dvd_mul_left_of_dvd stagger i
  interval := by
    simp only [polling, nanos_pollInterval]
    split
    · decide
    · exact interval
  first_near := by
    simp only [polling, nanos_pollDelay low near]
    exact near
  next_near := next

/-- That what was found at a position is polled on time: right after it was found a task was started,
and that polls the instance whenever it is due, until the registration has ended. -/
def PolledOnTime (settings : HostSettings) (before later : List (Nat × Event))
    (j start now i : Nat) (name : String) (e : Entry) : Prop :=
  ∃ since c between c' earlier,
    later = since ++ (start, .asked j c (of (.spawn (pollTask settings i name e)) ())) ::
      (between ++ (start, .asked j c' (of (.lookup name) (some e))) :: earlier) ∧
    own j (events between) = [] ∧
    let found := (start, .asked j c' (of (.lookup name) (some e))) :: earlier ++ before
    let p := polling settings start i (begun (events (between ++ found))) name e
    p.Punctual (since ++ p.spawned j c :: between) found now ∧
      p.slot = pollTime settings start i

/-- **What was found is polled on time.** -/
theorem Listed.polledOnTime {settings : HostSettings} (timed : Timed config before w₀ start)
    {prompt : List (Nat × Event)} (listed : Listed settings j start found prompt)
    (after : Elapses config w₀ start (since ++ prompt) w now)
    (stagger : Span.perMilli ∣ settings.pollStagger.nanos)
    (interval : Span.perMilli ∣ settings.pollInterval.nanos)
    (next : now + (pollInterval settings).nanos < Clock.horizon) (low : i < Nat.pow 2 32)
    (near : start + i * settings.pollStagger.nanos < Clock.horizon)
    (at_ : found[i]? = some (name, some entry)) :
    PolledOnTime settings before (since ++ prompt) j start now i name entry := by
  obtain ⟨rest, c, between, c', earlier, rfl, unasked⟩ := listed.started at_
  rw [← List.append_assoc] at after ⊢
  refine ⟨_, c, between, c', earlier, rfl, unasked, ?_, slot_polling low near⟩
  obtain ⟨w₁, w₂, until_, spawns, -, later⟩ := after.split
  obtain ⟨w₃, w₄, until', looks, onTime, between'⟩ := until_.split
  have timed' := timed.append (.happens until' looks onTime)
  refine Polling.Started.punctual ⟨timed', ⟨entry, timed'.trace.get?_of_lookup, rfl⟩,
    ⟨w₁, between', spawns⟩, rfl⟩ later ?_
  exact regular_polling (timed.whole (Nat.dvd_zero _)) stagger interval low near next

/-- That all that is registered is polled on schedule where a call has begun polling at a time, given
what has happened before and since. -/
structure OnSchedule (config : Config) (before later : List (Nat × Event)) (j start now : Nat) :
    Prop where
  /-- At the start the call has listed the names, and what it has found at each position is polled on
  time, if its delay can be timed. -/
  polled : ∃ found since prompt, later = since ++ prompt ∧
    Listed config.host j start found prompt ∧ ∀ {i name e}, found[i]? = some (name, some e) →
      i < Nat.pow 2 32 →
      start + i * config.host.pollStagger.nanos < Clock.horizon →
      PolledOnTime config.host before later j start now i name e
  /-- Whatever is asked for a poll that fails leaves the records as they are, so the status that was
  given last stays. -/
  failed : ∀ {i due interval name plugin scope other why},
    .asked i (.task (.poll due interval name plugin scope)) (of (.status other) (.error why)) ∈
      events (later ++ before) →
    ∀ x ∈ own i (events (later ++ before)), ∀ h h', Answers h x.question x.reply h' → h' = h

/-- **All that is registered when polling begins is polled on schedule**, whatever the plugins answer,
whatever else happens, and whatever the call that begins polling goes on with. -/
theorem polls_on_schedule (timed : Timed config before w₀ start) {k : Unit → Hosting c.Result}
    (doing : w₀.jobs j = some ⟨c, startPolling config.host >>= k⟩)
    (after : Elapses config w₀ start later w now)
    (stagger : Span.perMilli ∣ config.host.pollStagger.nanos)
    (interval : Span.perMilli ∣ config.host.pollInterval.nanos)
    (next : now + (pollInterval config.host).nanos < Clock.horizon) (passed : start < now) :
    OnSchedule config before later j start now where
  polled := by
    rcases after.lists timed.trace doing with ⟨-, -, -, same⟩ | ⟨since, prompt, found, rfl, listed⟩
    · exact absurd same (Nat.ne_of_gt passed)
    · exact ⟨found, since, prompt, rfl, listed, fun at_ low near =>
        listed.polledOnTime timed after stagger interval next low near at_⟩
  failed := by
    intro i due interval name plugin scope other why failed x mem h h' answers
    obtain ⟨time, now', asked⟩ := (timed.append after).trace.own_of_failed failed
    rw [asked] at mem
    simp only [List.mem_cons, List.not_mem_nil, or_false] at mem
    obtain rfl | rfl | rfl := mem
    · exact eq_of_answers rfl answers
    · exact eq_of_answers rfl answers
    · exact eq_of_answers rfl answers

/-- A configuration with two plugins that are polled every other second, the second one a second
later. -/
def twoPlugins : Config :=
  { onePlugin "a" with
    plugins := [{ name := "a", bootOrder := 0, config := .object [] },
      { name := "b", bootOrder := 1, config := .object [] }]
    host := { HostSettings.default with pollInterval := .ofSeconds 2 } }

/-- Both are registered, and three seconds pass. -/
def registeringBoth : List Move :=
  .turn (.call (.add "b" 1)) :: goes 0 4 ++ .turn (.call (.add "a" 0)) :: goes 1 4 ++
    [.pass (3 * Span.perSecond)]

/-- Both are polled, where the first poll of the second one fails, and the first one is removed after
another poll. -/
def removingFirst : List Move :=
  goes 2 6 ++ goes 3 4 ++ goes 4 1 ++ goes 5 5 ++ .pass (4 * Span.perSecond) ::
    goes 4 3 ++ goes 7 2 ++ .fail 7 (.runtime "late") :: goes 7 1 ++ .pass (5 * Span.perSecond) ::
    goes 6 5 ++ .pass (6 * Span.perSecond) :: .turn (.call (.remove "a")) :: goes 10 5 ++
    goes 9 2 ++ goes 8 5 ++ [.pass (8 * Span.perSecond)]

theorem polls_on_schedule_removed : ∃ before later w,
    Timed twoPlugins (later ++ before) w (8 * Span.perSecond) ∧
    OnSchedule twoPlugins before later 2 (3 * Span.perSecond) (8 * Span.perSecond) ∧
    polls 3 0 (later ++ before) = [3 * Span.perSecond, 5 * Span.perSecond] ∧
    polls 4 1 (later ++ before) = [4 * Span.perSecond, 6 * Span.perSecond] := by
  have played : (playTimed twoPlugins (.failing (.runtime "late") "a") registeringBoth
      ⟨[], .new, 0⟩).bind (fun m => (playTimed twoPlugins (.failing (.runtime "late") "a")
        removingFirst ⟨[], m.world.begin twoPlugins .startPolling, m.now⟩).map fun m' =>
          let log := m'.log ++ (m.now, Event.called m.world.next .startPolling) :: m.log
          (m.world.next, m.now, m'.now, polls 3 0 log, polls 4 1 log)) =
      some (2, 3 * Span.perSecond, 8 * Span.perSecond, [3 * Span.perSecond, 5 * Span.perSecond],
        [4 * Span.perSecond, 6 * Span.perSecond]) := by
    decide +kernel
  obtain ⟨⟨log, w, now⟩, registered, removed⟩ := Option.bind_eq_some_iff.1 played
  obtain ⟨⟨later, w', now'⟩, removed, heq⟩ := Option.map_eq_some_iff.1 removed
  simp only [Prod.mk.injEq] at heq
  obtain ⟨hnext, rfl, rfl, first, second⟩ := heq
  have before : Moment.From twoPlugins .new 0 ⟨log, w, _⟩ :=
    .play ⟨.nil, fun _ _ => rfl⟩ registered
  have called : Step twoPlugins w (.called w.next .startPolling)
      (w.begin twoPlugins .startPolling) := .called ⟨rfl, nofun⟩
  have timed := before.elapses.happens called trivial
  have after := Moment.From.play ⟨.nil, fresh_of_step before.fresh called⟩ removed
  refine ⟨_, later, w', timed.append after.elapses, ?_, first, second⟩
  have doing : (w.begin twoPlugins .startPolling).jobs w.next =
      some ⟨.startPolling, startPolling twoPlugins.host >>= pure⟩ :=
    (if_pos rfl).trans <| congrArg (fun x => some (⟨.startPolling, x⟩ : Job))
      (bind_pure (startPolling twoPlugins.host)).symm
  exact hnext ▸ polls_on_schedule timed doing after.elapses (by decide) (by decide) (by decide)
    (by decide)

end All

end Sidecar.Host

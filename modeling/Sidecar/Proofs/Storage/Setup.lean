import Sidecar.Proofs.Storage.Turns

/-!
# Setting storages up

What can be relied on when storages are asked for at the same time, whoever gives up in between.

* `StorageContext.keeps_setUp` : both storages are set up exactly by setups that succeed;
* `Factory.Sound.goes_on_or` : a call goes on, or it waits for another that does;
* `Factory.Trace.retried` : after a setup that came to nothing a call that begins has no result
  before the kind is set up again;
* `Factory.Trace.sharing` : **storages are set up one at a time and once each, and a call has a
  storage that is ready or the failure of its own setup**.
-/

namespace Sidecar

/-- What is said of a setup that failed: its own words if they say so already. -/
inductive StorageKind.FailsWith (kind : StorageKind) : (cause why : StorageError) → Prop
  | same {storage why : String} :
      FailsWith kind (.setupFailed storage why) (.setupFailed storage why)
  | other {cause : StorageError} (h : ∀ storage why, cause ≠ .setupFailed storage why) :
      FailsWith kind cause (.setupFailed kind.tag cause.details)

theorem StorageKind.failsWith_ofSetup {kind : StorageKind} {cause : StorageError} :
    kind.FailsWith cause (.ofSetup kind cause) := by
  cases cause with
  | setupFailed storage why => exact .same
  | _ => exact .other nofun

namespace StorageContext

/-- Whether an exchange shows that a storage is set up, or sets it up. -/
inductive Opens : StorageKind → Exchange StorageI → Prop
  | home {pod : PodName} : Opens .inKube ⟨.home, some pod⟩
  | settle {name : PodName} {pod : Pod} : Opens .inKube ⟨.settle name pod, ()⟩
  | gaugesOpen : Opens .gauge ⟨.gaugesOpen, true⟩
  | openGauges : Opens .gauge ⟨.openGauges, ()⟩

/-- **A setup succeeds exactly when the storage is set up**, which is the last thing it asks for. -/
theorem keeps_setUp {ctx : StorageContext} {kind : StorageKind} :
    Activity.Keeps (fun past _ => ∀ x ∈ past, ¬ Opens kind x)
      (fun past result => result = .ok () ↔ ∃ x ∈ past, Opens kind x) [] (ctx.setUp kind).run := by
  have opened {past : List (Exchange StorageI)} {x : Exchange StorageI} (h : Opens kind x) :
      (Except.ok () : Except StorageError Unit) = .ok () ↔ ∃ y ∈ x :: past, Opens kind y :=
    iff_of_true rfl ⟨x, List.mem_cons_self, h⟩
  have failed {past : List (Exchange StorageI)} {why : StorageError}
      (h : ∀ x ∈ past, ¬ Opens kind x) :
      (Except.error why : Except StorageError Unit) = .ok () ↔ ∃ x ∈ past, Opens kind x :=
    iff_of_false nofun (by simpa using h)
  cases kind with
  | inKube =>
    refine ⟨List.forall_mem_nil _, fun (home : Option PodName) => ?_⟩
    cases home with
    | some pod => exact opened .home
    | none =>
      have unopened : ∀ x ∈ [(⟨.home, none⟩ : Exchange StorageI)], ¬ Opens .inKube x := by
        rintro _ (_ | ⟨_, ⟨⟩⟩) ⟨⟩
      obtain ⟨env, pod, listen, backoff⟩ := ctx
      cases pod with
      | none => exact failed unopened
      | some name =>
        refine ⟨unopened, fun (fetched : Except StorageError Pod) => ?_⟩
        have unopened : ∀ x ∈ [(⟨.getPod name, fetched⟩ : Exchange StorageI), ⟨.home, none⟩],
            ¬ Opens .inKube x := List.forall_mem_cons.2 ⟨nofun, unopened⟩
        cases fetched with
        | error why => exact failed unopened
        | ok pod => exact ⟨unopened, fun _ => opened .settle⟩
  | gauge =>
    refine ⟨List.forall_mem_nil _, fun (ready : Bool) => ?_⟩
    cases ready with
    | true => exact opened .gaugesOpen
    | false =>
      have unopened : ∀ x ∈ [(⟨.gaugesOpen, false⟩ : Exchange StorageI)], ¬ Opens .gauge x := by
        rintro _ (_ | ⟨_, ⟨⟩⟩) ⟨⟩
      obtain ⟨env, pod, listen, backoff⟩ := ctx
      cases listen with
      | none => exact ⟨unopened, fun _ => opened .openGauges⟩
      | some a =>
        refine ⟨unopened, fun (served : Bool) => ?_⟩
        have unopened : ∀ x ∈
            [(⟨.serveGauges a, served⟩ : Exchange StorageI), ⟨.gaugesOpen, false⟩],
            ¬ Opens .gauge x := List.forall_mem_cons.2 ⟨nofun, unopened⟩
        cases served with
        | false => exact failed unopened
        | true => exact ⟨unopened, fun _ => opened .openGauges⟩

end StorageContext

namespace Factory

variable {es : List Event} {w w' : World} {e : Event} {i j : Nat} {job : Job} {s : Stage}
  {kind : StorageKind}

/-- Whether an event brings a setup of the kind to nothing: it fails, or its caller gives up. -/
inductive Event.Fails (kind : StorageKind) (earlier : List Event) : Event → Prop
  | returned {j : Nat} {why : StorageError} : Fails kind earlier (.returned j kind (.error why))
  | dropped {j : Nat} (busy : (j, kind) ∈ underWay earlier) : Fails kind earlier (.dropped j)

/-- Whether something can happen to a call besides that its caller gives up. -/
def World.CanGoOn (w : World) (j : Nat) : Prop :=
  ∃ e w', Step w e w' ∧ e.by = j ∧ e ≠ .dropped j

/-- What can be relied on. -/
structure Sharing (es : List Event) (w : World) : Prop where
  /-- Setups do not overlap. -/
  alone : (underWay es).length ≤ 1
  /-- A kind that is ready is not set up again. -/
  once : ∀ {later earlier j kind}, es = later ++ .begun j kind :: earlier → ¬ IsReady kind earlier
  /-- A setup that comes to nothing leaves the kind unready. -/
  unready : ∀ {later earlier e kind}, es = later ++ e :: earlier → e.Fails kind earlier →
    ¬ IsReady kind (e :: earlier)
  /-- It is tried again before a later call for the kind has a result. -/
  retried : ∀ {later between earlier e j kind result},
    es = later ++ .ended j kind result :: (between ++ e :: earlier) → e.Fails kind earlier →
      .called j kind ∈ between → ∃ i, .begun i kind ∈ between
  /-- A call that succeeds has the storage of its kind, which is ready. -/
  ok : ∀ {later earlier j kind storage}, es = later ++ .ended j kind (.ok storage) :: earlier →
    storage = kind ∧ IsReady kind earlier
  /-- A call fails when its own setup does, and says so once. -/
  failed : ∀ {later earlier j kind why}, es = later ++ .ended j kind (.error why) :: earlier →
    ∃ cause, results j earlier = [(kind, .error cause)] ∧ kind.FailsWith cause why
  /-- A setup that fails is what its call comes to. -/
  surfaces : ∀ {later earlier j kind other cause result},
    es = later ++ .ended j kind result :: earlier → (other, .error cause) ∈ results j earlier →
      ∃ why, result = .error why ∧ kind.FailsWith cause why
  /-- A call goes on, or waits for another that does. -/
  goes_on : ∀ {j job}, w.jobs j = some job →
    w.CanGoOn j ∨ ∃ i, i ≠ j ∧ w.turn = some i ∧ w.CanGoOn i

/-! ### Going on -/

theorem At.canGoOn (h : At es w j job s) (doing : w.jobs j = some job) (moves : s ≠ .wait) :
    w.CanGoOn j := by
  obtain ⟨kind, remaining, busy⟩ := job
  have rest : remaining = s.rest kind := h.rest
  have idle (other : s ≠ .setUp) : busy = false := by
    cases busy with
    | true => exact absurd (h.busy rfl) other
    | false => rfl
  cases s with
  | look =>
    obtain rfl := idle nofun
    obtain rfl := rest.trans (storage_eq kind)
    exact ⟨_, _, .asked doing .isReady, rfl, nofun⟩
  | wait => exact absurd rfl moves
  | check =>
    obtain rfl := idle nofun
    subst rest
    exact ⟨_, _, .asked doing .isReady, rfl, nofun⟩
  | setUp =>
    subst rest
    cases busy with
    | true => exact ⟨_, _, .returned doing (.ok ()), rfl, nofun⟩
    | false => exact ⟨_, _, .begun doing, rfl, nofun⟩
  | leave result =>
    obtain rfl := idle nofun
    subst rest
    exact ⟨_, _, .asked doing .release, rfl, nofun⟩
  | closed result =>
    subst rest
    exact ⟨_, _, .ended doing, rfl, nofun⟩

/-- **A call goes on, or it waits for another that does.** -/
theorem Sound.goes_on_or (h : Sound es w) (doing : w.jobs j = some job) :
    w.CanGoOn j ∨ ∃ i, i ≠ j ∧ w.turn = some i ∧ w.CanGoOn i := by
  obtain ⟨s, at_⟩ := h.stage j job doing
  by_cases waits : s = .wait
  · subst waits
    cases turn : w.turn with
    | none =>
      obtain ⟨kind, remaining, busy⟩ := job
      obtain rfl : remaining = waiting kind := at_.rest
      cases busy with
      | true => cases at_.busy rfl
      | false => exact .inl ⟨_, _, .asked doing (.acquire turn), rfl, nofun⟩
    | some i =>
      obtain ⟨job', doing'⟩ := Option.isSome_iff_exists.1 (h.held i turn)
      obtain ⟨s', at'⟩ := h.stage i job' doing'
      have own : s'.hasTurn = true := at'.turn.1 turn
      refine .inr ⟨i, ?_, rfl, at'.canGoOn doing' ?_⟩
      · rintro rfl
        cases at_.turn.1 turn
      · rintro rfl
        cases own
  · exact .inl (at_.canGoOn doing waits)

/-! ### Single events -/

/-- The worlds before and after one of the events. -/
theorem Trace.split (t : Trace es w) {later earlier : List Event} (h : es = later ++ e :: earlier) :
    ∃ w₁ w₂, Trace earlier w₁ ∧ Step w₁ e w₂ := by
  subst h
  exact exists_step (fun | .cons before step => ⟨_, before, step⟩) t

theorem Trace.by_lt (t : Trace es w) (mem : e ∈ es) : e.by < w.next := by
  induction t with
  | nil => cases mem
  | @cons es w w' e' before step ih =>
    have born : e'.by < w'.next ∧ w.next ≤ w'.next := by
      cases step with
      | called => exact ⟨Nat.lt_succ_self _, Nat.le_succ _⟩
      | asked doing answers =>
        have lt := before.sound.lt doing
        cases answers <;> exact ⟨lt, Nat.le_refl _⟩
      | begun doing => exact ⟨before.sound.lt doing, Nat.le_refl _⟩
      | returned doing => exact ⟨before.sound.lt doing, Nat.le_refl _⟩
      | dropped doing => exact ⟨before.sound.lt doing, Nat.le_refl _⟩
      | ended doing => exact ⟨before.sound.lt doing, Nat.le_refl _⟩
    rcases List.mem_cons.1 mem with rfl | mem
    · exact born.1
    · exact Nat.lt_of_lt_of_le (ih mem) born.2

theorem Trace.by_ne (t : Trace es w) {later earlier : List Event}
    (h : es = later ++ .called j kind :: earlier) (mem : e ∈ earlier) : e.by ≠ j := by
  obtain ⟨w₁, w₂, before, step⟩ := t.split h
  have lt := before.by_lt mem
  cases step with
  | called => exact Nat.ne_of_lt lt

theorem Sound.unready (h : Sound es w) (mem : (j, kind) ∈ underWay es) : ¬ IsReady kind es := by
  obtain ⟨job, doing, busy, rfl⟩ := (h.busy j kind).1 mem
  obtain ⟨s, at_⟩ := h.stage j job doing
  have fits := at_.fits
  rw [at_.busy busy] at fits
  rw [← h.ready, fits.2]
  exact Bool.false_ne_true

theorem Sound.of_begun (h : Sound es w) (step : Step w (.begun j kind) w') : ¬ IsReady kind es := by
  cases step with
  | begun doing =>
    obtain ⟨rfl, -, -, -, unready⟩ := h.settingUp doing
    rw [← h.ready, unready]
    exact Bool.false_ne_true

theorem Sound.of_returned {result : Except StorageError Unit} (h : Sound es w)
    (step : Step w (.returned j kind result) w') : (j, kind) ∈ underWay es := by
  cases step with
  | returned doing =>
    obtain ⟨rfl, -⟩ := h.settingUp doing
    exact (h.busy j _).2 ⟨_, doing, rfl, rfl⟩

theorem Sound.of_ended {result : Except StorageError StorageKind} (h : Sound es w)
    (step : Step w (.ended j kind result) w') :
    ∃ r, Settled kind (results j es) (w.ready kind) r ∧ result = outcome kind r := by
  cases step with
  | ended doing =>
    obtain ⟨s, (rest : .done result = s.rest kind), -, -, fits⟩ := h.stage j _ doing
    cases s with
    | closed result' =>
      cases rest
      exact fits
    | look => cases rest.trans (storage_eq kind)
    | _ => cases rest

theorem mem_results {result : Except StorageError Unit} :
    (kind, result) ∈ results j es ↔ .returned j kind result ∈ es := by
  induction es with
  | nil => exact iff_of_false nofun nofun
  | cons e es ih =>
    rw [List.mem_cons, ← ih]
    cases e with
    | returned i k r =>
      by_cases same : i = j
      · subst same
        simp [results]
      · simp [results, same, Ne.symm same]
    | _ => simp [results]

/-! ### Trying again -/

theorem mem_underWay_cons (h : (i, kind) ∈ underWay (e :: es)) :
    e = .begun i kind ∨ (i, kind) ∈ underWay es := by
  cases e with
  | begun j k =>
    rcases List.mem_cons.1 h with same | mem
    · cases same
      exact .inl rfl
    · exact .inr mem
  | returned j => exact .inr (List.mem_filter.1 h).1
  | dropped j => exact .inr (List.mem_filter.1 h).1
  | _ => exact .inr h

theorem Sound.of_fails (h : Sound es w) (step : Step w e w') (fails : e.Fails kind es) :
    underWay (e :: es) = [] ∧ ¬ IsReady kind (e :: es) := by
  have busy : (e.by, kind) ∈ underWay es := by
    cases fails with
    | returned => exact h.of_returned step
    | dropped busy => exact busy
  -- it was the only one
  obtain ⟨x, alone⟩ := List.length_eq_one_iff.1
    (Nat.le_antisymm h.alone (List.length_pos_of_mem busy))
  rw [alone, List.mem_singleton] at busy
  subst busy
  have unready : ¬ IsReady kind es := h.unready (by rw [alone]; exact List.mem_singleton_self _)
  rw [isReady_cons, not_or]
  cases fails with
  | returned => exact ⟨by simp [underWay, alone, Event.by], by simp [Event.result?], unready⟩
  | dropped => exact ⟨by simp [underWay, alone, Event.by], by simp [Event.result?], unready⟩

theorem Trace.idle_since {later earlier : List Event} (t : Trace (later ++ e :: earlier) w)
    (fails : e.Fails kind earlier) (unset : ∀ i, .begun i kind ∉ later) :
    (∀ i, (i, kind) ∉ underWay (later ++ e :: earlier)) ∧
      ¬ IsReady kind (later ++ e :: earlier) ∧ ∀ i r, .returned i kind r ∉ later := by
  induction later generalizing w with
  | nil =>
    cases t with
    | cons before step =>
      obtain ⟨nothing, unready⟩ := before.sound.of_fails step fails
      exact ⟨fun i => by simp [nothing], unready, fun _ _ => List.not_mem_nil⟩
  | cons e' later ih =>
    cases t with
    | cons before step =>
      obtain ⟨idle, unready, none⟩ := ih before fun i mem => unset i (List.mem_cons_of_mem _ mem)
      have other (i : Nat) (r : Except StorageError Unit) : e' ≠ .returned i kind r := by
        rintro rfl
        exact idle i (before.sound.of_returned step)
      refine ⟨fun i busy => ?_, ?_, fun i r mem => ?_⟩
      · rcases mem_underWay_cons busy with rfl | busy
        · exact unset i List.mem_cons_self
        · exact idle i busy
      · rintro ⟨i, mem⟩
        rcases List.mem_cons.1 mem with rfl | mem
        · exact other i _ rfl
        · exact unready ⟨i, mem⟩
      · rcases List.mem_cons.1 mem with rfl | mem
        · exact other i r rfl
        · exact none i r mem

/-- **After a setup that came to nothing, a call that begins has no result before the kind is set up
again.** -/
theorem Trace.retried {later earlier : List Event} {result : Except StorageError StorageKind}
    (t : Trace (.ended j kind result :: (later ++ e :: earlier)) w) (fails : e.Fails kind earlier)
    (called : .called j kind ∈ later) : ∃ i, .begun i kind ∈ later := by
  refine Classical.byContradiction fun unset => ?_
  rw [not_exists] at unset
  cases t with
  | cons before step =>
    obtain ⟨-, unready, none⟩ := before.idle_since fails unset
    obtain ⟨r, ⟨own | ⟨-, rfl⟩, ready⟩, -⟩ := before.sound.of_ended step
    · have mem : .returned j kind r ∈ later ++ e :: earlier :=
        mem_results.1 (by rw [own]; exact List.mem_singleton_self _)
      rcases List.mem_append.1 mem with since | old
      · exact none j r since
      · -- the call was made later, so that setup cannot have been its own
        obtain ⟨a, b, rfl⟩ := List.append_of_mem called
        have split : (a ++ .called j kind :: b) ++ e :: earlier =
            a ++ .called j kind :: (b ++ e :: earlier) := by simp
        exact before.by_ne split (List.mem_append_right _ old) rfl
    · exact unready ((before.sound.ready kind).1 (ready rfl))

/-! ### All of it -/

/-- **What can be relied on, whatever has happened.** -/
theorem Trace.sharing (t : Trace es w) : Sharing es w where
  alone := t.sound.alone
  once h := by
    obtain ⟨_, _, before, step⟩ := t.split h
    exact before.sound.of_begun step
  unready h fails := by
    obtain ⟨_, _, before, step⟩ := t.split h
    exact (before.sound.of_fails step fails).2
  retried h fails called := by
    obtain ⟨_, _, before, step⟩ := t.split h
    exact (before.cons step).retried fails called
  ok h := by
    obtain ⟨_, _, before, step⟩ := t.split h
    obtain ⟨r, ⟨-, ready⟩, result⟩ := before.sound.of_ended step
    cases r with
    | ok u =>
      cases result
      exact ⟨rfl, (before.sound.ready _).1 (ready rfl)⟩
    | error cause => cases result
  failed h := by
    obtain ⟨_, _, before, step⟩ := t.split h
    obtain ⟨r, ⟨own | ⟨-, rfl⟩, -⟩, result⟩ := before.sound.of_ended step
    · cases r with
      | ok u => cases result
      | error cause =>
        cases result
        exact ⟨cause, own, StorageKind.failsWith_ofSetup⟩
    · cases result
  surfaces h mem := by
    obtain ⟨_, _, before, step⟩ := t.split h
    obtain ⟨r, ⟨own | ⟨own, -⟩, -⟩, rfl⟩ := before.sound.of_ended step
    · rw [own] at mem
      cases List.mem_singleton.1 mem
      exact ⟨_, rfl, StorageKind.failsWith_ofSetup⟩
    · rw [own] at mem
      cases mem
  goes_on doing := t.sound.goes_on_or doing

/-- Two calls for the gauges, of which the first fails and the second is given up while it sets them
up, and a third that succeeds; the newest event first. -/
def troubled : List Event := [
  .ended 2 .gauge (.ok .gauge), .asked 2 ⟨.release, ()⟩, .returned 2 .gauge (.ok ()),
  .begun 2 .gauge, .asked 2 ⟨.isReady .gauge, false⟩, .asked 2 ⟨.acquire, ()⟩,
  .asked 2 ⟨.isReady .gauge, false⟩, .called 2 .gauge,
  .dropped 1, .begun 1 .gauge, .asked 1 ⟨.isReady .gauge, false⟩, .asked 1 ⟨.acquire, ()⟩,
  .ended 0 .gauge (.error (.setupFailed "HTTPMetric" "Metric error: port in use")),
  .asked 0 ⟨.release, ()⟩, .returned 0 .gauge (.error (.metric "port in use")),
  .asked 1 ⟨.isReady .gauge, false⟩, .called 1 .gauge,
  .begun 0 .gauge, .asked 0 ⟨.isReady .gauge, false⟩, .asked 0 ⟨.acquire, ()⟩,
  .asked 0 ⟨.isReady .gauge, false⟩, .called 0 .gauge]

theorem sharing_troubled : ∃ w, Trace troubled w ∧ Sharing troubled w := by
  have t := Trace.nil.cons (.called : Step _ (.called 0 .gauge) _)
  have t := t.cons (.asked (j := 0) rfl .isReady)
  have t := t.cons (.asked (j := 0) rfl (.acquire rfl))
  have t := t.cons (.asked (j := 0) rfl .isReady)
  have t := t.cons (.begun (j := 0) rfl)
  have t := t.cons (.called : Step _ (.called 1 .gauge) _)
  have t := t.cons (.asked (j := 1) rfl .isReady)
  have t := t.cons (.returned (j := 0) rfl (.error (.metric "port in use")))
  have t := t.cons (.asked (j := 0) rfl .release)
  have t := t.cons (.ended (j := 0) rfl)
  have t := t.cons (.asked (j := 1) rfl (.acquire rfl))
  have t := t.cons (.asked (j := 1) rfl .isReady)
  have t := t.cons (.begun (j := 1) rfl)
  have t := t.cons (.dropped (j := 1) rfl)
  have t := t.cons (.called : Step _ (.called 2 .gauge) _)
  have t := t.cons (.asked (j := 2) rfl .isReady)
  have t := t.cons (.asked (j := 2) rfl (.acquire rfl))
  have t := t.cons (.asked (j := 2) rfl .isReady)
  have t := t.cons (.begun (j := 2) rfl)
  have t := t.cons (.returned (j := 2) rfl (.ok ()))
  have t := t.cons (.asked (j := 2) rfl .release)
  have t := t.cons (.ended (j := 2) rfl)
  exact ⟨_, t, Trace.sharing t⟩

end Factory

end Sidecar

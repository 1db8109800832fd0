import Sidecar.Proofs.Activity
import Sidecar.Storage.Factory

/-!
# Storages that are asked for at the same time

`Factory.storage` gives the storage of a kind once it is set up.  A `Factory.World` is the factory
with all the calls that are being worked on.  Between two questions of one call anything may happen
to the others: `Factory.Step` is one event, chosen freely among all that are possible, and
`Factory.Trace` relates a world to the events that led to it, the newest first.

A setup begins and some time later comes to any result, unless its caller gives up before; a kind is
ready from when a setup of it succeeds.  A caller may give up at any question, and whoever gives up
leaves the turn to others.

* `Factory.Stage` : what can remain of a call;
* `Factory.Sound` : how calls, turn and readiness belong together;
* `Factory.Trace.sound` : **so they do whatever has happened**.
-/

namespace Sidecar.Factory

/-- Something that happens. -/
inductive Event where
  /-- The storage of a kind is asked for. -/
  | called (j : Nat) (kind : StorageKind)
  /-- A question is asked for a call and answered at once. -/
  | asked (j : Nat) (x : Exchange FactoryI)
  /-- The setup of a kind begins. -/
  | begun (j : Nat) (kind : StorageKind)
  /-- The setup of a kind has a result. -/
  | returned (j : Nat) (kind : StorageKind) (result : Except StorageError Unit)
  /-- The caller gives up. -/
  | dropped (j : Nat)
  /-- A call for a kind has a result. -/
  | ended (j : Nat) (kind : StorageKind) (result : Except StorageError StorageKind)

/-- The call of an event. -/
def Event.by : Event → Nat
  | .called j _ | .asked j _ | .begun j _ | .returned j .. | .dropped j | .ended j .. => j

/-- A call that is being worked on. -/
structure Job where
  /-- The kind that is asked for. -/
  kind : StorageKind
  /-- What remains of its activity. -/
  remaining : Activity FactoryI (Except StorageError StorageKind)
  /-- Whether the question that is next was begun. -/
  busy : Bool

/-- The factory at work. -/
structure World where
  /-- The calls that are being worked on, by their numbers. -/
  jobs : Nat → Option Job
  /-- The number of the next call. -/
  next : Nat
  /-- The call whose turn it is to set a storage up. -/
  turn : Option Nat
  /-- The kinds that are set up. -/
  ready : StorageKind → Bool

namespace World

/-- A factory to which nothing has happened. -/
def new : World := { jobs := fun _ => none, next := 0, turn := none, ready := fun _ => false }

/-- Go on with a call, or end it. -/
def set (w : World) (j : Nat) (job : Option Job) : World :=
  { w with jobs := fun i => if i = j then job else w.jobs i }

/-- The same with the turn of another call. -/
def withTurn (w : World) (turn : Option Nat) : World := { w with turn }

/-- The same after a setup: a kind is ready if it succeeded. -/
def withResult (w : World) (kind : StorageKind) (result : Except StorageError Unit) : World :=
  { w with ready := fun k => w.ready k || (k = kind && result.isOk) }

end World

/-- The questions that are answered at once, and the world afterwards. -/
inductive Answers (w : World) (j : Nat) : (q : FactoryAsk) → q.Reply → World → Prop
  | isReady {kind : StorageKind} : Answers w j (.isReady kind) (w.ready kind) w
  | acquire (free : w.turn = none) : Answers w j .acquire () (w.withTurn (some j))
  | release : Answers w j .release () (w.withTurn none)

/-- What may happen, and the world afterwards. -/
inductive Step : World → Event → World → Prop
  | called {w : World} {kind : StorageKind} :
      Step w (.called w.next kind)
        { w.set w.next (some ⟨kind, storage kind, false⟩) with next := w.next + 1 }
  | asked {w w' : World} {j : Nat} {kind : StorageKind} {q : FactoryAsk}
      {next : q.Reply → Activity FactoryI (Except StorageError StorageKind)} {r : q.Reply}
      (doing : w.jobs j = some ⟨kind, Activity.ask q next, false⟩) (answers : Answers w j q r w') :
      Step w (.asked j ⟨q, r⟩) (w'.set j (some ⟨kind, next r, false⟩))
  | begun {w : World} {j : Nat} {kind other : StorageKind}
      {next : Except StorageError Unit → Activity FactoryI (Except StorageError StorageKind)}
      (doing : w.jobs j = some ⟨kind, Activity.ask (.setUp other) next, false⟩) :
      Step w (.begun j other) (w.set j (some ⟨kind, Activity.ask (.setUp other) next, true⟩))
  | returned {w : World} {j : Nat} {kind other : StorageKind}
      {next : Except StorageError Unit → Activity FactoryI (Except StorageError StorageKind)}
      (doing : w.jobs j = some ⟨kind, Activity.ask (.setUp other) next, true⟩)
      (result : Except StorageError Unit) :
      Step w (.returned j other result)
        ((w.withResult other result).set j (some ⟨kind, next result, false⟩))
  | dropped {w : World} {j : Nat} {kind : StorageKind} {q : FactoryAsk}
      {next : q.Reply → Activity FactoryI (Except StorageError StorageKind)} {busy : Bool}
      (doing : w.jobs j = some ⟨kind, Activity.ask q next, busy⟩) :
      Step w (.dropped j) ((w.withTurn (w.turn.filter (· ≠ j))).set j none)
  | ended {w : World} {j : Nat} {kind : StorageKind} {result : Except StorageError StorageKind}
      {busy : Bool} (doing : w.jobs j = some ⟨kind, .done result, busy⟩) :
      Step w (.ended j kind result) (w.set j none)

/-- What may have happened when the factory has come to a world, the newest first. -/
inductive Trace : List Event → World → Prop
  | nil : Trace [] .new
  | cons {es : List Event} {w w' : World} {e : Event} (before : Trace es w) (step : Step w e w') :
      Trace (e :: es) w'

/-- The setups that are under way: calls with the kinds that they set up. -/
def underWay : List Event → List (Nat × StorageKind)
  | [] => []
  | .begun j kind :: es => (j, kind) :: underWay es
  | .returned j .. :: es | .dropped j :: es => (underWay es).filter (·.1 ≠ j)
  | .called .. :: es | .asked .. :: es | .ended .. :: es => underWay es

/-- The results of the setups of a call. -/
def results (j : Nat) : List Event → List (StorageKind × Except StorageError Unit)
  | [] => []
  | .returned i kind result :: es =>
    if i = j then (kind, result) :: results j es else results j es
  | .called .. :: es | .asked .. :: es | .begun .. :: es | .dropped _ :: es | .ended .. :: es =>
    results j es

/-- Whether a setup of the kind has succeeded. -/
def IsReady (kind : StorageKind) (es : List Event) : Prop := ∃ j, .returned j kind (.ok ()) ∈ es

/-! ### What remains of a call -/

section Remainder

variable (kind : StorageKind)

/-- What a call comes to with the result of its setup. -/
def outcome (result : Except StorageError Unit) : Except StorageError StorageKind :=
  (result.mapError (StorageError.ofSetup kind)).map fun _ => kind

/-- A call that lets others set storages up. -/
def leaving (result : Except StorageError Unit) :
    Activity FactoryI (Except StorageError StorageKind) :=
  Activity.ask (I := FactoryI) .release fun _ => .done (outcome kind result)

/-- A call that sets the storage up. -/
def settingUp : Activity FactoryI (Except StorageError StorageKind) :=
  Activity.ask (I := FactoryI) (.setUp kind) (leaving kind)

/-- A call that looks again. -/
def checking : Activity FactoryI (Except StorageError StorageKind) :=
  Activity.ask (I := FactoryI) (.isReady kind) fun (ready : Bool) =>
    bif ready then leaving kind (.ok ()) else settingUp kind

/-- A call that waits for its turn. -/
def waiting : Activity FactoryI (Except StorageError StorageKind) :=
  Activity.ask (I := FactoryI) .acquire fun _ => checking kind

theorem ask_congr {α : Type} {q : FactoryAsk} {f g : q.Reply → Activity FactoryI α}
    (h : ∀ r, f r = g r) : Activity.ask (I := FactoryI) q f = Activity.ask q g :=
  congrArg _ (funext h)

/-- A call looks first, and waits for its turn if the storage is not ready. -/
theorem storage_eq :
    storage kind = Activity.ask (I := FactoryI) (.isReady kind) fun (ready : Bool) =>
      bif ready then .done (.ok kind) else waiting kind := by
  refine ask_congr fun (ready : Bool) => ?_
  cases ready with
  | true => rfl
  | false =>
    refine ask_congr fun _ => ask_congr fun (ready : Bool) => ?_
    cases ready <;> rfl

end Remainder

/-- How far a call is. -/
inductive Stage where
  /-- It looks whether the storage is ready. -/
  | look
  /-- It waits for its turn. -/
  | wait
  /-- It looks again. -/
  | check
  /-- It sets the storage up. -/
  | setUp
  /-- It lets others set storages up. -/
  | leave (result : Except StorageError Unit)
  /-- It has a result. -/
  | closed (result : Except StorageError StorageKind)

/-- Whether a call may have a result: it is that of its own setup, or there was none because the
kind was ready. -/
def Settled (kind : StorageKind) (own : List (StorageKind × Except StorageError Unit))
    (ready : Bool) (result : Except StorageError Unit) : Prop :=
  (own = [(kind, result)] ∨ own = [] ∧ result = .ok ()) ∧ (result = .ok () → ready = true)

namespace Stage

/-- What remains of a call at a stage. -/
def rest (kind : StorageKind) : Stage → Activity FactoryI (Except StorageError StorageKind)
  | look => storage kind
  | wait => waiting kind
  | check => checking kind
  | setUp => settingUp kind
  | leave result => leaving kind result
  | closed result => .done result

/-- Whether it is the turn of a call at a stage. -/
def hasTurn : Stage → Bool
  | check | setUp | leave _ => true
  | look | wait | closed _ => false

/-- What is known at a stage from the results of the own setups and the readiness of the kind. -/
def Fits (kind : StorageKind) (own : List (StorageKind × Except StorageError Unit))
    (ready : Bool) : Stage → Prop
  | look | wait | check => own = []
  | setUp => own = [] ∧ ready = false
  | leave result => Settled kind own ready result
  | closed result => ∃ r, Settled kind own ready r ∧ result = outcome kind r

end Stage

/-! ### What holds throughout -/

/-- A call is at a stage. -/
structure At (es : List Event) (w : World) (j : Nat) (job : Job) (s : Stage) : Prop where
  rest : job.remaining = s.rest job.kind
  turn : w.turn = some j ↔ s.hasTurn = true
  busy : job.busy = true → s = .setUp
  fits : s.Fits job.kind (results j es) (w.ready job.kind)

/-- How calls, turn and readiness belong together. -/
structure Sound (es : List Event) (w : World) : Prop where
  /-- The numbers of calls to come are free. -/
  fresh : ∀ j, w.next ≤ j → w.jobs j = none
  /-- They have set nothing up. -/
  unborn : ∀ j, w.next ≤ j → results j es = []
  /-- Every call is at a stage. -/
  stage : ∀ j job, w.jobs j = some job → ∃ s, At es w j job s
  /-- It is the turn of a call that is being worked on. -/
  held : ∀ j, w.turn = some j → (w.jobs j).isSome = true
  /-- The kinds that are ready are those of which a setup succeeded. -/
  ready : ∀ kind, w.ready kind = true ↔ IsReady kind es
  /-- The setups under way are those that calls are waiting for. -/
  busy : ∀ j kind, (j, kind) ∈ underWay es ↔
    ∃ job, w.jobs j = some job ∧ job.busy = true ∧ job.kind = kind
  /-- There is one at most. -/
  alone : (underWay es).length ≤ 1

variable {es : List Event} {w w' : World} {e : Event} {i j : Nat} {job : Job} {s : Stage}
  {kind : StorageKind}

theorem results_cons_of_ne (h : e.by ≠ i) : results i (e :: es) = results i es := by
  cases e with
  | returned j kind result => exact if_neg h
  | _ => rfl

theorem mem_underWay_cons_of_ne (h : e.by ≠ i) :
    (i, kind) ∈ underWay (e :: es) ↔ (i, kind) ∈ underWay es := by
  have differs : i ≠ e.by := h.symm
  cases e with
  | begun j k =>
    exact List.mem_cons.trans (or_iff_right fun same => differs (congrArg Prod.fst same))
  | returned j =>
    have differs : i ≠ j := differs
    simp [underWay, differs]
  | dropped j =>
    have differs : i ≠ j := differs
    simp [underWay, differs]
  | _ => rfl

theorem At.other (h : At es w i job s) (apart : e.by ≠ i)
    (turn : w'.turn = some i ↔ w.turn = some i)
    (ready : w'.ready job.kind = w.ready job.kind ∨ s ≠ .setUp ∧ w'.ready job.kind = true) :
    At (e :: es) w' i job s where
  rest := h.rest
  turn := turn.trans h.turn
  busy := h.busy
  fits := by
    have fits := h.fits
    rw [results_cons_of_ne apart]
    rcases ready with same | ⟨unset, grows⟩
    · rw [same]
      exact fits
    · rw [grows]
      cases s with
      | setUp => exact absurd rfl unset
      | leave r => exact ⟨fits.1, fun _ => rfl⟩
      | closed r =>
        obtain ⟨r, settled, rfl⟩ := fits
        exact ⟨r, ⟨settled.1, fun _ => rfl⟩, rfl⟩
      | _ => exact fits

/-- An event that changes one call keeps everything in order, if that call is in order. -/
theorem Sound.update (h : Sound es w) {job' : Option Job} (by_ : e.by = j)
    (jobs : w'.jobs = (w.set j job').jobs) (next : w.next ≤ w'.next) (born : j < w'.next)
    (turn : ∀ i ≠ j, w'.turn = some i ↔ w.turn = some i)
    (others : ∀ i ≠ j, ∀ job s, At es w i job s →
      w'.ready job.kind = w.ready job.kind ∨ s ≠ .setUp ∧ w'.ready job.kind = true)
    (self : ∀ job, job' = some job → ∃ s, At (e :: es) w' j job s)
    (held : w'.turn = some j → job'.isSome = true)
    (ready : ∀ kind, w'.ready kind = true ↔ IsReady kind (e :: es))
    (busy : ∀ kind, (j, kind) ∈ underWay (e :: es) ↔
      ∃ job, job' = some job ∧ job.busy = true ∧ job.kind = kind)
    (alone : (underWay (e :: es)).length ≤ 1) : Sound (e :: es) w' := by
  subst by_
  have jobs_self : w'.jobs e.by = job' := by
    rw [jobs]
    exact if_pos rfl
  have jobs_other (i : Nat) (apart : i ≠ e.by) : w'.jobs i = w.jobs i := by
    rw [jobs]
    exact if_neg apart
  refine { fresh := fun i hi => ?_, unborn := fun i hi => ?_, stage := fun i job doing => ?_
           held := fun i his => ?_, ready := ready, busy := fun i kind => ?_, alone := alone }
  · rw [jobs_other i (by omega)]
    exact h.fresh i (by omega)
  · rw [results_cons_of_ne (by omega)]
    exact h.unborn i (by omega)
  · by_cases same : i = e.by
    · subst same
      exact self job (jobs_self.symm.trans doing)
    · rw [jobs_other i same] at doing
      obtain ⟨s, at_⟩ := h.stage i job doing
      exact ⟨s, at_.other (Ne.symm same) (turn i same) (others i same job s at_)⟩
  · by_cases same : i = e.by
    · subst same
      rw [jobs_self]
      exact held his
    · rw [jobs_other i same]
      exact h.held i ((turn i same).1 his)
  · by_cases same : i = e.by
    · subst same
      rw [jobs_self]
      exact busy kind
    · rw [mem_underWay_cons_of_ne (Ne.symm same), jobs_other i same]
      exact h.busy i kind

/-- The result of a setup, if the event is one. -/
def Event.result? : Event → Option (StorageKind × Except StorageError Unit)
  | .returned _ kind result => some (kind, result)
  | .called .. | .asked .. | .begun .. | .dropped _ | .ended .. => none

theorem isReady_cons :
    IsReady kind (e :: es) ↔ e.result? = some (kind, .ok ()) ∨ IsReady kind es := by
  constructor
  · rintro ⟨j, mem⟩
    rcases List.mem_cons.1 mem with rfl | mem
    · exact .inl rfl
    · exact .inr ⟨j, mem⟩
  · rintro (now | ⟨j, mem⟩)
    · cases e with
      | returned j k result =>
        cases now
        exact ⟨j, List.mem_cons_self⟩
      | _ => cases now
    · exact ⟨j, List.mem_cons_of_mem _ mem⟩

theorem Sound.ready_cons (h : Sound es w) (none : e.result? = none) (same : w'.ready = w.ready) :
    w'.ready kind = true ↔ IsReady kind (e :: es) := by
  rw [same, h.ready, isReady_cons, none]
  simp

theorem Sound.lt (h : Sound es w) (doing : w.jobs j = some job) : j < w.next := by
  rcases Nat.lt_or_ge j w.next with born | unborn
  · exact born
  · rw [h.fresh j unborn] at doing
    cases doing

theorem Sound.not_mem_underWay (h : Sound es w)
    (idle : ∀ job, w.jobs j = some job → job.busy = false) : (j, kind) ∉ underWay es := by
  intro mem
  obtain ⟨job, doing, busy, -⟩ := (h.busy j kind).1 mem
  rw [idle job doing] at busy
  cases busy

theorem Sound.called (h : Sound es w) :
    Sound (.called w.next kind :: es)
      { w.set w.next (some ⟨kind, storage kind, false⟩) with next := w.next + 1 } := by
  have free : w.jobs w.next = none := h.fresh _ (Nat.le_refl _)
  have idle : w.turn ≠ some w.next := fun turn => by
    have taken := h.held _ turn
    rw [free] at taken
    cases taken
  have unset (k : StorageKind) : (w.next, k) ∉ underWay es :=
    h.not_mem_underWay fun job doing => by
      rw [free] at doing
      cases doing
  refine h.update rfl rfl (Nat.le_succ _) (Nat.lt_succ_self _) (fun i apart => .rfl)
    (fun i apart job s at_ => .inl rfl) ?_ (fun turn => absurd turn idle)
    (fun kind => h.ready_cons rfl rfl) (fun k => iff_of_false (unset k) ?_) h.alone
  · rintro _ ⟨⟩
    exact ⟨.look, rfl, iff_of_false idle (by decide), (by rintro ⟨⟩), h.unborn _ (Nat.le_refl _)⟩
  · rintro ⟨_, ⟨⟩, ⟨⟩, -⟩

theorem Sound.goes_on (h : Sound es w) {x : Exchange FactoryI} {turn : Option Nat}
    {y y' : Activity FactoryI (Except StorageError StorageKind)}
    (doing : w.jobs j = some ⟨kind, y, false⟩) (others : ∀ i ≠ j, turn = some i ↔ w.turn = some i)
    (rest : y' = s.rest kind) (self : turn = some j ↔ s.hasTurn = true)
    (fits : s.Fits kind (results j es) (w.ready kind)) :
    Sound (.asked j x :: es) ((w.withTurn turn).set j (some ⟨kind, y', false⟩)) := by
  have unset (k : StorageKind) : (j, k) ∉ underWay es :=
    h.not_mem_underWay fun job same => by
      rw [doing] at same
      cases same
      rfl
  refine h.update (j := j) rfl rfl (Nat.le_refl _) (h.lt doing) others
    (fun i apart job s at_ => .inl rfl) ?_ (fun _ => rfl) (fun kind => h.ready_cons rfl rfl)
    (fun k => iff_of_false (unset k) ?_) h.alone
  · rintro _ ⟨⟩
    exact ⟨s, rest, self, (by rintro ⟨⟩), fits⟩
  · rintro ⟨_, ⟨⟩, ⟨⟩, -⟩

/-- What an answer leads to: the next stage, and whose turn it is. -/
theorem Sound.asked {q : FactoryAsk} {r : q.Reply}
    {next : q.Reply → Activity FactoryI (Except StorageError StorageKind)} (h : Sound es w)
    (doing : w.jobs j = some ⟨kind, Activity.ask q next, false⟩) (answers : Answers w j q r w') :
    Sound (.asked j ⟨q, r⟩ :: es) (w'.set j (some ⟨kind, next r, false⟩)) := by
  obtain ⟨s, (rest : Activity.ask q next = s.rest kind), turn, -, fits⟩ := h.stage j _ doing
  cases s with
  | look =>
    replace rest := rest.trans (storage_eq kind)
    cases rest
    cases answers with
    | isReady =>
      cases ready : w.ready kind with
      | true =>
        exact h.goes_on (s := .closed (.ok kind)) doing (fun _ _ => .rfl) rfl turn
          ⟨.ok (), ⟨.inr ⟨fits, rfl⟩, fun _ => ready⟩, rfl⟩
      | false => exact h.goes_on (s := .wait) doing (fun _ _ => .rfl) rfl turn fits
  | wait =>
    cases rest
    cases answers with
    | acquire free =>
      refine h.goes_on (s := .check) doing (fun i apart => ?_) rfl (iff_of_true rfl rfl) fits
      rw [free]
      exact iff_of_false (fun same => apart (Option.some.inj same).symm) nofun
  | check =>
    cases rest
    cases answers with
    | isReady =>
      cases ready : w.ready kind with
      | true =>
        exact h.goes_on (s := .leave (.ok ())) doing (fun _ _ => .rfl) rfl turn
          ⟨.inr ⟨fits, rfl⟩, fun _ => ready⟩
      | false => exact h.goes_on (s := .setUp) doing (fun _ _ => .rfl) rfl turn ⟨fits, ready⟩
  | setUp =>
    cases rest
    cases answers
  | leave result =>
    cases rest
    cases answers with
    | release =>
      have own : w.turn = some j := turn.2 rfl
      refine h.goes_on (s := .closed _) doing (fun i apart => ?_) rfl (iff_of_false nofun nofun)
        ⟨result, fits, rfl⟩
      rw [own]
      exact iff_of_false nofun fun same => apart (Option.some.inj same).symm
  | closed result => cases rest

theorem Sound.settingUp {other : StorageKind} {busy : Bool}
    {next : Except StorageError Unit → Activity FactoryI (Except StorageError StorageKind)}
    (h : Sound es w) (doing : w.jobs j = some ⟨kind, Activity.ask (.setUp other) next, busy⟩) :
    other = kind ∧ next = leaving kind ∧ w.turn = some j ∧ results j es = [] ∧
      w.ready kind = false := by
  obtain ⟨s, (rest : Activity.ask (FactoryAsk.setUp other) next = s.rest kind), turn, -, fits⟩ :=
    h.stage j _ doing
  cases s with
  | setUp =>
    cases rest
    exact ⟨rfl, rfl, turn.2 rfl, fits⟩
  | look => cases rest.trans (storage_eq kind)
  | _ => cases rest

theorem Sound.begun {other : StorageKind}
    {next : Except StorageError Unit → Activity FactoryI (Except StorageError StorageKind)}
    (h : Sound es w) (doing : w.jobs j = some ⟨kind, Activity.ask (.setUp other) next, false⟩) :
    Sound (.begun j other :: es)
      (w.set j (some ⟨kind, Activity.ask (.setUp other) next, true⟩)) := by
  obtain ⟨rfl, rfl, turn, own, unready⟩ := h.settingUp doing
  -- another that sets a storage up would have the turn as well
  have nobody : underWay es = [] := by
    refine List.eq_nil_iff_forall_not_mem.2 fun (i, k) mem => ?_
    obtain ⟨job, doing', busy, -⟩ := (h.busy i k).1 mem
    obtain ⟨s, at_⟩ := h.stage i job doing'
    have his : w.turn = some i := at_.turn.2 (by rw [at_.busy busy]; rfl)
    obtain rfl : i = j := Option.some.inj (his.symm.trans turn)
    rw [doing] at doing'
    cases doing'
    cases busy
  refine h.update (j := j) rfl rfl (Nat.le_refl _) (h.lt doing) (fun _ _ => .rfl)
    (fun i apart job s at_ => .inl rfl) ?_ (fun _ => rfl) (fun kind => h.ready_cons rfl rfl) ?_ ?_
  · rintro _ ⟨⟩
    exact ⟨.setUp, rfl, iff_of_true turn rfl, fun _ => rfl, own, unready⟩
  · intro k
    simp only [underWay, nobody, List.mem_singleton, Prod.mk.injEq, true_and]
    constructor
    · rintro rfl
      exact ⟨_, rfl, rfl, rfl⟩
    · rintro ⟨_, ⟨⟩, -, rfl⟩
      rfl
  · simp [underWay, nobody]

theorem Sound.returned {other : StorageKind}
    {next : Except StorageError Unit → Activity FactoryI (Except StorageError StorageKind)}
    (h : Sound es w) (doing : w.jobs j = some ⟨kind, Activity.ask (.setUp other) next, true⟩)
    (result : Except StorageError Unit) :
    Sound (.returned j other result :: es)
      ((w.withResult other result).set j (some ⟨kind, next result, false⟩)) := by
  obtain ⟨rfl, rfl, turn, own, unready⟩ := h.settingUp doing
  have mine : results j (.returned j other result :: es) = [(other, result)] := by
    rw [results, if_pos rfl, own]
  refine h.update (j := j) rfl rfl (Nat.le_refl _) (h.lt doing) (fun _ _ => .rfl) ?_ ?_
    (fun _ => rfl) ?_ ?_ ?_
  · -- the readiness can only grow, and nobody else is about to set a storage up
    intro i apart job s at_
    have unset : s ≠ .setUp := by
      rintro rfl
      exact apart (Option.some.inj ((at_.turn.2 rfl).symm.trans turn))
    change (w.ready job.kind || _) = _ ∨ _ ∧ (w.ready job.kind || _) = _
    cases w.ready job.kind with
    | true => exact .inl rfl
    | false =>
      cases grows : decide (job.kind = other) && result.isOk with
      | true => exact .inr ⟨unset, rfl⟩
      | false => exact .inl rfl
  · rintro _ ⟨⟩
    refine ⟨.leave result, rfl, iff_of_true turn rfl, nofun, ?_⟩
    rw [mine]
    refine ⟨.inl rfl, ?_⟩
    rintro rfl
    simp [World.set, World.withResult, Except.isOk, Except.toBool]
  · intro k
    rw [isReady_cons, ← h.ready]
    cases result with
    | error why => simp [World.set, World.withResult, Event.result?, Except.isOk, Except.toBool]
    | ok u =>
      simp only [World.set, World.withResult, Event.result?, Except.isOk, Except.toBool,
        Bool.and_true, Bool.or_eq_true, decide_eq_true_eq, Option.some.injEq, Prod.mk.injEq,
        and_true]
      rw [or_comm, eq_comm]
  · intro k
    refine iff_of_false (by simp [underWay]) ?_
    rintro ⟨_, ⟨⟩, ⟨⟩, -⟩
  · exact Nat.le_trans (List.length_filter_le _ _) h.alone

theorem Sound.drop (h : Sound es w) (doing : w.jobs j = some job) {turn : Option Nat}
    (by_ : e.by = j) (others : ∀ i ≠ j, turn = some i ↔ w.turn = some i) (own : turn ≠ some j)
    (unset : e.result? = none) (gone : ∀ kind, (j, kind) ∉ underWay (e :: es))
    (fewer : (underWay (e :: es)).length ≤ (underWay es).length) :
    Sound (e :: es) ((w.withTurn turn).set j none) := by
  refine h.update by_ rfl (Nat.le_refl _) (h.lt doing) others (fun i apart job s at_ => .inl rfl)
    nofun (fun his => absurd his own) (fun kind => h.ready_cons unset rfl) (fun kind => ?_)
    (Nat.le_trans fewer h.alone)
  exact iff_of_false (gone kind) nofun

theorem Sound.dropped (h : Sound es w) (doing : w.jobs j = some job) :
    Sound (.dropped j :: es) ((w.withTurn (w.turn.filter (· ≠ j))).set j none) := by
  refine h.drop doing rfl (fun i apart => ?_) ?_ rfl (fun kind => by simp [underWay])
    (List.length_filter_le _ _)
  · simpa [Option.filter_eq_some_iff] using fun _ => apart
  · simp [Option.filter_eq_some_iff]

theorem Sound.ended {result : Except StorageError StorageKind} {busy : Bool} (h : Sound es w)
    (doing : w.jobs j = some ⟨kind, .done result, busy⟩) :
    Sound (.ended j kind result :: es) (w.set j none) := by
  obtain ⟨s, (rest : .done result = s.rest kind), turn, waits, -⟩ := h.stage j _ doing
  cases s with
  | closed result' =>
    cases rest
    have idle : w.turn ≠ some j := fun his => nomatch turn.1 his
    refine h.drop doing rfl (fun _ _ => .rfl) idle rfl (fun k => ?_) (Nat.le_refl _)
    refine h.not_mem_underWay fun job same => ?_
    rw [doing] at same
    cases same
    cases busy with
    | true => cases waits rfl
    | false => rfl
  | look => cases rest.trans (storage_eq kind)
  | _ => cases rest

theorem Sound.step (h : Sound es w) (step : Step w e w') : Sound (e :: es) w' := by
  cases step with
  | called => exact h.called
  | asked doing answers => exact h.asked doing answers
  | begun doing => exact h.begun doing
  | returned doing result => exact h.returned doing result
  | dropped doing => exact h.dropped doing
  | ended doing => exact h.ended doing

/-- **Calls, turn and readiness belong together whatever has happened.** -/
theorem Trace.sound (t : Trace es w) : Sound es w := by
  induction t with
  | nil =>
    exact {
      fresh := fun _ _ => rfl, unborn := fun _ _ => rfl, stage := nofun, held := nofun
      ready := fun kind => iff_of_false nofun nofun
      busy := fun j kind => iff_of_false nofun nofun, alone := Nat.zero_le 1 }
  | cons before step ih => exact ih.step step

end Sidecar.Factory

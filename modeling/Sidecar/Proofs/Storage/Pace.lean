import Mathlib.Algebra.Order.BigOperators.Group.List
import Sidecar.Probe.Sandbox
import Sidecar.Proofs.Storage.Retry

/-!
# The pace of a backoff

The waits of a backoff among what was asked (`waits`) are the first of `Backoff.pause?`, in order and
fewer than its attempts, whatever the operation comes to (`Backoff.keeps_waits`).  So
(`Backoff.Paced`) they are short: **all but the first are within the cap**.  The first is what the
backoff says, within the cap or not.

* `Backoff.paced` : the pace of an operation that is retried on conflicts, and of a probe.
-/

namespace Sidecar

open Activity (Surroundings Asks)

/-- The spans for which it was waited among what was asked, the oldest first. -/
def waits {I : Interface} (span? : I.Ask → Option Span) (past : List (Exchange I)) : List Span :=
  (past.filterMap fun x => span? x.question).reverse

/-- The span for which a trial waits with a question. -/
def TrialAsk.span? : TrialAsk → Option Span
  | .wait w => some w
  | .attempt | .breakOff => none

/-- The span for which a probe waits with a question. -/
def Probe.Ask.span? : Probe.Ask → Option Span
  | .wait w => some w
  | .fetch .. | .store .. | .breakOff => none

namespace Backoff

variable {b : Backoff} {n : Nat} {ws : List Span} {w : Span}

/-- Whether these are the first `n` waits of a backoff. -/
def Follows (b : Backoff) (n : Nat) (ws : List Span) : Prop :=
  ws.map some = (List.range n).map b.pause?

theorem Follows.snoc (h : b.Follows n ws) (pause : b.pause? n = some w) :
    b.Follows (n + 1) (ws ++ [w]) := by
  unfold Follows at *
  rw [List.range_succ, List.map_append, List.map_append, h, List.map_singleton,
    List.map_singleton, pause]

/-! ### What is waited -/

section Rule

variable {I : Interface} {span? : I.Ask → Option Span} {past : List (Exchange I)}

theorem waits_append {later : List (Exchange I)} (quiet : ∀ e ∈ later, span? e.question = none) :
    waits span? (later ++ past) = waits span? past := by
  have none : later.filterMap (fun x => span? x.question) = [] :=
    List.filterMap_eq_nil_iff.2 quiet
  rw [waits, List.filterMap_append, none, List.nil_append, waits]

theorem waits_cons {e : Exchange I} (h : span? e.question = some w) :
    waits span? (e :: past) = waits span? past ++ [w] := by
  simp only [waits, List.filterMap_cons, h, List.reverse_cons]

theorem exists_follows {β : Type} {x : Activity I β} (s : Surroundings I)
    (h : x.Keeps (fun past _ => ∃ n < b.attempts, b.Follows n (waits span? past))
      (fun past _ => ∃ n < b.attempts, b.Follows n (waits span? past)) []) :
    ∃ n < b.attempts, b.Follows n (waits span? (x.within s []).1) := by
  cases result : (x.within s []).2 with
  | some r => exact h.of_result result
  | none =>
    obtain ⟨q, -, follows⟩ := h.of_open result
    exact follows

variable [Patient I] {ε α : Type} {again : ε → Bool} {giveUp : Nat → ε → ε}
  {op : Activity I (Except ε α)}

/-- **Attempts wait as their backoff says**, if nothing else waits: neither the operation nor whatever
breaks off. -/
theorem keeps_waits
    (waiting : ∀ w, ∃ q : I.Ask,
      (Patient.wait w : Activity I Unit) = .ask q (fun _ => .done ()) ∧ span? q = some w)
    (breaking : (Patient.breakOff : Activity I (Except ε α)).Asks fun q => span? q = none)
    (quiet : op.Asks fun q => span? q = none) :
    (b.attempt again giveUp op).Keeps
      (fun past _ => ∃ n < b.attempts, b.Follows n (waits span? past))
      (fun past _ => ∃ n < b.attempts, b.Follows n (waits span? past)) [] := by
  refine keeps_rounds (fun outcomes past => b.Follows outcomes.length (waits span? past))
    (fun outcomes past => b.Follows (outcomes.length - 1) (waits span? past))
    rfl ?tries ?waits ?breaksOff ?finishes
  case tries =>
    intro met past goes ready
    rw [List.length_map] at ready
    refine .weaken (quiet.keeps fun later q asked _ => ⟨_, goes.room, ?_⟩) ?_
    · rwa [waits_append asked]
    · rintro past' r ⟨later, rfl, asked⟩
      rw [waits_append asked]
      simpa using ready
  case waits =>
    intro met e past w goes pause tried
    obtain ⟨q, hwait, hq⟩ := waiting w
    have tried : b.Follows met.length (waits span? past) := by simpa using tried
    rw [hwait]
    refine ⟨⟨_, goes.room, tried⟩, fun r => ?_⟩
    have ready := tried.snoc pause
    rw [← waits_cons (e := ⟨q, r⟩) hq] at ready
    change b.Follows _ _
    simpa using ready
  case breaksOff =>
    intro outcomes past attempts ready
    have room : outcomes.length < b.attempts := by
      cases attempts with
      | breaksOff before worth room unpaused => simpa using room
    refine .weaken (breaking.keeps fun later q asked _ => ⟨_, room, ?_⟩) ?_
    · rwa [waits_append asked]
    · rintro past' r ⟨later, rfl, asked⟩
      refine ⟨_, room, ?_⟩
      rwa [waits_append asked]
  case finishes =>
    intro outcomes past r attempts tried
    refine ⟨_, ?_, tried⟩
    have count := attempts_pos (b := b)
    have few : outcomes.length ≤ b.attempts := by
      cases attempts with
      | succeeds before | fails before => simpa using before.room
      | givesUp before worth enough => simp [enough]
    omega

end Rule

/-! ### How long it is waited -/

/-- How long is waited between attempts. -/
structure Paced (b : Backoff) (ws : List Span) : Prop where
  /-- There are fewer waits than attempts. -/
  few : ws.length < b.attempts
  /-- The first wait is what the backoff says. -/
  first : ∀ w ∈ ws.head?, w = b.initial
  /-- All further ones are within the cap. -/
  capped : ∀ w ∈ ws.tail, w.nanos ≤ b.cap.nanos
  /-- So all are within the cap exactly if the first wait of the backoff is, if there is any wait. -/
  all_capped_iff : (∀ w ∈ ws, w.nanos ≤ b.cap.nanos) ↔
    (ws ≠ [] → b.initial.nanos ≤ b.cap.nanos)
  /-- What all waits come to is bounded by the first one and the cap. -/
  total : (ws.map Span.nanos).sum ≤ b.initial.nanos + (b.attempts - 2) * b.cap.nanos
  /-- It is bounded by the cap alone if the first wait of the backoff is within the cap. -/
  total_capped : b.initial.nanos ≤ b.cap.nanos →
    (ws.map Span.nanos).sum ≤ (b.attempts - 1) * b.cap.nanos

theorem nanos_le_of_next? {wait : Span} (h : b.next? wait = some w) : w.nanos ≤ b.cap.nanos := by
  obtain ⟨product, -, rfl⟩ := Option.map_eq_some_iff.1 h
  unfold Span.shorter
  split
  · assumption
  · exact Nat.le_refl _

theorem nanos_le_of_pause? (h : b.pause? (n + 1) = some w) : w.nanos ≤ b.cap.nanos := by
  obtain ⟨wait, -, next⟩ := Option.bind_eq_some_iff.1 h
  exact nanos_le_of_next? next

/-- The waits of a backoff are its first one, and others within the cap. -/
theorem Follows.cases (h : b.Follows n ws) :
    ws = [] ∧ n = 0 ∨ ∃ rest m, ws = b.initial :: rest ∧ n = m + 1 ∧ rest.length = m ∧
      ∀ w ∈ rest, w.nanos ≤ b.cap.nanos := by
  have length : ws.length = n := by simpa using congrArg List.length h
  cases ws with
  | nil => exact .inl ⟨rfl, length.symm⟩
  | cons w rest =>
    obtain rfl : n = rest.length + 1 := length.symm
    unfold Follows at h
    rw [List.range_succ_eq_map, List.map_cons, List.map_cons, List.map_map] at h
    obtain ⟨first, others⟩ := List.cons.inj h
    obtain rfl := Option.some.inj first
    refine .inr ⟨rest, _, rfl, rfl, rfl, fun w hw => ?_⟩
    have mem := List.mem_map_of_mem (f := some) hw
    rw [others] at mem
    obtain ⟨i, -, pause⟩ := List.mem_map.1 mem
    exact nanos_le_of_pause? pause

theorem sum_nanos_le {cap : Nat} (h : ∀ w ∈ ws, w.nanos ≤ cap) :
    (ws.map Span.nanos).sum ≤ ws.length * cap := by
  have le := List.sum_le_card_nsmul (ws.map Span.nanos) cap (List.forall_mem_map.2 h)
  rwa [List.length_map, smul_eq_mul] at le

/-- **The first waits of a backoff are short**, all but the very first. -/
theorem Follows.pace (h : b.Follows n ws) (few : n < b.attempts) : b.Paced ws := by
  rcases h.cases with ⟨rfl, rfl⟩ | ⟨rest, m, rfl, rfl, length, capped⟩
  · exact {
      few := few
      first := nofun
      capped := List.forall_mem_nil _
      all_capped_iff := ⟨fun _ ne => absurd rfl ne, fun _ => List.forall_mem_nil _⟩
      total := Nat.zero_le _
      total_capped := fun _ => Nat.zero_le _ }
  · have sum := sum_nanos_le capped
    have more : rest.length * b.cap.nanos ≤ (b.attempts - 2) * b.cap.nanos :=
      Nat.mul_le_mul_right _ (by omega)
    have most : (b.attempts - 2) * b.cap.nanos + b.cap.nanos ≤ (b.attempts - 1) * b.cap.nanos := by
      rw [← Nat.succ_mul]
      exact Nat.mul_le_mul_right _ (by omega)
    have total : ((b.initial :: rest).map Span.nanos).sum =
        b.initial.nanos + (rest.map Span.nanos).sum := List.sum_cons
    exact {
      few := by rwa [List.length_cons, length]
      first := fun w hw => (Option.some.inj hw).symm
      capped := capped
      all_capped_iff := ⟨fun all _ => all _ List.mem_cons_self,
        fun first => List.forall_mem_cons.2 ⟨first (List.cons_ne_nil _ _), capped⟩⟩
      total := by omega
      total_capped := fun first => by omega }

theorem paced_within {I : Interface} {span? : I.Ask → Option Span} {β : Type}
    {x : Activity I β} (s : Surroundings I)
    (h : x.Keeps (fun past _ => ∃ n < b.attempts, b.Follows n (waits span? past))
      (fun past _ => ∃ n < b.attempts, b.Follows n (waits span? past)) []) :
    b.Paced (waits span? (x.within s []).1) := by
  obtain ⟨n, few, follows⟩ := exists_follows s h
  exact follows.pace few

/-! ### The two loops -/

theorem asks_attempt (e : Probe.EndpointConfig) :
    (Probe.attempt e).Asks fun q : Probe.Ask => q.span? = none := by
  unfold Probe.attempt
  split
  · trivial
  · refine .ask rfl fun x => ?_
    split
    · trivial
    · exact .ask rfl fun stored => trivial

/-- **How long is waited** by an operation that is retried on conflicts, whatever its outcomes, and by
a probe, whatever it is answered. -/
theorem paced (b : Backoff) :
    (∀ {α : Type} (outcome : Nat → Except StorageError α),
      b.Paced (waits TrialAsk.span? (Trial.retry b outcome).1)) ∧
    ∀ (s : Surroundings Probe.ProbeI) (e : Probe.EndpointConfig),
      b.Paced (waits Probe.Ask.span? ((Probe.attempts b e).within s []).1) := by
  constructor
  · intro α outcome
    refine paced_within (Trial.surroundings outcome) (keeps_waits ?_ ?_ ?_)
    · exact fun w => ⟨TrialAsk.wait w, rfl, rfl⟩
    · exact ⟨rfl, nofun⟩
    · exact ⟨rfl, fun _ => trivial⟩
  · intro s e
    refine paced_within s (keeps_waits ?_ ?_ (asks_attempt e))
    · exact fun w => ⟨Probe.Ask.wait w, rfl, rfl⟩
    · exact ⟨rfl, nofun⟩

/-- A backoff whose first wait is longer than its cap. -/
def steep : Backoff :=
  { steps := 2, initial := .ofSeconds 5, factor := .ofNat 2, cap := .ofSeconds 1 }

theorem isSome_pause?_steep (n : Nat) : (steep.pause? n).isSome = true := by
  have second : steep.pause? 1 = some (.ofSeconds 1) := by decide +kernel
  have stays : steep.next? (.ofSeconds 1) = some (.ofSeconds 1) := by decide +kernel
  have further (n : Nat) : steep.pause? (n + 1) = some (.ofSeconds 1) := by
    induction n with
    | zero => exact second
    | succ n ih => rw [pause?, ih, Option.bind_some, stays]
  cases n with
  | zero => rfl
  | succ n => rw [further, Option.isSome_some]

/-- The first wait of a backoff may be longer than its cap. -/
theorem not_all_capped :
    ¬ ∀ (b : Backoff) (outcome : Nat → Except StorageError String),
      (∀ n, (b.pause? n).isSome = true) →
      ∀ w ∈ waits TrialAsk.span? (Trial.retry b outcome).1, w.nanos ≤ b.cap.nanos := by
  intro all
  let outcome (n : Nat) : Except StorageError String :=
    if n = 0 then .error (.conflict "stale") else .ok "patched"
  have waited : waits TrialAsk.span? (Trial.retry steep outcome).1 = [.ofSeconds 5] := by
    decide +kernel
  have capped := all steep outcome isSome_pause?_steep (.ofSeconds 5)
    (waited ▸ List.mem_singleton_self _)
  exact absurd capped (by decide)

end Backoff

end Sidecar

import Sidecar.Probe.Sandbox
import Sidecar.Proofs.Activity
import Sidecar.Proofs.Storage.Attempts

/-!
# The attempts of a probe

An attempt to probe an endpoint is a `Round` of calls, and there are few ways for it to go
(`Round.Goes`): each stage can fail, and then no later one is reached.  A value is stored exactly if
the attempt got a good answer to extract it from (`Round.Serves`), and then once.

* `Probe.keeps_attempts` : the rounds of a probe are its only calls, whatever the answers;
* `Probe.rounds_of_probe` : **what a probe calls and comes to**, `Probe.Probed`: attempts up to the
  first success, or as many as the backoff allows;
* `Probe.not_all_end` : a probe comes to nothing where its backoff runs out of waits before.
-/

namespace Sidecar.Probe

/-- Whether a question calls for something outside: an answer, or that a value is stored. -/
def Ask.isCall : Ask → Bool
  | .fetch .. | .store .. => true
  | .wait _ | .breakOff => false

/-- The calls among what was asked, the first one first. -/
def calls (past : List (Exchange ProbeI)) : List (Exchange ProbeI) :=
  (past.filter fun x => x.question.isCall).reverse

/-- What is stored by calls, and under which configurations. -/
def stores (calls : List (Exchange ProbeI)) : List (StorageConfig × Value) :=
  calls.filterMap fun x =>
    match x.question with
    | .store config v => some (config, v)
    | _ => none

namespace EndpointConfig

variable (e : EndpointConfig)

/-- A request to an endpoint, with what became of it within the time limit. -/
def fetched (request : Http.Request) (x : Http.Exchange) : Exchange ProbeI :=
  ⟨.fetch request e.limit, x⟩

/-- A value that is stored for an endpoint, with what became of it. -/
def stored (v : Value) (r : Except StorageError Unit) : Exchange ProbeI := ⟨.store e.storage v, r⟩

variable {e}

theorem fetched_inj {request request' : Http.Request} {x x' : Http.Exchange}
    (h : e.fetched request x = e.fetched request' x') : x = x' := by
  cases h
  rfl

end EndpointConfig

/-! ### One attempt -/

/-- An attempt: its calls, the first one first, and what they come to. -/
structure Round where
  calls : List (Exchange ProbeI)
  result : Except ProbeError Unit

/-- The ways in which an attempt to probe an endpoint goes. -/
inductive Round.Goes (e : EndpointConfig) : Round → Prop
  /-- There is no request of this kind. -/
  | invalid (unasked : e.request? = none) : Goes e ⟨[], .error .invalidRequest⟩
  | undelivered {request : Http.Request} (asked : e.request? = some request) :
      Goes e ⟨[e.fetched request .undelivered], .error .request⟩
  | late {request : Http.Request} (asked : e.request? = some request) :
      Goes e ⟨[e.fetched request .late], .error (.timeout e.limit)⟩
  | brokenOff {request : Http.Request} (asked : e.request? = some request) :
      Goes e ⟨[e.fetched request .brokenOff], .error .brokenOff⟩
  /-- The answer has another status than a good one. -/
  | unexpected {request : Http.Request} {status : Nat} {body : ByteArray}
      (asked : e.request? = some request) (other : status ≠ e.effectiveStatus) :
      Goes e ⟨[e.fetched request (.answered status body)],
        .error (.unexpectedStatus status e.effectiveStatus (Utf8.lenient body))⟩
  /-- There is nothing to extract from a good answer. -/
  | unextracted {request : Http.Request} {body : ByteArray} {why : ExtractError}
      (asked : e.request? = some request) (fails : extract body e.path = .error why) :
      Goes e ⟨[e.fetched request (.answered e.effectiveStatus body)], .error (.extract why)⟩
  /-- What a good answer holds is stored, or cannot be stored. -/
  | stores {request : Http.Request} {body : ByteArray} {v : Value} (asked : e.request? = some request)
      (extracted : extract body e.path = .ok v) (r : Except StorageError Unit) :
      Goes e ⟨[e.fetched request (.answered e.effectiveStatus body), e.stored v r],
        r.mapError .store⟩

/-- Whether an attempt had the complete answer in time, of a good status, to extract a value from. -/
def Round.Serves (e : EndpointConfig) (round : Round) (v : Value) : Prop :=
  ∃ request body, e.request? = some request ∧
    e.fetched request (.answered e.effectiveStatus body) ∈ round.calls ∧
    extract body e.path = .ok v

variable {b : Backoff} {e : EndpointConfig} {round : Round} {v : Value}
  {past : List (Exchange ProbeI)}

namespace Round

/-- **An attempt with a good answer stores what it extracts from it**, once. -/
theorem Goes.stores_eq (h : round.Goes e) (serves : round.Serves e v) :
    Probe.stores round.calls = [(e.storage, v)] := by
  obtain ⟨request, body, -, mem, extracted⟩ := serves
  cases h with
  | invalid unasked => cases mem
  | undelivered asked | late asked | brokenOff asked =>
    cases EndpointConfig.fetched_inj (List.mem_singleton.1 mem)
  | unexpected asked other =>
    have same := EndpointConfig.fetched_inj (List.mem_singleton.1 mem)
    exact absurd (Http.Exchange.answered.inj same).1.symm other
  | unextracted asked fails =>
    have same := EndpointConfig.fetched_inj (List.mem_singleton.1 mem)
    rw [(Http.Exchange.answered.inj same).2, fails] at extracted
    cases extracted
  | @stores request' body' v' asked extracted' r =>
    rcases List.mem_cons.1 mem with first | second
    · have same := EndpointConfig.fetched_inj first
      rw [(Http.Exchange.answered.inj same).2, extracted'] at extracted
      obtain rfl := Except.ok.inj extracted
      rfl
    · cases List.mem_singleton.1 second

/-- **Without a good answer to extract a value from, an attempt fails and stores nothing**. -/
theorem Goes.stores_eq_nil (h : round.Goes e) (unserved : ∀ v, ¬ round.Serves e v) :
    Probe.stores round.calls = [] ∧ ∃ why, round.result = .error why := by
  cases h with
  | @stores request body v asked extracted r =>
    exact absurd ⟨request, body, asked, List.mem_cons_self, extracted⟩ (unserved v)
  | _ => exact ⟨rfl, _, rfl⟩

end Round

theorem calls_cons_of_isCall {x : Exchange ProbeI} (h : x.question.isCall = true) :
    calls (x :: past) = calls past ++ [x] := by
  rw [calls, List.filter_cons_of_pos (by exact h), List.reverse_cons, calls]

theorem calls_cons_of_quiet {x : Exchange ProbeI} (h : x.question.isCall = false) :
    calls (x :: past) = calls past := by
  rw [calls, List.filter_cons_of_neg (by simp [h]), calls]

/-- An attempt goes in one of its ways. -/
theorem keeps_attempt {may : List (Exchange ProbeI) → Ask → Prop}
    (allowed : ∀ past q, q.isCall = true → may past q) :
    (attempt e).Keeps may
      (fun past' r => ∃ round : Round, round.Goes e ∧ round.result = r ∧
        calls past' = calls past ++ round.calls) past := by
  have one (request : Http.Request) (x : Http.Exchange) :
      calls (e.fetched request x :: past) = calls past ++ [e.fetched request x] :=
    calls_cons_of_isCall rfl
  unfold attempt
  cases asked : e.request? with
  | none => exact ⟨_, .invalid asked, rfl, (List.append_nil _).symm⟩
  | some request =>
    refine .ask (allowed _ _ rfl) fun x => ?_
    cases x with
    | undelivered => exact ⟨_, .undelivered asked, rfl, one request _⟩
    | late => exact ⟨_, .late asked, rfl, one request _⟩
    | brokenOff => exact ⟨_, .brokenOff asked, rfl, one request _⟩
    | answered status body =>
      by_cases good : status = e.effectiveStatus
      · subst good
        simp only [EndpointConfig.outcome, if_true]
        cases extracted : extract body e.path with
        | error why => exact ⟨_, .unextracted asked extracted, rfl, one request _⟩
        | ok v =>
          refine .ask (allowed _ _ rfl) fun r => ⟨_, .stores asked extracted r, rfl, ?_⟩
          have two : calls (e.stored v r ::
              e.fetched request (.answered e.effectiveStatus body) :: past) =
              calls (e.fetched request (.answered e.effectiveStatus body) :: past) ++
                [e.stored v r] :=
            calls_cons_of_isCall rfl
          rw [one, List.append_assoc] at two
          exact two
      · simp only [EndpointConfig.outcome, if_neg good]
        exact ⟨_, .unexpected asked good, rfl, one request _⟩

/-! ### All attempts -/

/-- The rounds of a probe so far, the first one first: there were no other calls. -/
structure Rounds (e : EndpointConfig) (past : List (Exchange ProbeI)) (rounds : List Round) :
    Prop where
  calls_eq : calls past = rounds.flatMap Round.calls
  goes : ∀ round ∈ rounds, round.Goes e

theorem Rounds.snoc {later : List (Exchange ProbeI)} {rounds : List Round} (h : Rounds e past rounds)
    (goes : round.Goes e) (calls_eq : calls later = calls past ++ round.calls) :
    Rounds e later (rounds ++ [round]) where
  calls_eq := by
    rw [calls_eq, h.calls_eq, List.flatMap_append, List.flatMap_singleton]
  goes := by
    intro round' mem
    rcases List.mem_append.1 mem with old | new
    · exact h.goes round' old
    · obtain rfl := List.mem_singleton.1 new
      exact goes

/-- The attempts of a probe with their outcomes, and what they come to. -/
def Ends (b : Backoff) (e : EndpointConfig) (past : List (Exchange ProbeI))
    (result : Option (Except ProbeError Unit)) : Prop :=
  ∃ rounds, Rounds e past rounds ∧
    b.Attempts (fun _ => true) (fun _ why => why) (rounds.map Round.result) result

/-- **A probe makes attempts as its backoff says**, and nothing else is called. -/
theorem keeps_attempts :
    (attempts b e).Keeps (fun past (q : Ask) => q = .breakOff → Ends b e past none)
      (fun past r => Ends b e past (some r)) [] := by
  refine Backoff.keeps_attempt
    (fun outcomes past => ∃ rounds, Rounds e past rounds ∧ rounds.map Round.result = outcomes)
    ⟨[], ⟨rfl, List.forall_mem_nil _⟩, rfl⟩ ?tries ?waits ?breaksOff ?finishes
  case tries =>
    rintro met past - ⟨rounds, record, outcomes⟩
    have allowed (past) (q : Ask) (call : q.isCall = true) : q = .breakOff → Ends b e past none := by
      rintro rfl
      cases call
    refine (keeps_attempt allowed).weaken ?_
    rintro past' r ⟨round, goes, rfl, more⟩
    exact ⟨_, record.snoc goes more, by rw [List.map_append, outcomes, List.map_singleton]⟩
  case waits =>
    rintro met why past w - - ⟨rounds, record, outcomes⟩
    refine ⟨nofun, fun _ => ⟨rounds, ⟨?_, record.goes⟩, outcomes⟩⟩
    rw [calls_cons_of_quiet rfl, record.calls_eq]
  case breaksOff =>
    rintro outcomes past attempts ⟨rounds, record, rfl⟩
    exact ⟨fun _ => ⟨rounds, record, attempts⟩, nofun⟩
  case finishes =>
    rintro outcomes past r attempts ⟨rounds, record, rfl⟩
    exact ⟨rounds, record, attempts⟩

/-! ### A probe in its surroundings -/

/-- What a probe asks in some surroundings, the newest first, and what it comes to: nothing if it
breaks off. -/
def probeIn (s : Activity.Surroundings ProbeI) (b : Backoff) (e : EndpointConfig) :
    List (Exchange ProbeI) × Option (Except ProbeError Unit) :=
  (attempts b e).within s []

/-- What a probe calls and comes to. -/
structure Probed (b : Backoff) (e : EndpointConfig) (past : List (Exchange ProbeI))
    (result : Option (Except ProbeError Unit)) (rounds : List Round) : Prop where
  /-- There are no calls but those of the attempts, one attempt after the other. -/
  calls_eq : calls past = rounds.flatMap Round.calls
  /-- Each attempt goes in one of its ways. -/
  goes : ∀ round ∈ rounds, round.Goes e
  /-- An attempt with a good answer stores what it extracts from it, once. -/
  stores : ∀ round ∈ rounds, ∀ v, round.Serves e v → Probe.stores round.calls = [(e.storage, v)]
  /-- Any other attempt stores nothing, and fails. -/
  stores_nothing : ∀ round ∈ rounds, (∀ v, ¬ round.Serves e v) →
    Probe.stores round.calls = [] ∧ ∃ why, round.result = .error why
  /-- There are no more attempts than the backoff allows. -/
  few : rounds.length ≤ b.attempts
  /-- After a success there is no further attempt. -/
  failed : ∀ round ∈ rounds.dropLast, ∃ why, round.result = .error why
  /-- The result is that of the last attempt, which succeeds unless it is the last that the backoff
  allows. -/
  result_eq : ∀ r, result = some r → (rounds.map Round.result).getLast? = some r ∧
    (r = .ok () ∨ rounds.length = b.attempts)
  /-- There is none exactly if after a failure a further attempt is allowed, but the backoff has no
  wait to come after that. -/
  result_eq_none_iff : result = none ↔
    (∃ why, (rounds.map Round.result).getLast? = some (.error why)) ∧
      rounds.length < b.attempts ∧ b.pause? rounds.length = none

/-- Where every failure is worth another attempt, all attempts but the last have failed.  The last one
is the result, unless a wait is none. -/
theorem exists_last {outcomes : List (Except ProbeError Unit)}
    {result : Option (Except ProbeError Unit)}
    (h : b.Attempts (fun _ => true) (fun _ why => why) outcomes result) :
    ∃ (met : List ProbeError) (last : Except ProbeError Unit),
      outcomes = met.map .error ++ [last] ∧ met.length + 1 ≤ b.attempts ∧
      (result = some last ∧ (last = .ok () ∨ met.length + 1 = b.attempts) ∨
        result = none ∧ (∃ why, last = .error why) ∧ met.length + 1 < b.attempts ∧
          b.pause? (met.length + 1) = none) := by
  cases h with
  | succeeds before => exact ⟨_, _, rfl, before.room, .inl ⟨rfl, .inl rfl⟩⟩
  | fails before final => cases final
  | givesUp before worth enough => exact ⟨_, _, rfl, before.room, .inl ⟨rfl, .inr enough⟩⟩
  | breaksOff before worth room unpaused =>
    exact ⟨_, _, rfl, before.room, .inr ⟨rfl, ⟨_, rfl⟩, room, unpaused⟩⟩

theorem Ends.probed {result : Option (Except ProbeError Unit)} (h : Ends b e past result) :
    ∃ rounds, Probed b e past result rounds := by
  obtain ⟨rounds, record, attempts⟩ := h
  obtain ⟨met, last, outcomes, room, way⟩ := exists_last attempts
  have length : rounds.length = met.length + 1 := by
    simpa using congrArg List.length outcomes
  have final : (rounds.map Round.result).getLast? = some last := by
    rw [outcomes, List.getLast?_append, List.getLast?_singleton, Option.some_or]
  have earlier : rounds.dropLast.map Round.result = met.map .error := by
    rw [List.map_dropLast, outcomes, List.dropLast_concat]
  refine ⟨rounds, record.calls_eq, record.goes,
    fun round mem v => (record.goes round mem).stores_eq,
    fun round mem => (record.goes round mem).stores_eq_nil, length ▸ room, ?failed, ?result_eq,
    ?none_iff⟩
  case failed =>
    intro round mem
    have mem : round.result ∈ met.map Except.error := earlier ▸ List.mem_map_of_mem mem
    obtain ⟨why, -, failure⟩ := List.mem_map.1 mem
    exact ⟨why, failure.symm⟩
  case result_eq =>
    rintro r rfl
    rcases way with ⟨same, enough⟩ | ⟨broken, -⟩
    · obtain rfl := Option.some.inj same
      exact ⟨final, length ▸ enough⟩
    · cases broken
  case none_iff =>
    rw [final, length]
    constructor
    · rintro rfl
      rcases way with ⟨some, -⟩ | ⟨-, ⟨why, rfl⟩, more, unpaused⟩
      · cases some
      · exact ⟨⟨why, rfl⟩, more, unpaused⟩
    · rintro ⟨⟨why, failure⟩, more, -⟩
      obtain rfl := Option.some.inj failure
      rcases way with ⟨-, success | enough⟩ | ⟨broken, -⟩
      · cases success
      · omega
      · exact broken

/-- **What a probe calls and comes to**, whatever becomes of its requests and of what it stores. -/
theorem rounds_of_probe {s : Activity.Surroundings ProbeI}
    (answers : ∀ past (q : Ask), s past q = none → q = .breakOff) :
    ∃ rounds, Probed b e (probeIn s b e).1 (probeIn s b e).2 rounds := by
  refine Ends.probed ?_
  cases result : (probeIn s b e).2 with
  | some r => exact keeps_attempts.of_result result
  | none =>
    obtain ⟨q, unanswered, ends⟩ := keeps_attempts.of_open (s := s) result
    exact ends (answers _ _ unanswered)

/-- An endpoint that tells its status. -/
def statusPage : EndpointConfig where
  url := "http://127.0.0.1:8080/status"
  method := ""
  headers := []
  timeout := 5
  expectedStatus := 0
  storage := .gauge { metricName := "status" }
  path := none

/-- Surroundings in which the first request of a probe is not delivered and all others are answered,
and everything can be stored. -/
def slowToStart : Activity.Surroundings ProbeI := fun past q =>
  match q with
  | .fetch .. => some (if past.isEmpty then .undelivered else .answered 200 "up".toUTF8)
  | .store .. => some (.ok ())
  | .wait _ => some ()
  | .breakOff => none

theorem answers_slowToStart (past : List (Exchange ProbeI)) (q : Ask)
    (unanswered : slowToStart past q = none) : q = .breakOff := by
  cases q with
  | breakOff => rfl
  | _ => cases unanswered

/-- The second attempt stores the answer. -/
theorem rounds_of_probe_twice :
    (∀ past (q : Ask), slowToStart past q = none → q = .breakOff) ∧
    ∃ rounds, Probed backoff statusPage (probeIn slowToStart backoff statusPage).1 (some (.ok ()))
        rounds ∧
      (stores (rounds.flatMap Round.calls)).map (fun entry => (entry.1, entry.2.stored)) =
        [(statusPage.storage, "up")] := by
  have result : (probeIn slowToStart backoff statusPage).2 = some (.ok ()) := by
    have succeeds : (probeIn slowToStart backoff statusPage).2.map Except.isOk = some true := by
      decide +kernel
    obtain ⟨r, hr, ok⟩ := Option.map_eq_some_iff.1 succeeds
    cases r with
    | ok u => exact hr
    | error why => cases ok
  have stored : (stores (calls (probeIn slowToStart backoff statusPage).1)).map
      (fun entry => (entry.1, entry.2.stored)) = [(statusPage.storage, "up")] := by
    decide +kernel
  obtain ⟨rounds, probed⟩ := rounds_of_probe (b := backoff) (e := statusPage) answers_slowToStart
  rw [probed.calls_eq] at stored
  exact ⟨answers_slowToStart, rounds, result ▸ probed, stored⟩

/-- A probe need not come to anything: a backoff may have no wait after its first one. -/
theorem not_all_end :
    ¬ ∀ (s : Activity.Surroundings ProbeI) (b : Backoff) (e : EndpointConfig),
      (∀ past (q : Ask), s past q = none → q = .breakOff) →
      ∃ r, (probeIn s b e).2 = some r := by
  intro all
  let b : Backoff :=
    { steps := 2, initial := .ofMillis 1000, factor := .ofInt (-1), cap := .ofSeconds 30 }
  let e : EndpointConfig := { statusPage with method := "BAD METHOD" }
  obtain ⟨r, result⟩ := all slowToStart b e answers_slowToStart
  have broken : (probeIn slowToStart b e).2.isNone = true := by
    decide +kernel
  rw [result] at broken
  cases broken

end Sidecar.Probe

import Sidecar.Activity

/-!
# Contracts of activities

What an activity may ask can depend on what it has asked before and was answered, and on nothing
else: in between others act.  `Activity.Keeps` says that an activity keeps such a contract whatever
the answers are, so it holds in all surroundings at once.

* `Keeps.ask`, `Keeps.bind` : the contract of an activity from those of its parts;
* `Keeps.weaken` : what is promised at the end may be weakened;
* `Keeps.mono` : so may all of the contract, knowing that what was asked before stays asked.

`Activity.Leads` relates an activity to what remains of it once some questions were answered.  It
is the link from any contract of the whole to the remainder (`Keeps.of_leads`), so a contract can be
chosen for each purpose.  `Activity.Asks` is the simplest kind of contract: all questions are of one
kind, whatever was asked before.  `Asks.keeps` embeds an activity of that kind into one with a
contract of its own.

`Activity.Surroundings` answer each question after all that was asked before, or leave it open.
`Activity.within` computes what an activity asks in them and what it comes to, so it exists for all
answers: either there is a result, or the last question was left open.

* `Keeps.of_result`, `Keeps.of_open` : **a contract says what was asked by the end**, in all
  surroundings;
* `Leads.asked_of_mem` : everything that was asked is a question of the activity that they answered;
* `answered_within` : every exchange is their answer after what was asked before it.

A history is what has happened to a system that takes steps, the newest first; `exists_step` takes
it back to any of its events.
-/

namespace Sidecar

/-- A question with the answer that was given. -/
structure Exchange (I : Interface) where
  question : I.Ask
  reply : I.Reply question

namespace Activity

/-! ### Contracts -/

section Contracts

variable {I : Interface} {α β : Type}

/-- Whether an activity asks only what it may after what was asked before, and ends only as it may.
The exchanges are listed with the newest first. -/
def Keeps (may : List (Exchange I) → I.Ask → Prop) (ends : List (Exchange I) → α → Prop) :
    List (Exchange I) → Activity I α → Prop
  | past, .done a => ends past a
  | past, .ask q next => may past q ∧ ∀ r, Keeps may ends (⟨q, r⟩ :: past) (next r)

variable {may : List (Exchange I) → I.Ask → Prop} {past : List (Exchange I)}

namespace Keeps

theorem ask {q : I.Ask} {f : I.Reply q → Activity I α} {ends : List (Exchange I) → α → Prop}
    (asks : may past q) (rest : ∀ r, Keeps may ends (⟨q, r⟩ :: past) (f r)) :
    Keeps may ends past (query q >>= f) :=
  ⟨asks, rest⟩

theorem bind {x : Activity I α} {f : α → Activity I β} {mid : List (Exchange I) → α → Prop}
    {ends : List (Exchange I) → β → Prop} (first : Keeps may mid past x)
    (rest : ∀ past a, mid past a → Keeps may ends past (f a)) :
    Keeps may ends past (x >>= f) := by
  change Keeps may ends past (x.bind f)
  induction x generalizing past with
  | done a => exact rest past a first
  | ask q next ih =>
    obtain ⟨asks, later⟩ := first
    exact ⟨asks, fun r => ih r (later r)⟩

theorem weaken {x : Activity I α} {ends ends' : List (Exchange I) → α → Prop}
    (h : Keeps may ends past x) (weaker : ∀ past a, ends past a → ends' past a) :
    Keeps may ends' past x := by
  induction x generalizing past with
  | done a => exact weaker past a h
  | ask q next ih =>
    obtain ⟨asks, later⟩ := h
    exact ⟨asks, fun r => ih r (later r)⟩

/-- A contract may be weakened where all that was asked before is still there. -/
theorem mono {x : Activity I α} {may' : List (Exchange I) → I.Ask → Prop}
    {ends ends' : List (Exchange I) → α → Prop} (h : Keeps may ends past x)
    (asks : ∀ {later q}, past <:+ later → may later q → may' later q)
    (weaker : ∀ {later a}, past <:+ later → ends later a → ends' later a) :
    Keeps may' ends' past x := by
  induction x generalizing past with
  | done a => exact weaker List.suffix_rfl h
  | ask q next ih =>
    refine ⟨asks List.suffix_rfl h.1, fun r => ?_⟩
    have grows : past <:+ ⟨q, r⟩ :: past := List.suffix_cons _ _
    exact ih r (h.2 r) (fun later => asks (grows.trans later))
      fun later => weaker (grows.trans later)

end Keeps

end Contracts

/-! ### What remains -/

section Remainder

variable {I : Interface} {α β : Type}

/-- What remains of an activity after some exchanges, the newest first. -/
inductive Leads (x : Activity I α) : List (Exchange I) → Activity I α → Prop
  | start : Leads x [] x
  | answer {past : List (Exchange I)} {q : I.Ask} {next : I.Reply q → Activity I α}
      (before : Leads x past (.ask q next)) (r : I.Reply q) : Leads x (⟨q, r⟩ :: past) (next r)

/-- Whether an activity asks questions of one kind only, whatever the answers are. -/
def Asks (kind : I.Ask → Prop) : Activity I α → Prop
  | .done _ => True
  | .ask q next => kind q ∧ ∀ r, Asks kind (next r)

variable {may : List (Exchange I) → I.Ask → Prop} {ends : List (Exchange I) → α → Prop}
  {kind : I.Ask → Prop} {past : List (Exchange I)} {x y : Activity I α}

/-- **What remains of an activity keeps every contract of the whole.** -/
theorem Keeps.of_leads (whole : Keeps may ends [] x) (h : Leads x past y) :
    Keeps may ends past y := by
  induction h with
  | start => exact whole
  | answer before r ih => exact ih.2 r

theorem Keeps.asks (h : Keeps may ends past x) (decided : List (Exchange I) → Prop)
    (hpast : decided past) (stays : ∀ {past} e, decided past → decided (e :: past))
    (only : ∀ {past q}, decided past → may past q → kind q) : Asks kind x := by
  induction x generalizing past with
  | done a => trivial
  | ask q next ih => exact ⟨only hpast h.1, fun r => ih r (h.2 r) (stays _ hpast)⟩

namespace Asks

theorem ask {q : I.Ask} {f : I.Reply q → Activity I α} (asks : kind q)
    (rest : ∀ r, Asks kind (f r)) : Asks kind (query q >>= f) :=
  ⟨asks, rest⟩

theorem bind {f : α → Activity I β} (first : Asks kind x) (rest : ∀ a, Asks kind (f a)) :
    Asks kind (x >>= f) := by
  change Asks kind (x.bind f)
  induction x with
  | done a => exact rest a
  | ask q next ih => exact ⟨first.1, fun r => ih r (first.2 r)⟩

theorem mono {kind' : I.Ask → Prop} (h : Asks kind x) (weaker : ∀ q, kind q → kind' q) :
    Asks kind' x := by
  induction x with
  | done a => trivial
  | ask q next ih => exact ⟨weaker q h.1, fun r => ih r (h.2 r)⟩

/-- An activity that asks questions of one kind keeps any contract that allows these; what it has
asked in the end is what was asked before, and more of that kind. -/
theorem keeps (h : Asks kind x)
    (allowed : ∀ later q, (∀ e ∈ later, kind (Exchange.question e)) → kind q →
      may (later ++ past) q) :
    Keeps may (fun past' _ => ∃ later, past' = later ++ past ∧ ∀ e ∈ later, kind e.question)
      past x := by
  -- what was asked grows along the activity, so the induction is for any of it
  suffices ∀ later, (∀ e ∈ later, kind e.question) → Keeps may
      (fun past' _ => ∃ later, past' = later ++ past ∧ ∀ e ∈ later, kind e.question)
      (later ++ past) x from this [] (List.forall_mem_nil _)
  induction x with
  | done a => exact fun later asked => ⟨later, rfl, asked⟩
  | ask q next ih =>
    refine fun later asked => ⟨allowed later q asked h.1, fun r => ?_⟩
    exact ih r (h.2 r) (⟨q, r⟩ :: later) (List.forall_mem_cons.2 ⟨h.1, asked⟩)

end Asks

end Remainder

/-! ### Surroundings -/

section Surroundings

variable {I : Interface} {α : Type}

/-- Who answers the questions.  The answer may depend on all that was asked before, the newest
first, and a question may be left open. -/
abbrev Surroundings (I : Interface) : Type :=
  List (Exchange I) → (q : I.Ask) → Option (I.Reply q)

/-- What an activity has asked in some surroundings after what was asked before, the newest first,
and its result, if it comes to one. -/
def within (s : Surroundings I) : List (Exchange I) → Activity I α → List (Exchange I) × Option α
  | past, .done a => (past, some a)
  | past, .ask q next =>
    match s past q with
    | some r => within s (⟨q, r⟩ :: past) (next r)
    | none => (past, none)

variable {s : Surroundings I} {past : List (Exchange I)} {x y : Activity I α} {a : α}

theorem Leads.result (h : Leads x past y) (ends : (y.within s past).2 = some a) :
    Leads x (y.within s past).1 (.done a) := by
  induction y generalizing past with
  | done b =>
    obtain rfl : b = a := Option.some.inj ends
    exact h
  | ask q next ih =>
    simp only [within] at ends ⊢
    split at ends
    · rename_i r _
      exact ih r (.answer h r) ends
    · cases ends

theorem Leads.open (h : Leads x past y) (stays : (y.within s past).2 = none) :
    ∃ q next, Leads x (y.within s past).1 (.ask q next) ∧ s (y.within s past).1 q = none := by
  induction y generalizing past with
  | done b => cases stays
  | ask q next ih =>
    cases answer : s past q with
    | some r =>
      simp only [within, answer] at stays ⊢
      exact ih r (.answer h r) stays
    | none =>
      simp only [within, answer]
      exact ⟨q, next, h, answer⟩

section Contract

variable {may : List (Exchange I) → I.Ask → Prop} {ends : List (Exchange I) → α → Prop}

/-- **The result is one that the contract allows after what was asked.** -/
theorem Keeps.of_result (h : Keeps may ends [] x) (result : (x.within s []).2 = some a) :
    ends (x.within s []).1 a :=
  h.of_leads (Leads.start.result result)

/-- **A question that is left open is one that the contract allows after what was asked.** -/
theorem Keeps.of_open (h : Keeps may ends [] x) (stays : (x.within s []).2 = none) :
    ∃ q, s (x.within s []).1 q = none ∧ may (x.within s []).1 q := by
  obtain ⟨q, next, remains, unanswered⟩ := Leads.start.open stays
  exact ⟨q, unanswered, (h.of_leads remains).1⟩

end Contract

/-- Everything that was asked since was a question of the activity that the surroundings
answered. -/
theorem Leads.asked_of_mem {e : Exchange I} (h : Leads x past y)
    (mem : e ∈ (y.within s past).1) :
    e ∈ past ∨ ∃ before next, Leads x before (.ask e.question next) ∧
      s before e.question = some e.reply := by
  induction y generalizing past with
  | done b => exact .inl mem
  | ask q next ih =>
    cases answer : s past q with
    | some r =>
      simp only [within, answer] at mem
      rcases ih r (.answer h r) mem with old | new
      · rcases List.mem_cons.1 old with rfl | old
        · exact .inr ⟨past, next, h, answer⟩
        · exact .inl old
      · exact .inr new
    | none =>
      simp only [within, answer] at mem
      exact .inl mem

theorem exists_answer_of_mem {e : Exchange I} (mem : e ∈ (x.within s []).1) :
    ∃ before, s before e.question = some e.reply := by
  rcases Leads.start.asked_of_mem mem with old | ⟨before, next, -, answer⟩
  · cases old
  · exact ⟨before, answer⟩

/-- Whether every exchange is an answer of the surroundings after what was asked before it. -/
def Answered (s : Surroundings I) : List (Exchange I) → Prop
  | [] => True
  | e :: past => s past e.question = some e.reply ∧ Answered s past

/-- **All that is asked in some surroundings is answered by them.** -/
theorem answered_within (h : Answered s past) : Answered s (y.within s past).1 := by
  induction y generalizing past with
  | done b => exact h
  | ask q next ih =>
    cases answer : s past q with
    | some r =>
      simp only [within, answer]
      exact ih r ⟨answer, h⟩
    | none =>
      simp only [within, answer]
      exact h

end Surroundings

end Activity

/-! ### Histories -/

/-- **The states before and after an event**, in any history whose last event can be taken back. -/
theorem exists_step {S E : Type} {reached : List E → S → Prop} {step : S → E → S → Prop}
    (last : ∀ {es e s'}, reached (e :: es) s' → ∃ s, reached es s ∧ step s e s')
    {later earlier : List E} {e : E} {s : S} (h : reached (later ++ e :: earlier) s) :
    ∃ s₁ s₂, reached earlier s₁ ∧ step s₁ e s₂ := by
  induction later generalizing s with
  | nil =>
    obtain ⟨s₁, before, taken⟩ := last h
    exact ⟨s₁, s, before, taken⟩
  | cons _ _ ih =>
    obtain ⟨_, before, -⟩ := last h
    exact ih before

end Sidecar

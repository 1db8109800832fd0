/-!
# Activities

An activity computes a result and on its way asks its surroundings: to call the cluster, to wait,
to look something up.  What may be asked, and what kind of answer each question has, is an
`Interface`.

An activity is data, so it can be run in different surroundings: `Activity.run` takes the answers
from a monad, `Activity.via` replaces every question by an activity that finds the answer.
Between two questions nothing else can happen; at a question others may act.
-/

namespace Sidecar

/-- What may be asked, and the type of each answer. -/
structure Interface where
  Ask : Type
  Reply : Ask → Type

/-- A computation that asks its surroundings. -/
inductive Activity (I : Interface) (α : Type) where
  | done (result : α)
  | ask (question : I.Ask) (next : I.Reply question → Activity I α)

namespace Activity

variable {I J : Interface} {α β γ : Type}

/-- Do one activity, then another with its result. -/
def bind : Activity I α → (α → Activity I β) → Activity I β
  | done a, f => f a
  | ask q next, f => ask q fun r => bind (next r) f

instance : Monad (Activity I) where
  pure := done
  bind := bind

/-- Ask one question. -/
def query (q : I.Ask) : Activity I (I.Reply q) := ask q done

theorem bind_done (x : Activity I α) : x.bind done = x := by
  induction x with
  | done a => rfl
  | ask q next ih => simp only [bind]; congr; funext r; exact ih r

theorem bind_assoc (x : Activity I α) (f : α → Activity I β) (g : β → Activity I γ) :
    (x.bind f).bind g = x.bind fun a => (f a).bind g := by
  induction x with
  | done a => rfl
  | ask q next ih => simp only [bind]; congr; funext r; exact ih r

instance : LawfulMonad (Activity I) :=
  LawfulMonad.mk' (Activity I) bind_done (fun _ _ => rfl) bind_assoc

/-- Run an activity, the answers coming from a monad. -/
def run {m : Type → Type} [Monad m] (answer : (q : I.Ask) → m (I.Reply q)) : Activity I α → m α
  | done a => pure a
  | ask q next => do run answer (next (← answer q))

/-- Replace every question by an activity that finds the answer. -/
def via (answer : (q : I.Ask) → Activity J (I.Reply q)) (x : Activity I α) : Activity J α :=
  x.run answer

theorem run_bind {m : Type → Type} [Monad m] [LawfulMonad m]
    {answer : (q : I.Ask) → m (I.Reply q)} (x : Activity I α) (f : α → Activity I β) :
    (x >>= f).run answer = x.run answer >>= fun a => (f a).run answer := by
  induction x with
  | done a => exact (pure_bind a fun a => (f a).run answer).symm
  | ask q next ih =>
    change (answer q >>= fun r => (next r >>= f).run answer) =
      (answer q >>= fun r => (next r).run answer) >>= fun a => (f a).run answer
    simp only [ih, LawfulMonad.bind_assoc]

theorem run_query_bind {σ : Type} {answer : (q : I.Ask) → StateT σ Option (I.Reply q)}
    {q : I.Ask} {r : I.Reply q} {f : I.Reply q → Activity I β} {s s' : σ}
    (h : answer q s = some (r, s')) :
    (query q >>= f).run (m := StateT σ Option) answer s =
      (f r).run (m := StateT σ Option) answer s' := by
  change (answer q s).bind (fun p => (f p.1).run (m := StateT σ Option) answer p.2) = _
  rw [h, Option.bind_some]

end Activity

end Sidecar

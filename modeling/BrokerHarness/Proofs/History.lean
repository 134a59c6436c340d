import BrokerHarness.ControlPlane
import Mathlib.Tactic.Common

/-!
# Programs on a history

A *history* says how the surroundings answer every request at every time.  On a history and an
exact clock a program has one result, and it ends at one time: `Action.during` computes both from
the time at which it begins.  Requests take no time, sleeps take exactly theirs.

At a fixed time the surroundings answer by a function, and an action that does not use the clock has
one result under it, `Action.under`.  `Action.during_timed` ties the two.

A `ClusterHistory` is a history of a cluster on which no request fails.
-/

namespace BrokerHarness

namespace Program

variable {I : Interface} {α β : Type}

/-- The result of a program each request of which gets the answer that the function has for it. -/
def under (answer : (r : I.Request) → I.Answer r) : Program I α → α
  | done a => a
  | ask r next => (next (answer r)).under answer

/-- The parts of a program are answered by the same function. -/
lemma under_bind (answer : (r : I.Request) → I.Answer r) (p : Program I α)
    (f : α → Program I β) : (p.bind f).under answer = (f (p.under answer)).under answer := by
  induction p with
  | done a => rfl
  | ask r next ih => exact ih (answer r)

/-- How requests are answered on a history, as a function of the time that an exact clock shows.  A
reading cannot be before the bound that comes with the request; on an exact clock it never is. -/
def onTime (history : Nat → (r : I.Request) → I.Answer r) :
    (q : I.timed.Request) → Nat → I.timed.Answer q × Nat
  | .clock since, now => (⟨max since now, Nat.le_max_left since now⟩, now)
  | .sleep time, now => ((), now + time)
  | .other r, now => (history now r, now)

end Program

namespace Action

variable {I : Interface} {α β : Type} {answer : (r : I.Request) → I.Answer r}
  {history : Nat → (r : I.Request) → I.Answer r}

/-- The result of an action each request of which gets the answer that the function has for it. -/
def under (action : Action I α) (answer : (r : I.Request) → I.Answer r) : Except Failure α :=
  Program.under answer action.run

/-- The result of an action that begins at a time of a history, and the time at which it ends. -/
def during (action : Action I.timed α) (history : Nat → (r : I.Request) → I.Answer r)
    (begins : Nat) : Except Failure α × Nat :=
  Program.runWith (Program.onTime history) action.run begins

/-! ### Under a fixed answer to each request -/

@[simp] lemma under_pure (a : α) : (pure a : Action I α).under answer = .ok a := rfl

@[simp] lemma under_throw (e : Failure) : (throw e : Action I α).under answer = .error e := rfl

@[simp] lemma under_ofExcept (x : Except Failure α) :
    (ofExcept x : Action I α).under answer = x := rfl

/-- Behind an action that gives a value, what follows has its result. -/
lemma under_bind_ok {action : Action I α} {f : α → Action I β} {a : α}
    (h : action.under answer = .ok a) : (action >>= f).under answer = (f a).under answer := by
  have hrun : Program.under answer action.run = .ok a := h
  refine (Program.under_bind answer action.run _).trans ?_
  rw [hrun]
  rfl

/-! ### During a history -/

lemma during_pure (a : α) (now : Nat) :
    (pure a : Action I.timed α).during history now = (.ok a, now) := rfl

lemma during_throw (e : Failure) (now : Nat) :
    (throw e : Action I.timed α).during history now = (.error e, now) := rfl

lemma during_ofExcept (x : Except Failure α) (now : Nat) :
    (ofExcept x : Action I.timed α).during history now = (x, now) := rfl

/-- What follows an action goes on with its value at the time at which it ended. -/
lemma during_bind_ok {action : Action I.timed α} {f : α → Action I.timed β} {now later : Nat}
    {a : α} (h : action.during history now = (.ok a, later)) :
    (action >>= f).during history now = (f a).during history later := by
  have hrun : Program.runWith (Program.onTime history) action.run now = (.ok a, later) := h
  refine (Program.runWith_bind (Program.onTime history) action.run _ now).trans ?_
  rw [hrun]
  rfl

/-- An action that fails ends what it is a part of, with its failure and at its time. -/
lemma during_bind_error {action : Action I.timed α} {f : α → Action I.timed β} {now later : Nat}
    {e : Failure} (h : action.during history now = (.error e, later)) :
    (action >>= f).during history now = (.error e, later) := by
  have hrun : Program.runWith (Program.onTime history) action.run now = (.error e, later) := h
  refine (Program.runWith_bind (Program.onTime history) action.run _ now).trans ?_
  rw [hrun]
  rfl

/-- A handler does not touch a value. -/
lemma during_tryCatch_ok {action : Action I.timed α} {handle : Failure → Action I.timed α}
    {now later : Nat} {a : α} (h : action.during history now = (.ok a, later)) :
    (tryCatch action handle).during history now = (.ok a, later) := by
  have hrun : Program.runWith (Program.onTime history) action.run now = (.ok a, later) := h
  refine (Program.runWith_bind (Program.onTime history) action.run _ now).trans ?_
  rw [hrun]
  rfl

/-- A handler goes on with the failure at the time at which the action failed. -/
lemma during_tryCatch_error {action : Action I.timed α} {handle : Failure → Action I.timed α}
    {now later : Nat} {e : Failure} (h : action.during history now = (.error e, later)) :
    (tryCatch action handle).during history now = (handle e).during history later := by
  have hrun : Program.runWith (Program.onTime history) action.run now = (.error e, later) := h
  refine (Program.runWith_bind (Program.onTime history) action.run _ now).trans ?_
  rw [hrun]
  rfl

/-- An action that does not use the clock takes no time, and gives what it gives under the answers
of this time. -/
lemma during_timed (action : Action I α) (now : Nat) :
    action.timed.during history now = (action.under (history now), now) := by
  have key : ∀ p : Program I (Except Failure α),
      Program.runWith (Program.onTime history)
          (p.interpret fun r => Program.ask (I := I.timed) (.other r) Program.done) now =
        (p.under (history now), now) := by
    intro p
    induction p with
    | done a => rfl
    | ask r next ih => exact ih (history now r)
  exact key action.run

/-- An exact clock shows the time. -/
lemma during_clock_bind {since now : Nat} {f : { time : Nat // since ≤ time } → Action I.timed β}
    (h : since ≤ now) :
    (clock since >>= f).during history now = (f ⟨now, h⟩).during history now := by
  have hmax : (⟨max since now, Nat.le_max_left since now⟩ : { time : Nat // since ≤ time }) =
      ⟨now, h⟩ := Subtype.ext (Nat.max_eq_right h)
  change (f ⟨max since now, Nat.le_max_left since now⟩).during history now = _
  rw [hmax]

/-- A sleep takes exactly its time. -/
lemma during_sleep_bind {time now : Nat} {f : Unit → Action I.timed β} :
    (sleep time >>= f).during history now = (f ()).during history (now + time) := rfl

end Action

/-! ### Clusters -/

/-- A history of a cluster on which no request fails: what is stored when a manifest is applied at a
time, the objects that are there at a time, and those that a list at a time shows. -/
structure ClusterHistory where
  stored : Nat → Manifest → Snapshot
  object : Nat → ObjectKind → String → String → Option Snapshot
  listed : Nat → ObjectKind → String → String → List Snapshot

namespace ClusterHistory

/-- The answer to each request at a time. -/
def answer (history : ClusterHistory) (time : Nat) :
    (q : controlPlane.Request) → controlPlane.Answer q
  | .apply manifest => .ok (history.stored time manifest)
  | .delete _ => .ok ()
  | .get kind ns name => .ok (history.object time kind ns name)
  | .list kind ns stem => .ok (history.listed time kind ns stem)

variable {history : ClusterHistory} {time : Nat}

/-- On a history an application is answered with what is stored then. -/
lemma apply_under (manifest : Manifest) :
    (ControlPlane.apply manifest).under (history.answer time) =
      .ok (history.stored time manifest) := rfl

/-- On a history a look-up is answered with the object that is there then. -/
lemma get_under (kind : ObjectKind) (ns name : String) :
    (ControlPlane.get kind ns name).under (history.answer time) =
      .ok (history.object time kind ns name) := rfl

/-- On a history a list is answered with the objects that are there then. -/
lemma list_under (kind : ObjectKind) (ns stem : String) :
    (ControlPlane.list kind ns stem).under (history.answer time) =
      .ok (history.listed time kind ns stem) := rfl

end ClusterHistory

end BrokerHarness

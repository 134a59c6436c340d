import BrokerHarness.Failure

/-!
# Programs over an interface

An operation that needs its surroundings is a *program*: it either is done or asks one request and
goes on with the answer. What answers the requests is not part of a program, so the same program
runs against a simulated cluster, against recorded answers, and against every behaviour that a
theorem quantifies over. What an operation tells to a log on its way is no request and is left out.

`Interface.timed` adds a clock to an interface. A program states the earliest time that its clock
can show, from earlier readings and sleeps, and an answer to `clock` comes with the proof that it is
not before that time: clocks do not go backwards and sleeps are not cut short.
-/

namespace BrokerHarness

/-- The requests that a program may ask, and the type of the answers to each. -/
structure Interface where
  Request : Type
  Answer : Request → Type

/-- A program that asks requests of `I` and ends with a result. -/
inductive Program (I : Interface) (α : Type) : Type where
  /-- The end, with its result. -/
  | done (result : α)
  /-- A request, and how to go on with each answer. -/
  | ask (request : I.Request) (next : I.Answer request → Program I α)

namespace Program

variable {I J : Interface} {α β γ σ : Type}

/-- The first program, then the one that its result selects. -/
def bind : Program I α → (α → Program I β) → Program I β
  | done a, f => f a
  | ask r next, f => ask r fun answer => (next answer).bind f

instance : Monad (Program I) where
  pure := done
  bind := bind

/-- Asks one request for its answer. -/
def request (r : I.Request) : Program I (I.Answer r) := ask r done

/-- The program with each request carried out by a program over another interface. -/
def interpret (f : (r : I.Request) → Program J (I.Answer r)) : Program I α → Program J α
  | done a => done a
  | ask r next => (f r).bind fun answer => (next answer).interpret f

/-- Runs a program against surroundings with a state: `answer` gives the answer to each request and
the state behind it. -/
def runWith (answer : (r : I.Request) → σ → I.Answer r × σ) : Program I α → σ → α × σ
  | done a, s => (a, s)
  | ask r next, s =>
    let (x, s) := answer r s
    (next x).runWith answer s

@[simp] theorem done_bind (a : α) (f : α → Program I β) : (done a).bind f = f a := rfl

@[simp] theorem ask_bind (r : I.Request) (next : I.Answer r → Program I α) (f : α → Program I β) :
    (ask r next).bind f = ask r fun answer => (next answer).bind f := rfl

/-- Going on with the end is no further step. -/
@[simp] theorem bind_done (p : Program I α) : p.bind done = p := by
  induction p with
  | done a => rfl
  | ask r next ih => simp only [ask_bind, ih]

/-- It does not matter which two of three programs are put together first. -/
theorem bind_assoc (p : Program I α) (f : α → Program I β) (g : β → Program I γ) :
    (p.bind f).bind g = p.bind fun a => (f a).bind g := by
  induction p with
  | done a => rfl
  | ask r next ih => simp only [ask_bind, ih]

instance : LawfulMonad (Program I) :=
  LawfulMonad.mk' (Program I) (fun p => bind_done p) (fun _ _ => rfl)
    (fun p f g => bind_assoc p f g)

/-- Running two programs in sequence runs the second in the state that the first leaves. -/
theorem runWith_bind (answer : (r : I.Request) → σ → I.Answer r × σ) (p : Program I α)
    (f : α → Program I β) (s : σ) :
    (p.bind f).runWith answer s =
      (f (p.runWith answer s).1).runWith answer (p.runWith answer s).2 := by
  induction p generalizing s with
  | done a => rfl
  | ask r next ih => simp only [ask_bind, runWith, ih]

end Program

/-- A program whose result may be a failure instead; a failure ends it. -/
abbrev Action (I : Interface) := ExceptT Failure (Program I)

namespace Action

variable {I J : Interface} {α : Type}

/-- The result of a computation that asks nothing. -/
def ofExcept (result : Except Failure α) : Action I α := ExceptT.mk (.done result)

/-- The value of an option, or a failure if there is none. -/
def ofOption (failure : Failure) : Option α → Action I α
  | some a => pure a
  | none => throw failure

/-- The action with each request carried out by a program over another interface. -/
def interpret (f : (r : I.Request) → Program J (I.Answer r)) (action : Action I α) : Action J α :=
  ExceptT.mk (Program.interpret f action.run)

end Action

/-! ### Clocks -/

/-- The requests of an interface, and those to a clock. -/
inductive TimedRequest (I : Interface) where
  /-- Reads the clock, which cannot show a time before `since`. -/
  | clock (since : Nat)
  /-- Waits for the given time. -/
  | sleep (time : Nat)
  /-- A request of the interface itself. -/
  | other (request : I.Request)

/-- The interface together with a clock. What a program may take for granted of its clock is part of
the answers: no reading is before an earlier one, nor before the end of a sleep in between. -/
def Interface.timed (I : Interface) : Interface where
  Request := TimedRequest I
  Answer
    | .clock since => { time : Nat // since ≤ time }
    | .sleep _ => Unit
    | .other r => I.Answer r

namespace Action

variable {I : Interface} {α : Type}

/-- The action as one that might also use a clock. -/
def timed (action : Action I α) : Action I.timed α :=
  action.interpret fun r => Program.ask (I := I.timed) (.other r) Program.done

/-- Reads the clock, which cannot show a time before `since`. -/
def clock (since : Nat) : Action I.timed { time : Nat // since ≤ time } :=
  ExceptT.mk (Program.ask (I := I.timed) (.clock since) fun time => .done (.ok time))

/-- Waits for the given time. -/
def sleep (time : Nat) : Action I.timed Unit :=
  ExceptT.mk (Program.ask (I := I.timed) (.sleep time) fun _ => .done (.ok ()))

end Action

end BrokerHarness

import BrokerHarness.Program
import Mathlib.Data.List.Forall2
import Mathlib.Tactic.Common

/-!
# Runs of programs

A program leaves open what answers its requests.  A *run* fixes it: `p.Yields t a` says that `p`,
answered as in the list `t` of exchanges, asks exactly the requests of `t` and ends with `a`.  Every
answer is possible in a run, so a statement about all runs of a program is one about every behaviour
of its surroundings, and `exists_yields` gives a run for each of them.

The runs of a sequence of programs are the concatenations of their runs (`yields_bind_iff`).  From
this the section on actions derives the runs of every way in which actions are put together, so that
later proofs take a run apart without opening a program.  The runs of a loop that carries out one
exchange for each item of a list are described by `LoopRun`.
-/

namespace BrokerHarness

/-- A request together with the answer that it got. -/
structure Exchange (I : Interface) where
  request : I.Request
  answer : I.Answer request

namespace Program

variable {I J : Interface} {α β σ : Type}

/-- The program asks exactly the requests of the exchanges when it is answered as there, and ends
with the result. -/
inductive Yields : Program I α → List (Exchange I) → α → Prop where
  /-- A program that is done asks nothing. -/
  | done (a : α) : Yields (.done a) [] a
  /-- A request is answered, and the answer selects how the run goes on. -/
  | ask {r : I.Request} {next : I.Answer r → Program I α} {x : I.Answer r}
      {t : List (Exchange I)} {a : α} (rest : Yields (next x) t a) :
      Yields (.ask r next) (⟨r, x⟩ :: t) a

@[simp] lemma yields_done_iff {a b : α} {t : List (Exchange I)} :
    (done a : Program I α).Yields t b ↔ t = [] ∧ b = a := by
  constructor
  · intro h
    cases h
    exact ⟨rfl, rfl⟩
  · rintro ⟨rfl, rfl⟩
    exact .done _

/-- A run of a program that asks begins with this exchange and goes on with the answer. -/
lemma yields_ask_iff {r : I.Request} {next : I.Answer r → Program I α} {t : List (Exchange I)}
    {a : α} : (ask r next).Yields t a ↔ ∃ x rest, t = ⟨r, x⟩ :: rest ∧ (next x).Yields rest a := by
  constructor
  · intro h
    cases h with
    | ask rest => exact ⟨_, _, rfl, rest⟩
  · rintro ⟨x, rest, rfl, h⟩
    exact .ask h

/-- A request yields what it is answered. -/
lemma yields_request_iff {r : I.Request} {x : I.Answer r} {t : List (Exchange I)} :
    (request r).Yields t x ↔ t = [⟨r, x⟩] := by
  refine yields_ask_iff.trans ?_
  simp only [yields_done_iff]
  constructor
  · rintro ⟨y, rest, rfl, rfl, rfl⟩
    rfl
  · rintro rfl
    exact ⟨x, [], rfl, rfl, rfl⟩

/-- The runs of two programs in sequence are the runs of the first, each followed by one of the
second. -/
theorem yields_bind_iff {p : Program I α} {f : α → Program I β} {t : List (Exchange I)} {b : β} :
    (p.bind f).Yields t b ↔
      ∃ t₁ t₂ a, t = t₁ ++ t₂ ∧ p.Yields t₁ a ∧ (f a).Yields t₂ b := by
  induction p generalizing t with
  | done a =>
    constructor
    · intro h
      exact ⟨[], t, a, rfl, .done a, h⟩
    · rintro ⟨t₁, t₂, a', rfl, h₁, h₂⟩
      obtain ⟨rfl, rfl⟩ := yields_done_iff.mp h₁
      exact h₂
  | ask r next ih =>
    rw [ask_bind]
    constructor
    · intro h
      obtain ⟨x, rest, rfl, hx⟩ := yields_ask_iff.mp h
      obtain ⟨t₁, t₂, a, rfl, h₁, h₂⟩ := (ih x).mp hx
      exact ⟨⟨r, x⟩ :: t₁, t₂, a, rfl, .ask h₁, h₂⟩
    · rintro ⟨t₁, t₂, a, rfl, h₁, h₂⟩
      obtain ⟨x, rest, rfl, hx⟩ := yields_ask_iff.mp h₁
      exact .ask ((ih x).mpr ⟨rest, t₂, a, rfl, hx, h₂⟩)

/-- The exchanges of a run determine its result. -/
lemma Yields.unique {p : Program I α} {t : List (Exchange I)} {a b : α} (h : p.Yields t a)
    (h' : p.Yields t b) : a = b := by
  induction h with
  | done a => exact (yields_done_iff.mp h').2.symm
  | ask _ ih =>
    cases h' with
    | ask rest => exact ih rest

/-- No run is the beginning of a longer one. -/
lemma Yields.of_prefix {p : Program I α} {t t' : List (Exchange I)} {a b : α} (h : p.Yields t a)
    (h' : p.Yields (t ++ t') b) : t' = [] ∧ b = a := by
  induction h with
  | done a => exact yields_done_iff.mp h'
  | ask _ ih =>
    cases h' with
    | ask rest => exact ih rest

/-- Runs that begin with the same exchanges go on with the same request. -/
lemma Yields.next_request {p : Program I α} {t u u' : List (Exchange I)} {e e' : Exchange I}
    {a b : α} (h : p.Yields (t ++ e :: u) a) (h' : p.Yields (t ++ e' :: u') b) :
    e.request = e'.request := by
  induction t generalizing p with
  | nil =>
    obtain ⟨_, _, _⟩ := h
    obtain ⟨_, _, _⟩ := h'
    rfl
  | cons x t ih =>
    cases h with
    | ask rest =>
      cases h' with
      | ask rest' => exact ih rest rest'

/-- The exchanges are those that surroundings with a state make: `answer` gives the answer to each
request and the state behind it. -/
def Answered (answer : (r : I.Request) → σ → I.Answer r × σ) : σ → List (Exchange I) → Prop
  | _, [] => True
  | s, e :: t => (answer e.request s).1 = e.answer ∧ Answered answer (answer e.request s).2 t

/-- Every program has a run in all surroundings, and what follows it there follows in the state that
the program leaves. -/
lemma exists_yields_append (p : Program I α) (answer : (r : I.Request) → σ → I.Answer r × σ)
    (s : σ) : ∃ t, p.Yields t (p.runWith answer s).1 ∧
      ∀ rest, Answered answer (p.runWith answer s).2 rest → Answered answer s (t ++ rest) := by
  induction p generalizing s with
  | done a => exact ⟨[], .done a, fun rest hrest => hrest⟩
  | ask r next ih =>
    obtain ⟨t, run, hbehind⟩ := ih (answer r s).1 (answer r s).2
    exact ⟨⟨r, (answer r s).1⟩ :: t, .ask run, fun rest hrest => ⟨rfl, hbehind rest hrest⟩⟩

/-- Whatever answers the requests of a program, the program comes to an end. -/
theorem exists_yields (p : Program I α) (answer : (r : I.Request) → σ → I.Answer r × σ) (s : σ) :
    ∃ t, p.Yields t (p.runWith answer s).1 ∧ Answered answer s t := by
  obtain ⟨t, run, hbehind⟩ := p.exists_yields_append answer s
  have hanswered := hbehind [] trivial
  rw [List.append_nil] at hanswered
  exact ⟨t, run, hanswered⟩

/-! ### Interpreted programs -/

/-- The exchanges of an interpreted program: those of the programs that carry out its requests, one
after the other. -/
inductive Interpreted (f : (r : I.Request) → Program J (I.Answer r)) :
    List (Exchange I) → List (Exchange J) → Prop where
  | nil : Interpreted f [] []
  | cons {r : I.Request} {x : I.Answer r} {asked : List (Exchange I)} {t₁ t₂ : List (Exchange J)}
      (head : (f r).Yields t₁ x) (rest : Interpreted f asked t₂) :
      Interpreted f (⟨r, x⟩ :: asked) (t₁ ++ t₂)

variable {f : (r : I.Request) → Program J (I.Answer r)} {t : List (Exchange J)}

lemma Interpreted.nil_iff : Interpreted f [] t ↔ t = [] := by
  constructor
  · intro h
    cases h
    rfl
  · rintro rfl
    exact .nil

/-- The first request is carried out first. -/
lemma Interpreted.cons_iff {r : I.Request} {x : I.Answer r} {asked : List (Exchange I)} :
    Interpreted f (⟨r, x⟩ :: asked) t ↔
      ∃ t₁ t₂, t = t₁ ++ t₂ ∧ (f r).Yields t₁ x ∧ Interpreted f asked t₂ := by
  constructor
  · intro h
    cases h with
    | cons head rest => exact ⟨_, _, rfl, head, rest⟩
  · rintro ⟨t₁, t₂, rfl, head, rest⟩
    exact .cons head rest

/-- What is asked in two parts is carried out in two parts. -/
lemma Interpreted.append_iff {asked₁ asked₂ : List (Exchange I)} :
    Interpreted f (asked₁ ++ asked₂) t ↔
      ∃ t₁ t₂, t = t₁ ++ t₂ ∧ Interpreted f asked₁ t₁ ∧ Interpreted f asked₂ t₂ := by
  induction asked₁ generalizing t with
  | nil => simp [Interpreted.nil_iff]
  | cons e asked₁ ih =>
    rw [List.cons_append, Interpreted.cons_iff]
    constructor
    · rintro ⟨t₁, t₂, rfl, head, rest⟩
      obtain ⟨t₂, t₃, rfl, h₁, h₂⟩ := ih.mp rest
      exact ⟨t₁ ++ t₂, t₃, (List.append_assoc t₁ t₂ t₃).symm, .cons head h₁, h₂⟩
    · rintro ⟨t₁, t₂, rfl, h₁, h₂⟩
      obtain ⟨t₁, t₃, rfl, head, rest⟩ := Interpreted.cons_iff.mp h₁
      exact ⟨t₁, t₃ ++ t₂, List.append_assoc t₁ t₃ t₂, head, ih.mpr ⟨t₃, t₂, rfl, rest, h₂⟩⟩

/-- A run of an interpreted program is a run of the program, with each request carried out. -/
theorem yields_interpret_iff {p : Program I α} {a : α} :
    (p.interpret f).Yields t a ↔ ∃ asked, Interpreted f asked t ∧ p.Yields asked a := by
  induction p generalizing t with
  | done b =>
    constructor
    · intro h
      obtain ⟨rfl, rfl⟩ := yields_done_iff.mp h
      exact ⟨[], .nil, .done _⟩
    · rintro ⟨asked, hasked, h⟩
      obtain ⟨rfl, rfl⟩ := yields_done_iff.mp h
      obtain rfl := Interpreted.nil_iff.mp hasked
      exact .done _
  | ask r next ih =>
    refine yields_bind_iff.trans ?_
    constructor
    · rintro ⟨t₁, t₂, x, rfl, head, h⟩
      obtain ⟨asked, rest, hnext⟩ := (ih x).mp h
      exact ⟨⟨r, x⟩ :: asked, .cons head rest, .ask hnext⟩
    · rintro ⟨asked, hasked, h⟩
      obtain ⟨x, asked, rfl, hnext⟩ := yields_ask_iff.mp h
      obtain ⟨t₁, t₂, rfl, head, rest⟩ := Interpreted.cons_iff.mp hasked
      exact ⟨t₁, t₂, x, rfl, head, (ih x).mpr ⟨asked, rest, hnext⟩⟩

end Program

/-! ### Actions -/

/-- An exchange with the interface, as one with the interface and a clock. -/
def Exchange.timed {I : Interface} (e : Exchange I) : Exchange I.timed :=
  ⟨.other e.request, e.answer⟩

/-- A reading of the clock that nothing bounds, with the time that it shows. -/
def Exchange.reading {I : Interface} (time : Nat) : Exchange I.timed :=
  ⟨.clock 0, ⟨time, Nat.zero_le time⟩⟩

/-- The request is one to the clock, or an allowed one to the interface itself. -/
def TimedRequest.Within {I : Interface} (allowed : I.Request → Prop) : TimedRequest I → Prop
  | .clock _ | .sleep _ => True
  | .other r => allowed r

namespace Action

variable {I : Interface} {α β : Type}

/-- The action asks exactly the requests of the exchanges when it is answered as there, and gives a
value or fails. -/
def Yields (action : Action I α) (t : List (Exchange I)) (r : Except Failure α) : Prop :=
  Program.Yields action.run t r

@[simp] lemma yields_pure_iff {a : α} {t : List (Exchange I)} {r : Except Failure α} :
    Yields (pure a : Action I α) t r ↔ t = [] ∧ r = .ok a :=
  Program.yields_done_iff

@[simp] lemma yields_throw_iff {e : Failure} {t : List (Exchange I)} {r : Except Failure α} :
    Yields (throw e : Action I α) t r ↔ t = [] ∧ r = .error e :=
  Program.yields_done_iff

@[simp] lemma yields_ofExcept_iff {x : Except Failure α} {t : List (Exchange I)}
    {r : Except Failure α} : Yields (ofExcept x : Action I α) t r ↔ t = [] ∧ r = x :=
  Program.yields_done_iff

/-- Whatever answers the requests of an action, the action comes to an end. -/
lemma exists_yields {σ : Type} (action : Action I α)
    (answer : (r : I.Request) → σ → I.Answer r × σ) (s : σ) :
    ∃ t r, action.Yields t r ∧ Program.Answered answer s t := by
  obtain ⟨t, run, hanswered⟩ := Program.exists_yields action.run answer s
  exact ⟨t, _, run, hanswered⟩

/-- An action ends with the first failure of its parts. -/
theorem yields_bind_iff {action : Action I α} {f : α → Action I β} {t : List (Exchange I)}
    {r : Except Failure β} :
    Yields (action >>= f) t r ↔
      (∃ e, action.Yields t (.error e) ∧ r = .error e) ∨
        ∃ t₁ t₂ a, t = t₁ ++ t₂ ∧ action.Yields t₁ (.ok a) ∧ (f a).Yields t₂ r := by
  refine Program.yields_bind_iff.trans ?_
  constructor
  · rintro ⟨t₁, t₂, x, rfl, h₁, h₂⟩
    cases x with
    | error e =>
      obtain ⟨rfl, rfl⟩ := Program.yields_done_iff.mp h₂
      exact .inl ⟨e, by rwa [List.append_nil], rfl⟩
    | ok a => exact .inr ⟨t₁, t₂, a, rfl, h₁, h₂⟩
  · rintro (⟨e, h, rfl⟩ | ⟨t₁, t₂, a, rfl, h₁, h₂⟩)
    · exact ⟨t, [], .error e, (List.append_nil t).symm, h, .done _⟩
    · exact ⟨t₁, t₂, .ok a, rfl, h₁, h₂⟩

/-- An action gives a value only if all its parts do. -/
lemma yields_bind_ok_iff {action : Action I α} {f : α → Action I β} {t : List (Exchange I)}
    {b : β} :
    Yields (action >>= f) t (.ok b) ↔
      ∃ t₁ t₂ a, t = t₁ ++ t₂ ∧ action.Yields t₁ (.ok a) ∧ (f a).Yields t₂ (.ok b) := by
  simp [yields_bind_iff]

/-- What follows an action and asks nothing only turns its outcome into another one. -/
lemma yields_bind_read_iff {action : Action I α} {f : α → Action I β} {read : α → Except Failure β}
    (hread : ∀ a t r, (f a).Yields t r ↔ t = [] ∧ r = read a) {t : List (Exchange I)}
    {r : Except Failure β} :
    Yields (action >>= f) t r ↔ ∃ x, action.Yields t x ∧ r = x >>= read := by
  rw [yields_bind_iff]
  constructor
  · rintro (⟨e, h, rfl⟩ | ⟨t₁, t₂, a, rfl, h, hfollows⟩)
    · exact ⟨.error e, h, rfl⟩
    · obtain ⟨rfl, rfl⟩ := (hread a t₂ r).mp hfollows
      exact ⟨.ok a, by rwa [List.append_nil], rfl⟩
  · rintro ⟨x, h, rfl⟩
    cases x with
    | error e => exact .inl ⟨e, h, rfl⟩
    | ok a => exact .inr ⟨t, [], a, (List.append_nil t).symm, h, (hread a [] _).mpr ⟨rfl, rfl⟩⟩

/-- A program that cannot fail runs inside an action as it does alone. -/
theorem yields_lift_bind_iff {p : Program I β} {f : β → Action I α} {t : List (Exchange I)}
    {r : Except Failure α} :
    Yields ((liftM p : Action I β) >>= f) t r ↔
      ∃ t₁ t₂ b, t = t₁ ++ t₂ ∧ p.Yields t₁ b ∧ (f b).Yields t₂ r := by
  have hrun : ((liftM p : Action I β) >>= f).run = p.bind fun b => (f b).run :=
    Program.bind_assoc p (fun b => Program.done (Except.ok b : Except Failure β))
      (ExceptT.bindCont f)
  unfold Yields
  rw [hrun]
  exact Program.yields_bind_iff

/-- A failure that is caught selects how the action goes on. -/
theorem yields_tryCatch_iff {action : Action I α} {handle : Failure → Action I α}
    {t : List (Exchange I)} {r : Except Failure α} :
    Yields (tryCatch action handle) t r ↔
      (∃ a, action.Yields t (.ok a) ∧ r = .ok a) ∨
        ∃ t₁ t₂ e, t = t₁ ++ t₂ ∧ action.Yields t₁ (.error e) ∧ (handle e).Yields t₂ r := by
  refine Program.yields_bind_iff.trans ?_
  constructor
  · rintro ⟨t₁, t₂, x, rfl, h₁, h₂⟩
    cases x with
    | ok a =>
      obtain ⟨rfl, rfl⟩ := Program.yields_done_iff.mp h₂
      exact .inl ⟨a, by rwa [List.append_nil], rfl⟩
    | error e => exact .inr ⟨t₁, t₂, e, rfl, h₁, h₂⟩
  · rintro (⟨a, h, rfl⟩ | ⟨t₁, t₂, e, rfl, h₁, h₂⟩)
    · exact ⟨t, [], .ok a, (List.append_nil t).symm, h, .done _⟩
    · exact ⟨t₁, t₂, .error e, rfl, h₁, h₂⟩

/-- Beside a clock, every request is asked as it is. -/
lemma interpreted_timed_iff {asked : List (Exchange I)} {t : List (Exchange I.timed)} :
    Program.Interpreted (fun q => Program.ask (I := I.timed) (.other q) Program.done) asked t ↔
      t = asked.map Exchange.timed := by
  induction asked generalizing t with
  | nil => exact Program.Interpreted.nil_iff
  | cons e asked ih =>
    refine Program.Interpreted.cons_iff.trans ?_
    constructor
    · rintro ⟨t₁, t₂, rfl, head, rest⟩
      obtain rfl := Program.yields_request_iff.mp head
      rw [ih.mp rest]
      rfl
    · rintro rfl
      exact ⟨[e.timed], _, rfl, Program.yields_request_iff.mpr rfl, ih.mpr rfl⟩

/-- An action runs with a clock as it does without one. -/
theorem yields_timed_iff {action : Action I α} {t : List (Exchange I.timed)}
    {r : Except Failure α} :
    action.timed.Yields t r ↔ ∃ asked, t = asked.map Exchange.timed ∧ action.Yields asked r := by
  refine Program.yields_interpret_iff.trans (exists_congr fun asked => ?_)
  rw [interpreted_timed_iff]
  exact Iff.rfl

/-- A reading of the clock shows a time that is not before the bound, and what follows goes on with
this time. -/
lemma yields_clock_bind_iff {since : Nat} {f : { time : Nat // since ≤ time } → Action I.timed β}
    {t : List (Exchange I.timed)} {r : Except Failure β} :
    Yields (clock since >>= f) t r ↔
      ∃ (time : Nat) (h : since ≤ time) (rest : List (Exchange I.timed)),
        t = ⟨.clock since, ⟨time, h⟩⟩ :: rest ∧ (f ⟨time, h⟩).Yields rest r := by
  refine Program.yields_ask_iff.trans ?_
  constructor
  · rintro ⟨⟨time, h⟩, rest, rfl, hrest⟩
    exact ⟨time, h, rest, rfl, hrest⟩
  · rintro ⟨time, h, rest, rfl, hrest⟩
    exact ⟨⟨time, h⟩, rest, rfl, hrest⟩

/-- A sleep only takes its time. -/
lemma yields_sleep_bind_iff {time : Nat} {f : Unit → Action I.timed β}
    {t : List (Exchange I.timed)} {r : Except Failure β} :
    Yields (sleep time >>= f) t r ↔
      ∃ rest, t = ⟨.sleep time, ()⟩ :: rest ∧ (f ()).Yields rest r := by
  refine Program.yields_ask_iff.trans ?_
  constructor
  · rintro ⟨⟨⟩, rest, rfl, hrest⟩
    exact ⟨rest, rfl, hrest⟩
  · rintro ⟨rest, rfl, hrest⟩
    exact ⟨(), rest, rfl, hrest⟩

/-! ### Loops -/

/-- The exchanges of a loop over items: one for each item in its order, up to the first item at
which the loop stops with a failure. -/
inductive LoopRun {ι : Type} (passes : ι → Exchange I → Prop)
    (stops : ι → Failure → Exchange I → Prop) (items : List ι) :
    List (Exchange I) → Except Failure Unit → Prop where
  | completed {asked : List (Exchange I)} (passed : List.Forall₂ passes items asked) :
      LoopRun passes stops items asked (.ok ())
  | stopped {before left : List ι} {item : ι} {asked : List (Exchange I)} {last : Exchange I}
      {e : Failure} (split : items = before ++ item :: left)
      (passed : List.Forall₂ passes before asked) (stop : stops item e last) :
      LoopRun passes stops items (asked ++ [last]) (.error e)

section Loop

variable {ι : Type} {passes : ι → Exchange I → Prop} {stops : ι → Failure → Exchange I → Prop}
  {item : ι} {items : List ι} {e : Failure} {x : Exchange I} {asked : List (Exchange I)}
  {r : Except Failure Unit}

/-- A loop that gets through passes every item. -/
lemma LoopRun.forall₂ (h : LoopRun passes stops items asked (.ok ())) :
    List.Forall₂ passes items asked := by
  cases h with
  | completed passed => exact passed

lemma LoopRun.nil_iff : LoopRun passes stops [] asked r ↔ asked = [] ∧ r = .ok () := by
  constructor
  · intro h
    cases h with
    | completed passed => exact ⟨List.forall₂_nil_left_iff.mp passed, rfl⟩
    | stopped split => simp at split
  · rintro ⟨rfl, rfl⟩
    exact .completed .nil

/-- A loop stops at its first item or passes it. -/
lemma LoopRun.cons_iff :
    LoopRun passes stops (item :: items) asked r ↔
      (∃ x e, asked = [x] ∧ stops item e x ∧ r = .error e) ∨
        ∃ x rest, asked = x :: rest ∧ passes item x ∧ LoopRun passes stops items rest r := by
  constructor
  · intro h
    cases h with
    | completed passed =>
      obtain ⟨x, rest, hx, hrest, rfl⟩ := List.forall₂_cons_left_iff.mp passed
      exact .inr ⟨x, rest, rfl, hx, .completed hrest⟩
    | @stopped before left stopper asked last e split passed stop =>
      cases before with
      | nil =>
        obtain ⟨rfl, rfl⟩ := List.cons.inj split
        obtain rfl := List.forall₂_nil_left_iff.mp passed
        exact .inl ⟨last, e, rfl, stop, rfl⟩
      | cons first before =>
        obtain ⟨rfl, rfl⟩ := List.cons.inj split
        obtain ⟨x, rest, hx, hrest, rfl⟩ := List.forall₂_cons_left_iff.mp passed
        exact .inr ⟨x, rest ++ [last], rfl, hx, .stopped rfl hrest stop⟩
  · rintro (⟨x, e, rfl, hx, rfl⟩ | ⟨x, rest, rfl, hx, h⟩)
    · rw [← List.nil_append [x]]
      exact .stopped (List.nil_append _).symm .nil hx
    · cases h with
      | completed passed => exact .completed (.cons hx passed)
      | stopped split passed stop =>
        rw [split, ← List.cons_append, ← List.cons_append]
        exact .stopped rfl (.cons hx passed) stop

/-- Exchanges may be replaced by others that pass and stop at the same items. -/
lemma LoopRun.map {g : Exchange I → Exchange I} (h : LoopRun passes stops items asked r)
    (hpasses : ∀ item x, passes item x → passes item (g x))
    (hstops : ∀ item e x, stops item e x → stops item e (g x)) :
    LoopRun passes stops items (asked.map g) r := by
  have hall : ∀ {items : List ι} {asked : List (Exchange I)}, List.Forall₂ passes items asked →
      List.Forall₂ passes items (asked.map g) := fun passed =>
    List.forall₂_map_right_iff.mpr (passed.imp hpasses)
  cases h with
  | completed passed => exact .completed (hall passed)
  | stopped split passed stop =>
    rw [List.map_append]
    exact .stopped split (hall passed) (hstops _ _ _ stop)

/-- A loop that carries out one exchange for each item goes as loops go. -/
theorem yields_loop_iff {step : ι → Action I β} (all : List ι → Action I Unit)
    (hnil : all [] = pure ())
    (hcons : ∀ item rest, all (item :: rest) = step item >>= fun _ => all rest)
    (hpasses : ∀ item t, (∃ b, (step item).Yields t (.ok b)) ↔ ∃ x, t = [x] ∧ passes item x)
    (hstops : ∀ item t e, (step item).Yields t (.error e) ↔ ∃ x, t = [x] ∧ stops item e x) :
    (all items).Yields asked r ↔ LoopRun passes stops items asked r := by
  induction items generalizing asked with
  | nil => rw [hnil, yields_pure_iff, LoopRun.nil_iff]
  | cons item items ih =>
    rw [hcons, yields_bind_iff, LoopRun.cons_iff]
    constructor
    · rintro (⟨e, hfail, rfl⟩ | ⟨t₁, t₂, b, rfl, hstep, hrest⟩)
      · obtain ⟨x, rfl, hx⟩ := (hstops item asked e).mp hfail
        exact .inl ⟨x, e, rfl, hx, rfl⟩
      · obtain ⟨x, rfl, hx⟩ := (hpasses item t₁).mp ⟨b, hstep⟩
        exact .inr ⟨x, t₂, rfl, hx, ih.mp hrest⟩
    · rintro (⟨x, e, rfl, hx, rfl⟩ | ⟨x, rest, rfl, hx, hrest⟩)
      · exact .inl ⟨e, (hstops item [x] e).mpr ⟨x, rfl, hx⟩, rfl⟩
      · obtain ⟨b, hstep⟩ := (hpasses item [x]).mpr ⟨x, rfl, hx⟩
        exact .inr ⟨[x], rest, b, rfl, hstep, ih.mpr hrest⟩

end Loop

/-! ### What an action can ask -/

/-- Every request that the action asks is an allowed one, however it is answered. -/
def AsksOnly (allowed : I.Request → Prop) (action : Action I α) : Prop :=
  ∀ t r, action.Yields t r → ∀ e ∈ t, allowed e.request

variable {allowed : I.Request → Prop}

lemma asksOnly_pure (a : α) : AsksOnly allowed (pure a : Action I α) := by
  intro t r h
  simp [(yields_pure_iff.mp h).1]

lemma asksOnly_throw (e : Failure) : AsksOnly allowed (throw e : Action I α) := by
  intro t r h
  simp [(yields_throw_iff.mp h).1]

lemma asksOnly_ofExcept (x : Except Failure α) : AsksOnly allowed (ofExcept x : Action I α) := by
  intro t r h
  simp [(yields_ofExcept_iff.mp h).1]

/-- What is asked one after the other is allowed if each part is. -/
lemma AsksOnly.bind {action : Action I α} {f : α → Action I β} (h : AsksOnly allowed action)
    (hf : ∀ a, AsksOnly allowed (f a)) : AsksOnly allowed (action >>= f) := by
  intro t r hr
  obtain ⟨e, hfail, -⟩ | ⟨t₁, t₂, a, rfl, h₁, h₂⟩ := yields_bind_iff.mp hr
  · exact h t _ hfail
  · exact List.forall_mem_append.mpr ⟨h t₁ _ h₁, hf a t₂ r h₂⟩

/-- A handler asks behind the action that it handles. -/
lemma AsksOnly.tryCatch {action : Action I α} {handle : Failure → Action I α}
    (h : AsksOnly allowed action) (hh : ∀ e, AsksOnly allowed (handle e)) :
    AsksOnly allowed (tryCatch action handle) := by
  intro t r hr
  obtain ⟨a, hok, -⟩ | ⟨t₁, t₂, e, rfl, h₁, h₂⟩ := yields_tryCatch_iff.mp hr
  · exact h t _ hok
  · exact List.forall_mem_append.mpr ⟨h t₁ _ h₁, hh e t₂ r h₂⟩

/-- An action with a clock asks what it asks without one. -/
lemma AsksOnly.timed {action : Action I α} (h : AsksOnly allowed action) :
    AsksOnly (I := I.timed) (TimedRequest.Within allowed) action.timed := by
  intro t r hr
  obtain ⟨asked, rfl, hasked⟩ := yields_timed_iff.mp hr
  exact List.forall_mem_map.mpr fun e he => h asked r hasked e he

/-- An interpreted action asks what the programs ask that carry out its requests. -/
lemma asksOnly_interpret {J : Interface} {allowed : J.Request → Prop}
    {f : (r : I.Request) → Program J (I.Answer r)} (action : Action I α)
    (hf : ∀ r t x, (f r).Yields t x → ∀ e ∈ t, allowed e.request) :
    AsksOnly allowed (action.interpret f) := by
  have hasked : ∀ (asked : List (Exchange I)) (t : List (Exchange J)),
      Program.Interpreted f asked t → ∀ e ∈ t, allowed e.request := by
    intro asked t h
    induction h with
    | nil => simp
    | cons head rest ih => exact List.forall_mem_append.mpr ⟨hf _ _ _ head, ih⟩
  intro t r h
  obtain ⟨asked, hinterpreted, -⟩ := Program.yields_interpret_iff.mp h
  exact hasked asked t hinterpreted

end Action

end BrokerHarness

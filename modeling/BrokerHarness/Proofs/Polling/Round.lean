import BrokerHarness.Polling
import BrokerHarness.Proofs.Run

/-!
# The rounds of a polling

A polling is a sequence of rounds.  In a round the condition is evaluated, and if it does not hold
yet the time is read.  A round that reaches the condition, fails, or is pending at the deadline
decides the polling; between two rounds there is one sleep.

`Polling.Course` follows the recursion of the polling, one constructor for each way to go on behind
an evaluation, and `runFrom_yields_iff` says that it describes exactly the runs.  Every further
statement about pollings is an induction on courses.  `RoundsOf` is the account of a whole run that
such statements give: which exchanges were made by which round.
-/

namespace BrokerHarness

/-- What is seen of an exchange with an interface and a clock: the reading of the clock without the
bound that came with the request. -/
inductive Moment (I : Interface) where
  /-- The clock shows a time. -/
  | reading (time : Nat)
  /-- A sleep takes a time. -/
  | sleep (time : Nat)
  /-- An exchange with the interface itself. -/
  | exchange (e : Exchange I)

/-- What is seen of an exchange. -/
def Exchange.moment {I : Interface} : Exchange I.timed → Moment I
  | ⟨.clock _, ⟨time, _⟩⟩ => .reading time
  | ⟨.sleep time, _⟩ => .sleep time
  | ⟨.other r, x⟩ => .exchange ⟨r, x⟩

/-- The exchanges of a run from a time on, if the clock is exact: sleeps move it by the time that
they take, nothing else moves it, and every other exchange is possible at the time that it
shows. -/
def Timeline {I : Interface} (possible : Nat → Exchange I → Prop) :
    Nat → List (Exchange I.timed) → Prop
  | _, [] => True
  | now, ⟨.clock _, ⟨time, _⟩⟩ :: t => time = now ∧ Timeline possible now t
  | now, ⟨.sleep time, _⟩ :: t => Timeline possible (now + time) t
  | now, ⟨.other r, x⟩ :: t => possible now ⟨r, x⟩ ∧ Timeline possible now t

/-- Requests of a condition take no time of a timeline. -/
lemma timeline_map_timed_append {I : Interface} {possible : Nat → Exchange I → Prop} {now : Nat}
    {asked : List (Exchange I)} {t : List (Exchange I.timed)} :
    Timeline possible now (asked.map Exchange.timed ++ t) ↔
      (∀ e ∈ asked, possible now e) ∧ Timeline possible now t := by
  induction asked with
  | nil => simp
  | cons e asked ih =>
    simp only [List.map_cons, List.cons_append, List.forall_mem_cons, and_assoc, ← ih]
    exact Iff.rfl

/-- The bounds on the readings of a run are warranted by what the clock showed before, when it
showed a time not before `low`: clocks do not go backwards and sleeps are not cut short. -/
def Warranted {I : Interface} : Nat → List (Exchange I.timed) → Prop
  | _, [] => True
  | low, ⟨.clock since, ⟨time, _⟩⟩ :: t => since ≤ low ∧ Warranted time t
  | low, ⟨.sleep time, _⟩ :: t => Warranted (low + time) t
  | low, ⟨.other _, _⟩ :: t => Warranted low t

/-- Requests of a condition say nothing about the clock. -/
lemma warranted_map_timed_append {I : Interface} {low : Nat} {asked : List (Exchange I)}
    {t : List (Exchange I.timed)} :
    Warranted low (asked.map Exchange.timed ++ t) ↔ Warranted low t := by
  induction asked with
  | nil => rfl
  | cons e asked ih => exact ih

/-- One round of a polling, with the exchanges of its evaluation. -/
inductive Round (I : Interface) (α : Type) where
  /-- The evaluation fails. -/
  | failed (asked : List (Exchange I)) (failure : Failure)
  /-- The condition is reached. -/
  | reached (asked : List (Exchange I)) (value : α)
  /-- The condition is not reached, and behind the evaluation the clock shows a time. -/
  | pending (asked : List (Exchange I)) (observed : String) (time : Nat)

namespace Round

variable {I : Interface} {α : Type}

/-- The exchanges of the evaluation. -/
def asked : Round I α → List (Exchange I)
  | failed asked _ | reached asked _ | pending asked _ _ => asked

/-- What the evaluation finds, or how it fails. -/
def outcome : Round I α → Except Failure (Finding α)
  | failed _ failure => .error failure
  | reached _ value => .ok (.reached value)
  | pending _ observed _ => .ok (.notYet observed)

/-- Whether the condition is not reached, but the evaluation does not fail either. -/
def IsPending : Round I α → Prop
  | pending .. => True
  | failed .. | reached .. => False

/-- What is seen of the round: the exchanges of the evaluation, and the reading of the clock right
behind it if the condition is not reached. -/
def moments : Round I α → List (Moment I)
  | failed asked _ | reached asked _ => asked.map .exchange
  | pending asked _ time => asked.map .exchange ++ [.reading time]

/-- How the round decides a polling with a description and a timeout that began at `start`, if it
does: a failure and a value are passed on, and a pending round decides if the time from the start to
its reading is not below the timeout. -/
def verdict (description : String) (timeout start : Nat) : Round I α → Option (Except Failure α)
  | failed _ failure => some (.error failure)
  | reached _ value => some (.ok value)
  | pending _ observed time =>
    if timeout ≤ time - start then
      some (.error (.deadlinePassed description (time - start) observed))
    else none

end Round

/-- The account of a run of a polling that began at `start`: the rounds evaluate the condition, and
the run consists of the first reading of the clock and of the rounds, with one sleep of the length
of the interval between each two of them. -/
structure RoundsOf {I : Interface} {α : Type} (interval : Nat) (condition : Action I (Finding α))
    (start : Nat) (rounds : List (Round I α)) (t : List (Exchange I.timed)) : Prop where
  /-- There is a round. -/
  ne_nil : rounds ≠ []
  /-- Every round evaluates the condition. -/
  evaluates : ∀ round ∈ rounds, condition.Yields round.asked round.outcome
  /-- What is seen of the run. -/
  moments : t.map Exchange.moment =
    .reading start :: [Moment.sleep interval].intercalate (rounds.map Round.moments)

namespace Polling

variable {I : Interface} {α : Type} {polling : Polling} {condition : Action I (Finding α)}
  {start since : Nat} {rounds : List (Round I α)} {t : List (Exchange I.timed)}
  {r : Except Failure α}

/-- The rest of a run that began at `start`, when the clock cannot show a time before `since`: its
rounds, its exchanges and its result. -/
inductive Course (polling : Polling) (condition : Action I (Finding α)) (start : Nat) :
    Nat → List (Round I α) → List (Exchange I.timed) → Except Failure α → Prop where
  /-- The evaluation fails, and the polling with it. -/
  | failed {since : Nat} {asked : List (Exchange I)} {failure : Failure}
      (run : condition.Yields asked (.error failure)) :
      Course polling condition start since [.failed asked failure] (asked.map Exchange.timed)
        (.error failure)
  /-- The evaluation reaches the condition. -/
  | reached {since : Nat} {asked : List (Exchange I)} {value : α}
      (run : condition.Yields asked (.ok (.reached value))) :
      Course polling condition start since [.reached asked value] (asked.map Exchange.timed)
        (.ok value)
  /-- The evaluation does not reach the condition, and the deadline has passed behind it. -/
  | expired {since time : Nat} {asked : List (Exchange I)} {observed : String}
      (run : condition.Yields asked (.ok (.notYet observed))) (bound : since ≤ time)
      (late : start + polling.timeout ≤ time) :
      Course polling condition start since [.pending asked observed time]
        (asked.map Exchange.timed ++ [⟨.clock since, ⟨time, bound⟩⟩])
        (.error (.deadlinePassed polling.description (time - start) observed))
  /-- The evaluation does not reach the condition, and there is time for another round. -/
  | again {since time : Nat} {asked : List (Exchange I)} {observed : String}
      {rounds : List (Round I α)} {t : List (Exchange I.timed)} {r : Except Failure α}
      (run : condition.Yields asked (.ok (.notYet observed))) (bound : since ≤ time)
      (early : time < start + polling.timeout)
      (rest : Course polling condition start (time + polling.interval) rounds t r) :
      Course polling condition start since (.pending asked observed time :: rounds)
        (asked.map Exchange.timed ++
          ⟨.clock since, ⟨time, bound⟩⟩ :: ⟨.sleep polling.interval, ()⟩ :: t) r

/-- Every course is a run. -/
lemma Course.yields (h : polling.Course condition start since rounds t r) :
    (polling.runFrom condition start since).Yields t r := by
  induction h with
  | failed run =>
    rw [runFrom, Action.yields_bind_iff]
    exact .inl ⟨_, Action.yields_timed_iff.mpr ⟨_, rfl, run⟩, rfl⟩
  | reached run =>
    rw [runFrom, Action.yields_bind_iff]
    refine .inr ⟨_, [], _, (List.append_nil _).symm, Action.yields_timed_iff.mpr ⟨_, rfl, run⟩, ?_⟩
    exact Action.yields_pure_iff.mpr ⟨rfl, rfl⟩
  | expired run bound late =>
    rw [runFrom, Action.yields_bind_iff]
    refine .inr ⟨_, _, _, rfl, Action.yields_timed_iff.mpr ⟨_, rfl, run⟩, ?_⟩
    refine Action.yields_clock_bind_iff.mpr ⟨_, bound, [], rfl, ?_⟩
    simp [late]
  | again run bound early rest ih =>
    rw [runFrom, Action.yields_bind_iff]
    refine .inr ⟨_, _, _, rfl, Action.yields_timed_iff.mpr ⟨_, rfl, run⟩, ?_⟩
    refine Action.yields_clock_bind_iff.mpr ⟨_, bound, _, rfl, ?_⟩
    simp only [Nat.not_le.mpr early, dite_false]
    exact Action.yields_sleep_bind_iff.mpr ⟨_, rfl, ih⟩

/-- Every run is a course.  The proof goes as the polling does, by the time that is left until the
deadline. -/
lemma exists_course (h : (polling.runFrom condition start since).Yields t r) :
    ∃ rounds, polling.Course condition start since rounds t r := by
  induction hn : start + polling.timeout - since using Nat.strongRecOn
    generalizing since t with
  | ind n ih =>
    rw [runFrom, Action.yields_bind_iff] at h
    simp only [Action.yields_timed_iff] at h
    obtain ⟨failure, ⟨asked, rfl, run⟩, rfl⟩ | ⟨_, t₂, finding, rfl, ⟨asked, rfl, run⟩, h⟩ := h
    · exact ⟨_, .failed run⟩
    cases finding with
    | reached value =>
      obtain ⟨rfl, rfl⟩ := Action.yields_pure_iff.mp h
      exact ⟨_, by simpa using Course.reached run⟩
    | notYet observed =>
      obtain ⟨time, bound, t₃, rfl, hread⟩ := Action.yields_clock_bind_iff.mp h
      by_cases late : start + polling.timeout ≤ time
      · simp only [late, dite_true, Action.yields_throw_iff] at hread
        obtain ⟨rfl, rfl⟩ := hread
        exact ⟨_, .expired run bound late⟩
      · simp only [late, dite_false] at hread
        obtain ⟨t₄, rfl, hrest⟩ := Action.yields_sleep_bind_iff.mp hread
        -- Behind the sleep less time is left, since the interval is not zero.
        have hlt : start + polling.timeout - (time + polling.interval) < n := by
          have := polling.interval_pos
          omega
        obtain ⟨rounds, rest⟩ := ih _ hlt hrest rfl
        exact ⟨_, .again run bound (Nat.lt_of_not_le late) rest⟩

/-- The courses are exactly the runs. -/
theorem runFrom_yields_iff :
    (polling.runFrom condition start since).Yields t r ↔
      ∃ rounds, polling.Course condition start since rounds t r :=
  ⟨exists_course, fun ⟨_, h⟩ => h.yields⟩

/-- A run of a polling reads the clock and takes its course from there. -/
theorem run_yields_iff :
    (polling.run condition).Yields t r ↔
      ∃ start rounds rest, t = ⟨.clock 0, ⟨start, Nat.zero_le start⟩⟩ :: rest ∧
        polling.Course condition start start rounds rest r := by
  unfold run
  rw [Action.yields_clock_bind_iff]
  constructor
  · rintro ⟨start, _, rest, rfl, h⟩
    obtain ⟨rounds, course⟩ := runFrom_yields_iff.mp h
    exact ⟨start, rounds, rest, rfl, course⟩
  · rintro ⟨start, rounds, rest, rfl, course⟩
    exact ⟨start, Nat.zero_le start, rest, rfl, runFrom_yields_iff.mpr ⟨rounds, course⟩⟩

/-! ### The account of a run -/

/-- A polling evaluates its condition at least once. -/
lemma Course.ne_nil (h : polling.Course condition start since rounds t r) : rounds ≠ [] := by
  cases h <;> simp

/-- Every round of a course evaluates the condition. -/
lemma Course.evaluates (h : polling.Course condition start since rounds t r) :
    ∀ round ∈ rounds, condition.Yields round.asked round.outcome := by
  induction h with
  | failed run | reached run | expired run _ _ =>
    simpa [Round.asked, Round.outcome] using run
  | again run _ _ _ ih => exact List.forall_mem_cons.mpr ⟨run, ih⟩

/-- What is seen of a course: its rounds, with a sleep between each two of them. -/
lemma Course.moments (h : polling.Course condition start since rounds t r) :
    t.map Exchange.moment =
      [Moment.sleep polling.interval].intercalate (rounds.map Round.moments) := by
  induction h with
  | failed run | reached run =>
    simp [Round.moments, Function.comp_def, Exchange.timed, Exchange.moment]
  | expired run _ _ =>
    simp [Round.moments, Function.comp_def, Exchange.timed, Exchange.moment]
  | @again _ _ _ _ rounds _ _ run _ _ rest ih =>
    have hne : rounds.map Round.moments ≠ [] := by simpa using rest.ne_nil
    rw [List.map_cons, List.intercalate_cons_of_ne_nil hne, ← ih]
    simp [Round.moments, Function.comp_def, Exchange.timed, Exchange.moment]

/-- A course asks of the clock only what earlier readings and sleeps warrant. -/
lemma Course.warranted (h : polling.Course condition start since rounds t r) {low : Nat}
    (hlow : since ≤ low) : Warranted low t := by
  induction h generalizing low with
  | failed | reached => simpa using (warranted_map_timed_append (t := [])).mpr trivial
  | expired => exact warranted_map_timed_append.mpr ⟨hlow, trivial⟩
  | again _ _ _ _ ih => exact warranted_map_timed_append.mpr ⟨hlow, ih (Nat.le_refl _)⟩

/-- A course uses the clock, and asks what evaluations of the condition ask. -/
lemma Course.asksOnly {allowed : I.Request → Prop}
    (h : polling.Course condition start since rounds t r) (hasks : condition.AsksOnly allowed) :
    ∀ e ∈ t, TimedRequest.Within allowed e.request := by
  have heval : ∀ {asked : List (Exchange I)} {found : Except Failure (Finding α)},
      condition.Yields asked found →
        ∀ e ∈ asked.map Exchange.timed, TimedRequest.Within allowed e.request := by
    intro asked found run
    exact List.forall_mem_map.mpr fun e he => hasks asked found run e he
  induction h with
  | failed run | reached run => exact heval run
  | expired run => exact List.forall_mem_append.mpr ⟨heval run, by simp [TimedRequest.Within]⟩
  | again run _ _ _ ih =>
    refine List.forall_mem_append.mpr ⟨heval run, ?_⟩
    exact List.forall_mem_cons.mpr ⟨trivial, List.forall_mem_cons.mpr ⟨trivial, ih⟩⟩

/-- A course that gives a value ends with an evaluation that reaches the condition with this
value. -/
lemma Course.ends_with_reached {value : α}
    (h : polling.Course condition start since rounds t (.ok value)) :
    ∃ earlier asked, t = earlier ++ asked.map Exchange.timed ∧
      condition.Yields asked (.ok (.reached value)) := by
  generalize hr : Except.ok value = r at h
  induction h with
  | failed | expired => cases hr
  | reached run =>
    cases hr
    exact ⟨[], _, rfl, run⟩
  | again run bound early rest ih =>
    obtain ⟨earlier, asked, rfl, hasked⟩ := ih hr
    exact ⟨_, asked, by rw [← List.cons_append, ← List.cons_append, ← List.append_assoc], hasked⟩

/-- The rounds of a course account for the run that it is a part of. -/
lemma Course.roundsOf (h : polling.Course condition start start rounds t r) :
    RoundsOf polling.interval condition start rounds
      (⟨.clock 0, ⟨start, Nat.zero_le start⟩⟩ :: t) where
  ne_nil := h.ne_nil
  evaluates := h.evaluates
  moments := congrArg _ h.moments

end Polling

end BrokerHarness

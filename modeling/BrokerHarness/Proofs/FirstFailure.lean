import BrokerHarness.Proofs.Polling.Decision

/-!
# Runs that end at their first failure

An exchange that fails should be the last one of a run, and its failure the result of the run:
nothing is asked again because of it, nothing is asked behind it, and nothing replaces it.  Which
exchanges fail is a parameter, `fails`, since a failure that is meant to be skipped is not one that
ends a run.

`EndsAtFailure` says this of one run and `Action.PassesOn` of all runs of an action.  It is kept by
every way in which actions are put together, up to pollings (`poll_passesOn`): the lemmas follow the
combinators, so an action passes its failures on if the requests that it is made of do.
-/

namespace BrokerHarness

/-- If an exchange of the run fails, it is the last one, and its failure is the result. -/
def EndsAtFailure {I : Interface} {α : Type} (fails : Exchange I → Failure → Prop)
    (t : List (Exchange I)) (r : Except Failure α) : Prop :=
  ∀ earlier e later failure, t = earlier ++ e :: later → fails e failure →
    later = [] ∧ r = .error failure

section Runs

variable {I : Interface} {α β : Type} {fails weaker : Exchange I → Failure → Prop} {e : Exchange I}
  {t t₁ t₂ : List (Exchange I)} {r : Except Failure α}

lemma endsAtFailure_nil : EndsAtFailure fails [] r := by
  intro earlier e later failure hsplit
  simp at hsplit

/-- A run ends at a failure of its first exchange, or at one of the exchanges behind it. -/
lemma endsAtFailure_cons_iff :
    EndsAtFailure fails (e :: t) r ↔
      (∀ failure, fails e failure → t = [] ∧ r = .error failure) ∧ EndsAtFailure fails t r := by
  constructor
  · intro h
    refine ⟨fun failure => h [] e t failure rfl, ?_⟩
    rintro earlier x later failure rfl
    exact h (e :: earlier) x later failure rfl
  · rintro ⟨hfirst, hrest⟩ earlier x later failure hsplit
    cases earlier with
    | nil =>
      obtain ⟨rfl, rfl⟩ := List.cons.inj hsplit
      exact hfirst failure
    | cons first earlier => exact hrest earlier x later failure (List.cons.inj hsplit).2

/-- A run of one exchange ends at its failure if this failure is the result. -/
lemma endsAtFailure_singleton (h : ∀ failure, fails e failure → r = .error failure) :
    EndsAtFailure fails [e] r :=
  endsAtFailure_cons_iff.mpr ⟨fun failure hfails => ⟨rfl, h failure hfails⟩, endsAtFailure_nil⟩

/-- No exchange of a run that gives a value fails. -/
lemma EndsAtFailure.not_fails {a : α} (h : EndsAtFailure fails t (.ok a : Except Failure α)) :
    ∀ e ∈ t, ∀ failure, ¬ fails e failure := by
  intro e he failure hfails
  obtain ⟨earlier, later, rfl⟩ := List.append_of_mem he
  have hr := (h earlier e later failure rfl hfails).2
  cases hr

/-- A run that begins with exchanges of which none fails ends as the rest of it does. -/
lemma EndsAtFailure.behind (h : EndsAtFailure fails t₂ r)
    (hnone : ∀ e ∈ t₁, ∀ failure, ¬ fails e failure) : EndsAtFailure fails (t₁ ++ t₂) r := by
  induction t₁ with
  | nil => exact h
  | cons e t₁ ih =>
    obtain ⟨hfirst, hrest⟩ := List.forall_mem_cons.mp hnone
    refine endsAtFailure_cons_iff.mpr ⟨fun failure hfails => ?_, ih hrest⟩
    exact absurd hfails (hfirst failure)

/-- A run in which nothing fails has no failure to end at. -/
lemma endsAtFailure_of_not_fails (hnone : ∀ e ∈ t, ∀ failure, ¬ fails e failure) :
    EndsAtFailure fails t r := by
  rw [← List.append_nil t]
  exact endsAtFailure_nil.behind hnone

/-- The failure of a run does not depend on the type of the values that it could have given. -/
lemma EndsAtFailure.of_error {failure : Failure}
    (h : EndsAtFailure fails t (.error failure : Except Failure α)) :
    EndsAtFailure fails t (.error failure : Except Failure β) := by
  intro earlier e later failure' hsplit hfails
  obtain ⟨hlast, hr⟩ := h earlier e later failure' hsplit hfails
  rw [Except.error.inj hr]
  exact ⟨hlast, rfl⟩

/-- Fewer exchanges that count as failing ask for less. -/
lemma EndsAtFailure.mono (h : EndsAtFailure fails t r)
    (hweaker : ∀ e failure, weaker e failure → fails e failure) : EndsAtFailure weaker t r :=
  fun earlier e later failure hsplit hfails =>
    h earlier e later failure hsplit (hweaker e failure hfails)

/-- Beside a clock the exchanges with the interface fail as they do without one.  The clock and
sleeps do not fail. -/
def FailsTimed (fails : Exchange I → Failure → Prop) : Exchange I.timed → Failure → Prop
  | ⟨.other r, x⟩, failure => fails ⟨r, x⟩ failure
  | ⟨.clock _, _⟩, _ | ⟨.sleep _, _⟩, _ => False

/-- Looking at the clock in between is no failure. -/
lemma EndsAtFailure.timed (h : EndsAtFailure fails t r) :
    EndsAtFailure (FailsTimed fails) (t.map Exchange.timed) r := by
  induction t with
  | nil => exact endsAtFailure_nil
  | cons e t ih =>
    obtain ⟨hfirst, hrest⟩ := endsAtFailure_cons_iff.mp h
    refine endsAtFailure_cons_iff.mpr ⟨fun failure hfails => ?_, ih hrest⟩
    obtain ⟨rfl, hr⟩ := hfirst failure hfails
    exact ⟨rfl, hr⟩

end Runs

/-! ### Actions that pass failures on -/

namespace Action

variable {I : Interface} {α β : Type} {fails weaker : Exchange I → Failure → Prop}

/-- Every run of the action ends at its first failure. -/
def PassesOn (fails : Exchange I → Failure → Prop) (action : Action I α) : Prop :=
  ∀ t r, action.Yields t r → EndsAtFailure fails t r

lemma passesOn_pure (a : α) : PassesOn fails (pure a : Action I α) := by
  intro t r h
  obtain ⟨rfl, -⟩ := yields_pure_iff.mp h
  exact endsAtFailure_nil

lemma passesOn_throw (e : Failure) : PassesOn fails (throw e : Action I α) := by
  intro t r h
  obtain ⟨rfl, -⟩ := yields_throw_iff.mp h
  exact endsAtFailure_nil

lemma passesOn_ofExcept (x : Except Failure α) : PassesOn fails (ofExcept x : Action I α) := by
  intro t r h
  obtain ⟨rfl, -⟩ := yields_ofExcept_iff.mp h
  exact endsAtFailure_nil

/-- What is done one after the other ends at the first failure if each part does. -/
lemma PassesOn.bind {action : Action I α} {f : α → Action I β} (h : PassesOn fails action)
    (hf : ∀ a, PassesOn fails (f a)) : PassesOn fails (action >>= f) := by
  intro t r hr
  obtain ⟨e, hfail, rfl⟩ | ⟨t₁, t₂, a, rfl, h₁, h₂⟩ := yields_bind_iff.mp hr
  · exact (h t _ hfail).of_error
  · exact (hf a t₂ r h₂).behind (h t₁ _ h₁).not_fails

/-- An action that passes failures on passes fewer of them on. -/
lemma PassesOn.mono {action : Action I α} (h : PassesOn fails action)
    (hweaker : ∀ e failure, weaker e failure → fails e failure) : PassesOn weaker action :=
  fun t r hr => (h t r hr).mono hweaker

/-- An action with a clock passes on what it passes on without one. -/
lemma PassesOn.timed {action : Action I α} (h : PassesOn fails action) :
    PassesOn (I := I.timed) (FailsTimed fails) action.timed := by
  intro t r hr
  obtain ⟨asked, rfl, hasked⟩ := yields_timed_iff.mp hr
  exact (h asked r hasked).timed

/-- An interpreted action passes on the failures of the programs that carry out its requests, if
each of them ends at its first failure with an answer by which the request itself fails. -/
lemma PassesOn.interpret {J : Interface} {failsWithin : Exchange J → Failure → Prop}
    {action : Action I α} {f : (r : I.Request) → Program J (I.Answer r)}
    (h : PassesOn fails action)
    (hf : ∀ r t x, (f r).Yields t x → ∀ earlier e later failure, t = earlier ++ e :: later →
      failsWithin e failure → later = [] ∧ fails ⟨r, x⟩ failure) :
    PassesOn failsWithin (action.interpret f) := by
  have hends : ∀ asked t, Program.Interpreted f asked t → ∀ r : Except Failure α,
      EndsAtFailure fails asked r → EndsAtFailure failsWithin t r := by
    intro asked t hinterpreted r
    induction hinterpreted with
    | nil => exact fun _ => endsAtFailure_nil
    | @cons request x asked t₁ t₂ head rest ih =>
      intro hasked
      obtain ⟨hfirst, hrest⟩ := endsAtFailure_cons_iff.mp hasked
      intro earlier e later failure hsplit hfails
      obtain ⟨behind, rfl, hbehind⟩ | ⟨behind, rfl, hbehind⟩ := List.append_eq_append_iff.mp hsplit
      · exact ih hrest behind e later failure hbehind hfails
      cases behind with
      | nil => exact ih hrest [] e later failure hbehind.symm hfails
      | cons first behind =>
        -- The failure is one of the exchanges that carry out the first request.
        obtain ⟨rfl, rfl⟩ := List.cons.inj hbehind
        obtain ⟨rfl, hanswer⟩ := hf request _ x head earlier e behind failure rfl hfails
        obtain ⟨rfl, hr⟩ := hfirst failure hanswer
        obtain rfl := Program.Interpreted.nil_iff.mp rest
        exact ⟨rfl, hr⟩
  intro t r hr
  obtain ⟨asked, hinterpreted, hasked⟩ := Program.yields_interpret_iff.mp hr
  exact hends asked t hinterpreted r (h asked r hasked)

end Action

/-! ### Pollings -/

variable {I : Interface} {α : Type} {fails : Exchange I → Failure → Prop} {description : String}
  {interval timeout : Nat} {condition : Action I (Finding α)}

/-- A course ends at the first failure of an evaluation. -/
lemma Polling.Course.endsAtFailure {polling : Polling} {start since : Nat}
    {rounds : List (Round I α)} {t : List (Exchange I.timed)} {r : Except Failure α}
    (h : polling.Course condition start since rounds t r)
    (hcondition : condition.PassesOn fails) : EndsAtFailure (FailsTimed fails) t r := by
  have hpending : ∀ asked finding, condition.Yields asked (.ok finding) →
      ∀ e ∈ asked.map Exchange.timed, ∀ failure, ¬ FailsTimed fails e failure :=
    fun asked finding run => (hcondition asked _ run).timed.not_fails
  induction h with
  | failed run => exact (hcondition _ _ run).timed.of_error
  | reached run => exact endsAtFailure_of_not_fails (hpending _ _ run)
  | expired run bound late =>
    refine EndsAtFailure.behind ?_ (hpending _ _ run)
    exact endsAtFailure_cons_iff.mpr ⟨fun _ hfails => hfails.elim, endsAtFailure_nil⟩
  | again run bound early rest ih =>
    refine EndsAtFailure.behind ?_ (hpending _ _ run)
    refine endsAtFailure_cons_iff.mpr ⟨fun _ hfails => hfails.elim, ?_⟩
    exact endsAtFailure_cons_iff.mpr ⟨fun _ hfails => hfails.elim, ih⟩

/-- A polling passes on the failures of its condition: behind a failed evaluation there is neither a
sleep nor another evaluation. -/
theorem poll_passesOn (h : condition.PassesOn fails) :
    Action.PassesOn (I := I.timed) (FailsTimed fails)
      (poll description interval timeout condition) := by
  refine (Action.passesOn_ofExcept _).bind fun polling t r hrun => ?_
  obtain ⟨start, rounds, rest, rfl, course⟩ := Polling.run_yields_iff.mp hrun
  exact endsAtFailure_cons_iff.mpr ⟨fun _ hfails => hfails.elim, course.endsAtFailure h⟩

end BrokerHarness

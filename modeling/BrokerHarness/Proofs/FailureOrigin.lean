import BrokerHarness.Proofs.FirstFailure

/-!
# Where failures come from

The failure that a run ends with is that of one of its exchanges, or one that the action makes
itself.  `FailsAlong` says this of one run, with the failures that are an action's own as a
parameter, and `Action.FailsBy` of all runs of an action.

It is kept by the ways in which actions are put together.  A polling adds failures of its own, the
fault of its parameters and the missed deadline (`poll_failsBy`).
-/

namespace BrokerHarness

/-- The failure is an own one, or that of an exchange of the run. -/
def FailsAlong {I : Interface} (fails : Exchange I → Failure → Prop) (own : Failure → Prop)
    (t : List (Exchange I)) (failure : Failure) : Prop :=
  own failure ∨ ∃ e ∈ t, fails e failure

section Runs

variable {I : Interface} {fails : Exchange I → Failure → Prop} {own : Failure → Prop}
  {t t' : List (Exchange I)} {failure : Failure}

/-- A failure comes from a part of the run if it comes from a smaller part. -/
lemma FailsAlong.mono (h : FailsAlong fails own t failure) (hsubset : t ⊆ t') :
    FailsAlong fails own t' failure := by
  obtain hown | ⟨e, he, hfails⟩ := h
  · exact .inl hown
  · exact .inr ⟨e, hsubset he, hfails⟩

/-- What was exchanged before does not change where a failure comes from. -/
lemma FailsAlong.behind (h : FailsAlong fails own t failure) (earlier : List (Exchange I)) :
    FailsAlong fails own (earlier ++ t) failure :=
  h.mono (List.subset_append_right earlier t)

/-- The clock is not where a failure comes from. -/
lemma FailsAlong.timed (h : FailsAlong fails own t failure) :
    FailsAlong (FailsTimed fails) own (t.map Exchange.timed) failure := by
  obtain hown | ⟨e, he, hfails⟩ := h
  · exact .inl hown
  · exact .inr ⟨e.timed, List.mem_map_of_mem he, hfails⟩

end Runs

namespace Action

variable {I : Interface} {α β : Type} {fails : Exchange I → Failure → Prop} {own : Failure → Prop}

/-- Every failure of the action is an own one, or that of an exchange. -/
def FailsBy (fails : Exchange I → Failure → Prop) (own : Failure → Prop) (action : Action I α) :
    Prop :=
  ∀ t failure, action.Yields t (.error failure) → FailsAlong fails own t failure

lemma failsBy_pure (a : α) : FailsBy fails own (pure a : Action I α) := by
  intro t failure h
  have herror := (yields_pure_iff.mp h).2
  cases herror

lemma failsBy_throw {e : Failure} (h : own e) : FailsBy fails own (throw e : Action I α) := by
  intro t failure ht
  obtain ⟨-, herror⟩ := yields_throw_iff.mp ht
  obtain rfl := Except.error.inj herror
  exact .inl h

/-- What is done one after the other fails as one of its parts does. -/
lemma FailsBy.bind {action : Action I α} {f : α → Action I β} (h : FailsBy fails own action)
    (hf : ∀ a, FailsBy fails own (f a)) : FailsBy fails own (action >>= f) := by
  intro t failure hr
  obtain ⟨e, hfail, herror⟩ | ⟨t₁, t₂, a, rfl, -, h₂⟩ := yields_bind_iff.mp hr
  · obtain rfl := Except.error.inj herror
    exact h t failure hfail
  · exact (hf a t₂ failure h₂).behind t₁

/-- An action with a clock fails as it does without one. -/
lemma FailsBy.timed {action : Action I α} (h : FailsBy fails own action) :
    FailsBy (I := I.timed) (FailsTimed fails) own action.timed := by
  intro t failure hr
  obtain ⟨asked, rfl, hasked⟩ := yields_timed_iff.mp hr
  exact (h asked failure hasked).timed

/-- A failure of an interpreted action comes from the programs that carry out its requests, if each
of them answers a request by a failure only when one of its own exchanges fails with it. -/
lemma FailsBy.interpret {J : Interface} {failsWithin : Exchange J → Failure → Prop}
    {action : Action I α} {f : (r : I.Request) → Program J (I.Answer r)}
    (h : FailsBy fails own action)
    (hf : ∀ r t x failure, (f r).Yields t x → fails ⟨r, x⟩ failure →
      ∃ e ∈ t, failsWithin e failure) :
    FailsBy failsWithin own (action.interpret f) := by
  have hcarried : ∀ asked t, Program.Interpreted f asked t → ∀ e ∈ asked, ∀ failure,
      fails e failure → ∃ e ∈ t, failsWithin e failure := by
    intro asked t hinterpreted
    induction hinterpreted with
    | nil => simp
    | @cons r x asked t₁ t₂ head rest ih =>
      refine List.forall_mem_cons.mpr ⟨fun failure hfails => ?_, fun e he failure hfails => ?_⟩
      · obtain ⟨e, he, hwithin⟩ := hf r t₁ x failure head hfails
        exact ⟨e, List.mem_append_left t₂ he, hwithin⟩
      · obtain ⟨e, he, hwithin⟩ := ih e he failure hfails
        exact ⟨e, List.mem_append_right t₁ he, hwithin⟩
  intro t failure hr
  obtain ⟨asked, hinterpreted, hasked⟩ := Program.yields_interpret_iff.mp hr
  obtain hown | ⟨e, he, hfails⟩ := h asked failure hasked
  · exact .inl hown
  · exact .inr (hcarried asked t hinterpreted e he failure hfails)

end Action

/-! ### Pollings -/

variable {I : Interface} {α : Type} {fails : Exchange I → Failure → Prop} {own : Failure → Prop}
  {description : String} {interval timeout : Nat} {condition : Action I (Finding α)}

/-- A course fails by an evaluation, or by the deadline. -/
lemma Polling.Course.failsAlong {polling : Polling} {start since : Nat} {rounds : List (Round I α)}
    {t : List (Exchange I.timed)} {failure : Failure}
    (h : polling.Course condition start since rounds t (.error failure))
    (hdeadline : ∀ elapsed observed,
      own (.deadlinePassed polling.description elapsed observed))
    (hcondition : condition.FailsBy fails own) : FailsAlong (FailsTimed fails) own t failure := by
  generalize hr : Except.error failure = r at h
  induction h with
  | failed run =>
    obtain rfl := Except.error.inj hr
    exact (hcondition _ _ run).timed
  | reached run => cases hr
  | expired run bound late =>
    obtain rfl := Except.error.inj hr
    exact .inl (hdeadline _ _)
  | again run bound early rest ih =>
    refine (ih hr).mono fun e he => List.mem_append_right _ ?_
    exact List.mem_cons_of_mem _ (List.mem_cons_of_mem _ he)

/-- The own failures of a polling are those of its condition, the faults of its parameters and the
missed deadline. -/
theorem poll_failsBy (h : condition.FailsBy fails own)
    (hfault : ∀ fault, own (.badSettings fault))
    (hdeadline : ∀ elapsed observed, own (.deadlinePassed description elapsed observed)) :
    Action.FailsBy (I := I.timed) (FailsTimed fails) own
      (poll description interval timeout condition) := by
  intro t failure hr
  by_cases hfaulty : Polling.IsFaulty interval timeout
  · obtain ⟨-, herror⟩ := (poll_yields_iff_of_isFaulty hfaulty).mp hr
    obtain rfl := Except.error.inj herror
    exact .inl (hfault _)
  · obtain ⟨hpos, hlt⟩ := Polling.not_isFaulty_iff.mp hfaulty
    obtain ⟨start, rounds, rest, rfl, course⟩ :=
      Polling.run_yields_iff.mp ((poll_yields_iff_of_lt hpos hlt).mp hr)
    exact (course.failsAlong hdeadline h).behind [.reading start]

end BrokerHarness

import BrokerHarness.Proofs.NameResolution

/-!
# Repeated resolutions

A resolver is asked for its name again and again, and the candidates may be answered for in another
way each time.  `SearchRun` lists what one search among candidates can ask under each policy and how
it ends, and `NamePolicy.search_yields_iff` says that there is nothing else.

`Resolutions` is a sequence of calls on one resolver, each on what the one before it left.  The
resolver keeps a name exactly if some call gave it (`Resolutions.resolved_iff`): this invariant says
of every call whether it searches from the first candidate on or repeats the name that is kept, and
the laws of the sequence, `SettledOnce`, follow from it.
-/

namespace BrokerHarness

/-! ### One search -/

/-- The question for a name is answered. -/
inductive Answers : String → Exchange existence → Prop where
  | answered (name : String) (present : Bool) : Answers name ⟨name, .ok present⟩

/-- The question for a name, with a failure instead of an answer. -/
def unansweredFor (name : String) (e : Failure) : Exchange existence := ⟨name, .error e⟩

/-- The names of the questions that are answered with yes, in their order. -/
def affirmed : List (Exchange existence) → List String
  | [] => []
  | ⟨name, .ok true⟩ :: t => name :: affirmed t
  | _ :: t => affirmed t

/-- What a search among candidates asks under a policy, and how it ends. -/
inductive SearchRun (candidates : List String) :
    NamePolicy → List (Exchange existence) → Except Failure (Option String) → Prop where
  /-- All candidates are absent. -/
  | absent {policy : NamePolicy} :
      SearchRun candidates policy (candidates.map absenceOf) (.ok none)
  /-- A candidate exists, and those before it are absent.  Those behind it are not asked for, or are
  absent too if the name has to be unique. -/
  | found {policy : NamePolicy} {before behind : List String} {name : String}
      (split : candidates = before ++ name :: behind) :
      SearchRun candidates policy
        (before.map absenceOf ++ presenceOf name :: (policy.askedBehind behind).map absenceOf)
        (.ok (some name))
  /-- The name has to be unique, all candidates are asked for, and more than one exists. -/
  | several {t : List (Exchange existence)} (answered : List.Forall₂ Answers candidates t)
      (more : 1 < (affirmed t).length) :
      SearchRun candidates .requireUnique t (.error (.severalNames (affirmed t)))
  /-- The question for a candidate behind absent ones fails. -/
  | newestFailed {before behind : List String} {name : String} {e : Failure}
      (split : candidates = before ++ name :: behind) :
      SearchRun candidates .preferNewest (before.map absenceOf ++ [unansweredFor name e]) (.error e)
  /-- The name has to be unique, and the question for a candidate fails behind others that were
  answered in any way. -/
  | uniqueFailed {before behind : List String} {name : String} {e : Failure}
      {t : List (Exchange existence)} (split : candidates = before ++ name :: behind)
      (answered : List.Forall₂ Answers before t) :
      SearchRun candidates .requireUnique (t ++ [unansweredFor name e]) (.error e)

variable {name : String} {names : List String} {t : List (Exchange existence)} {e : Failure}
  {found : List String}

/-- A question that fails ends a search with its failure, and another one selects how the search
goes on. -/
lemma askExists_bind_yields_error_iff {α : Type} {f : Bool → Action existence α} :
    (askExists name >>= f).Yields t (.error e) ↔
      t = [unansweredFor name e] ∨
        ∃ present rest, t = ⟨name, .ok present⟩ :: rest ∧ (f present).Yields rest (.error e) := by
  refine Action.yields_bind_iff.trans ?_
  constructor
  · rintro (⟨e', hask, he⟩ | ⟨t₁, t₂, present, rfl, hask, hrest⟩)
    · obtain rfl := Program.yields_request_iff.mp hask
      cases he
      exact .inl rfl
    · obtain rfl := Program.yields_request_iff.mp hask
      exact .inr ⟨present, t₂, rfl, hrest⟩
  · rintro (rfl | ⟨present, rest, rfl, hrest⟩)
    · exact .inl ⟨e, Program.yields_request_iff.mpr rfl, rfl⟩
    · exact .inr ⟨[_], rest, present, rfl, Program.yields_request_iff.mpr rfl, hrest⟩

/-- A search for the newest name finds nothing exactly if it was told so of every candidate. -/
lemma firstExisting_yields_none_iff :
    (firstExisting names).Yields t (.ok none) ↔ t = names.map absenceOf := by
  induction names generalizing t with
  | nil => simp [firstExisting]
  | cons first rest ih =>
    refine askExists_bind_yields_iff.trans ?_
    constructor
    · rintro ⟨present, t, rfl, h⟩
      cases present with
      | true =>
        have hsome := (Action.yields_pure_iff.mp h).2
        cases hsome
      | false =>
        rw [ih.mp h]
        rfl
    · rintro rfl
      exact ⟨false, _, rfl, ih.mpr rfl⟩

/-- A search for the newest name fails with the first check that fails, behind checks that found
nothing. -/
lemma firstExisting_yields_error_iff :
    (firstExisting names).Yields t (.error e) ↔
      ∃ before name behind, names = before ++ name :: behind ∧
        t = before.map absenceOf ++ [unansweredFor name e] := by
  induction names generalizing t with
  | nil => simp [firstExisting]
  | cons first rest ih =>
    refine askExists_bind_yields_error_iff.trans ?_
    constructor
    · rintro (rfl | ⟨present, t, rfl, h⟩)
      · exact ⟨[], first, rest, rfl, rfl⟩
      cases present with
      | true =>
        have herror := (Action.yields_pure_iff.mp h).2
        cases herror
      | false =>
        obtain ⟨before, name, behind, rfl, rfl⟩ := ih.mp h
        exact ⟨first :: before, name, behind, rfl, rfl⟩
    · rintro ⟨before, name, behind, hnames, rfl⟩
      cases before with
      | nil =>
        obtain ⟨rfl, rfl⟩ := List.cons.inj hnames
        exact .inl rfl
      | cons other before =>
        obtain ⟨rfl, rfl⟩ := List.cons.inj hnames
        exact .inr ⟨false, _, rfl, ih.mpr ⟨before, name, behind, rfl, rfl⟩⟩

/-- The names that exist are those whose questions are answered with yes. -/
lemma allExisting_yields_ok_iff :
    (allExisting names).Yields t (.ok found) ↔
      List.Forall₂ Answers names t ∧ found = affirmed t := by
  induction names generalizing t found with
  | nil =>
    refine Action.yields_pure_iff.trans ?_
    constructor
    · rintro ⟨rfl, hfound⟩
      exact ⟨.nil, Except.ok.inj hfound⟩
    · rintro ⟨hanswered, rfl⟩
      obtain rfl := List.forall₂_nil_left_iff.mp hanswered
      exact ⟨rfl, rfl⟩
  | cons first rest ih =>
    refine askExists_bind_yields_iff.trans ?_
    constructor
    · rintro ⟨present, t, rfl, h⟩
      cases present with
      | true =>
        obtain ⟨t₁, t₂, others, rfl, hothers, hpure⟩ := Action.yields_bind_ok_iff.mp h
        obtain ⟨rfl, hfound⟩ := Action.yields_pure_iff.mp hpure
        obtain ⟨hanswered, rfl⟩ := ih.mp hothers
        cases hfound
        rw [List.append_nil]
        exact ⟨.cons (.answered first true) hanswered, rfl⟩
      | false =>
        obtain ⟨hanswered, rfl⟩ := ih.mp h
        exact ⟨.cons (.answered first false) hanswered, rfl⟩
    · rintro ⟨hanswered, rfl⟩
      obtain ⟨x, t, hfirst, hrest, rfl⟩ := List.forall₂_cons_left_iff.mp hanswered
      cases hfirst with
      | answered present =>
        refine ⟨present, t, rfl, ?_⟩
        have hothers := ih.mpr ⟨hrest, rfl⟩
        cases present with
        | true =>
          refine Action.yields_bind_ok_iff.mpr ?_
          exact ⟨t, [], _, (List.append_nil t).symm, hothers, Action.yields_pure_iff.mpr ⟨rfl, rfl⟩⟩
        | false => exact hothers

/-- A search for a unique name fails with the first check that fails, whatever the ones before
found. -/
lemma allExisting_yields_error_iff :
    (allExisting names).Yields t (.error e) ↔
      ∃ before name behind asked, names = before ++ name :: behind ∧
        t = asked ++ [unansweredFor name e] ∧ List.Forall₂ Answers before asked := by
  induction names generalizing t with
  | nil => simp [allExisting]
  | cons first rest ih =>
    have hrest : ∀ present t, ((allExisting rest).Yields t (.error e)) ↔
        Action.Yields (if present = true then do return first :: (← allExisting rest)
          else allExisting rest) t (.error e) := by
      intro present t
      cases present with
      | true =>
        refine Iff.trans ?_ Action.yields_bind_iff.symm
        simp
      | false => exact Iff.rfl
    refine askExists_bind_yields_error_iff.trans ?_
    constructor
    · rintro (rfl | ⟨present, t, rfl, h⟩)
      · exact ⟨[], first, rest, [], rfl, rfl, .nil⟩
      · obtain ⟨before, name, behind, asked, rfl, rfl, hasked⟩ := ih.mp ((hrest present t).mpr h)
        exact ⟨first :: before, name, behind, _ :: asked, rfl, rfl,
          .cons (.answered first present) hasked⟩
    · rintro ⟨before, name, behind, asked, hnames, rfl, hasked⟩
      cases before with
      | nil =>
        obtain ⟨rfl, rfl⟩ := List.cons.inj hnames
        obtain rfl := List.forall₂_nil_left_iff.mp hasked
        exact .inl rfl
      | cons other before =>
        obtain ⟨rfl, rfl⟩ := List.cons.inj hnames
        obtain ⟨x, asked, hfirst, hothers, rfl⟩ := List.forall₂_cons_left_iff.mp hasked
        cases hfirst with
        | answered present =>
          refine .inr ⟨present, _, rfl, (hrest present _).mp ?_⟩
          exact ih.mpr ⟨before, name, behind, asked, rfl, rfl, hothers⟩

/-- A search that has to find a unique name fails by a question that does, or with the names that
exist if there is more than one. -/
lemma requireUnique_search_yields_error_iff :
    (NamePolicy.requireUnique.search names).Yields t (.error e) ↔
      (allExisting names).Yields t (.error e) ∨
        (List.Forall₂ Answers names t ∧ 1 < (affirmed t).length ∧
          e = .severalNames (affirmed t)) := by
  refine Action.yields_bind_iff.trans (or_congr ?_ ?_)
  · constructor
    · rintro ⟨e', hall, he⟩
      cases he
      exact hall
    · intro hall
      exact ⟨e, hall, rfl⟩
  · constructor
    · rintro ⟨t₁, t₂, found, rfl, hall, hselect⟩
      obtain ⟨hanswered, hfound⟩ := allExisting_yields_ok_iff.mp hall
      match found with
      | [] | [one] =>
        have herror := (Action.yields_pure_iff.mp hselect).2
        cases herror
      | first :: second :: more =>
        obtain ⟨rfl, herror⟩ := Action.yields_throw_iff.mp hselect
        cases herror
        rw [List.append_nil, ← hfound]
        exact ⟨hanswered, by simp, rfl⟩
    · rintro ⟨hanswered, hmore, rfl⟩
      refine ⟨t, [], affirmed t, (List.append_nil t).symm,
        allExisting_yields_ok_iff.mpr ⟨hanswered, rfl⟩, ?_⟩
      match hfound : affirmed t with
      | [] | [one] => simp [hfound] at hmore
      | first :: second :: more => exact Action.yields_throw_iff.mpr ⟨rfl, rfl⟩

/-- No name is unique exactly if all are absent. -/
lemma requireUnique_search_yields_none_iff :
    (NamePolicy.requireUnique.search names).Yields t (.ok none) ↔ t = names.map absenceOf := by
  rw [← allExisting_yields_nil_iff]
  refine Action.yields_bind_ok_iff.trans ?_
  constructor
  · rintro ⟨t₁, t₂, found, rfl, hall, hselect⟩
    match found with
    | [] =>
      obtain ⟨rfl, -⟩ := Action.yields_pure_iff.mp hselect
      rwa [List.append_nil]
    | [one] =>
      have hsome := (Action.yields_pure_iff.mp hselect).2
      cases hsome
    | first :: second :: more =>
      have herror := (Action.yields_throw_iff.mp hselect).2
      cases herror
  · intro hall
    exact ⟨t, [], [], (List.append_nil t).symm, hall, Action.yields_pure_iff.mpr ⟨rfl, rfl⟩⟩

/-- The runs of a search are those that are listed. -/
theorem NamePolicy.search_yields_iff {policy : NamePolicy} {r : Except Failure (Option String)} :
    (policy.search names).Yields t r ↔ SearchRun names policy t r := by
  constructor
  · intro h
    cases policy with
    | preferNewest =>
      rcases r with e | _ | name
      · obtain ⟨before, name, behind, split, rfl⟩ := firstExisting_yields_error_iff.mp h
        exact .newestFailed split
      · obtain rfl := firstExisting_yields_none_iff.mp h
        exact .absent
      · obtain ⟨before, behind, split, rfl⟩ := firstExisting_yields_some_iff.mp h
        exact .found split
    | requireUnique =>
      rcases r with e | _ | name
      · obtain hall | ⟨hanswered, hmore, rfl⟩ := requireUnique_search_yields_error_iff.mp h
        · obtain ⟨before, name, behind, asked, split, rfl, hasked⟩ :=
            allExisting_yields_error_iff.mp hall
          exact .uniqueFailed split hasked
        · exact .several hanswered hmore
      · obtain rfl := requireUnique_search_yields_none_iff.mp h
        exact .absent
      · have hall := requireUnique_search_yields_some_iff.mp h
        obtain ⟨before, behind, split, rfl⟩ := allExisting_yields_singleton_iff.mp hall
        exact .found split
  · intro h
    cases h with
    | absent =>
      cases policy with
      | preferNewest => exact firstExisting_yields_none_iff.mpr rfl
      | requireUnique => exact requireUnique_search_yields_none_iff.mpr rfl
    | found split =>
      cases policy with
      | preferNewest => exact firstExisting_yields_some_iff.mpr ⟨_, _, split, rfl⟩
      | requireUnique =>
        refine requireUnique_search_yields_some_iff.mpr ?_
        exact allExisting_yields_singleton_iff.mpr ⟨_, _, split, rfl⟩
    | several answered more =>
      exact requireUnique_search_yields_error_iff.mpr (.inr ⟨answered, more, rfl⟩)
    | newestFailed split => exact firstExisting_yields_error_iff.mpr ⟨_, _, _, split, rfl⟩
    | uniqueFailed split answered =>
      refine requireUnique_search_yields_error_iff.mpr (.inl ?_)
      exact allExisting_yields_error_iff.mpr ⟨_, _, _, _, split, rfl, answered⟩

/-- A search gives no name exactly if all candidates were asked for and are absent. -/
lemma SearchRun.outcome_eq_none_iff {policy : NamePolicy} {r : Except Failure (Option String)}
    (h : SearchRun names policy t r) : r = .ok none ↔ t = names.map absenceOf := by
  constructor
  · rintro rfl
    cases h with
    | absent => rfl
  · rintro rfl
    -- The same questions and answers cannot lead to two results.
    have hnone : SearchRun names policy (names.map absenceOf) (.ok none) := .absent
    exact (NamePolicy.search_yields_iff.mpr h).unique (NamePolicy.search_yields_iff.mpr hnone)

/-! ### One call -/

namespace Resolver

variable {resolver after : Resolver} {r : Except Failure (Option String)}

/-- A new resolver keeps no name yet. -/
lemma fields_of_ofCandidates {candidates : List String} {policy : NamePolicy}
    (h : ofCandidates candidates policy = .ok resolver) :
    resolver.candidates = candidates ∧ resolver.policy = policy ∧ resolver.resolved = none := by
  unfold ofCandidates at h
  split at h
  · cases h
  · cases h
    exact ⟨rfl, rfl, rfl⟩

/-- An attempt to find a name that is kept asks nothing. -/
lemma attempt_of_resolved (h : resolver.resolved = some name) :
    resolver.attempt = pure (some name) := by
  unfold attempt
  rw [h]

/-- A resolver that keeps a name gives it in place of every other one that is found. -/
lemma settle_of_resolved {kept : String} (h : resolver.resolved = some kept) (found : String) :
    resolver.settle (.ok (some found)) = (.ok (some kept), resolver) := by
  have hkeep : resolver.keep found = resolver := by
    unfold keep
    rw [h]
    obtain ⟨candidates, policy, resolved, hne⟩ := resolver
    obtain rfl : resolved = some kept := h
    rfl
  simp only [settle, hkeep, h]

/-- A call on a resolver that keeps a name repeats it and asks nothing. -/
lemma resolve_yields_iff_of_resolved (h : resolver.resolved = some name) :
    resolver.resolve.Yields t (r, after) ↔ t = [] ∧ r = .ok (some name) ∧ after = resolver := by
  have hresolve : resolver.resolve = .done (.ok (some name), resolver) := by
    unfold resolve
    rw [attempt_of_resolved h, ← settle_of_resolved h name]
    rfl
  rw [hresolve, Program.yields_done_iff, Prod.mk.injEq]

/-- A resolver that keeps no name yet keeps the one that a search gives. -/
lemma settle_of_unresolved (h : resolver.resolved = none) :
    (resolver.settle r).1 = r ∧
      ∀ name, (resolver.settle r).2.resolved = some name ↔ r = .ok (some name) := by
  rcases r with e | _ | found
  · simp [settle, h]
  · simp [settle, h]
  · simp [settle, keep, h]

/-- A call on a resolver that keeps no name yet searches for it. -/
lemma resolve_yields_iff_of_unresolved (h : resolver.resolved = none) :
    resolver.resolve.Yields t (r, after) ↔
      SearchRun resolver.candidates resolver.policy t r ∧ after = (resolver.settle r).2 := by
  have hsearch : resolver.attempt = resolver.policy.search resolver.candidates := by
    unfold attempt
    rw [h]
  refine Program.yields_bind_iff.trans ?_
  rw [hsearch]
  constructor
  · rintro ⟨t₁, t₂, found, rfl, hfound, hsettle⟩
    obtain ⟨rfl, hr⟩ := Program.yields_done_iff.mp hsettle
    obtain rfl : r = found := (congrArg Prod.fst hr).trans (settle_of_unresolved h).1
    rw [List.append_nil]
    exact ⟨NamePolicy.search_yields_iff.mp hfound, congrArg Prod.snd hr⟩
  · rintro ⟨hsearch, rfl⟩
    refine ⟨t, [], r, (List.append_nil t).symm, NamePolicy.search_yields_iff.mpr hsearch, ?_⟩
    refine Program.yields_done_iff.mpr ⟨rfl, Prod.ext ?_ rfl⟩
    exact (settle_of_unresolved h).1.symm

/-- What a call makes of its result does not change the candidates. -/
lemma settle_candidates : (resolver.settle r).2.candidates = resolver.candidates := by
  rcases r with e | _ | found <;> rfl

/-- What a call makes of its result does not change the policy. -/
lemma settle_policy : (resolver.settle r).2.policy = resolver.policy := by
  rcases r with e | _ | found <;> rfl

end Resolver

/-- A call on a resolver together with what came of it: the questions with their answers, which may
be any, the outcome, and the resolver behind the call. -/
structure Resolution where
  before : Resolver
  questions : List (Exchange existence)
  outcome : Except Failure (Option String)
  after : Resolver
  run : before.resolve.Yields questions (outcome, after)

namespace Resolution

/-- Whatever answers its questions, a further call comes to an end. -/
lemma exists_resolution {σ : Type} (resolver : Resolver)
    (answer : (name : existence.Request) → σ → existence.Answer name × σ) (s : σ) :
    ∃ step : Resolution, step.before = resolver ∧ Program.Answered answer s step.questions := by
  obtain ⟨t, run, hanswered⟩ := Program.exists_yields resolver.resolve answer s
  exact ⟨⟨resolver, t, _, _, run⟩, rfl, hanswered⟩

/-- A call changes neither the candidates nor the policy. -/
lemma candidates_policy_eq (step : Resolution) :
    step.after.candidates = step.before.candidates ∧ step.after.policy = step.before.policy := by
  cases hname : step.before.resolved with
  | some name =>
    obtain ⟨-, -, hafter⟩ := (Resolver.resolve_yields_iff_of_resolved hname).mp step.run
    rw [hafter]
    exact ⟨rfl, rfl⟩
  | none =>
    obtain ⟨-, hafter⟩ := (Resolver.resolve_yields_iff_of_unresolved hname).mp step.run
    rw [hafter]
    exact ⟨Resolver.settle_candidates, Resolver.settle_policy⟩

/-- Behind a call, a name is kept that was kept before or that the call gives. -/
lemma resolved_iff (step : Resolution) :
    step.after.resolved = some name ↔
      step.before.resolved = some name ∨ step.outcome = .ok (some name) := by
  cases hbefore : step.before.resolved with
  | some kept =>
    obtain ⟨-, houtcome, hafter⟩ := (Resolver.resolve_yields_iff_of_resolved hbefore).mp step.run
    rw [hafter, hbefore, houtcome]
    simp
  | none =>
    obtain ⟨-, hafter⟩ := (Resolver.resolve_yields_iff_of_unresolved hbefore).mp step.run
    rw [hafter, (Resolver.settle_of_unresolved hbefore).2]
    simp

end Resolution

/-! ### Sequences of calls -/

/-- The calls of `steps` are made on the resolver `start`, each on what the one before it left, and
leave the last resolver. -/
inductive Resolutions (start : Resolver) : List Resolution → Resolver → Prop where
  | begin : Resolutions start [] start
  | call {steps : List Resolution} {step : Resolution}
      (earlier : Resolutions start steps step.before) :
      Resolutions start (steps ++ [step]) step.after

namespace Resolutions

variable {start resolver : Resolver} {steps : List Resolution}

/-- The calls before one of the calls are a sequence of their own. -/
lemma until_call {earlier later : List Resolution} {step : Resolution}
    (h : Resolutions start (earlier ++ step :: later) resolver) :
    Resolutions start earlier step.before := by
  -- The calls are added at the end, so the induction takes calls off `later` until it is empty.
  generalize hsteps : earlier ++ step :: later = steps at h
  induction h generalizing later with
  | begin => simp at hsteps
  | @call steps last before ih =>
    obtain rfl | ⟨later, last', rfl⟩ := List.eq_nil_or_concat later
    · obtain ⟨rfl, hlast⟩ := List.append_inj' hsteps rfl
      obtain rfl : step = last := by simpa using hlast
      exact before
    · rw [List.concat_eq_append, ← List.cons_append, ← List.append_assoc] at hsteps
      exact ih (List.append_inj_left' hsteps rfl)

/-- The calls on a resolver change neither its candidates nor its policy. -/
lemma candidates_policy_eq (h : Resolutions start steps resolver) :
    resolver.candidates = start.candidates ∧ resolver.policy = start.policy := by
  induction h with
  | begin => exact ⟨rfl, rfl⟩
  | @call steps step _ ih =>
    obtain ⟨hcandidates, hpolicy⟩ := step.candidates_policy_eq
    exact ⟨hcandidates.trans ih.1, hpolicy.trans ih.2⟩

/-- A resolver that began without a name keeps one exactly if some call gave it. -/
lemma resolved_iff (h : Resolutions start steps resolver) (hstart : start.resolved = none) :
    resolver.resolved = some name ↔ ∃ step ∈ steps, step.outcome = .ok (some name) := by
  induction h with
  | begin => simp [hstart]
  | @call steps step _ ih =>
    rw [step.resolved_iff, ih]
    simp [or_and_right, exists_or]

/-- As long as no call gave a name, none is kept. -/
lemma resolved_eq_none (h : Resolutions start steps resolver) (hstart : start.resolved = none)
    (hnone : ∀ step ∈ steps, ∀ name, step.outcome ≠ .ok (some name)) :
    resolver.resolved = none := by
  refine Option.eq_none_iff_forall_ne_some.mpr fun name hname => ?_
  obtain ⟨step, hstep, houtcome⟩ := (h.resolved_iff hstart).mp hname
  exact hnone step hstep name houtcome

end Resolutions

/-! ### The laws of the calls -/

/-- The call gives a name. -/
def Resolution.Succeeds (step : Resolution) : Prop := ∃ name, step.outcome = .ok (some name)

/-- The laws that the calls on a resolver keep, from a resolver without a name to the one behind
them. -/
structure SettledOnce (candidates : List String) (policy : NamePolicy) (steps : List Resolution)
    (resolver : Resolver) : Prop where
  /-- Every further call comes to an end, whatever answers its questions. -/
  call_ends : ∀ (σ : Type) (answer : (name : existence.Request) → σ → existence.Answer name × σ)
    (s : σ), ∃ step : Resolution, step.before = resolver ∧ Program.Answered answer s step.questions
  /-- Until a call gives a name, each of them searches all candidates, from the first on. -/
  searches : ∀ earlier step later, steps = earlier ++ step :: later →
    (∀ s ∈ earlier, ¬ s.Succeeds) → SearchRun candidates policy step.questions step.outcome
  /-- Until then a further call can go in each of the ways in which a search can. -/
  can_search : (∀ s ∈ steps, ¬ s.Succeeds) → ∀ t r, SearchRun candidates policy t r →
    ∃ step : Resolution, step.before = resolver ∧ step.questions = t ∧ step.outcome = r
  /-- Until then a call gives no name, without a failure, exactly if all candidates were asked for
  and are absent. -/
  absent_iff : ∀ earlier step later, steps = earlier ++ step :: later →
    (∀ s ∈ earlier, ¬ s.Succeeds) →
      (step.outcome = .ok none ↔ step.questions = candidates.map absenceOf)
  /-- Calls that give no name, for whatever reason, leave the resolver without one. -/
  unsettled : (∀ s ∈ steps, ¬ s.Succeeds) → resolver.resolved = none
  /-- Behind a call that gave a name, every call gives this name and asks nothing. -/
  repeats : ∀ earlier step later name, steps = earlier ++ step :: later →
    (∃ s ∈ earlier, s.outcome = .ok (some name)) →
      step.questions = [] ∧ step.outcome = .ok (some name)

/-- The calls on a new resolver keep the laws, however many there are and whatever is answered. -/
theorem Resolutions.settled_once {candidates : List String} {policy : NamePolicy}
    {start resolver : Resolver} {steps : List Resolution}
    (hnew : Resolver.ofCandidates candidates policy = .ok start)
    (h : Resolutions start steps resolver) : SettledOnce candidates policy steps resolver := by
  obtain ⟨hcandidates, hpolicy, hstart⟩ := Resolver.fields_of_ofCandidates hnew
  -- A resolver behind calls that gave no name is one that keeps none, so it searches.
  have hunsettled : ∀ {steps : List Resolution} {resolver : Resolver},
      Resolutions start steps resolver → (∀ s ∈ steps, ¬ s.Succeeds) →
        resolver.resolved = none := fun h hnone =>
    h.resolved_eq_none hstart fun s hs name hname => hnone s hs ⟨name, hname⟩
  have hsearches : ∀ {steps : List Resolution} {resolver : Resolver},
      Resolutions start steps resolver → (∀ s ∈ steps, ¬ s.Succeeds) →
        ∀ {t r after}, resolver.resolve.Yields t (r, after) ↔
          SearchRun candidates policy t r ∧ after = (resolver.settle r).2 := by
    intro steps resolver h hnone t r after
    obtain ⟨hsame, hsame'⟩ := h.candidates_policy_eq
    rw [Resolver.resolve_yields_iff_of_unresolved (hunsettled h hnone), hsame, hsame', hcandidates,
      hpolicy]
  refine ⟨fun σ answer s => Resolution.exists_resolution resolver answer s, ?_, ?_, ?_,
    hunsettled h, ?_⟩
  · rintro earlier step later rfl hnone
    exact ((hsearches h.until_call hnone).mp step.run).1
  · intro hnone t r hsearch
    exact ⟨⟨resolver, t, r, _, (hsearches h hnone).mpr ⟨hsearch, rfl⟩⟩, rfl, rfl, rfl⟩
  · rintro earlier step later rfl hnone
    exact ((hsearches h.until_call hnone).mp step.run).1.outcome_eq_none_iff
  · rintro earlier step later name rfl hname
    have hkept := (h.until_call.resolved_iff hstart).mpr hname
    obtain ⟨hquestions, houtcome, -⟩ :=
      (Resolver.resolve_yields_iff_of_resolved hkept).mp step.run
    exact ⟨hquestions, houtcome⟩

/-! ### A name that is settled behind two failures -/

namespace Resolutions.Sample

def resolver : Resolver := ⟨["manager", "operator"], .requireUnique, none, Resolver.pair_ne_nil _ _⟩

/-- The question for the second candidate fails. -/
def failed : Resolution where
  before := resolver
  questions :=
    [presenceOf "manager", unansweredFor "operator" (.apiServer (some 500) "etcd timeout")]
  outcome := .error (.apiServer (some 500) "etcd timeout")
  after := resolver
  run := .ask (.ask (.done _))

/-- Both candidates exist. -/
def ambiguous : Resolution where
  before := resolver
  questions := [presenceOf "manager", presenceOf "operator"]
  outcome := .error (.severalNames ["manager", "operator"])
  after := resolver
  run := .ask (.ask (.done _))

/-- The first candidate is gone. -/
def settled : Resolution where
  before := resolver
  questions := [absenceOf "manager", presenceOf "operator"]
  outcome := .ok (some "operator")
  after := resolver.keep "operator"
  run := .ask (.ask (.done _))

/-- The name is kept. -/
def repeated : Resolution where
  before := resolver.keep "operator"
  questions := []
  outcome := .ok (some "operator")
  after := resolver.keep "operator"
  run := .done _

/-- A call that fails, one that finds both names, one that finds one of them, and one more. -/
lemma calls :
    Resolutions resolver [failed, ambiguous, settled, repeated] (resolver.keep "operator") := by
  have hfailed : Resolutions resolver [failed] resolver := @call resolver [] failed .begin
  have hambiguous : Resolutions resolver [failed, ambiguous] resolver :=
    @call resolver [failed] ambiguous hfailed
  have hsettled : Resolutions resolver [failed, ambiguous, settled] (resolver.keep "operator") :=
    @call resolver [failed, ambiguous] settled hambiguous
  exact @call resolver [failed, ambiguous, settled] repeated hsettled

end Resolutions.Sample

open Resolutions in
/-- A name that is settled behind a failure and an ambiguity is answered once more without a check.
-/
theorem settled_once_behind_failures :
    Resolver.ofCandidates ["manager", "operator"] .requireUnique = .ok Sample.resolver ∧
      Resolutions Sample.resolver
        [Sample.failed, Sample.ambiguous, Sample.settled, Sample.repeated]
        (Sample.resolver.keep "operator") ∧
      SettledOnce ["manager", "operator"] .requireUnique
        [Sample.failed, Sample.ambiguous, Sample.settled, Sample.repeated]
        (Sample.resolver.keep "operator") :=
  ⟨rfl, Sample.calls, settled_once rfl Sample.calls⟩

end BrokerHarness

import BrokerHarness.NameResolution
import BrokerHarness.Proofs.Run

/-!
# Runs of a name resolution

A search that finds a name has asked for the candidates in their order.  Under `preferNewest` it
found every candidate before the name absent and stopped at the name; under `requireUnique` it went
on and found every candidate behind it absent too.  `attempt_yields_some_iff` says this of both
policies at once, by list positions: a candidate that is listed twice is asked for twice.
-/

namespace BrokerHarness

/-- The question whether an object with a name exists, with the answer that none does. -/
def absenceOf (name : String) : Exchange existence := ⟨name, .ok false⟩

/-- The question whether an object with a name exists, with the answer that one does. -/
def presenceOf (name : String) : Exchange existence := ⟨name, .ok true⟩

/-- Two candidates are some candidates. -/
lemma Resolver.pair_ne_nil (first second : String) : [first, second] ≠ [] :=
  List.cons_ne_nil first [second]

/-- The candidates behind a name that was found that a policy still asks for. -/
def NamePolicy.askedBehind : NamePolicy → List String → List String
  | preferNewest, _ => []
  | requireUnique, behind => behind

variable {name : String} {names : List String} {t : List (Exchange existence)}

/-- A question that is answered selects how a search goes on. -/
lemma askExists_bind_yields_iff {α : Type} {f : Bool → Action existence α} {a : α} :
    (askExists name >>= f).Yields t (.ok a) ↔
      ∃ present rest, t = ⟨name, .ok present⟩ :: rest ∧ (f present).Yields rest (.ok a) := by
  refine Action.yields_bind_ok_iff.trans ?_
  constructor
  · rintro ⟨t₁, t₂, present, rfl, hask, hrest⟩
    obtain rfl := Program.yields_request_iff.mp hask
    exact ⟨present, t₂, rfl, hrest⟩
  · rintro ⟨present, rest, rfl, hrest⟩
    exact ⟨[_], rest, present, rfl, Program.yields_request_iff.mpr rfl, hrest⟩

/-- The first name that exists is found behind names that are absent, and nothing is asked behind
it. -/
lemma firstExisting_yields_some_iff :
    (firstExisting names).Yields t (.ok (some name)) ↔
      ∃ before behind, names = before ++ name :: behind ∧
        t = before.map absenceOf ++ [presenceOf name] := by
  induction names generalizing t with
  | nil =>
    constructor
    · intro h
      have hnone := (Action.yields_pure_iff.mp h).2
      cases hnone
    · rintro ⟨before, behind, hnames, -⟩
      simp at hnames
  | cons first rest ih =>
    refine askExists_bind_yields_iff.trans ?_
    constructor
    · rintro ⟨present, t, rfl, h⟩
      cases present with
      | true =>
        obtain ⟨rfl, hfound⟩ := Action.yields_pure_iff.mp h
        cases hfound
        exact ⟨[], rest, rfl, rfl⟩
      | false =>
        obtain ⟨before, behind, rfl, rfl⟩ := ih.mp h
        exact ⟨first :: before, behind, rfl, rfl⟩
    · rintro ⟨before, behind, hnames, rfl⟩
      cases before with
      | nil =>
        obtain ⟨rfl, rfl⟩ := List.cons.inj hnames
        exact ⟨true, [], rfl, Action.yields_pure_iff.mpr ⟨rfl, rfl⟩⟩
      | cons other before =>
        obtain ⟨rfl, rfl⟩ := List.cons.inj hnames
        exact ⟨false, _, rfl, ih.mpr ⟨before, behind, rfl, rfl⟩⟩

/-- No name exists exactly if every question is answered so. -/
lemma allExisting_yields_nil_iff :
    (allExisting names).Yields t (.ok []) ↔ t = names.map absenceOf := by
  induction names generalizing t with
  | nil => simp [allExisting]
  | cons first rest ih =>
    refine askExists_bind_yields_iff.trans ?_
    constructor
    · rintro ⟨present, t, rfl, h⟩
      cases present with
      | true =>
        obtain ⟨t₁, t₂, found, rfl, -, hpure⟩ := Action.yields_bind_ok_iff.mp h
        have hcons := (Action.yields_pure_iff.mp hpure).2
        cases hcons
      | false =>
        rw [ih.mp h]
        rfl
    · rintro rfl
      exact ⟨false, _, rfl, ih.mpr rfl⟩

/-- One name exists exactly if the questions at all other positions are answered so that none
does. -/
lemma allExisting_yields_singleton_iff :
    (allExisting names).Yields t (.ok [name]) ↔
      ∃ before behind, names = before ++ name :: behind ∧
        t = before.map absenceOf ++ presenceOf name :: behind.map absenceOf := by
  induction names generalizing t with
  | nil => simp [allExisting]
  | cons first rest ih =>
    refine askExists_bind_yields_iff.trans ?_
    constructor
    · rintro ⟨present, t, rfl, h⟩
      cases present with
      | true =>
        obtain ⟨t₁, t₂, found, rfl, hrest, hpure⟩ := Action.yields_bind_ok_iff.mp h
        obtain ⟨rfl, hcons⟩ := Action.yields_pure_iff.mp hpure
        cases hcons
        rw [allExisting_yields_nil_iff.mp hrest, List.append_nil]
        exact ⟨[], rest, rfl, rfl⟩
      | false =>
        obtain ⟨before, behind, rfl, rfl⟩ := ih.mp h
        exact ⟨first :: before, behind, rfl, rfl⟩
    · rintro ⟨before, behind, hnames, rfl⟩
      cases before with
      | nil =>
        obtain ⟨rfl, rfl⟩ := List.cons.inj hnames
        refine ⟨true, _, rfl, Action.yields_bind_ok_iff.mpr ?_⟩
        exact ⟨_, [], [], (List.append_nil _).symm, allExisting_yields_nil_iff.mpr rfl,
          Action.yields_pure_iff.mpr ⟨rfl, rfl⟩⟩
      | cons other before =>
        obtain ⟨rfl, rfl⟩ := List.cons.inj hnames
        exact ⟨false, _, rfl, ih.mpr ⟨before, behind, rfl, rfl⟩⟩

/-- A unique name is the only one that exists. -/
lemma requireUnique_search_yields_some_iff :
    (NamePolicy.requireUnique.search names).Yields t (.ok (some name)) ↔
      (allExisting names).Yields t (.ok [name]) := by
  refine Action.yields_bind_ok_iff.trans ?_
  constructor
  · rintro ⟨t₁, t₂, found, rfl, hall, hselect⟩
    match found with
    | [] =>
      have hnone := (Action.yields_pure_iff.mp hselect).2
      cases hnone
    | [one] =>
      obtain ⟨rfl, hsome⟩ := Action.yields_pure_iff.mp hselect
      cases hsome
      rwa [List.append_nil]
    | first :: second :: more =>
      have herror := (Action.yields_throw_iff.mp hselect).2
      cases herror
  · intro h
    exact ⟨t, [], [name], (List.append_nil t).symm, h, Action.yields_pure_iff.mpr ⟨rfl, rfl⟩⟩

/-- A resolver that keeps no name yet finds one among its candidates by finding the candidates
before it absent, and behind it those that its policy still asks for. -/
theorem Resolver.attempt_yields_some_iff {resolver : Resolver} (h : resolver.resolved = none) :
    resolver.attempt.Yields t (.ok (some name)) ↔
      ∃ before behind, resolver.candidates = before ++ name :: behind ∧
        t = before.map absenceOf ++
          presenceOf name :: (resolver.policy.askedBehind behind).map absenceOf := by
  have hsearch : resolver.attempt = resolver.policy.search resolver.candidates := by
    unfold attempt
    rw [h]
  rw [hsearch]
  cases resolver.policy with
  | preferNewest => exact firstExisting_yields_some_iff
  | requireUnique =>
    exact requireUnique_search_yields_some_iff.trans allExisting_yields_singleton_iff

end BrokerHarness

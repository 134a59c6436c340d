import BrokerHarness.Proofs.NameResolution.Repeated
import BrokerHarness.Proofs.Polling.Schedule

/-!
# Searches that are answered by name

Where the questions are answered by the names alone, as an object with the name is there or not, a
search has one outcome.  Under `preferNewest` it is the first name that is there
(`firstExisting_under`).

Under `requireUnique` every candidate is asked for, and what is found are list positions
(`allExisting_under`): a candidate that is listed twice is found twice.  A name is therefore given
exactly if it is the only one that exists and is listed once.  The names of an ambiguity may be
copies of one and the same name (`Resolver.unique_resolution_by_position`).
-/

namespace BrokerHarness

variable {present : String → Bool} {candidates : List String} {name : String}

/-- Every question for a name is answered, as the names are there or not. -/
def answering (present : String → Bool) (name : existence.Request) : existence.Answer name :=
  (.ok (present name) : Except Failure Bool)

/-- A search that takes the first name that is there asks for the names up to this one. -/
lemma firstExisting_under (present : String → Bool) (names : List String) :
    (firstExisting names).under (answering present) = .ok (names.find? present) ∧
      (firstExisting names).askedUnder (answering present) =
        names.takeWhile (fun name => !present name) ++ (names.find? present).toList := by
  induction names with
  | nil => exact ⟨rfl, rfl⟩
  | cons name rest ih =>
    have hask : (askExists name).under (answering present) = .ok (present name) := rfl
    rw [firstExisting, Action.under_bind_ok hask, Action.askedUnder_bind_ok hask]
    cases hpresent : present name with
    | true =>
      rw [List.find?_cons_of_pos hpresent, List.takeWhile_cons_of_neg (by simp [hpresent])]
      exact ⟨rfl, rfl⟩
    | false =>
      rw [List.find?_cons_of_neg (by simp [hpresent]),
        List.takeWhile_cons_of_pos (by simp [hpresent])]
      exact ⟨ih.1, congrArg (name :: ·) ih.2⟩

/-- A search for all names that are there finds each at every position at which it is listed. -/
lemma allExisting_under (present : String → Bool) (names : List String) :
    (allExisting names).under (answering present) = .ok (names.filter present) ∧
      (allExisting names).askedUnder (answering present) = names := by
  induction names with
  | nil => exact ⟨rfl, rfl⟩
  | cons name rest ih =>
    have hask : (askExists name).under (answering present) = .ok (present name) := rfl
    rw [allExisting, Action.under_bind_ok hask, Action.askedUnder_bind_ok hask]
    cases hpresent : present name with
    | true =>
      rw [if_pos rfl, List.filter_cons_of_pos hpresent, Action.under_bind_ok ih.1,
        Action.askedUnder_bind_ok ih.1, ih.2]
      exact ⟨rfl, congrArg (name :: ·) (List.append_nil rest)⟩
    | false =>
      rw [if_neg Bool.false_ne_true, List.filter_cons_of_neg (by simp [hpresent])]
      exact ⟨ih.1, congrArg (name :: ·) ih.2⟩

/-! ### Names and positions -/

/-- The name is a candidate that exists, and no other one does. -/
def IsOnlyExisting (present : String → Bool) (candidates : List String) (name : String) : Prop :=
  ∀ other, other ∈ candidates ∧ present other = true ↔ other = name

/-- Two different candidates exist. -/
def TwoExist (present : String → Bool) (candidates : List String) : Prop :=
  ∃ name ∈ candidates, ∃ other ∈ candidates,
    present name = true ∧ present other = true ∧ name ≠ other

/-- Of a name that is the only one that exists, as many copies are found as are listed. -/
lemma IsOnlyExisting.filter_eq (h : IsOnlyExisting present candidates name) :
    candidates.filter present = List.replicate (candidates.count name) name := by
  have hcopies : ∀ other ∈ candidates.filter present, other = name :=
    fun other hother => (h other).mp (List.mem_filter.mp hother)
  have hcount : (candidates.filter present).count name = candidates.count name :=
    List.count_filter ((h name).mpr rfl).2
  have hlength : (candidates.filter present).count name = (candidates.filter present).length :=
    List.count_eq_length.mpr fun other hother => (hcopies other hother).symm
  rw [← hcount, hlength]
  exact List.eq_replicate_of_mem hcopies

/-- One position exists exactly if one name does that is listed once. -/
lemma filter_eq_singleton_iff :
    candidates.filter present = [name] ↔
      IsOnlyExisting present candidates name ∧ candidates.count name = 1 := by
  constructor
  · intro h
    have honly : IsOnlyExisting present candidates name := by
      intro other
      rw [← List.mem_filter, h, List.mem_singleton]
    have hlength := congrArg List.length (honly.filter_eq.symm.trans h)
    exact ⟨honly, by simpa using hlength⟩
  · rintro ⟨honly, hcount⟩
    rw [honly.filter_eq, hcount]
    rfl

/-- Candidates at several positions exist if two different ones do, or if the only one is listed
several times. -/
lemma one_lt_length_filter_iff :
    1 < (candidates.filter present).length ↔
      TwoExist present candidates ∨
        ∃ name, IsOnlyExisting present candidates name ∧ 1 < candidates.count name := by
  constructor
  · intro hlength
    obtain ⟨first, hfirst⟩ := List.exists_mem_of_length_pos (Nat.zero_lt_of_lt hlength)
    by_cases honly : ∀ other ∈ candidates.filter present, other = first
    · have hsame : IsOnlyExisting present candidates first := by
        intro other
        rw [← List.mem_filter]
        exact ⟨honly other, fun h => h ▸ hfirst⟩
      rw [hsame.filter_eq, List.length_replicate] at hlength
      exact .inr ⟨first, hsame, hlength⟩
    · push Not at honly
      obtain ⟨other, hother, hne⟩ := honly
      obtain ⟨hmem, hpresent⟩ := List.mem_filter.mp hother
      obtain ⟨hmem', hpresent'⟩ := List.mem_filter.mp hfirst
      exact .inl ⟨other, hmem, first, hmem', hpresent, hpresent', hne⟩
  · rintro (⟨name, hmem, other, hmem', hpresent, hpresent', hne⟩ | ⟨name, honly, hcount⟩)
    · have hname := List.mem_filter.mpr ⟨hmem, hpresent⟩
      have hother := List.mem_filter.mpr ⟨hmem', hpresent'⟩
      match hfound : candidates.filter present with
      | [] => simp [hfound] at hname
      | [one] =>
        rw [hfound, List.mem_singleton] at hname hother
        exact absurd (hname.trans hother.symm) hne
      | first :: second :: rest => simp
    · rwa [honly.filter_eq, List.length_replicate]

/-! ### Searches for a unique name -/

/-- How a search for a unique name among candidates ends. -/
structure UniqueByPosition (present : String → Bool) (candidates : List String)
    (outcome : Except Failure (Option String)) : Prop where
  none_iff : outcome = .ok none ↔ ∀ name ∈ candidates, present name = false
  some_iff : ∀ name, outcome = .ok (some name) ↔
    IsOnlyExisting present candidates name ∧ candidates.count name = 1
  error_iff : ∀ failure, outcome = .error failure ↔
    failure = .severalNames (candidates.filter present) ∧
      (TwoExist present candidates ∨
        ∃ name, IsOnlyExisting present candidates name ∧ 1 < candidates.count name)

/-- A search for a unique name asks about every position, and counts those that exist. -/
lemma requireUnique_search_under (present : String → Bool) (candidates : List String) :
    UniqueByPosition present candidates
        ((NamePolicy.requireUnique.search candidates).under (answering present)) ∧
      (NamePolicy.requireUnique.search candidates).askedUnder (answering present) =
        candidates := by
  obtain ⟨hfound, hasked⟩ := allExisting_under present candidates
  have hnone : (∀ name ∈ candidates, present name = false) ↔ candidates.filter present = [] := by
    simp
  unfold NamePolicy.search
  rw [Action.under_bind_ok hfound, Action.askedUnder_bind_ok hfound, hasked]
  refine ⟨?_, ?_⟩
  · constructor
    · rw [hnone]
      rcases candidates.filter present with _ | ⟨first, _ | ⟨second, rest⟩⟩ <;> simp
    · intro name
      rw [← filter_eq_singleton_iff]
      rcases candidates.filter present with _ | ⟨first, _ | ⟨second, rest⟩⟩ <;> simp
    · intro failure
      rw [← one_lt_length_filter_iff]
      rcases candidates.filter present with _ | ⟨first, _ | ⟨second, rest⟩⟩ <;> simp [eq_comm]
  · rcases candidates.filter present with _ | ⟨first, _ | ⟨second, rest⟩⟩ <;>
      exact List.append_nil candidates

/-- The first call on a resolver that requires a unique name asks for the candidates in their order,
at every position at which they are listed.  If the questions are answered by name, it gives no name
exactly if no candidate exists, and a name exactly if this is the only candidate that exists and is
listed once.  Otherwise several positions are those of candidates that exist: of different ones, or
of the only one.  The resolver keeps the name that it gives. -/
theorem Resolver.unique_resolution_by_position {resolver : Resolver}
    (hnew : Resolver.ofCandidates candidates .requireUnique = .ok resolver)
    (present : String → Bool) :
    resolver.resolve.askedUnder (answering present) = candidates ∧
      UniqueByPosition present candidates (resolver.resolve.under (answering present)).1 ∧
      ∀ name, (resolver.resolve.under (answering present)).2.resolved = some name ↔
        (resolver.resolve.under (answering present)).1 = .ok (some name) := by
  obtain ⟨hcandidates, hpolicy, hresolved⟩ := Resolver.fields_of_ofCandidates hnew
  have hattempt : resolver.attempt = NamePolicy.requireUnique.search candidates := by
    unfold attempt
    rw [hresolved, hpolicy, hcandidates]
  obtain ⟨hunique, hasked⟩ := requireUnique_search_under present candidates
  have hresult : resolver.resolve.under (answering present) =
      resolver.settle ((NamePolicy.requireUnique.search candidates).under (answering present)) := by
    unfold resolve
    rw [hattempt, Program.under_bind]
    rfl
  obtain ⟨hsame, hkept⟩ := Resolver.settle_of_unresolved
    (r := (NamePolicy.requireUnique.search candidates).under (answering present)) hresolved
  refine ⟨?_, ?_, fun name => ?_⟩
  · unfold resolve
    rw [hattempt, Program.askedUnder_bind]
    exact (List.append_nil _).trans hasked
  · rw [hresult, hsame]
    exact hunique
  · rw [hresult, hsame]
    exact hkept name

/-! ### A candidate that is listed twice -/

namespace UniqueByPosition.Sample

def resolver : Resolver :=
  ⟨["operator", "operator"], .requireUnique, none, Resolver.pair_ne_nil _ _⟩

def isOperator (name : String) : Bool := name = "operator"

/-- The only name that is listed exists. -/
lemma isOnlyExisting : IsOnlyExisting isOperator ["operator", "operator"] "operator" := by
  intro other
  simp [isOperator]

end UniqueByPosition.Sample

open UniqueByPosition in
/-- A name that is listed twice is asked for twice, and counted twice. -/
theorem unique_resolution_by_two_positions :
    Resolver.ofCandidates ["operator", "operator"] .requireUnique = .ok Sample.resolver ∧
      Sample.resolver.resolve.askedUnder (answering Sample.isOperator) =
        ["operator", "operator"] ∧
      UniqueByPosition Sample.isOperator ["operator", "operator"]
        (Sample.resolver.resolve.under (answering Sample.isOperator)).1 := by
  have hnew : Resolver.ofCandidates ["operator", "operator"] .requireUnique =
      .ok Sample.resolver := rfl
  obtain ⟨hasked, hunique, -⟩ :=
    Resolver.unique_resolution_by_position hnew Sample.isOperator
  exact ⟨hnew, hasked, hunique⟩

open UniqueByPosition in
/-- One candidate exists and no other, but it is reported as several. -/
theorem only_existing_name_reported_as_several :
    Resolver.ofCandidates ["operator", "operator"] .requireUnique = .ok Sample.resolver ∧
      IsOnlyExisting Sample.isOperator ["operator", "operator"] "operator" ∧
      (Sample.resolver.resolve.under (answering Sample.isOperator)).1 =
        .error (.severalNames ["operator", "operator"]) :=
  ⟨rfl, Sample.isOnlyExisting, by decide⟩

end BrokerHarness

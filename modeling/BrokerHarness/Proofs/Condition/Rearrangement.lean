import BrokerHarness.Proofs.Condition.Latest
import Mathlib.Data.Fin.VecNotation
import Mathlib.Data.List.FinRange
import Mathlib.Logic.Relation

/-!
# Rearranged condition lists

What an expectation finds in a list depends on the conditions of its type alone, and on their order
only among those that changed at the same time.  `Condition.changedAt` are the conditions of a type
that changed at a given time, in the order of the list: of those that changed at the latest time the
last one counts, so lists that have the same ones at every time have the same condition that counts
(`latest_eq_of_changedAt`).

There are two ways to say that a list is a rearrangement of another.  `IsRearrangement` is about
positions: a bijection carries the conditions over and keeps the order of those that changed at the
same time.  `Edit` is one step: a condition of another type comes or goes, or two neighbours change
places that are not both of the type and equally old.
-/

namespace BrokerHarness

namespace Condition

variable {type : String} {conditions l l' : List Condition} {c d : Condition} {i : Nat}
  {time : WithBot Timestamp}

/-! ### Conditions of one time -/

/-- The conditions of a type, in their order. -/
def ofType (type : String) (conditions : List Condition) : List Condition :=
  conditions.filter (·.type = type)

/-- The conditions of a type that changed at a time, in their order. -/
def changedAt (type : String) (time : WithBot Timestamp) (conditions : List Condition) :
    List Condition :=
  (ofType type conditions).filter (·.changed = time)

lemma mem_changedAt_iff :
    c ∈ changedAt type time conditions ↔ c ∈ conditions ∧ c.type = type ∧ c.changed = time := by
  simp only [changedAt, ofType, List.mem_filter, decide_eq_true_eq, and_assoc]

/-- The conditions of two lists that changed at a time stand one after the other. -/
lemma changedAt_append : changedAt type time (l ++ l') =
    changedAt type time l ++ changedAt type time l' := by
  simp [changedAt, ofType]

lemma changedAt_cons_of_pos (htype : c.type = type) (htime : c.changed = time) :
    changedAt type time (c :: l) = c :: changedAt type time l := by
  simp [changedAt, ofType, htype, htime]

lemma changedAt_cons_of_neg (h : c.type = type → c.changed ≠ time) :
    changedAt type time (c :: l) = changedAt type time l := by
  by_cases htype : c.type = type
  · simp [changedAt, ofType, htype, h htype]
  · simp [changedAt, ofType, htype]

/-- What counts is the last of the conditions that changed together with it. -/
lemma CountsAt.getLast?_changedAt (h : CountsAt type conditions i c) :
    (changedAt type c.changed conditions).getLast? = some c := by
  have hbehind : changedAt type c.changed (conditions.drop (i + 1)) = [] := by
    refine List.eq_nil_iff_forall_not_mem.mpr fun d hd => ?_
    obtain ⟨hmem, htype, htime⟩ := mem_changedAt_iff.mp hd
    exact (h.behind d hmem htype).ne htime
  rw [h.split, changedAt_append, changedAt_cons_of_pos h.type_eq rfl, hbehind,
    List.getLast?_concat]

/-- Lists that have the same conditions of a type at every time have the same one that counts. -/
theorem latest_eq_of_changedAt (h : ∀ time, changedAt type time l = changedAt type time l') :
    latest type l = latest type l' := by
  have hmem : ∀ c : Condition, c.type = type → (c ∈ l ↔ c ∈ l') := by
    intro c htype
    have htime : c ∈ changedAt type c.changed l ↔ c ∈ changedAt type c.changed l' := by
      rw [h]
    simpa [mem_changedAt_iff, htype] using htime
  cases hlatest : latest type l with
  | none =>
    have hnone := latest_eq_none_iff.mp hlatest
    refine (latest_eq_none_iff.mpr fun c hc htype => ?_).symm
    exact hnone c ((hmem c htype).mpr hc) htype
  | some c =>
    obtain ⟨i, hc⟩ := exists_countsAt_of_latest hlatest
    have hcmem : c ∈ l' := (hmem c hc.type_eq).mp hc.mem
    cases hlatest' : latest type l' with
    | none => exact absurd hc.type_eq (latest_eq_none_iff.mp hlatest' c hcmem)
    | some d =>
      obtain ⟨j, hd⟩ := exists_countsAt_of_latest hlatest'
      have hdmem : d ∈ l := (hmem d hd.type_eq).mpr hd.mem
      -- Each list has both conditions, so neither changed later than the other.
      have htime : c.changed = d.changed :=
        le_antisymm (hd.changed_le hcmem hc.type_eq) (hc.changed_le hdmem hd.type_eq)
      rw [← hc.getLast?_changedAt, h, htime, hd.getLast?_changedAt]

/-! ### Rearrangements by position -/

/-- The positions of the second list are those of the first in some other order: the conditions are
carried over, and of two that changed at the same time the first one stays in front. -/
structure IsRearrangement (σ : Fin l.length ≃ Fin l'.length) : Prop where
  carries : ∀ i, l'[σ i] = l[i]
  keepsTies : ∀ i j, l[i].lastTransitionTime = l[j].lastTransitionTime → i < j → σ i < σ j

/-- The positions at which a condition changed at a time, in their order. -/
def positionsOf (time : WithBot Timestamp) (l : List Condition) : List (Fin l.length) :=
  (List.finRange l.length).filter fun i => l[i].changed = time

lemma mem_positionsOf_iff {i : Fin l.length} : i ∈ positionsOf time l ↔ l[i].changed = time := by
  simp [positionsOf]

/-- Positions are listed in their order. -/
lemma positionsOf_pairwise : (positionsOf time l).Pairwise (· < ·) :=
  (List.pairwise_lt_finRange _).filter _

/-- The conditions that changed at a time are those at its positions. -/
lemma filter_changed_eq_map :
    l.filter (·.changed = time) = (positionsOf time l).map fun i => l[i] := by
  conv_lhs => rw [← List.map_getElem_finRange l]
  rw [List.filter_map]
  rfl

/-- A rearrangement carries the positions of a time over in their order. -/
lemma IsRearrangement.map_positionsOf {σ : Fin l.length ≃ Fin l'.length} (h : IsRearrangement σ) :
    (positionsOf time l).map σ = positionsOf time l' := by
  have hascending : ((positionsOf time l).map σ).Pairwise (· < ·) := by
    refine List.pairwise_map.mpr (positionsOf_pairwise.imp_of_mem fun {i j} hi hj hlt => ?_)
    exact h.keepsTies i j ((mem_positionsOf_iff.mp hi).trans (mem_positionsOf_iff.mp hj).symm) hlt
  have hmem : ∀ k, k ∈ (positionsOf time l).map σ ↔ k ∈ positionsOf time l' := by
    intro k
    obtain ⟨i, rfl⟩ := σ.surjective k
    rw [List.mem_map_of_injective σ.injective, mem_positionsOf_iff, mem_positionsOf_iff, h.carries]
  refine List.Perm.eq_of_pairwise (fun a b _ _ hab hba => absurd hab hba.not_gt) hascending
    positionsOf_pairwise ?_
  exact (List.perm_ext_iff_of_nodup hascending.nodup positionsOf_pairwise.nodup).mpr hmem

/-- A rearrangement has the same conditions at every time. -/
theorem IsRearrangement.filter_changed_eq {σ : Fin l.length ≃ Fin l'.length}
    (h : IsRearrangement σ) :
    l.filter (·.changed = time) = l'.filter (·.changed = time) := by
  rw [filter_changed_eq_map, filter_changed_eq_map, ← h.map_positionsOf, List.map_map]
  exact List.map_congr_left fun i _ => (h.carries i).symm

/-! ### Rearrangements by steps -/

/-- One step that is of no account for the conditions of a type: a condition of another type comes
or goes, or two neighbours change places unless both are of the type and equally old. -/
inductive Edit (type : String) : List Condition → List Condition → Prop where
  /-- A condition of another type is added. -/
  | insert {c : Condition} (inFront behind : List Condition) (other : c.type ≠ type) :
      Edit type (inFront ++ behind) (inFront ++ c :: behind)
  /-- A condition of another type is taken away. -/
  | remove {c : Condition} (inFront behind : List Condition) (other : c.type ≠ type) :
      Edit type (inFront ++ c :: behind) (inFront ++ behind)
  /-- Two neighbours change places. -/
  | swap {c d : Condition} (inFront behind : List Condition)
      (noTie : c.type = type → d.type = type → c.lastTransitionTime ≠ d.lastTransitionTime) :
      Edit type (inFront ++ c :: d :: behind) (inFront ++ d :: c :: behind)

/-- A step leaves the same conditions at every time. -/
theorem Edit.changedAt_eq (h : Edit type l l') (time : WithBot Timestamp) :
    changedAt type time l = changedAt type time l' := by
  cases h with
  | insert inFront behind other =>
    rw [changedAt_append, changedAt_append, changedAt_cons_of_neg fun htype => absurd htype other]
  | remove inFront behind other =>
    rw [changedAt_append, changedAt_append, changedAt_cons_of_neg fun htype => absurd htype other]
  | @swap c d inFront behind noTie =>
    rw [changedAt_append, changedAt_append]
    congr 1
    by_cases hc : c.type = type ∧ c.changed = time
    · -- The other one did not change at this time, so that it is not seen in either place.
      have hd : d.type = type → d.changed ≠ time := fun htype htime =>
        noTie hc.1 htype (hc.2.trans htime.symm)
      rw [changedAt_cons_of_pos hc.1 hc.2, changedAt_cons_of_neg hd, changedAt_cons_of_neg hd,
        changedAt_cons_of_pos hc.1 hc.2]
    · have hc : c.type = type → c.changed ≠ time := fun htype htime => hc ⟨htype, htime⟩
      rw [changedAt_cons_of_neg hc]
      by_cases hd : d.type = type ∧ d.changed = time
      · rw [changedAt_cons_of_pos hd.1 hd.2, changedAt_cons_of_pos hd.1 hd.2,
          changedAt_cons_of_neg hc]
      · have hd : d.type = type → d.changed ≠ time := fun htype htime => hd ⟨htype, htime⟩
        rw [changedAt_cons_of_neg hd, changedAt_cons_of_neg hd, changedAt_cons_of_neg hc]

/-- Any number of steps leave the same conditions at every time. -/
theorem changedAt_eq_of_edits (h : Relation.ReflTransGen (Edit type) l l')
    (time : WithBot Timestamp) : changedAt type time l = changedAt type time l' := by
  induction h with
  | refl => rfl
  | tail _ step ih => exact ih.trans (step.changedAt_eq time)

end Condition

/-! ### Judgements on rearranged lists -/

/-- An expectation finds the same in both lists. -/
structure Expectation.JudgesAlike (e : Expectation) (l l' : List Condition) : Prop where
  judge : e.judge l = e.judge l'
  isMet : e.isMet l = e.isMet l'
  expect : e.expect l = e.expect l'

/-- An expectation looks at the latest condition of its type only. -/
lemma Expectation.judgesAlike_of_latest {e : Expectation} {l l' : List Condition}
    (h : Condition.latest e.type l = Condition.latest e.type l') : e.JudgesAlike l l' := by
  have hjudge : e.judge l = e.judge l' := by
    unfold judge
    rw [h]
  refine ⟨hjudge, ?_, ?_⟩
  · unfold isMet
    rw [hjudge]
  · unfold expect
    rw [hjudge]

/-- An expectation finds the same in two lists if the conditions of its type in one are a
rearrangement of those in the other that keeps the order of those that changed at the same time.
So conditions of other types may come, go and move, and those of its type that changed at different
times may change places. -/
theorem Expectation.judges_rearranged_alike (e : Expectation) (l l' : List Condition) :
    (∀ σ : Fin (Condition.ofType e.type l).length ≃ Fin (Condition.ofType e.type l').length,
      Condition.IsRearrangement σ → e.JudgesAlike l l') ∧
    (Relation.ReflTransGen (Condition.Edit e.type) l l' → e.JudgesAlike l l') := by
  constructor
  · intro σ h
    have htimes : ∀ time, Condition.changedAt e.type time l = Condition.changedAt e.type time l' :=
      fun _ => h.filter_changed_eq
    exact judgesAlike_of_latest (Condition.latest_eq_of_changedAt htimes)
  · intro h
    exact judgesAlike_of_latest
      (Condition.latest_eq_of_changedAt (Condition.changedAt_eq_of_edits h))

/-! ### A list in two other orders -/

namespace Condition.Rearrangement.Sample

open Latest.Sample

/-- The reports of readiness in another order, but the first is still in front of the third, which
is as old; the report of another type is gone, and one of a third type has come. -/
def reordered : List Condition :=
  [report "Ready" "fourth" (some 10), report "Ready" "first" (some 20),
    report "Valid" "first" (some 90), report "Ready" "third" (some 20),
    report "Ready" "second" none]

/-- Where the reports of readiness went. -/
def places : Fin 4 ≃ Fin 4 where
  toFun := ![1, 3, 2, 0]
  invFun := ![3, 0, 2, 1]
  left_inv := by unfold Function.LeftInverse; decide
  right_inv := by unfold Function.RightInverse Function.LeftInverse; decide

/-- The reports with one of another type in front, and with the last two exchanged. -/
def edited : List Condition :=
  [report "Valid" "first" (some 90), report "Ready" "first" (some 20),
    report "Deployed" "first" (some 90), report "Ready" "second" none,
    report "Ready" "fourth" (some 10), report "Ready" "third" (some 20)]

/-- A report of another type is put in front, and then the last two reports are exchanged, which are
not equally old. -/
lemma edits : Relation.ReflTransGen (Edit "Ready") reports edited := by
  have hinsert : Edit "Ready" reports (report "Valid" "first" (some 90) :: reports) :=
    .insert [] reports (by decide)
  have hswap : Edit "Ready" (report "Valid" "first" (some 90) :: reports) edited :=
    .swap (report "Valid" "first" (some 90) :: reports.take 3) [] (by decide)
  exact .tail (.single hinsert) hswap

end Condition.Rearrangement.Sample

open Condition Latest.Sample Rearrangement.Sample in
/-- Reports that are reordered among different times, and of which those of another type are edited,
are judged alike. -/
theorem Expectation.judges_reordered_reports_alike :
    ({ type := "Ready" } : Expectation).judge reordered =
        .matched (report "Ready" "third" (some 20)) ∧
      ({ type := "Ready" } : Expectation).JudgesAlike reports reordered ∧
      ({ type := "Ready" } : Expectation).JudgesAlike reports edited := by
  obtain ⟨hpositions, -⟩ := judges_rearranged_alike { type := "Ready" } reports reordered
  obtain ⟨-, hsteps⟩ := judges_rearranged_alike { type := "Ready" } reports edited
  have hreordered := hpositions places ⟨by decide, by decide⟩
  exact ⟨hreordered.judge.symm, hreordered, hsteps edits⟩

end BrokerHarness

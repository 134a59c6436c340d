import BrokerHarness.Condition.Expectation
import Mathlib.Data.List.Infix
import Mathlib.Tactic.Common

/-!
# Judgements on condition lists

The verdict of an expectation on a list is decided by the condition that counts for its type, and by
whether this one is accepted: `judge_eq_matched_iff`, `judge_eq_mismatch_iff` and
`judge_eq_absent_iff` say so for each verdict.  What an expectation accepts is a conjunction of what
it asks for (`accepts_iff`), in which a missing message is an empty one and a missing reason none.

So an expectation that asks for less accepts more.  `Expectation.AsksNoMoreThan` compares what two
expectations ask for; fragments of a message are compared by occurrence, which is transitive.
-/

namespace BrokerHarness.Expectation

variable {e weaker stricter : Expectation} {conditions : List Condition} {c : Condition}

/-! ### Verdicts -/

/-- An expectation is matched exactly by the latest condition of its type, if it accepts this one.
-/
lemma judge_eq_matched_iff :
    e.judge conditions = .matched c ↔
      Condition.latest e.type conditions = some c ∧ e.accepts c = true := by
  unfold judge
  cases hlatest : Condition.latest e.type conditions with
  | none => simp
  | some d =>
    by_cases haccepts : e.accepts d = true
    · simp only [haccepts, if_true, Verdict.matched.injEq, Option.some.injEq]
      constructor
      · rintro rfl
        exact ⟨rfl, haccepts⟩
      · exact And.left
    · simp only [haccepts, Bool.false_eq_true, if_false, reduceCtorEq, Option.some.injEq, false_iff]
      rintro ⟨rfl, h⟩
      exact haccepts h

/-- An expectation is missed exactly by the latest condition of its type, if it does not accept this
one. -/
lemma judge_eq_mismatch_iff :
    e.judge conditions = .mismatch c ↔
      Condition.latest e.type conditions = some c ∧ e.accepts c = false := by
  unfold judge
  cases hlatest : Condition.latest e.type conditions with
  | none => simp
  | some d =>
    by_cases haccepts : e.accepts d = true
    · simp only [haccepts, if_true, reduceCtorEq, Option.some.injEq, false_iff]
      rintro ⟨rfl, h⟩
      exact Bool.eq_false_iff.mp h haccepts
    · simp only [haccepts, Bool.false_eq_true, if_false, Verdict.mismatch.injEq, Option.some.injEq]
      constructor
      · rintro rfl
        exact ⟨rfl, Bool.eq_false_iff.mpr haccepts⟩
      · exact And.left

/-- Nothing is reported exactly if there is no condition of the type. -/
lemma judge_eq_absent_iff :
    e.judge conditions = .absent ↔ Condition.latest e.type conditions = none := by
  unfold judge
  cases Condition.latest e.type conditions with
  | none => simp
  | some d => by_cases haccepts : e.accepts d = true <;> simp [haccepts]

/-- An expectation is met exactly if it is matched. -/
lemma isMet_iff : e.isMet conditions = true ↔ ∃ c, e.judge conditions = .matched c := by
  unfold isMet
  cases e.judge conditions <;> simp

/-- Insisting on an expectation succeeds exactly if it is matched. -/
lemma expect_eq_ok_iff : e.expect conditions = .ok () ↔ ∃ c, e.judge conditions = .matched c := by
  unfold expect
  cases e.judge conditions <;> simp

/-- An expectation that is not met fails with the type that it is about. -/
lemma exists_expect_eq_error (h : ¬ ∃ c, e.judge conditions = .matched c) :
    ∃ observed, e.expect conditions = .error (.conditionDiffers e.type e.text observed) := by
  unfold expect
  cases hjudge : e.judge conditions with
  | matched c => exact absurd ⟨c, hjudge⟩ h
  | mismatch c => exact ⟨c.text, rfl⟩
  | absent => exact ⟨"absent", rfl⟩

/-! ### What is accepted -/

/-- A condition is accepted if it has the status, the reason if one is asked for, and a message with
the fragment if one is asked for. -/
lemma accepts_iff : e.accepts c = true ↔ c.status = e.status ∧
    (∀ reason, e.reason = some reason → c.reason = some reason) ∧
    ∀ fragment, e.messageContains = some fragment →
      fragment.toList <:+: (c.message.getD "").toList := by
  unfold accepts
  rw [Bool.and_eq_true, Bool.and_eq_true, decide_eq_true_eq, and_assoc]
  refine and_congr_right fun _ => and_congr ?_ ?_
  · cases e.reason <;> simp
  · cases e.messageContains <;> simp [Text.occursIn_iff]

/-- An expectation that only names a type accepts every condition that holds. -/
lemma accepts_type_iff {type : String} :
    ({ type } : Expectation).accepts c = true ↔ c.status = .holds := by
  simp [accepts]

/-- Two expectations are about the same status of the same type, and the first asks for no more: for
the same reason or none, and for a part of the fragment or none. -/
structure AsksNoMoreThan (weaker stricter : Expectation) : Prop where
  type : weaker.type = stricter.type
  status : weaker.status = stricter.status
  reason : weaker.reason = none ∨ weaker.reason = stricter.reason
  fragment : weaker.messageContains = none ∨ ∃ part whole,
    weaker.messageContains = some part ∧ stricter.messageContains = some whole ∧
      part.toList <:+: whole.toList

/-- An expectation that asks for no more accepts what the other one accepts. -/
lemma AsksNoMoreThan.accepts (h : weaker.AsksNoMoreThan stricter)
    (hc : stricter.accepts c = true) : weaker.accepts c = true := by
  obtain ⟨hstatus, hreason, hfragment⟩ := accepts_iff.mp hc
  refine accepts_iff.mpr ⟨hstatus.trans h.status.symm, ?_, ?_⟩
  · intro reason hasked
    obtain hnone | hsame := h.reason
    · rw [hnone] at hasked
      cases hasked
    · exact hreason reason (hsame.symm.trans hasked)
  · intro fragment hasked
    obtain hnone | ⟨part, whole, hpart, hwhole, hoccurs⟩ := h.fragment
    · rw [hnone] at hasked
      cases hasked
    · obtain rfl : part = fragment := Option.some.inj (hpart.symm.trans hasked)
      exact hoccurs.trans (hfragment whole hwhole)

/-! ### Comparing judgements -/

/-- What matches the stricter of two expectations matches the weaker one, what does not match the
weaker one does not match the stricter one, and both find the same lists without a condition of
their type.  A list meets an expectation exactly if the verdict is a match, and exactly then the
expectation does not fail; otherwise it fails with the type that it is about. -/
theorem judgements_follow_strictness (conditions : List Condition) :
    (∀ weaker stricter : Expectation, weaker.AsksNoMoreThan stricter →
      (∀ c, stricter.judge conditions = .matched c → weaker.judge conditions = .matched c) ∧
      (stricter.judge conditions = .absent ↔ weaker.judge conditions = .absent) ∧
      ∀ c, weaker.judge conditions = .mismatch c → stricter.judge conditions = .mismatch c) ∧
    ∀ e : Expectation,
      (e.isMet conditions = true ↔ ∃ c, e.judge conditions = .matched c) ∧
      (e.expect conditions = .ok () ↔ ∃ c, e.judge conditions = .matched c) ∧
      ((¬ ∃ c, e.judge conditions = .matched c) →
        ∃ observed, e.expect conditions = .error (.conditionDiffers e.type e.text observed)) := by
  refine ⟨fun weaker stricter h => ⟨fun c hc => ?_, ?_, fun c hc => ?_⟩,
    fun e => ⟨isMet_iff, expect_eq_ok_iff, exists_expect_eq_error⟩⟩
  · obtain ⟨hlatest, haccepts⟩ := judge_eq_matched_iff.mp hc
    exact judge_eq_matched_iff.mpr ⟨h.type ▸ hlatest, h.accepts haccepts⟩
  · rw [judge_eq_absent_iff, judge_eq_absent_iff, h.type]
  · obtain ⟨hlatest, hrefused⟩ := judge_eq_mismatch_iff.mp hc
    refine judge_eq_mismatch_iff.mpr ⟨h.type ▸ hlatest, ?_⟩
    cases haccepts : stricter.accepts c with
    | true => exact absurd (h.accepts haccepts) (Bool.eq_false_iff.mp hrefused)
    | false => rfl

/-! ### A reason and a fragment -/

namespace Judgement.Sample

/-- Not deployed, as the last of two reports says. -/
def report : Condition where
  type := "Deployed"
  status := .fails
  reason := some "ResourceError"
  message := some "name is too long: größer als 63"

def reports : List Condition :=
  [{ type := "Deployed", status := .holds }, report, { type := "Ready", status := .fails }]

def detailed : Expectation where
  type := "Deployed"
  status := .fails
  reason := some "ResourceError"
  messageContains := some "long: größer"

/-- Without the reason, and with a part of the fragment. -/
def brief : Expectation where
  type := "Deployed"
  status := .fails
  messageContains := some "größe"

def unmet : Expectation where
  type := "Deployed"
  status := .fails
  messageContains := some "quota"

/-- A reason is asked for in addition, and more of the message. -/
def unmetWithReason : Expectation where
  type := "Deployed"
  status := .fails
  reason := some "ResourceError"
  messageContains := some "exceeded quota"

lemma brief_asksNoMoreThan : brief.AsksNoMoreThan detailed :=
  ⟨rfl, rfl, .inl rfl, .inr ⟨"größe", "long: größer", rfl, rfl, by decide⟩⟩

lemma unmet_asksNoMoreThan : unmet.AsksNoMoreThan unmetWithReason :=
  ⟨rfl, rfl, .inl rfl, .inr ⟨"quota", "exceeded quota", rfl, rfl, by decide⟩⟩

end Judgement.Sample

open Judgement.Sample in
/-- What is asked for briefly is matched, and what is asked for with another reason as well is
missed. -/
theorem judgements_of_brief_and_detailed :
    brief.judge reports = .matched report ∧ unmetWithReason.judge reports = .mismatch report ∧
      ∃ observed, unmetWithReason.expect reports =
        .error (.conditionDiffers "Deployed" unmetWithReason.text observed) := by
  obtain ⟨hcompare, hend⟩ := judgements_follow_strictness reports
  obtain ⟨hmatched, -, -⟩ := hcompare brief detailed brief_asksNoMoreThan
  obtain ⟨-, -, hmismatch⟩ := hcompare unmet unmetWithReason unmet_asksNoMoreThan
  have hrefused : unmetWithReason.judge reports = .mismatch report := hmismatch report (by decide)
  refine ⟨hmatched report (by decide), hrefused, (hend unmetWithReason).2.2 ?_⟩
  rintro ⟨c, hc⟩
  rw [hrefused] at hc
  cases hc

end BrokerHarness.Expectation

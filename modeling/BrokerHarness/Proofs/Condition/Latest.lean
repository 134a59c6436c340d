import BrokerHarness.Condition.Expectation
import Mathlib.Data.List.Induction
import Mathlib.Order.WithBot
import Mathlib.Tactic.Common

/-!
# The condition that counts

Of the conditions of a type, the one that counts changed last.  A condition without a time is before
every condition with one, and of those that changed at the same time the last in the list counts.
`Condition.changed` puts the times in this order, and `Condition.CountsAt` says what it means for a
position of a list.

There is no more than one position at which a condition counts (`CountsAt.unique`).  The search
`Condition.latest` goes through the list once and keeps the best condition so far; its invariant is
that this one counts in the part of the list that it has seen (`exists_countsAt_of_latest`, by
induction on the end of the list).
-/

namespace BrokerHarness

/-- Moments are ordered by their second, and within a second by the nanoseconds. -/
instance : LinearOrder Timestamp where
  le_refl := Timestamp.le_refl
  le_trans _ _ _ := Timestamp.le_trans
  le_antisymm _ _ := Timestamp.le_antisymm
  le_total := Timestamp.le_total
  toDecidableLE := inferInstance
  toDecidableEq := inferInstance

namespace Condition

variable {type : String} {conditions : List Condition} {c d x : Condition} {i j : Nat}

/-! ### The order of conditions -/

/-- When the status of a condition changed last; a missing time is before every time. -/
def changed (c : Condition) : WithBot Timestamp := c.lastTransitionTime

/-- A condition without a time is as old as can be. -/
lemma changed_eq_bot_iff : c.changed = ⊥ ↔ c.lastTransitionTime = none := Iff.rfl

/-- Being no older is an order of the times. -/
lemma notOlder_iff : c.notOlder d = true ↔ d.changed ≤ c.changed := by
  unfold notOlder changed
  cases d.lastTransitionTime with
  | none => simp only [true_iff]; exact bot_le
  | some b =>
    cases c.lastTransitionTime with
    | none => simp only [Bool.false_eq_true, false_iff]; exact WithBot.not_coe_le_bot b
    | some a => exact decide_eq_true_iff.trans WithBot.coe_le_coe.symm

/-- Of two conditions of one time the later one in the list counts. -/
lemma newer_of_le (h : c.changed ≤ d.changed) : newer c d = d := if_pos (notOlder_iff.mpr h)

/-- A condition that is older does not replace the one before it. -/
lemma newer_of_lt (h : d.changed < c.changed) : newer c d = c :=
  if_neg fun hnotOlder => h.not_ge (notOlder_iff.mp hnotOlder)

/-! ### Positions at which a condition counts -/

/-- The condition stands at the position and counts for the type: those of the type in front of it
did not change later, and those of the type behind it changed earlier. -/
structure CountsAt (type : String) (conditions : List Condition) (i : Nat) (c : Condition) :
    Prop where
  there : conditions[i]? = some c
  type_eq : c.type = type
  inFront : ∀ d ∈ conditions.take i, d.type = type → d.changed ≤ c.changed
  behind : ∀ d ∈ conditions.drop (i + 1), d.type = type → d.changed < c.changed

namespace CountsAt

/-- The list in front of the counting condition and behind it. -/
lemma split (h : CountsAt type conditions i c) :
    conditions = conditions.take i ++ c :: conditions.drop (i + 1) := by
  obtain ⟨hlt, rfl⟩ := List.getElem?_eq_some_iff.mp h.there
  rw [List.getElem_cons_drop, List.take_append_drop]

lemma mem (h : CountsAt type conditions i c) : c ∈ conditions :=
  List.mem_of_getElem? h.there

/-- No condition of the type changed later than the one that counts. -/
lemma changed_le (h : CountsAt type conditions i c) (hd : d ∈ conditions) (htype : d.type = type) :
    d.changed ≤ c.changed := by
  rw [h.split, List.mem_append, List.mem_cons] at hd
  obtain hfront | rfl | hbehind := hd
  · exact h.inFront d hfront htype
  · exact le_rfl
  · exact (h.behind d hbehind htype).le

/-- Behind the condition that counts, those of its type changed earlier. -/
lemma changed_lt (h : CountsAt type conditions i c) (hd : conditions[j]? = some d)
    (htype : d.type = type) (hlt : i < j) : d.changed < c.changed := by
  refine h.behind d (List.mem_of_getElem? (i := j - (i + 1)) ?_) htype
  rw [List.getElem?_drop, Nat.add_sub_cancel' hlt, hd]

/-- A condition without a time counts only if none of its type has one. -/
lemma untimed (h : CountsAt type conditions i c) (hc : c.lastTransitionTime = none)
    (hd : d ∈ conditions) (htype : d.type = type) : d.lastTransitionTime = none := by
  have hle : d.changed ≤ c.changed := h.changed_le hd htype
  rw [changed_eq_bot_iff.mpr hc, le_bot_iff] at hle
  exact changed_eq_bot_iff.mp hle

/-- Of the conditions that changed at the same time, the last counts. -/
lemma le_of_tie (h : CountsAt type conditions i c) (hd : conditions[j]? = some d)
    (htype : d.type = type) (htie : d.lastTransitionTime = c.lastTransitionTime) : j ≤ i := by
  by_contra hlt
  have hearlier : d.changed < c.changed := h.changed_lt hd htype (Nat.not_le.mp hlt)
  exact hearlier.ne htie

/-- No position that counts is in front of another. -/
lemma le (hc : CountsAt type conditions i c) (hd : CountsAt type conditions j d) : j ≤ i := by
  by_contra hlt
  have hearlier : d.changed < c.changed := hc.changed_lt hd.there hd.type_eq (Nat.not_le.mp hlt)
  exact hearlier.not_ge (hd.changed_le hc.mem hc.type_eq)

/-- At most one condition counts for a type, and at one position only. -/
theorem unique (hc : CountsAt type conditions i c) (hd : CountsAt type conditions j d) :
    i = j ∧ c = d := by
  obtain rfl : i = j := Nat.le_antisymm (hd.le hc) (hc.le hd)
  exact ⟨rfl, Option.some.inj (hc.there.symm.trans hd.there)⟩

/-- A condition that counts still does when one is added at the end that is of another type or
changed earlier. -/
lemma concat (h : CountsAt type conditions i c) (hx : x.type = type → x.changed < c.changed) :
    CountsAt type (conditions ++ [x]) i c := by
  have hlt : i < conditions.length := (List.getElem?_eq_some_iff.mp h.there).1
  refine ⟨?_, h.type_eq, ?_, ?_⟩
  · rw [List.getElem?_append_left hlt, h.there]
  · rw [List.take_append_of_le_length hlt.le]
    exact h.inFront
  · rw [List.drop_append_of_le_length hlt, List.forall_mem_append, List.forall_mem_singleton]
    exact ⟨h.behind, hx⟩

end CountsAt

/-- What is added at the end counts if none of its type in front of it changed later. -/
lemma countsAt_length (htype : x.type = type)
    (hx : ∀ d ∈ conditions, d.type = type → d.changed ≤ x.changed) :
    CountsAt type (conditions ++ [x]) conditions.length x where
  there := List.getElem?_concat_length
  type_eq := htype
  inFront := by rwa [List.take_left]
  behind := by simp

/-! ### The search -/

/-- One more condition is compared with the one that counted so far. -/
lemma latest_concat (type : String) (conditions : List Condition) (x : Condition) :
    latest type (conditions ++ [x]) =
      if x.type = type then some ((latest type conditions).elim x (newer · x))
      else latest type conditions := by
  unfold latest
  rw [List.filter_append, List.foldl_append]
  split
  · next h =>
    rw [List.filter_cons_of_pos (by simpa using h)]
    cases List.foldl _ none (conditions.filter (·.type = type)) <;> rfl
  · next h => rw [List.filter_cons_of_neg (by simpa using h)]; rfl

/-- There is a latest condition unless there is none of the type. -/
lemma latest_eq_none_iff : latest type conditions = none ↔ ∀ c ∈ conditions, c.type ≠ type := by
  induction conditions using List.reverseRecOn with
  | nil => simp [latest]
  | append_singleton conditions x ih =>
    rw [latest_concat, List.forall_mem_append, List.forall_mem_singleton, ← ih]
    split
    · next h => simp [h]
    · next h => simp [h]

/-- What the search gives counts. -/
lemma exists_countsAt_of_latest (h : latest type conditions = some c) :
    ∃ i, CountsAt type conditions i c := by
  induction conditions using List.reverseRecOn generalizing c with
  | nil => cases h
  | append_singleton conditions x ih =>
    rw [latest_concat] at h
    split at h
    · next htype =>
      cases hbest : latest type conditions with
      | none =>
        have hnone := latest_eq_none_iff.mp hbest
        rw [hbest] at h
        obtain rfl : x = c := Option.some.inj h
        exact ⟨_, countsAt_length htype fun d hd hdtype => absurd hdtype (hnone d hd)⟩
      | some best =>
        obtain ⟨i, hcounts⟩ := ih hbest
        rw [hbest] at h
        obtain rfl : newer best x = c := Option.some.inj h
        by_cases hle : best.changed ≤ x.changed
        · rw [newer_of_le hle]
          exact ⟨_, countsAt_length htype fun d hd hdtype =>
            (hcounts.changed_le hd hdtype).trans hle⟩
        · rw [newer_of_lt (not_le.mp hle)]
          exact ⟨i, hcounts.concat fun _ => not_le.mp hle⟩
    · next htype =>
      obtain ⟨i, hcounts⟩ := ih h
      exact ⟨i, hcounts.concat fun hx => absurd hx htype⟩

/-- The search gives the condition that counts. -/
theorem latest_eq_some_iff :
    latest type conditions = some c ↔ ∃ i, CountsAt type conditions i c := by
  refine ⟨exists_countsAt_of_latest, ?_⟩
  rintro ⟨i, hc⟩
  cases hlatest : latest type conditions with
  | none => exact absurd hc.type_eq (latest_eq_none_iff.mp hlatest c hc.mem)
  | some d =>
    obtain ⟨j, hd⟩ := exists_countsAt_of_latest hlatest
    rw [(hd.unique hc).2]

/-- The search gives nothing exactly if the list has no condition of the type.  Otherwise it gives
the condition at the only position at which one counts.  This one has no time only if none of its
type has, and it is the last of those that changed at the same time. -/
theorem latest_at_unique_position (type : String) (conditions : List Condition) :
    (latest type conditions = none ↔ ∀ c ∈ conditions, c.type ≠ type) ∧
    ((∃ c ∈ conditions, c.type = type) → ∃ i c,
      latest type conditions = some c ∧ CountsAt type conditions i c ∧
      (∀ j d, CountsAt type conditions j d → j = i) ∧
      (c.lastTransitionTime = none →
        ∀ d ∈ conditions, d.type = type → d.lastTransitionTime = none) ∧
      ∀ j d, conditions[j]? = some d → d.type = type →
        d.lastTransitionTime = c.lastTransitionTime → j ≤ i) := by
  refine ⟨latest_eq_none_iff, ?_⟩
  rintro ⟨x, hx, hxtype⟩
  cases hlatest : latest type conditions with
  | none => exact absurd hxtype (latest_eq_none_iff.mp hlatest x hx)
  | some c =>
    obtain ⟨i, hc⟩ := exists_countsAt_of_latest hlatest
    refine ⟨i, c, rfl, hc, fun j d hd => (hd.unique hc).1, ?_, ?_⟩
    · exact fun huntimed d hd htype => hc.untimed huntimed hd htype
    · exact fun j d hd htype htie => hc.le_of_tie hd htype htie

/-! ### Conditions that changed at the same time -/

namespace Latest.Sample

def report (type message : String) (time : Option Int) : Condition where
  type := type
  status := .holds
  message := some message
  lastTransitionTime := time.map (⟨·, 0⟩)

/-- Four reports of readiness: the first and the third are equally old, the second has no time, and
the fourth is older than both. -/
def reports : List Condition :=
  [report "Ready" "first" (some 20), report "Deployed" "first" (some 90),
    report "Ready" "second" none, report "Ready" "third" (some 20),
    report "Ready" "fourth" (some 10)]

end Latest.Sample

open Latest.Sample in
/-- Of the two newest reports, which are equally old, the one that stands behind the other
counts. -/
theorem latest_of_tied_reports :
    latest "Ready" reports = some (report "Ready" "third" (some 20)) ∧
      CountsAt "Ready" reports 3 (report "Ready" "third" (some 20)) := by
  obtain ⟨i, c, hlatest, hcounts, -⟩ :=
    (latest_at_unique_position "Ready" reports).2 ⟨_, List.mem_cons_self, rfl⟩
  obtain rfl : report "Ready" "third" (some 20) = c := Option.some.inj hlatest
  obtain ⟨hlt, -⟩ := List.getElem?_eq_some_iff.mp hcounts.there
  have hposition : ∀ i < 5, reports[i]? = some (report "Ready" "third" (some 20)) → i = 3 := by
    decide
  obtain rfl : i = 3 := hposition i hlt hcounts.there
  exact ⟨hlatest, hcounts⟩

end Condition

end BrokerHarness

import BrokerHarness.Proofs.Label.Sanitized

/-!
# Names behind a stem

A name is made of a stem, a dash and what follows.  If the stem is a label, all of it is kept: as no
dash stands at its ends neither trim reaches into it, and the cut falls behind it.  What follows
gets the room that the stem and the dash leave (`room`), and a dash that the cut leaves at the end
goes (`toList_sanitize_append_dash`).

So of random digits a name has those that there is room for, and no more.  Behind a stem that is
almost as long as a label may be there is no room for any, and all names with random digits are the
stem itself.
-/

namespace BrokerHarness.Label

variable {stem text : String}

/-- What sanitizing makes of a label, a dash and a text: the label stays, and the rest is what the
cut leaves of the dash and the text. -/
lemma toList_sanitize_append_dash (h : IsLabel stem) (text : String) :
    (sanitize (stem ++ "-" ++ text)).toList = stem.toList ++
      trimEnd (('-' :: dashRuns false (Text.lowercase text).toList).take
        (maxLength - stem.length)) := by
  have htidy := h.isTidy
  have hdash : isLabelChar '-' = true := by decide
  have hlower : (Text.lowercase stem).toList = stem.toList := by
    rw [Text.lowercase, String.toList_ofList]
    exact lowerChars_eq_self false htidy.isLabelChar_of_mem
  have hruns : dashRuns false (stem.toList ++ '-' :: (Text.lowercase text).toList) =
      stem.toList ++ '-' :: dashRuns false (Text.lowercase text).toList := by
    rw [dashRuns_append htidy.isLabelChar_of_mem, dashRuns, if_pos hdash]
  have hhead : (stem.toList ++ '-' :: dashRuns false (Text.lowercase text).toList).head? ≠
      some '-' := by
    rw [List.head?_append_of_ne_nil _ h.toList_ne_nil]
    exact htidy.head?_ne
  have hfits : stem.toList.take maxLength = stem.toList := List.take_of_length_le htidy.length_le
  rw [toList_sanitize, Text.toList_lowercase_append_dash, hlower, ofLower_eq, hruns,
    trimStart_eq_self hhead, List.take_append, hfits,
    trimEnd_append_of_getLast? htidy.getLast?_ne, String.length_toList]

/-- Two labels with a dash in between are a label, if they are not too long together. -/
lemma IsLabel.append_dash (hstem : IsLabel stem) (htext : IsLabel text)
    (hfits : stem.length + 1 + text.length ≤ maxLength) : IsLabel (stem ++ "-" ++ text) := by
  have hlist : (stem ++ "-" ++ text).toList = stem.toList ++ '-' :: text.toList := by simp
  refine ⟨?_, fun hempty => ?_⟩
  · rw [hlist]
    refine ⟨?_, ?_, ?_, ?_⟩
    · rw [List.length_append, List.length_cons, String.length_toList, String.length_toList]
      omega
    · refine List.forall_mem_append.mpr ⟨hstem.isTidy.isLabelChar_of_mem, ?_⟩
      exact List.forall_mem_cons.mpr ⟨by decide, htext.isTidy.isLabelChar_of_mem⟩
    · rw [List.head?_append_of_ne_nil _ hstem.toList_ne_nil]
      exact hstem.isTidy.head?_ne
    · rw [List.getLast?_append_of_ne_nil _ (List.cons_ne_nil _ _),
        List.getLast?_cons_of_ne_nil htext.toList_ne_nil]
      exact htext.isTidy.getLast?_ne
  · have hnil : stem.toList ++ '-' :: text.toList = [] := by
      rw [← hlist, hempty]
      rfl
    simp at hnil

/-- Random digits are a label. -/
lemma isLabel_suffix (random : RandomDigits) {length : ℕ} (h : 1 ≤ length) :
    IsLabel (random.suffix length) := by
  have hne := random.ne_dash_of_mem_suffix length
  refine ⟨⟨?_, random.isLabelChar_of_mem_suffix length, ?_, ?_⟩, ?_⟩
  · rw [random.length_toList_suffix, maxLength]
    omega
  · intro hhead
    exact hne '-' (List.mem_of_head? hhead) rfl
  · intro hlast
    exact hne '-' (List.mem_of_getLast? hlast) rfl
  · intro hempty
    obtain ⟨c, hc⟩ := random.exists_mem_suffix h
    simp [hempty] at hc

/-- A stem of 59 characters. -/
def Sample.longStem : String := String.ofList (List.replicate 59 'z')

lemma Sample.length_longStem : longStem.length = 59 := by
  unfold longStem
  rw [String.length_ofList, List.length_replicate]

/-- A stem that is a label starts the name of every resource of a test.  Where a method that is a
label itself, or random digits, have the room that they need, the name is the stem, a dash and just
these. -/
theorem names_keep_stem (h : IsLabel stem) :
    (∀ method, stem.toList <+: (testResource stem method).toList) ∧
    (∀ method, IsLabel method → stem.length + 1 + method.length ≤ maxLength →
      testResource stem method = stem ++ "-" ++ method) ∧
    (∀ (random : RandomDigits) length, 1 ≤ length → length ≤ 32 →
      stem.length + 1 + length ≤ maxLength →
        randomNamespace stem random length = stem ++ "-" ++ random.suffix length ∧
        (random.suffix length).length = length ∧
        ∀ c ∈ (random.suffix length).toList, isHexDigit c = true) := by
  refine ⟨fun method => ?_, fun method hmethod hfits => ?_, fun random length hpos hle hfits => ?_⟩
  · rw [testResource, toList_sanitize_append_dash h method]
    exact List.prefix_append _ _
  · exact (h.append_dash hmethod hfits).isTidy.sanitize_eq_self
  · have hlength : (random.suffix length).length = length := by
      rw [← String.length_toList, random.length_toList_suffix]
      omega
    have hlabel : IsLabel (stem ++ "-" ++ random.suffix length) :=
      h.append_dash (isLabel_suffix random hpos) (by rwa [hlength])
    exact ⟨hlabel.isTidy.sanitize_eq_self, hlength, random.isHexDigit_of_mem_suffix length⟩

/-- The stem, a dash and three characters are together as long as a label may be. -/
theorem names_keep_longest_stem :
    IsLabel Sample.longStem ∧ Sample.longStem.length + 1 + 3 ≤ maxLength ∧
    Sample.longStem.toList <+: (testResource Sample.longStem "-- Neu\u00DF").toList ∧
    testResource Sample.longStem "a-b" = Sample.longStem ++ "-" ++ "a-b" ∧
    randomNamespace Sample.longStem Sample.digits 3 =
      Sample.longStem ++ "-" ++ Sample.digits.suffix 3 := by
  have hstem : IsLabel Sample.longStem := by decide +kernel
  have hmethod : IsLabel "a-b" := by decide +kernel
  have hfits : Sample.longStem.length + 1 + 3 ≤ maxLength := by
    rw [Sample.length_longStem, maxLength]
  obtain ⟨hstarts, hresource, hrandom⟩ := names_keep_stem hstem
  refine ⟨hstem, hfits, hstarts _, hresource "a-b" hmethod hfits, ?_⟩
  exact (hrandom Sample.digits 3 (by decide) (by decide) hfits).1

/-! ### The room for random digits -/

/-- The number of characters that a name has room for behind its stem and a dash. -/
def room (stem : String) : ℕ := maxLength - (stem.length + 1)

/-- A dash at the end of a name goes if nothing stands behind it. -/
lemma trimEnd_dash_cons {digits : List Char} (h : ∀ c ∈ digits, c ≠ '-') :
    trimEnd ('-' :: digits) = if digits = [] then [] else '-' :: digits := by
  have hlast : digits.getLast? ≠ some '-' := fun hdash => h '-' (List.mem_of_getLast? hdash) rfl
  have htrim := trimEnd_append ['-'] digits
  rw [trimEnd_eq_self hlast] at htrim
  exact htrim

/-- What has no dash can be read off the trim of the end, if it stands behind a dash. -/
lemma trimEnd_dash_cons_inj {xs ys : List Char} (hxs : ∀ c ∈ xs, c ≠ '-')
    (hys : ∀ c ∈ ys, c ≠ '-') : trimEnd ('-' :: xs) = trimEnd ('-' :: ys) ↔ xs = ys := by
  rw [trimEnd_dash_cons hxs, trimEnd_dash_cons hys]
  cases xs with
  | nil => cases ys <;> simp
  | cons x xs => cases ys <;> simp

/-- A name with random digits has those that there is room for, behind a dash if there are any. -/
lemma toList_randomNamespace (h : IsLabel stem) (random : RandomDigits) (length : ℕ) :
    (randomNamespace stem random length).toList = stem.toList ++
      trimEnd ('-' :: (random.suffix (min length (room stem))).toList) := by
  have hruns : dashRuns false (Text.lowercase (random.suffix length)).toList =
      (random.suffix length).toList := by
    rw [random.toList_lowercase_suffix]
    exact dashRuns_eq_self (random.isLabelChar_of_mem_suffix length)
  have hcut : (random.suffix length).toList.take (room stem) =
      (random.suffix (min length (room stem))).toList := by
    rw [random.toList_suffix, random.toList_suffix, List.take_take, Nat.min_comm]
  have hlength : stem.length ≤ maxLength := by
    rw [← String.length_toList]
    exact h.isTidy.length_le
  rw [randomNamespace, toList_sanitize_append_dash h, hruns, ← hcut]
  rcases Nat.eq_or_lt_of_le hlength with hfull | hlt
  -- Behind a stem that is as long as a label may be there is not even room for the dash.
  · have hroom : room stem = 0 := by
      unfold room
      omega
    rw [hroom, hfull, Nat.sub_self, List.take_zero, List.take_zero]
    rfl
  · have hroom : maxLength - stem.length = room stem + 1 := by
      unfold room
      omega
    rw [hroom, List.take_succ_cons]

/-- Where there is no room for digits, the name is the stem. -/
lemma randomNamespace_eq_stem (h : IsLabel stem) (hroom : room stem = 0) (random : RandomDigits)
    (length : ℕ) : randomNamespace stem random length = stem := by
  have hdigits : (random.suffix 0).toList = [] := by
    rw [random.toList_suffix, List.take_zero]
  rw [← String.toList_inj, toList_randomNamespace h, hroom, Nat.min_zero, hdigits,
    trimEnd_dash_cons (by simp), if_pos rfl, List.append_nil]

/-- Two names with random digits behind one stem differ exactly if two of the digits differ that
there is room for.  So different digits make different names as long as the stem, the dash and the
digits are together no longer than a label may be. -/
theorem random_names_differ_iff (h : IsLabel stem) (first second : RandomDigits) (length : ℕ) :
    (randomNamespace stem first length ≠ randomNamespace stem second length ↔
      first.suffix (min length (room stem)) ≠ second.suffix (min length (room stem))) ∧
    (stem.length + 1 + length ≤ maxLength → first.suffix length ≠ second.suffix length →
      randomNamespace stem first length ≠ randomNamespace stem second length) := by
  have hiff : randomNamespace stem first length = randomNamespace stem second length ↔
      first.suffix (min length (room stem)) = second.suffix (min length (room stem)) := by
    rw [← String.toList_inj, toList_randomNamespace h, toList_randomNamespace h,
      List.append_cancel_left_eq, trimEnd_dash_cons_inj (first.ne_dash_of_mem_suffix _)
        (second.ne_dash_of_mem_suffix _), String.toList_inj]
  refine ⟨not_congr hiff, fun hfits hne => ?_⟩
  have hroom : min length (room stem) = length := by
    unfold room
    omega
  rwa [Ne, hiff, hroom]

/-- The digits of another random number. -/
def Sample.otherDigits : RandomDigits where
  digits := "f81d4fae7dec41d0a76500a0c91e6bf6".toList
  isHexDigit_of_mem := List.all_eq_true.mp (by decide)

/-- A stem that is as long as a label may be. -/
def Sample.fullStem : String := String.ofList (List.replicate 63 'z')

/-- Behind a stem that is a label of the greatest length, different random digits make the same
name. -/
theorem random_names_coincide_behind_full_stem :
    IsLabel Sample.fullStem ∧ Sample.digits.suffix 3 ≠ Sample.otherDigits.suffix 3 ∧
    randomNamespace Sample.fullStem Sample.digits 3 = Sample.fullStem ∧
    randomNamespace Sample.fullStem Sample.otherDigits 3 = Sample.fullStem := by
  have hstem : IsLabel Sample.fullStem := by decide +kernel
  have hroom : room Sample.fullStem = 0 := by
    unfold room Sample.fullStem
    rw [String.length_ofList, List.length_replicate]
    rfl
  exact ⟨hstem, by decide +kernel, randomNamespace_eq_stem hstem hroom Sample.digits 3,
    randomNamespace_eq_stem hstem hroom Sample.otherDigits 3⟩

/-- Of eight random digits there is room for three, which differ here. -/
theorem random_names_differ_behind_long_stem :
    IsLabel Sample.longStem ∧
    randomNamespace Sample.longStem Sample.digits 8 ≠
      randomNamespace Sample.longStem Sample.otherDigits 8 ∧
    Sample.longStem.length + 1 + 3 ≤ maxLength ∧
    Sample.digits.suffix 3 ≠ Sample.otherDigits.suffix 3 ∧
    randomNamespace Sample.longStem Sample.digits 3 ≠
      randomNamespace Sample.longStem Sample.otherDigits 3 := by
  have hstem : IsLabel Sample.longStem := by decide +kernel
  have hfits : Sample.longStem.length + 1 + 3 ≤ maxLength := by
    rw [Sample.length_longStem, maxLength]
  have hdigits : Sample.digits.suffix 3 ≠ Sample.otherDigits.suffix 3 := by decide +kernel
  have hroom : min 8 (room Sample.longStem) = 3 := by
    rw [room, Sample.length_longStem]
    rfl
  have height := (random_names_differ_iff hstem Sample.digits Sample.otherDigits 8).1
  rw [hroom] at height
  have hthree := (random_names_differ_iff hstem Sample.digits Sample.otherDigits 3).2
  exact ⟨hstem, height.mpr hdigits, hfits, hdigits, hthree hfits hdigits⟩

end BrokerHarness.Label

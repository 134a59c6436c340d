import BrokerHarness.Label
import Mathlib.Data.List.DropRight
import Mathlib.Tactic.Common

/-!
# What sanitizing gives

`sanitize` makes of every text a label or the empty text, and a label exactly if the lower case form
of the text has a letter or digit that a label may hold.  A label stays as it is, so that sanitizing
twice is sanitizing once.

The lower case form of a character depends on what stands around it.  A dash separates: the lower
case form of two texts with a dash in between is that of the one, the dash, and that of the other
(`Text.lowerChars_append_dash`).  Names that are put together with a dash rest on this.

Of the two trims of the end the first is of no account: the second one takes what the first would
have taken, or the cut has taken it (`trimEnd_take_trimEnd`).  So `ofLower` trims each end once
(`ofLower_eq`), and its laws follow from those of the trims and of `dashRuns`.
-/

namespace BrokerHarness

/-! ### Lower case -/

namespace Text

/-- Below the capital letters, and between them and the first letters with a diacritic, characters
are their own lower case forms. -/
lemma lowerChar_eq_self {c : Char} (h : c.toNat < 0x41 ∨ 0x5A < c.toNat ∧ c.toNat < 0xC0) :
    lowerChar c = [c] := by
  have hne : c ≠ 'İ' := by
    rintro rfl
    revert h
    decide
  have hcode : lowerCode lowerRuns c.toNat = c.toNat := by
    unfold lowerRuns
    rcases h with h | ⟨hlow, hhigh⟩
    · exact if_pos h
    · have hbehind : ¬ c.toNat < 0x41 := by omega
      have hpast : ¬ (c.toNat ≤ 0x5A ∧ (c.toNat - 0x41) % 1 = 0) := by omega
      rw [lowerCode, if_neg hbehind, if_neg hpast]
      exact if_pos hhigh
  rw [lowerChar, if_neg hne, hcode, Char.ofNat_toNat]

/-- The search for a letter with case ends at a dash. -/
lemma startsCased_append_dash (xs ys : List Char) :
    startsCased (xs ++ '-' :: ys) = startsCased xs := by
  have hdash : ('-' :: ys).dropWhile isCaseIgnorable = '-' :: ys := by
    rw [List.dropWhile_cons, if_neg (by decide)]
  unfold startsCased
  rw [List.dropWhile_append, hdash]
  cases xs.dropWhile isCaseIgnorable with
  | nil => rfl
  | cons c rest => rfl

/-- What stands on one side of a dash has no part in the lower case form of the other side. -/
lemma lowerChars_append_dash (cased : Bool) (xs ys : List Char) :
    lowerChars cased (xs ++ '-' :: ys) = lowerChars cased xs ++ '-' :: lowerChars false ys := by
  induction xs generalizing cased with
  | nil =>
    -- A dash has no case and is not passed over, so what stands before it does not count behind it.
    have hform : lowerChar '-' = ['-'] := lowerChar_eq_self (by decide)
    have hafter : (if isCaseIgnorable '-' = true then cased else isCased '-') = false := by
      rw [if_neg (by decide)]
      decide
    have hfinal : ¬ ('-' = 'Σ' ∧ cased = true ∧ startsCased ys = false) := fun h =>
      absurd h.1 (by decide)
    simp only [List.nil_append, lowerChars, if_neg hfinal, hform, hafter, List.singleton_append]
  | cons c xs ih =>
    simp only [List.cons_append, lowerChars, startsCased_append_dash, ih, List.append_assoc]

/-- A dash separates words, so the lower case of what stands before it and behind it does not depend
on the other side. -/
lemma toList_lowercase_append_dash (s t : String) :
    (lowercase (s ++ "-" ++ t)).toList =
      (lowercase s).toList ++ '-' :: (lowercase t).toList := by
  have hlist : (s ++ "-" ++ t).toList = s.toList ++ '-' :: t.toList := by simp
  simp only [lowercase, String.toList_ofList, hlist, lowerChars_append_dash]

end Text

namespace Label

/-! ### Labels -/

/-- The characters of labels other than the dash. -/
def isAlphanumeric (c : Char) : Bool := ('a' ≤ c && c ≤ 'z') || ('0' ≤ c && c ≤ '9')

/-- The characters of labels are the alphanumeric ones and the dash. -/
lemma isLabelChar_iff {c : Char} :
    isLabelChar c = true ↔ isAlphanumeric c = true ∨ c = '-' := by
  unfold isLabelChar isAlphanumeric
  simp only [Bool.or_eq_true, decide_eq_true_eq]

lemma isLabelChar_of_isAlphanumeric {c : Char} (h : isAlphanumeric c = true) :
    isLabelChar c = true :=
  isLabelChar_iff.mpr (.inl h)

lemma ne_dash_of_isAlphanumeric {c : Char} (h : isAlphanumeric c = true) : c ≠ '-' := by
  rintro rfl
  exact absurd h (by decide)

/-- A character of a label that is no dash is alphanumeric. -/
lemma isAlphanumeric_of_ne_dash {c : Char} (h : isLabelChar c = true) (hne : c ≠ '-') :
    isAlphanumeric c = true :=
  (isLabelChar_iff.mp h).resolve_right hne

/-- Hexadecimal digits are among the characters of labels, and none is the dash. -/
lemma isAlphanumeric_of_isHexDigit {c : Char} (h : isHexDigit c = true) :
    isAlphanumeric c = true := by
  unfold isHexDigit at h
  unfold isAlphanumeric
  simp only [Bool.or_eq_true, Bool.and_eq_true, decide_eq_true_eq] at h ⊢
  rcases h with hdigit | ⟨hlow, hhigh⟩
  · exact .inr hdigit
  · exact .inl ⟨hlow, Char.le_trans hhigh (by decide)⟩

/-- The characters of a label, or none: no more than a label may have, each of which it may hold,
and no dash at either end. -/
structure IsTidy (cs : List Char) : Prop where
  length_le : cs.length ≤ maxLength
  isLabelChar_of_mem : ∀ c ∈ cs, isLabelChar c = true
  head?_ne : cs.head? ≠ some '-'
  getLast?_ne : cs.getLast? ≠ some '-'

/-- A label: such characters, and at least one. -/
structure IsLabel (text : String) : Prop where
  isTidy : IsTidy text.toList
  ne_empty : text ≠ ""

instance (cs : List Char) : Decidable (IsTidy cs) :=
  decidable_of_iff
    (cs.length ≤ maxLength ∧ cs.all isLabelChar = true ∧ cs.head? ≠ some '-' ∧
      cs.getLast? ≠ some '-')
    ⟨fun ⟨h₁, h₂, h₃, h₄⟩ => ⟨h₁, List.all_eq_true.mp h₂, h₃, h₄⟩,
      fun h => ⟨h.1, List.all_eq_true.mpr h.2, h.3, h.4⟩⟩

instance (text : String) : Decidable (IsLabel text) :=
  decidable_of_iff (IsTidy text.toList ∧ text ≠ "") ⟨fun ⟨h₁, h₂⟩ => ⟨h₁, h₂⟩, fun h => ⟨h.1, h.2⟩⟩

/-- The code points of the characters of labels: the dash, the digits and the small letters. -/
lemma toNat_of_isLabelChar {c : Char} (h : isLabelChar c = true) :
    c.toNat = 0x2D ∨ 0x30 ≤ c.toNat ∧ c.toNat ≤ 0x39 ∨ 0x61 ≤ c.toNat ∧ c.toNat ≤ 0x7A := by
  unfold isLabelChar at h
  simp only [Bool.or_eq_true, Bool.and_eq_true, decide_eq_true_eq] at h
  rcases h with (⟨hlow, hhigh⟩ | ⟨hlow, hhigh⟩) | rfl
  · exact .inr (.inr ⟨hlow, hhigh⟩)
  · exact .inr (.inl ⟨hlow, hhigh⟩)
  · exact .inl rfl

lemma IsLabel.toList_ne_nil {text : String} (h : IsLabel text) : text.toList ≠ [] :=
  fun hnil => h.ne_empty (String.toList_eq_nil_iff.mp hnil)

/-- Characters of labels are their own lower case forms. -/
lemma lowerChars_eq_self {cs : List Char} (cased : Bool)
    (h : ∀ c ∈ cs, isLabelChar c = true) : Text.lowerChars cased cs = cs := by
  induction cs generalizing cased with
  | nil => rfl
  | cons c cs ih =>
    obtain ⟨hc, hcs⟩ := List.forall_mem_cons.mp h
    have hrange : c.toNat < 0x41 ∨ 0x5A < c.toNat ∧ c.toNat < 0xC0 := by
      have hcode := toNat_of_isLabelChar hc
      omega
    have hne : c ≠ 'Σ' := by
      rintro rfl
      exact absurd hc (by decide)
    rw [Text.lowerChars, if_neg fun hfinal => hne hfinal.1, Text.lowerChar_eq_self hrange, ih _ hcs]
    rfl

/-! ### Dashes at the ends -/

section Trim

variable {cs xs ys : List Char}

/-- Behind the trim no dash stands at the start. -/
lemma head?_trimStart_ne (cs : List Char) : (trimStart cs).head? ≠ some '-' := by
  intro hhead
  have hstop := List.head?_dropWhile_not (p := (· = '-')) cs
  unfold trimStart at hhead
  rw [hhead] at hstop
  simp at hstop

/-- Behind the trim no dash stands at the end. -/
lemma getLast?_trimEnd_ne (cs : List Char) : (trimEnd cs).getLast? ≠ some '-' := by
  rw [trimEnd, List.getLast?_reverse]
  exact head?_trimStart_ne cs.reverse

/-- Without a dash at the start there is nothing to trim there. -/
lemma trimStart_eq_self (h : cs.head? ≠ some '-') : trimStart cs = cs := by
  cases cs with
  | nil => rfl
  | cons c rest =>
    have hne : c ≠ '-' := fun hc => h (congrArg some hc)
    rw [trimStart, List.dropWhile_cons, if_neg (by simpa using hne)]

/-- Without a dash at the end there is nothing to trim there. -/
lemma trimEnd_eq_self (h : cs.getLast? ≠ some '-') : trimEnd cs = cs := by
  have hhead : cs.reverse.head? ≠ some '-' := by rwa [List.head?_reverse]
  rw [trimEnd, trimStart_eq_self hhead, List.reverse_reverse]

/-- The trim of the start leaves nothing exactly of dashes. -/
lemma trimStart_eq_nil_iff : trimStart cs = [] ↔ ∀ c ∈ cs, c = '-' := by
  rw [trimStart, List.dropWhile_eq_nil_iff]
  simp only [decide_eq_true_eq]

/-- The trim of the end leaves nothing exactly of dashes. -/
lemma trimEnd_eq_nil_iff : trimEnd cs = [] ↔ ∀ c ∈ cs, c = '-' := by
  rw [trimEnd, List.reverse_eq_nil_iff, trimStart_eq_nil_iff]
  simp only [List.mem_reverse]

lemma trimStart_suffix (cs : List Char) : trimStart cs <:+ cs := List.dropWhile_suffix _

lemma trimEnd_starts (cs : List Char) : trimEnd cs <+: cs := List.rdropWhile_prefix _ cs

/-- The trim of the end takes only from the second of two texts, unless it takes all of it. -/
lemma trimEnd_append (xs ys : List Char) :
    trimEnd (xs ++ ys) = if trimEnd ys = [] then trimEnd xs else xs ++ trimEnd ys := by
  simp only [trimEnd, trimStart, List.reverse_append, List.dropWhile_append,
    List.reverse_eq_nil_iff, List.isEmpty_iff]
  split <;> simp

/-- The trim of the end stops before a character that is no dash. -/
lemma trimEnd_append_of_getLast? (h : xs.getLast? ≠ some '-') (ys : List Char) :
    trimEnd (xs ++ ys) = xs ++ trimEnd ys := by
  rw [trimEnd_append]
  split
  · next hnil => rw [trimEnd_eq_self h, hnil, List.append_nil]
  · rfl

/-- What the trim of the end takes is dashes. -/
lemma exists_eq_trimEnd_append (cs : List Char) :
    ∃ dashes, cs = trimEnd cs ++ dashes ∧ ∀ c ∈ dashes, c = '-' := by
  obtain ⟨dashes, hsplit⟩ := trimEnd_starts cs
  refine ⟨dashes, hsplit.symm, ?_⟩
  have htrim : trimEnd (trimEnd cs ++ dashes) = trimEnd cs ++ trimEnd dashes :=
    trimEnd_append_of_getLast? (getLast?_trimEnd_ne cs) dashes
  rw [hsplit] at htrim
  exact trimEnd_eq_nil_iff.mp (List.self_eq_append_right.mp htrim)

/-- A trim of the end in front of a cut is of no account for one behind it. -/
lemma trimEnd_take_trimEnd (n : ℕ) (cs : List Char) :
    trimEnd ((trimEnd cs).take n) = trimEnd (cs.take n) := by
  obtain ⟨dashes, hsplit, hdashes⟩ := exists_eq_trimEnd_append cs
  have hcut : cs.take n =
      (trimEnd cs).take n ++ dashes.take (n - (trimEnd cs).length) := by
    conv_lhs => rw [hsplit, List.take_append]
  have hnil : trimEnd (dashes.take (n - (trimEnd cs).length)) = [] :=
    trimEnd_eq_nil_iff.mpr fun c hc => hdashes c (List.mem_of_mem_take hc)
  rw [hcut, trimEnd_append, if_pos hnil]

end Trim

/-! ### Runs of other characters -/

section Runs

variable {cs xs ys : List Char} {inRun : Bool}

/-- Every character that is no part of a label becomes part of a dash. -/
lemma isLabelChar_of_mem_dashRuns (inRun : Bool) (cs : List Char) :
    ∀ c ∈ dashRuns inRun cs, isLabelChar c = true := by
  have hdash : isLabelChar '-' = true := by decide
  fun_induction dashRuns inRun cs with
  | case1 => simp
  | case2 inRun c rest hc ih => exact List.forall_mem_cons.mpr ⟨hc, ih⟩
  | case3 c rest hc ih => exact ih
  | case4 inRun c rest hc hrun ih => exact List.forall_mem_cons.mpr ⟨hdash, ih⟩

/-- The letters and digits of a text stay, and none are added. -/
lemma mem_dashRuns_iff {a : Char} (ha : isAlphanumeric a = true) :
    a ∈ dashRuns inRun cs ↔ a ∈ cs := by
  have hother : ∀ c, ¬ isLabelChar c = true → a ≠ c := by
    rintro c hc rfl
    exact hc (isLabelChar_of_isAlphanumeric ha)
  have hdash := ne_dash_of_isAlphanumeric ha
  fun_induction dashRuns inRun cs with
  | case1 => simp
  | case2 inRun c rest hc ih => simp only [List.mem_cons, ih]
  | case3 c rest hc ih => simp only [List.mem_cons, hother c hc, false_or, ih]
  | case4 inRun c rest hc hrun ih =>
    simp only [List.mem_cons, hother c hc, hdash, false_or, ih]

/-- Characters of labels stay, and a run behind them begins anew. -/
lemma dashRuns_append (h : ∀ c ∈ xs, isLabelChar c = true) (ys : List Char) :
    dashRuns false (xs ++ ys) = xs ++ dashRuns false ys := by
  induction xs with
  | nil => rfl
  | cons c xs ih =>
    obtain ⟨hc, hxs⟩ := List.forall_mem_cons.mp h
    rw [List.cons_append, dashRuns, if_pos hc, ih hxs, List.cons_append]

/-- A text of characters of labels is left alone. -/
lemma dashRuns_eq_self (h : ∀ c ∈ cs, isLabelChar c = true) : dashRuns false cs = cs := by
  have happend := dashRuns_append h []
  rwa [List.append_nil, dashRuns, List.append_nil] at happend

end Runs

/-! ### Sanitizing -/

/-- Dashes in place of runs, no dash at the start, the cut, and no dash at the end. -/
lemma ofLower_eq (cs : List Char) :
    ofLower cs = trimEnd ((trimStart (dashRuns false cs)).take maxLength) :=
  trimEnd_take_trimEnd maxLength (trimStart (dashRuns false cs))

/-- What is made of a text in lower case is tidy: it consists of characters of labels, is not too
long, and has no dash at either end. -/
lemma isTidy_ofLower (cs : List Char) : IsTidy (ofLower cs) := by
  rw [ofLower_eq]
  set kept := trimStart (dashRuns false cs) with hkept
  have hstarts : trimEnd (kept.take maxLength) <+: kept :=
    (trimEnd_starts _).trans (List.take_prefix maxLength kept)
  refine ⟨?_, ?_, ?_, getLast?_trimEnd_ne _⟩
  · calc (trimEnd (kept.take maxLength)).length
        ≤ (kept.take maxLength).length := (trimEnd_starts _).length_le
      _ ≤ maxLength := List.length_take_le _ _
  · intro c hc
    have hmem : c ∈ dashRuns false cs :=
      (trimStart_suffix _).subset (hkept ▸ hstarts.subset hc)
    exact isLabelChar_of_mem_dashRuns false cs c hmem
  · intro hhead
    obtain ⟨rest, hrest⟩ := hstarts
    have hfirst : kept.head? = some '-' := by rw [← hrest, List.head?_append, hhead]; rfl
    exact head?_trimStart_ne _ (hkept ▸ hfirst)

/-- Nothing is left exactly if there is no letter or digit to keep: the first one is never cut. -/
lemma ofLower_eq_nil_iff {cs : List Char} :
    ofLower cs = [] ↔ ∀ c ∈ cs, isAlphanumeric c = false := by
  have hruns : (∀ c ∈ dashRuns false cs, c = '-') ↔ ∀ c ∈ cs, isAlphanumeric c = false := by
    constructor
    · intro hdashes c hc
      by_contra hne
      have halpha : isAlphanumeric c = true := by simpa using hne
      exact ne_dash_of_isAlphanumeric halpha (hdashes c ((mem_dashRuns_iff halpha).mpr hc))
    · intro hnone c hc
      by_contra hne
      have halpha : isAlphanumeric c = true :=
        isAlphanumeric_of_ne_dash (isLabelChar_of_mem_dashRuns false cs c hc) hne
      have hfalse := hnone c ((mem_dashRuns_iff halpha).mp hc)
      simp [halpha] at hfalse
  rw [ofLower_eq, ← hruns, ← trimStart_eq_nil_iff]
  constructor
  -- What the trim of the start leaves begins with no dash, and its first character is in the cut.
  · intro hnil
    by_contra hne
    obtain ⟨c, rest, hkept⟩ := List.exists_cons_of_ne_nil hne
    have hfirst : c ≠ '-' := by
      rintro rfl
      exact head?_trimStart_ne (dashRuns false cs) (by rw [hkept]; rfl)
    rw [hkept] at hnil
    exact hfirst (trimEnd_eq_nil_iff.mp hnil c List.mem_cons_self)
  · intro hnil
    rw [hnil]
    rfl

/-- What is tidy already stays as it is. -/
lemma IsTidy.ofLower_eq_self {cs : List Char} (h : IsTidy cs) : ofLower cs = cs := by
  rw [ofLower_eq, dashRuns_eq_self h.isLabelChar_of_mem, trimStart_eq_self h.head?_ne,
    List.take_of_length_le h.length_le, trimEnd_eq_self h.getLast?_ne]

lemma toList_sanitize (raw : String) :
    (sanitize raw).toList = ofLower (Text.lowercase raw).toList := by
  simp only [sanitize, Text.lowercase, String.toList_ofList]

/-- A text that is a label or empty is sanitized into itself. -/
lemma IsTidy.sanitize_eq_self {text : String} (h : IsTidy text.toList) : sanitize text = text := by
  rw [sanitize, lowerChars_eq_self false h.isLabelChar_of_mem, h.ofLower_eq_self,
    String.ofList_toList]

/-- Whatever the text, what is made of it is tidy. -/
lemma isTidy_sanitize (raw : String) : IsTidy (sanitize raw).toList := by
  rw [toList_sanitize]
  exact isTidy_ofLower _

/-- Something is left exactly if the lower case of the text has an alphanumeric character. -/
lemma sanitize_ne_empty_iff {raw : String} :
    sanitize raw ≠ "" ↔ ∃ c ∈ (Text.lowercase raw).toList, isAlphanumeric c = true := by
  rw [Ne, ← String.toList_eq_nil_iff, toList_sanitize, ofLower_eq_nil_iff]
  simp

/-- Two texts with a dash in between make a label exactly if one of them has something to keep. -/
lemma isLabel_sanitize_append_dash_iff {s t : String} :
    IsLabel (sanitize (s ++ "-" ++ t)) ↔
      ∃ c ∈ (Text.lowercase s).toList ++ (Text.lowercase t).toList, isAlphanumeric c = true := by
  have hkept : IsLabel (sanitize (s ++ "-" ++ t)) ↔ sanitize (s ++ "-" ++ t) ≠ "" :=
    ⟨fun h => h.ne_empty, fun h => ⟨isTidy_sanitize _, h⟩⟩
  rw [hkept, sanitize_ne_empty_iff, Text.toList_lowercase_append_dash]
  constructor
  · rintro ⟨c, hc, halpha⟩
    have hne := ne_dash_of_isAlphanumeric halpha
    exact ⟨c, by simpa [hne] using hc, halpha⟩
  · rintro ⟨c, hc, halpha⟩
    refine ⟨c, ?_, halpha⟩
    rcases List.mem_append.mp hc with hstem | hmethod
    · exact List.mem_append_left _ hstem
    · exact List.mem_append_right _ (List.mem_cons_of_mem _ hmethod)

/-! ### Random digits -/

namespace RandomDigits

variable (random : RandomDigits) (length : ℕ)

/-- A suffix is a start of the random digits. -/
lemma toList_suffix : (random.suffix length).toList = random.digits.take length :=
  String.toList_ofList

/-- All characters of a suffix are hexadecimal digits. -/
lemma isHexDigit_of_mem_suffix : ∀ c ∈ (random.suffix length).toList, isHexDigit c = true := by
  intro c hc
  rw [toList_suffix] at hc
  exact random.isHexDigit_of_mem c (List.mem_of_mem_take hc)

lemma isAlphanumeric_of_mem_suffix :
    ∀ c ∈ (random.suffix length).toList, isAlphanumeric c = true :=
  fun c hc => isAlphanumeric_of_isHexDigit (random.isHexDigit_of_mem_suffix length c hc)

lemma isLabelChar_of_mem_suffix : ∀ c ∈ (random.suffix length).toList, isLabelChar c = true :=
  fun c hc => isLabelChar_of_isAlphanumeric (random.isAlphanumeric_of_mem_suffix length c hc)

/-- No character of a suffix is a dash. -/
lemma ne_dash_of_mem_suffix : ∀ c ∈ (random.suffix length).toList, c ≠ '-' :=
  fun c hc => ne_dash_of_isAlphanumeric (random.isAlphanumeric_of_mem_suffix length c hc)

/-- A suffix is in lower case. -/
lemma toList_lowercase_suffix :
    (Text.lowercase (random.suffix length)).toList = (random.suffix length).toList := by
  rw [Text.lowercase, String.toList_ofList]
  exact lowerChars_eq_self false (random.isLabelChar_of_mem_suffix length)

/-- A suffix is as long as asked for, up to the number of random digits. -/
lemma length_toList_suffix : (random.suffix length).toList.length = min length 32 := by
  rw [toList_suffix, List.length_take, random.length_digits]

/-- A suffix of at least one digit is not empty. -/
lemma exists_mem_suffix {length : ℕ} (h : 1 ≤ length) :
    ∃ c, c ∈ (random.suffix length).toList := by
  refine List.exists_mem_of_length_pos ?_
  rw [length_toList_suffix]
  omega

end RandomDigits

/-! ### Names -/

/-- Sanitizing makes of every text a label or the empty text, a label exactly if the lower case form
of the text has a letter or digit of labels, and it leaves what it made as it is.  So a name with
random digits is a label behind every stem, and the name of a test's resource is one unless both the
stem and the method are without such a character. -/
theorem sanitizes_to_label :
    (∀ raw, IsTidy (sanitize raw).toList ∧
      (sanitize raw ≠ "" ↔ ∃ c ∈ (Text.lowercase raw).toList, isAlphanumeric c = true) ∧
      sanitize (sanitize raw) = sanitize raw) ∧
    (∀ stem random length, 1 ≤ length → IsLabel (randomNamespace stem random length)) ∧
    (∀ stem method,
      (∃ c ∈ (Text.lowercase stem).toList ++ (Text.lowercase method).toList,
        isAlphanumeric c = true) → IsLabel (testResource stem method)) := by
  refine ⟨fun raw => ?_, fun stem random length hlength => ?_, fun stem method hkept => ?_⟩
  · exact ⟨isTidy_sanitize raw, sanitize_ne_empty_iff, (isTidy_sanitize raw).sanitize_eq_self⟩
  · obtain ⟨c, hc⟩ := random.exists_mem_suffix hlength
    have hlower : c ∈ (Text.lowercase (random.suffix length)).toList := by
      rwa [random.toList_lowercase_suffix]
    exact isLabel_sanitize_append_dash_iff.mpr ⟨c, List.mem_append_right _ hlower,
      random.isAlphanumeric_of_mem_suffix length c hc⟩
  · exact isLabel_sanitize_append_dash_iff.mpr hkept

/-- The digits of a random number of 128 bits. -/
def Sample.digits : RandomDigits where
  digits := "67e5504410b1426f9247bb680e5fe0c8".toList
  isHexDigit_of_mem := List.all_eq_true.mp (by decide)

/-- The only letter to keep is the lower case form of the sign for kelvin, which itself is none of
the letters of labels. -/
theorem sanitizes_kelvin_sign_to_label :
    1 ≤ 1 ∧ IsLabel (randomNamespace "__" Sample.digits 1) ∧
    (∃ c ∈ (Text.lowercase "__").toList ++ (Text.lowercase "\u212A").toList,
      isAlphanumeric c = true) ∧ IsLabel (testResource "__" "\u212A") := by
  have hkept : ∃ c ∈ (Text.lowercase "__").toList ++ (Text.lowercase "\u212A").toList,
      isAlphanumeric c = true := ⟨'k', by decide +kernel, by decide⟩
  obtain ⟨-, hrandom, hresource⟩ := sanitizes_to_label
  exact ⟨le_rfl, hrandom "__" Sample.digits 1 le_rfl, hkept, hresource "__" "\u212A" hkept⟩

end Label

end BrokerHarness

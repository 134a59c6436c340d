import BrokerHarness.Proofs.Binary64.Decimal
import BrokerHarness.Resource.Quantity
import Mathlib.Tactic.IntervalCases

/-!
# The notation of quantities

A quantity is a decimal number behind an optional sign, followed by a suffix, by an exponent or by
nothing.  It denotes a rational number, its amount.

What is read from such a text is decided at its last digit or point.  No unit holds such a
character, so what stands behind it is a unit as a whole or none at all (`valueWith_of_last`), and
the units cannot be confused, although `Ei` and `E` both start like an exponent.  What stands in
front of it is a number.  So the value of a text without a suffix is that of its number, and the
value of a text with a suffix is a product, or missing if the suffix is no unit
(`Literal.value?_text_of_suffix`).
-/

namespace BrokerHarness.Quantity

/-! ### Grammar -/

/-- The sign in front of a number, if there is one. -/
inductive SignMark
  | absent
  | plus
  | minus
deriving DecidableEq, Repr

namespace SignMark

def text : SignMark → List Char
  | absent => []
  | plus => ['+']
  | minus => ['-']

def apply {α : Type} [Neg α] (sign : SignMark) (x : α) : α :=
  match sign with
  | minus => -x
  | _ => x

end SignMark

/-- The suffixes for powers of 1000 and of 1024. -/
inductive Suffix
  | n | u | m | k | M | G | T | P | E | Ki | Mi | Gi | Ti | Pi | Ei
deriving DecidableEq, Repr

namespace Suffix

def text : Suffix → String
  | n => "n" | u => "u" | m => "m"
  | k => "k" | M => "M" | G => "G" | T => "T" | P => "P" | E => "E"
  | Ki => "Ki" | Mi => "Mi" | Gi => "Gi" | Ti => "Ti" | Pi => "Pi" | Ei => "Ei"

def base : Suffix → ℕ
  | Ki | Mi | Gi | Ti | Pi | Ei => 1024
  | _ => 1000

def power : Suffix → ℤ
  | n => -3 | u => -2 | m => -1
  | k | Ki => 1 | M | Mi => 2 | G | Gi => 3 | T | Ti => 4 | P | Pi => 5 | E | Ei => 6

/-- The number that a suffix stands for. -/
def factor (suffix : Suffix) : ℚ := suffix.base ^ suffix.power

end Suffix

/-- The power of ten behind a number. -/
structure Exponent where
  capital : Bool
  sign : SignMark
  digits : List Char
  all_isDigit : digits.all Char.isDigit = true := by decide
  ne_nil : digits ≠ [] := by decide

namespace Exponent

def text (exponent : Exponent) : List Char :=
  (if exponent.capital then 'E' else 'e') :: (exponent.sign.text ++ exponent.digits)

def value (exponent : Exponent) : ℤ := exponent.sign.apply (Text.digitsValue exponent.digits : ℤ)

lemma isDigit (exponent : Exponent) : ∀ c ∈ exponent.digits, c.isDigit = true :=
  List.all_eq_true.mp exponent.all_isDigit

end Exponent

/-- What stands behind the digits. -/
inductive Ending
  | plain
  | suffix (suffix : Suffix)
  | exponent (exponent : Exponent)

namespace Ending

def text : Ending → List Char
  | plain => []
  | suffix s => s.text.toList
  | exponent x => x.text

def factor : Ending → ℚ
  | plain => 1
  | suffix s => s.factor
  | exponent x => 10 ^ x.value

end Ending

/-- A text of the grammar, taken apart.  There are digits in front of the point or behind it. -/
structure Literal where
  sign : SignMark
  whole : List Char
  fraction : Option (List Char)
  ending : Ending
  all_isDigit_whole : whole.all Char.isDigit = true := by decide
  all_isDigit_fraction : (fraction.getD []).all Char.isDigit = true := by decide
  digits_ne_nil : whole ++ fraction.getD [] ≠ [] := by decide

namespace Literal

/-- All digits, without the point. -/
def digits (literal : Literal) : List Char := literal.whole ++ literal.fraction.getD []

/-- All characters of the whole part are digits. -/
lemma isDigit_whole (literal : Literal) : ∀ c ∈ literal.whole, c.isDigit = true :=
  List.all_eq_true.mp literal.all_isDigit_whole

/-- All characters of the fraction are digits. -/
lemma isDigit_fraction (literal : Literal) : ∀ c ∈ literal.fraction.getD [], c.isDigit = true :=
  List.all_eq_true.mp literal.all_isDigit_fraction

/-- How many of the digits stand behind the point. -/
def places (literal : Literal) : ℕ := (literal.fraction.getD []).length

/-- The digits as they are written. -/
def number (literal : Literal) : List Char :=
  literal.whole ++ (literal.fraction.map ('.' :: ·)).getD []

def text (literal : Literal) : String :=
  String.ofList (literal.sign.text ++ literal.number ++ literal.ending.text)

/-- The number in front of the ending, without its sign. -/
def mantissa (literal : Literal) : ℚ := Text.digitsValue literal.digits / 10 ^ literal.places

/-- The rational number that a text denotes. -/
def amount (literal : Literal) : ℚ :=
  literal.sign.apply (literal.mantissa * literal.ending.factor)

end Literal

/-! ### Numerals -/

/-- Whether a character belongs to a number, and to no unit. -/
def IsNumeral (c : Char) : Prop := c.isDigit = true ∨ c = '.'

instance (c : Char) : Decidable (IsNumeral c) := inferInstanceAs (Decidable (_ ∨ _))

def numerals : List Char := ['0', '1', '2', '3', '4', '5', '6', '7', '8', '9', '.']

namespace IsNumeral

variable {c : Char}

/-- The characters of a number are among these finitely many. -/
lemma mem_numerals (h : IsNumeral c) : c ∈ numerals := by
  rcases h with h | rfl
  · obtain ⟨hge, hle⟩ := Text.toNat_of_isDigit h
    have hc : c = Char.ofNat c.toNat := (Char.ofNat_toNat c).symm
    generalize c.toNat = n at *
    subst hc
    interval_cases n <;> decide
  · decide

/-- What holds of each of the characters that numbers are made of, holds of a character of a number.
-/
lemma of_all {p : Char → Bool} (h : IsNumeral c) (hall : numerals.all p = true) : p c = true :=
  List.all_eq_true.mp hall c h.mem_numerals

lemma not_isBlank (h : IsNumeral c) : Text.isBlank c = false := by
  simpa using h.of_all (p := fun c => !Text.isBlank c) (by decide)

lemma ne_sign (h : IsNumeral c) : c ≠ '-' ∧ c ≠ '+' := by
  simpa using h.of_all (p := fun c => c ≠ '-' ∧ c ≠ '+') (by decide)

/-- No name of a special value starts with a numeral. -/
lemma toLower_ne (h : IsNumeral c) : c.toLower ≠ 'i' ∧ c.toLower ≠ 'n' := by
  simpa using h.of_all (p := fun c => c.toLower ≠ 'i' ∧ c.toLower ≠ 'n') (by decide)

end IsNumeral

/-! ### Units behind a number -/

/-- An ending is taken off exactly a text that ends with it. -/
lemma stripEnd?_eq_some_iff {ending text front : List Char} :
    Text.stripEnd? ending text = some front ↔ text = front ++ ending := by
  unfold Text.stripEnd?
  split
  · rename_i h
    obtain ⟨front', rfl⟩ := List.isSuffixOf_iff_suffix.mp h
    simp [eq_comm]
  · rename_i h
    refine iff_of_false (by simp) ?_
    rintro rfl
    exact h (List.isSuffixOf_iff_suffix.mpr (List.suffix_append _ _))

/-- A unit is stripped from the text that ends in it, where no other unit can be stripped. -/
lemma valueWith_append {front ending : List Char} (table : List (String × Float))
    (h : ∀ unit ∈ table, unit.1.toList <:+ front ++ ending → unit.1.toList = ending) :
    valueWith (front ++ ending) table =
      match table.lookup (String.ofList ending) with
      | some factor => (readNumber front).map (· * factor)
      | none => readNumber (front ++ ending) := by
  induction table with
  | nil => rfl
  | cons unit rest ih =>
    obtain ⟨hunit, hrest⟩ := List.forall_mem_cons.mp h
    obtain ⟨name, factor⟩ := unit
    rw [valueWith, List.lookup_cons]
    by_cases hname : name.toList = ending
    · have hstrip : Text.stripEnd? name.toList (front ++ ending) = some front :=
        stripEnd?_eq_some_iff.mpr (by rw [hname])
      have hmatch : (String.ofList ending == name) = true := by
        rw [beq_iff_eq, ← hname, String.ofList_toList]
      rw [hstrip, hmatch]
    · have hstrip : Text.stripEnd? name.toList (front ++ ending) = none := by
        rw [Option.eq_none_iff_forall_ne_some]
        intro front' hfront
        rw [stripEnd?_eq_some_iff] at hfront
        exact hname (hunit ⟨front', hfront.symm⟩)
      have hmatch : (String.ofList ending == name) = false := by
        rw [beq_eq_false_iff_ne]
        rintro rfl
        exact hname String.toList_ofList
      rw [hstrip, hmatch]
      exact ih hrest

/-- A numeral stands in no unit, so a unit that a text ends in stands behind the last one. -/
lemma suffix_of_isNumeral {front ending unit : List Char} {c : Char}
    (hunit : ∀ d ∈ unit, ¬ IsNumeral d) (hc : IsNumeral c)
    (h : unit <:+ front ++ [c] ++ ending) : unit <:+ ending := by
  rcases List.suffix_or_suffix_of_suffix h (List.suffix_append _ _) with hsuffix | ⟨excess, rfl⟩
  · exact hsuffix
  · have hexcess : excess <:+ front ++ [c] :=
      ((List.suffix_append_inj_of_length_eq rfl).mp h).1
    rcases List.suffix_concat_iff.mp hexcess with rfl | ⟨init, rfl, -⟩
    · exact List.suffix_rfl
    · exact absurd hc (hunit c (by simp))

/-- Units hold no numerals. -/
lemma not_isNumeral_of_mem_units {unit : String × Float} (h : unit ∈ units) :
    ∀ c ∈ unit.1.toList, ¬ IsNumeral c := by
  have hall : units.all (fun unit => unit.1.toList.all fun c => ¬ IsNumeral c) = true := by decide
  simpa using List.all_eq_true.mp hall unit h

/-- A unit that ends the text of a suffix is this suffix. -/
lemma Suffix.eq_of_unit_suffix (s : Suffix) :
    ∀ unit ∈ units, unit.1.toList <:+ s.text.toList → unit.1.toList = s.text.toList := by
  cases s <;> decide

/-- Only a unit without a text ends the empty text. -/
lemma eq_nil_of_unit_suffix : ∀ unit ∈ units, unit.1.toList <:+ [] → unit.1.toList = [] := by
  decide

/-! ### Numbers -/

/-- A number is read without its sign, which is applied to the value. -/
lemma readNumber_append (sign : SignMark) {body : List Char} (hne : body ≠ [])
    (hhead : ∀ c ∈ body.head?, IsNumeral c) :
    readNumber (sign.text ++ body) = (readDecimal body).map sign.apply := by
  obtain ⟨c, rest, rfl⟩ := List.exists_cons_of_ne_nil hne
  have hc : IsNumeral c := hhead c rfl
  obtain ⟨hminus, hplus⟩ := hc.ne_sign
  obtain ⟨hi, hn⟩ := hc.toLower_ne
  have hname : ∀ {d : Char} {name : List Char}, c.toLower ≠ d →
      String.ofList ((c :: rest).map Char.toLower) ≠ String.ofList (d :: name) := by
    intro d name hd heq
    rw [String.ofList_inj, List.map_cons] at heq
    exact hd (List.cons.inj heq).1
  have hinf : String.ofList ((c :: rest).map Char.toLower) ≠ "inf" := hname hi
  have hinfinity : String.ofList ((c :: rest).map Char.toLower) ≠ "infinity" := hname hi
  have hnan : String.ofList ((c :: rest).map Char.toLower) ≠ "nan" := hname hn
  have hmagnitude : ∀ f : Float → Float,
      (if String.ofList ((c :: rest).map Char.toLower) = "inf" ∨
          String.ofList ((c :: rest).map Char.toLower) = "infinity" then some (1.0 / 0.0)
        else if String.ofList ((c :: rest).map Char.toLower) = "nan" then some (0.0 / 0.0)
        else readDecimal (c :: rest)).map f = (readDecimal (c :: rest)).map f := by
    intro f
    rw [if_neg (not_or.mpr ⟨hinf, hinfinity⟩), if_neg hnan]
  cases sign with
  | absent =>
    rw [SignMark.text, List.nil_append]
    unfold readNumber
    split
    rename_i hsplit
    split at hsplit
    · rename_i heq
      exact absurd (List.cons.inj heq).1 hminus
    · rename_i heq
      exact absurd (List.cons.inj heq).1 hplus
    · cases hsplit
      exact hmagnitude _
  | plus => exact hmagnitude _
  | minus => exact hmagnitude _

/-- An exponent is read with its sign. -/
lemma readExponent_append (sign : SignMark) {digits : List Char}
    (hdigits : ∀ c ∈ digits, c.isDigit = true) (hne : digits ≠ []) :
    readExponent (sign.text ++ digits) = some (sign.apply (Text.digitsValue digits : ℤ)) := by
  obtain ⟨c, rest, rfl⟩ := List.exists_cons_of_ne_nil hne
  have hc : IsNumeral c := Or.inl (hdigits c List.mem_cons_self)
  obtain ⟨hminus, hplus⟩ := hc.ne_sign
  have hall : ¬ ((c :: rest).isEmpty ∨ ¬ (c :: rest).all Char.isDigit) := by
    simpa [List.all_eq_true] using hdigits
  cases sign with
  | absent =>
    rw [SignMark.text, List.nil_append]
    unfold readExponent
    split
    rename_i hsplit
    split at hsplit
    · rename_i heq
      exact absurd (List.cons.inj heq).1 hminus
    · rename_i heq
      exact absurd (List.cons.inj heq).1 hplus
    · cases hsplit
      exact if_neg hall
  | plus => exact if_neg hall
  | minus => exact if_neg hall

/-- Digits are taken up to the first character that is none. -/
lemma takeWhile_isDigit {digits rest : List Char} (hdigits : ∀ c ∈ digits, c.isDigit = true)
    (hrest : ∀ c ∈ rest.head?, c.isDigit = false) :
    (digits ++ rest).takeWhile Char.isDigit = digits ∧
      (digits ++ rest).dropWhile Char.isDigit = rest := by
  rw [List.takeWhile_append_of_pos hdigits, List.dropWhile_append_of_pos hdigits]
  cases rest with
  | nil => simp
  | cons c rest =>
    have hc := Bool.eq_false_iff.mp (hrest c rfl)
    rw [List.takeWhile_cons_of_neg hc, List.dropWhile_cons_of_neg hc, List.append_nil]
    exact ⟨rfl, rfl⟩

/-- The exponent behind the digits, which only an `e` can stand for. -/
def readTail : List Char → Option ℤ
  | [] => some 0
  | c :: rest => if c = 'e' ∨ c = 'E' then readExponent rest else none

/-- Digits with a point between them are read, and then what is behind them. -/
lemma readDecimal_eq (point : Bool) {cs whole digits tail : List Char}
    (hwhole : cs.takeWhile Char.isDigit = whole)
    (hbehind : cs.dropWhile Char.isDigit = if point then '.' :: (digits ++ tail) else tail)
    (hdigits : ∀ c ∈ digits, c.isDigit = true) (hpoint : point = false → digits = [])
    (htail : ∀ c ∈ tail.head?, ¬ IsNumeral c) (hne : whole ++ digits ≠ []) :
    readDecimal cs = (readTail tail).map fun exponent =>
      Binary64.toFloat (Binary64.ofDecimal (whole ++ digits) (exponent - digits.length)) := by
  have hdigit : ∀ c ∈ tail.head?, c.isDigit = false := fun c hc =>
    Bool.eq_false_iff.mpr fun h => htail c hc (Or.inl h)
  obtain ⟨htake, hdrop⟩ := takeWhile_isDigit hdigits hdigit
  unfold readDecimal
  extract_lets whole' behind'
  have hwhole' : whole' = whole := hwhole
  have hbehind' : behind' = if point then '.' :: (digits ++ tail) else tail := hbehind
  clear_value whole' behind'
  subst hwhole'
  split
  rename_i fraction behind hsplit
  have hparts : fraction = digits ∧ behind = tail := by
    split at hsplit
    · cases point with
      | true =>
        obtain rfl := (List.cons.inj hbehind').2
        rw [htake, hdrop] at hsplit
        exact Prod.mk.inj hsplit.symm
      | false => exact absurd (Or.inr rfl) (htail '.' (by rw [← show _ = tail from hbehind']; rfl))
    · rename_i hno_point
      cases point with
      | true => exact absurd hbehind' (hno_point _)
      | false =>
        obtain ⟨hfraction, hrest⟩ := Prod.mk.inj hsplit
        exact ⟨hfraction.symm.trans (hpoint rfl).symm, hrest.symm.trans hbehind'⟩
  obtain ⟨rfl, rfl⟩ := hparts
  have hnonempty : ¬ (whole'.isEmpty = true ∧ fraction.isEmpty = true) := by
    simpa using hne
  rw [if_neg hnonempty]
  cases behind with
  | nil => rfl
  | cons c rest =>
    rw [readTail]
    by_cases hmark : c = 'e' ∨ c = 'E'
    · simp only [if_pos hmark]
      cases readExponent rest <;> rfl
    · simp only [if_neg hmark]
      rfl

/-- A number is read up to the first character that is no part of one, and what follows is its
exponent. -/
lemma readDecimal_append (literal : Literal) {tail : List Char}
    (htail : ∀ c ∈ tail.head?, ¬ IsNumeral c) :
    readDecimal (literal.number ++ tail) =
      (readTail tail).map fun exponent =>
        Binary64.toFloat (Binary64.ofDecimal literal.digits (exponent - literal.places)) := by
  obtain ⟨sign, whole, fraction, ending, hwhole, hfraction, hne⟩ := literal
  rw [List.all_eq_true] at hwhole hfraction
  cases fraction with
  | none =>
    have hdigit : ∀ c ∈ tail.head?, c.isDigit = false := fun c hc =>
      Bool.eq_false_iff.mpr fun h => htail c hc (Or.inl h)
    obtain ⟨htake, hdrop⟩ := takeWhile_isDigit hwhole hdigit
    refine readDecimal_eq false ?_ ?_ hfraction (fun _ => rfl) htail hne
    · simpa [Literal.number] using htake
    · simpa [Literal.number] using hdrop
  | some digits =>
    have hpoint : ∀ c ∈ ('.' :: (digits ++ tail)).head?, c.isDigit = false := by simp
    obtain ⟨htake, hdrop⟩ := takeWhile_isDigit hwhole hpoint
    refine readDecimal_eq true ?_ ?_ hfraction (by simp) htail hne
    · simpa [Literal.number] using htake
    · simpa [Literal.number] using hdrop

/-! ### Texts -/

namespace Ending

/-- The power of ten that is read with the digits. -/
def shift : Ending → ℤ
  | exponent x => x.value
  | _ => 0

end Ending

namespace Literal

variable {literal : Literal}

/-- The value of the number in front of a suffix. -/
def front (literal : Literal) : Float :=
  literal.sign.apply
    (Binary64.toFloat (Binary64.ofDecimal literal.digits (literal.ending.shift - literal.places)))

lemma isNumeral_number (literal : Literal) : ∀ c ∈ literal.number, IsNumeral c := by
  obtain ⟨sign, whole, fraction, ending, hwhole, hfraction, hne⟩ := literal
  rw [List.all_eq_true] at hwhole hfraction
  cases fraction with
  | none =>
    intro c hc
    rw [number, Option.map_none, Option.getD_none, List.append_nil] at hc
    exact Or.inl (hwhole c hc)
  | some digits =>
    intro c hc
    simp only [number, Option.map_some, Option.getD_some, List.mem_append, List.mem_cons] at hc
    rcases hc with hc | rfl | hc
    · exact Or.inl (hwhole c hc)
    · exact Or.inr rfl
    · exact Or.inl (hfraction c hc)

/-- A number has at least one digit. -/
lemma number_ne_nil (literal : Literal) : literal.number ≠ [] := by
  obtain ⟨sign, whole, fraction, ending, -, -, hne⟩ := literal
  cases fraction with
  | none => simpa [number] using hne
  | some digits => simp [number]

/-- The number in front of the ending, with its sign, is read as such. -/
lemma readNumber_append_number (literal : Literal) {tail : List Char}
    (htail : ∀ c ∈ tail.head?, ¬ IsNumeral c) :
    readNumber (literal.sign.text ++ literal.number ++ tail) =
      (readTail tail).map fun exponent => literal.sign.apply
        (Binary64.toFloat (Binary64.ofDecimal literal.digits (exponent - literal.places))) := by
  have hne : literal.number ++ tail ≠ [] := by
    simp [literal.number_ne_nil]
  have hhead : ∀ c ∈ (literal.number ++ tail).head?, IsNumeral c := by
    intro c hc
    rw [List.head?_append_of_ne_nil _ literal.number_ne_nil] at hc
    exact literal.isNumeral_number c (List.mem_of_mem_head? hc)
  rw [List.append_assoc, readNumber_append _ hne hhead, readDecimal_append literal htail,
    Option.map_map]
  rfl

end Literal

/-- Behind a last numeral, an ending is read as a whole. -/
lemma valueWith_of_last {front ending : List Char} {c : Char} (hc : IsNumeral c)
    (hlast : c ∈ front.getLast?)
    (h : ∀ unit ∈ units, unit.1.toList <:+ ending → unit.1.toList = ending) :
    valueWith (front ++ ending) units =
      match units.lookup (String.ofList ending) with
      | some factor => (readNumber front).map (· * factor)
      | none => readNumber (front ++ ending) := by
  obtain ⟨init, rfl⟩ := List.getLast?_eq_some_iff.mp hlast
  refine valueWith_append units fun unit hunit hsuffix => h unit hunit ?_
  exact suffix_of_isNumeral (not_isNumeral_of_mem_units hunit) hc hsuffix

/-- A suffix does not begin like a number goes on. -/
lemma Suffix.head_not_isNumeral (s : Suffix) : ∀ c ∈ s.text.toList.head?, ¬ IsNumeral c := by
  have hall : s.text.toList.head?.all (fun c => ¬ IsNumeral c) = true := by cases s <;> decide
  simpa [Option.all_eq_true] using hall

/-- An exponent does not begin like a number goes on. -/
lemma Exponent.head_not_isNumeral (x : Exponent) : ∀ c ∈ x.text.head?, ¬ IsNumeral c := by
  intro c hc
  rw [Exponent.text, List.head?_cons, Option.mem_some_iff] at hc
  subst hc
  cases x.capital <;> decide

/-- An exponent is read behind its number. -/
lemma Exponent.readTail_text (x : Exponent) : readTail x.text = some x.value := by
  have hmark : (if x.capital then 'E' else 'e') = 'e' ∨ (if x.capital then 'E' else 'e') = 'E' := by
    cases x.capital <;> decide
  rw [Exponent.text, readTail, if_pos hmark, readExponent_append x.sign x.isDigit x.ne_nil]
  rfl

/-- A suffix is no exponent. -/
lemma Suffix.readTail_text (s : Suffix) : readTail s.text.toList = none := by
  cases s <;> rfl

/-! ### White space -/

/-- Without blanks there is nothing to trim. -/
lemma trim_eq_self {cs : List Char} (h : ∀ c ∈ cs, Text.isBlank c = false) : Text.trim cs = cs := by
  have hstart : ∀ {cs : List Char}, (∀ c ∈ cs, Text.isBlank c = false) →
      Text.trimStart cs = cs := by
    intro cs h
    cases cs with
    | nil => rfl
    | cons c rest =>
      exact List.dropWhile_cons_of_neg (Bool.eq_false_iff.mp (h c List.mem_cons_self))
  rw [Text.trim, hstart h, hstart fun c hc => h c (List.mem_reverse.mp hc), List.reverse_reverse]

/-- A sign is no blank. -/
lemma SignMark.not_isBlank (sign : SignMark) : ∀ c ∈ sign.text, Text.isBlank c = false := by
  have hall : sign.text.all (fun c => !Text.isBlank c) = true := by cases sign <;> decide
  simpa using hall

/-- An exponent has no blanks. -/
lemma Exponent.not_isBlank (x : Exponent) : ∀ c ∈ x.text, Text.isBlank c = false := by
  intro c hc
  rw [Exponent.text, List.mem_cons, List.mem_append] at hc
  rcases hc with rfl | hc | hc
  · cases x.capital <;> decide
  · exact x.sign.not_isBlank c hc
  · exact IsNumeral.not_isBlank (Or.inl (x.isDigit c hc))

/-- An ending has no blanks. -/
lemma Ending.not_isBlank (ending : Ending) : ∀ c ∈ ending.text, Text.isBlank c = false := by
  cases ending with
  | plain => simp [Ending.text]
  | suffix s =>
    have hall : s.text.toList.all (fun c => !Text.isBlank c) = true := by cases s <;> decide
    simpa [Ending.text] using hall
  | exponent x => exact x.not_isBlank

/-! ### Values of texts -/

namespace Literal

variable {literal : Literal}

/-- The text of a literal has no blanks, so all of it is read. -/
lemma value?_text_eq (literal : Literal) :
    value? literal.text =
      valueWith (literal.sign.text ++ literal.number ++ literal.ending.text) units := by
  rw [value?, text, String.toList_ofList, trim_eq_self]
  intro c hc
  rw [List.mem_append, List.mem_append] at hc
  rcases hc with (hc | hc) | hc
  · exact literal.sign.not_isBlank c hc
  · exact (literal.isNumeral_number c hc).not_isBlank
  · exact literal.ending.not_isBlank c hc

/-- A text that ends with a number has a last character that belongs to it. -/
lemma exists_isNumeral_getLast? (front : List Char) {cs : List Char} (hne : cs ≠ [])
    (h : ∀ c ∈ cs, IsNumeral c) : ∃ c, IsNumeral c ∧ c ∈ (front ++ cs).getLast? := by
  refine ⟨cs.getLast hne, h _ (List.getLast_mem hne), ?_⟩
  rw [List.getLast?_append_of_ne_nil _ hne, List.getLast?_eq_some_getLast hne]
  rfl

/-- A text without a suffix denotes a number. -/
lemma value?_text_of_unsuffixed (h : ∀ s, literal.ending ≠ .suffix s) :
    value? literal.text = some literal.front := by
  obtain ⟨c, hc, hlast⟩ : ∃ c, IsNumeral c ∧
      c ∈ (literal.sign.text ++ literal.number ++ literal.ending.text).getLast? := by
    cases hending : literal.ending with
    | plain =>
      rw [Ending.text, List.append_nil]
      exact exists_isNumeral_getLast? _ literal.number_ne_nil literal.isNumeral_number
    | suffix s => exact absurd hending (h s)
    | exponent x =>
      have hsplit : literal.sign.text ++ literal.number ++ x.text =
          (literal.sign.text ++ literal.number ++
            (if x.capital then 'E' else 'e') :: x.sign.text) ++ x.digits := by
        rw [Exponent.text, List.append_assoc _ (_ :: x.sign.text), List.cons_append]
      rw [Ending.text, hsplit]
      exact exists_isNumeral_getLast? _ x.ne_nil fun c hc => Or.inl (x.isDigit c hc)
  have htail : (∀ c ∈ literal.ending.text.head?, ¬ IsNumeral c) ∧
      readTail literal.ending.text = some literal.ending.shift := by
    cases hending : literal.ending with
    | plain => exact ⟨by simp [Ending.text], rfl⟩
    | suffix s => exact absurd hending (h s)
    | exponent x => exact ⟨x.head_not_isNumeral, x.readTail_text⟩
  have hvalue := valueWith_of_last hc hlast eq_nil_of_unit_suffix
  have hlookup : units.lookup (String.ofList []) = none := rfl
  rw [hlookup, List.append_nil] at hvalue
  rw [value?_text_eq, hvalue, literal.readNumber_append_number htail.1, htail.2]
  rfl

/-- A text with a suffix denotes a multiple of the unit, if there is one. -/
lemma value?_text_of_suffix {s : Suffix} (h : literal.ending = .suffix s) :
    value? literal.text = (units.lookup s.text).map (literal.front * ·) := by
  obtain ⟨c, hc, hlast⟩ := exists_isNumeral_getLast? literal.sign.text literal.number_ne_nil
    literal.isNumeral_number
  have hvalue := valueWith_of_last hc hlast s.eq_of_unit_suffix
  rw [value?_text_eq, h, Ending.text, hvalue, String.ofList_toList]
  cases hlookup : units.lookup s.text with
  | none =>
    simp only
    rw [literal.readNumber_append_number s.head_not_isNumeral, s.readTail_text]
    rfl
  | some factor =>
    have hend : ∀ c ∈ ([] : List Char).head?, ¬ IsNumeral c := by simp
    have hnumber := literal.readNumber_append_number hend
    rw [List.append_nil] at hnumber
    simp only
    rw [hnumber, front, h]
    rfl

end Literal

end BrokerHarness.Quantity

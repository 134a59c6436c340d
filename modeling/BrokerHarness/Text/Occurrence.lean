/-!
# Occurrences in texts

Whether a text occurs in another, at its start or at its end.
-/

namespace BrokerHarness.Text

/-- Whether `fragment` occurs somewhere in a text. -/
def occursIn (fragment : List Char) : List Char → Bool
  | [] => fragment.isEmpty
  | c :: rest => fragment.isPrefixOf (c :: rest) || occursIn fragment rest

/-- An occurrence is a part of the text with something, perhaps nothing, on either side. -/
theorem occursIn_iff {fragment text : List Char} :
    occursIn fragment text = true ↔ fragment <:+: text := by
  induction text with
  | nil => simp [occursIn]
  | cons c rest ih =>
    rw [occursIn, Bool.or_eq_true, List.isPrefixOf_iff_prefix, ih, List.infix_cons_iff]

/-- Whether a text starts with `stem`. -/
def startsWith (stem text : String) : Bool := stem.toList.isPrefixOf text.toList

/-- The text in front of `ending`, if the text ends so. -/
def stripEnd? (ending text : List Char) : Option (List Char) :=
  if ending.isSuffixOf text then some (text.take (text.length - ending.length)) else none

end BrokerHarness.Text

import BrokerHarness.Text.LetterCase

/-!
# Lower case of texts

The full lower case mapping: `İ` becomes two characters, and a capital sigma becomes the final form
at the end of a word.
-/

namespace BrokerHarness.Text

/-- The lower case form of one character, wherever it stands. -/
def lowerChar (c : Char) : List Char :=
  if c = 'İ' then ['i', '\u0307'] else [Char.ofNat (lowerCode lowerRuns c.toNat)]

/-- Whether the first character that the search does not pass over is a letter with case. -/
def startsCased (cs : List Char) : Bool :=
  match cs.dropWhile isCaseIgnorable with
  | [] => false
  | c :: _ => isCased c

/-- The lower case form of a text behind other text. `cased` tells whether the last character before
it that the search does not pass over is a letter with case; a capital sigma is final if it stands
behind such a letter and not before one. -/
def lowerChars (cased : Bool) : List Char → List Char
  | [] => []
  | c :: rest =>
    let form := if c = 'Σ' ∧ cased ∧ startsCased rest = false then ['ς'] else lowerChar c
    form ++ lowerChars (if isCaseIgnorable c then cased else isCased c) rest

/-- The lower case form of a text. -/
def lowercase (s : String) : String := String.ofList (lowerChars false s.toList)

end BrokerHarness.Text

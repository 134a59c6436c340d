import BrokerHarness.Text.Lowercase

/-!
# Labels and object names

Names of test objects have to be labels: at most 63 characters, of which each is a lower case letter
of `a` to `z`, a digit or a dash, with no dash at either end. `Label.sanitize` makes a label of any
text that has a letter or digit to keep.
-/

namespace BrokerHarness.Label

/-- The greatest length of a label. -/
def maxLength : Nat := 63

/-- Whether a label may hold a character. -/
def isLabelChar (c : Char) : Bool :=
  ('a' ≤ c && c ≤ 'z') || ('0' ≤ c && c ≤ '9') || c = '-'

/-- Replaces every run of characters that a label cannot hold by one dash. `inRun` tells whether the
text follows on such a character. -/
def dashRuns (inRun : Bool) : List Char → List Char
  | [] => []
  | c :: rest =>
    if isLabelChar c then c :: dashRuns false rest
    else if inRun then dashRuns true rest
    else '-' :: dashRuns true rest

/-- The text without dashes at its start. -/
def trimStart (cs : List Char) : List Char := cs.dropWhile (· = '-')

/-- The text without dashes at its end. -/
def trimEnd (cs : List Char) : List Char := (trimStart cs.reverse).reverse

/-- The label that a text in lower case is made into: runs of other characters become dashes, dashes
at the ends go, and what is left is cut to the greatest length, again without dashes at its end. -/
def ofLower (cs : List Char) : List Char :=
  trimEnd ((trimEnd (trimStart (dashRuns false cs))).take maxLength)

/-- The label that a text is made into. -/
def sanitize (raw : String) : String :=
  String.ofList (ofLower (Text.lowerChars false raw.toList))

/-! ### Names of test objects -/

/-- Whether a character is a hexadecimal digit in lower case. -/
def isHexDigit (c : Char) : Bool := ('0' ≤ c && c ≤ '9') || ('a' ≤ c && c ≤ 'f')

/-- Random hexadecimal digits, drawn anew for each name: as many as a number of 128 bits has. -/
structure RandomDigits where
  digits : List Char
  length_digits : digits.length = 32 := by decide
  isHexDigit_of_mem : ∀ c ∈ digits, isHexDigit c = true := by decide

/-- The first `length` of the random digits, all of them if there are fewer. -/
def RandomDigits.suffix (random : RandomDigits) (length : Nat) : String :=
  String.ofList (random.digits.take length)

/-- A name for a namespace of its own: the stem and random digits. -/
def randomNamespace (stem : String) (random : RandomDigits) (length : Nat) : String :=
  sanitize (stem ++ "-" ++ random.suffix length)

/-- The name of a test's resource: the stem and the name of the test method. -/
def testResource (stem method : String) : String := sanitize (stem ++ "-" ++ method)

/-! ### Names of a broker's dependents -/

/-- What follows a broker's name in the name of its stateful set. -/
def statefulSetEnding : String := "-ss"

/-- What the names of all claims of a broker start with. -/
def volumeClaimStem (broker : String) : String :=
  broker ++ "-" ++ broker ++ statefulSetEnding ++ "-"

/-- The name of the claim of a broker's replica. -/
def volumeClaim (broker : String) (ordinal : Nat) : String :=
  volumeClaimStem broker ++ toString ordinal

/-- The name of the pod of a broker's replica. -/
def brokerPod (broker : String) (ordinal : Nat) : String :=
  broker ++ statefulSetEnding ++ "-" ++ toString ordinal

end BrokerHarness.Label

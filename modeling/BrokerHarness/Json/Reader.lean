import BrokerHarness.Json.Document

/-!
# Reading JSON

The reader accepts exactly the JSON grammar. Parts that follow the grammar without denoting a value
are unreadable parts of the document: lists and objects inside of 127 others, numbers beyond the
range of binary64, and texts with an escaped surrogate that is not one half of a pair.
-/

namespace BrokerHarness.Json

/-- Whether a character may stand between tokens. -/
def isSpace (c : Char) : Bool := c = ' ' || c = '\n' || c = '\t' || c = '\r'

/-- The characters from the first that is no blank on. -/
def skipSpace (cs : List Char) : List Char := cs.dropWhile isSpace

/-! ### Texts -/

/-- The value of a hexadecimal digit. -/
def hexDigit? (c : Char) : Option Nat :=
  let n := c.toNat
  if '0'.toNat ≤ n ∧ n ≤ '9'.toNat then some (n - '0'.toNat)
  else if 'a'.toNat ≤ n ∧ n ≤ 'f'.toNat then some (n - 'a'.toNat + 10)
  else if 'A'.toNat ≤ n ∧ n ≤ 'F'.toNat then some (n - 'A'.toNat + 10)
  else none

/-- The value of four hexadecimal digits. -/
def hexValue? (a b c d : Char) : Option Nat := do
  let a ← hexDigit? a
  let b ← hexDigit? b
  let c ← hexDigit? c
  let d ← hexDigit? d
  return ((a * 16 + b) * 16 + c) * 16 + d

/-- The character that a backslash and a letter stand for. -/
def escaped? : Char → Option Char
  | '"' => some '"'
  | '\\' => some '\\'
  | '/' => some '/'
  | 'b' => some '\x08'
  | 'f' => some '\x0c'
  | 'n' => some '\n'
  | 'r' => some '\r'
  | 't' => some '\t'
  | _ => none

/-- Reads a text behind its opening quote, as the numbers of its characters. The number of an
escaped character may be one half of a surrogate pair. -/
def readCodes (acc : List Nat) : List Char → Option (List Nat × List Char)
  | '"' :: rest => some (acc.reverse, rest)
  | '\\' :: 'u' :: a :: b :: c :: d :: rest =>
    match hexValue? a b c d with
    | some n => readCodes (n :: acc) rest
    | none => none
  | '\\' :: letter :: rest =>
    match escaped? letter with
    | some c => readCodes (c.toNat :: acc) rest
    | none => none
  | c :: rest => if 0x20 ≤ c.toNat then readCodes (c.toNat :: acc) rest else none
  | [] => none

/-- Whether a number is the first half of a surrogate pair. -/
def isHighSurrogate (n : Nat) : Bool := 0xD800 ≤ n && n < 0xDC00

/-- Whether a number is the second half of a surrogate pair. -/
def isLowSurrogate (n : Nat) : Bool := 0xDC00 ≤ n && n < 0xE000

/-- The text of the characters with the given numbers, behind those in `acc` in reverse. Two halves
of a surrogate pair are one character, and a half without the other is none. -/
def textOf? (acc : List Char) : List Nat → Option String
  | [] => some (String.ofList acc.reverse)
  | n :: codes =>
    if isHighSurrogate n then
      match codes with
      | low :: codes =>
        if isLowSurrogate low then
          textOf? (Char.ofNat (0x10000 + (n - 0xD800) * 0x400 + (low - 0xDC00)) :: acc) codes
        else none
      | [] => none
    else if isLowSurrogate n then none
    else textOf? (Char.ofNat n :: acc) codes

/-- Reads a text behind its opening quote. It may denote none. -/
def readString (cs : List Char) : Option (Option String × List Char) := do
  let (codes, rest) ← readCodes [] cs
  return (textOf? [] codes, rest)

/-! ### Numbers -/

/-- Reads the fraction of a number: its digits, none if there is no point. -/
def readFraction : List Char → Option (List Char × List Char)
  | '.' :: rest =>
    let digits := rest.takeWhile Char.isDigit
    if digits.isEmpty then none else some (digits, rest.dropWhile Char.isDigit)
  | rest => some ([], rest)

/-- Reads the exponent of a number, if there is one. -/
def readExponent : List Char → Option (Option Int × List Char)
  | c :: rest =>
    if c = 'e' ∨ c = 'E' then
      let (negative, rest) := match rest with
        | '-' :: rest => (true, rest)
        | '+' :: rest => (false, rest)
        | rest => (false, rest)
      let digits := rest.takeWhile Char.isDigit
      if digits.isEmpty then none
      else
        let n : Int := Text.digitsValue digits
        some (some (if negative then -n else n), rest.dropWhile Char.isDigit)
    else some (none, c :: rest)
  | [] => some (none, [])

/-- Reads a number. It may be too great. -/
def readNumber (cs : List Char) : Option (Option Number × List Char) := do
  let (negative, cs) := match cs with
    | '-' :: rest => (true, rest)
    | rest => (false, rest)
  let whole := cs.takeWhile Char.isDigit
  if whole.isEmpty ∨ (whole.head? = some '0' ∧ 1 < whole.length) then none
  else
    let (fraction, cs) ← readFraction (cs.dropWhile Char.isDigit)
    let (exponent, cs) ← readExponent cs
    return (Number.ofDigits? negative whole fraction exponent, cs)

/-! ### Documents -/

/-- The number of lists and objects that may be nested. -/
def greatestDepth : Nat := 127

namespace Document

/-- A list or an object at a place where `depth` of them may be nested. -/
def nested (depth : Nat) (d : Document) : Document := if depth = 0 then .unreadable else d

/-- The text or the number that was read, if it denotes one. -/
def denoted {α : Type} (make : α → Document) : Option α → Document
  | some a => make a
  | none => .unreadable

mutual

/-- Reads a document inside of which `depth` lists or objects may be nested. Every call reads a
character or ends a list of documents, so twice the number of characters is fuel enough. -/
def readValue : (fuel depth : Nat) → List Char → Option (Document × List Char)
  | 0, _, _ => none
  | fuel + 1, depth, cs =>
    match skipSpace cs with
    | 'n' :: 'u' :: 'l' :: 'l' :: rest => some (.null, rest)
    | 't' :: 'r' :: 'u' :: 'e' :: rest => some (.bool true, rest)
    | 'f' :: 'a' :: 'l' :: 's' :: 'e' :: rest => some (.bool false, rest)
    | '"' :: rest => (readString rest).map fun (s, rest) => (denoted .string s, rest)
    | '[' :: rest =>
      match skipSpace rest with
      | ']' :: rest => some (nested depth (.array []), rest)
      | rest =>
        (readItems fuel (depth - 1) [] rest).map fun (items, rest) =>
          (nested depth (.array items), rest)
    | '{' :: rest =>
      match skipSpace rest with
      | '}' :: rest => some (nested depth (.object []), rest)
      | rest =>
        (readFields fuel (depth - 1) [] rest).map fun (fields, rest) =>
          (nested depth (.object fields), rest)
    | cs => (readNumber cs).map fun (n, rest) => (denoted .number n, rest)

/-- Reads the items of a list that is not empty, and its closing bracket. The items in front of them
are in `acc` in reverse. -/
def readItems : (fuel depth : Nat) → List Document → List Char →
    Option (List Document × List Char)
  | 0, _, _, _ => none
  | fuel + 1, depth, acc, cs => do
    let (d, rest) ← readValue fuel depth cs
    match skipSpace rest with
    | ']' :: rest => return ((d :: acc).reverse, rest)
    | ',' :: rest => readItems fuel depth (d :: acc) rest
    | _ => none

/-- Reads the fields of an object that is not empty, and its closing brace. The fields in front of
them are in `acc` in reverse. -/
def readFields : (fuel depth : Nat) → List (Option String × Document) → List Char →
    Option (List (Option String × Document) × List Char)
  | 0, _, _, _ => none
  | fuel + 1, depth, acc, cs =>
    match skipSpace cs with
    | '"' :: rest => do
      let (key, rest) ← readString rest
      match skipSpace rest with
      | ':' :: rest =>
        let (d, rest) ← readValue fuel depth rest
        match skipSpace rest with
        | '}' :: rest => return (((key, d) :: acc).reverse, rest)
        | ',' :: rest => readFields fuel depth ((key, d) :: acc) rest
        | _ => none
      | _ => none
    | _ => none

end

/-- The document that a text is, if it follows the grammar. -/
def parse? (text : String) : Option Document := do
  let cs := text.toList
  let (d, rest) ← readValue (2 * cs.length + 2) greatestDepth cs
  if (skipSpace rest).isEmpty then some d else none

end Document

/-- The value that a text denotes, if it is JSON. -/
def parse? (text : String) : Option Json := (Document.parse? text).bind Document.value?

end BrokerHarness.Json

import BrokerHarness.Json.Basic

/-!
# Text of JSON values

Values are written without blanks. A binary64 value is written with the fewest digits that denote
it, and an exponent.
-/

namespace BrokerHarness.Json

/-- A character inside a JSON text: a backslash escapes the quote, the backslash and the control
characters, and every other character stands for itself. -/
def escapeChar (c : Char) : String :=
  if c = '"' then "\\\""
  else if c = '\\' then "\\\\"
  else if c.toNat < 0x20 then
    let digits := Nat.toDigits 16 c.toNat
    "\\u" ++ String.ofList (List.replicate (4 - digits.length) '0' ++ digits)
  else c.toString

/-- A text between quotes. -/
def renderString (s : String) : String :=
  "\"" ++ s.foldl (fun acc c => acc ++ escapeChar c) "" ++ "\""

/-- The text of a number. -/
def Number.render : Number → String
  | .int n => toString n
  | .float negative word =>
    let (digits, exponent) := Binary64.toDecimal word
    (if negative then "-" else "") ++ toString digits ++ "e" ++ toString exponent

mutual

/-- The text of a value. -/
def render : Json → String
  | .null => "null"
  | .bool true => "true"
  | .bool false => "false"
  | .number n => n.render
  | .string s => renderString s
  | .array [] => "[]"
  | .array (v :: items) => "[" ++ render v ++ renderItems items
  | .object [] => "\x7b\x7d"
  | .object ((k, v) :: fields) =>
    "\x7b" ++ renderString k ++ ":" ++ render v ++ renderFields fields

/-- The text of the items behind the first, and the closing bracket. -/
def renderItems : List Json → String
  | [] => "]"
  | v :: items => "," ++ render v ++ renderItems items

/-- The text of the fields behind the first, and the closing brace. -/
def renderFields : List (String × Json) → String
  | [] => "\x7d"
  | (k, v) :: fields => "," ++ renderString k ++ ":" ++ render v ++ renderFields fields

end

end BrokerHarness.Json

import BrokerHarness.Text.NonGraphic

/-!
# Quoted texts

A text in double quotes, with a backslash before what would end or garble it.
-/

namespace BrokerHarness.Text

/-- The character inside quotes: a backslash and a letter for the quote, the backslash and the
common control characters, the code point in braces for a character without a graphic, else
itself. -/
def quoteChar (c : Char) : String :=
  if c = '"' then "\\\""
  else if c = '\\' then "\\\\"
  else if c = '\n' then "\\n"
  else if c = '\r' then "\\r"
  else if c = '\t' then "\\t"
  else if c = '\x00' then "\\0"
  else if isNonGraphic c then
    "\\u\x7b" ++ String.ofList (Nat.toDigits 16 c.toNat) ++ "\x7d"
  else c.toString

/-- The text between double quotes. -/
def quoted (s : String) : String := "\"" ++ String.join (s.toList.map quoteChar) ++ "\""

/-- A list of texts: each in quotes, separated by commas, between brackets. -/
def quotedList (l : List String) : String := "[" ++ ", ".intercalate (l.map quoted) ++ "]"

end BrokerHarness.Text

import Mqtt.Text.Unprintable

/-!
# Quoted texts

A text between double quotes, in which every character can be told from every other: quotes and
backslashes are escaped, and what cannot be seen is written by name or by number.
-/

namespace Mqtt.Text

/-- The number of a character in lower-case hexadecimal, without leading zeros. -/
def hexNumber (c : Char) : String :=
  String.ofList (Nat.toDigits 16 c.toNat)

/-- How a quoted text shows one character. -/
def quoteChar (c : Char) : String :=
  if c = '"' then "\\\""
  else if c = '\\' then "\\\\"
  else if c = '\t' then "\\t"
  else if c = '\n' then "\\n"
  else if c = '\r' then "\\r"
  else if c = Char.ofNat 0 then "\\0"
  else if isUnprintable c then "\\u\x7b" ++ hexNumber c ++ "\x7d"
  else c.toString

/-- A text between double quotes. -/
def quote (s : String) : String :=
  "\"" ++ String.join (s.toList.map quoteChar) ++ "\""

end Mqtt.Text

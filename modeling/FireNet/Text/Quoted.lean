/-
Quoted text, as messages show a value that somebody typed: between double
quotes, with backslash escapes for the quote, the backslash and the common
controls, and by code point for every other character that has no glyph
of its own.
-/
import FireNet.Text.Hidden
import FireNet.Text.Utf8

set_option autoImplicit false

namespace FireNet.Text

/-- One lower-case hexadecimal form of a number, without leading zeros. -/
def hexText (n : Nat) : String := String.ofList (Nat.toDigits 16 n)

/-- How one character is written between double quotes. -/
def escapeChar (c : Char) : String :=
  if c = '\x00' then "\\0"
  else if c = '\t' then "\\t"
  else if c = '\n' then "\\n"
  else if c = '\r' then "\\r"
  else if c = '\\' || c = '\x22' then String.ofList ['\\', c]
  else if isHidden c then "\\u\x7b" ++ hexText c.toNat ++ "\x7d"
  else String.ofList [c]

/-- A text in double quotes. -/
def quote (text : String) : String :=
  "\"" ++ String.join (text.toList.map escapeChar) ++ "\""

/-- A byte as two upper-case hexadecimal digits after `\x`. -/
def escapeByte (b : UInt8) : String :=
  let digit (n : Nat) : Char := (Nat.digitChar n).toUpper
  String.ofList ['\\', 'x', digit (b.toNat / 16), digit (b.toNat % 16)]

/-- Bytes in double quotes: the characters among them as in a text, and
every other byte by its value. -/
def quoteBytes (bytes : List UInt8) : String :=
  "\"" ++ String.join ((splitUtf8 bytes).map fun
    | .inl c => escapeChar c
    | .inr b => escapeByte b) ++ "\""

end FireNet.Text

/-
Scanning text. A scanner takes characters off the front of what is left;
one that fails has taken nothing, so another one can be tried.

Besides the scanners that every format needs, this module has the blank
parts of TOML (white space, line ends, comments) and its four forms of
quoted text.
-/

set_option autoImplicit false

namespace FireNet.Toml

/-- A scanner over the characters that are left. -/
abbrev Scan := StateT (List Char) Option

namespace Scan

variable {α : Type}

/-- One character of a class. -/
def one (p : Char → Bool) : Scan Char
  | [] => none
  | c :: rest => if p c then some (c, rest) else none

def char (c : Char) : Scan Unit := do
  let _ ← one (· == c)

def word (s : String) : Scan Unit := s.toList.forM char

/-- The longest run of a class, possibly empty. -/
def run (p : Char → Bool) : Scan (List Char) :=
  fun s => some (s.takeWhile p, s.dropWhile p)

def done : Scan Unit := fun s => if s.isEmpty then some ((), s) else none

/-- A scanner as often as it succeeds, but not more often than `bound` has
characters. -/
def within (p : Scan α) : (bound : List Char) → Scan (List α)
  | [] => pure []
  | _ :: bound => do
    match ← optional p with
    | none => pure []
    | some a => do
      let rest ← within p bound
      pure (a :: rest)

/-- A scanner that takes something, as often as it succeeds. -/
def many (p : Scan α) : Scan (List α) := fun s => within p s s

/-- The value that a whole text scans to. -/
def whole (p : Scan α) (s : List Char) : Option α :=
  match p s with
  | some (a, []) => some a
  | _ => none

end Scan

open Scan

-- ========================================================== blank parts

/-- White space inside a line. -/
def isSpace (c : Char) : Bool := c == ' ' || c == '\t'

/-- A character that may stand in a line: no control but the tab. -/
def isVisible (c : Char) : Bool := c == '\t' || (' ' ≤ c && c ≠ '\x7f')

/-- White space, possibly none. -/
def spaces : Scan Unit := do
  let _ ← run isSpace

def newline : Scan Unit := char '\n' <|> word "\r\n"

/-- A comment, up to the line end. -/
def comment : Scan Unit := do
  char '#'
  let _ ← run isVisible

/-- White space, line ends and comments, possibly none. -/
def blanks : Scan Unit := do
  let _ ← many ((do let _ ← one isSpace) <|> newline <|> comment)

/-- What may follow on a line that is otherwise complete. -/
def lineEnd : Scan Unit := do
  spaces
  let _ ← optional comment
  newline <|> done

-- ========================================================== quoted text

/-- The value of a hexadecimal digit. -/
def hexValue (c : Char) : Nat :=
  if c.isDigit then c.toNat - '0'.toNat
  else if 'a' ≤ c then c.toNat - 'a'.toNat + 10
  else c.toNat - 'A'.toNat + 10

/-- A hexadecimal digit of either case. -/
def isHex (c : Char) : Bool :=
  c.isDigit || ('a' ≤ c && c ≤ 'f') || ('A' ≤ c && c ≤ 'F')

/-- The number that digits of a base spell. -/
def spelled (base : Nat) (digits : List Char) : Nat :=
  digits.foldl (fun n c => n * base + hexValue c) 0

/-- Exactly `n` digits of a base, as a number. -/
def exactly (n base : Nat) (isDigit : Char → Bool) : Scan Nat := do
  let digits ← (List.replicate n ()).mapM fun _ => one isDigit
  pure (spelled base digits)

/-- A character by its code point. -/
def codePoint (digits : Nat) : Scan Char := do
  let n ← exactly digits 16 isHex
  if n.isValidChar then pure (Char.ofNat n) else failure

/-- What follows a backslash. -/
def escape : Scan Char := do
  char '\\'
  match ← one fun _ => true with
  | 'b' => pure '\x08'
  | 't' => pure '\t'
  | 'n' => pure '\n'
  | 'f' => pure '\x0c'
  | 'r' => pure '\r'
  | '\x22' => pure '\x22'
  | '\\' => pure '\\'
  | 'u' => codePoint 4
  | 'U' => codePoint 8
  | _ => failure

/-- A character that stands for itself between double quotes. -/
def isBasic (c : Char) : Bool := isVisible c && c ≠ '\x22' && c ≠ '\\'

/-- A character that stands for itself between single quotes. -/
def isLiteral (c : Char) : Bool := isVisible c && c ≠ '\x27'

/-- Text between double quotes, on one line. -/
def basicText : Scan String := do
  char '\x22'
  let s ← many (one isBasic <|> escape)
  char '\x22'
  pure (String.ofList s)

/-- Text between single quotes, on one line. -/
def literalText : Scan String := do
  char '\x27'
  let s ← run isLiteral
  char '\x27'
  pure (String.ofList s)

/-- One or two quotes inside a long text. -/
def innerQuotes (quote : Char) : Scan (List Char) := do
  let quotes ← run (· == quote)
  guard (quotes.length = 1 ∨ quotes.length = 2)
  pure quotes

/-- The quotes that end a long text; up to two before the last three
belong to it. -/
def lastQuotes (quote : Char) : Scan (List Char) := do
  let quotes ← run (· == quote)
  guard (3 ≤ quotes.length ∧ quotes.length ≤ 5)
  pure (quotes.drop 3)

/-- A line end of a long text; it always counts as a line feed. -/
def innerNewline : Scan (List Char) := do
  newline
  pure ['\n']

/-- A backslash at the end of a line: nothing up to the next character
that is not blank. -/
def joinedLines : Scan (List Char) := do
  char '\\'
  spaces
  newline
  let _ ← many ((do let _ ← one isSpace) <|> newline)
  pure []

/-- Text between three quotes on each side; a line end right after the
first ones does not count. -/
def longText (quote : Char) (piece : Scan (List Char)) : Scan String := do
  word (String.ofList [quote, quote, quote])
  let _ ← optional newline
  let pieces ← many (piece <|> innerNewline <|> innerQuotes quote)
  let last ← lastQuotes quote
  pure (String.ofList (pieces.flatten ++ last))

def longBasicText : Scan String :=
  longText '\x22' ((do pure [← one isBasic]) <|> (do pure [← escape])
    <|> joinedLines)

def longLiteralText : Scan String :=
  longText '\x27' (do pure [← one isLiteral])

/-- Text in any of the four forms. -/
def quotedText : Scan String :=
  longBasicText <|> basicText <|> longLiteralText <|> literalText

end FireNet.Toml

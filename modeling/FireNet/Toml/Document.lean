/-
Reading a TOML document: values, keys and lines. Both limits of the reader
are nesting limits: so many names in one dotted key, so many brackets and
braces around one value.
-/
import FireNet.Toml.Node
import FireNet.Toml.Number

set_option autoImplicit false

namespace FireNet.Toml

open Scan

-- ================================================================== keys

/-- How many names a dotted key may have, and how deep values may be
nested. -/
def maxDepth : Nat := 79

/-- A character of a key that needs no quotes. -/
def isBare (c : Char) : Bool := c.isAlphanum || c == '-' || c == '_'

/-- A key that needs no quotes. -/
def bareKey : Scan String := do
  let s ← run isBare
  guard (!s.isEmpty)
  pure (String.ofList s)

/-- One name of a key, with white space around it. -/
def keyName : Scan String := do
  spaces
  let s ← basicText <|> literalText <|> bareKey
  spaces
  pure s

def keyPath : Scan KeyPath := do
  let first ← keyName
  let more ← many do
    char '.'
    keyName
  guard (more.length + 1 ≤ maxDepth)
  match more.getLast? with
  | none => pure ⟨[], first⟩
  | some last => pure ⟨first :: more.dropLast, last⟩

-- ================================================================ values

section

variable {α : Type}

/-- One item or more, with commas between them. -/
def separated (item : Scan α) : Scan (List α) := do
  let first ← item
  let more ← many do
    char ','
    item
  pure (first :: more)

end

/-- The items between brackets; a comma may follow the last one. -/
def arrayOf (value : Scan Node) : Scan Node := do
  char '['
  let items ← optional do
    let items ← separated do
      blanks
      let v ← value
      blanks
      pure v
    let _ ← optional (char ',')
    pure items
  blanks
  char ']'
  pure (.array (items.getD []))

/-- A key with its value, between braces. -/
def inlineEntry (value : Scan Node) : Scan (KeyPath × Node) := do
  let path ← keyPath
  char '='
  spaces
  let v ← value
  spaces
  pure (path, v)

/-- The entries between braces, all on one line. -/
def inlineTable (value : Scan Node) : Scan Node := do
  char '\x7b'
  let pairs ← optional (separated (inlineEntry value))
  spaces
  char '\x7d'
  let entries ← StateT.lift <| (pairs.getD []).foldlM
    (fun entries (path, v) => Descent.inlineKeys.insert path v .inline entries)
      []
  pure (.table .inline entries)

/-- A value that holds no other. -/
def simpleValue : Scan Node :=
  (do pure (.text (← quotedText))) <|>
  (do dateTime; pure .dateTime) <|>
  (do float; pure .plain) <|>
  (do pure (.integer (← integer))) <|> do
    word "true" <|> word "false"
    pure .plain

/-- A value inside which others may be nested up to a depth. -/
def value : (depth : Nat) → Scan Node
  | 0 => simpleValue
  | depth + 1 =>
    let inner := value depth
    arrayOf inner <|> inlineTable inner <|> simpleValue

-- ================================================================= lines

/-- A header of either kind. -/
def headerLine : Scan Line :=
  (do
    word "[["
    let path ← keyPath
    word "]]"
    lineEnd
    pure (.rowHeader path)) <|> do
  char '['
  let path ← keyPath
  char ']'
  lineEnd
  pure (.header path)

/-- A key with its value. -/
def entryLine : Scan Line := do
  let path ← keyPath
  char '='
  spaces
  let v ← value maxDepth
  lineEnd
  pure (.entry path v)

/-- A line with nothing but white space and a comment. -/
def blankLine : Scan (Option Line) := do
  spaces
  newline <|> do
    comment
    newline <|> done
  pure none

def line : Scan (Option Line) :=
  blankLine <|> do
    spaces
    some <$> (headerLine <|> entryLine)

/-- All lines of a document. -/
def lines : Scan (List Line) := do
  let _ ← optional (char '\ufeff')
  let found ← many line
  spaces
  pure (found.filterMap id)

/-- The entries of a document, if it is one. -/
def parse? (text : String) : Option Entries := do
  ofLines? (← Scan.whole lines text.toList)

end FireNet.Toml

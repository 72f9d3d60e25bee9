/-
The numbers and dates of TOML. Of an integer the value is read; of a float
and of a date only whether they are well formed, and of a float also
whether a double-precision number can hold it.
-/
import FireNet.Toml.Scan

set_option autoImplicit false

namespace FireNet.Toml

open Scan

-- ================================================================ digits

/-- Whether underscores stand only between two digits, and there is at
least one digit. -/
def wellSpaced : List Char → Bool
  | [] => false
  | [c] => c ≠ '_'
  | c :: d :: rest =>
    if c = '_' then false
    else if d = '_' then wellSpaced rest
    else wellSpaced (d :: rest)

/-- Digits of a class with underscores between them, without these. -/
def digits (isDigit : Char → Bool) : Scan (List Char) := do
  let run ← run fun c => isDigit c || c == '_'
  guard (wellSpaced run)
  pure (run.filter (· != '_'))

/-- A sign; true for minus, and also for no sign false. -/
def sign : Scan Bool := do
  match ← optional (one fun c => c == '+' || c == '-') with
  | some c => pure (c == '-')
  | none => pure false

/-- A decimal number without needless zeros in front: whether it is
negative, and its digits. -/
def decimal : Scan (Bool × List Char) := do
  let negative ← sign
  match ← optional (char '0') with
  | some () => pure (negative, ['0'])
  | none => do
    let ds ← digits Char.isDigit
    pure (negative, ds)

-- ============================================================== integers

/-- The greatest integer of a document. -/
def maxInteger : Nat := 9223372036854775807

/-- An integer in another base, after its mark. -/
def based (mark : String) (base : Nat) (isDigit : Char → Bool) : Scan Int := do
  word mark
  let n := spelled base (← digits isDigit)
  guard (n ≤ maxInteger)
  pure n

/-- An integer of 64 bits. -/
def integer : Scan Int :=
  based "0x" 16 isHex <|>
  based "0o" 8 (fun c => '0' ≤ c && c ≤ '7') <|>
  based "0b" 2 (fun c => c == '0' || c == '1') <|> do
    let (negative, ds) ← decimal
    let n := spelled 10 ds
    guard (n ≤ maxInteger ∨ (negative ∧ n = maxInteger + 1))
    pure (if negative then -(n : Int) else n)

-- ================================================================ floats

def exponent : Scan Int := do
  let _ ← one fun c => c == 'e' || c == 'E'
  let negative ← sign
  let n := spelled 10 (← digits Char.isDigit)
  pure (if negative then -(n : Int) else n)

/-- The decimals of a float. -/
def decimals : Scan (List Char) := do
  char '.'
  digits Char.isDigit

/-- The least value that double precision rounds to infinity: the middle
between the largest number and the next power of two. -/
def infinityBound : Nat := 1 <<< 1024 - 1 <<< 970

/-- Whether `digits` times ten to the `shift` is rounded to infinity. The
count of places before the point settles all but one case. -/
def overflows (digits : List Char) (shift : Int) : Bool :=
  let n := spelled 10 digits
  let places : Int := (digits.dropWhile (· == '0')).length + shift
  if n = 0 || places < 309 then false
  else if 309 < places then true
  else if 0 ≤ shift then infinityBound ≤ n * Nat.pow 10 shift.toNat
  else infinityBound * Nat.pow 10 (-shift).toNat ≤ n

/-- A float in digits; positive ones must be finite. -/
def finiteFloat : Scan Unit := do
  let (negative, ds) ← decimal
  let (fraction, shift) ← (do pure ([], ← exponent)) <|> do
    let fraction ← decimals
    pure (fraction, (← optional exponent).getD 0)
  guard (negative || !overflows (ds ++ fraction) (shift - fraction.length))

def float : Scan Unit :=
  finiteFloat <|> do
    let _ ← sign
    word "inf" <|> word "nan"

-- ================================================================= dates

/-- Two digits between bounds. -/
def twoDigits (low high : Nat) : Scan Nat := do
  let n ← exactly 2 10 Char.isDigit
  guard (low ≤ n ∧ n ≤ high)
  pure n

def daysIn (year month : Nat) : Nat :=
  if month = 2 then
    if year % 4 = 0 ∧ (year % 100 ≠ 0 ∨ year % 400 = 0) then 29 else 28
  else if [4, 6, 9, 11].contains month then 30
  else 31

def date : Scan Unit := do
  let year ← exactly 4 10 Char.isDigit
  char '-'
  let month ← twoDigits 1 12
  char '-'
  let _ ← twoDigits 1 (daysIn year month)

/-- A time of day, leap seconds included. -/
def time : Scan Unit := do
  let _ ← twoDigits 0 23
  char ':'
  let _ ← twoDigits 0 59
  char ':'
  let _ ← twoDigits 0 60
  let _ ← optional do
    char '.'
    let fraction ← run Char.isDigit
    guard (!fraction.isEmpty)

/-- A distance from universal time. -/
def offset : Scan Unit :=
  char 'Z' <|> char 'z' <|> do
    let _ ← one fun c => c == '+' || c == '-'
    let _ ← twoDigits 0 23
    char ':'
    let _ ← twoDigits 0 59

/-- The time of a day, after its mark. -/
def timeOfDay : Scan Unit := do
  let _ ← one fun c => c == 'T' || c == 't' || c == ' '
  time
  let _ ← optional offset

/-- A date, a time, or both. -/
def dateTime : Scan Unit :=
  (do
    date
    let _ ← optional timeOfDay) <|> time

end FireNet.Toml

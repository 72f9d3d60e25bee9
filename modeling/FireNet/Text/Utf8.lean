/-
The UTF-8 form of text: one to four bytes a character, shortest form only,
surrogates and code points past U+10FFFF refused.
-/

set_option autoImplicit false

namespace FireNet.Text

/-- The six low bits of a continuation byte, if it is one. -/
def continuation? (b : UInt8) : Option Nat :=
  if 0x80 ≤ b && b < 0xc0 then some (b.toNat - 0x80) else none

/-- The character that starts a byte sequence, with the bytes after it. -/
def nextChar? : List UInt8 → Option (Char × List UInt8)
  | [] => none
  | b :: rest =>
    if b < 0x80 then some (Char.ofNat b.toNat, rest)
    else if 0xc0 ≤ b && b < 0xe0 then
      match rest with
      | b1 :: rest => do
        let n := (b.toNat - 0xc0) * 64 + (← continuation? b1)
        if 0x80 ≤ n then some (Char.ofNat n, rest) else none
      | _ => none
    else if 0xe0 ≤ b && b < 0xf0 then
      match rest with
      | b1 :: b2 :: rest => do
        let n := ((b.toNat - 0xe0) * 64 + (← continuation? b1)) * 64
          + (← continuation? b2)
        if 0x800 ≤ n && !(0xd800 ≤ n && n < 0xe000) then
          some (Char.ofNat n, rest)
        else none
      | _ => none
    else if 0xf0 ≤ b && b < 0xf8 then
      match rest with
      | b1 :: b2 :: b3 :: rest => do
        let n := (((b.toNat - 0xf0) * 64 + (← continuation? b1)) * 64
          + (← continuation? b2)) * 64 + (← continuation? b3)
        if 0x10000 ≤ n && n < 0x110000 then some (Char.ofNat n, rest) else none
      | _ => none
    else none

/-- Walks through bytes: a character where one starts, else a byte that
belongs to no character. The first argument bounds the steps; the number
of bytes is always enough. -/
def readUtf8 : Nat → List UInt8 → List (Char ⊕ UInt8)
  | 0, _ => []
  | _, [] => []
  | n + 1, b :: rest =>
    match nextChar? (b :: rest) with
    | some (c, rest) => .inl c :: readUtf8 n rest
    | none => .inr b :: readUtf8 n rest

/-- The characters of a byte sequence and the bytes that are in none. -/
def splitUtf8 (bytes : List UInt8) : List (Char ⊕ UInt8) :=
  readUtf8 bytes.length bytes

/-- The text that bytes are the UTF-8 form of, if they are one. -/
def decodeUtf8? (bytes : List UInt8) : Option (List Char) :=
  (splitUtf8 bytes).mapM fun
    | .inl c => some c
    | .inr _ => none

end FireNet.Text

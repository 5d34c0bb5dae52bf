/-!
# Bytes and their text

Data is a list of bytes. It is read from lowercase hexadecimal text and shown either in full, as
hexadecimal text, or, when it is long, as a digest: its length, its first bytes and a 32-bit
Fowler–Noll–Vo hash of all of it.
-/
namespace EventLoop

/-- A sequence of bytes, first byte first. -/
abbrev Bytes := List UInt8

namespace Bytes

/-- The character of a hexadecimal digit below sixteen, in lowercase. -/
def hexDigit (digit : Nat) : Char :=
  if digit < 10 then Char.ofNat ('0'.toNat + digit) else Char.ofNat ('a'.toNat + (digit - 10))

/-- The value of a hexadecimal digit of either case. -/
def hexValue? (c : Char) : Option Nat :=
  if '0' ≤ c ∧ c ≤ '9' then some (c.toNat - '0'.toNat)
  else if 'a' ≤ c ∧ c ≤ 'f' then some (c.toNat - 'a'.toNat + 10)
  else if 'A' ≤ c ∧ c ≤ 'F' then some (c.toNat - 'A'.toNat + 10)
  else none

/-- Two lowercase hexadecimal digits for each byte. -/
def toHex (bytes : Bytes) : String :=
  String.ofList (bytes.flatMap fun byte => [hexDigit (byte.toNat / 16), hexDigit (byte.toNat % 16)])

/-- Reads pairs of hexadecimal digits; an odd count of digits or any other character is refused. -/
def ofHexDigits? : List Char → Option Bytes
  | [] => some []
  | [_] => none
  | high :: low :: rest => do
    let high ← hexValue? high
    let low ← hexValue? low
    let rest ← ofHexDigits? rest
    some (UInt8.ofNat (16 * high + low) :: rest)

/-- The bytes that a hexadecimal text stands for. -/
def ofHex? (text : String) : Option Bytes := ofHexDigits? text.toList

/-- A run of bytes, the given number of times in a row. -/
def repeated (bytes : Bytes) (count : Nat) : Bytes := (List.replicate count bytes).flatten

/-- The 32-bit Fowler–Noll–Vo hash, variant 1a. -/
def fnv1a (bytes : Bytes) : UInt32 :=
  bytes.foldl (fun hash byte => (hash ^^^ byte.toUInt32) * 16777619) 2166136261

/-- Data of at most this many bytes is shown in full. -/
def shownInFull : Nat := 64

/-- A digest shows this many bytes from the front. -/
def digestHead : Nat := 16

end Bytes

end EventLoop

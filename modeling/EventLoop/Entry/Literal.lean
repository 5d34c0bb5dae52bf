import EventLoop.Bytes
import EventLoop.Entry.IdentifierTable

/-!
# Literals

Each reader recognises one form of literal at the front of a text and returns the characters after
it, or refuses. A literal may carry a suffix, which is an identifier that touches it.
-/
namespace EventLoop.Entry

/-- An identifier at the front, and the characters after it. -/
def readWord : List Char → Option (List Char × List Char)
  | [] => none
  | c :: rest =>
    if isIdentifierStart c then
      some (c :: rest.takeWhile isIdentifierContinue, rest.dropWhile isIdentifierContinue)
    else none

/-- Skips an identifier that touches a literal. -/
def skipSuffix (input : List Char) : List Char :=
  match readWord input with
  | some (_, rest) => rest
  | none => input

/-- Whether a character is a decimal digit. -/
def isDecimal (c : Char) : Bool := '0' ≤ c && c ≤ '9'

/-- Whether a character is a hexadecimal digit. -/
def isHex (c : Char) : Bool := (Bytes.hexValue? c).isSome

/-- What may stand in a literal in quotes. -/
structure Quoting where
  /-- Characters beyond ASCII are refused. -/
  asciiOnly : Bool
  /-- The zero character is refused, written out or escaped. -/
  refusesZero : Bool
  /-- An escape by code point is allowed. -/
  codePoints : Bool
  /-- An escape by two hexadecimal digits may go beyond ASCII. -/
  highBytes : Bool

namespace Quoting

/-- Text in quotes. -/
def text : Quoting := ⟨false, false, true, false⟩
/-- Bytes in quotes. -/
def bytes : Quoting := ⟨true, false, false, true⟩
/-- A zero-terminated text in quotes. -/
def terminated : Quoting := ⟨false, true, true, true⟩

/-- Whether a character may stand for itself. -/
def admits (quoting : Quoting) (c : Char) : Bool :=
  !(quoting.asciiOnly && 128 ≤ c.toNat) && !(quoting.refusesZero && c.toNat == 0)

/-- Whether two digits may follow the escape for a byte. -/
def admitsByte (quoting : Quoting) (high low : Char) : Bool :=
  isHex high && isHex low && (quoting.highBytes || ('0' ≤ high && high ≤ '7'))
    && !(quoting.refusesZero && high == '0' && low == '0')

/-- Whether a character may follow a backslash on its own. -/
def admitsEscape (quoting : Quoting) (c : Char) : Bool :=
  c == 'n' || c == 'r' || c == 't' || c == '\\' || c == '\'' || c == '"'
    || (c == '0' && !quoting.refusesZero)

end Quoting

/-- Reads the digits of an escape by code point up to its closing bracket: at most six hexadecimal
digits, with underscores after the first. Returns the code point. -/
def readCodePointDigits (value count : Nat) : List Char → Option (Nat × List Char)
  | [] => none
  | c :: rest =>
    match Bytes.hexValue? c with
    | some digit =>
      if count = 6 then none else readCodePointDigits (16 * value + digit) (count + 1) rest
    | none =>
      if count = 0 then none
      else if c = '_' then readCodePointDigits value count rest
      else if c = '}' then
        if value < 0xd800 ∨ (0xdfff < value ∧ value < 0x110000) then some (value, rest) else none
      else none

/-- Reads an escape by code point after its letter. -/
def readCodePoint : List Char → Option (Nat × List Char)
  | '{' :: rest => readCodePointDigits 0 0 rest
  | _ => none

/-- Skips the blanks at the start of the next line after a backslash at the end of a line; a
carriage return counts only before a line feed. -/
def skipLineBreak (last : Char) : List Char → Option (List Char)
  | [] => none
  | c :: rest =>
    if last = '\r' then
      if c ≠ '\n' then none
      else match rest with
        | [] => none
        | d :: more =>
          if d = ' ' ∨ d = '\t' ∨ d = '\n' ∨ d = '\r' then skipLineBreak d more
          else some (d :: more)
    else if c = ' ' ∨ c = '\t' ∨ c = '\n' ∨ c = '\r' then skipLineBreak c rest
    else some (c :: rest)

/-- Reads a quoted text after its opening quote, within a number of characters. -/
def readQuoted (quoting : Quoting) : Nat → List Char → Option (List Char)
  | 0, _ => none
  | _, [] => none
  | _ + 1, '"' :: rest => some (skipSuffix rest)
  | fuel + 1, '\r' :: rest =>
    match rest with
    | '\n' :: rest => readQuoted quoting fuel rest
    | _ => none
  | fuel + 1, '\\' :: rest =>
    match rest with
    | 'x' :: high :: low :: rest =>
      if quoting.admitsByte high low then readQuoted quoting fuel rest else none
    | 'u' :: rest =>
      if quoting.codePoints then
        match readCodePoint rest with
        | some (code, rest) =>
          if quoting.refusesZero && code == 0 then none else readQuoted quoting fuel rest
        | none => none
      else none
    | c :: rest =>
      if quoting.admitsEscape c then readQuoted quoting fuel rest
      else if c = '\n' ∨ c = '\r' then
        match skipLineBreak c rest with
        | some rest => readQuoted quoting fuel rest
        | none => none
      else none
    | [] => none
  | fuel + 1, c :: rest => if quoting.admits c then readQuoted quoting fuel rest else none

/-- Reads a raw text after its opening quote, up to a quote with the given number of hashes. -/
def readRawBody (quoting : Quoting) (hashes : Nat) : List Char → Option (List Char)
  | [] => none
  | '"' :: rest =>
    if (rest.take hashes).length = hashes ∧ (rest.take hashes).all (· == '#') then
      some (skipSuffix (rest.drop hashes))
    else readRawBody quoting hashes rest
  | '\r' :: rest =>
    match rest with
    | '\n' :: rest => readRawBody quoting hashes rest
    | _ => none
  | c :: rest => if quoting.admits c then readRawBody quoting hashes rest else none

/-- Reads a raw text after its letter: at most 255 hashes, a quote, and the body. -/
def readRaw (quoting : Quoting) (input : List Char) : Option (List Char) :=
  let hashes := (input.takeWhile (· == '#')).length
  match input.drop hashes with
  | '"' :: rest => if hashes ≤ 255 then readRawBody quoting hashes rest else none
  | _ => none

/-- Reads a quote that closes a character, and a suffix. -/
def closeCharacter : List Char → Option (List Char)
  | '\'' :: rest => some (skipSuffix rest)
  | _ => none

/-- Reads a character in quotes after its opening quote. -/
def readCharacter (quoting : Quoting) : List Char → Option (List Char)
  | '\\' :: 'x' :: high :: low :: rest =>
    if quoting.admitsByte high low then closeCharacter rest else none
  | '\\' :: 'u' :: rest =>
    if quoting.codePoints then (readCodePoint rest).bind fun (_, rest) => closeCharacter rest
    else none
  | '\\' :: c :: rest => if quoting.admitsEscape c then closeCharacter rest else none
  | ['\\'] => none
  | c :: rest => if quoting.admits c then closeCharacter rest else none
  | [] => none

/-- Reads a text in quotes of any kind, after its opening quote. -/
def readText (quoting : Quoting) (input : List Char) : Option (List Char) :=
  readQuoted quoting (input.length + 1) input

/-- Reads a literal in quotes: text, bytes or a zero-terminated text, plain or raw, or a single
character or byte. -/
def readQuotation : List Char → Option (List Char)
  | '"' :: rest => readText .text rest
  | 'r' :: rest => readRaw .text rest
  | 'b' :: '"' :: rest => readText .bytes rest
  | 'b' :: 'r' :: rest => readRaw .bytes rest
  | 'b' :: '\'' :: rest => readCharacter .bytes rest
  | 'c' :: '"' :: rest => readText .terminated rest
  | 'c' :: 'r' :: rest => readRaw .terminated rest
  | '\'' :: rest => readCharacter .text rest
  | _ => none

/-- Where the digits of a number with a fraction end. -/
inductive FloatEnd
  /-- The digits end here, without an exponent. -/
  | plain (hasPoint : Bool) (rest : List Char)
  /-- A letter for an exponent stands here; the second list begins after it. -/
  | exponent (hasPoint : Bool) (rest after : List Char)
  /-- The point belongs to what follows. -/
  | refused

/-- Reads digits with at most one point; a point before another point or an identifier belongs to
what follows. -/
def readFraction (hasPoint : Bool) : List Char → FloatEnd
  | [] => .plain hasPoint []
  | c :: rest =>
    if isDecimal c ∨ c = '_' then readFraction hasPoint rest
    else if c = '.' then
      if hasPoint then .plain hasPoint (c :: rest)
      else match rest with
        | next :: more =>
          if next = '.' ∨ isIdentifierStart next then .refused
          else readFraction true (next :: more)
        | [] => .plain true []
    else if c = 'e' ∨ c = 'E' then .exponent hasPoint (c :: rest) rest
    else .plain hasPoint (c :: rest)

/-- Reads an exponent: at most one sign before the digits. Returns whether it has a digit, or
nothing when a second sign comes before any digit. -/
def readExponent (hasSign hasValue : Bool) : List Char → Option (Bool × List Char)
  | [] => some (hasValue, [])
  | c :: rest =>
    if c = '+' ∨ c = '-' then
      if hasValue then some (hasValue, c :: rest)
      else if hasSign then none
      else readExponent true hasValue rest
    else if isDecimal c then readExponent hasSign true rest
    else if c = '_' then readExponent hasSign hasValue rest
    else some (hasValue, c :: rest)

/-- Reads a number with a point or an exponent, without its suffix. -/
def readFloatDigits : List Char → Option (List Char)
  | [] => none
  | c :: rest =>
    if isDecimal c then
      match readFraction false rest with
      | .refused => none
      | .plain hasPoint rest => if hasPoint then some rest else none
      | .exponent hasPoint before after =>
        match readExponent false false after with
        | some (true, rest) => some rest
        | _ => if hasPoint then some before else none
    else none

/-- Reads the digits of a whole number in a base: a decimal digit that the base lacks refuses the
number, any other character ends it. -/
def readDigits (base : Nat) (isEmpty : Bool) : List Char → Option (List Char)
  | [] => if isEmpty then none else some []
  | c :: rest =>
    if isDecimal c then
      if c.toNat - '0'.toNat < base then readDigits base false rest else none
    else if c = '_' then
      if isEmpty && base == 10 then none else readDigits base isEmpty rest
    else match Bytes.hexValue? c with
      | some digit =>
        if digit < base then readDigits base false rest
        else if isEmpty then none else some (c :: rest)
      | none => if isEmpty then none else some (c :: rest)

/-- Reads a whole number, without its suffix. -/
def readIntegerDigits : List Char → Option (List Char)
  | '0' :: 'x' :: rest => readDigits 16 true rest
  | '0' :: 'o' :: rest => readDigits 8 true rest
  | '0' :: 'b' :: rest => readDigits 2 true rest
  | input => readDigits 10 true input

/-- Ends a number with its suffix; no other part of an identifier may touch it. -/
def endNumber (input : List Char) : Option (List Char) :=
  match skipSuffix input with
  | [] => some []
  | c :: rest => if isIdentifierContinue c then none else some (c :: rest)

/-- Reads a literal and returns the characters after it. -/
def readLiteral (input : List Char) : Option (List Char) :=
  match readQuotation input with
  | some rest => some rest
  | none =>
    match (readFloatDigits input).bind endNumber with
    | some rest => some rest
    | none => (readIntegerDigits input).bind endNumber

end EventLoop.Entry

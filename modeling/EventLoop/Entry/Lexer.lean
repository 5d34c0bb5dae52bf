import EventLoop.Entry.Token
import EventLoop.Entry.Literal
import EventLoop.Entry.PrintableTable

/-!
# From text to tokens

Blanks and comments separate tokens; a documentation comment stands for the attribute that it
abbreviates. A text is refused when a bracket does not match or a character begins no token.
-/
namespace EventLoop.Entry

/-- Whether a character separates tokens; the two direction marks do. -/
def isBlank (c : Char) : Bool :=
  let code := c.toNat
  code == 0x20 || (0x09 ≤ code && code ≤ 0x0d) || code == 0x85 || code == 0xa0 || code == 0x1680
    || (0x2000 ≤ code && code ≤ 0x200a) || code == 0x200e || code == 0x200f || code == 0x2028
    || code == 0x2029 || code == 0x202f || code == 0x205f || code == 0x3000

/-- The characters up to the end of the line, and those from its line feed on. -/
def splitLine : List Char → List Char × List Char
  | [] => ([], [])
  | '\n' :: rest => ([], '\n' :: rest)
  | '\r' :: '\n' :: rest => ([], '\n' :: rest)
  | c :: rest => let (line, rest) := splitLine rest; (c :: line, rest)

/-- The characters after a comment between two marks; such comments nest. -/
def afterBlockComment (depth : Nat) : List Char → Option (List Char)
  | [] => none
  | '/' :: '*' :: rest => afterBlockComment (depth + 1) rest
  | '*' :: '/' :: rest => if depth ≤ 1 then some rest else afterBlockComment (depth - 1) rest
  | _ :: rest => afterBlockComment depth rest

/-- Whether one list of characters begins with another. -/
def startsWith (text : String) (input : List Char) : Bool := text.toList.isPrefixOf input

/-- Skips blanks and comments that document nothing. -/
def skipBlanks : Nat → List Char → List Char
  | 0, input => input
  | _, [] => []
  | fuel + 1, c :: rest =>
    let input := c :: rest
    if startsWith "//" input && (!startsWith "///" input || startsWith "////" input)
        && !startsWith "//!" input then skipBlanks fuel (splitLine input).2
    else if startsWith "/**/" input then skipBlanks fuel (input.drop 4)
    else if startsWith "/*" input && (!startsWith "/**" input || startsWith "/***" input)
        && !startsWith "/*!" input then
      match afterBlockComment 0 input with
      | some rest => skipBlanks fuel rest
      | none => input
    else if isBlank c then skipBlanks fuel rest
    else input

/-- The characters that a reader consumed, given what it left. -/
def consumed (input rest : List Char) : List Char := input.take (input.length - rest.length)

/-- A documentation comment: its text, whether it documents what encloses it, and the characters
after it. -/
def readDocumentation (input : List Char) : Option (List Char × Bool × List Char) :=
  if startsWith "//!" input then
    let (line, rest) := splitLine (input.drop 3)
    some (line, true, rest)
  else if startsWith "/*!" input then
    (afterBlockComment 0 input).map fun rest =>
      (((consumed input rest).drop 3).dropLast.dropLast, true, rest)
  else if startsWith "///" input then
    if startsWith "////" input then none
    else
      let (line, rest) := splitLine (input.drop 3)
      some (line, false, rest)
  else if startsWith "/**" input && !startsWith "/***" input then
    (afterBlockComment 0 input).map fun rest =>
      (((consumed input rest).drop 3).dropLast.dropLast, false, rest)
  else none

/-- Whether every carriage return stands before a line feed. -/
def returnsPaired : List Char → Bool
  | [] => true
  | '\r' :: '\n' :: rest => returnsPaired rest
  | '\r' :: _ => false
  | _ :: rest => returnsPaired rest

/-- A character as it is written in a quoted text, given the one after it: a null is written longer
before an octal digit, and what is not printable by its code point. -/
def escapeChar (c : Char) (next : Option Char) : List Char :=
  if c = '\x00' then
    match next with
    | some digit => if '0' ≤ digit ∧ digit ≤ '7' then ['\\', 'x', '0', '0'] else ['\\', '0']
    | none => ['\\', '0']
  else if c = '\t' then ['\\', 't']
  else if c = '\r' then ['\\', 'r']
  else if c = '\n' then ['\\', 'n']
  else if c = '"' then ['\\', '"']
  else if c = '\\' then ['\\', '\\']
  else if isPrintable c then [c]
  else ['\\', 'u', '{'] ++ (Nat.toDigits 16 c.toNat) ++ ['}']

/-- A text as it is written in quotes, without the quotes. -/
def escapeText : List Char → List Char
  | [] => []
  | c :: rest => escapeChar c rest.head? ++ escapeText rest

/-- The tokens of the attribute that a documentation comment abbreviates. -/
def documentationTokens (text : List Char) (inner : Bool) : List Token :=
  let content := [
    .word "doc",
    .punct '=' false,
    .literal (String.ofList ('"' :: escapeText text ++ ['"']))]
  .punct '#' false :: ((if inner then [.punct '!' false] else []) ++ [.group .bracket content])

/-- The characters that are punctuation. -/
def punctuation : List Char := "~!@#$%^&*-=+|;:,<.>/?'".toList

/-- A punctuation character at the front; one that begins a comment is none. -/
def readPunctuation : List Char → Option (Char × List Char)
  | [] => none
  | c :: rest =>
    if startsWith "//" (c :: rest) || startsWith "/*" (c :: rest) then none
    else if punctuation.contains c then some (c, rest) else none

/-- An identifier at the front, possibly raw, and the characters after it. -/
def readAnyWord (input : List Char) : Option (List Char × List Char) :=
  if startsWith "r#" input then
    match readWord (input.drop 2) with
    | some (word, rest) =>
      if ["_", "super", "self", "Self", "crate"].contains (String.ofList word) then none
      else some ('r' :: '#' :: word, rest)
    | none => none
  else readWord input

/-- An identifier that does not begin like a literal in quotes. -/
def readIdentifier (input : List Char) : Option (List Char × List Char) :=
  if ["r\"", "r#\"", "r##", "b\"", "b'", "br\"", "br#", "c\"", "cr\"", "cr#"].any
      (startsWith · input) then none
  else readAnyWord input

/-- A punctuation token; the apostrophe of a lifetime needs an identifier that is not in quotes. -/
def readPunct (input : List Char) : Option (Token × List Char) :=
  match readPunctuation input with
  | none => none
  | some (c, rest) =>
    if c = '\'' then
      match readAnyWord rest with
      | none => none
      | some (_, after) =>
        if startsWith "'" after || (startsWith "#" after && !startsWith "r#" rest) then none
        else some (.punct '\'' true, rest)
    else some (.punct c (readPunctuation rest).isSome, rest)

/-- The text that stands for a failed expansion. -/
def failedExpansion : String := "(/*ERROR*/)"

/-- A token that is no group. -/
def readLeaf (input : List Char) : Option (Token × List Char) :=
  match readLiteral input with
  | some rest => some (.literal (String.ofList (consumed input rest)), rest)
  | none =>
    match readPunct input with
    | some found => some found
    | none =>
      match readIdentifier input with
      | some (word, rest) => some (.word (String.ofList word), rest)
      | none =>
        if startsWith failedExpansion input then
          some (.literal failedExpansion, input.drop failedExpansion.length)
        else none

/-- A text that is partly read. -/
structure Reading where
  /-- The tokens read in the innermost open group, last first. -/
  tokens : List Token
  /-- Each open group, innermost first: its bracket and the tokens before it, last first. -/
  enclosing : List (Delimiter × List Token)
  /-- The characters still to read. -/
  rest : List Char

namespace Reading

/-- Reads a bracket or another token at the front, which is not blank. -/
def readToken (reading : Reading) (c : Char) (rest : List Char) : Option Reading :=
  let input := c :: rest
  match (if startsWith failedExpansion input then none else Delimiter.ofOpening? c) with
  | some delimiter => some ⟨[], (delimiter, reading.tokens) :: reading.enclosing, rest⟩
  | none =>
    match Delimiter.ofClosing? c, reading.enclosing with
    | some closing, (delimiter, outer) :: enclosing =>
      if closing = delimiter then
        some ⟨.group delimiter reading.tokens.reverse :: outer, enclosing, rest⟩
      else none
    | some _, [] => none
    | none, _ =>
      (readLeaf input).map fun (token, rest) => { reading with tokens := token :: reading.tokens, rest }

/-- Reads a documentation comment at the front, if there is a well-formed one. -/
def readComment (reading : Reading) : Option Reading :=
  match readDocumentation reading.rest with
  | some (text, inner, rest) =>
    if returnsPaired text then
      some { reading with
        tokens := (documentationTokens text inner).reverse ++ reading.tokens, rest }
    else none
  | none => none

/-- Reads to the end, in at most the given number of tokens. -/
def finish : Nat → Reading → Option (List Token)
  | 0, _ => none
  | fuel + 1, reading =>
    let reading := { reading with rest := skipBlanks (reading.rest.length + 1) reading.rest }
    match reading.readComment with
    | some reading => finish fuel reading
    | none =>
      match reading.rest with
      | [] => if reading.enclosing.isEmpty then some reading.tokens.reverse else none
      | c :: rest =>
        match reading.readToken c rest with
        | some reading => finish fuel reading
        | none => none

end Reading

/-- The tokens of a text, or none when it is malformed; a byte order mark at the front is skipped. -/
def tokenize (text : String) : Option (List Token) :=
  let input := match text.toList with
    | '\ufeff' :: rest => rest
    | input => input
  Reading.finish (input.length + 1) ⟨[], [], input⟩

end EventLoop.Entry

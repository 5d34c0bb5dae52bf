import EventLoop.Address

/-!
# Reading socket addresses

Each reader takes characters from the front and returns a value with the characters after it, or
refuses. An octet has at most three digits and no leading zero; a segment has at most four
hexadecimal digits; a port and a scope may have leading zeros. Two colons stand for at least one
zero segment, and the last two segments may be written as four octets.
-/
namespace EventLoop.Address

/-- The value of a digit in a base of at most sixteen. -/
def digit? (base : Nat) (c : Char) : Option Nat :=
  match Bytes.hexValue? c with
  | some value => if value < base then some value else none
  | none => none

/-- The digits at the front, as values, and the characters after them. -/
def digits (base : Nat) : List Char → List Nat × List Char
  | [] => ([], [])
  | c :: rest =>
    match digit? base c with
    | some value => let (values, rest) := digits base rest; (value :: values, rest)
    | none => ([], c :: rest)

/-- The number that digits stand for, most significant first. -/
def number (base : Nat) (values : List Nat) : Nat :=
  values.foldl (fun total value => total * base + value) 0

/-- Reads a number below a limit, of at least one digit. -/
def readNumber (base limit : Nat) (accepts : List Nat → Bool) (input : List Char) :
    Option (Nat × List Char) :=
  let (values, rest) := digits base input
  if values.isEmpty || !accepts values then none
  else if number base values < limit then some (number base values, rest) else none

/-- Reads one given character. -/
def readChar (expected : Char) : List Char → Option (List Char)
  | [] => none
  | c :: rest => if c = expected then some rest else none

/-- Reads a number below 256 of at most three digits, without a leading zero. -/
def readOctet (input : List Char) : Option (UInt8 × List Char) :=
  (readNumber 10 256 (fun values => values.length ≤ 3 && (values.head? != some 0 || values.length == 1))
    input).map fun (value, rest) => (UInt8.ofNat value, rest)

/-- Reads four octets separated by points. -/
def readDotted (input : List Char) : Option ((UInt8 × UInt8 × UInt8 × UInt8) × List Char) := do
  let (first, rest) ← readOctet input
  let (second, rest) ← readOctet (← readChar '.' rest)
  let (third, rest) ← readOctet (← readChar '.' rest)
  let (fourth, rest) ← readOctet (← readChar '.' rest)
  some ((first, second, third, fourth), rest)

/-- Reads a segment of at most four hexadecimal digits. -/
def readSegment (input : List Char) : Option (UInt16 × List Char) :=
  (readNumber 16 65536 (fun values => values.length ≤ 4) input).map
    fun (value, rest) => (UInt16.ofNat value, rest)

/-- The two segments that four octets fill. -/
def octetSegments (first second third fourth : UInt8) : List UInt16 :=
  [first.toUInt16 * 256 + second.toUInt16, third.toUInt16 * 256 + fourth.toUInt16]

/-- Reads at most the given number of segments separated by colons, the first one after a colon
unless it begins the address part; four octets may stand for the last two. Returns the segments,
whether they end in octets, and the characters after them. -/
def readSegments : Nat → Bool → List Char → List UInt16 × Bool × List Char
  | 0, _, input => ([], false, input)
  | room + 1, isFirst, input =>
    let afterColon := if isFirst then some input else readChar ':' input
    match (if 0 < room then afterColon.bind readDotted else none) with
    | some ((first, second, third, fourth), rest) =>
      (octetSegments first second third fourth, true, rest)
    | none =>
      match afterColon.bind readSegment with
      | some (segment, rest) =>
        let (segments, dotted, rest) := readSegments room false rest
        (segment :: segments, dotted, rest)
      | none => ([], false, input)

/-- Reads eight segments, or fewer around two colons. -/
def readColons (input : List Char) : Option (List UInt16 × List Char) :=
  let (head, dotted, rest) := readSegments 8 true input
  if head.length = 8 then some (head, rest)
  else if dotted then none
  else do
    let rest ← readChar ':' rest
    let rest ← readChar ':' rest
    let (tail, _, rest) := readSegments (7 - head.length) true rest
    some (head ++ List.replicate (8 - head.length - tail.length) 0 ++ tail, rest)

/-- Reads a colon and a port. -/
def readPort (input : List Char) : Option (UInt16 × List Char) := do
  let (port, rest) ← readNumber 10 65536 (fun _ => true) (← readChar ':' input)
  some (UInt16.ofNat port, rest)

/-- Reads a percent sign and a scope. -/
def readScope (input : List Char) : Option (UInt32 × List Char) := do
  let (scope, rest) ← readNumber 10 (1 <<< 32) (fun _ => true) (← readChar '%' input)
  some (UInt32.ofNat scope, rest)

/-- Reads an address of the first family with its port. -/
def readV4 (input : List Char) : Option (Address × List Char) := do
  let ((first, second, third, fourth), rest) ← readDotted input
  let (port, rest) ← readPort rest
  some (⟨.v4 first second third fourth, port, 0⟩, rest)

/-- Reads an address of the second family in brackets with its port. -/
def readV6 (input : List Char) : Option (Address × List Char) := do
  let (segments, rest) ← readColons (← readChar '[' input)
  let (scope, rest) := (readScope rest).getD (0, rest)
  let (port, rest) ← readPort (← readChar ']' rest)
  some (⟨.v6 segments, port, scope⟩, rest)

/-- The socket address that a whole text stands for. -/
def ofText? (text : String) : Option Address :=
  match (readV4 text.toList).or (readV6 text.toList) with
  | some (address, []) => some address
  | _ => none

end EventLoop.Address

import EventLoop.Bytes

/-!
# Socket addresses

An address is an internet address of either family with a port. It is written as `a.b.c.d:port` or
`[segments]:port`; the longest run of at least two zero segments, the first of several, is written
as two colons.
-/
namespace EventLoop

/-- An internet address of either family. -/
inductive Ip
  /-- Four octets. -/
  | v4 (first second third fourth : UInt8)
  /-- Eight segments of sixteen bits. -/
  | v6 (segments : List UInt16)
  deriving DecidableEq, Repr, Inhabited

namespace Ip

/-- The unspecified address of the first family. -/
def unspecified4 : Ip := v4 0 0 0 0

/-- The unspecified address of the second family. -/
def unspecified6 : Ip := v6 [0, 0, 0, 0, 0, 0, 0, 0]

/-- The loopback address of the first family. -/
def loopback4 : Ip := v4 127 0 0 1

/-- The loopback address of the second family. -/
def loopback6 : Ip := v6 [0, 0, 0, 0, 0, 0, 0, 1]

/-- Whether both addresses belong to one family. -/
def sameFamily : Ip → Ip → Bool
  | v4 .., v4 .. | v6 _, v6 _ => true
  | _, _ => false

/-- The unspecified address of the family of an address. -/
def unspecified : Ip → Ip
  | v4 .. => unspecified4
  | v6 _ => unspecified6

/-- Whether an address stands for every address of its family. -/
def isUnspecified (ip : Ip) : Bool := ip == ip.unspecified

/-- Whether an address reaches this machine only. -/
def isLoopback : Ip → Bool
  | v4 first _ _ _ => first == 127
  | ip@(v6 _) => ip == loopback6

/-- Whether one of two addresses of one family stands for the other. -/
def overlaps (left right : Ip) : Bool :=
  left.sameFamily right && (left == right || left.isUnspecified || right.isUnspecified)

/-- An octet in decimal digits. -/
def decimal (octet : UInt8) : String := toString octet.toNat

/-- Four octets separated by points. -/
def dotted (first second third fourth : UInt8) : String :=
  ".".intercalate [decimal first, decimal second, decimal third, decimal fourth]

/-- A segment in lowercase hexadecimal digits, without leading zeros. -/
def segmentText (segment : UInt16) : String :=
  String.ofList (((Nat.toDigits 16 segment.toNat).map Char.toLower))

/-- Segments separated by colons. -/
def segmentsText (segments : List UInt16) : String :=
  ":".intercalate (segments.map segmentText)

/-- The length of the run of zero segments at the front. -/
def zeroRun (segments : List UInt16) : Nat := (segments.takeWhile (· == 0)).length

/-- The start and the length of the longest run of zero segments, the first of several. -/
def longestZeroRun (segments : List UInt16) : Nat × Nat :=
  (List.range segments.length).foldl
    (fun best start =>
      let length := zeroRun (segments.drop start)
      if best.2 < length then (start, length) else best)
    (0, 0)

/-- The text of eight segments. -/
def colonText (segments : List UInt16) : String :=
  match segments with
  | [0, 0, 0, 0, 0, 0xffff, high, low] =>
    "::ffff:" ++ dotted (high >>> 8).toUInt8 high.toUInt8 (low >>> 8).toUInt8 low.toUInt8
  | _ =>
    let (start, length) := longestZeroRun segments
    if 1 < length then
      segmentsText (segments.take start) ++ "::" ++ segmentsText (segments.drop (start + length))
    else segmentsText segments

/-- The text of an internet address. -/
def text : Ip → String
  | v4 first second third fourth => dotted first second third fourth
  | v6 segments => colonText segments

end Ip

/-- An internet address with a port. -/
structure Address where
  /-- The internet address. -/
  ip : Ip
  /-- The port. -/
  port : UInt16
  /-- The scope of an address of the second family; zero when it has none. -/
  scope : UInt32
  deriving DecidableEq, Repr, Inhabited

namespace Address

/-- The text of a socket address. -/
def text (address : Address) : String :=
  let port := ":" ++ toString address.port.toNat
  match address.ip with
  | .v4 .. => address.ip.text ++ port
  | .v6 _ =>
    let scope := if address.scope = 0 then "" else "%" ++ toString address.scope.toNat
    "[" ++ address.ip.text ++ scope ++ "]" ++ port

/-- An address without a scope. -/
def of (ip : Ip) (port : UInt16) : Address := ⟨ip, port, 0⟩

end Address

end EventLoop

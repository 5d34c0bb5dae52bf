/-!
# Readiness flags

What a descriptor is watched for and what is reported about it are sets of flags. Sets are listed in
one fixed order: input, output, error, hang-up, hang-up of the peer's sending side, one report only.
-/
namespace EventLoop.Kernel

/-- A set of readiness flags. -/
structure Flags where
  /-- There is something to read or to accept. -/
  input : Bool := false
  /-- There is room to write. -/
  output : Bool := false
  /-- An error is pending. -/
  error : Bool := false
  /-- The connection is gone. -/
  hangUp : Bool := false
  /-- The peer will send nothing more. -/
  peerHangUp : Bool := false
  /-- The watch is for one report only. -/
  once : Bool := false
  deriving DecidableEq, Repr, Inhabited

namespace Flags

/-- The empty set. -/
def none : Flags := {}

/-- The flags that are in either set. -/
def union (left right : Flags) : Flags where
  input := left.input || right.input
  output := left.output || right.output
  error := left.error || right.error
  hangUp := left.hangUp || right.hangUp
  peerHangUp := left.peerHangUp || right.peerHangUp
  once := left.once || right.once

/-- The flags that are in both sets. -/
def inter (left right : Flags) : Flags where
  input := left.input && right.input
  output := left.output && right.output
  error := left.error && right.error
  hangUp := left.hangUp && right.hangUp
  peerHangUp := left.peerHangUp && right.peerHangUp
  once := left.once && right.once

/-- Whether no flag is set. -/
def isEmpty (flags : Flags) : Bool := flags == none

/-- Errors and hang-ups, which are reported whether or not they are watched for. -/
def always : Flags := { error := true, hangUp := true }

/-- The names of the flags that are set, in their fixed order. -/
def names (flags : Flags) : List String :=
  [(flags.input, "IN"), (flags.output, "OUT"), (flags.error, "ERR"), (flags.hangUp, "HUP"),
    (flags.peerHangUp, "RDHUP"), (flags.once, "ONESHOT")].filterMap
    fun (isSet, name) => if isSet then some name else Option.none

end Flags

end EventLoop.Kernel

import EventLoop.Kernel.Basic

/-!
# The poller

The poller watches descriptors. A watch for one report only falls silent after its report until it
is changed. A wait reports what is ready in ascending order of descriptors; if nothing is, time
moves on by the timeout.
-/
namespace EventLoop.Kernel

/-- What is to be done to a watch. -/
inductive Control
  /-- Begin to watch a descriptor. -/
  | add
  /-- Change what a watched descriptor is watched for. -/
  | modify
  /-- Stop watching a descriptor. -/
  | delete
  deriving DecidableEq, Repr, Inhabited

/-- Makes the poller. -/
def makePoller (kernel : Kernel) : Except Errno Fd × Kernel :=
  kernel.guarded .createPoller none fun kernel =>
    let (fd, kernel) := kernel.allocate .poller
    (.ok fd, kernel)

/-- Whether a descriptor is open. -/
def isOpen (kernel : Kernel) (fd : Fd) : Bool := (kernel.resource? fd).isSome

/-- Changes what is watched. -/
def control (kernel : Kernel) (poller : Fd) (action : Control) (fd : Fd) (interest : Flags) :
    Except Errno Unit × Kernel :=
  kernel.guarded .control (some fd) fun kernel =>
    if !kernel.isOpen poller || !kernel.isOpen fd then (.error .badDescriptor, kernel)
    else
      let number := fd.toNat
      let others := kernel.watches.filter (·.1 != number)
      let isWatched := kernel.watches.any (·.1 == number)
      match action with
      | .add =>
        if isWatched then (.error .alreadyExists, kernel)
        else (.ok (), { kernel with watches := insertAscending number interest others })
      | .modify =>
        if isWatched then (.ok (), { kernel with watches := insertAscending number interest others })
        else (.error .noEntry, kernel)
      | .delete =>
        if isWatched then (.ok (), { kernel with watches := others })
        else (.error .noEntry, kernel)

/-- What is ready at a descriptor. -/
def readiness (kernel : Kernel) (number : Nat) : Flags :=
  match kernel.endpoint? number with
  | none => .none
  | some (_, endpoint) =>
    let room := match endpoint.phase with
      | .connected peer => match kernel.endpoints.get? peer with
        | some other => 0 < kernel.room other.buffer
        | none => false
      | _ => false
    endpoint.readiness room

/-- What a watch reports; a silent watch reports nothing. -/
def report (kernel : Kernel) (number : Nat) (interest : Flags) : Flags :=
  if interest.isEmpty then .none
  else (kernel.readiness number).inter (interest.union .always)

/-- Goes through the watches in order: the reports, at most the given number, and the watches after
them. -/
def collect (kernel : Kernel) : Nat → List (Nat × Flags) → List (Nat × Flags) × List (Nat × Flags)
  | 0, watches => ([], watches)
  | _, [] => ([], [])
  | limit + 1, (number, interest) :: rest =>
    let flags := kernel.report number interest
    if flags.isEmpty then
      let (reports, rest) := collect kernel (limit + 1) rest
      (reports, (number, interest) :: rest)
    else
      let (reports, rest) := collect kernel limit rest
      ((number, flags) :: reports, (number, if interest.once then .none else interest) :: rest)

/-- Waits for at most the given number of reports, up to a timeout in milliseconds or without one.
Where no end of the wait is in sight it fails with the given error. Every wait counts, also one that
fails, and beyond the limit none does anything. -/
def wait (kernel : Kernel) (poller : Fd) (limit : Nat) (timeout : Option Nat) (endless : Errno) :
    Except Errno (List (Nat × Flags)) × Kernel :=
  if waitLimit ≤ kernel.waits then (.error .tooMany, kernel)
  else { kernel with waits := kernel.waits + 1 }.guarded .wait (some poller) fun kernel =>
    if !kernel.isOpen poller then (.error .badDescriptor, kernel)
    else
      let (reports, watches) := kernel.collect limit kernel.watches
      if reports.isEmpty then
        match timeout with
        | some milliseconds => (.ok [], kernel.advance (milliseconds * 1000000))
        | none => (.error endless, kernel)
      else (.ok reports, { kernel with watches })

end EventLoop.Kernel

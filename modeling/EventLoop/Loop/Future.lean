import EventLoop.Loop.Callback

/-!
# Futures

A future is resolved once: with a result, with an error, or by being cancelled. Until then it keeps
the reactions that it will bring about, in the order in which they were registered, and the timer
that will cancel it.
-/
namespace EventLoop

/-- A result of a future. -/
inductive Payload
  /-- Nothing but the fact that it happened. -/
  | unit
  /-- Data. -/
  | bytes (data : Bytes)
  /-- A dynamic value. -/
  | value (value : Value)
  /-- An accepted connection and the address at its other side. -/
  | connection (socket : SocketId) (peer : Address)
  deriving Inhabited

/-- The objects that a result keeps alive. -/
def Payload.refs : Payload → List Ref
  | unit | bytes _ | value _ => []
  | connection socket _ => [.socket socket]

/-- A result or an error. -/
abbrev Outcome := Except Error Payload

/-- How far a future is. -/
inductive FutureState
  /-- It is not resolved. -/
  | pending
  /-- It was cancelled. -/
  | cancelled
  /-- It has a result or an error. -/
  | finished
  deriving DecidableEq, Repr, Inhabited

/-- The word for a state. -/
def FutureState.text : FutureState → String
  | pending => "Pending"
  | cancelled => "Cancelled"
  | finished => "Finished"

/-- How a future is resolved. -/
inductive Resolution
  /-- By being cancelled. -/
  | cancel
  /-- With a result or an error. -/
  | finish (outcome : Outcome)
  deriving Inhabited

/-- What a future holds at each stage. -/
inductive FuturePhase
  /-- Reactions in the order of their registration, and the timer that will cancel the future. -/
  | pending (reactions : List Reaction) (timer : Option TimerId)
  /-- Nothing. -/
  | cancelled
  /-- The outcome, unless it was moved out. -/
  | finished (outcome : Option Outcome)
  deriving Inhabited

/-- A container for a result that is set once. -/
structure Future where
  /-- The type of result. -/
  kind : FutureKind
  /-- What it holds. -/
  phase : FuturePhase
  deriving Inhabited

namespace Future

/-- A future that is not resolved. -/
def new (kind : FutureKind) : Future := ⟨kind, .pending [] none⟩

/-- How far a future is. -/
def state (future : Future) : FutureState :=
  match future.phase with
  | .pending .. => .pending
  | .cancelled => .cancelled
  | .finished _ => .finished

/-- Whether a future is resolved. -/
def isDone (future : Future) : Bool := future.state != .pending

/-- The result of a future. -/
def result (future : Future) : Outcome :=
  match future.phase with
  | .pending .. => .error .notReady
  | .cancelled => .error .cancelled
  | .finished (some outcome) => outcome
  | .finished none => .error .resultTaken

/-- The stored error, if the future finished with one. -/
def error? (future : Future) : Option Error :=
  match future.phase with
  | .finished (some (.error error)) => some error
  | _ => none

/-- Moves the result out of a future. -/
def take (future : Future) : Outcome × Future :=
  match future.phase with
  | .finished (some outcome) => (outcome, { future with phase := .finished none })
  | _ => (future.result, future)

/-- The phase after a resolution. -/
def resolved : Resolution → FuturePhase
  | .cancel => .cancelled
  | .finish outcome => .finished (some outcome)

/-- What a future that was resolved sets free: its reactions and its timer. -/
structure Freed where
  /-- The reactions that are now due, in order. -/
  reactions : List Reaction
  /-- The timer that is no longer needed. -/
  timer : Option TimerId

/-- Resolves a future; it is refused if the future is resolved already. -/
def resolve (future : Future) (resolution : Resolution) : Except Error (Freed × Future) :=
  match future.phase with
  | .pending reactions timer => .ok (⟨reactions, timer⟩, { future with phase := resolved resolution })
  | _ => .error .alreadyDone

/-- The objects that a future keeps alive. -/
def refs (future : Future) : List Ref :=
  match future.phase with
  | .pending reactions _ => reactions.flatMap Reaction.refs
  | .cancelled | .finished none | .finished (some (.error _)) => []
  | .finished (some (.ok payload)) => payload.refs

/-- Whether anyone could notice that a future is gone: it has reactions that will not happen, or it
keeps something alive. -/
def isMissed (future : Future) : Bool :=
  match future.phase with
  | .pending reactions _ => !reactions.isEmpty
  | _ => !future.refs.isEmpty

/-- A future that nothing refers to brings nothing about and keeps nothing alive. -/
def emptied (future : Future) : Future :=
  match future.phase with
  | .pending _ timer => { future with phase := .pending [] timer }
  | .cancelled => future
  | .finished _ => { future with phase := .finished none }

/-- How a future shows itself. -/
def debugText (future : Future) : String := "Future \x7b state: " ++ future.state.text ++ " \x7d"

end Future

end EventLoop

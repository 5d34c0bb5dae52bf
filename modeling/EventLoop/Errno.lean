/-!
# Error numbers of the operating system

A system call that fails reports a number. This module names the numbers that occur and gives the
text that the system prints for each.
-/
namespace EventLoop

/-- The number of an operating system error. -/
structure Errno where
  /-- The number itself. -/
  number : Nat
  deriving DecidableEq, Repr, Inhabited

namespace Errno

/-- No such entry, such as a descriptor that is not being watched. -/
def noEntry : Errno := ⟨2⟩
/-- The call was interrupted before it had an effect. -/
def interrupted : Errno := ⟨4⟩
/-- The descriptor is not open. -/
def badDescriptor : Errno := ⟨9⟩
/-- The call would have to wait. -/
def wouldBlock : Errno := ⟨11⟩
/-- The entry exists already. -/
def alreadyExists : Errno := ⟨17⟩
/-- The call does not apply to this descriptor. -/
def invalid : Errno := ⟨22⟩
/-- Nobody will ever read what is written. -/
def brokenPipe : Errno := ⟨32⟩
/-- Waiting would never end. -/
def deadlock : Errno := ⟨35⟩
/-- Too many steps of one kind. -/
def tooMany : Errno := ⟨40⟩
/-- The address is taken. -/
def addressInUse : Errno := ⟨98⟩
/-- The address does not belong to this machine. -/
def addressUnavailable : Errno := ⟨99⟩
/-- The connection was aborted. -/
def aborted : Errno := ⟨103⟩
/-- The peer reset the connection. -/
def reset : Errno := ⟨104⟩
/-- The socket is connected already. -/
def connected : Errno := ⟨106⟩
/-- The socket is not connected. -/
def notConnected : Errno := ⟨107⟩
/-- Nobody listens at the address. -/
def refused : Errno := ⟨111⟩
/-- A connection attempt is under way already. -/
def already : Errno := ⟨114⟩
/-- The connection attempt has begun. -/
def inProgress : Errno := ⟨115⟩

/-- The system's description of each error number. -/
def descriptions : List (Nat × String) := [
  (0, "Success"),
  (1, "Operation not permitted"),
  (2, "No such file or directory"),
  (4, "Interrupted system call"),
  (5, "Input/output error"),
  (9, "Bad file descriptor"),
  (11, "Resource temporarily unavailable"),
  (12, "Cannot allocate memory"),
  (13, "Permission denied"),
  (17, "File exists"),
  (22, "Invalid argument"),
  (23, "Too many open files in system"),
  (24, "Too many open files"),
  (28, "No space left on device"),
  (32, "Broken pipe"),
  (35, "Resource deadlock avoided"),
  (40, "Too many levels of symbolic links"),
  (88, "Socket operation on non-socket"),
  (95, "Operation not supported"),
  (97, "Address family not supported by protocol"),
  (98, "Address already in use"),
  (99, "Cannot assign requested address"),
  (100, "Network is down"),
  (101, "Network is unreachable"),
  (103, "Software caused connection abort"),
  (104, "Connection reset by peer"),
  (105, "No buffer space available"),
  (106, "Transport endpoint is already connected"),
  (107, "Transport endpoint is not connected"),
  (110, "Connection timed out"),
  (111, "Connection refused"),
  (113, "No route to host"),
  (114, "Operation already in progress"),
  (115, "Operation now in progress")]

/-- The error of a number that stands for one; zero stands for success. -/
def nonzero? (error : Errno) : Option Errno := if error.number = 0 then none else some error

/-- The description of an error number; an unlisted number is described by itself. -/
def description (error : Errno) : String :=
  match descriptions.lookup error.number with
  | some text => text
  | none => "Unknown error " ++ toString error.number

/-- The text of an operating system error: its description and its number. -/
def message (error : Errno) : String :=
  error.description ++ " (os error " ++ toString error.number ++ ")"

end Errno

end EventLoop

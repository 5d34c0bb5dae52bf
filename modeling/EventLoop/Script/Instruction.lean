import EventLoop.Error
import EventLoop.Value
import EventLoop.Address
import EventLoop.Kernel.Basic

/-!
# Instructions

A script is a list of instructions. Those that finish at once may stand in every script; those that
may have to wait stand only in the program of a task. Objects are referred to by the names under
which they are stored. Each instruction has a label, under which the journal reports its result.
-/
namespace EventLoop

/-- The kinds of objects that are stored under names, each kind with names of its own. -/
inductive ObjectClass
  /-- Futures. -/
  | future
  /-- Tasks. -/
  | task
  /-- Timers. -/
  | timer
  /-- Wakers kept by parked tasks. -/
  | waker
  /-- Variables. -/
  | var
  /-- Locks. -/
  | lock
  /-- Semaphores. -/
  | semaphore
  /-- Events. -/
  | event
  /-- Conditions. -/
  | condition
  /-- Sockets. -/
  | socket
  /-- Transports. -/
  | transport
  /-- Servers. -/
  | server
  deriving DecidableEq, Repr, Inhabited

/-- The type of result that a future is for. -/
inductive FutureKind
  /-- A dynamic value. -/
  | value
  /-- Nothing but the fact that it happened. -/
  | unit
  /-- Data. -/
  | bytes
  /-- An accepted connection. -/
  | connection
  deriving DecidableEq, Repr, Inhabited

/-- The kinds of socket operations. -/
inductive OperationKind
  /-- Receiving data. -/
  | receive
  /-- Sending data. -/
  | send
  /-- Connecting. -/
  | connect
  /-- Accepting a connection. -/
  | accept
  deriving DecidableEq, Repr, Inhabited

/-- The word for a kind of socket operation. -/
def OperationKind.text : OperationKind → String
  | receive => "recv"
  | send => "send"
  | connect => "connect"
  | accept => "accept"

namespace Script

/-- Where a connection is to go. -/
inductive Target
  /-- To an address. -/
  | address (address : Address)
  /-- To the address on which a server listens. -/
  | server (name : String)
  deriving Repr, Inhabited

/-- Instructions on the loop and its clock. -/
inductive LoopInstruction
  /-- Ask the running loop to return. -/
  | stop
  /-- Ask the running loop to return, by way of its handle. -/
  | stopByHandle
  /-- Close the loop. -/
  | close
  /-- Give up the loop, which closes it. -/
  | giveUp
  /-- Whether the loop is running and whether it is closed. -/
  | state
  /-- What the handle of the loop shows. -/
  | handleState
  /-- The time. -/
  | now
  /-- Let time pass. -/
  | advance (time : Nat)
  /-- Cancel a timer. -/
  | cancelTimer (name : String)
  /-- When a timer is due and whether it was cancelled. -/
  | timerState (name : String)
  /-- Ask the loop to return, as another thread may. -/
  | remoteStop
  /-- Let the next poll of the scripted proactor fail. -/
  | failPoll (error : IoError)

/-- What a future is resolved with; its type decides which part counts. -/
structure Supply where
  /-- The value for a future of values. -/
  value : Value
  /-- The data for a future of data. -/
  data : Bytes
  /-- The socket for a future of connections. -/
  socket : String
  /-- The peer's address for a future of connections. -/
  peer : Option Address

/-- Instructions on futures. -/
inductive FutureInstruction
  /-- Make a future, perhaps with a timeout. -/
  | make (name : String) (kind : FutureKind) (timeout : Option Nat)
  /-- Make a future that is resolved after a delay. -/
  | sleep (name : String) (delay : Nat)
  /-- Resolve a future with a result. -/
  | setResult (name : String) (supply : Supply)
  /-- Resolve a future with an error. -/
  | setError (name : String) (error : Error)
  /-- Cancel a future. -/
  | cancel (name : String)
  /-- What a future shows. -/
  | state (name : String)
  /-- The result of a future. -/
  | result (name : String)
  /-- Store a future under another name too. -/
  | clone (name copy : String)
  /-- Whether two names stand for one future. -/
  | same (name other : String)

/-- Instructions on tasks and their wakers. -/
inductive TaskInstruction
  /-- Cancel a task. -/
  | cancel (name : String)
  /-- What a task shows. -/
  | state (name : String)
  /-- Store the future of a task's result. -/
  | resultFuture (name future : String)
  /-- Wake by a stored waker, perhaps from another thread. -/
  | wake (name : String) (foreign : Bool)
  /-- Set a variable. -/
  | setVar (name : String) (value : Value)

/-- How many permits a semaphore may hold. -/
inductive SemaphoreMode
  /-- Never more than it began with. -/
  | bounded
  /-- Any number, beginning with one. -/
  | default
  /-- Any number. -/
  | unbounded
  deriving DecidableEq, Repr, Inhabited

/-- Instructions on locks, semaphores, events and conditions. -/
inductive SyncInstruction
  /-- Make a lock. -/
  | makeLock (name : String)
  /-- Release a lock. -/
  | releaseLock (name : String)
  /-- What a lock shows. -/
  | lockState (name : String)
  /-- Make a semaphore. -/
  | makeSemaphore (name : String) (mode : SemaphoreMode) (permits : Nat)
  /-- Give a permit back. -/
  | releaseSemaphore (name : String)
  /-- What a semaphore shows. -/
  | semaphoreState (name : String)
  /-- Make an event. -/
  | makeEvent (name : String)
  /-- Set an event. -/
  | setEvent (name : String)
  /-- Clear an event. -/
  | clearEvent (name : String)
  /-- What an event shows. -/
  | eventState (name : String)
  /-- Make a condition, perhaps around a lock that exists. -/
  | makeCondition (name : String) (lock : Option String)
  /-- Store the lock of a condition. -/
  | conditionLock (name lock : String)
  /-- Release the lock of a condition. -/
  | releaseCondition (name : String)
  /-- Wake some of those who wait for a condition. -/
  | notify (name : String) (count : Nat)
  /-- Wake all who wait for a condition. -/
  | notifyAll (name : String)
  /-- What a condition shows. -/
  | conditionState (name : String)

/-- Instructions on sockets. -/
inductive SocketInstruction
  /-- Make two connected sockets. -/
  | pair (first second : String)
  /-- Make a socket for the family of an address. -/
  | stream (name : String) (address : Address)
  /-- Make a socket that listens at an address, given as text. -/
  | listener (name address : String)
  /-- What a socket shows. -/
  | state (name : String)
  /-- Close a socket. -/
  | close (name : String)
  /-- Store a socket under another name too. -/
  | clone (name copy : String)
  /-- Receive data. -/
  | receive (name : String) (limit : Nat) (future : String)
  /-- Send data. -/
  | send (name : String) (data : Bytes) (future : String)
  /-- Connect. -/
  | connect (name : String) (target : Target) (future : String)
  /-- Accept a connection. -/
  | accept (name future : String)
  /-- Store the socket of an accepted connection. -/
  | accepted (future name : String)

/-- A transport as a script refers to it. -/
inductive TransportRef
  /-- The transport of the protocol whose script this is. -/
  | own
  /-- A transport by its name. -/
  | named (name : String)
  deriving DecidableEq, Repr, Inhabited

/-- Instructions on transports and servers. -/
inductive TransportInstruction
  /-- Write data. -/
  | write (transport : TransportRef) (data : Bytes)
  /-- Close a transport once its data is sent. -/
  | close (transport : TransportRef)
  /-- Close a transport at once. -/
  | abort (transport : TransportRef)
  /-- What a transport shows. -/
  | state (transport : TransportRef)
  /-- Store the socket of a transport. -/
  | socket (transport : TransportRef) (name : String)
  /-- Close a server. -/
  | closeServer (name : String)
  /-- What a server shows. -/
  | serverState (name : String)
  /-- Have servers closed whenever a server makes a protocol. -/
  | closeOnConnection (name : String) (closes : List String)

/-- Which of the scripted proactor's operations is meant. -/
inductive OperationChoice
  /-- The one with a number. -/
  | index (index : Nat)
  /-- The latest of a kind that is not for the loop's own pipe. -/
  | latest (kind : OperationKind)

/-- Instructions on the scripted proactor and on the kernel itself. -/
inductive SystemInstruction
  /-- List the operations that were submitted. -/
  | operations
  /-- Store the future of a submitted operation. -/
  | operation (choice : OperationChoice) (future : String)
  /-- Arm a fault, perhaps for one socket only. -/
  | fault (call : Kernel.Call) (error : Errno) (times : Nat) (socket : Option String)
  /-- Send data past the proactor. -/
  | send (socket : String) (data : Bytes)
  /-- Receive data past the proactor. -/
  | receive (socket : String) (limit : Nat)
  /-- Leave an error pending at a socket. -/
  | fail (socket : String) (error : Errno)

/-- What a wait for a condition waits for. -/
inductive Predicate
  /-- That a variable has a value. -/
  | holds (name : String) (value : Value)
  /-- That it was asked often enough, of which so many times are over. -/
  | asked (needed made : Nat)

/-- Instructions that may have to wait. -/
inductive WaitInstruction
  /-- Await a future. -/
  | future (name : String)
  /-- Await a task and give its handle up. -/
  | task (name : String)
  /-- Await a delay. -/
  | sleep (delay : Nat)
  /-- Acquire a lock. -/
  | lock (name : String) (timeout : Option Nat)
  /-- Acquire a permit. -/
  | semaphore (name : String) (timeout : Option Nat)
  /-- Wait for an event. -/
  | event (name : String) (timeout : Option Nat)
  /-- Acquire the lock of a condition. -/
  | conditionLock (name : String) (timeout : Option Nat)
  /-- Wait to be notified. -/
  | condition (name : String) (timeout : Option Nat)
  /-- Wait until a predicate holds. -/
  | conditionUntil (name : String) (timeout : Option Nat) (predicate : Predicate)
  /-- Wake oneself and let others run. -/
  | yield
  /-- Store one's waker and let others run. -/
  | park (waker : String)

/-- What is held while a body runs. -/
inductive GuardInstruction
  /-- A lock. -/
  | lock (name : String)
  /-- A permit. -/
  | semaphore (name : String)

/-- The scripts of a protocol. -/
structure ProtocolScript (α : Type) where
  /-- What is done when the connection is made. -/
  made : List α
  /-- What is done when data arrives. -/
  data : List α
  /-- What is done when the peer sends nothing more. -/
  eof : List α
  /-- What is done when the connection is lost. -/
  lost : List α
  /-- Whether data that arrives is sent back first. -/
  echo : Bool
  /-- Whether the end of the stream and the loss of the connection pass unnoticed. -/
  minimal : Bool
  deriving Inhabited

/-- How a transport is opened. -/
structure TransportOptions where
  /-- The peer's address, where it is known. -/
  peer : Option Address
  /-- The future that is resolved once the transport is set up. -/
  waiter : Option String
  /-- Whether the transport does not read. -/
  writeOnly : Bool

/-- What a server listens on. -/
inductive ListenerSource
  /-- A socket that listens already. -/
  | socket (name : String)
  /-- A new socket bound to an address, given as text. -/
  | address (text : String)

/-- One instruction. -/
inductive Instruction
  /-- An instruction on the loop. -/
  | loop (instruction : LoopInstruction)
  /-- An instruction on a future. -/
  | future (instruction : FutureInstruction)
  /-- An instruction on a task. -/
  | task (instruction : TaskInstruction)
  /-- An instruction on a primitive. -/
  | sync (instruction : SyncInstruction)
  /-- An instruction on a socket. -/
  | socket (instruction : SocketInstruction)
  /-- An instruction on a transport or a server. -/
  | transport (instruction : TransportInstruction)
  /-- An instruction on what lies below the loop. -/
  | system (instruction : SystemInstruction)
  /-- Forget a name. -/
  | drop (kind : ObjectClass) (name : String)
  /-- Run a script at the next iteration. -/
  | callSoon (name : String) (body : List Instruction)
  /-- Run a script after a delay. -/
  | callLater (name : String) (delay : Nat) (body : List Instruction)
  /-- Run a script at a time. -/
  | callAt (name : String) (deadline : Nat) (body : List Instruction)
  /-- Ask the loop to run a script, as another thread may. -/
  | callRemote (name : String) (body : List Instruction)
  /-- Run a script once a future is done. -/
  | onDone (future : String) (name : String) (body : List Instruction)
  /-- Run a script once a task is done. -/
  | onTaskDone (task : String) (name : String) (body : List Instruction)
  /-- Begin a task. -/
  | spawn (name : String) (body : List Instruction)
  /-- Run iterations of the loop. -/
  | runOnce (times : Nat)
  /-- Run the loop until it is stopped. -/
  | runForever
  /-- Run the loop until a new task is done. -/
  | runUntilComplete (name : String) (body : List Instruction)
  /-- Open a transport on a socket. -/
  | openTransport (name socket : String) (options : TransportOptions)
      (script : ProtocolScript Instruction)
  /-- Open a server. -/
  | openServer (name : String) (source : ListenerSource) (script : ProtocolScript Instruction)
  /-- Wait. -/
  | wait (instruction : WaitInstruction)
  /-- Run a body while holding something. -/
  | guarded (resource : GuardInstruction) (timeout : Option Nat) (body : List Instruction)
  /-- Connect and open a transport. -/
  | createConnection (name : String) (target : Target) (script : ProtocolScript Instruction)
  /-- Run a body several times. -/
  | repeated (count : Nat) (body : List Instruction)
  /-- Run programs side by side until all have ended. -/
  | join (branches : List (List Instruction))
  /-- Run programs side by side until one has ended. -/
  | select (branches : List (List Instruction))
  /-- End the program with a value. -/
  | ret (value : Value)
  /-- End the program if the last value is this one. -/
  | retIf (value : Value)

/-- A list of instructions that run one after another. -/
abbrev Body := List Instruction

/-- The scripts of a protocol. -/
abbrev Protocol := ProtocolScript Instruction

instance : Inhabited Instruction := ⟨.ret .null⟩

/-- The label of an instruction on the loop. -/
def LoopInstruction.label : LoopInstruction → String
  | stop => "stop"
  | stopByHandle => "handle_stop"
  | close => "close"
  | giveUp => "drop_loop"
  | state => "loop_state"
  | handleState => "handle_state"
  | now => "now"
  | advance _ => "advance"
  | cancelTimer _ => "timer_cancel"
  | timerState _ => "timer_state"
  | remoteStop => "remote_stop"
  | failPoll _ => "poll_error"

/-- The label of an instruction on a future. -/
def FutureInstruction.label : FutureInstruction → String
  | make .. => "future"
  | sleep .. => "sleep_future"
  | setResult .. => "set_result"
  | setError .. => "set_error"
  | cancel _ => "cancel"
  | state _ => "state"
  | result _ => "result"
  | clone .. => "clone_future"
  | same .. => "same_future"

/-- The label of an instruction on a task. -/
def TaskInstruction.label : TaskInstruction → String
  | cancel _ => "task_cancel"
  | state _ => "task_state"
  | resultFuture .. => "task_future"
  | wake .. => "wake"
  | setVar .. => "set_var"

/-- The label of an instruction on a primitive. -/
def SyncInstruction.label : SyncInstruction → String
  | makeLock _ => "lock"
  | releaseLock _ => "lock_release"
  | lockState _ => "lock_state"
  | makeSemaphore .. => "sem"
  | releaseSemaphore _ => "sem_release"
  | semaphoreState _ => "sem_state"
  | makeEvent _ => "event"
  | setEvent _ => "event_set"
  | clearEvent _ => "event_clear"
  | eventState _ => "event_state"
  | makeCondition .. => "cond"
  | conditionLock .. => "cond_lock"
  | releaseCondition _ => "cond_release"
  | notify .. => "cond_notify"
  | notifyAll _ => "cond_notify_all"
  | conditionState _ => "cond_state"

/-- The label of an instruction on a socket. -/
def SocketInstruction.label : SocketInstruction → String
  | pair .. => "pair"
  | stream .. => "stream"
  | listener .. => "listener"
  | state _ => "sock_state"
  | close _ => "sock_close"
  | clone .. => "clone_sock"
  | receive .. => "recv"
  | send .. => "send"
  | connect .. => "connect"
  | accept .. => "accept"
  | accepted .. => "accepted"

/-- The label of an instruction on a transport or a server. -/
def TransportInstruction.label : TransportInstruction → String
  | write .. => "write"
  | close _ => "t_close"
  | abort _ => "t_abort"
  | state _ => "t_state"
  | socket .. => "t_sock"
  | closeServer _ => "server_close"
  | serverState _ => "server_state"
  | closeOnConnection .. => "server_closes"

/-- The label of an instruction on what lies below the loop. -/
def SystemInstruction.label : SystemInstruction → String
  | operations => "io_list"
  | operation .. => "io"
  | fault .. => "fault"
  | send .. => "k_send"
  | receive .. => "k_recv"
  | fail .. => "k_error"

/-- The label of an instruction that may have to wait. -/
def WaitInstruction.label : WaitInstruction → String
  | future _ => "await"
  | task _ => "await_task"
  | sleep _ => "sleep"
  | lock .. => "lock_acquire"
  | semaphore .. => "sem_acquire"
  | event .. => "event_wait"
  | conditionLock .. => "cond_acquire"
  | condition .. => "cond_wait"
  | conditionUntil .. => "cond_wait_for"
  | yield => "yield"
  | park _ => "park"

/-- The label of an instruction. -/
def Instruction.label : Instruction → String
  | loop instruction => instruction.label
  | future instruction => instruction.label
  | task instruction => instruction.label
  | sync instruction => instruction.label
  | socket instruction => instruction.label
  | transport instruction => instruction.label
  | system instruction => instruction.label
  | wait instruction => instruction.label
  | drop .. => "drop"
  | callSoon .. => "call_soon"
  | callLater .. => "call_later"
  | callAt .. => "call_at"
  | callRemote .. => "remote_call"
  | onDone .. | onTaskDone .. => "on_done"
  | spawn .. => "spawn"
  | runOnce _ => "run_once"
  | runForever => "run_forever"
  | runUntilComplete .. => "run_until_complete"
  | openTransport .. => "transport"
  | openServer .. => "server"
  | guarded (.lock _) .. => "lock_guard"
  | guarded (.semaphore _) .. => "sem_guard"
  | createConnection .. => "create_connection"
  | repeated .. => "loop"
  | join _ => "join"
  | select _ => "select"
  | ret _ => "return"
  | retIf _ => "return_if"

end Script

end EventLoop

import EventLoop.Value

/-!
# The journal

What happens is written down as entries: the time, who did it, what was done and a value that goes
with it. System calls, polls and the fate of programs are written down only where that was asked
for, and messages only from the level on that was asked for.
-/
namespace EventLoop

/-- How grave a message is. -/
inductive Level
  /-- Something failed. -/
  | error
  /-- Something looks wrong. -/
  | warn
  /-- Something of interest to a developer happened. -/
  | debug
  /-- Anything at all happened. -/
  | trace
  deriving DecidableEq, Repr, Inhabited

namespace Level

/-- The graver, the smaller. -/
def rank : Level → Nat
  | error => 1
  | warn => 2
  | debug => 3
  | trace => 4

/-- The word for a level. -/
def text : Level → String
  | error => "ERROR"
  | warn => "WARN"
  | debug => "DEBUG"
  | trace => "TRACE"

end Level

/-- What is to be written down. -/
structure JournalSettings where
  /-- The least grave level of messages. -/
  level : Level := .warn
  /-- Whether the polls of tasks and the end of their programs are. -/
  tasks : Bool := false
  /-- Whether the polls of the scripted proactor are. -/
  polls : Bool := false
  /-- Whether system calls are. -/
  calls : Bool := false
  deriving DecidableEq, Repr, Inhabited

/-- What happened so far. -/
structure Journal where
  /-- What is to be written down. -/
  settings : JournalSettings
  /-- The entries, the latest first. -/
  latest : List Value
  deriving Inhabited

namespace Journal

/-- A journal without entries. -/
def empty (settings : JournalSettings) : Journal := ⟨settings, []⟩

/-- Writes an entry down. -/
def record (journal : Journal) (time : Nat) (who what : String) (value : Value) : Journal :=
  { journal with latest := .list [.nat time, .str who, .str what, value] :: journal.latest }

/-- Writes a message down, if its level is wanted. -/
def message (journal : Journal) (time : Nat) (level : Level) (text : String) : Journal :=
  if level.rank ≤ journal.settings.level.rank then journal.record time "log" level.text (.str text)
  else journal

/-- Writes a system call down, if those are wanted. -/
def call (journal : Journal) (time : Nat) (name : String) (arguments : List Value)
    (result : Value) : Journal :=
  if journal.settings.calls then
    let entry := .list [.nat time, .str "sys", .str name, .list arguments, result]
    { journal with latest := entry :: journal.latest }
  else journal

/-- The entries in the order in which they were written, and the journal without them. -/
def take (journal : Journal) : List Value × Journal :=
  (journal.latest.reverse, { journal with latest := [] })

end Journal

end EventLoop

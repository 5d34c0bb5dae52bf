import EventLoop.Loop.Callback
import EventLoop.Table

/-!
# Timers

Callbacks that are due at a time, the earliest first; of several that are due at one time, the one
that was scheduled first comes first. A cancelled timer stays in its place until its turn comes, and
is then passed over.
-/
namespace EventLoop

/-- What a timer shows to whoever scheduled it. -/
structure Timer where
  /-- When it is due. -/
  deadline : Nat
  /-- Whether it was cancelled. -/
  cancelled : Bool
  deriving DecidableEq, Repr, Inhabited

/-- A callback that is due at a time. -/
structure TimerEntry where
  /-- When it is due. -/
  deadline : Nat
  /-- The number of its timer; timers are numbered in the order in which they were scheduled. -/
  id : TimerId
  /-- What is to be done. -/
  callback : Callback

/-- The objects that an entry keeps alive. -/
def TimerEntry.refs (entry : TimerEntry) : List Ref := entry.callback.refs

/-- All timers, and the entries whose turn has not come. -/
structure Timers where
  /-- The timers by their number. -/
  table : Table Timer := ∅
  /-- The entries in the order of their turns. -/
  entries : List TimerEntry := []
  deriving Inhabited

namespace Timers

/-- Whether the first entry's turn comes before the second's. -/
def precedes (first second : TimerEntry) : Bool :=
  first.deadline < second.deadline || (first.deadline == second.deadline && first.id < second.id)

/-- Inserts an entry at its place. -/
def insertEntry (entry : TimerEntry) : List TimerEntry → List TimerEntry
  | [] => [entry]
  | other :: rest =>
    if precedes entry other then entry :: other :: rest else other :: insertEntry entry rest

/-- Schedules a callback. -/
def schedule (timers : Timers) (deadline : Nat) (callback : Callback) : TimerId × Timers :=
  let id := timers.table.size
  (id, { table := timers.table.push ⟨deadline, false⟩,
         entries := insertEntry ⟨deadline, id, callback⟩ timers.entries })

/-- A timer that is cancelled from the beginning and has no entry. -/
def refuse (timers : Timers) (deadline : Nat) : TimerId × Timers :=
  (timers.table.size, { timers with table := timers.table.push ⟨deadline, true⟩ })

/-- Cancels a timer. -/
def cancel (timers : Timers) (id : TimerId) : Timers :=
  { timers with table := timers.table.modify id fun timer => { timer with cancelled := true } }

/-- Whether a timer was cancelled. -/
def isCancelled (timers : Timers) (id : TimerId) : Bool :=
  match timers.table.get? id with
  | some timer => timer.cancelled
  | none => false

/-- Splits entries into the cancelled ones at the front and the rest. -/
def splitCancelled (timers : Timers) : List TimerEntry × List TimerEntry :=
  timers.entries.span fun entry => timers.isCancelled entry.id

/-- When the next timer is due that was not cancelled; the cancelled entries before it are removed
and returned. -/
def next (timers : Timers) : Option Nat × List TimerEntry × Timers :=
  let (removed, rest) := timers.splitCancelled
  (rest.head?.map (·.deadline), removed, { timers with entries := rest })

/-- Removes the entries that are due: the callbacks of those that were not cancelled, and the
entries that were. -/
def takeDue (timers : Timers) (now : Nat) : List Callback × List TimerEntry × Timers :=
  let (due, rest) := timers.entries.span fun entry => entry.deadline ≤ now
  let (removed, kept) := due.partition fun entry => timers.isCancelled entry.id
  (kept.map (·.callback), removed, { timers with entries := rest })

/-- The objects that waiting callbacks keep alive. -/
def refs (timers : Timers) : List Ref := timers.entries.flatMap TimerEntry.refs

/-- An entry comes first if its deadline is earlier, or its number is smaller at one deadline. -/
theorem precedes_iff {first second : TimerEntry} :
    precedes first second = true ↔
      first.deadline < second.deadline ∨
        first.deadline = second.deadline ∧ first.id < second.id := by
  simp [precedes]

/-- The turn of one entry is never before itself. -/
theorem not_precedes_self (entry : TimerEntry) : precedes entry entry = false := by
  simp [precedes]

/-- What comes before something comes before all that is after it. -/
theorem precedes_trans {first second third : TimerEntry} (before : precedes first second = true)
    (after : precedes second third = true) : precedes first third = true := by
  rcases precedes_iff.mp before with sooner | ⟨same, sooner⟩ <;>
    rcases precedes_iff.mp after with later | ⟨equal, later⟩ <;> refine precedes_iff.mpr ?_
  · exact Or.inl (Nat.lt_trans sooner later)
  · exact Or.inl (equal ▸ sooner)
  · exact Or.inl (same ▸ later)
  · exact Or.inr ⟨same.trans equal, Nat.lt_trans sooner later⟩

/-- Of two entries of different timers one has its turn before the other. -/
theorem precedes_total {first second : TimerEntry} (differ : first.id ≠ second.id) :
    precedes first second = true ∨ precedes second first = true := by
  rcases Nat.lt_trichotomy first.deadline second.deadline with sooner | same | later
  · exact Or.inl (precedes_iff.mpr (Or.inl sooner))
  · rcases Nat.lt_or_gt_of_ne differ with lower | higher
    · exact Or.inl (precedes_iff.mpr (Or.inr ⟨same, lower⟩))
    · exact Or.inr (precedes_iff.mpr (Or.inr ⟨same.symm, higher⟩))
  · exact Or.inr (precedes_iff.mpr (Or.inl later))

/-- An entry that is inserted stands among the others. -/
@[simp] theorem mem_insertEntry {entry other : TimerEntry} {entries : List TimerEntry} :
    other ∈ insertEntry entry entries ↔ other = entry ∨ other ∈ entries := by
  induction entries with
  | nil => simp [insertEntry]
  | cons first rest ih =>
    unfold insertEntry
    split
    · simp
    · simp only [List.mem_cons, ih]
      exact or_left_comm

/-- Entries in the order of their turns stay in it when another timer's entry is inserted. -/
theorem pairwise_insertEntry {entry : TimerEntry} {entries : List TimerEntry}
    (ordered : entries.Pairwise fun first second => precedes first second = true)
    (fresh : ∀ other ∈ entries, other.id ≠ entry.id) :
    (insertEntry entry entries).Pairwise fun first second => precedes first second = true := by
  induction entries with
  | nil => simp [insertEntry]
  | cons first rest ih =>
    obtain ⟨head, tail⟩ := List.pairwise_cons.mp ordered
    unfold insertEntry
    split
    case isTrue before =>
      refine List.pairwise_cons.mpr ⟨fun other member => ?_, ordered⟩
      rcases List.mem_cons.mp member with rfl | member
      · exact before
      · exact precedes_trans before (head other member)
    case isFalse before =>
      have after := (precedes_total (fresh first List.mem_cons_self)).resolve_right before
      refine List.pairwise_cons.mpr ⟨fun other member => ?_,
        ih tail fun other member => fresh other (List.mem_cons_of_mem first member)⟩
      rcases mem_insertEntry.mp member with rfl | member
      · exact after
      · exact head other member

end Timers

end EventLoop

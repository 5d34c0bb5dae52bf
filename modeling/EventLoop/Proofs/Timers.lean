import EventLoop.Proofs.Loop
import Mathlib.Data.List.TakeDrop
import Mathlib.Logic.Relation

/-!
# What becomes of timers

Whatever the loop does to its timers is made of a few steps. Each of them leaves the entries in the order
of their turns, keeps the deadline of every timer, and revives no timer that was cancelled. An entry is
there from the moment at which its timer is scheduled until it is removed for good, so a timer that is
cancelled before that is passed over.
-/
namespace EventLoop

namespace Timers

variable {collects : Prop} {timers before after : Timers} {id : TimerId}

/-! ## Steps -/

/-- What may happen to the timers; only some steps collect entries whose timers were not cancelled. -/
inductive Step (collects : Prop) : Timers → Timers → Prop
  /-- A callback is scheduled. -/
  | scheduled (timers : Timers) (deadline : Nat) (callback : Callback) :
      Step collects timers (timers.schedule deadline callback).2
  /-- A timer is made that is cancelled from the beginning. -/
  | refused (timers : Timers) (deadline : Nat) : Step collects timers (timers.refuse deadline).2
  /-- A timer is cancelled. -/
  | cancelled (timers : Timers) (id : TimerId) : Step collects timers (timers.cancel id)
  /-- The cancelled entries at the front are removed. -/
  | passed (timers : Timers) : Step collects timers timers.next.2.2
  /-- The entries that are due are removed. -/
  | taken (timers : Timers) (may : collects) (now : Nat) :
      Step collects timers (timers.takeDue now).2.2
  /-- All entries are removed. -/
  | emptied (timers : Timers) (may : collects) : Step collects timers { timers with entries := [] }

/-- What the timers come to, step by step. -/
def Steps (collects : Prop) : Timers → Timers → Prop := Relation.ReflTransGen (Step collects)

/-- The cancelled entries at the front are removed before the next one is looked at. -/
theorem snd_next (timers : Timers) : timers.next.2.2 =
    { timers with entries := timers.entries.dropWhile fun entry => timers.isCancelled entry.id } := by
  unfold next splitCancelled
  rw [List.span_eq_takeWhile_dropWhile]

/-- The entries of timers that were not cancelled, up to the first that is not due. -/
def due (timers : Timers) (now : Nat) : List TimerEntry :=
  (timers.entries.takeWhile fun entry => entry.deadline ≤ now).filter
    fun entry => !timers.isCancelled entry.id

/-- The callbacks of the entries that are due are taken. -/
theorem fst_takeDue (timers : Timers) (now : Nat) :
    (timers.takeDue now).1 = (timers.due now).map TimerEntry.callback := by
  unfold takeDue due
  simp only [List.span_eq_takeWhile_dropWhile, List.partition_eq_filter_filter]
  rfl

/-- The entries are left from the first on that is not due. -/
theorem snd_takeDue (timers : Timers) (now : Nat) : (timers.takeDue now).2.2 =
    { timers with entries := timers.entries.dropWhile fun entry => entry.deadline ≤ now } := by
  unfold takeDue
  rw [List.span_eq_takeWhile_dropWhile]

/-! ## The order of turns -/

/-- In the order of turns, the entries up to the first that is not due are all those that are due. -/
theorem takeWhile_eq_filter {entries : List TimerEntry}
    (order : entries.Pairwise fun first second => precedes first second = true) (now : Nat) :
    (entries.takeWhile fun entry => entry.deadline ≤ now) =
      entries.filter fun entry => entry.deadline ≤ now := by
  induction entries with
  | nil => rfl
  | cons first rest ih =>
    obtain ⟨before, order⟩ := List.pairwise_cons.mp order
    by_cases due : first.deadline ≤ now
    · rw [List.takeWhile_cons_of_pos (by simpa using due), List.filter_cons_of_pos (by simpa using due),
        ih order]
    · rw [List.takeWhile_cons_of_neg (by simpa using due), List.filter_cons_of_neg (by simpa using due),
        eq_comm, List.filter_eq_nil_iff]
      intro later waits
      rw [decide_eq_true_iff]
      rcases precedes_iff.mp (before later waits) with sooner | ⟨same, -⟩
      · exact fun passed => due (Nat.le_trans (Nat.le_of_lt sooner) passed)
      · exact fun passed => due (same ▸ passed)

/-- The entries are in the order of their turns and have the deadlines of their timers. -/
structure Sorted (timers : Timers) : Prop where
  /-- The turn of each is before the turns of those after it. -/
  order : timers.entries.Pairwise fun first second => precedes first second = true
  /-- Their timers exist. -/
  known : ∀ entry ∈ timers.entries,
    ∃ timer, timers.table.get? entry.id = some timer ∧ timer.deadline = entry.deadline

namespace Sorted

/-- Without entries there is nothing out of order. -/
theorem of_empty (empty : timers.entries = []) : timers.Sorted := by
  refine ⟨?_, fun entry waits => ?_⟩
  · rw [empty]
    exact List.Pairwise.nil
  · rw [empty] at waits
    cases waits

/-- Entries may be removed. -/
theorem removed (sorted : before.Sorted) (table : after.table = before.table)
    (fewer : after.entries.Sublist before.entries) : after.Sorted where
  order := sorted.order.sublist fewer
  known entry waits := by
    rw [table]
    exact sorted.known entry (fewer.subset waits)

/-- A timer may be added without an entry. -/
theorem pushed (sorted : timers.Sorted) (timer : Timer) :
    Sorted { timers with table := timers.table.push timer } where
  order := sorted.order
  known entry waits := by
    obtain ⟨known, found, same⟩ := sorted.known entry waits
    refine ⟨known, ?_, same⟩
    rw [Table.get?_push, if_neg (Nat.ne_of_lt (Table.lt_size_of_get? found))]
    exact found

/-- A step keeps the order of turns. -/
theorem step (sorted : before.Sorted) (step : Step collects before after) : after.Sorted := by
  cases step with
  | scheduled deadline callback =>
    have pushed := sorted.pushed ⟨deadline, false⟩
    refine ⟨pairwise_insertEntry sorted.order fun other waits => ?_, fun other waits => ?_⟩
    · obtain ⟨timer, found, -⟩ := sorted.known other waits
      exact Nat.ne_of_lt (Table.lt_size_of_get? found)
    · rcases mem_insertEntry.mp waits with rfl | old
      · refine ⟨⟨deadline, false⟩, ?_, rfl⟩
        exact (Table.get?_push _ _ _).trans (if_pos rfl)
      · exact pushed.known other old
  | refused deadline => exact sorted.pushed ⟨deadline, true⟩
  | cancelled id =>
    refine ⟨sorted.order, fun entry waits => ?_⟩
    obtain ⟨timer, found, same⟩ := sorted.known entry waits
    unfold cancel
    dsimp only
    rw [Table.get?_modify, found]
    split
    · exact ⟨_, rfl, same⟩
    · exact ⟨_, rfl, same⟩
  | passed =>
    rw [snd_next]
    exact sorted.removed rfl (List.dropWhile_sublist _)
  | taken may now =>
    rw [snd_takeDue]
    exact sorted.removed rfl (List.dropWhile_sublist _)
  | emptied may => exact of_empty rfl

/-- The order of turns is kept for good. -/
theorem steps (sorted : before.Sorted) (steps : Steps collects before after) : after.Sorted := by
  induction steps with
  | refl => exact sorted
  | tail _ last ih => exact ih.step last

/-- A timer has one entry at most. -/
theorem nodup (sorted : timers.Sorted) : (timers.entries.map TimerEntry.id).Nodup := by
  refine List.pairwise_map.mpr (sorted.order.imp_of_mem fun {first second} here there before same => ?_)
  obtain ⟨timer, found, deadline⟩ := sorted.known first here
  obtain ⟨other, found', deadline'⟩ := sorted.known second there
  rw [same, found'] at found
  cases found
  rcases precedes_iff.mp before with sooner | ⟨-, lower⟩
  · exact Nat.ne_of_lt sooner (deadline.symm.trans deadline')
  · exact Nat.ne_of_lt lower same

/-- The callbacks that are taken at a time are those of all entries that are due and whose timers were not
cancelled. -/
theorem due_eq (sorted : timers.Sorted) (now : Nat) : timers.due now =
    timers.entries.filter fun entry => !timers.isCancelled entry.id && decide (entry.deadline ≤ now) := by
  rw [due, takeWhile_eq_filter sorted.order, List.filter_filter]

/-- When those that are due were taken, no entry is due. -/
theorem lt_deadline (sorted : timers.Sorted) {now : Nat} {entries : List TimerEntry}
    (taken : timers.entries = entries.dropWhile fun entry => entry.deadline ≤ now) :
    ∀ entry ∈ timers.entries, now < entry.deadline := by
  have order := sorted.order
  have first := List.head?_dropWhile_not (fun entry : TimerEntry => entry.deadline ≤ now) entries
  rw [← taken] at first
  cases left : timers.entries with
  | nil => exact fun _ waits => nomatch waits
  | cons entry rest =>
    rw [left] at first order
    have late : now < entry.deadline := by simpa using first
    intro other waits
    rcases List.mem_cons.mp waits with rfl | later
    · exact late
    · have before := (List.pairwise_cons.mp order).1 other later
      rw [precedes_iff] at before
      omega

end Sorted

/-! ## What is kept -/

/-- No timer is forgotten or revived, and no entry comes back. -/
structure Abides (before after : Timers) : Prop where
  /-- A timer keeps its deadline, and one that was cancelled stays so. -/
  kept : ∀ {id timer}, before.table.get? id = some timer → ∃ later,
    after.table.get? id = some later ∧ later.deadline = timer.deadline ∧
      (timer.cancelled = true → later.cancelled = true)
  /-- An entry that waits was there or is that of a new timer. -/
  old : ∀ entry ∈ after.entries, entry ∈ before.entries ∨ before.table.get? entry.id = none

namespace Abides

/-- Entries may be removed. -/
theorem removed (table : after.table = before.table) (fewer : after.entries ⊆ before.entries) :
    Abides before after where
  kept {_ timer} found := ⟨timer, table ▸ found, rfl, fun cancelled => cancelled⟩
  old _ waits := Or.inl (fewer waits)

/-- Timers abide when nothing happens. -/
theorem refl (timers : Timers) : Abides timers timers := removed rfl (List.Subset.refl _)

/-- Timers that abide twice abide. -/
theorem trans {middle : Timers} (first : Abides before middle) (second : Abides middle after) :
    Abides before after where
  kept found := by
    obtain ⟨later, found, deadline, stays⟩ := first.kept found
    obtain ⟨last, found, deadline', stays'⟩ := second.kept found
    exact ⟨last, found, deadline'.trans deadline, fun cancelled => stays' (stays cancelled)⟩
  old entry waits := by
    refine (second.old entry waits).elim (first.old entry) fun new => Or.inr ?_
    by_contra known
    obtain ⟨timer, found⟩ := Option.ne_none_iff_exists'.mp known
    obtain ⟨later, found, -⟩ := first.kept found
    rw [found] at new
    cases new

/-- A timer may be added, with an entry or without. -/
theorem pushed (timer : Timer) {entries : List TimerEntry}
    (old : ∀ entry ∈ entries, entry ∈ before.entries ∨ entry.id = before.table.size) :
    Abides before { table := before.table.push timer, entries } where
  kept {_ timer} found := by
    refine ⟨timer, ?_, rfl, fun cancelled => cancelled⟩
    rw [Table.get?_push, if_neg (Nat.ne_of_lt (Table.lt_size_of_get? found))]
    exact found
  old entry waits := by
    refine (old entry waits).imp_right fun new => ?_
    exact new ▸ Table.get?_eq_none (Nat.le_refl _)

/-- A step forgets and revives no timer, and brings no entry back. -/
theorem of_step (step : Step collects before after) : Abides before after := by
  cases step with
  | scheduled deadline callback =>
    refine pushed _ fun entry waits => ?_
    rcases mem_insertEntry.mp waits with rfl | old
    · exact Or.inr rfl
    · exact Or.inl old
  | refused => exact pushed _ fun _ waits => Or.inl waits
  | cancelled id =>
    refine ⟨fun {other timer} found => ?_, fun _ waits => Or.inl waits⟩
    unfold cancel
    dsimp only
    rw [Table.get?_modify, found]
    split
    · exact ⟨_, rfl, rfl, fun _ => rfl⟩
    · exact ⟨_, rfl, rfl, fun cancelled => cancelled⟩
  | passed =>
    rw [snd_next]
    exact removed rfl (List.dropWhile_sublist _).subset
  | taken may now =>
    rw [snd_takeDue]
    exact removed rfl (List.dropWhile_sublist _).subset
  | emptied may => exact removed rfl (List.nil_subset _)

/-- Nothing that becomes of the timers forgets or revives one. -/
theorem of_steps (steps : Steps collects before after) : Abides before after := by
  induction steps with
  | refl => exact refl before
  | tail _ last ih => exact ih.trans (of_step last)

/-- A timer that was cancelled stays so. -/
theorem isCancelled (abides : Abides before after) (cancelled : before.isCancelled id = true) :
    after.isCancelled id = true := by
  unfold Timers.isCancelled at cancelled ⊢
  cases found : before.table.get? id with
  | none =>
    rw [found] at cancelled
    cases cancelled
  | some timer =>
    rw [found] at cancelled
    obtain ⟨later, found, -, stays⟩ := abides.kept found
    rw [found]
    exact stays cancelled

end Abides

/-- Nothing is collected: an entry stays unless its timer is cancelled. -/
structure Bides (before after : Timers) : Prop extends Abides before after where
  /-- It is still there if its timer was not cancelled by then. -/
  stays : ∀ entry ∈ before.entries, after.isCancelled entry.id = false → entry ∈ after.entries

namespace Bides

/-- Timers bide when nothing happens. -/
theorem refl (timers : Timers) : Bides timers timers := ⟨.refl timers, fun _ waits _ => waits⟩

/-- Timers that bide twice bide. -/
theorem trans {middle : Timers} (first : Bides before middle) (second : Bides middle after) :
    Bides before after where
  toAbides := first.toAbides.trans second.toAbides
  stays entry waits live := by
    have earlier : middle.isCancelled entry.id = false := by
      by_contra cancelled
      rw [Bool.not_eq_false] at cancelled
      rw [second.isCancelled cancelled] at live
      cases live
    exact second.stays entry (first.stays entry waits earlier) live

/-- A step that collects nothing removes no entry whose timer was not cancelled. -/
theorem of_step (step : Step False before after) : Bides before after := by
  refine ⟨.of_step step, fun entry waits live => ?_⟩
  cases step with
  | scheduled => exact mem_insertEntry.mpr (Or.inr waits)
  | refused | cancelled => exact waits
  | passed =>
    rw [snd_next] at live ⊢
    have parted : before.entries.takeWhile (before.isCancelled ·.id) ++
        before.entries.dropWhile (before.isCancelled ·.id) = before.entries :=
      List.takeWhile_append_dropWhile
    rw [← parted, List.mem_append] at waits
    refine waits.resolve_left fun passed => ?_
    have cancelled := List.all_eq_true.mp List.all_takeWhile entry passed
    rw [show before.isCancelled entry.id = false from live] at cancelled
    cases cancelled
  | taken may | emptied may => exact may.elim

/-- Neither do many of them. -/
theorem of_steps (steps : Steps False before after) : Bides before after := by
  induction steps with
  | refl => exact refl before
  | tail _ last ih => exact ih.trans (of_step last)

end Bides

end Timers

namespace Loop

/-! ## The timers of the loop -/

/-- Something becomes of the timers on the way from one loop to another. -/
structure Ages (collects : Prop) (loop other : Loop) : Prop where
  /-- Step by step. -/
  steps : Timers.Steps collects loop.timers other.timers

namespace Ages

variable {collects : Prop} {loop : Loop}

/-- The same timers are as old as before. -/
theorem of_eq {other : Loop} (same : other.timers = loop.timers) : loop.Ages collects other := by
  refine ⟨?_⟩
  rw [same]
  exact .refl

/-- Nothing becomes of the timers when nothing happens. -/
theorem refl (loop : Loop) : loop.Ages collects loop := of_eq rfl

/-- What becomes of the timers goes on step by step. -/
theorem trans {first second third : Loop} (before : first.Ages collects second)
    (after : second.Ages collects third) : first.Ages collects third :=
  ⟨Relation.ReflTransGen.trans before.steps after.steps⟩

/-- What changes before it apart from the timers does not matter. -/
theorem since {other last : Loop} (ages : other.Ages collects last)
    (same : other.timers = loop.timers) : loop.Ages collects last :=
  (of_eq same).trans ages

/-- One step is taken. -/
theorem single {other : Loop} (step : Timers.Step collects loop.timers other.timers) :
    loop.Ages collects other :=
  ⟨Relation.ReflTransGen.single step⟩

/-- Making a callback ready leaves the timers alone. -/
theorem callSoon (loop : Loop) (callback : Callback) :
    loop.Ages collects (loop.callSoon callback) := by
  rw [callSoon_eq]
  exact of_eq rfl

/-- Scheduling a callback for a time adds a timer, with an entry unless the loop is closed. -/
theorem callAt (loop : Loop) (deadline : Nat) (callback : Callback) :
    loop.Ages collects (loop.callAt deadline callback).2 := by
  rw [callAt_eq]
  cases closed : loop.closed with
  | true => exact single (.refused loop.timers deadline)
  | false => exact single (.scheduled loop.timers deadline callback)

/-- Cancelling a timer marks it, and its entry may go. -/
theorem cancelTimer (loop : Loop) (id : TimerId) : loop.Ages collects (loop.cancelTimer id) :=
  single (.cancelled loop.timers id)

/-- Making a future, with a timeout or without, adds a timer at most. -/
theorem makeTimed (loop : Loop) (kind : FutureKind) (now : Nat) (timeout : Option Nat) :
    loop.Ages collects (loop.makeTimed kind now timeout).2 := by
  cases timeout with
  | none => exact of_eq rfl
  | some delay => exact (callAt loop (now + delay) (.expire loop.futures.size)).trans (of_eq rfl)

/-- Resolving a future cancels the timer of the future at most. -/
theorem resolve (loop : Loop) (id : FutureId) (resolution : Resolution) :
    loop.Ages collects (loop.resolve id resolution).2 := by
  rw [resolve_eq]
  split
  · rename_i timer _
    rw [replaceFuture_eq]
    cases timer with
    | none => exact of_eq rfl
    | some timer => exact single (.cancelled loop.timers timer)
  · exact refl loop

/-- Registering a reaction leaves the timers alone. -/
theorem whenDone (loop : Loop) (id : FutureId) (reaction : Reaction) :
    loop.Ages collects (loop.whenDone id reaction) := by
  rw [whenDone_eq]
  split
  · exact of_eq rfl
  · exact callSoon loop _

/-- Awaiting a future leaves the timers alone, even if it has to wait. -/
theorem await (loop : Loop) (wait : Wait) (waker : Nat) :
    loop.Ages collects (loop.await wait waker).2 := by
  unfold Loop.await
  split
  · exact refl loop
  · split
    · exact of_eq rfl
    · exact (whenDone _ wait.future (.wake loop.cells.size)).since rfl

/-- Making a poll of a task ready leaves the timers alone. -/
theorem schedule (loop : Loop) (id : TaskId) : loop.Ages collects (loop.schedule id) := by
  unfold Loop.schedule
  split
  · exact (callSoon _ _).since rfl
  · exact refl loop

/-- Removing a task from the live ones leaves the timers alone. -/
theorem retire (loop : Loop) (task : Task) : loop.Ages collects (loop.retire task) := by
  unfold Loop.retire
  split
  · exact refl loop
  · exact of_eq rfl

/-- Spawning a task leaves the timers alone, except that on a closed loop the result is cancelled. -/
theorem spawn (loop : Loop) (name : String) (body : Script.Body) :
    loop.Ages collects (loop.spawn name body).2 := by
  unfold Loop.spawn makeFuture addFuture
  dsimp only
  split
  · exact (resolve _ _ _).since rfl
  · exact (schedule _ _).since rfl

/-- Taking the program out of a task leaves the timers alone. -/
theorem beginPoll (loop : Loop) (id : TaskId) : loop.Ages collects (loop.beginPoll id).2 := by
  unfold Loop.beginPoll
  split
  · exact of_eq rfl
  · exact refl loop

/-- Putting a program back into its task leaves the timers alone. -/
theorem endPoll (loop : Loop) (id : TaskId) (activity : Script.Activity) :
    loop.Ages collects (loop.endPoll id activity).2 := by
  unfold Loop.endPoll
  split
  · exact of_eq rfl
  · exact refl loop

/-- Beginning to cancel a task leaves the timers alone. -/
theorem beginCancel (loop : Loop) (id : TaskId) (task : Task) :
    loop.Ages collects (loop.beginCancel id task).2 :=
  (retire (loop.setPhase id .cancelled) task).since rfl

/-- Completing a task cancels a timer of its result at most. -/
theorem complete (loop : Loop) (id : TaskId) (value : Value) :
    loop.Ages collects (loop.complete id value) := by
  unfold Loop.complete
  split
  · split
    · exact ((retire (loop.setPhase id .completed) _).trans (resolve _ _ _)).since rfl
    · exact refl loop
  · exact refl loop

/-- Waking the live task with a number leaves the timers alone. -/
theorem scheduleLive (loop : Loop) (slot : Nat) : loop.Ages collects (loop.scheduleLive slot) := by
  unfold Loop.scheduleLive
  split
  · exact schedule loop _
  · exact refl loop

/-- Waking live tasks one after another leaves the timers alone. -/
theorem foldl_scheduleLive (loop : Loop) (slots : List Nat) :
    loop.Ages collects (slots.foldl Loop.scheduleLive loop) := by
  induction slots generalizing loop with
  | nil => exact refl loop
  | cons slot rest ih => exact (scheduleLive loop slot).trans (ih (loop.scheduleLive slot))

/-- Taking over what other threads asked for leaves the timers alone. -/
theorem collectRequests (loop : Loop) : loop.Ages collects loop.collectRequests := by
  rw [collectRequests_eq]
  exact (foldl_scheduleLive _ loop.woken).since rfl

/-- The first part of an iteration removes at most entries of timers that were cancelled. -/
theorem prepare (loop : Loop) (now : Nat) : loop.Ages collects (loop.prepare now).2 := by
  have collected : loop.Ages collects loop.collectRequests := collectRequests loop
  unfold Loop.prepare patience
  split
  · exact collected
  · exact collected.trans (single (.passed loop.collectRequests.timers))

/-- The second part of an iteration collects the entries that are due. -/
theorem gather (may : collects) (loop : Loop) (now : Nat) :
    loop.Ages collects (loop.gather now).2 := by
  have collected : loop.Ages collects (loop.collectDue now) := single (.taken loop.timers may now)
  exact collected.trans (collectRequests (loop.collectDue now))

/-- Taking the next ready callback leaves the timers alone. -/
theorem takeReady (loop : Loop) : loop.Ages collects loop.takeReady.2 := by
  unfold Loop.takeReady
  split
  · exact refl loop
  · exact of_eq rfl

/-- Letting go of everything that waits in the loop removes all entries. -/
theorem dropAll (may : collects) (loop : Loop) : loop.Ages collects loop.dropAll :=
  single (.emptied loop.timers may)

end Ages

/-- The callbacks of timers that are due become ready, in the order of their turns. -/
theorem ready_collectDue (loop : Loop) (now : Nat) : (loop.collectDue now).ready =
    loop.ready ++ (loop.timers.due now).map TimerEntry.callback :=
  congrArg (loop.ready ++ ·) (Timers.fst_takeDue loop.timers now)

end Loop

end EventLoop

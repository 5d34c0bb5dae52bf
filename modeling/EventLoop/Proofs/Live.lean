import EventLoop.Proofs.Tasks

/-!
# Live tasks

A task that is not over is found under the number that its wakers carry. Whatever the loop does between
polls leaves every task doing what it did, unless it cancels the task, and forgets neither a callback
that is ready nor a number that was woken.
-/
namespace EventLoop

namespace Slab

variable {α : Type} {slab : Slab α}

/-- The numbers that were given up are those of empty slots, each listed once. -/
structure Tidy (slab : Slab α) : Prop where
  /-- No number is listed twice. -/
  nodup : slab.free.Nodup
  /-- The slots are there and empty. -/
  empty : ∀ index ∈ slab.free, slab.slots[index]? = some none

/-- A slab without slots is tidy. -/
theorem tidy_empty : (∅ : Slab α).Tidy := ⟨List.nodup_nil, fun _ member => nomatch member⟩

/-- A value that is put into a tidy slab is found under its number, and the others are where they
were. -/
theorem Tidy.get?_insert (tidy : slab.Tidy) (value : α) (index : Nat) :
    (slab.insert value).2.get? index =
      if index = (slab.insert value).1 then some value else slab.get? index := by
  unfold insert get?
  cases given : slab.free with
  | nil =>
    dsimp only
    rw [List.getElem?_append]
    by_cases below : index < slab.slots.length
    · rw [if_pos below, if_neg (by omega)]
    · rw [if_neg below]
      by_cases last : index = slab.slots.length
      · subst last
        simp
      · have beyond : slab.slots[index]? = none := List.getElem?_eq_none (by omega)
        have outside : [some value][index - slab.slots.length]? = none :=
          List.getElem?_eq_none (by simp only [List.length_singleton]; omega)
        rw [if_neg last, beyond, outside]
  | cons first others =>
    dsimp only
    have there := tidy.empty first (given ▸ List.mem_cons_self)
    obtain ⟨below, -⟩ := List.getElem?_eq_some_iff.mp there
    by_cases same : index = first
    · subst same
      rw [if_pos rfl, List.getElem?_set_self below]
      rfl
    · rw [if_neg same, List.getElem?_set_ne (fun other => same other.symm)]

/-- A value that is put into a tidy slab takes the place of no other. -/
theorem Tidy.get?_new (tidy : slab.Tidy) (value : α) :
    slab.get? (slab.insert value).1 = none := by
  unfold insert get?
  cases given : slab.free with
  | nil =>
    dsimp only
    rw [List.getElem?_eq_none (Nat.le_refl _)]
    rfl
  | cons first others =>
    dsimp only
    rw [tidy.empty first (given ▸ List.mem_cons_self)]
    rfl

/-- A slab stays tidy when a value is inserted. -/
theorem Tidy.insert (tidy : slab.Tidy) (value : α) : (slab.insert value).2.Tidy := by
  unfold Slab.insert
  cases given : slab.free with
  | nil => exact ⟨List.nodup_nil, fun _ member => nomatch member⟩
  | cons first others =>
    have nodup := tidy.nodup
    rw [given, List.nodup_cons] at nodup
    refine ⟨nodup.2, fun index member => ?_⟩
    have differ : first ≠ index := fun same => nodup.1 (same ▸ member)
    dsimp only
    rw [List.getElem?_set_ne differ]
    exact tidy.empty index (given ▸ List.mem_cons_of_mem first member)

/-- There is a slot for every value. -/
theorem lt_length_of_get? {index : Nat} {value : α} (found : slab.get? index = some value) :
    index < slab.slots.length := by
  by_contra beyond
  have none := List.getElem?_eq_none (Nat.le_of_not_lt beyond)
  simp [get?, none] at found

/-- The slot that is emptied holds nothing, and the other values are where they were. -/
theorem get?_erase (slab : Slab α) (index other : Nat) :
    (slab.erase index).2.get? other = if other = index then none else slab.get? other := by
  unfold erase
  cases found : slab.get? index with
  | none =>
    by_cases same : other = index
    · rw [if_pos same, same]
      exact found
    · rw [if_neg same]
  | some value =>
    unfold get?
    dsimp only
    by_cases same : other = index
    · subst same
      rw [if_pos rfl, List.getElem?_set_self (lt_length_of_get? found)]
      rfl
    · rw [if_neg same, List.getElem?_set_ne (fun here => same here.symm)]

/-- A slab stays tidy when a value is removed. -/
theorem Tidy.erase (tidy : slab.Tidy) (index : Nat) : (slab.erase index).2.Tidy := by
  unfold Slab.erase
  cases found : slab.get? index with
  | none => exact tidy
  | some value =>
    have below := lt_length_of_get? found
    have used : index ∉ slab.free := by
      intro member
      have empty := tidy.empty index member
      simp [get?, empty] at found
    refine ⟨List.nodup_cons.mpr ⟨used, tidy.nodup⟩, fun other member => ?_⟩
    dsimp only
    by_cases same : other = index
    · subst same
      rw [List.getElem?_set_self below]
    · have listed := (List.mem_cons.mp member).resolve_left same
      rw [List.getElem?_set_ne (fun here => same here.symm)]
      exact tidy.empty other listed

end Slab

/-- Whether a task that does this is over. -/
def TaskPhase.isOver : TaskPhase → Bool
  | completed | cancelled => true
  | idle _ | queued _ | running => false

/-- Whether a task is over can be read off its phase. -/
theorem Task.isOver_eq (task : Task) : task.isOver = task.phase.isOver := by
  obtain ⟨name, phase, slot, result⟩ := task
  cases phase with
  | idle | queued | running | completed | cancelled => rfl

namespace Loop

variable {loop other : Loop} {id : TaskId}

/-- Every task that is not over is found under its number. -/
structure Housed (loop : Loop) : Prop where
  /-- The numbers are kept in order. -/
  tidy : loop.live.Tidy
  /-- The task has a number and is found under it. -/
  found : ∀ {id task}, loop.tasks.get? id = some task → task.isOver = false →
    ∃ slot, task.slot = some slot ∧ loop.live.get? slot = some id

/-- A task is over. -/
def IsOver (loop : Loop) (id : TaskId) : Prop :=
  ∃ task, loop.tasks.get? id = some task ∧ task.isOver = true

/-- A poll of a task is due. -/
def IsQueued (loop : Loop) (id : TaskId) : Prop :=
  ∃ activity, loop.taskPhase? id = some (.queued activity)

/-- A task waits to be woken. -/
def IsIdle (loop : Loop) (id : TaskId) : Prop :=
  ∃ activity, loop.taskPhase? id = some (.idle activity)

/-- A task is over like another one that does the same. -/
theorem isOver_congr {task later : Task} (same : later.phase = task.phase) :
    later.isOver = task.isOver := by
  rw [later.isOver_eq, task.isOver_eq, same]

/-- A task whose phase is set has it, if it exists, and the others keep theirs. -/
theorem taskPhase?_setPhase (loop : Loop) (id other : TaskId) (phase : TaskPhase) :
    (loop.setPhase id phase).taskPhase? other =
      if other = id then (loop.taskPhase? id).map fun _ => phase else loop.taskPhase? other := by
  unfold taskPhase? setPhase
  dsimp only
  rw [Table.get?_modify]
  by_cases same : other = id
  · subst same
    rw [if_pos rfl, if_pos rfl, Option.map_map, Option.map_map]
    rfl
  · rw [if_neg same, if_neg same]

/-- A number under which the tasks of a housed loop go on to be found. -/
theorem Housed.of_kept (housed : loop.Housed) (live : other.live = loop.live)
    (kept : ∀ {id task}, other.tasks.get? id = some task → task.isOver = false →
      ∃ earlier, loop.tasks.get? id = some earlier ∧ earlier.isOver = false ∧
        task.slot = earlier.slot) : other.Housed := by
  refine ⟨live ▸ housed.tidy, fun found waits => ?_⟩
  obtain ⟨earlier, there, waited, same⟩ := kept found waits
  obtain ⟨slot, numbered, lives⟩ := housed.found there waited
  exact ⟨slot, same.trans numbered, live ▸ lives⟩

/-- The phase of a task that is not over may change. -/
theorem Housed.setPhase (housed : loop.Housed) (phase : TaskPhase)
    (waits : ∀ task, loop.tasks.get? id = some task → task.isOver = true →
      Task.isOver { task with phase } = true) : (loop.setPhase id phase).Housed := by
  refine housed.of_kept rfl fun {here task} found alive => ?_
  unfold Loop.setPhase at found
  rw [Table.get?_modify] at found
  by_cases same : here = id
  · subst same
    rw [if_pos rfl] at found
    obtain ⟨earlier, there, rfl⟩ := Option.map_eq_some_iff.mp found
    refine ⟨earlier, there, ?_, rfl⟩
    by_contra finished
    rw [Bool.not_eq_false] at finished
    rw [waits earlier there finished] at alive
    cases alive
  · rw [if_neg same] at found
    exact ⟨task, found, alive, rfl⟩

/-- A task that is over gives its number up. -/
theorem Housed.retire (housed : loop.Housed) {task : Task} (found : loop.tasks.get? id = some task)
    (waits : task.isOver = false) {phase : TaskPhase}
    (finished : Task.isOver { task with phase } = true) :
    ((loop.setPhase id phase).retire task).Housed := by
  obtain ⟨slot, numbered, lives⟩ := housed.found found waits
  unfold Loop.retire
  rw [numbered]
  refine ⟨housed.tidy.erase slot, fun {here other} there alive => ?_⟩
  change (loop.tasks.modify id fun task => { task with phase }).get? here = some other at there
  rw [Table.get?_modify] at there
  by_cases same : here = id
  · subst same
    rw [if_pos rfl, found] at there
    cases there
    rw [finished] at alive
    cases alive
  · rw [if_neg same] at there
    obtain ⟨place, has, sits⟩ := housed.found there alive
    refine ⟨place, has, ?_⟩
    have differ : place ≠ slot := by
      rintro rfl
      rw [lives] at sits
      cases sits
      exact same rfl
    change (loop.live.erase slot).2.get? place = some here
    rw [Slab.get?_erase, if_neg differ]
    exact sits

/-- A task that begins on an open loop is due at once. -/
theorem spawn_eq_of_open (opened : loop.closed = false) (name : String) (body : Script.Body) :
    (loop.spawn name body).2 = { loop with
      futures := loop.futures.push (.new .value)
      live := (loop.live.insert loop.tasks.size).2
      tasks := loop.tasks.push ⟨name, .queued (.fresh body),
        some (loop.live.insert loop.tasks.size).1, loop.futures.size⟩
      ready := loop.ready ++ [.step loop.tasks.size] } := by
  unfold spawn makeFuture addFuture schedule taskPhase?
  dsimp only
  rw [opened, if_neg Bool.false_ne_true]
  rw [Table.get?_push, if_pos rfl]
  dsimp only [Option.map_some]
  rw [callSoon_eq]
  unfold setPhase
  dsimp only
  rw [Table.modify_push]
  simp

/-! ## What happens between polls -/

/-- What happens between polls: each task goes on doing what it did unless it is cancelled, a task that
begins is due, and nothing that is ready and no number that was woken is forgotten. -/
structure Quiet (loop other : Loop) : Prop where
  /-- What is ready stays ready. -/
  ready : loop.ready ⊆ other.ready
  /-- What was woken is not forgotten. -/
  woken : loop.woken ⊆ other.woken
  /-- A task goes on doing what it did unless it is cancelled. -/
  kept : ∀ {id task}, loop.tasks.get? id = some task → ∃ later,
    other.tasks.get? id = some later ∧ later.slot = task.slot ∧
      (later.phase = task.phase ∨ later.isOver = true)
  /-- A task that begins is due, or it is over from the beginning. -/
  added : ∀ {id task}, loop.tasks.get? id = none → other.tasks.get? id = some task →
    task.isOver = true ∨ other.IsQueued id ∧ .step id ∈ other.ready
  /-- Tasks that are not over are found under their numbers. -/
  housed : loop.Housed → other.Housed

namespace Quiet

/-- A loop is quiet if its tasks stay as they are and nothing that is ready or was woken is forgotten. -/
theorem of_tasks (tasks : other.tasks = loop.tasks) (live : other.live = loop.live)
    (ready : loop.ready ⊆ other.ready) (woken : loop.woken ⊆ other.woken) : loop.Quiet other where
  ready := ready
  woken := woken
  kept found := ⟨_, tasks ▸ found, rfl, Or.inl rfl⟩
  added missing found := by
    rw [tasks, missing] at found
    cases found
  housed housed := housed.of_kept live fun found waits => ⟨_, tasks ▸ found, waits, rfl⟩

/-- A loop is quiet when nothing happens. -/
theorem refl (loop : Loop) : loop.Quiet loop :=
  of_tasks rfl rfl (List.Subset.refl _) (List.Subset.refl _)

/-- A loop that is quiet twice is quiet. -/
theorem trans {first second third : Loop} (before : first.Quiet second)
    (after : second.Quiet third) : first.Quiet third where
  ready := List.Subset.trans before.ready after.ready
  woken := List.Subset.trans before.woken after.woken
  kept found := by
    obtain ⟨middle, there, slot, phase⟩ := before.kept found
    obtain ⟨later, last, slot', phase'⟩ := after.kept there
    refine ⟨later, last, slot'.trans slot, ?_⟩
    rcases phase' with same | finished
    · exact phase.imp same.trans fun finished => (isOver_congr same).trans finished
    · exact Or.inr finished
  added {id task} missing found := by
    cases there : second.tasks.get? id with
    | none => exact after.added there found
    | some middle =>
      obtain ⟨later, last, -, phase⟩ := after.kept there
      rw [found] at last
      cases last
      rcases before.added missing there with finished | ⟨⟨activity, queued⟩, due⟩
      · exact Or.inl (phase.elim (fun same => (isOver_congr same).trans finished) (·))
      · refine phase.elim (fun same => Or.inr ⟨⟨activity, ?_⟩, after.ready due⟩) Or.inl
        rw [taskPhase?, there] at queued
        rw [taskPhase?, found]
        exact (congrArg some same).trans queued
  housed housed := after.housed (before.housed housed)

/-- Making a callback ready leaves the loop quiet. -/
theorem callSoon (loop : Loop) (callback : Callback) : loop.Quiet (loop.callSoon callback) := by
  rw [callSoon_eq]
  exact of_tasks rfl rfl (List.subset_append_left _ _) (List.Subset.refl _)

/-- Scheduling a callback for a time leaves the loop quiet. -/
theorem callAt (loop : Loop) (deadline : Nat) (callback : Callback) :
    loop.Quiet (loop.callAt deadline callback).2 := by
  rw [callAt_eq]
  exact of_tasks rfl rfl (List.Subset.refl _) (List.Subset.refl _)

/-- Making a future, with a timeout or without, leaves the loop quiet. -/
theorem makeTimed (loop : Loop) (kind : FutureKind) (now : Nat) (timeout : Option Nat) :
    loop.Quiet (loop.makeTimed kind now timeout).2 := by
  rw [makeTimed_eq]
  cases timeout with
  | none => exact of_tasks rfl rfl (List.Subset.refl _) (List.Subset.refl _)
  | some delay => exact of_tasks rfl rfl (List.Subset.refl _) (List.Subset.refl _)

/-- Resolving a future leaves the loop quiet. -/
theorem resolve (loop : Loop) (future : FutureId) (resolution : Resolution) :
    loop.Quiet (loop.resolve future resolution).2 := by
  rw [resolve_eq]
  split
  · rw [replaceFuture_eq]
    exact of_tasks rfl rfl (List.subset_append_left _ _) (List.Subset.refl _)
  · exact refl loop

/-- Registering a reaction leaves the loop quiet. -/
theorem whenDone (loop : Loop) (future : FutureId) (reaction : Reaction) :
    loop.Quiet (loop.whenDone future reaction) := by
  rw [whenDone_eq]
  split
  · exact of_tasks rfl rfl (List.Subset.refl _) (List.Subset.refl _)
  · exact callSoon loop _

/-- Awaiting a future leaves the loop quiet. -/
theorem await (loop : Loop) (wait : Wait) (waker : Nat) :
    loop.Quiet (loop.await wait waker).2 := by
  unfold Loop.await
  split
  · exact refl loop
  · split
    · exact of_tasks rfl rfl (List.Subset.refl _) (List.Subset.refl _)
    · have pushed : loop.Quiet { loop with cells := loop.cells.push waker } :=
        of_tasks rfl rfl (List.Subset.refl _) (List.Subset.refl _)
      exact pushed.trans (whenDone _ _ _)

/-- A task that is over from the beginning, or due. -/
theorem spawn (loop : Loop) (name : String) (body : Script.Body) :
    loop.Quiet (loop.spawn name body).2 := by
  cases closed : loop.closed with
  | true =>
    unfold Loop.spawn makeFuture addFuture
    dsimp only
    rw [closed, if_pos rfl]
    refine trans ?_ (resolve _ _ _)
    refine ⟨List.Subset.refl _, List.Subset.refl _, fun found => ?_, fun missing found => ?_, ?_⟩
    · refine ⟨_, ?_, rfl, Or.inl rfl⟩
      dsimp only
      rw [Table.get?_push, if_neg (Nat.ne_of_lt (Table.lt_size_of_get? found))]
      exact found
    · dsimp only at found
      rw [Table.get?_push] at found
      split at found
      · cases found
        exact Or.inl rfl
      · rw [missing] at found
        cases found
    · intro housed
      refine housed.of_kept rfl fun {id task} found alive => ?_
      dsimp only at found
      rw [Table.get?_push] at found
      split at found
      · cases found
        cases alive
      · exact ⟨task, found, alive, rfl⟩
  | false =>
    rw [spawn_eq_of_open closed]
    refine ⟨List.subset_append_left _ _, List.Subset.refl _, fun found => ?_,
      fun {id task} missing found => ?_, fun housed => ⟨housed.tidy.insert _, ?_⟩⟩
    · refine ⟨_, ?_, rfl, Or.inl rfl⟩
      dsimp only
      rw [Table.get?_push, if_neg (Nat.ne_of_lt (Table.lt_size_of_get? found))]
      exact found
    · dsimp only at found
      rw [Table.get?_push] at found
      split at found
      · rename_i last
        subst last
        refine Or.inr ⟨⟨.fresh body, ?_⟩, List.mem_append_right _ List.mem_cons_self⟩
        unfold taskPhase?
        dsimp only
        rw [Table.get?_push, if_pos rfl]
        rfl
      · rw [missing] at found
        cases found
    · intro id task found alive
      dsimp only at found ⊢
      rw [Table.get?_push] at found
      split at found
      · rename_i last
        cases found
        subst last
        refine ⟨_, rfl, ?_⟩
        rw [housed.tidy.get?_insert, if_pos rfl]
      · rename_i earlier
        obtain ⟨slot, numbered, lives⟩ := housed.found found alive
        refine ⟨slot, numbered, ?_⟩
        have differ : slot ≠ (loop.live.insert loop.tasks.size).1 := by
          rintro rfl
          rw [housed.tidy.get?_new] at lives
          cases lives
        rw [housed.tidy.get?_insert, if_neg differ]
        exact lives

/-- A task ends or is cancelled. -/
theorem ends (loop : Loop) (id : TaskId) {phase : TaskPhase}
    (finished : ∀ task : Task, Task.isOver { task with phase } = true) :
    loop.Quiet (loop.setPhase id phase) := by
  refine ⟨List.Subset.refl _, List.Subset.refl _, fun {here task} found => ?_,
    fun {here task} missing found => ?_, fun housed => housed.setPhase _ fun _ _ _ => finished _⟩
  · unfold setPhase
    dsimp only
    by_cases same : here = id
    · subst same
      rw [Table.get?_modify_self, found]
      exact ⟨_, rfl, rfl, Or.inr (finished task)⟩
    · rw [Table.get?_modify_of_ne _ _ same, found]
      exact ⟨task, rfl, rfl, Or.inl rfl⟩
  · have bound := Table.lt_size_of_get? found
    rw [size_tasks_setPhase] at bound
    obtain ⟨earlier, there⟩ := Table.exists_get?_of_lt_size bound
    rw [missing] at there
    cases there

/-- A task that ends or is cancelled gives its number up. -/
theorem retires {task : Task} {phase : TaskPhase} (found : loop.tasks.get? id = some task)
    (waits : task.isOver = false) (finished : ∀ task : Task, Task.isOver { task with phase } = true) :
    loop.Quiet ((loop.setPhase id phase).retire task) := by
  have ended := ends loop id finished
  have tasks : ((loop.setPhase id phase).retire task).tasks = (loop.setPhase id phase).tasks :=
    tasks_retire _ _
  have rest : ((loop.setPhase id phase).retire task).ready = loop.ready ∧
      ((loop.setPhase id phase).retire task).woken = loop.woken := by
    unfold retire
    split
    · exact ⟨rfl, rfl⟩
    · exact ⟨rfl, rfl⟩
  refine ⟨rest.1 ▸ List.Subset.refl _, rest.2 ▸ List.Subset.refl _, fun there => ?_,
    fun {here other} missing there => ?_, fun housed => housed.retire found waits (finished task)⟩
  · rw [tasks]
    exact ended.kept there
  · rw [tasks] at there
    refine (ended.added missing there).imp_right fun ⟨⟨activity, queued⟩, due⟩ => ?_
    refine ⟨⟨activity, ?_⟩, ?_⟩
    · unfold taskPhase?
      rw [tasks]
      exact queued
    · rw [rest.1]
      exact due

/-- A task that is cancelled is over. -/
theorem beginCancel {task : Task} (found : loop.tasks.get? id = some task)
    (waits : task.isOver = false) : loop.Quiet (loop.beginCancel id task).2 :=
  retires found waits fun _ => rfl

/-- A task whose program ended is over. -/
theorem complete (loop : Loop) (id : TaskId) (value : Value) :
    loop.Quiet (loop.complete id value) := by
  unfold Loop.complete
  split
  · rename_i task found
    split
    · rename_i running
      have waits : task.isOver = false := by simp [Task.isOver, running]
      have ended : loop.Quiet ((loop.setPhase id .completed).retire task) :=
        retires found waits fun _ => rfl
      exact ended.trans (resolve _ _ _)
    · exact refl loop
  · exact refl loop

end Quiet

/-- A task whose program ended is not polled any more. -/
theorem not_running_complete {value : Value} :
    (loop.complete id value).taskPhase? id ≠ some .running := by
  intro running
  unfold complete at running
  split at running
  · rename_i task found
    split at running
    · unfold taskPhase? at running
      rw [tasks_resolve, tasks_retire] at running
      change (loop.setPhase id .completed).taskPhase? id = _ at running
      rw [taskPhase?_setPhase, if_pos rfl] at running
      obtain ⟨phase, -, impossible⟩ := Option.map_eq_some_iff.mp running
      cases impossible
    · rename_i phase
      obtain ⟨entry, there, same⟩ := Option.map_eq_some_iff.mp running
      rw [found] at there
      cases there
      exact phase same
  · rename_i missing
    unfold taskPhase? at running
    rw [missing] at running
    cases running

end Loop

end EventLoop

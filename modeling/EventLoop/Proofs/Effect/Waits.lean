import EventLoop.Proofs.Effect.Calm
import EventLoop.Proofs.Tasks

/-!
# What changes do to waits

A wait that is tied stays tied whatever happens, as long as its future is mentioned. A wakeup that is
still to come on an open loop stays so until the ready callback is taken.
-/
namespace EventLoop

namespace Loop

variable {loop other : Loop} {future : FutureId}

/-- A future keeps its reactions until it is done, and cells keep their wakers. -/
structure Keeps (future : FutureId) (loop other : Loop) : Prop where
  /-- Futures are only added. -/
  bound : loop.futures.size ≤ other.futures.size
  /-- Cells keep their wakers. -/
  cells : ∀ {cell waker}, loop.cells.get? cell = some waker → other.cells.get? cell = some waker
  /-- The future keeps its reactions until it is done. -/
  reacts : ∀ {reaction}, loop.Reacts future reaction → other.isDone future = false →
    other.Reacts future reaction
  /-- A future that is done stays done. -/
  done : loop.isDone future = true → other.isDone future = true

/-- Besides, no ready callback is lost, and on an open loop the reactions of the future become ready
when it is done. -/
structure Carries (future : FutureId) (loop other : Loop) : Prop extends Keeps future loop other where
  /-- Ready callbacks stay ready. -/
  ready : loop.ready ⊆ other.ready
  /-- A closed loop stays closed. -/
  closed : loop.closed = true → other.closed = true
  /-- The reactions of the future become ready when it is done. -/
  fires : ∀ {reaction}, other.closed = false → loop.Reacts future reaction →
    other.isDone future = true → Callback.done future reaction ∈ other.ready

/-- A wait stays tied to its waker while its future keeps its reactions. -/
theorem Tied.keeps {waker : Nat} {wait : Wait} (tied : loop.Tied waker wait)
    (keeps : Keeps wait.future loop other) : other.Tied waker wait where
  bound := Nat.lt_of_lt_of_le tied.bound keeps.bound
  cell cell given := keeps.cells (tied.cell cell given)
  reacts cell given pending := by
    refine keeps.reacts (tied.reacts cell given ?_) pending
    by_contra done
    rw [Bool.not_eq_false] at done
    rw [keeps.done done] at pending
    cases pending

/-- A wait stays armed on an open loop that carries the reactions of its future. -/
theorem Armed.carries {waker : Nat} {wait : Wait} (armed : loop.Armed waker wait)
    (carries : Carries wait.future loop other) (opened : other.closed = false) :
    other.Armed waker wait := by
  obtain ⟨cell, given, due⟩ := armed.due
  refine ⟨armed.toTied.keeps carries.toKeeps, cell, given, fun done => ?_⟩
  cases before : loop.isDone wait.future with
  | true => exact carries.ready (due before)
  | false => exact carries.fires opened (armed.reacts cell given before) done

/-- What keeps a future twice keeps it. -/
theorem Keeps.trans {first second third : Loop} (before : Keeps future first second)
    (after : Keeps future second third) : Keeps future first third where
  bound := Nat.le_trans before.bound after.bound
  cells found := after.cells (before.cells found)
  reacts reacts pending := by
    refine after.reacts (before.reacts reacts ?_) pending
    by_contra done
    rw [Bool.not_eq_false] at done
    rw [after.done done] at pending
    cases pending
  done done := after.done (before.done done)

namespace Carries

/-- What carries a future twice carries it. -/
theorem trans {first second third : Loop} (before : Carries future first second)
    (after : Carries future second third) : Carries future first third where
  toKeeps := before.toKeeps.trans after.toKeeps
  ready := List.Subset.trans before.ready after.ready
  closed closed := after.closed (before.closed closed)
  fires opened reacts done := by
    have openedBefore : second.closed = false := by
      by_contra closed
      rw [Bool.not_eq_false] at closed
      rw [after.closed closed] at opened
      cases opened
    cases middle : second.isDone future with
    | true => exact after.ready (before.fires openedBefore reacts middle)
    | false => exact after.fires opened (before.reacts reacts middle) done

/-- What leaves the entry of a future, the cells and the ready callbacks alone carries the future. -/
theorem of_same (bound : loop.futures.size ≤ other.futures.size)
    (same : future < loop.futures.size → other.futures.get? future = loop.futures.get? future)
    (cells : ∀ {cell waker}, loop.cells.get? cell = some waker →
      other.cells.get? cell = some waker)
    (ready : loop.ready ⊆ other.ready) (closed : loop.closed = true → other.closed = true) :
    Carries future loop other where
  bound := bound
  cells := cells
  reacts reacts _ := by
    obtain ⟨kind, reactions, timer, found, member⟩ := reacts
    exact ⟨kind, reactions, timer, (same (Table.lt_size_of_get? found)).trans found, member⟩
  done done := by
    have below : future < loop.futures.size := by
      by_contra beyond
      have none := Table.get?_eq_none (Nat.le_of_not_lt beyond)
      simp [isDone, futureState, none] at done
    simpa only [isDone, futureState, same below] using done
  ready := ready
  closed := closed
  fires _ reacts done := by
    obtain ⟨kind, reactions, timer, found, member⟩ := reacts
    have found := (same (Table.lt_size_of_get? found)).trans found
    simp [isDone, futureState, found, Future.state] at done

/-- A loop with the same futures and cells carries the future, if no ready callback is lost. -/
theorem of_eq (futures : other.futures = loop.futures) (cells : other.cells = loop.cells)
    (ready : loop.ready ⊆ other.ready) (closed : other.closed = loop.closed) :
    Carries future loop other :=
  of_same (Nat.le_of_eq (by rw [futures])) (fun _ => by rw [futures])
    (fun found => by rw [cells]; exact found) ready (fun shut => by rw [closed]; exact shut)

/-- A loop carries every future when nothing happens. -/
theorem refl : Carries future loop loop := of_eq rfl rfl (List.Subset.refl _) rfl

/-- Making a callback ready carries the future. -/
theorem callSoon (callback : Callback) : Carries future loop (loop.callSoon callback) := by
  rw [callSoon_eq]
  exact of_eq rfl rfl (List.subset_append_left _ _) rfl

/-- Scheduling a callback for a time carries the future. -/
theorem callAt (deadline : Nat) (callback : Callback) :
    Carries future loop (loop.callAt deadline callback).2 := by
  rw [callAt_eq]
  exact of_eq rfl rfl (List.Subset.refl _) rfl

/-- A future that is added leaves the others as they are. -/
theorem push (entry : Future) :
    Carries future loop { loop with futures := loop.futures.push entry } := by
  refine of_same ?_ (fun below => ?_) (fun found => found) (List.Subset.refl _) (fun shut => shut)
  · rw [Table.size_push]
    exact Nat.le_succ _
  · rw [Table.get?_push, if_neg (Nat.ne_of_lt below)]

/-- Making a future, with a timeout or without, carries the future, since the new one is another. -/
theorem makeTimed (kind : FutureKind) (now : Nat) (timeout : Option Nat) :
    Carries future loop (loop.makeTimed kind now timeout).2 := by
  rw [makeTimed_eq]
  cases timeout with
  | none => exact push _
  | some delay =>
    exact (push ⟨kind, .pending [] (some loop.timers.table.size)⟩).trans
      (of_eq rfl rfl (List.Subset.refl _) rfl)

/-- A change of another future, or one that neither resolves it nor changes it while it is pending. -/
theorem modify (id : FutureId) (change : Future → Future)
    (same : id = future → ∀ entry, loop.futures.get? future = some entry →
      (change entry).state = entry.state ∧ (entry.state = .pending → change entry = entry)) :
    Carries future loop { loop with futures := loop.futures.modify id change } := by
  have size := Table.size_modify loop.futures id change
  by_cases here : future = id
  · subst here
    have entry {reaction : Reaction} (reacts : loop.Reacts future reaction) :
        (loop.futures.modify future change).get? future = loop.futures.get? future := by
      obtain ⟨kind, reactions, timer, found, -⟩ := reacts
      rw [Table.get?_modify_self, found, Option.map_some, (same rfl _ found).2 rfl]
    have state : ({ loop with futures := loop.futures.modify future change } : Loop).isDone future
        = loop.isDone future := by
      simp only [isDone, futureState, Table.get?_modify_self]
      cases found : loop.futures.get? future with
      | none => rfl
      | some entry => simp only [Option.map_some, (same rfl entry found).1]
    refine ⟨⟨Nat.le_of_eq size.symm, fun found => found, ?_, ?_⟩, List.Subset.refl _,
      fun shut => shut, ?_⟩
    · intro reaction reacts _
      have unchanged := entry reacts
      obtain ⟨kind, reactions, timer, found, member⟩ := reacts
      exact ⟨kind, reactions, timer, unchanged.trans found, member⟩
    · intro done
      rw [state]
      exact done
    · intro reaction _ reacts done
      rw [state, reacts.pending] at done
      cases done
  · exact of_same (Nat.le_of_eq size.symm) (fun _ => Table.get?_modify_of_ne _ _ here)
      (fun found => found) (List.Subset.refl _) (fun shut => shut)

/-- Resolving a future carries the future: if it is this one, its reactions become ready. -/
theorem resolve (id : FutureId) (resolution : Resolution) :
    Carries future loop (loop.resolve id resolution).2 := by
  rw [resolve_eq]
  rcases found : loop.futures.get? id with _ | ⟨kind, phase⟩
  · exact refl
  cases phase with
  | cancelled => exact refl
  | finished outcome => exact refl
  | pending reactions timer =>
    dsimp only
    rw [replaceFuture_eq]
    by_cases here : future = id
    · subst here
      have resolved : ((loop.futures.modify future fun _ =>
          (⟨kind, Future.resolved resolution⟩ : Future))).get? future =
            some ⟨kind, Future.resolved resolution⟩ := by
        rw [Table.get?_modify_self, found]
        rfl
      have done : (Future.state ⟨kind, Future.resolved resolution⟩ != .pending) = true := by
        cases resolution <;> rfl
      refine ⟨⟨?_, fun found => found, ?_, ?_⟩, List.subset_append_left _ _, fun shut => shut, ?_⟩
      · exact Nat.le_of_eq (Table.size_modify _ _ _).symm
      · intro reaction _ pending
        simp only [isDone, futureState, resolved, done] at pending
        cases pending
      · intro _
        simp only [isDone, futureState, resolved, done]
      · rintro reaction opened ⟨_, others, _, same, member⟩ _
        rw [found] at same
        cases same
        dsimp only at opened ⊢
        rw [opened]
        exact List.mem_append_right _ (List.mem_map.mpr ⟨reaction, member, rfl⟩)
    · refine of_same ?_ (fun _ => ?_) (fun found => found) (List.subset_append_left _ _)
        (fun shut => shut)
      · exact Nat.le_of_eq (Table.size_modify _ _ _).symm
      · exact Table.get?_modify_of_ne _ _ here

/-- Registering a reaction carries the future: its reactions become more, or the new one is ready at
once. -/
theorem whenDone (id : FutureId) (reaction : Reaction) :
    Carries future loop (loop.whenDone id reaction) := by
  rw [whenDone_eq]
  rcases found : loop.futures.get? id with _ | ⟨kind, phase⟩
  · exact callSoon _
  cases phase with
  | cancelled => exact callSoon _
  | finished outcome => exact callSoon _
  | pending reactions timer =>
    dsimp only
    by_cases here : future = id
    · subst here
      have registered : (loop.futures.modify future fun _ =>
          (⟨kind, .pending (reactions ++ [reaction]) timer⟩ : Future)).get? future =
            some ⟨kind, .pending (reactions ++ [reaction]) timer⟩ := by
        rw [Table.get?_modify_self, found]
        rfl
      refine ⟨⟨?_, fun found => found, ?_, ?_⟩, List.Subset.refl _, fun shut => shut, ?_⟩
      · exact Nat.le_of_eq (Table.size_modify _ _ _).symm
      · rintro other ⟨_, others, _, same, member⟩ _
        rw [found] at same
        cases same
        exact ⟨kind, _, timer, registered, List.mem_append_left _ member⟩
      · intro done
        simp [isDone, futureState, found, Future.state] at done
      · intro other _ _ done
        simp only [isDone, futureState, registered, Future.state] at done
        cases done
    · refine of_same ?_ (fun _ => ?_) (fun found => found) (List.Subset.refl _)
        (fun shut => shut)
      · exact Nat.le_of_eq (Table.size_modify _ _ _).symm
      · exact Table.get?_modify_of_ne _ _ here

/-- Awaiting a future carries the future, if the wait is tied to its waker. -/
theorem await {waker : Nat} {wait : Wait} (tied : loop.Tied waker wait) :
    Carries future loop (loop.await wait waker).2 := by
  cases done : loop.isDone wait.future with
  | true =>
    unfold Loop.await
    rw [if_pos done]
    exact refl
  | false =>
    rw [await_eq tied done]
    cases wait.cell with
    | some cell => exact refl
    | none =>
      have pushed : Carries future loop { loop with cells := loop.cells.push waker } := by
        refine of_same (Nat.le_refl _) (fun _ => rfl) (fun found => ?_) (List.Subset.refl _)
          (fun shut => shut)
        rw [Table.get?_push, if_neg (Nat.ne_of_lt (Table.lt_size_of_get? found))]
        exact found
      exact pushed.trans (whenDone _ _)

/-- Changing what a task is doing carries the future. -/
theorem setPhase (id : TaskId) (phase : TaskPhase) :
    Carries future loop (loop.setPhase id phase) := of_eq rfl rfl (List.Subset.refl _) rfl

/-- Making a poll of a task ready carries the future. -/
theorem schedule (id : TaskId) : Carries future loop (loop.schedule id) := by
  unfold Loop.schedule
  split
  · exact (setPhase id _).trans (callSoon _)
  · exact refl

/-- Removing a task from the live ones carries the future. -/
theorem retire (task : Task) : Carries future loop (loop.retire task) := by
  unfold Loop.retire
  split
  · exact refl
  · exact of_eq rfl rfl (List.Subset.refl _) rfl

/-- Spawning a task carries the future, since the result is a new one. -/
theorem spawn (name : String) (body : Script.Body) :
    Carries future loop (loop.spawn name body).2 := by
  have pushed (tasks : Table Task) (live : Slab TaskId) : Carries future loop
      { loop with futures := loop.futures.push (.new .value), tasks, live } :=
    (push (.new .value)).trans (of_eq rfl rfl (List.Subset.refl _) rfl)
  unfold Loop.spawn makeFuture addFuture
  dsimp only
  split
  · exact (pushed _ loop.live).trans (resolve _ _)
  · exact (pushed _ _).trans (schedule _)

/-- Taking the program out of a task carries the future. -/
theorem beginPoll (id : TaskId) : Carries future loop (loop.beginPoll id).2 := by
  unfold Loop.beginPoll
  split
  · exact setPhase id _
  · exact refl

/-- Putting a program back into its task carries the future. -/
theorem endPoll (id : TaskId) (activity : Script.Activity) :
    Carries future loop (loop.endPoll id activity).2 := by
  unfold Loop.endPoll
  split
  · exact setPhase id _
  · exact refl

/-- Completing a task carries the future. -/
theorem complete (id : TaskId) (value : Value) :
    Carries future loop (loop.complete id value) := by
  unfold Loop.complete
  split
  · split
    · exact ((setPhase id _).trans (retire _)).trans (resolve _ _)
    · exact refl
  · exact refl

/-- Beginning to cancel a task carries the future. -/
theorem beginCancel (id : TaskId) (task : Task) :
    Carries future loop (loop.beginCancel id task).2 := (setPhase id _).trans (retire task)

/-- Waking live tasks one after another carries the future. -/
theorem foldl_scheduleLive {start : Loop} (carries : Carries future loop start)
    (slots : List Nat) : Carries future loop (slots.foldl scheduleLive start) := by
  induction slots generalizing start with
  | nil => exact carries
  | cons slot rest ih =>
    refine ih (carries.trans ?_)
    unfold scheduleLive
    split
    · exact schedule _
    · exact refl

/-- Taking over what other threads asked for carries the future. -/
theorem collectRequests : Carries future loop loop.collectRequests := by
  rw [collectRequests_eq]
  refine foldl_scheduleLive ?_ loop.woken
  exact of_eq rfl rfl (List.subset_append_left _ _) rfl

/-- The first part of an iteration carries the future. -/
theorem prepare (now : Nat) : Carries future loop (loop.prepare now).2 := by
  have collected : Carries future loop loop.collectRequests := collectRequests
  unfold Loop.prepare patience
  split
  · exact collected
  · exact collected.trans (of_eq rfl rfl (List.Subset.refl _) rfl)

/-- The second part of an iteration carries the future. -/
theorem gather (now : Nat) : Carries future loop (loop.gather now).2 := by
  have due : Carries future loop (loop.collectDue now) :=
    of_eq rfl rfl (List.subset_append_left _ _) rfl
  exact due.trans collectRequests

end Carries

/-- Taking a ready callback keeps everything else. -/
theorem Keeps.takeReady : Keeps future loop loop.takeReady.2 := by
  unfold Loop.takeReady
  split
  · exact Carries.refl.toKeeps
  · exact ⟨Nat.le_refl _, fun found => found, fun reacts _ => reacts, fun done => done⟩

/-- Letting go of everything keeps the futures. -/
theorem Keeps.dropAll : Keeps future loop loop.dropAll :=
  ⟨Nat.le_refl _, fun found => found, fun reacts _ => reacts, fun done => done⟩

/-- What is tied at stations stays tied while its futures are kept. -/
theorem Ties.keeps {id : TaskId} {stations : List Script.Station} (ties : loop.Ties id stations)
    (grows : loop.Grows other) (exists_ : id < loop.tasks.size)
    (keeps : ∀ station ∈ stations, ∀ wait ∈ station.waits, Keeps wait.future loop other) :
    other.Ties id stations := by
  intro station member wait waits
  rw [grows.wakerOf exists_]
  exact (ties station member wait waits).keeps (keeps station member wait waits)

end Loop

namespace World

open Script (Station)

variable {scope : Scope} {n : Nat} {aspect : Aspect} {before after : World} {future : FutureId}

/-- A change that leaves the loop's futures, cells and ready callbacks alone carries futures. -/
theorem carries_of_loop (same : after.loop = before.loop) :
    Loop.Carries future before.loop after.loop := by
  rw [same]
  exact .refl

/-- A future that something mentions is carried through every change, apart from those by which the
loop takes callbacks or lets go of everything. -/
theorem Change.carries (change : Change scope aspect before after)
    (mentioned : before.isMentioned (.future future) = true) (stays : aspect ≠ .taking)
    (open_ : aspect ≠ .closing) : Loop.Carries future before.loop after.loop := by
  cases change with
  | surroundings | held | names | devices | fitted | released | turned | retired | servers | primitives =>
    exact carries_of_loop rfl
  | connected =>
    refine addTransport_loop (before.loop.Carries future) .refl fun loop callback carries => ?_
    exact carries.trans (.callSoon callback)
  | dropped | disarmed | asked | woken | stopAsked | stopped | flags =>
    exact .of_eq rfl rfl (List.Subset.refl _) rfl
  | shut =>
    exact .of_same (Nat.le_refl _) (fun _ => rfl) (fun found => found) (List.Subset.refl _)
      fun _ => rfl
  | made => exact .makeTimed _ _ _
  | resolved | granted | expired => exact .resolve _ _
  | registered | bound | enlisted => exact .whenDone _ _
  | awaited _ wait waker tied => exact .await tied
  | taken _ id entry known found =>
    refine .modify id _ fun here entry' found' => ?_
    subst here
    rw [found] at found'
    cases found'
    rcases entry with ⟨kind, phase⟩
    cases phase with
    | pending => exact ⟨rfl, fun _ => rfl⟩
    | cancelled => exact ⟨rfl, fun _ => rfl⟩
    | finished outcome =>
      cases outcome with
      | none => exact ⟨rfl, fun _ => rfl⟩
      | some outcome => exact ⟨rfl, fun pending => nomatch pending⟩
  | emptied _ id entry found missed free | deserted _ id entry found missed free =>
    refine Loop.Carries.trans (.modify id Future.emptied fun here => ?_)
      (.of_eq rfl rfl (List.Subset.refl _) rfl)
    subst here
    rw [mentioned] at free
    cases free
  | called | announced | summoned => exact .callSoon _
  | scheduled => exact .callAt _ _
  | spawned => exact .spawn _ _
  | pollBegun => exact .beginPoll _
  | pollEnded => exact .endPoll _ _
  | completed => exact .complete _ _
  | cancelled => exact .beginCancel _ _
  | abandoned => exact .setPhase _ _
  | prepared => exact .prepare _
  | gathered => exact .gather _
  | readyTaken => exact absurd rfl stays
  | cleared => exact absurd rfl open_

/-- A future that something mentions is kept by every change. -/
theorem Change.keeps (change : Change scope aspect before after)
    (mentioned : before.isMentioned (.future future) = true) :
    Loop.Keeps future before.loop after.loop := by
  by_cases stays : aspect = .taking
  · subst stays
    cases change with
    | readyTaken => exact .takeReady
  · by_cases open_ : aspect = .closing
    · subst open_
      cases change with
      | cleared => exact .dropAll
    · exact (change.carries mentioned stays open_).toKeeps

/-- What is kept alive by what is under way is mentioned. -/
theorem Within.mentioned {ref : Ref} (within : before.Within scope n) (held : ref ∈ scope.held) :
    before.isMentioned ref = true := by
  have member := within.held held
  simp [isMentioned, member]

/-- What a task waits for is mentioned. -/
theorem mentioned_of_task {id : TaskId} {task : Task} {activity : Script.Activity} {ref : Ref}
    (found : before.loop.tasks.get? id = some task) (holds : task.activity? = some activity)
    (owned : ref ∈ activityRefs activity) : before.isMentioned ref = true := by
  have part : before.loop.tasks.any (fun task => (taskRefs task).contains ref) = true := by
    unfold Table.any
    rw [Array.any_eq_true]
    unfold Table.get? at found
    obtain ⟨below, same⟩ := Array.getElem?_eq_some_iff.mp found
    refine ⟨id, below, ?_⟩
    rw [same, List.contains_iff_mem, taskRefs, holds]
    exact List.mem_cons_of_mem _ owned
  simp only [isMentioned, isPartOfObject, part, Bool.or_true, Bool.true_or]

/-! ## Waits of programs -/

/-- What a station waits for is something that it owns. -/
theorem ref_of_wait {station : Station} {wait : Wait} (waits : wait ∈ station.waits) :
    Ref.future wait.future ∈ station.parts.filterMap partRef? := by
  cases station with
  | leaf leaf =>
    cases leaf with
    | nextPoll => cases waits
    | result | turn | notice | relock | connecting | establishing =>
      cases List.mem_singleton.mp waits
      exact List.mem_cons_self
  | entry guard asked =>
    cases List.mem_singleton.mp waits
    exact List.mem_cons_self
  | guard guard => cases waits

/-- What the stations of a program wait for is something that the program keeps alive. -/
theorem mem_activityRefs {activity : Script.Activity} {station : Station} {wait : Wait}
    (member : station ∈ activity.stations) (waits : wait ∈ station.waits) :
    Ref.future wait.future ∈ activityRefs activity := by
  obtain ⟨part, owned, same⟩ := List.mem_filterMap.mp (ref_of_wait waits)
  rw [activityRefs, activity.parts_eq]
  exact List.mem_filterMap.mpr ⟨part, List.mem_flatMap.mpr ⟨station, member, owned⟩, same⟩

/-- Whatever tasks wait for between polls is tied to them. -/
def Attentive (world : World) : Prop :=
  ∀ {id activity}, world.loop.activityOf id = some activity → world.loop.Ties id activity.stations

/-- A change which is neither one of tasks nor one of polls leaves the programs with the tasks. -/
theorem Change.activityOf (change : Change scope aspect before after) (calm : aspect ≠ .tasks)
    (spares : aspect ≠ .cancelling) (lasting : aspect ≠ .polls) :
    after.loop.tasks.size = before.loop.tasks.size ∧
      after.loop.activityOf = before.loop.activityOf := by
  have same {loop : Loop} (tasks : loop.tasks = before.loop.tasks) :
      loop.tasks.size = before.loop.tasks.size ∧ loop.activityOf = before.loop.activityOf :=
    ⟨congrArg _ tasks, Loop.activityOf_congr tasks⟩
  cases change with
  | surroundings | held | dropped | names | devices | fitted | taken | emptied | deserted | disarmed | asked
  | released | turned | retired | servers | primitives | woken | stopAsked | stopped | flags | shut
  | cleared => exact same rfl
  | connected =>
    refine same (addTransport_loop (·.tasks = before.loop.tasks) rfl fun loop callback tasks => ?_)
    exact (Loop.tasks_callSoon loop callback).trans tasks
  | made => exact same (Loop.tasks_makeTimed _ _ _ _)
  | resolved | granted | expired => exact same (Loop.tasks_resolve _ _ _)
  | registered | bound | enlisted => exact same (Loop.tasks_whenDone _ _ _)
  | awaited => exact same (Loop.tasks_await _ _ _)
  | called | announced | summoned => exact same (Loop.tasks_callSoon _ _)
  | scheduled => exact same (Loop.tasks_callAt _ _ _)
  | prepared => exact Loop.tasks_prepare _ _
  | gathered => exact Loop.tasks_gather _ _
  | readyTaken => exact same (Loop.tasks_takeReady _)
  | spawned | abandoned => exact absurd rfl calm
  | cancelled => exact absurd rfl spares
  | pollBegun | pollEnded | completed => exact absurd rfl lasting

/-- A program that a task holds after a change was held before, or waits for nothing, or was just put
back. -/
theorem Change.held_before {id : TaskId} {activity : Script.Activity}
    (change : Change scope aspect before after)
    (holds : after.loop.activityOf id = some activity) :
    before.loop.activityOf id = some activity ∨ activity.stations = [] ∨
      after.loop.Ties id activity.stations := by
  have grows := change.grows.loop
  by_cases calm : aspect = .tasks
  · subst calm
    cases change with
    | spawned _ name body =>
      rw [Loop.activityOf_spawn] at holds
      split at holds
      · split at holds
        · cases holds
        · cases holds
          exact Or.inr (Or.inl rfl)
      · exact Or.inl holds
    | abandoned _ other =>
      rw [Loop.activityOf_cancelled] at holds
      split at holds
      · cases holds
      · exact Or.inl holds
  by_cases spares : aspect = .cancelling
  · subst spares
    cases change with
    | cancelled _ other task =>
      rw [Loop.activityOf_beginCancel] at holds
      split at holds
      · cases holds
      · exact Or.inl holds
  by_cases lasting : aspect = .polls
  · subst lasting
    cases change with
    | pollBegun _ other =>
      rw [Loop.activityOf_beginPoll] at holds
      split at holds
      · cases holds
      · exact Or.inl holds
    | completed _ other value =>
      rw [(Loop.tasks_complete _ _ _).2] at holds
      exact Or.inl holds
    | pollEnded _ other returned tied =>
      have bound := Loop.lt_size_of_activityOf holds
      rw [Loop.size_tasks_endPoll] at bound
      rw [Loop.activityOf_endPoll] at holds
      split at holds
      · rename_i here
        cases holds
        exact Or.inr (Or.inr (Loop.Ties.keeps (here.1 ▸ tied) grows bound
          fun _ _ _ _ => (Loop.Carries.endPoll _ _).toKeeps))
      · exact Or.inl holds
  · rw [(change.activityOf calm spares lasting).2] at holds
    exact Or.inl holds

/-- A change leaves whatever tasks wait for tied to them. -/
theorem Change.attentive (change : Change scope aspect before after)
    (attentive : before.Attentive) : after.Attentive := by
  intro id activity holds
  rcases change.held_before holds with same | none | ties
  · refine (attentive same).keeps change.grows.loop (Loop.lt_size_of_activityOf same) ?_
    intro station member wait waits
    obtain ⟨task, found, held⟩ := Option.bind_eq_some_iff.mp same
    exact change.keeps (mentioned_of_task found held (mem_activityRefs member waits))
  · intro station member
    rw [none] at member
    cases member
  · exact ties

/-! ## Waits of what is under way -/

variable {aspects : List Aspect}

/-- What is kept alive by what is under way is kept by changes. -/
theorem Changes.keeps (changes : Changes scope aspects before after)
    (within : before.Within scope n) (held : .future future ∈ scope.held) :
    Loop.Keeps future before.loop after.loop := by
  induction changes with
  | refl => exact Loop.Carries.refl.toKeeps
  | tail earlier last ih =>
    obtain ⟨aspect, -, change⟩ := last
    exact ih.trans (change.keeps ((Changes.within earlier within).mentioned held))

/-- What is kept alive by what is under way is carried through changes by which the loop takes no
callback and does not let go of everything. -/
theorem Changes.carries (changes : Changes scope aspects before after)
    (stays : Aspect.taking ∉ aspects) (open_ : Aspect.closing ∉ aspects)
    (within : before.Within scope n) (held : .future future ∈ scope.held) :
    Loop.Carries future before.loop after.loop := by
  induction changes with
  | refl => exact Loop.Carries.refl
  | tail earlier last ih =>
    obtain ⟨aspect, member, change⟩ := last
    refine ih.trans (change.carries ((Changes.within earlier within).mentioned held) ?_ ?_)
    · rintro rfl
      exact stays member
    · rintro rfl
      exact open_ member

/-- Changes leave whatever tasks wait for tied to them. -/
theorem Changes.attentive (changes : Changes scope aspects before after)
    (attentive : before.Attentive) : after.Attentive :=
  changes.preserves (fun _ change => change.attentive) attentive

end World

end EventLoop

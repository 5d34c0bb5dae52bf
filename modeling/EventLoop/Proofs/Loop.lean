import EventLoop.Loop.Basic
import Mathlib.Data.List.Basic

/-!
# Closed forms of the loop's transitions

Each transition of the loop is written as one record update, so that what it leaves alone can be read
off. A loop that is closed differs from an open one in two fields only: a callback is not made ready,
and the references that it would have kept alive are given up.
-/
namespace EventLoop.Loop

/-- Making a callback ready changes the ready callbacks of an open loop and the references of a closed
one. -/
theorem callSoon_eq (loop : Loop) (callback : Callback) :
    loop.callSoon callback = { loop with
      ready := loop.ready ++ if loop.closed then [] else [callback]
      dropped := loop.dropped ++ if loop.closed then callback.refs else [] } := by
  unfold callSoon drop
  cases closed : loop.closed with
  | true => simp
  | false => simp

/-- Making callbacks ready one after another appends them in order. -/
theorem foldl_callSoon (loop : Loop) (callbacks : List Callback) :
    callbacks.foldl callSoon loop = { loop with
      ready := loop.ready ++ if loop.closed then [] else callbacks
      dropped := loop.dropped ++ if loop.closed then callbacks.flatMap Callback.refs else [] } := by
  induction callbacks generalizing loop with
  | nil => simp
  | cons callback rest ih =>
    rw [List.foldl_cons, ih, callSoon_eq]
    cases closed : loop.closed with
    | true => simp
    | false => simp

/-- Scheduling a callback changes the timers; a closed loop gives up what the callback mentions. -/
theorem callAt_eq (loop : Loop) (deadline : Nat) (callback : Callback) :
    loop.callAt deadline callback = (loop.timers.table.size, { loop with
      timers := if loop.closed then (loop.timers.refuse deadline).2
        else (loop.timers.schedule deadline callback).2
      dropped := loop.dropped ++ if loop.closed then callback.refs else [] }) := by
  unfold callAt drop
  cases closed : loop.closed with
  | true => simp [Timers.refuse]
  | false => simp [Timers.schedule]

/-- A future that is stored after its resolution cancels its timer and makes its reactions ready. -/
theorem replaceFuture_eq (loop : Loop) (id : FutureId) (future : Future) (freed : Future.Freed) :
    loop.replaceFuture id future freed = { loop with
      futures := loop.futures.modify id fun _ => future
      timers := freed.timer.elim loop.timers loop.timers.cancel
      ready := loop.ready ++ if loop.closed then [] else freed.reactions.map (.done id)
      dropped := loop.dropped ++ if loop.closed then
        (freed.reactions.map (Callback.done id)).flatMap Callback.refs else [] } := by
  unfold replaceFuture
  have fold (loop : Loop) : freed.reactions.foldl
      (fun loop reaction => loop.callSoon (.done id reaction)) loop =
        (freed.reactions.map (Callback.done id)).foldl callSoon loop := by
    rw [List.foldl_map]
  rw [fold, foldl_callSoon]
  cases freed.timer with
  | none => rfl
  | some timer => rfl

/-- The result of a resolution: only a future that is pending changes. -/
theorem resolve_eq (loop : Loop) (id : FutureId) (resolution : Resolution) :
    loop.resolve id resolution = match loop.futures.get? id with
      | some ⟨kind, .pending reactions timer⟩ =>
        (.ok (), loop.replaceFuture id ⟨kind, Future.resolved resolution⟩ ⟨reactions, timer⟩)
      | _ => (.error .alreadyDone, loop) := by
  unfold resolve
  rcases found : loop.futures.get? id with _ | ⟨kind, phase⟩
  · rfl
  · cases phase with
    | pending reactions timer => rfl
    | cancelled => rfl
    | finished outcome => rfl

/-- A reaction is registered with a future that is pending and is made ready otherwise. -/
theorem whenDone_eq (loop : Loop) (id : FutureId) (reaction : Reaction) :
    loop.whenDone id reaction = match loop.futures.get? id with
      | some ⟨kind, .pending reactions timer⟩ =>
        { loop with futures := loop.futures.modify id fun _ =>
            ⟨kind, .pending (reactions ++ [reaction]) timer⟩ }
      | _ => loop.callSoon (.done id reaction) := by
  unfold whenDone futurePhase?
  rcases found : loop.futures.get? id with _ | ⟨kind, phase⟩
  · rfl
  · cases phase with
    | pending reactions timer =>
      have same : (loop.futures.modify id fun future =>
          { future with phase := .pending (reactions ++ [reaction]) timer }) =
            loop.futures.modify id fun _ => ⟨kind, .pending (reactions ++ [reaction]) timer⟩ :=
        Table.modify_congr found rfl
      exact congrArg (fun futures => { loop with futures }) same
    | cancelled => rfl
    | finished outcome => rfl

/-- A future is resolved, if it exists. -/
def IsResolved (loop : Loop) (id : FutureId) : Prop :=
  ∀ future, loop.futures.get? id = some future → future.isDone = true

/-- A future that is done is resolved. -/
theorem isResolved_of_isDone {loop : Loop} {id : FutureId} (done : loop.isDone id = true) :
    loop.IsResolved id := by
  intro future found
  unfold isDone futureState at done
  rw [found] at done
  exact done

/-- Whoever asks for it, a future is resolved afterwards. -/
theorem isResolved_resolve (loop : Loop) (id : FutureId) (resolution : Resolution) :
    (loop.resolve id resolution).2.IsResolved id := by
  intro future found
  rw [resolve_eq] at found
  split at found
  · rename_i kind reactions timer here
    rw [replaceFuture_eq] at found
    simp only [Table.get?_modify_self, here, Option.map_some] at found
    cases found
    cases resolution with
    | cancel => rfl
    | finish => rfl
  · rename_i other
    obtain ⟨kind, phase⟩ := future
    cases phase with
    | pending reactions timer => exact absurd found (other kind reactions timer)
    | cancelled => rfl
    | finished => rfl

/-- The waker in a cell is woken, if there is one. -/
theorem wakeCell_eq (loop : Loop) (cell : CellId) :
    loop.wakeCell cell = { loop with woken := loop.woken ++ (loop.cells.get? cell).toList } := by
  unfold wakeCell
  cases loop.cells.get? cell with
  | none => simp
  | some waker => rfl

/-- A future is made with the timer that will cancel it, if it has a timeout. -/
theorem makeTimed_eq (loop : Loop) (kind : FutureKind) (now : Nat) (timeout : Option Nat) :
    loop.makeTimed kind now timeout = match timeout with
      | none => (loop.futures.size,
        { loop with futures := loop.futures.push ⟨kind, .pending [] none⟩ })
      | some delay => (loop.futures.size, { loop with
          futures := loop.futures.push ⟨kind, .pending [] (some loop.timers.table.size)⟩
          timers := if loop.closed then (loop.timers.refuse (now + delay)).2
            else (loop.timers.schedule (now + delay) (.expire loop.futures.size)).2 }) := by
  cases timeout with
  | none => rfl
  | some delay =>
    simp only [makeTimed, addFuture]
    rw [callAt_eq]
    simp [Callback.refs]

/-- Resolving a future neither makes nor forgets a task. -/
theorem tasks_resolve (loop : Loop) (id : FutureId) (resolution : Resolution) :
    (loop.resolve id resolution).2.tasks = loop.tasks := by
  rw [resolve_eq]
  split
  · rw [replaceFuture_eq]
  · rfl

/-- Making a poll ready neither makes nor forgets a task. -/
theorem size_tasks_schedule (loop : Loop) (id : TaskId) :
    (loop.schedule id).tasks.size = loop.tasks.size := by
  unfold schedule
  split
  · rw [callSoon_eq]
    exact Table.size_modify _ _ _
  · rfl

/-- A task that was begun exists. -/
theorem lt_size_spawn (loop : Loop) (name : String) (body : Script.Body) :
    (loop.spawn name body).1 < (loop.spawn name body).2.tasks.size := by
  unfold spawn makeFuture addFuture
  dsimp only
  split
  · simp only [tasks_resolve, Table.size_push]
    exact Nat.lt_succ_self _
  · simp only [size_tasks_schedule, Table.size_push]
    exact Nat.lt_succ_self _

/-- Taking requests over makes the callbacks of other threads ready and then wakes the tasks. -/
theorem collectRequests_eq (loop : Loop) :
    loop.collectRequests = loop.woken.foldl scheduleLive { loop with
      ready := loop.ready ++ if loop.closed then [] else loop.remote
      dropped := loop.dropped ++ if loop.closed then loop.remote.flatMap Callback.refs else []
      remote := []
      remoteStop := false
      stopping := loop.stopping || loop.remoteStop
      woken := [] } := by
  unfold collectRequests
  dsimp only
  rw [foldl_callSoon]

end EventLoop.Loop

import EventLoop.Proofs.Loop

/-!
# Waits

A wait for a future is tied to a waker if the cell that it was given carries that waker and the future
will wake the cell. It is armed if the wakeup is still to come: the future is pending and will wake the
cell, or the future is done and the callback that wakes the cell is ready.
-/
namespace EventLoop.Loop

variable {loop : Loop} {wait : Wait} {waker : Nat} {future : FutureId} {reaction : Reaction}

/-- A future is pending and will bring a reaction about. -/
def Reacts (loop : Loop) (future : FutureId) (reaction : Reaction) : Prop :=
  ∃ kind reactions timer, loop.futures.get? future = some ⟨kind, .pending reactions timer⟩ ∧
    reaction ∈ reactions

/-- A wait that has a cell has one with the given waker, and its future will wake the cell unless it is
done. -/
structure Tied (loop : Loop) (waker : Nat) (wait : Wait) : Prop where
  /-- The future exists. -/
  bound : wait.future < loop.futures.size
  /-- The cell carries the waker. -/
  cell : ∀ cell ∈ wait.cell, loop.cells.get? cell = some waker
  /-- The future will wake the cell. -/
  reacts : ∀ cell ∈ wait.cell, loop.isDone wait.future = false →
    loop.Reacts wait.future (.wake cell)

/-- The wakeup of a wait is still to come. -/
structure Armed (loop : Loop) (waker : Nat) (wait : Wait) : Prop extends loop.Tied waker wait where
  /-- The wait has a cell, and if its future is done the callback that wakes the cell is ready. -/
  due : ∃ cell, wait.cell = some cell ∧
    (loop.isDone wait.future = true → Callback.done wait.future (.wake cell) ∈ loop.ready)

/-- A future that will bring something about is not done. -/
theorem Reacts.pending (reacts : loop.Reacts future reaction) : loop.isDone future = false := by
  obtain ⟨kind, reactions, timer, found, -⟩ := reacts
  simp [isDone, futureState, found, Future.state]

/-- A future that exists and is not done is pending. -/
theorem exists_pending (bound : future < loop.futures.size)
    (pending : loop.isDone future = false) :
    ∃ kind reactions timer, loop.futures.get? future = some ⟨kind, .pending reactions timer⟩ := by
  obtain ⟨⟨kind, phase⟩, found⟩ := Table.exists_get?_of_lt_size bound
  simp only [isDone, futureState, found, Future.state] at pending
  cases phase with
  | pending reactions timer => exact ⟨kind, reactions, timer, found⟩
  | cancelled => simp at pending
  | finished outcome => simp at pending

/-- A reaction that is registered with a pending future will come about. -/
theorem reacts_whenDone (bound : future < loop.futures.size)
    (pending : loop.isDone future = false) :
    (loop.whenDone future reaction).Reacts future reaction := by
  obtain ⟨kind, reactions, timer, found⟩ := exists_pending bound pending
  rw [whenDone_eq, found]
  refine ⟨kind, reactions ++ [reaction], timer, ?_, ?_⟩
  · rw [Table.get?_modify_self, found]
    rfl
  · exact List.mem_append_right _ List.mem_cons_self

/-- Awaiting a tied wait that has to go on leaves its cell as it was, or gives it a new one. -/
theorem await_eq (tied : loop.Tied waker wait) (pending : loop.isDone wait.future = false) :
    loop.await wait waker = match wait.cell with
      | some _ => (.error wait, loop)
      | none => (.error { wait with cell := some loop.cells.size },
        { loop with cells := loop.cells.push waker }.whenDone wait.future
          (.wake loop.cells.size)) := by
  unfold await
  rw [pending]
  cases given : wait.cell with
  | none => rfl
  | some cell =>
    have same : loop.cells.modify cell (fun _ => waker) = loop.cells :=
      Table.modify_eq_self (tied.cell cell given) rfl
    simp only [Bool.false_eq_true, if_false, same]

/-- A wait that has to go on is armed. -/
theorem armed_await {after : Wait} (tied : loop.Tied waker wait)
    (goes : (loop.await wait waker).1 = .error after) :
    after.future = wait.future ∧ (loop.await wait waker).2.Armed waker after := by
  have pending : loop.isDone wait.future = false := by
    by_contra done
    rw [Bool.not_eq_false] at done
    unfold await at goes
    rw [if_pos done] at goes
    cases goes
  rw [await_eq tied pending] at goes ⊢
  cases given : wait.cell with
  | some cell =>
    rw [given] at goes
    cases goes
    refine ⟨rfl, tied, cell, given, fun done => ?_⟩
    rw [pending] at done
    cases done
  | none =>
    rw [given] at goes
    cases goes
    have bound : wait.future < ({ loop with cells := loop.cells.push waker } : Loop).futures.size :=
      tied.bound
    have reacts : Reacts (whenDone { loop with cells := loop.cells.push waker } wait.future
        (.wake loop.cells.size)) wait.future (.wake loop.cells.size) :=
      reacts_whenDone bound pending
    have cells : (({ loop with cells := loop.cells.push waker } : Loop).whenDone wait.future
        (.wake loop.cells.size)).cells = loop.cells.push waker := by
      obtain ⟨kind, reactions, timer, found⟩ := exists_pending bound pending
      rw [whenDone_eq, found]
    refine ⟨rfl, ⟨?_, ?_, ?_⟩, loop.cells.size, rfl, fun done => ?_⟩
    · obtain ⟨_, _, _, found, -⟩ := reacts
      exact Table.lt_size_of_get? found
    · intro cell same
      cases same
      dsimp only
      rw [cells, Table.get?_push, if_pos rfl]
    · intro cell same _
      cases same
      exact reacts
    · have notDone := reacts.pending
      dsimp only at done
      rw [notDone] at done
      cases done

end EventLoop.Loop

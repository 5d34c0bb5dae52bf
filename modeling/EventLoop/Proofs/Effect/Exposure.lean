import EventLoop.Proofs.Loop
import EventLoop.World.Connections
import EventLoop.World.Waiting
import Mathlib.Data.List.TakeDrop

/-!
# Exposed futures

A future is exposed when something other than a waiter queue may resolve it: it has a name, it is the
result of a task, a callback will resolve it, an operation completes it, or a transport or a server
will cancel it. `World.Within P n` says that every exposed future satisfies `P`, that there are at least
`n` futures, and that names stand for objects that exist.
-/
namespace EventLoop

variable {P : FutureId → Prop} {n : Nat}

/-- The future that a callback will give a result, if it is for that. -/
def Callback.resolves? : Callback → Option FutureId
  | .resolve future => some future
  | .script .. | .step _ | .done .. | .readPipe | .expire _ | .connectionMade _ | .startReading _
  | .connectionLost .. | .startAccepting _ => none

/-- The future whose time is up once a callback is run, if it is for that. -/
def Callback.expires? : Callback → Option FutureId
  | .expire future => some future
  | .script .. | .step _ | .done .. | .readPipe | .resolve _ | .connectionMade _ | .startReading _
  | .connectionLost .. | .startAccepting _ => none

/-- The transport that a reaction is about. -/
def Reaction.transport? : Reaction → Option TransportId
  | .received transport | .sent transport => some transport
  | .script .. | .wake _ | .stopLoop | .pipeRead | .accepted _ => none

/-- The transport that a callback is about. -/
def Callback.transport? : Callback → Option TransportId
  | .connectionMade transport | .startReading transport | .connectionLost transport _ =>
    some transport
  | .done _ reaction => reaction.transport?
  | .script .. | .step _ | .readPipe | .resolve _ | .expire _ | .startAccepting _ => none

/-- The server that a reaction is about. -/
def Reaction.server? : Reaction → Option ServerId
  | .accepted server => some server
  | .script .. | .wake _ | .stopLoop | .pipeRead | .received _ | .sent _ => none

/-- A reaction that is about a transport is about no server. -/
theorem Reaction.server?_of_transport? {reaction : Reaction} {id : TransportId}
    (owner : reaction.transport? = some id) : reaction.server? = none := by
  cases reaction with
  | accepted => cases owner
  | script | wake | stopLoop | pipeRead | received | sent => rfl

/-- The server that a callback is about. -/
def Callback.server? : Callback → Option ServerId
  | .startAccepting server => some server
  | .done _ reaction => reaction.server?
  | .script .. | .step _ | .readPipe | .resolve _ | .expire _ | .connectionMade _ | .startReading _
  | .connectionLost .. => none

/-- Whether a callback is one that something asks for. The others poll a task or do what a future that
is done brings about, and the loop makes them ready of itself. -/
def Callback.isAsked : Callback → Bool
  | .step _ | .done .. => false
  | .script .. | .readPipe | .resolve _ | .expire _ | .connectionMade _ | .startReading _
  | .connectionLost .. | .startAccepting _ => true

/-- Whether another thread asked for a callback. -/
def Callback.isRemote : Callback → Bool
  | .script (.remote _) _ => true
  | .script .. | .step _ | .done .. | .readPipe | .resolve _ | .expire _ | .connectionMade _
  | .startReading _ | .connectionLost .. | .startAccepting _ => false

/-- Whether an object is a socket, a transport or a server. -/
def Ref.isDevice : Ref → Bool
  | .socket _ | .transport _ | .server _ => true
  | .future _ | .task _ => false

namespace Loop

/-- A future exists and satisfies a property. -/
def Knows (P : FutureId → Prop) (loop : Loop) (future : FutureId) : Prop :=
  P future ∧ future < loop.futures.size

/-- A future that is known stays known while futures are only added. -/
theorem Knows.mono {loop other : Loop} {future : FutureId} (known : loop.Knows P future)
    (grows : loop.futures.size ≤ other.futures.size) : other.Knows P future :=
  ⟨known.1, Nat.lt_of_lt_of_le known.2 grows⟩

/-- The futures that the loop itself may resolve are known. -/
structure Within (P : FutureId → Prop) (n : Nat) (loop : Loop) : Prop where
  /-- There are at least so many futures. -/
  base : n ≤ loop.futures.size
  /-- The results of tasks are known. -/
  result : ∀ {id task}, loop.tasks.get? id = some task → loop.Knows P task.result
  /-- What ready callbacks resolve is known. -/
  ready : ∀ callback ∈ loop.ready, ∀ future ∈ callback.resolves?, loop.Knows P future
  /-- What timed callbacks resolve is known. -/
  timers : ∀ entry ∈ loop.timers.entries, ∀ future ∈ entry.callback.resolves?, loop.Knows P future
  /-- What callbacks from other threads resolve is known. -/
  remote : ∀ callback ∈ loop.remote, ∀ future ∈ callback.resolves?, loop.Knows P future

namespace Within

variable {loop : Loop}

/-- A loop with more futures that has no other tasks, callbacks or timers than another one. -/
theorem of_le {other : Loop} (within : loop.Within P n)
    (futures : loop.futures.size ≤ other.futures.size)
    (tasks : ∀ {id task}, other.tasks.get? id = some task →
      other.Knows P task.result ∨ ∃ old, loop.tasks.get? id = some old ∧ task.result = old.result)
    (ready : ∀ callback ∈ other.ready, callback ∈ loop.ready ∨
      ∀ future ∈ callback.resolves?, other.Knows P future)
    (timers : ∀ entry ∈ other.timers.entries, entry ∈ loop.timers.entries ∨
      ∀ future ∈ entry.callback.resolves?, other.Knows P future)
    (remote : other.remote ⊆ loop.remote) : other.Within P n where
  base := Nat.le_trans within.base futures
  result found := by
    rcases tasks found with known | ⟨old, before, same⟩
    · exact known
    · rw [same]
      exact (within.result before).mono futures
  ready callback member future resolved := by
    rcases ready callback member with before | known
    · exact (within.ready callback before future resolved).mono futures
    · exact known future resolved
  timers entry member future resolved := by
    rcases timers entry member with before | known
    · exact (within.timers entry before future resolved).mono futures
    · exact known future resolved
  remote callback member future resolved :=
    (within.remote callback (remote member) future resolved).mono futures

/-- Giving references up exposes no future. -/
theorem drop (within : loop.Within P n) (refs : List Ref) : (loop.drop refs).Within P n :=
  { within with }

/-- Making a callback ready exposes the future that it resolves, which has to be known. -/
theorem callSoon (within : loop.Within P n) {callback : Callback}
    (known : ∀ future ∈ callback.resolves?, loop.Knows P future) :
    (loop.callSoon callback).Within P n := by
  rw [callSoon_eq]
  refine { within with ready := ?_ }
  intro other member future resolved
  cases closed : loop.closed with
  | true =>
    simp only [closed, if_true, List.append_nil] at member
    exact within.ready other member future resolved
  | false =>
    simp only [closed, Bool.false_eq_true, if_false, List.mem_append, List.mem_singleton] at member
    rcases member with before | rfl
    · exact within.ready other before future resolved
    · exact known future resolved

/-- The entries after scheduling are those before and the new one. -/
theorem mem_entries_callAt {deadline : Nat} {callback : Callback} {entry : TimerEntry}
    (member : entry ∈ (loop.callAt deadline callback).2.timers.entries) :
    entry ∈ loop.timers.entries ∨ entry.callback = callback := by
  rw [callAt_eq] at member
  cases closed : loop.closed with
  | true =>
    simp only [closed, if_true] at member
    exact Or.inl member
  | false =>
    simp only [closed, Bool.false_eq_true, if_false, Timers.schedule,
      Timers.mem_insertEntry] at member
    rcases member with rfl | before
    · exact Or.inr rfl
    · exact Or.inl before

/-- Scheduling a callback for a time exposes the future that it resolves, which has to be known. -/
theorem callAt (within : loop.Within P n) {deadline : Nat} {callback : Callback}
    (known : ∀ future ∈ callback.resolves?, loop.Knows P future) :
    (loop.callAt deadline callback).2.Within P n := by
  have entries := @mem_entries_callAt loop deadline callback
  rw [callAt_eq] at entries ⊢
  refine { within with timers := ?_ }
  intro entry member future resolved
  rcases entries member with before | same
  · exact within.timers entry before future resolved
  · rw [same] at resolved
    exact known future resolved

/-- Cancelling a timer exposes no future. -/
theorem cancelTimer (within : loop.Within P n) (id : TimerId) :
    (loop.cancelTimer id).Within P n :=
  { within with }

/-- Making a future, with a timeout or without, exposes no future: its timeout cancels it but does not
resolve it. -/
theorem makeTimed (within : loop.Within P n) (kind : FutureKind) (now : Nat)
    (timeout : Option Nat) : (loop.makeTimed kind now timeout).2.Within P n := by
  rw [makeTimed_eq]
  cases timeout with
  | none =>
    refine within.of_le ?_ (fun found => Or.inr ⟨_, found, rfl⟩) (fun _ => Or.inl)
      (fun _ => Or.inl) (List.Subset.refl _)
    simp
  | some delay =>
    refine within.of_le ?_ (fun found => Or.inr ⟨_, found, rfl⟩) (fun _ => Or.inl) ?_
      (List.Subset.refl _)
    · simp
    · intro entry member
      cases closed : loop.closed with
      | true =>
        simp only [closed, if_true] at member
        exact Or.inl member
      | false =>
        simp only [closed, Bool.false_eq_true, if_false, Timers.schedule,
          Timers.mem_insertEntry] at member
        rcases member with rfl | before
        · exact Or.inr fun future resolved => nomatch resolved
        · exact Or.inl before

/-- Storing a future that was resolved exposes no future. -/
theorem replaceFuture (within : loop.Within P n) (id : FutureId) (future : Future)
    (freed : Future.Freed) : (loop.replaceFuture id future freed).Within P n := by
  rw [replaceFuture_eq]
  refine within.of_le ?_ (fun found => Or.inr ⟨_, found, rfl⟩) ?_ ?_ (List.Subset.refl _)
  · simp
  · intro callback member
    cases closed : loop.closed with
    | true =>
      simp only [closed, if_true, List.append_nil] at member
      exact Or.inl member
    | false =>
      simp only [closed, Bool.false_eq_true, if_false, List.mem_append, List.mem_map] at member
      rcases member with before | ⟨reaction, -, rfl⟩
      · exact Or.inl before
      · exact Or.inr fun future resolved => nomatch resolved
  · intro entry member
    cases timer : freed.timer with
    | none =>
      rw [timer] at member
      exact Or.inl member
    | some id =>
      rw [timer] at member
      exact Or.inl member

/-- Resolving a future exposes no future. -/
theorem resolve (within : loop.Within P n) (id : FutureId) (resolution : Resolution) :
    (loop.resolve id resolution).2.Within P n := by
  rw [resolve_eq]
  split
  · exact within.replaceFuture _ _ _
  · exact within

/-- Changing a future exposes no future. -/
theorem modifyFuture (within : loop.Within P n) (id : FutureId) (change : Future → Future) :
    ({ loop with futures := loop.futures.modify id change } : Loop).Within P n := by
  refine within.of_le ?_ (fun found => Or.inr ⟨_, found, rfl⟩) (fun _ => Or.inl) (fun _ => Or.inl)
    (List.Subset.refl _)
  simp

/-- Registering a reaction exposes no future. -/
theorem whenDone (within : loop.Within P n) (id : FutureId) (reaction : Reaction) :
    (loop.whenDone id reaction).Within P n := by
  rw [whenDone_eq]
  split
  · exact within.modifyFuture _ _
  · exact within.callSoon fun future resolved => nomatch resolved

/-- Awaiting a future exposes no future. -/
theorem await (within : loop.Within P n) (wait : Wait) (waker : Nat) :
    (loop.await wait waker).2.Within P n := by
  unfold Loop.await
  split
  · exact within
  · split
    · exact { within with }
    · have pushed : ({ loop with cells := loop.cells.push waker } : Loop).Within P n :=
        { within with }
      exact pushed.whenDone _ _

/-- Changing what a task is doing exposes no future. -/
theorem setPhase (within : loop.Within P n) (id : TaskId) (phase : TaskPhase) :
    (loop.setPhase id phase).Within P n := by
  refine within.of_le (Nat.le_refl _) ?_ (fun _ => Or.inl) (fun _ => Or.inl) (List.Subset.refl _)
  intro other task found
  unfold Loop.setPhase at found
  rw [Table.get?_modify] at found
  by_cases same : other = id
  · rw [if_pos same, Option.map_eq_some_iff] at found
    obtain ⟨old, before, rfl⟩ := found
    exact Or.inr ⟨old, before, rfl⟩
  · rw [if_neg same] at found
    exact Or.inr ⟨task, found, rfl⟩

/-- Making a poll of a task ready exposes no future. -/
theorem schedule (within : loop.Within P n) (id : TaskId) : (loop.schedule id).Within P n := by
  unfold Loop.schedule
  split
  · exact (within.setPhase _ _).callSoon fun future resolved => nomatch resolved
  · exact within

/-- Removing a task from the live ones exposes no future. -/
theorem retire (within : loop.Within P n) (task : Task) : (loop.retire task).Within P n := by
  unfold Loop.retire
  split
  · exact within
  · exact { within with }

/-- Spawning a task exposes its result, which has to be known. -/
theorem spawn (within : loop.Within P n) (name : String) (body : Script.Body)
    (known : P loop.futures.size) : (loop.spawn name body).2.Within P n := by
  have pushed (task : Task) (same : task.result = loop.futures.size) (live : Slab TaskId) :
      ({ loop with
        futures := loop.futures.push (.new .value), tasks := loop.tasks.push task,
        live } : Loop).Within P n := by
    refine within.of_le ?_ ?_ (fun _ => Or.inl) (fun _ => Or.inl) (List.Subset.refl _)
    · simp
    · intro id other found
      rw [Table.get?_push] at found
      by_cases last : id = loop.tasks.size
      · rw [if_pos last, Option.some.injEq] at found
        rw [← found, same]
        exact Or.inl ⟨known, by simp⟩
      · rw [if_neg last] at found
        exact Or.inr ⟨other, found, rfl⟩
  unfold Loop.spawn makeFuture addFuture
  dsimp only
  split
  · exact (pushed ⟨name, .cancelled, none, loop.futures.size⟩ rfl loop.live).resolve _ _
  · exact (pushed ⟨name, .idle (.fresh body), some _, loop.futures.size⟩ rfl _).schedule _

/-- Taking the program out of a task exposes no future. -/
theorem beginPoll (within : loop.Within P n) (id : TaskId) :
    (loop.beginPoll id).2.Within P n := by
  unfold Loop.beginPoll
  split
  · exact within.setPhase _ _
  · exact within

/-- Putting a program back into its task exposes no future. -/
theorem endPoll (within : loop.Within P n) (id : TaskId) (activity : Script.Activity) :
    (loop.endPoll id activity).2.Within P n := by
  unfold Loop.endPoll
  split
  · exact within.setPhase _ _
  · exact within

/-- Completing a task exposes no future. -/
theorem complete (within : loop.Within P n) (id : TaskId) (value : Value) :
    (loop.complete id value).Within P n := by
  unfold Loop.complete
  split
  · split
    · exact ((within.setPhase _ _).retire _).resolve _ _
    · exact within
  · exact within

/-- Beginning to cancel a task exposes no future. -/
theorem beginCancel (within : loop.Within P n) (id : TaskId) (task : Task) :
    (loop.beginCancel id task).2.Within P n :=
  (within.setPhase _ _).retire _

/-- Waking the live task with a number exposes no future. -/
theorem scheduleLive (within : loop.Within P n) (slot : Nat) :
    (loop.scheduleLive slot).Within P n := by
  unfold Loop.scheduleLive
  split
  · exact within.schedule _
  · exact within

/-- Waking live tasks one after another exposes no future. -/
theorem foldl_scheduleLive (within : loop.Within P n) (slots : List Nat) :
    (slots.foldl Loop.scheduleLive loop).Within P n := by
  induction slots generalizing loop with
  | nil => exact within
  | cons slot rest ih => exact ih (within.scheduleLive slot)

/-- Taking over what other threads asked for exposes no future. -/
theorem collectRequests (within : loop.Within P n) : loop.collectRequests.Within P n := by
  rw [collectRequests_eq]
  apply foldl_scheduleLive
  refine { within with ready := ?_, remote := fun _ member => nomatch member }
  intro callback member future resolved
  cases closed : loop.closed with
  | true =>
    simp only [closed, if_true, List.append_nil] at member
    exact within.ready callback member future resolved
  | false =>
    simp only [closed, Bool.false_eq_true, if_false, List.mem_append] at member
    rcases member with before | asked
    · exact within.ready callback before future resolved
    · exact within.remote callback asked future resolved

/-- The first part of an iteration exposes no future. -/
theorem prepare (within : loop.Within P n) (now : Nat) : (loop.prepare now).2.Within P n := by
  have collected := within.collectRequests
  unfold Loop.prepare patience
  split
  · exact collected
  · refine { collected with timers := ?_ }
    intro entry member
    refine collected.timers entry ?_
    have suffix : loop.collectRequests.timers.splitCancelled.2 <:+
        loop.collectRequests.timers.entries := by
      unfold Timers.splitCancelled
      rw [List.span_eq_takeWhile_dropWhile]
      exact List.dropWhile_suffix _
    exact suffix.subset member

/-- The second part of an iteration exposes no future. -/
theorem gather (within : loop.Within P n) (now : Nat) : (loop.gather now).2.Within P n := by
  unfold Loop.gather collectDue Timers.takeDue
  apply collectRequests
  simp only [List.span_eq_takeWhile_dropWhile]
  refine { within with ready := ?_, timers := ?_ }
  · intro callback member future resolved
    simp only [Loop.drop, List.mem_append, List.mem_map, List.partition_eq_filter_filter,
      List.mem_filter] at member
    rcases member with before | ⟨entry, ⟨due, -⟩, rfl⟩
    · exact within.ready callback before future resolved
    · exact within.timers entry ((List.takeWhile_prefix _).subset due) future resolved
  · intro entry member
    exact within.timers entry ((List.dropWhile_suffix _).subset member)

/-- Taking the next ready callback exposes no future. -/
theorem takeReady (within : loop.Within P n) : loop.takeReady.2.Within P n := by
  unfold Loop.takeReady
  split
  · exact within
  · rename_i callback rest ready
    refine { within with ready := ?_ }
    intro other member
    exact within.ready other (ready ▸ List.mem_cons_of_mem callback member)

/-- Letting go of everything that waits in the loop exposes no future. -/
theorem dropAll (within : loop.Within P n) : loop.dropAll.Within P n :=
  { within with
    ready := fun _ member => nomatch member
    timers := fun _ member => nomatch member }

end Within

end Loop

end EventLoop

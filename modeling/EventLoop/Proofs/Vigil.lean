import EventLoop.Proofs.Machine.Reactions
import EventLoop.Proofs.Wait

/-!
# The polls of one wait

A wait is polled any number of times, each time with the waker of whatever task the computation belongs
to by then, and its future may be resolved at any moment while the open loop goes on with other things.
The first poll that has to wait registers the one reaction of the wait; the later ones only change the
waker that it will wake. So one wake comes of it, after the resolution, and it goes to the waker that
was given last.
-/
namespace EventLoop

/-! ## What may happen -/

/-- What a wait ends with whose future was resolved. -/
def Resolution.outcome : Resolution → Outcome
  | .cancel => .error .cancelled
  | .finish outcome => outcome

/-- The wait to go on with after a poll. -/
def Wait.onward (wait : Wait) : Except Wait Outcome → Wait
  | .error next => next
  | .ok _ => wait

/-- Does what a callback does to the waker in a cell, if that is what it is for. What other callbacks do
comes to pass after they were taken. -/
def Callback.deliver (loop : Loop) : Callback → Loop
  | .done _ (.wake cell) => loop.wakeCell cell
  | _ => loop

/-- A wait among others, with what was asked of it and what has come of that. -/
structure Vigil where
  /-- The loop. -/
  loop : Loop
  /-- The wait. -/
  wait : Wait
  /-- The other waits. -/
  others : List Wait := []
  /-- The wakers of the polls that had to wait, in order. -/
  asked : List Nat := []
  /-- What the polls registered with the future, in order. -/
  registered : List Reaction := []
  /-- How the future was resolved. -/
  resolution : Option Resolution := none
  /-- Whether the outcome was moved out since. -/
  moved : Bool := false
  /-- How many of the callbacks that were ready at the resolution have still to be taken. -/
  backlog : Nat := 0
  /-- The wakers that were woken by what the polls registered, in order. -/
  wakes : List Nat := []

namespace Vigil

/-- The future that is awaited. -/
abbrev future (vigil : Vigil) : FutureId := vigil.wait.future

/-- Polls the wait with a waker. -/
def poll (vigil : Vigil) (waker : Nat) : Vigil :=
  let (answer, loop) := vigil.loop.await vigil.wait waker
  { vigil with
    loop
    wait := vigil.wait.onward answer
    asked := vigil.asked ++ if answer.isOk then [] else [waker]
    registered := vigil.registered ++
      (loop.agenda.due vigil.future).drop (vigil.loop.agenda.due vigil.future).length }

/-- Polls another wait with a waker. -/
def pollOther (vigil : Vigil) (index : Nat) (other : Wait) (waker : Nat) : Vigil :=
  let (answer, loop) := vigil.loop.await other waker
  { vigil with loop, others := vigil.others.set index (other.onward answer) }

/-- Resolves the future, or tries to. -/
def resolve (vigil : Vigil) (resolution : Resolution) : Vigil :=
  let loop := (vigil.loop.resolve vigil.future resolution).2
  match vigil.resolution with
  | none => { vigil with loop, resolution := some resolution, backlog := loop.ready.length }
  | some _ => { vigil with loop }

/-- Moves the outcome out of the future. -/
def move (vigil : Vigil) : Vigil :=
  { vigil with
    loop := { vigil.loop with
      futures := vigil.loop.futures.modify vigil.future fun entry => entry.take.2 }
    moved := true }

/-- Runs a callback that was taken from the loop and was registered by the polls. -/
def answer (vigil : Vigil) (callback : Callback) (loop : Loop) : Vigil :=
  { vigil with
    loop := callback.deliver loop
    backlog := vigil.backlog - 1
    wakes := vigil.wakes ++ (callback.deliver loop).woken.drop loop.woken.length }

/-- Runs another callback that was taken from the loop. -/
def run (vigil : Vigil) (callback : Callback) (loop : Loop) : Vigil :=
  { vigil with loop := callback.deliver loop, backlog := vigil.backlog - 1 }

/-- What goes on at an open loop besides the polls of waits, as far as it does not resolve the future or
move its outcome out. Anything may become of the tasks and of the other futures. -/
structure Elsewhere (future : FutureId) (before after : Loop) : Prop where
  /-- The loop is open. -/
  opened : after.closed = false
  /-- The cells are left to the polls of waits. -/
  cells : after.cells = before.cells
  /-- The loop acts on what it has to do. -/
  acts : ∃ futures tasks live, futures.get? future = before.futures.get? future ∧
    Agenda.Acts True { before.agenda with futures, tasks, live } after.agenda
  /-- The future is not resolved. -/
  done : after.isDone future = before.isDone future
  /-- Its outcome is not moved out. -/
  result : after.resultOf future = before.resultOf future
  /-- Nothing is to wake a cell that was not before. -/
  quiet : ∀ cell, .wake cell ∉ (after.agenda.due future).drop (before.agenda.due future).length

/-- What may happen next. -/
inductive Step (before : Vigil) : Vigil → Prop
  /-- The wait is polled. -/
  | polled (waker : Nat) : Step before (before.poll waker)
  /-- Someone else begins to wait. -/
  | joined (future : FutureId) :
    Step before { before with others := before.others ++ [⟨future, none⟩] }
  /-- Another wait is polled. -/
  | neighbour {index : Nat} {other : Wait} (found : before.others[index]? = some other)
      (waker : Nat) : Step before (before.pollOther index other waker)
  /-- Someone resolves the future. -/
  | resolved (resolution : Resolution) : Step before (before.resolve resolution)
  /-- The outcome of the future is moved out. -/
  | moved (done : before.resolution.isSome = true) : Step before before.move
  /-- The next callback is one that the polls registered. -/
  | answered {callback : Callback} {loop : Loop}
      (next : before.loop.takeReady = (some callback, loop))
      (own : ∃ reaction ∈ before.registered, callback = .done before.future reaction) :
    Step before (before.answer callback loop)
  /-- The next callback is another one. -/
  | ran {callback : Callback} {loop : Loop}
      (next : before.loop.takeReady = (some callback, loop))
      (other : ∀ reaction ∈ before.registered, callback ≠ .done before.future reaction) :
    Step before (before.run callback loop)
  /-- Anything else happens. -/
  | elsewhere {loop : Loop} (elsewhere : Elsewhere before.future before.loop loop) :
    Step before { before with loop }

/-- The loop is open, the future is pending and the wait has not been polled. Whatever cells there are
belong to other waits. -/
structure Starts (vigil : Vigil) : Prop where
  /-- The loop is open. -/
  opened : vigil.loop.closed = false
  /-- The future exists. -/
  bound : vigil.future < vigil.loop.futures.size
  /-- It is pending. -/
  pending : vigil.loop.isDone vigil.future = false
  /-- The wait has not been polled. -/
  unpolled : vigil.wait.cell = none
  /-- What the future is to wake are cells that exist. -/
  known : ∀ cell, .wake cell ∈ vigil.loop.agenda.due vigil.future → cell < vigil.loop.cells.size
  /-- The cells of the other waits exist. -/
  others : ∀ other ∈ vigil.others, ∀ cell ∈ other.cell, cell < vigil.loop.cells.size
  /-- Nothing was asked, and nothing has come of it. -/
  blank : vigil.asked = [] ∧ vigil.registered = [] ∧ vigil.resolution = none ∧ vigil.wakes = [] ∧
    vigil.backlog = 0

/-- What has become of a wait that was watched from its beginning. -/
inductive Reached : Vigil → Prop
  /-- It begins. -/
  | begun {vigil : Vigil} (starts : vigil.Starts) : Reached vigil
  /-- Something happens. -/
  | step {before after : Vigil} (earlier : Reached before) (step : Step before after) : Reached after

end Vigil

/-! ## What is due grows -/

namespace Agenda

variable {cancels : Prop} {agenda other : Agenda} {future : FutureId} {entry : Future}

/-- What is ready of a future can be told from its reactions. -/
theorem mem_reactions {callbacks : List Callback} {reaction : Reaction} :
    reaction ∈ callbacks.filterMap (Callback.reaction? future) ↔
      Callback.done future reaction ∈ callbacks := by
  rw [List.mem_filterMap]
  constructor
  · rintro ⟨callback, member, same⟩
    exact Callback.reaction?_eq_some.mp same ▸ member
  · intro member
    exact ⟨_, member, Callback.reaction?_eq_some.mpr rfl⟩

/-- A future that exists goes on to exist. -/
theorem Act.bound (act : Act cancels agenda other) (bound : future < agenda.futures.size) :
    future < other.futures.size := by
  cases act with
  | called | answered | roused => exact bound
  | made | spawned =>
    rw [Table.size_push]
    exact Nat.lt_succ_of_lt bound
  | registered | resolved | taken | emptied =>
    rw [Table.size_modify]
    exact bound
  | cancelled id task =>
    rw [futures_retire]
    exact bound

/-- A future that exists still exists after some acts. -/
theorem Acts.bound (acts : Acts cancels agenda other) (bound : future < agenda.futures.size) :
    future < other.futures.size := by
  induction acts with
  | refl => exact bound
  | tail _ act ih => exact act.bound ih

/-- No reaction of a future that is pending becomes ready. -/
theorem Act.early (act : Act cancels agenda other) (found : other.futures.get? future = some entry)
    (pending : entry.isDone = false) :
    other.ready.filterMap (Callback.reaction? future) =
      agenda.ready.filterMap (Callback.reaction? future) := by
  have foreign {callbacks : List Callback}
      (none : ∀ callback ∈ callbacks, callback.reaction? future = none) :
      (agenda.ready ++ callbacks).filterMap (Callback.reaction? future) =
        agenda.ready.filterMap (Callback.reaction? future) := by
    rw [List.filterMap_append, List.filterMap_eq_nil_iff.mpr none, List.append_nil]
  cases act with
  | made | registered | taken | emptied => rfl
  | called callbacks asked =>
    exact foreign fun callback member => Callback.reaction?_of_isAsked (asked callback member)
  | answered id reaction done =>
    have apart : id ≠ future := by
      rintro rfl
      have ended := done entry found
      rw [pending] at ended
      cases ended
    refine foreign fun callback member => ?_
    rw [List.mem_singleton.mp member]
    exact if_neg apart
  | resolved id resolution kind reactions timer before =>
    have apart : id ≠ future := by
      rintro rfl
      dsimp only at found
      rw [Table.get?_modify_self, before] at found
      cases found
      cases resolution with
      | cancel | finish => cases pending
    dsimp only
    rw [List.filterMap_append, filterMap_reaction?, if_neg apart, List.append_nil]
  | roused | spawned =>
    refine foreign fun callback member => ?_
    rw [List.mem_singleton.mp member]
    rfl
  | cancelled id task =>
    rw [ready_retire]
    rfl

/-- A future that is still pending after some acts was pending before, and none of its reactions became
ready. -/
theorem Acts.early (acts : Acts cancels agenda other) (bound : future < agenda.futures.size)
    (found : other.futures.get? future = some entry) (pending : entry.isDone = false) :
    other.ready.filterMap (Callback.reaction? future) =
      agenda.ready.filterMap (Callback.reaction? future) := by
  induction acts generalizing entry with
  | refl => rfl
  | tail earlier act ih =>
    obtain ⟨middle, there⟩ := Table.exists_get?_of_lt_size (Acts.bound earlier bound)
    -- What is pending in the end was pending all the time.
    have waits : middle.isDone = false := by
      by_contra done
      rw [Bool.not_eq_false] at done
      obtain ⟨later, here, remains⟩ := act.remains there done
      rw [found] at here
      cases here
      rw [remains.isDone done] at pending
      cases pending
    exact (act.early found pending).trans (ih there waits)

end Agenda

namespace Vigil

variable {future : FutureId} {before after : Loop} {new : List Reaction} {vigil next : Vigil}

/-- On an open loop reactions of a future were registered, and nothing else happened to it. -/
structure Grows (future : FutureId) (before after : Loop) (new : List Reaction) : Prop where
  /-- The loop is open. -/
  opened : after.closed = false
  /-- The future exists. -/
  bound : future < after.futures.size
  /-- The future is not resolved. -/
  done : after.isDone future = before.isDone future
  /-- No callback that was ready is forgotten. -/
  ready : before.ready <+: after.ready
  /-- The reactions are due, behind the others. -/
  due : after.agenda.due future = before.agenda.due future ++ new
  /-- None of them is ready before the future is done. -/
  early : after.isDone future = false → after.ready.filterMap (Callback.reaction? future) =
    before.ready.filterMap (Callback.reaction? future)

/-- Nothing happened to the future and to what is ready. -/
theorem Grows.of_same (opened : after.closed = false) (bound : future < before.futures.size)
    (futures : after.futures = before.futures) (ready : after.ready = before.ready) :
    Grows future before after [] where
  opened := opened
  bound := futures ▸ bound
  done := by unfold Loop.isDone Loop.futureState; rw [futures]
  ready := ready ▸ List.prefix_refl _
  due := by
    rw [List.append_nil]
    unfold Agenda.due Agenda.kept Loop.agenda
    rw [futures, ready]
  early := fun _ => by rw [ready]

/-- A future that is done keeps no reactions. -/
theorem kept_of_isDone {loop : Loop} (done : loop.isDone future = true) :
    loop.agenda.kept future = [] :=
  Agenda.kept_of_isDone (Loop.isResolved_of_isDone done)

/-- A pending future keeps what was registered. -/
theorem Grows.kept (grows : Grows future before after new) (pending : after.isDone future = false) :
    after.agenda.kept future = before.agenda.kept future ++ new := by
  have due := grows.due
  unfold Agenda.due at due
  have early : after.agenda.ready.filterMap (Callback.reaction? future) =
      before.agenda.ready.filterMap (Callback.reaction? future) := grows.early pending
  rw [early, List.append_assoc] at due
  exact List.append_cancel_left due

/-- What was registered with a future that is done is ready. -/
theorem Grows.answered (grows : Grows future before after new) (done : after.isDone future = true) :
    ∃ more, after.ready = before.ready ++ more ∧
      more.filterMap (Callback.reaction? future) = new := by
  obtain ⟨more, split⟩ := grows.ready
  refine ⟨more, split.symm, ?_⟩
  have due := grows.due
  unfold Agenda.due at due
  rw [kept_of_isDone done, kept_of_isDone (grows.done ▸ done), List.append_nil, List.append_nil] at due
  change after.ready.filterMap _ = before.ready.filterMap _ ++ new at due
  rw [← split, List.filterMap_append] at due
  exact List.append_cancel_left due

/-- A reaction is registered with some future. -/
theorem grows_whenDone {loop : Loop} (opened : loop.closed = false) (bound : future < loop.futures.size)
    (id : FutureId) (reaction : Reaction) :
    Grows future loop (loop.whenDone id reaction) (if id = future then [reaction] else []) := by
  rw [Loop.whenDone_eq]
  split
  · rename_i kind reactions timer found
    have pending : loop.agenda.futures.get? id = some ⟨kind, .pending reactions timer⟩ := found
    refine ⟨opened, by simpa using bound, ?_, List.prefix_refl _,
      Agenda.due_registered future reaction pending, fun _ => rfl⟩
    unfold Loop.isDone Loop.futureState
    dsimp only
    rw [Table.get?_modify]
    by_cases same : future = id
    · rw [if_pos same, same, found]
      rfl
    · rw [if_neg same]
  · rename_i other
    have done (entry : Future) (found : loop.agenda.futures.get? id = some entry) :
        entry.isDone = true := by
      obtain ⟨kind, phase⟩ := entry
      cases phase with
      | pending reactions timer => exact absurd found (other kind reactions timer)
      | cancelled | finished => rfl
    rw [Loop.callSoon_eq, opened]
    refine ⟨rfl, bound, rfl, List.prefix_append _ _, Agenda.due_answered future reaction done,
      fun waits => ?_⟩
    have apart : id ≠ future := by
      rintro rfl
      obtain ⟨kind, reactions, timer, found⟩ := Loop.exists_pending bound waits
      exact other kind reactions timer found
    dsimp only
    rw [List.filterMap_append]
    simp [Callback.reaction?, apart]

/-- What else goes on registers reactions. -/
theorem Elsewhere.grows (elsewhere : Elsewhere future before after)
    (bound : future < before.futures.size) :
    ∃ new, Grows future before after new ∧ ∀ cell, .wake cell ∉ new := by
  obtain ⟨futures, tasks, live, same, acts⟩ := elsewhere.acts
  obtain ⟨entry, found⟩ := Table.exists_get?_of_lt_size bound
  have there : future < futures.size := Table.lt_size_of_get? (same.trans found)
  have kept : future < after.futures.size := acts.bound there
  obtain ⟨new, due⟩ := acts.due future
  have unchanged : Agenda.due { before.agenda with futures, tasks, live } future =
      before.agenda.due future := by
    unfold Agenda.due Agenda.kept
    rw [show Table.get? futures future = _ from same]
    rfl
  rw [unchanged] at due
  refine ⟨new, ⟨elsewhere.opened, kept, elsewhere.done, acts.ready, due.symm, fun pending => ?_⟩,
    fun cell => ?_⟩
  · obtain ⟨kind, reactions, timer, found⟩ := Loop.exists_pending kept pending
    exact acts.early there found rfl
  · have quiet := elsewhere.quiet cell
    rwa [← due, List.drop_left] at quiet

/-- A callback that something asks for has nothing to do with the future. -/
theorem elsewhere_callSoon (future : FutureId) {loop : Loop} (opened : loop.closed = false)
    {callback : Callback} (asked : callback.isAsked = true) :
    Elsewhere future loop (loop.callSoon callback) := by
  rw [Loop.callSoon_eq, opened]
  have act : Agenda.Act True loop.agenda { loop.agenda with ready := loop.agenda.ready ++ [callback] } :=
    .called [callback] fun _ member => List.mem_singleton.mp member ▸ asked
  have due : Agenda.due { loop.agenda with ready := loop.agenda.ready ++ [callback] } future =
      loop.agenda.due future :=
    Agenda.due_append loop.agenda fun _ member =>
      Callback.reaction?_of_isAsked (List.mem_singleton.mp member ▸ asked)
  refine ⟨rfl, rfl, ⟨loop.futures, loop.tasks, loop.live, rfl, .single act⟩, rfl, rfl,
    fun cell member => ?_⟩
  change _ ∈ (Agenda.due { loop.agenda with ready := loop.agenda.ready ++ [callback] } future).drop _
    at member
  rw [due, List.drop_length] at member
  cases member

/-! ## Polls -/

/-- What a poll of a wait comes to. -/
inductive Polls (loop : Loop) (wait : Wait) (waker : Nat) : Except Wait Outcome → Loop → Prop
  /-- The future is done, and the poll returns its outcome. -/
  | ended (done : loop.isDone wait.future = true) :
    Polls loop wait waker (.ok (loop.resultOf wait.future)) loop
  /-- The wait was polled before: its cell is given the waker. -/
  | again {cell : CellId} (pending : loop.isDone wait.future = false) (given : wait.cell = some cell) :
    Polls loop wait waker (.error wait) { loop with cells := loop.cells.modify cell fun _ => waker }
  /-- The wait was not polled before: it is given a cell, which the future will wake. -/
  | first (pending : loop.isDone wait.future = false) (given : wait.cell = none) :
    Polls loop wait waker (.error { wait with cell := some loop.cells.size })
      (({ loop with cells := loop.cells.push waker } : Loop).whenDone wait.future
        (.wake loop.cells.size))

/-- A poll of a wait comes to one of the outcomes that a poll may have. -/
theorem polls_await (loop : Loop) (wait : Wait) (waker : Nat) :
    Polls loop wait waker (loop.await wait waker).1 (loop.await wait waker).2 := by
  unfold Loop.await
  cases done : loop.isDone wait.future with
  | true => exact .ended done
  | false =>
    obtain ⟨future, cell⟩ := wait
    cases cell with
    | none => exact .first done rfl
    | some cell => exact .again done rfl

/-- Registering a reaction leaves the cells as they are. -/
theorem cells_whenDone (loop : Loop) (id : FutureId) (reaction : Reaction) :
    (loop.whenDone id reaction).cells = loop.cells := by
  rw [Loop.whenDone_eq]
  split
  · rfl
  · rw [Loop.callSoon_eq]

/-- A reaction that is registered leaves the outcomes of all futures as they are. -/
theorem resultOf_whenDone (loop : Loop) (id : FutureId) (reaction : Reaction) (other : FutureId) :
    (loop.whenDone id reaction).resultOf other = loop.resultOf other := by
  rw [Loop.whenDone_eq]
  split
  · rename_i kind reactions timer found
    unfold Loop.resultOf
    dsimp only
    rw [Table.get?_modify]
    by_cases same : other = id
    · rw [if_pos same, same, found]
      rfl
    · rw [if_neg same]
  · rw [Loop.callSoon_eq]
    rfl

/-- The first poll that has to wait registers what wakes the new cell. -/
theorem grows_first {loop : Loop} (opened : loop.closed = false) (bound : future < loop.futures.size)
    (waker : Nat) (id : FutureId) :
    Grows future loop (({ loop with cells := loop.cells.push waker } : Loop).whenDone id
      (.wake loop.cells.size)) (if id = future then [.wake loop.cells.size] else []) :=
  have still : ({ loop with cells := loop.cells.push waker } : Loop).closed = false := opened
  have grows := grows_whenDone still bound id (.wake loop.cells.size)
  ⟨grows.opened, grows.bound, grows.done, grows.ready, grows.due, grows.early⟩

variable {loop : Loop} {wait : Wait} {waker : Nat} {reply : Except Wait Outcome}

/-- Whatever wait is polled, a future is to wake at most a new cell in addition. -/
theorem Polls.grows (polls : Polls loop wait waker reply after) (opened : loop.closed = false)
    (bound : future < loop.futures.size) : ∃ new, Grows future loop after new ∧
      ∀ cell, .wake cell ∈ new → cell = loop.cells.size ∧ cell < after.cells.size := by
  cases polls with
  | ended done => exact ⟨[], .of_same opened bound rfl rfl, fun _ member => nomatch member⟩
  | again pending given => exact ⟨[], .of_same opened bound rfl rfl, fun _ member => nomatch member⟩
  | first pending given =>
    refine ⟨_, grows_first opened bound waker wait.future, fun cell member => ?_⟩
    split at member
    · cases List.mem_singleton.mp member
      rw [cells_whenDone, Table.size_push]
      exact ⟨rfl, Nat.lt_succ_self _⟩
    · cases member

/-- A poll leaves the outcomes of all futures as they are. -/
theorem Polls.result (polls : Polls loop wait waker reply after) (id : FutureId) :
    after.resultOf id = loop.resultOf id := by
  cases polls with
  | ended | again => rfl
  | first => exact resultOf_whenDone _ _ _ _

/-- A poll changes no cell but that of the wait. -/
theorem Polls.cells (polls : Polls loop wait waker reply after) :
    loop.cells.size ≤ after.cells.size ∧ ∀ cell, cell < loop.cells.size → wait.cell ≠ some cell →
      after.cells.get? cell = loop.cells.get? cell := by
  cases polls with
  | ended => exact ⟨Nat.le_refl _, fun _ _ _ => rfl⟩
  | @again own pending given =>
    refine ⟨Nat.le_of_eq (Table.size_modify _ _ _).symm, fun cell _ other => ?_⟩
    exact Table.get?_modify_of_ne _ _ fun same => other (same ▸ given)
  | first =>
    rw [cells_whenDone, Table.size_push]
    refine ⟨Nat.le_succ _, fun cell below _ => ?_⟩
    rw [Table.get?_push, if_neg (Nat.ne_of_lt below)]

/-- The wait to go on with has the cell that it had or a new one. -/
theorem Polls.onward (polls : Polls loop wait waker reply after) {cell : CellId}
    (given : cell ∈ (wait.onward reply).cell) :
    wait.cell = some cell ∨ (cell = loop.cells.size ∧ cell < after.cells.size) := by
  cases polls with
  | ended | again => exact .inl given
  | first =>
    cases given
    rw [cells_whenDone, Table.size_push]
    exact .inr ⟨rfl, Nat.lt_succ_self _⟩

/-! ## What comes of the polls -/

/-- Where the one wake is of a wait that had to wait. -/
inductive Stands (vigil : Vigil) (cell : CellId) (waker : Nat) : Prop
  /-- The future keeps it. -/
  | kept (front back : List Reaction) (unresolved : vigil.resolution = none)
      (split : vigil.loop.agenda.kept vigil.future = front ++ .wake cell :: back)
      (once : .wake cell ∉ front ∧ .wake cell ∉ back)
      (idle : .done vigil.future (.wake cell) ∉ vigil.loop.ready) (silent : vigil.wakes = [])
  /-- It is ready, as it was at the resolution. -/
  | ready (front back : List Callback) (resolved : vigil.resolution.isSome = true)
      (split : vigil.loop.ready = front ++ .done vigil.future (.wake cell) :: back)
      (once : .done vigil.future (.wake cell) ∉ front ∧ .done vigil.future (.wake cell) ∉ back)
      (soon : front.length < vigil.backlog) (silent : vigil.wakes = [])
  /-- It was delivered. -/
  | woken (resolved : vigil.resolution.isSome = true)
      (gone : .done vigil.future (.wake cell) ∉ vigil.loop.ready) (wakes : vigil.wakes = [waker])

/-- What stays true of a wait that was watched from its beginning. -/
structure Holds (vigil : Vigil) : Prop where
  /-- The loop is open. -/
  opened : vigil.loop.closed = false
  /-- The future exists. -/
  bound : vigil.future < vigil.loop.futures.size
  /-- It is pending until it is resolved. -/
  pending : vigil.resolution = none → vigil.loop.isDone vigil.future = false
  /-- It keeps the outcome that it was resolved with, unless the outcome is moved out. -/
  done : ∀ resolution, vigil.resolution = some resolution →
    vigil.loop.isDone vigil.future = true ∧
      (vigil.moved = false → vigil.loop.resultOf vigil.future = resolution.outcome)
  /-- What was ready at the resolution is still ready, as far as it was not taken. -/
  backlog : vigil.backlog ≤ vigil.loop.ready.length
  /-- What the future is to wake are cells that exist. -/
  known : ∀ cell, .wake cell ∈ vigil.loop.agenda.due vigil.future → cell < vigil.loop.cells.size
  /-- Each of the other waits has a cell of its own. -/
  apart : ∀ other ∈ vigil.others, ∀ cell ∈ other.cell,
    cell < vigil.loop.cells.size ∧ vigil.wait.cell ≠ some cell
  /-- A wait without a cell never had to wait. -/
  unpolled : vigil.wait.cell = none → vigil.asked = [] ∧ vigil.registered = [] ∧ vigil.wakes = []
  /-- A wait with a cell registered once what wakes the cell, which has the waker that was given last. -/
  polled : ∀ cell, vigil.wait.cell = some cell → ∃ waker, vigil.asked.getLast? = some waker ∧
    vigil.registered = [.wake cell] ∧ vigil.loop.cells.get? cell = some waker ∧
      vigil.Stands cell waker

/-- At the beginning a wait was never polled, and all is in order. -/
theorem Starts.holds (starts : vigil.Starts) : vigil.Holds := by
  obtain ⟨asked, registered, resolution, wakes, backlog⟩ := starts.blank
  refine ⟨starts.opened, starts.bound, fun _ => starts.pending, ?_, ?_, starts.known, ?_,
    fun _ => ⟨asked, registered, wakes⟩, ?_⟩
  · intro given same
    rw [resolution] at same
    cases same
  · rw [backlog]
    exact Nat.zero_le _
  · intro other member cell given
    rw [starts.unpolled]
    exact ⟨starts.others other member cell given, nofun⟩
  · intro cell given
    rw [starts.unpolled] at given
    cases given

/-- What was registered for others leaves the wake of a wait where it is. -/
theorem Holds.stands (holds : vigil.Holds) {cell : CellId} (stands : vigil.Stands cell waker)
    (grows : Grows vigil.future vigil.loop after new) (foreign : .wake cell ∉ new)
    (others : List Wait) (moved : Bool) :
    Stands { vigil with loop := after, others, moved } cell waker := by
  cases stands with
  | kept front back unresolved split once idle silent =>
    have pending : after.isDone vigil.future = false := grows.done.trans (holds.pending unresolved)
    refine .kept front (back ++ new) unresolved ?_ ⟨once.1, ?_⟩ ?_ silent
    · change after.agenda.kept vigil.future = _
      rw [grows.kept pending, split, List.append_assoc]
      rfl
    · exact List.not_mem_append once.2 foreign
    · change _ ∉ after.ready
      rw [← Agenda.mem_reactions, grows.early pending, Agenda.mem_reactions]
      exact idle
  | ready front back resolved split once soon silent =>
    obtain ⟨resolution, same⟩ := Option.isSome_iff_exists.mp resolved
    obtain ⟨more, later, fresh⟩ :=
      grows.answered (grows.done.trans (holds.done resolution same).1)
    refine .ready front (back ++ more) resolved ?_ ⟨once.1, ?_⟩ soon silent
    · change after.ready = _
      rw [later, split, List.append_assoc]
      rfl
    · refine List.not_mem_append once.2 fun member => foreign ?_
      rw [← fresh]
      exact Agenda.mem_reactions.mpr member
  | woken resolved gone wakes =>
    obtain ⟨resolution, same⟩ := Option.isSome_iff_exists.mp resolved
    obtain ⟨more, later, fresh⟩ :=
      grows.answered (grows.done.trans (holds.done resolution same).1)
    refine .woken resolved ?_ wakes
    change _ ∉ after.ready
    rw [later]
    refine List.not_mem_append gone fun member => foreign ?_
    rw [← fresh]
    exact Agenda.mem_reactions.mpr member

/-- What others do leaves everything as it should be. -/
theorem Holds.grows (holds : vigil.Holds) (grows : Grows vigil.future vigil.loop after new)
    {others : List Wait} {moved : Bool}
    (result : moved = false → vigil.moved = false ∧
      after.resultOf vigil.future = vigil.loop.resultOf vigil.future)
    (more : vigil.loop.cells.size ≤ after.cells.size)
    (own : ∀ cell, vigil.wait.cell = some cell →
      after.cells.get? cell = vigil.loop.cells.get? cell ∧ .wake cell ∉ new)
    (fresh : ∀ cell, .wake cell ∈ new → cell < after.cells.size)
    (apart : ∀ other ∈ others, ∀ cell ∈ other.cell,
      cell < after.cells.size ∧ vigil.wait.cell ≠ some cell) :
    Holds { vigil with loop := after, others, moved } where
  opened := grows.opened
  bound := grows.bound
  pending unresolved := grows.done.trans (holds.pending unresolved)
  done := by
    intro resolution same
    obtain ⟨done, outcome⟩ := holds.done resolution same
    refine ⟨grows.done.trans done, fun stays => ?_⟩
    obtain ⟨stayed, kept⟩ := result stays
    exact kept.trans (outcome stayed)
  backlog := Nat.le_trans holds.backlog grows.ready.length_le
  known := by
    intro cell member
    change _ ∈ after.agenda.due vigil.future at member
    rw [grows.due] at member
    rcases List.mem_append.mp member with member | member
    · exact Nat.lt_of_lt_of_le (holds.known cell member) more
    · exact fresh cell member
  apart := apart
  unpolled := holds.unpolled
  polled := by
    intro cell given
    obtain ⟨waker, last, registered, carries, stands⟩ := holds.polled cell given
    obtain ⟨same, foreign⟩ := own cell given
    exact ⟨waker, last, registered, same.trans carries,
      holds.stands stands grows foreign others moved⟩

/-! ### Each thing that may happen -/

/-- A poll that is over leaves everything as it is. -/
theorem poll_of_done (done : vigil.loop.isDone vigil.future = true) (waker : Nat) :
    vigil.loop.await vigil.wait waker = (.ok (vigil.loop.resultOf vigil.future), vigil.loop) ∧
      vigil.poll waker = vigil := by
  have answered : vigil.loop.await vigil.wait waker =
      (.ok (vigil.loop.resultOf vigil.future), vigil.loop) := if_pos done
  refine ⟨answered, ?_⟩
  unfold poll
  rw [answered]
  simp [Wait.onward, Except.isOk, Except.toBool]

/-- A future that is pending was not resolved. -/
theorem Holds.unresolved (holds : vigil.Holds)
    (pending : vigil.loop.isDone vigil.future = false) : vigil.resolution = none := by
  cases same : vigil.resolution with
  | none => rfl
  | some resolution =>
    rw [(holds.done resolution same).1] at pending
    cases pending

/-- The cell of a wait that had to wait before is given the waker. -/
theorem Holds.again (holds : vigil.Holds) {cell : CellId} (waker : Nat)
    (pending : vigil.loop.isDone vigil.future = false) (given : vigil.wait.cell = some cell) :
    Holds { vigil with
      loop := { vigil.loop with cells := vigil.loop.cells.modify cell fun _ => waker }
      asked := vigil.asked ++ [waker] } := by
  have unresolved := holds.unresolved pending
  obtain ⟨last, -, registered, carries, stands⟩ := holds.polled cell given
  have size : (vigil.loop.cells.modify cell fun _ => waker).size = vigil.loop.cells.size :=
    Table.size_modify _ _ _
  refine ⟨holds.opened, holds.bound, holds.pending, holds.done, holds.backlog, ?_, ?_, ?_, ?_⟩
  · intro other member
    exact size ▸ holds.known other member
  · intro other member here there
    obtain ⟨below, apart⟩ := holds.apart other member here there
    exact ⟨size ▸ below, apart⟩
  · intro unpolled
    rw [show vigil.wait.cell = none from unpolled] at given
    cases given
  · intro here there
    rw [show vigil.wait.cell = some here from there] at given
    cases given
    refine ⟨waker, List.getLast?_concat, registered, ?_, ?_⟩
    · exact (Table.get?_modify_self _ _ _).trans (by rw [carries]; rfl)
    · cases stands with
      | kept front back unresolved split once idle silent =>
        exact .kept front back unresolved split once idle silent
      | ready _ _ resolved => simp [unresolved] at resolved
      | woken resolved => simp [unresolved] at resolved

/-- A wait that never had to wait is given a new cell, and what wakes it is registered. -/
theorem Holds.first (holds : vigil.Holds) (waker : Nat)
    (pending : vigil.loop.isDone vigil.future = false) (given : vigil.wait.cell = none)
    (grows : Grows vigil.future vigil.loop after [.wake vigil.loop.cells.size])
    (cells : after.cells = vigil.loop.cells.push waker) :
    Holds { vigil with
      loop := after
      wait := { vigil.wait with cell := some vigil.loop.cells.size }
      asked := vigil.asked ++ [waker]
      registered := vigil.registered ++
        (after.agenda.due vigil.future).drop (vigil.loop.agenda.due vigil.future).length } := by
  have unresolved := holds.unresolved pending
  obtain ⟨asked, registered, wakes⟩ := holds.unpolled given
  have size : after.cells.size = vigil.loop.cells.size + 1 := by rw [cells, Table.size_push]
  have waits : after.isDone vigil.future = false := grows.done.trans pending
  -- The cell is new, so nothing that was due before wakes it.
  have unknown : .wake vigil.loop.cells.size ∉ vigil.loop.agenda.due vigil.future :=
    fun member => Nat.lt_irrefl _ (holds.known _ member)
  refine ⟨grows.opened, grows.bound, fun _ => waits, ?_,
    Nat.le_trans holds.backlog grows.ready.length_le, ?_, ?_, nofun, ?_⟩
  · intro resolution same
    rw [show vigil.resolution = some resolution from same] at unresolved
    cases unresolved
  · intro cell member
    change _ ∈ after.agenda.due vigil.future at member
    rw [grows.due] at member
    change cell < after.cells.size
    rw [size]
    rcases List.mem_append.mp member with member | member
    · exact Nat.lt_succ_of_lt (holds.known cell member)
    · cases List.mem_singleton.mp member
      exact Nat.lt_succ_self _
  · intro other member cell there
    obtain ⟨below, -⟩ := holds.apart other member cell there
    refine ⟨?_, fun same => ?_⟩
    · change cell < after.cells.size
      rw [size]
      exact Nat.lt_succ_of_lt below
    · cases same
      exact Nat.lt_irrefl _ below
  · intro cell there
    cases there
    refine ⟨waker, List.getLast?_concat, ?_, ?_, ?_⟩
    · change vigil.registered ++ (after.agenda.due vigil.future).drop _ = _
      rw [registered, grows.due, List.drop_left]
      rfl
    · change after.cells.get? _ = _
      rw [cells, Table.get?_push, if_pos rfl]
    · have unready : .done vigil.future (.wake vigil.loop.cells.size) ∉ after.ready := by
        rw [← Agenda.mem_reactions, grows.early waits]
        exact fun member => unknown (List.mem_append_left _ member)
      exact .kept (vigil.loop.agenda.kept vigil.future) [] unresolved (grows.kept waits)
        ⟨fun member => unknown (List.mem_append_right _ member), nofun⟩ unready wakes

/-- Polling the wait keeps all in order. -/
theorem Holds.poll (holds : vigil.Holds) (waker : Nat) : (vigil.poll waker).Holds := by
  by_cases ended : vigil.loop.isDone vigil.future = true
  · rwa [(poll_of_done ended waker).2]
  have polls := polls_await vigil.loop vigil.wait waker
  unfold Vigil.poll
  generalize vigil.loop.await vigil.wait waker = polled at polls ⊢
  obtain ⟨answer, after⟩ := polled
  dsimp only at polls ⊢
  cases polls with
  | ended done => exact absurd done ended
  | again pending given =>
    have nothing : vigil.registered ++ (vigil.loop.agenda.due vigil.future).drop
        (vigil.loop.agenda.due vigil.future).length = vigil.registered := by
      rw [List.drop_length, List.append_nil]
    have again := holds.again waker pending given
    rw [← nothing] at again
    exact again
  | first pending given =>
    have grows := grows_first holds.opened holds.bound waker vigil.future
    rw [if_pos rfl] at grows
    exact holds.first waker pending given grows (cells_whenDone _ _ _)

/-- Polling another wait for the future keeps all in order. -/
theorem Holds.pollOther (holds : vigil.Holds) {index : Nat} {other : Wait}
    (found : vigil.others[index]? = some other) (waker : Nat) :
    (vigil.pollOther index other waker).Holds := by
  have polls := polls_await vigil.loop other waker
  unfold Vigil.pollOther
  generalize vigil.loop.await other waker = polled at polls ⊢
  obtain ⟨answer, after⟩ := polled
  dsimp only at polls ⊢
  obtain ⟨new, grows, fresh⟩ := polls.grows holds.opened holds.bound
  obtain ⟨more, cells⟩ := polls.cells
  have below (cell : CellId) (given : vigil.wait.cell = some cell) :
      cell < vigil.loop.cells.size := by
    obtain ⟨waker, -, -, carries, -⟩ := holds.polled cell given
    exact Table.lt_size_of_get? carries
  have member : other ∈ vigil.others := List.mem_of_getElem? found
  refine holds.grows grows (fun stays => ⟨stays, polls.result vigil.future⟩) more
    (fun cell given => ⟨?_, fun registered => ?_⟩) (fun cell registered => (fresh cell registered).2) ?_
  · exact cells cell (below cell given) fun here => (holds.apart other member cell here).2 given
  · exact Nat.ne_of_lt (below cell given) (fresh cell registered).1
  · intro wait listed cell given
    rcases List.mem_or_eq_of_mem_set listed with listed | rfl
    · obtain ⟨lower, apart⟩ := holds.apart wait listed cell given
      exact ⟨Nat.lt_of_lt_of_le lower more, apart⟩
    · rcases polls.onward given with had | ⟨rfl, bound⟩
      · obtain ⟨lower, apart⟩ := holds.apart other member cell had
        exact ⟨Nat.lt_of_lt_of_le lower more, apart⟩
      · exact ⟨bound, fun same => Nat.lt_irrefl _ (below _ same)⟩

/-- Another wait for a future may begin. -/
theorem Holds.join (holds : vigil.Holds) (id : FutureId) :
    Holds { vigil with others := vigil.others ++ [⟨id, none⟩] } := by
  have same : Grows vigil.future vigil.loop vigil.loop [] :=
    .of_same holds.opened holds.bound rfl rfl
  refine holds.grows same (fun stays => ⟨stays, rfl⟩) (Nat.le_refl _) (fun _ _ => ⟨rfl, nofun⟩)
    nofun fun other member cell given => ?_
  rcases List.mem_append.mp member with member | member
  · exact holds.apart other member cell given
  · cases List.mem_singleton.mp member
    cases given

/-- Whatever happens elsewhere keeps all in order. -/
theorem Holds.elsewhere (holds : vigil.Holds) (elsewhere : Elsewhere vigil.future vigil.loop loop) :
    Holds { vigil with loop } := by
  obtain ⟨new, grows, quiet⟩ := elsewhere.grows holds.bound
  have cells := elsewhere.cells
  refine holds.grows grows (fun stays => ⟨stays, elsewhere.result⟩) (cells ▸ Nat.le_refl _)
    (fun cell _ => ⟨by rw [cells], quiet cell⟩) (fun cell member => absurd member (quiet cell)) ?_
  rw [cells]
  exact holds.apart

/-- The outcome that is moved out leaves the future done. -/
theorem Holds.move (holds : vigil.Holds) : vigil.move.Holds := by
  have state : (vigil.move.loop.isDone vigil.future) = vigil.loop.isDone vigil.future := by
    unfold Vigil.move Loop.isDone Loop.futureState
    dsimp only
    rw [Table.get?_modify_self]
    cases vigil.loop.futures.get? vigil.future with
    | none => rfl
    | some entry => exact congrArg (· != .pending) (Future.remains_take entry).state
  have kept : vigil.move.loop.agenda.due vigil.future = vigil.loop.agenda.due vigil.future := by
    obtain ⟨entry, found⟩ := Table.exists_get?_of_lt_size holds.bound
    have there : vigil.loop.agenda.futures.get? vigil.future = some entry := found
    exact Agenda.due_congr rfl (Agenda.kept_modify there (Future.remains_take entry).reactions)
  have grows : Grows vigil.future vigil.loop vigil.move.loop [] :=
    ⟨holds.opened, (Table.size_modify _ _ _).symm ▸ holds.bound, state, List.prefix_refl _,
      kept.trans (List.append_nil _).symm, fun _ => rfl⟩
  exact holds.grows grows nofun (Nat.le_refl _) (fun _ _ => ⟨rfl, nofun⟩) nofun holds.apart

/-- Who resolves a future neither closes the loop nor changes a cell. -/
theorem closed_resolve (loop : Loop) (id : FutureId) (resolution : Resolution) :
    (loop.resolve id resolution).2.closed = loop.closed ∧
      (loop.resolve id resolution).2.cells = loop.cells := by
  rw [Loop.resolve_eq]
  split
  · rw [Loop.replaceFuture_eq]
    exact ⟨rfl, rfl⟩
  · exact ⟨rfl, rfl⟩

/-- The outcome of a future that was resolved is what it was resolved with. -/
theorem result_resolved (kind : FutureKind) (resolution : Resolution) :
    Future.isDone ⟨kind, Future.resolved resolution⟩ = true ∧
      Future.result ⟨kind, Future.resolved resolution⟩ = resolution.outcome := by
  cases resolution with
  | cancel | finish => exact ⟨rfl, rfl⟩

/-- The wake that the future keeps is ready once the future is resolved, among all that is ready then. -/
theorem Stands.resolved {cell : CellId} (stands : vigil.Stands cell waker)
    (before : vigil.resolution = none)
    (ready : after.ready =
      vigil.loop.ready ++ (vigil.loop.agenda.kept vigil.future).map (.done vigil.future))
    (resolution : Resolution) : Stands { vigil with
      loop := after, resolution := some resolution, backlog := after.ready.length } cell waker := by
  cases stands with
  | ready _ _ resolved => simp [before] at resolved
  | woken resolved => simp [before] at resolved
  | kept front back unresolved split once idle silent =>
    have listed : after.ready = (vigil.loop.ready ++ front.map (.done vigil.future)) ++
        .done vigil.future (.wake cell) :: back.map (.done vigil.future) := by
      rw [ready, split, List.map_append, List.map_cons, List.append_assoc]
    have apart {reactions : List Reaction} (other : .wake cell ∉ reactions) :
        Callback.done vigil.future (.wake cell) ∉ reactions.map (.done vigil.future) := by
      intro member
      obtain ⟨reaction, there, same⟩ := List.mem_map.mp member
      cases same
      exact other there
    refine .ready _ _ rfl listed ⟨List.not_mem_append idle (apart once.1), apart once.2⟩ ?_ silent
    change _ < after.ready.length
    simp only [listed, List.length_append, List.length_cons]
    omega

/-- What the polls registered is ready once the future is resolved, and whatever is ready then has still
to be taken. -/
theorem Holds.resolve (holds : vigil.Holds) (resolution : Resolution) :
    (vigil.resolve resolution).Holds := by
  unfold Vigil.resolve
  cases before : vigil.resolution with
  | some earlier =>
    obtain ⟨entry, found⟩ := Table.exists_get?_of_lt_size holds.bound
    have done := (holds.done earlier before).1
    have refused := Loop.resolve_done found (Loop.isResolved_of_isDone done entry found) resolution
    dsimp only
    rw [refused, ← before]
    exact holds
  | none =>
    obtain ⟨kind, reactions, timer, found⟩ :=
      Loop.exists_pending holds.bound (holds.pending before)
    obtain ⟨-, now, ready, due⟩ := Loop.resolve_pending holds.opened found resolution
    obtain ⟨closed, cells⟩ := closed_resolve vigil.loop vigil.future resolution
    have size := Loop.size_futures_resolve vigil.loop vigil.future resolution
    generalize (vigil.loop.resolve vigil.future resolution).2 = after at now ready due closed cells size
    have kept : vigil.loop.agenda.kept vigil.future = reactions := by
      unfold Agenda.kept Loop.agenda
      rw [found]
      rfl
    obtain ⟨done, outcome⟩ := result_resolved kind resolution
    refine ⟨closed.trans holds.opened, size.symm ▸ holds.bound, nofun, ?_, Nat.le_refl _, ?_, ?_,
      holds.unpolled, ?_⟩
    · intro given same
      cases same
      constructor
      · change (after.futureState vigil.future != .pending) = true
        unfold Loop.futureState
        rw [now]
        exact done
      · intro _
        change after.resultOf vigil.future = _
        unfold Loop.resultOf
        rw [now]
        exact outcome
    · intro cell member
      change _ ∈ after.agenda.due vigil.future at member
      rw [due] at member
      exact cells.symm ▸ holds.known cell member
    · intro other member cell given
      obtain ⟨below, apart⟩ := holds.apart other member cell given
      exact ⟨cells.symm ▸ below, apart⟩
    · intro cell given
      obtain ⟨waker, last, registered, carries, stands⟩ := holds.polled cell given
      refine ⟨waker, last, registered, cells.symm ▸ carries, ?_⟩
      exact stands.resolved before (by rw [ready, kept]) resolution

/-- The next callback is taken from the front of those that are ready. -/
theorem takeReady_eq_some {callback : Callback} (next : loop.takeReady = (some callback, after)) :
    ∃ rest, loop.ready = callback :: rest ∧ after = { loop with ready := rest } := by
  unfold Loop.takeReady at next
  cases ready : loop.ready with
  | nil =>
    rw [ready] at next
    cases next
  | cons first rest =>
    rw [ready] at next
    cases next
    exact ⟨rest, rfl, rfl⟩

/-- Delivering a callback changes nothing but which wakers were woken. -/
theorem deliver_eq (callback : Callback) (loop : Loop) :
    ∃ more, callback.deliver loop = { loop with woken := loop.woken ++ more } := by
  have nothing : ∃ more, loop = { loop with woken := loop.woken ++ more } :=
    ⟨[], by rw [List.append_nil]⟩
  cases callback with
  | done id reaction =>
    cases reaction with
    | wake cell => exact ⟨_, Loop.wakeCell_eq loop cell⟩
    | _ => exact nothing
  | _ => exact nothing

/-- A callback that is taken and delivered leaves everything as it should be, if the wake of the wait is
where it should be. -/
theorem Holds.take (holds : vigil.Holds) {callback : Callback}
    (next : vigil.loop.takeReady = (some callback, loop)) {wakes : List Nat}
    (unpolled : vigil.wait.cell = none → wakes = vigil.wakes)
    (polled : ∀ cell waker, vigil.wait.cell = some cell → vigil.registered = [.wake cell] →
      vigil.loop.cells.get? cell = some waker → vigil.Stands cell waker →
        Stands { vigil with loop := callback.deliver loop, backlog := vigil.backlog - 1, wakes }
          cell waker) :
    Holds { vigil with loop := callback.deliver loop, backlog := vigil.backlog - 1, wakes } := by
  obtain ⟨rest, ready, rfl⟩ := takeReady_eq_some next
  obtain ⟨more, delivered⟩ := deliver_eq callback { vigil.loop with ready := rest }
  rw [delivered] at polled ⊢
  refine ⟨holds.opened, holds.bound, holds.pending, holds.done, ?_, ?_, holds.apart, ?_, ?_⟩
  · have length := holds.backlog
    rw [ready, List.length_cons] at length
    exact Nat.sub_le_of_le_add length
  · intro cell member
    refine holds.known cell ?_
    unfold Agenda.due at member ⊢
    rcases List.mem_append.mp member with member | member
    · refine List.mem_append_left _ (Agenda.mem_reactions.mpr ?_)
      change _ ∈ vigil.loop.ready
      rw [ready]
      exact List.mem_cons_of_mem _ (Agenda.mem_reactions.mp member)
    · exact List.mem_append_right _ member
  · intro given
    obtain ⟨asked, registered, silent⟩ := holds.unpolled given
    exact ⟨asked, registered, (unpolled given).trans silent⟩
  · intro cell given
    obtain ⟨waker, last, registered, carries, stands⟩ := holds.polled cell given
    exact ⟨waker, last, registered, carries, polled cell waker given registered carries stands⟩

/-- Running a callback that is no wake of the future keeps all in order. -/
theorem Holds.run (holds : vigil.Holds) {callback : Callback}
    (next : vigil.loop.takeReady = (some callback, loop))
    (other : ∀ reaction ∈ vigil.registered, callback ≠ .done vigil.future reaction) :
    (vigil.run callback loop).Holds := by
  refine holds.take next (fun _ => rfl) fun cell waker given registered carries stands => ?_
  obtain ⟨rest, ready, rfl⟩ := takeReady_eq_some next
  obtain ⟨more, delivered⟩ := deliver_eq callback { vigil.loop with ready := rest }
  rw [delivered]
  have lower {callback : Callback} (gone : callback ∉ vigil.loop.ready) : callback ∉ rest :=
    fun member => gone (ready ▸ List.mem_cons_of_mem _ member)
  cases stands with
  | kept front back unresolved split once idle silent =>
    exact .kept front back unresolved split once (lower idle) silent
  | woken resolved gone wakes => exact .woken resolved (lower gone) wakes
  | ready front back resolved split once soon silent =>
    cases front with
    | nil =>
      rw [ready] at split
      have here : Reaction.wake cell ∈ vigil.registered := by
        rw [registered]
        exact List.mem_cons_self
      exact absurd (List.head_eq_of_cons_eq split) (other _ here)
    | cons first front =>
      rw [ready] at split
      refine .ready front back resolved (List.tail_eq_of_cons_eq split)
        ⟨fun member => once.1 (List.mem_cons_of_mem _ member), once.2⟩ ?_ silent
      exact Nat.lt_sub_of_add_lt soon

/-- What the polls registered is what wakes the cell of the wait, so that it is delivered now. -/
theorem Holds.answer (holds : vigil.Holds) {callback : Callback}
    (next : vigil.loop.takeReady = (some callback, loop))
    (own : ∃ reaction ∈ vigil.registered, callback = .done vigil.future reaction) :
    (vigil.answer callback loop).Holds := by
  obtain ⟨reaction, member, same⟩ := own
  refine holds.take next (fun given => ?_) fun cell waker given registered carries stands => ?_
  · obtain ⟨-, registered, -⟩ := holds.unpolled given
    rw [registered] at member
    cases member
  · rw [registered] at member
    cases List.mem_singleton.mp member
    obtain ⟨rest, ready, rfl⟩ := takeReady_eq_some next
    subst same
    have delivered : Callback.deliver { vigil.loop with ready := rest }
        (.done vigil.future (.wake cell)) =
          { vigil.loop with ready := rest, woken := vigil.loop.woken ++ [waker] } := by
      have woken := Loop.wakeCell_eq { vigil.loop with ready := rest } cell
      rwa [show Table.get? _ cell = some waker from carries] at woken
    rw [delivered]
    have first : Callback.done vigil.future (.wake cell) ∈ vigil.loop.ready := by
      rw [ready]
      exact List.mem_cons_self
    cases stands with
    | kept front back unresolved split once idle silent => exact absurd first idle
    | woken resolved gone wakes => exact absurd first gone
    | ready front back resolved split once soon silent =>
      cases front with
      | cons head front =>
        rw [ready] at split
        refine absurd ?_ once.1
        rw [← List.head_eq_of_cons_eq split]
        exact List.mem_cons_self
      | nil =>
        rw [ready] at split
        have tail : rest = back := List.tail_eq_of_cons_eq split
        refine .woken resolved (tail ▸ once.2) ?_
        change vigil.wakes ++ (vigil.loop.woken ++ [waker]).drop vigil.loop.woken.length = _
        rw [silent, List.drop_left]
        rfl

/-- Each thing that may happen keeps all in order. -/
theorem Step.holds {after : Vigil} (step : Step vigil after) (holds : vigil.Holds) : after.Holds := by
  cases step with
  | polled waker => exact holds.poll waker
  | joined id => exact holds.join id
  | neighbour found waker => exact holds.pollOther found waker
  | resolved resolution => exact holds.resolve resolution
  | moved done => exact holds.move
  | answered next own => exact holds.answer next own
  | ran next other => exact holds.run next other
  | elsewhere elsewhere => exact holds.elsewhere elsewhere

/-- All is in order in every state that is reached. -/
theorem Reached.holds (reached : Reached vigil) : vigil.Holds := by
  induction reached with
  | begun starts => exact starts.holds
  | step _ step ih => exact step.holds ih

/-- A wait registers one reaction, answers each poll as its future stands, and brings about one wake,
which goes to the waker of the last poll that had to wait. -/
structure WakesOnce (vigil : Vigil) : Prop where
  /-- However often it was polled, at most one reaction was registered. -/
  registers : vigil.registered.length ≤ 1
  /-- Until the future is resolved, a poll has to wait, whatever its waker. -/
  waits : vigil.resolution = none → ∀ waker, ∃ next,
    (vigil.loop.await vigil.wait waker).1 = .error next
  /-- From then on a poll returns the outcome, as long as it is not moved out. -/
  returns : ∀ resolution, vigil.resolution = some resolution → ∀ waker, ∃ outcome,
    (vigil.loop.await vigil.wait waker).1 = .ok outcome ∧
      (vigil.moved = false → outcome = resolution.outcome)
  /-- Nothing is woken before the resolution. -/
  early : vigil.resolution = none → vigil.wakes = []
  /-- If no poll had to wait, nothing was registered and nothing is woken. -/
  unasked : vigil.asked = [] → vigil.registered = [] ∧ vigil.wakes = []
  /-- There is at most one wake, and it is for the waker of the last poll that had to wait. -/
  once : ∀ waker, vigil.asked.getLast? = some waker → vigil.wakes = [] ∨ vigil.wakes = [waker]
  /-- The callbacks that were ready at the resolution are still ready, as far as they were not taken. -/
  backlog : vigil.backlog ≤ vigil.loop.ready.length
  /-- Once they have been taken, there was that wake. -/
  delivered : vigil.resolution.isSome = true → vigil.backlog = 0 →
    ∀ waker, vigil.asked.getLast? = some waker → vigil.wakes = [waker]

/-- A wait whose future is not resolved goes on. -/
theorem Holds.waits (holds : vigil.Holds) (unresolved : vigil.resolution = none) (waker : Nat) :
    ∃ next, (vigil.loop.await vigil.wait waker).1 = .error next := by
  have pending := holds.pending unresolved
  have polls := polls_await vigil.loop vigil.wait waker
  generalize vigil.loop.await vigil.wait waker = polled at polls ⊢
  obtain ⟨reply, after⟩ := polled
  cases polls with
  | ended done =>
    rw [pending] at done
    cases done
  | again => exact ⟨_, rfl⟩
  | first => exact ⟨_, rfl⟩

/-- What is known of a wait that had to wait. -/
theorem Holds.stands_of_asked (holds : vigil.Holds) {last : Nat}
    (asked : vigil.asked.getLast? = some last) : ∃ cell, vigil.Stands cell last := by
  cases given : vigil.wait.cell with
  | none =>
    rw [(holds.unpolled given).1] at asked
    cases asked
  | some cell =>
    obtain ⟨waker, same, -, -, stands⟩ := holds.polled cell given
    rw [same] at asked
    cases asked
    exact ⟨cell, stands⟩

/-- Whatever happens on an open loop, and whichever wakers a wait is polled with, one wake comes of it
once its future is resolved, and it goes to the waker that was given last. -/
theorem Reached.wakesOnce (reached : Reached vigil) : vigil.WakesOnce := by
  have holds := reached.holds
  have silent (unasked : vigil.asked = []) : vigil.registered = [] ∧ vigil.wakes = [] := by
    cases given : vigil.wait.cell with
    | none => exact (holds.unpolled given).2
    | some cell =>
      obtain ⟨waker, last, -⟩ := holds.polled cell given
      rw [unasked] at last
      cases last
  refine ⟨?_, holds.waits, fun resolution same waker => ?_, fun unresolved => ?_, silent,
    fun waker last => ?_, holds.backlog, fun resolved taken waker last => ?_⟩
  · cases given : vigil.wait.cell with
    | none =>
      rw [(holds.unpolled given).2.1]
      exact Nat.zero_le _
    | some cell =>
      obtain ⟨-, -, registered, -⟩ := holds.polled cell given
      rw [registered]
      exact Nat.le_refl _
  · obtain ⟨done, outcome⟩ := holds.done resolution same
    exact ⟨_, congrArg Prod.fst (poll_of_done done waker).1, outcome⟩
  · cases last : vigil.asked.getLast? with
    | none => exact (silent (List.getLast?_eq_none_iff.mp last)).2
    | some waker =>
      obtain ⟨cell, stands⟩ := holds.stands_of_asked last
      cases stands with
      | kept _ _ _ _ _ _ silent => exact silent
      | ready _ _ resolved => simp [unresolved] at resolved
      | woken resolved => simp [unresolved] at resolved
  · obtain ⟨cell, stands⟩ := holds.stands_of_asked last
    cases stands with
    | kept _ _ _ _ _ _ silent => exact .inl silent
    | ready _ _ _ _ _ _ silent => exact .inl silent
    | woken _ _ wakes => exact .inr wakes
  · obtain ⟨cell, stands⟩ := holds.stands_of_asked last
    cases stands with
    | kept _ _ unresolved => simp [unresolved] at resolved
    | ready _ _ _ _ _ soon =>
      rw [taken] at soon
      exact absurd soon (Nat.not_lt_zero _)
    | woken _ _ wakes => exact wakes

/-- A wait for a new future, which nobody has polled. -/
def unpolled : Vigil := { loop := (({} : Loop).makeFuture .value).2, wait := ⟨0, none⟩ }

/-- The wait was polled for task 7, someone else waits for the same future on behalf of task 3, and the
wait was polled again for task 8. -/
def wandering : Vigil :=
  let joined := { unpolled.poll 7 with others := [⟨0, none⟩] }
  (joined.pollOther 0 ⟨0, none⟩ 3).poll 8

/-- The future was resolved while something else was ready, and what was ready then has run. -/
def wandered : Vigil :=
  let resolved := { wandering with loop := wandering.loop.callSoon .readPipe }.resolve
    (.finish (.ok .unit))
  let ran := resolved.run .readPipe resolved.loop.takeReady.2
  let answered := ran.answer (.done 0 (.wake 0)) ran.loop.takeReady.2
  answered.run (.done 0 (.wake 1)) answered.loop.takeReady.2

/-- The state in which the wakes of a resolved future are still to come is reached. -/
theorem reached_wandered : Reached wandered := by
  have starts : Starts unpolled :=
    ⟨rfl, by decide, rfl, rfl, nofun, nofun, rfl, rfl, rfl, rfl, rfl⟩
  have polled : Reached wandering :=
    .step (.step (.step (.step (.begun starts) (.polled 7)) (.joined 0))
      (.neighbour (show ([⟨0, none⟩] : List Wait)[0]? = some ⟨0, none⟩ from rfl) 3)) (.polled 8)
  have called : Elsewhere wandering.future wandering.loop (wandering.loop.callSoon .readPipe) :=
    elsewhere_callSoon 0 rfl rfl
  have resolved := Reached.step (.step polled (.elsewhere called)) (.resolved (.finish (.ok .unit)))
  have ran := Reached.step resolved
    (.ran (show Loop.takeReady _ = (some .readPipe, _) from rfl) fun _ _ same => nomatch same)
  have answered := Reached.step ran
    (.answered (show Loop.takeReady _ = (some (.done 0 (.wake 0)), _) from rfl)
      ⟨.wake 0, List.mem_cons_self, rfl⟩)
  refine .step answered (.ran rfl fun reaction member same => ?_)
  cases same
  cases List.mem_singleton.mp member

/-- Task 8 was woken, and nobody else for this wait, and the next poll returns the outcome. -/
theorem wakesOnce_wandered : wandered.asked = [7, 8] ∧ wandered.wakes = [8] ∧
    ∃ outcome, (wandered.loop.await wandered.wait 9).1 = .ok outcome ∧
      (wandered.moved = false → outcome = (Resolution.finish (.ok .unit)).outcome) :=
  have once := reached_wandered.wakesOnce
  ⟨rfl, once.delivered rfl rfl 8 rfl, once.returns _ rfl 9⟩

end Vigil

end EventLoop

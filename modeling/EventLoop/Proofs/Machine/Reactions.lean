import EventLoop.Proofs.Machine.Calls
import EventLoop.Proofs.Machine.Iterations

/-!
# What futures bring about

A future is resolved once: later calls are refused and change nothing. The reactions of a future that are
due are those that it keeps and those that are ready. Registering one appends it to these, resolving the
future leaves them alone, and they are started in their order, none of them within the call that
registers it or resolves the future. Only a pending future that nothing mentions loses its reactions.
-/
namespace EventLoop

open Script (Instruction)

/-- The reaction of a future that a callback is. -/
def Callback.reaction? (future : FutureId) : Callback → Option Reaction
  | .done id reaction => if id = future then some reaction else none
  | .script .. | .step _ | .readPipe | .resolve _ | .expire _ | .connectionMade _ | .startReading _
  | .connectionLost .. | .startAccepting _ => none

/-- A callback is for a reaction of a future exactly if it was made of the two. -/
theorem Callback.reaction?_eq_some {future : FutureId} {callback : Callback} {reaction : Reaction} :
    callback.reaction? future = some reaction ↔ callback = .done future reaction := by
  constructor
  · intro same
    cases callback with
    | done other reaction =>
      change (if other = future then some reaction else none) = _ at same
      split at same
      · rename_i here
        cases same
        rw [here]
      · cases same
    | _ => cases same
  · rintro rfl
    exact if_pos rfl

/-- What something asks for is no reaction. -/
theorem Callback.reaction?_of_isAsked {future : FutureId} {callback : Callback}
    (asked : callback.isAsked = true) : callback.reaction? future = none := by
  cases callback with
  | done => cases asked
  | _ => rfl

/-- The reactions that are ready when those of one future are. -/
theorem filterMap_reaction? (future id : FutureId) (reactions : List Reaction) :
    (reactions.map (Callback.done id)).filterMap (Callback.reaction? future) =
      if id = future then reactions else [] := by
  rw [List.filterMap_map]
  by_cases same : id = future
  · have each : Callback.reaction? future ∘ Callback.done id = some :=
      funext fun reaction => if_pos same
    rw [each, List.filterMap_some, if_pos same]
  · have each : Callback.reaction? future ∘ Callback.done id = fun _ => none :=
      funext fun reaction => if_neg same
    rw [each, if_neg same]
    exact List.filterMap_eq_nil_iff.mpr fun _ _ => rfl

namespace Future

/-- The reactions that a future keeps. -/
def reactions (future : Future) : List Reaction :=
  match future.phase with
  | .pending reactions _ => reactions
  | .cancelled | .finished _ => []

/-- A future that is done keeps no reactions. -/
theorem reactions_of_isDone {future : Future} (done : future.isDone = true) :
    future.reactions = [] := by
  obtain ⟨kind, phase⟩ := future
  cases phase with
  | pending => cases done
  | cancelled | finished => rfl

/-- What has become of a future that was done: it is the same, but its outcome may have been moved out. -/
inductive Remains : Future → Future → Prop
  /-- It is the same. -/
  | same (future : Future) : Remains future future
  /-- Its outcome was moved out. -/
  | moved (kind : FutureKind) (outcome : Option Outcome) :
      Remains ⟨kind, .finished outcome⟩ ⟨kind, .finished none⟩

variable {first second third : Future}

/-- What has become of a future in two parts has become of it. -/
theorem Remains.trans (before : Remains first second) (after : Remains second third) :
    Remains first third := by
  cases before with
  | same => exact after
  | moved =>
    cases after with
    | same | moved => exact .moved _ _

/-- A future that was done has the state that it had. -/
theorem Remains.state (remains : Remains first second) : second.state = first.state := by
  cases remains with
  | same | moved => rfl

/-- A future that was done is done. -/
theorem Remains.isDone (remains : Remains first second) (done : first.isDone = true) :
    second.isDone = true := by
  unfold Future.isDone at done ⊢
  rwa [remains.state]

/-- Taking the outcome moves it out at most. -/
theorem remains_take (future : Future) : Remains future future.take.2 := by
  obtain ⟨kind, phase⟩ := future
  rcases phase with reactions | - | - | outcome
  · exact .same _
  · exact .same _
  · exact .same _
  · exact .moved kind (some outcome)

/-- Emptying a future that is done moves its outcome out at most. -/
theorem remains_emptied {future : Future} (done : future.isDone = true) :
    Remains future future.emptied := by
  obtain ⟨kind, phase⟩ := future
  cases phase with
  | pending => cases done
  | cancelled => exact .same _
  | finished outcome => exact .moved kind outcome

/-- Neither moving an outcome out nor emptying a future that is done concerns its reactions. -/
theorem Remains.reactions (remains : Remains first second) : second.reactions = first.reactions := by
  cases remains with
  | same | moved => rfl

end Future

/-! ## Reactions that are due -/

namespace Agenda

variable {cancels : Prop} {agenda other : Agenda} {future id : FutureId} {entry : Future}

/-- The reactions that a future keeps. -/
def kept (agenda : Agenda) (future : FutureId) : List Reaction :=
  (agenda.futures.get? future).elim [] Future.reactions

/-- The reactions of a future that are due, in their order: those that are ready and those that it
keeps. -/
def due (agenda : Agenda) (future : FutureId) : List Reaction :=
  agenda.ready.filterMap (Callback.reaction? future) ++ agenda.kept future

/-- Only what is ready and what the future keeps matters. -/
theorem due_congr (ready : other.ready = agenda.ready) (kept : other.kept future = agenda.kept future) :
    other.due future = agenda.due future := by
  unfold due
  rw [ready, kept]

/-- A future that is done keeps no reactions. -/
theorem kept_of_isDone (done : ∀ entry, agenda.futures.get? future = some entry → entry.isDone = true) :
    agenda.kept future = [] := by
  unfold kept
  cases found : agenda.futures.get? future with
  | none => rfl
  | some entry => exact Future.reactions_of_isDone (done entry found)

/-- A future that is made keeps no reactions, and the others keep theirs. -/
theorem kept_push (fresh : entry.reactions = []) :
    kept { agenda with futures := agenda.futures.push entry } future = agenda.kept future := by
  unfold kept
  rw [Table.get?_push]
  split
  · rename_i last
    rw [Table.get?_eq_none (Nat.le_of_eq last.symm)]
    exact fresh
  · rfl

/-- A future that goes on to keep its reactions does so, as do the others. -/
theorem kept_modify {change : Future → Future} (found : agenda.futures.get? id = some entry)
    (same : (change entry).reactions = entry.reactions) :
    kept { agenda with futures := agenda.futures.modify id change } future = agenda.kept future := by
  unfold kept
  rw [Table.get?_modify]
  split
  · rename_i here
    rw [here, found]
    exact same
  · rfl

/-- Callbacks that are no reactions of a future do not make any due. -/
theorem due_append (agenda : Agenda) {callbacks : List Callback}
    (others : ∀ callback ∈ callbacks, callback.reaction? future = none) :
    due { agenda with ready := agenda.ready ++ callbacks } future = agenda.due future := by
  unfold due
  rw [List.filterMap_append, List.filterMap_eq_nil_iff.mpr others, List.append_nil]
  rfl

variable {reaction : Reaction} {kind : FutureKind} {reactions : List Reaction} {timer : Option TimerId}

/-- A reaction that is registered with a future that is pending is the last one that is due. -/
theorem due_registered (future : FutureId) (reaction : Reaction)
    (found : agenda.futures.get? id = some ⟨kind, .pending reactions timer⟩) :
    due { agenda with futures := agenda.futures.modify id fun _ =>
      ⟨kind, .pending (reactions ++ [reaction]) timer⟩ } future =
        agenda.due future ++ if id = future then [reaction] else [] := by
  unfold due kept
  rw [Table.get?_modify]
  by_cases same : id = future
  · subst same
    rw [if_pos rfl, if_pos rfl, found, List.append_assoc]
    rfl
  · rw [if_neg (Ne.symm same), if_neg same, List.append_nil]

/-- A reaction that is registered with a future that is done is the last one that is due. -/
theorem due_answered (future : FutureId) (reaction : Reaction)
    (done : ∀ entry, agenda.futures.get? id = some entry → entry.isDone = true) :
    due { agenda with ready := agenda.ready ++ [.done id reaction] } future =
      agenda.due future ++ if id = future then [reaction] else [] := by
  by_cases same : id = future
  · subst same
    unfold due
    have none := kept_of_isDone done
    have still : kept { agenda with ready := agenda.ready ++ [.done id reaction] } id = [] := none
    rw [none, still, List.filterMap_append]
    simp [Callback.reaction?]
  · rw [if_neg same, List.append_nil]
    refine due_append agenda fun callback member => ?_
    rw [List.mem_singleton.mp member]
    exact if_neg same

/-- The same reactions are due after a future was resolved. -/
theorem due_resolved (future : FutureId) (resolution : Resolution)
    (found : agenda.futures.get? id = some ⟨kind, .pending reactions timer⟩) :
    due { agenda with
      futures := agenda.futures.modify id fun _ => ⟨kind, Future.resolved resolution⟩
      ready := agenda.ready ++ reactions.map (.done id) } future = agenda.due future := by
  unfold due kept
  rw [Table.get?_modify, List.filterMap_append, filterMap_reaction?]
  by_cases same : id = future
  · subst same
    rw [if_pos rfl, if_pos rfl, found, List.append_assoc]
    congr 1
    cases resolution with
    | cancel | finish => exact List.append_nil _
  · rw [if_neg (Ne.symm same), if_neg same, List.append_nil]

/-- An act only appends reactions to those that are due. -/
theorem Act.due (act : Act cancels agenda other) (future : FutureId) :
    agenda.due future <+: other.due future := by
  have same (equal : other.due future = agenda.due future) : agenda.due future <+: other.due future :=
    equal ▸ List.prefix_refl _
  cases act with
  | called callbacks asked =>
    exact same (due_append agenda fun callback member => Callback.reaction?_of_isAsked (asked callback member))
  | made kind timer => exact same (due_congr rfl (kept_push rfl))
  | registered id reaction kind reactions timer found =>
    rw [due_registered future reaction found]
    exact List.prefix_append _ _
  | answered id reaction done =>
    rw [due_answered future reaction done]
    exact List.prefix_append _ _
  | resolved id resolution kind reactions timer found => exact same (due_resolved future resolution found)
  | taken id entry found =>
    exact same (due_congr rfl (kept_modify found (Future.remains_take entry).reactions))
  | emptied id entry found done =>
    exact same (due_congr rfl (kept_modify found (Future.remains_emptied done).reactions))
  | roused id task activity found idle =>
    refine same ((due_append (agenda.setPhase id (.queued activity)) ?_).trans rfl)
    intro callback member
    rw [List.mem_singleton.mp member]
    rfl
  | spawned name body =>
    refine same ((due_append { agenda with futures := agenda.futures.push (.new .value) } ?_).trans
      (due_congr rfl (kept_push rfl)))
    intro callback member
    rw [List.mem_singleton.mp member]
    rfl
  | cancelled id task found waits asked =>
    refine same (due_congr (ready_retire _ task) ?_)
    unfold kept
    rw [futures_retire]
    rfl

/-- Acts add reactions of a future behind those that are due. -/
theorem Acts.due (acts : Acts cancels agenda other) (future : FutureId) :
    agenda.due future <+: other.due future := by
  induction acts with
  | refl => exact List.prefix_refl _
  | tail _ act ih => exact ih.trans (act.due future)

/-- A future that is done remains as it is after an act. -/
theorem Act.remains (act : Act cancels agenda other) (found : agenda.futures.get? future = some entry)
    (done : entry.isDone = true) :
    ∃ later, other.futures.get? future = some later ∧ entry.Remains later := by
  have pushed (new : Future) : (agenda.futures.push new).get? future = some entry := by
    rw [Table.get?_push, if_neg (Nat.ne_of_lt (Table.lt_size_of_get? found))]
    exact found
  have apart {id : FutureId} {kind : FutureKind} {reactions : List Reaction} {timer : Option TimerId}
      (pending : agenda.futures.get? id = some ⟨kind, .pending reactions timer⟩) : future ≠ id := by
    rintro rfl
    rw [found] at pending
    cases pending
    cases done
  cases act with
  | called | answered | roused => exact ⟨entry, found, .same entry⟩
  | made kind timer => exact ⟨entry, pushed _, .same entry⟩
  | spawned name body => exact ⟨entry, pushed _, .same entry⟩
  | cancelled id task there waits asked =>
    rw [futures_retire]
    exact ⟨entry, found, .same entry⟩
  | registered id reaction kind reactions timer pending
  | resolved id resolution kind reactions timer pending =>
    refine ⟨entry, ?_, .same entry⟩
    dsimp only
    rw [Table.get?_modify_of_ne _ _ (apart pending)]
    exact found
  | taken id other there =>
    dsimp only
    rw [Table.get?_modify]
    split
    · rename_i here
      rw [here, there] at found
      cases found
      exact ⟨_, by rw [here, there]; rfl, Future.remains_take entry⟩
    · exact ⟨entry, found, .same entry⟩
  | emptied id other there =>
    dsimp only
    rw [Table.get?_modify]
    split
    · rw [found]
      exact ⟨_, rfl, Future.remains_emptied done⟩
    · exact ⟨entry, found, .same entry⟩

/-- Acts leave a future that is done as it is, but for its outcome. -/
theorem Acts.remains (acts : Acts cancels agenda other) (found : agenda.futures.get? future = some entry)
    (done : entry.isDone = true) :
    ∃ later, other.futures.get? future = some later ∧ entry.Remains later := by
  induction acts with
  | refl => exact ⟨entry, found, .same entry⟩
  | tail _ act ih =>
    obtain ⟨middle, there, before⟩ := ih
    obtain ⟨later, here, after⟩ := act.remains there (before.isDone done)
    exact ⟨later, here, before.trans after⟩

end Agenda

/-! ## Calls on futures -/

namespace Loop

variable {loop : Loop} {future : FutureId}

/-- A task that is completed leaves futures and what is ready alone until its result is resolved. -/
theorem Minds.completes (minds : loop.Minds) (opened : loop.closed = false) (id : TaskId)
    (value : Value) : ∃ retired : Loop, retired.ready = loop.ready ∧ retired.futures = loop.futures ∧
      Loop.Proceeds True retired (loop.complete id value) := by
  rw [complete_eq]
  split
  · rename_i name slot result found
    let retired : Loop := (loop.setPhase id .completed).retire ⟨name, .running, slot, result⟩
    have open_ : retired.closed = false := (closed_retire _ _).trans opened
    exact ⟨retired, ready_retire _ _, futures_retire _ _,
      .resolve open_ (minds.retired found rfl).asking result _⟩
  · exact ⟨loop, rfl, rfl, .refl minds.asking⟩

/-- A pending future that is resolved on an open loop is done, its reactions are ready, and the same ones
are due. -/
theorem resolve_pending (opened : loop.closed = false) {kind : FutureKind}
    {reactions : List Reaction} {timer : Option TimerId}
    (found : loop.futures.get? future = some ⟨kind, .pending reactions timer⟩)
    (resolution : Resolution) : (loop.resolve future resolution).1 = .ok () ∧
      (loop.resolve future resolution).2.futures.get? future =
        some ⟨kind, Future.resolved resolution⟩ ∧
      (loop.resolve future resolution).2.ready = loop.ready ++ reactions.map (.done future) ∧
      (loop.resolve future resolution).2.agenda.due future = loop.agenda.due future := by
  rw [resolve_eq, found]
  dsimp only
  rw [replaceFuture_eq, opened]
  have pending : loop.agenda.futures.get? future = some ⟨kind, .pending reactions timer⟩ := found
  refine ⟨rfl, ?_, rfl, Agenda.due_resolved future resolution pending⟩
  dsimp only
  rw [Table.get?_modify_self, found]
  rfl

/-- A future that is done refuses to be resolved. -/
theorem resolve_done {entry : Future} (found : loop.futures.get? future = some entry)
    (done : entry.isDone = true) (resolution : Resolution) :
    loop.resolve future resolution = (.error .alreadyDone, loop) := by
  rw [resolve_eq, found]
  obtain ⟨kind, phase⟩ := entry
  cases phase with
  | pending => cases done
  | cancelled | finished => rfl

/-- A reaction that is registered is the last one that is due. -/
theorem due_whenDone (opened : loop.closed = false) (future : FutureId) (reaction : Reaction) :
    (loop.whenDone future reaction).agenda.due future = loop.agenda.due future ++ [reaction] := by
  rw [whenDone_eq]
  split
  · rename_i kind reactions timer found
    have pending : loop.agenda.futures.get? future = some ⟨kind, .pending reactions timer⟩ := found
    have registered := Agenda.due_registered future reaction pending
    rw [if_pos rfl] at registered
    exact registered
  · rename_i other
    rw [callSoon_eq, opened]
    have done (entry : Future) (found : loop.agenda.futures.get? future = some entry) :
        entry.isDone = true := by
      obtain ⟨kind, phase⟩ := entry
      cases phase with
      | pending reactions timer => exact absurd found (other kind reactions timer)
      | cancelled | finished => rfl
    have answered := Agenda.due_answered future reaction done
    rw [if_pos rfl] at answered
    exact answered

end Loop

namespace World

/-- What is supplied for a future depends on the names only. -/
theorem suppliedPayload_eq {world other : World} (names : world.names = other.names)
    (kind : FutureKind) (supply : Script.Supply) :
    suppliedPayload kind supply world = ((suppliedPayload kind supply other).1, world) := by
  cases kind with
  | unit | bytes | value => rfl
  | connection =>
    unfold suppliedPayload named?
    simp only [StateM.bind_apply, StateM.get_apply]
    change (_, world) = _
    rw [names]
    rfl

/-- A call that resolves a future of a kind, what it resolves it with, and the answer to success or
failure. -/
inductive Resolving (world : World) (future : FutureId) (kind : FutureKind) :
    Instruction → Resolution → (Except Error Unit → Value) → Prop
  /-- A result is set. -/
  | result (name : String) (supply : Script.Supply)
      (named : world.names.lookup (.future, name) = some future) :
      Resolving world future kind (.future (.setResult name supply))
        (.finish (.ok (suppliedPayload kind supply world).1)) doneValue
  /-- An error is set. -/
  | error (name : String) (error : Error)
      (named : world.names.lookup (.future, name) = some future) :
      Resolving world future kind (.future (.setError name error)) (.finish (.error error)) doneValue
  /-- The future is cancelled. -/
  | cancel (name : String) (named : world.names.lookup (.future, name) = some future) :
      Resolving world future kind (.future (.cancel name)) .cancel fun result => .bool result.toBool

/-- A call that registers a reaction with a future. -/
inductive Registering (world : World) (future : FutureId) : Instruction → Reaction → Prop
  /-- The future has a name. -/
  | future (name label : String) (body : Script.Body)
      (named : world.names.lookup (.future, name) = some future) :
      Registering world future (.onDone name label body) (.script label body)
  /-- The future is the result of a task that has a name. -/
  | task (name label : String) (body : Script.Body) (id : TaskId) (task : Task)
      (named : world.names.lookup (.task, name) = some id)
      (found : world.loop.tasks.get? id = some task) (result : task.result = future) :
      Registering world future (.onTaskDone name label body) (.script label body)

end World

namespace Machine

open World (Resolving Registering)

variable {machine after : Machine} {future : FutureId} {instruction : Instruction}

/-- A call that resolves a future does so in one step, and it is answered with what came of it. -/
theorem Calls.resolves {kind : FutureKind} {resolution : Resolution}
    {answer : Except Error Unit → Value} {entry : Future} (calls : Calls instruction machine after)
    (resolving : Resolving machine.world future kind instruction resolution answer)
    (found : machine.world.loop.futures.get? future = some entry) (same : entry.kind = kind) :
    after.signal = .answer (answer (machine.world.loop.resolve future resolution).1) ∧
      after.world.loop = (machine.world.loop.resolve future resolution).2 := by
  cases resolving with
  | result name supply named =>
    obtain ⟨protocol, world, loop, names, -, signal, done⟩ := calls.answered (finishes_future _)
    have does : World.doInstruction protocol (.future (.setResult name supply)) world =
        (World.doneValue (world.loop.resolve future
          (.finish (.ok (World.suppliedPayload kind supply machine.world).1))).1,
          { world with loop := (world.loop.resolve future
            (.finish (.ok (World.suppliedPayload kind supply machine.world).1))).2 }) := by
      have known : ((world.loop.futures.get? future).map (·.kind)).getD .value = kind := by
        rw [loop, found]
        exact same
      change World.onNamed .future name _ world = _
      rw [World.onNamed_eq (names ▸ named)]
      simp only [StateM.bind_apply, StateM.get_apply, known, World.suppliedPayload_eq names]
      rfl
    rw [does] at signal done
    rw [signal, done, loop]
    exact ⟨rfl, rfl⟩
  | error name error named =>
    obtain ⟨protocol, world, loop, names, -, signal, done⟩ := calls.answered (finishes_future _)
    have does : World.doInstruction protocol (.future (.setError name error)) world =
        (World.doneValue (world.loop.resolve future (.finish (.error error))).1,
          { world with loop := (world.loop.resolve future (.finish (.error error))).2 }) :=
      World.onNamed_eq (names ▸ named) _
    rw [does] at signal done
    rw [signal, done, loop]
    exact ⟨rfl, rfl⟩
  | cancel name named =>
    obtain ⟨protocol, world, loop, names, -, signal, done⟩ := calls.answered (finishes_future _)
    have does : World.doInstruction protocol (.future (.cancel name)) world =
        (.bool (world.loop.resolve future .cancel).1.toBool,
          { world with loop := (world.loop.resolve future .cancel).2 }) :=
      World.onNamed_eq (names ▸ named) _
    rw [does] at signal done
    rw [signal, done, loop]
    exact ⟨rfl, rfl⟩

/-- A call that registers a reaction does so in one step. -/
theorem Calls.registers {reaction : Reaction} (calls : Calls instruction machine after)
    (registering : Registering machine.world future instruction reaction) :
    after.signal = .answer .null ∧
      after.world.loop = machine.world.loop.whenDone future reaction := by
  cases registering with
  | future name label body named =>
    obtain ⟨protocol, world, loop, names, -, signal, done⟩ := calls.answered (finishes_onDone _ _ _)
    have does : World.doInstruction protocol (.onDone name label body) world =
        (.null, { world with loop := world.loop.whenDone future (.script label body) }) :=
      World.onNamed_eq (names ▸ named) _
    rw [does] at signal done
    rw [signal, done, loop]
    exact ⟨rfl, rfl⟩
  | task name label body id task named found result =>
    obtain ⟨protocol, world, loop, names, -, signal, done⟩ := calls.answered (finishes_onTaskDone _ _ _)
    have does : World.doInstruction protocol (.onTaskDone name label body) world =
        (.null, { world with loop := world.loop.whenDone future (.script label body) }) := by
      change World.onNamed .task name _ world = _
      rw [World.onNamed_eq (names ▸ named), ← result]
      have there : world.loop.tasks.get? id = some task := by
        rw [loop]
        exact found
      simp only [StateM.bind_apply, StateM.get_apply, there]
      rfl
    rw [does] at signal done
    rw [signal, done, loop]
    exact ⟨rfl, rfl⟩

/-! ## Histories of reactions -/

variable {sort : Machine → Prop} {first last : Machine} {registered started : List Reaction}

/-- The reactions of a future that are due, in their order. -/
def due (machine : Machine) (future : FutureId) : List Reaction := machine.world.loop.agenda.due future

/-- The reactions of a future that a step registers: those behind the ones that were due before. -/
def newlyDue (before : Machine) (future : FutureId) (after : Machine) : List Reaction :=
  (after.due future).drop (before.due future).length

/-- The reaction of a future that is just being started. -/
def starting (machine : Machine) (future : FutureId) : List Reaction :=
  (machine.hand.bind (Callback.reaction? future)).toList

/-- What a run does with the reactions of a future on the way from one state to a later one: those that
are registered and those that are started, each in their order. -/
inductive Accounts (sort : Machine → Prop) (future : FutureId) (first : Machine) :
    List Reaction → List Reaction → Machine → Prop
  /-- Nothing has happened yet. -/
  | refl : Accounts sort future first [] [] first
  /-- One step more. -/
  | step {registered started : List Reaction} {before after : Machine}
      (earlier : Accounts sort future first registered started before) (step : Step before after)
      (fine : sort after) : Accounts sort future first (registered ++ before.newlyDue future after)
        (started ++ after.starting future) after

/-- What a step does with the reactions of a future: it registers some and starts none, or it starts a
callback, which is the first reaction that is due or has nothing to do with the future. -/
inductive Reacts (future : FutureId) (machine after : Machine) : Prop
  /-- Reactions are registered. -/
  | registers (new : List Reaction) (due : after.due future = machine.due future ++ new)
      (idle : after.hand = none)
  /-- A callback is started. -/
  | starts (callback : Callback) (hand : after.hand = some callback)
      (due : machine.due future = (callback.reaction? future).toList ++ after.due future)

/-- The future loses no reaction in the next step. -/
def Keeps (future : FutureId) (machine : Machine) : Prop := ¬ machine.Deserts future

/-- A future that is done loses no reaction. -/
theorem keeps_of_isDone {entry : Future} (found : machine.world.loop.futures.get? future = some entry)
    (done : entry.isDone = true) : machine.Keeps future := by
  rintro ⟨-, ⟨other, here, pending⟩, -⟩
  rw [found] at here
  cases here
  rw [done] at pending
  cases pending

/-- A loop that goes on registers reactions. -/
theorem Reacts.of_grown (before : machine.due future <+: after.due future)
    (quiet : after.signal.isCall = false) : Reacts future machine after := by
  obtain ⟨new, due⟩ := before
  exact .registers new due.symm (hand_of_isCall quiet)

/-- A reaction that is due stays due in a step, unless the step starts it. -/
theorem Reacts.waits (reacts : Reacts future machine after) {reaction : Reaction}
    (due : reaction ∈ machine.due future) :
    reaction ∈ after.due future ∨ after.signal = .call (.done future reaction) := by
  cases reacts with
  | registers new grown =>
    rw [grown]
    exact Or.inl (List.mem_append_left _ due)
  | starts callback hand rest =>
    rw [rest] at due
    rcases List.mem_append.mp due with taken | waits
    · refine Or.inr ?_
      rw [← Callback.reaction?_eq_some.mp (Option.mem_toList.mp taken)]
      exact called_of_hand hand
    · exact Or.inl waits

/-- Every step on an open loop registers reactions or starts a callback, if the future is kept. -/
theorem Goes.reacts (goes : Goes machine after) (keeps : machine.Keeps future)
    (minds : machine.world.loop.Minds) (opened : machine.IsOpen) : Reacts future machine after := by
  have unchanged (ready : after.world.loop.ready = machine.world.loop.ready)
      (futures : after.world.loop.futures = machine.world.loop.futures)
      (quiet : after.signal.isCall = false) : Reacts future machine after := by
    refine .registers [] ?_ (hand_of_isCall quiet)
    rw [List.append_nil]
    refine Agenda.due_congr ready ?_
    unfold Agenda.kept
    exact congrArg (fun futures => (Table.get? futures future).elim [] Future.reactions) futures
  cases goes with
  | steady proceeds _ quiet | counting proceeds _ quiet | abandoning _ _ quiet _ proceeds =>
    exact .of_grown (proceeds.acts.due future) quiet
  | taking left callback rest lower uncalled called ready loop =>
    refine .starts callback (hand_of_called called) ?_
    unfold due Agenda.due Agenda.kept Loop.agenda
    rw [loop, ready]
    dsimp only
    cases reaction : callback.reaction? future with
    | none => rw [List.filterMap_cons_none reaction]; rfl
    | some value => rw [List.filterMap_cons_some reaction]; rfl
  | finishing left uncalled ended exhausted loop =>
    exact unchanged (by rw [loop]) (by rw [loop]) (by rw [ended]; rfl)
  | polling task activity called quiet queued loop
  | suspending task activity uncalled quiet running loop =>
    exact unchanged (by rw [loop]; rfl) (by rw [loop]; rfl) quiet
  | ending task value uncalled ended quiet loop =>
    obtain ⟨retired, ready, futures, proceeds⟩ := minds.completes opened task value
    refine .of_grown ?_ quiet
    have before : retired.agenda.due future = machine.due future := by
      unfold due Agenda.due Agenda.kept Loop.agenda
      rw [ready, futures]
    have acts := proceeds.acts.due future
    rw [before, ← loop] at acts
    exact acts
  | deserting other uncalled quiet deserts refs loop =>
    have apart : future ≠ other := by
      rintro rfl
      exact keeps deserts
    refine .registers [] ?_ (hand_of_isCall quiet)
    rw [List.append_nil]
    unfold due
    refine Agenda.due_congr ?_ ?_
    · rw [loop]
      rfl
    · unfold Agenda.kept Loop.agenda
      rw [loop]
      dsimp only
      rw [Table.get?_modify_of_ne _ _ apart]

/-- A future that is done remains as it is after a step on an open loop. -/
theorem Goes.remains {entry : Future} (goes : Goes machine after)
    (minds : machine.world.loop.Minds) (opened : machine.IsOpen)
    (found : machine.world.loop.futures.get? future = some entry) (done : entry.isDone = true) :
    ∃ later, after.world.loop.futures.get? future = some later ∧ entry.Remains later := by
  have unchanged (futures : after.world.loop.futures = machine.world.loop.futures) :
      ∃ later, after.world.loop.futures.get? future = some later ∧ entry.Remains later :=
    ⟨entry, by rw [futures]; exact found, .same entry⟩
  cases goes with
  | steady proceeds | counting proceeds | abandoning _ _ _ _ proceeds =>
    exact proceeds.acts.remains found done
  | taking _ _ _ _ _ _ _ loop | finishing _ _ _ _ loop => exact unchanged (by rw [loop])
  | polling _ _ _ _ _ loop | suspending _ _ _ _ _ loop => exact unchanged (by rw [loop]; rfl)
  | ending task value uncalled ended quiet loop =>
    obtain ⟨retired, ready, futures, proceeds⟩ := minds.completes opened task value
    rw [loop]
    refine proceeds.acts.remains ?_ done
    change retired.futures.get? future = _
    rw [futures]
    exact found
  | deserting other uncalled quiet deserts refs loop =>
    have apart : future ≠ other := by
      rintro rfl
      exact keeps_of_isDone found done deserts
    refine ⟨entry, ?_, .same entry⟩
    rw [loop]
    dsimp only
    rw [Table.get?_modify_of_ne _ _ apart]
    exact found

/-! ## Every state of a run -/

/-- The loop is open, and the future loses no reaction in the next step. -/
def IsKeeping (future : FutureId) (machine : Machine) : Prop := machine.IsOpen ∧ machine.Keeps future

/-- Reactions are started in the order in which they were registered: those that were due at first and
those that were registered since are those that were started and those that are still due. -/
theorem Accounts.order
    (accounts : Accounts (IsKeeping future) future first registered started last)
    (visits : Visits IsOpen first) (keeps : first.Keeps future) :
    first.due future ++ registered = started ++ last.due future := by
  have both : Visits IsOpen last ∧ last.Keeps future ∧
      first.due future ++ registered = started ++ last.due future := by
    induction accounts with
    | refl => exact ⟨visits, keeps, List.append_nil _⟩
    | @step registered started before after earlier step fine ih =>
      obtain ⟨reached, kept, order⟩ := ih
      refine ⟨.step reached step fine.1, fine.2, ?_⟩
      cases (reached.goes (fun _ => id) step fine.1).reacts kept (reached.minds fun _ => id)
        reached.fine with
      | registers new due idle =>
        have newly : before.newlyDue future after = new := by
          unfold newlyDue
          rw [due, List.drop_left]
        unfold starting
        rw [newly, idle, due, ← List.append_assoc, order]
        simp
      | starts callback hand due =>
        have newly : before.newlyDue future after = [] := by
          unfold newlyDue
          rw [due]
          simp
        unfold starting
        rw [newly, hand, List.append_nil, order, due]
        simp
  exact both.2.2

/-- A future that is done remains so as long as the loop is open. -/
theorem Onward.remains {entry : Future} (onward : Onward IsOpen machine after)
    (visits : Visits IsOpen machine)
    (found : machine.world.loop.futures.get? future = some entry) (done : entry.isDone = true) :
    ∃ later, after.world.loop.futures.get? future = some later ∧ entry.Remains later := by
  induction onward with
  | refl => exact ⟨entry, found, .same entry⟩
  | tail earlier last ih =>
    obtain ⟨middle, there, before⟩ := ih
    have reached := visits.onward earlier
    obtain ⟨later, here, after⟩ := (reached.goes (fun _ => id) last.1 last.2).remains
      (reached.minds fun _ => id) reached.fine there (before.isDone done)
    exact ⟨later, here, before.trans after⟩

/-- A future that has a name loses no reaction. -/
theorem keeps_of_named {name : String}
    (named : machine.world.names.lookup (.future, name) = some future) : machine.Keeps future := by
  rintro ⟨-, -, free⟩
  have isNamed : World.isNamed machine.world (.future future) = true :=
    List.any_eq_true.mpr ⟨_, World.mem_names named, by simp [World.refOf]⟩
  unfold World.isMentioned at free
  simp only [Bool.or_eq_false_iff] at free
  have unnamed : World.isNamed machine.world (.future future) = false := free.1.1.1
  rw [isNamed] at unnamed
  cases unnamed

/-- A step that takes the count of an iteration starts nothing. -/
theorem Goes.hand_counting {count : Nat} (goes : Goes machine after)
    (stages : after.stages = .iteration count :: machine.stages) : after.hand = none := by
  cases goes with
  | steady _ _ quiet | counting _ _ quiet | polling _ _ _ quiet | ending _ _ _ _ quiet
  | suspending _ _ _ quiet | abandoning _ _ quiet | deserting _ _ quiet => exact hand_of_isCall quiet
  | taking left callback rest lower uncalled called ready loop before same =>
    rw [stages, before] at same
    exact absurd (congrArg List.length same) (by simp)
  | finishing left uncalled ended => exact hand_of_isCall (by rw [ended]; rfl)

/-- An iteration starts all reactions of a future that is done which are due when it begins. -/
theorem Visits.startsDue {entry : Future} {counted later last : Machine}
    {appended started : List Callback} (visits : Visits IsOpen machine)
    (found : machine.world.loop.futures.get? future = some entry) (done : entry.isDone = true)
    (counts : Step machine counted) (opened : counted.IsOpen)
    (stages : counted.stages = .iteration counted.world.loop.ready.length :: machine.stages)
    (traces : Traces (fun state => state.IsOpen ∧ state.stages ≠ machine.stages) counted appended
      started later)
    (ending : Step later last) (fine : last.IsOpen) (ended : last.stages = machine.stages) :
    machine.due future <+: started.filterMap (Callback.reaction? future) := by
  have opens (state : Machine) (isOpen : state.IsOpen) : state.world.loop.closed = false := isOpen
  have reached : Visits IsOpen counted := .step visits counts opened
  have goes := visits.goes opens counts opened
  have before : machine.due future <+: counted.world.loop.ready.filterMap (Callback.reaction? future) := by
    obtain ⟨now, here, remains⟩ := goes.remains (visits.minds opens) visits.fine found done
    have kept : counted.world.loop.agenda.kept future = [] :=
      Agenda.kept_of_isDone fun other there => by
        cases here.symm.trans there
        exact remains.isDone done
    have whole : counted.due future =
        counted.world.loop.ready.filterMap (Callback.reaction? future) := by
      unfold due Agenda.due
      rw [kept]
      exact List.append_nil _
    rw [← whole]
    cases goes.reacts (keeps_of_isDone found done) (visits.minds opens) visits.fine with
    | registers new due => exact ⟨new, due.symm⟩
    | starts callback hand =>
      rw [goes.hand_counting stages] at hand
      cases hand
  have here : Visits IsOpen later := reached.onward (traces.mono fun _ => And.left).onward
  have lasts := traces.lasts reached (fun _ => And.left) opens False.elim (fun _ => And.right) stages
  have order := (traces.mono fun _ => And.left).order reached opens
  rcases lasts.step (here.goes opens ending fine) (fun asked => asked.elim) with goes_on | ⟨-, ends⟩
  · obtain ⟨upper, left, same, -⟩ := goes_on.left
    have length := congrArg List.length (ended.symm.trans same)
    rw [List.length_append, List.length_cons] at length
    omega
  · exact before.trans ((ends.starts order).1.filterMap _)

/-- A future is resolved once, and its reactions are started once and in their order. -/
structure ResolvesOnce (future : FutureId) (machine : Machine) : Prop where
  /-- What a name stands for exists. -/
  known : ∀ {name}, machine.world.names.lookup (.future, name) = some future →
    ∃ entry, machine.world.loop.futures.get? future = some entry
  /-- The first call that resolves it takes effect: it makes ready what is due and starts nothing. -/
  first : ∀ {instruction resolution answer kind reactions timer after},
    machine.world.loop.futures.get? future = some ⟨kind, .pending reactions timer⟩ →
    Resolving machine.world future kind instruction resolution answer →
    Calls instruction machine after →
      after.signal = .answer (answer (.ok ())) ∧
      after.world.loop.futures.get? future = some ⟨kind, Future.resolved resolution⟩ ∧
      after.world.loop.ready = machine.world.loop.ready ++ reactions.map (.done future) ∧
      after.due future = machine.due future
  /-- Every later one is refused and changes nothing. -/
  later : ∀ {instruction resolution answer entry after},
    machine.world.loop.futures.get? future = some entry → entry.isDone = true →
    Resolving machine.world future entry.kind instruction resolution answer →
    Calls instruction machine after →
      after.signal = .answer (answer (.error .alreadyDone)) ∧ after.world.loop = machine.world.loop
  /-- Once it is done, its state and its outcome stay, unless the outcome is moved out. -/
  stays : ∀ {entry after}, machine.world.loop.futures.get? future = some entry →
    entry.isDone = true → Onward IsOpen machine after →
      ∃ later, after.world.loop.futures.get? future = some later ∧ entry.Remains later
  /-- A reaction that is registered is due after the others; nothing is started. -/
  registers : ∀ {instruction reaction after}, Registering machine.world future instruction reaction →
    Calls instruction machine after →
      after.signal = .answer .null ∧ machine.newlyDue future after = [reaction]
  /-- A future that has a name or is done loses no reaction. -/
  keeps : ((∃ name, machine.world.names.lookup (.future, name) = some future) ∨
    ∃ entry, machine.world.loop.futures.get? future = some entry ∧ entry.isDone = true) →
      machine.Keeps future
  /-- A step registers reactions or starts a callback. -/
  steps : ∀ {after}, Step machine after → after.IsOpen → machine.Keeps future →
    Reacts future machine after
  /-- Reactions are started in the order in which they were registered, each at most once. -/
  order : ∀ {registered started last},
    Accounts (IsKeeping future) future machine registered started last → machine.Keeps future →
      machine.due future ++ registered = started ++ last.due future
  /-- Once it is done, an iteration that begins and ends starts all reactions that were due. -/
  runs : ∀ {entry counted appended started later last},
    machine.world.loop.futures.get? future = some entry → entry.isDone = true →
    Step machine counted → counted.IsOpen →
    counted.stages = .iteration counted.world.loop.ready.length :: machine.stages →
    Traces (fun state => state.IsOpen ∧ state.stages ≠ machine.stages) counted appended started later →
    Step later last → last.IsOpen → last.stages = machine.stages →
      machine.due future <+: started.filterMap (Callback.reaction? future)

/-- As long as the loop is open, every future is resolved once, and what it brings about is started once
and in its order. -/
theorem resolvesOnce (visits : Visits IsOpen machine) (future : FutureId) :
    machine.ResolvesOnce future := by
  have minds := visits.minds fun _ => id
  refine ⟨?_, ?_, ?_, fun found done onward => onward.remains visits found done, ?_, ?_,
    fun step fine keeps => (visits.goes (fun _ => id) step fine).reacts keeps minds visits.fine,
    fun accounts keeps => accounts.order visits keeps,
    fun found done counts opened stages traces ending fine ended =>
      visits.startsDue found done counts opened stages traces ending fine ended⟩
  · intro name named
    have known := visits.reachable.sound.settled.orderly.within.names (World.mem_names named)
    exact Table.exists_get?_of_lt_size known.2
  · intro instruction resolution answer kind reactions timer after found resolving calls
    obtain ⟨signal, loop⟩ := calls.resolves resolving found rfl
    obtain ⟨success, done, ready, due⟩ := Loop.resolve_pending visits.fine found resolution
    unfold Machine.due
    rw [signal, loop, success]
    exact ⟨rfl, done, ready, due⟩
  · intro instruction resolution answer entry after found done resolving calls
    obtain ⟨signal, loop⟩ := calls.resolves resolving found rfl
    rw [signal, loop, Loop.resolve_done found done]
    exact ⟨rfl, rfl⟩
  · intro instruction reaction after registering calls
    obtain ⟨signal, loop⟩ := calls.registers registering
    refine ⟨signal, ?_⟩
    unfold newlyDue Machine.due
    rw [loop, Loop.due_whenDone visits.fine, List.drop_left]
  · rintro (⟨name, named⟩ | ⟨entry, found, done⟩)
    · exact keeps_of_named named
    · exact keeps_of_isDone found done

/-- A future was cancelled for which a script was registered, and then another script was registered. -/
def resolving : Machine := scripted.drive openly 9
  [.future (.make "f" .value none), .onDone "f" "a" [], .future (.cancel "f"), .onDone "f" "b" []]

/-- Both scripts are due once the future was cancelled. -/
theorem resolvesOnce_resolving : resolving.ResolvesOnce 0 ∧
    resolving.world.loop.isDone 0 = true ∧ (resolving.due 0).length = 2 :=
  ⟨resolvesOnce (visits_openly 9 _) 0, by decide +kernel, by decide +kernel⟩

end Machine

end EventLoop

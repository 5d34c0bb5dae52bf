import EventLoop.Proofs.Effect.Connections
import EventLoop.Proofs.Effect.Waits

/-!
# Futures that keep their outcomes

The outcome of a future is moved out for whoever waits for a task, or when nothing mentions the future any
more. So a future that is the result of no task keeps its outcome as long as something mentions it. The
future of an operation is such a future.
-/
namespace EventLoop

/-- Whether the outcome of a future was moved out. -/
def Future.isMoved (future : Future) : Bool :=
  match future.phase with
  | .finished none => true
  | .pending .. | .cancelled | .finished (some _) => false

/-- The outcome of a future that was just resolved is still there. -/
theorem Future.isMoved_resolved (kind : FutureKind) (resolution : Resolution) :
    (⟨kind, resolved resolution⟩ : Future).isMoved = false := by
  cases resolution with
  | cancel | finish => rfl

namespace Loop

variable {loop other : Loop} {id : FutureId}

/-- A future exists, and its outcome was not moved out. -/
def Holds (loop : Loop) (id : FutureId) : Prop :=
  ∃ future, loop.futures.get? id = some future ∧ future.isMoved = false

namespace Holds

/-- Whether a future holds its outcome depends on the futures alone. -/
theorem congr (holds : loop.Holds id) (same : other.futures = loop.futures) : other.Holds id := by
  obtain ⟨future, found, kept⟩ := holds
  exact ⟨future, same ▸ found, kept⟩

/-- A future that is added leaves the outcomes of the others where they are. -/
theorem push (holds : loop.Holds id) {entry : Future}
    (same : other.futures = loop.futures.push entry) : other.Holds id := by
  obtain ⟨future, found, kept⟩ := holds
  refine ⟨future, ?_, kept⟩
  rw [same, Table.get?_push, if_neg (Nat.ne_of_lt (Table.lt_size_of_get? found))]
  exact found

/-- A future changes in such a way that it keeps its outcome. -/
theorem modify (holds : loop.Holds id) {changed : FutureId} {change : Future → Future}
    (same : other.futures = loop.futures.modify changed change)
    (keeps : id = changed → ∀ future, loop.futures.get? id = some future → future.isMoved = false →
      (change future).isMoved = false) : other.Holds id := by
  obtain ⟨future, found, kept⟩ := holds
  by_cases here : id = changed
  · refine ⟨change future, ?_, keeps here future found kept⟩
    rw [same, here, Table.get?_modify_self, ← here, found]
    rfl
  · exact ⟨future, by rw [same, Table.get?_modify_of_ne _ _ here, found], kept⟩

/-- Resolving a future moves no outcome out. -/
theorem resolve (holds : loop.Holds id) (resolved : FutureId) (resolution : Resolution) :
    (loop.resolve resolved resolution).2.Holds id := by
  rw [resolve_eq]
  split
  · rw [replaceFuture_eq]
    exact holds.modify rfl fun _ _ _ _ => Future.isMoved_resolved _ resolution
  · exact holds

/-- Registering a reaction moves no outcome out. -/
theorem whenDone (holds : loop.Holds id) (future : FutureId) (reaction : Reaction) :
    (loop.whenDone future reaction).Holds id := by
  rw [whenDone_eq]
  split
  · exact holds.modify rfl fun _ _ _ _ => rfl
  · exact holds.congr (futures_callSoon loop _)

/-- Awaiting a future moves no outcome out. -/
theorem await (holds : loop.Holds id) (wait : Wait) (waker : Nat) :
    (loop.await wait waker).2.Holds id := by
  unfold Loop.await
  split
  · exact holds
  · split
    · exact holds
    · have pushed : Loop.Holds { loop with cells := loop.cells.push waker } id := holds
      exact pushed.whenDone _ _

/-- Making a future, with a timeout or without, moves no outcome out. -/
theorem makeTimed (holds : loop.Holds id) (kind : FutureKind) (now : Nat) (timeout : Option Nat) :
    (loop.makeTimed kind now timeout).2.Holds id := by
  rw [makeTimed_eq]
  cases timeout with
  | none => exact holds.push rfl
  | some delay => exact holds.push rfl

/-- Spawning a task moves no outcome out. -/
theorem spawn (holds : loop.Holds id) (name : String) (body : Script.Body) :
    (loop.spawn name body).2.Holds id := by
  have made : (loop.makeFuture .value).2.Holds id := holds.makeTimed .value 0 none
  unfold Loop.spawn
  dsimp only
  split
  · refine resolve (made.congr ?_) _ _
    rfl
  · exact made.congr (futures_schedule _ _)

/-- Completing a task moves no outcome out. -/
theorem complete (holds : loop.Holds id) (task : TaskId) (value : Value) :
    (loop.complete task value).Holds id := by
  unfold Loop.complete
  split
  · split
    · refine resolve (holds.congr ?_) _ _
      exact futures_retire _ _
    · exact holds
  · exact holds

end Holds

/-- A future keeps its outcome, and it is the result of no task. -/
structure Retains (loop : Loop) (id : FutureId) : Prop where
  /-- Its outcome was not moved out. -/
  holds : loop.Holds id
  /-- It is the result of no task. -/
  free : ∀ {task entry}, loop.tasks.get? task = some entry → entry.result ≠ id

/-- A future that exists and is the result of no task does not become one. -/
theorem Grows.free (grows : loop.Grows other) (bound : id < loop.futures.size)
    (free : ∀ {task entry}, loop.tasks.get? task = some entry → entry.result ≠ id) {task : TaskId}
    {entry : Task} (found : other.tasks.get? task = some entry) : entry.result ≠ id := by
  rcases Nat.lt_or_ge task loop.tasks.size with there | new
  · obtain ⟨earlier, before⟩ := Table.exists_get?_of_lt_size there
    obtain ⟨later, here, same⟩ := grows.tasks before
    cases here.symm.trans found
    have result : entry.result = earlier.result := congrArg (fun identity => identity.2.2) same
    rw [result]
    exact free before
  · exact Nat.ne_of_gt (Nat.lt_of_lt_of_le bound (grows.added found new))

/-- A future that retains its outcome exists. -/
theorem Retains.bound (retains : loop.Retains id) : id < loop.futures.size := by
  obtain ⟨future, found, -⟩ := retains.holds
  exact Table.lt_size_of_get? found

/-- What keeps the outcome and lets no future cease to exist retains the future. -/
theorem Retains.grows (retains : loop.Retains id) (grows : loop.Grows other) (holds : other.Holds id) :
    other.Retains id :=
  ⟨holds, fun found => grows.free retains.bound retains.free found⟩

/-- A future ended with an outcome, which was not moved out. -/
def EndedWith (loop : Loop) (id : FutureId) (outcome : Outcome) : Prop :=
  ∃ future, loop.futures.get? id = some future ∧ future.isDone = true ∧ future.isMoved = false ∧
    future.result = outcome

namespace EndedWith

variable {outcome : Outcome}

/-- A future that is done and keeps its outcome ended with that outcome. -/
theorem of_holds (holds : loop.Holds id) (done : loop.isDone id = true) :
    loop.EndedWith id (loop.resultOf id) := by
  obtain ⟨future, found, kept⟩ := holds
  unfold isDone futureState at done
  unfold resultOf
  rw [found] at done ⊢
  exact ⟨future, found, done, kept, rfl⟩

/-- A future ends with one outcome. -/
theorem unique (ended : loop.EndedWith id outcome) {second : Outcome} (also : loop.EndedWith id second) :
    outcome = second := by
  obtain ⟨future, found, -, -, rfl⟩ := ended
  obtain ⟨same, there, -, -, rfl⟩ := also
  cases found.symm.trans there
  rfl

end EndedWith

end Loop

namespace World

variable {scope : Scope} {n : Nat} {aspect : Aspect} {aspects : List Aspect}
variable {world before after : World} {future : FutureId}

/-- A future that something mentions and that is the result of no task keeps its outcome. -/
theorem Change.holds (change : Change scope aspect before after)
    (mentioned : before.isMentioned (.future future) = true) (retains : before.loop.Retains future) :
    after.loop.Holds future := by
  have holds := retains.holds
  cases change with
  | surroundings | held | dropped | names | devices | fitted | disarmed | asked | released | turned | retired
  | servers | primitives | woken | stopAsked | stopped | flags | shut | cleared | abandoned =>
    exact holds
  | connected =>
    exact addTransport_loop (·.Holds future) holds fun loop callback kept =>
      kept.congr (Loop.futures_callSoon loop callback)
  | made => exact holds.makeTimed _ _ _
  | resolved | granted | expired => exact holds.resolve _ _
  | registered | bound | enlisted => exact holds.whenDone _ _
  | awaited => exact holds.await _ _
  | taken _ id entry known found owner =>
    refine holds.modify rfl fun here => ?_
    obtain ⟨task, owned, there, result⟩ := owner
    exact absurd (result.trans here.symm) (retains.free there)
  | emptied _ id entry found missed free | deserted _ id entry found missed free =>
    have keeps : before.loop.Holds future → Loop.Holds { before.loop with
        futures := before.loop.futures.modify id Future.emptied } future := fun holds => by
      refine holds.modify rfl fun here => ?_
      rw [here, free] at mentioned
      cases mentioned
    exact keeps holds
  | called | announced | summoned => exact holds.congr (Loop.futures_callSoon _ _)
  | scheduled => exact holds.congr (Loop.futures_callAt _ _ _)
  | spawned => exact holds.spawn _ _
  | pollBegun => exact holds.congr (Loop.futures_beginPoll _ _)
  | pollEnded => exact holds.congr (Loop.futures_endPoll _ _ _)
  | completed => exact holds.complete _ _
  | cancelled => exact holds.congr (Loop.futures_retire _ _)
  | prepared => exact holds.congr (Loop.futures_prepare _ _)
  | gathered => exact holds.congr (Loop.futures_gather _ _)
  | readyTaken => exact holds.congr (Loop.futures_takeReady _)

/-- No change moves out the outcome of a future that is mentioned and is the result of no task. -/
theorem Change.retains (change : Change scope aspect before after)
    (mentioned : before.isMentioned (.future future) = true) (retains : before.loop.Retains future) :
    after.loop.Retains future :=
  retains.grows change.grows.loop (change.holds mentioned retains)

/-- A future that is kept alive by what is under way keeps its outcome. -/
theorem Changes.retains (changes : Changes scope aspects before after) (within : before.Within scope n)
    (held : .future future ∈ scope.held) (retains : before.loop.Retains future) :
    after.loop.Retains future := by
  induction changes with
  | refl => exact retains
  | tail earlier last ih =>
    obtain ⟨aspect, -, change⟩ := last
    exact change.retains ((Changes.within earlier within).mentioned held) ih

/-- A server that is kept alive by what is under way stays as it is while nothing deals with servers. -/
theorem Changes.server (changes : Changes scope aspects before after) (within : before.Within scope n)
    {id : ServerId} (held : .server id ∈ scope.held) (apart : .serving ∉ aspects) :
    after.servers.get? id = before.servers.get? id := by
  induction changes with
  | refl => rfl
  | tail earlier last ih =>
    obtain ⟨aspect, member, change⟩ := last
    refine Eq.trans ?_ ih
    have mentioned := (Changes.within earlier within).mentioned held
    cases change with
    | retired _ other free =>
      refine Table.get?_modify_of_ne _ _ ?_
      rintro rfl
      rw [mentioned] at free
      cases free
    | servers => exact absurd member apart
    | connected => rw [addTransport_eq]
    | _ => rfl

/-! ## The futures of operations -/

/-- The future of an operation that was just submitted is the next one, and it has its outcome. -/
theorem retains_submit (fresh : scope.Fresh n) (within : world.Within scope n) (socket : SocketId)
    (subject : Proactor.Subject) :
    (submit socket subject world).1 = world.loop.futures.size ∧
      (submit socket subject world).2.loop.Retains world.loop.futures.size := by
  let made : World := { world with loop := (world.loop.makeFuture subject.futureKind).2 }
  have makes : Change scope .futures world made := .made world subject.futureKind 0 none
  have withinMade := makes.within within
  have size : made.loop.futures.size = world.loop.futures.size + 1 := Table.size_push _ _
  have retains : made.loop.Retains world.loop.futures.size := by
    refine ⟨⟨.new subject.futureKind, ?_, rfl⟩, fun found => ?_⟩
    · exact (Table.get?_push _ _ _).trans (if_pos rfl)
    · exact Nat.ne_of_lt (within.loop.result found).2
  have new : made.loop.Knows scope.known world.loop.futures.size :=
    ⟨fresh _ within.loop.base, by rw [size]; exact Nat.lt_succ_self _⟩
  unfold submit
  rw [StateM.bind_apply]
  change (((get : WorldM World) >>= _) made).1 = _ ∧ Loop.Retains (((get : WorldM World) >>= _) made).2.loop _
  rw [StateM.bind_apply, StateM.get_apply]
  dsimp only
  split
  · rw [StateM.bind_apply]
    generalize listing : Prod.snd ((set (_ : World) : WorldM PUnit) made) = listed
    have loop : listed.loop = made.loop := by rw [← listing]; rfl
    cases completer : made.completer with
    | scripted scripted =>
      refine ⟨rfl, ?_⟩
      change listed.loop.Retains _
      rw [loop]
      exact retains
    | engine engine =>
      refine ⟨rfl, ?_⟩
      -- While the operation is begun its future is kept alive.
      let kept : Scope := ⟨scope.known, .future world.loop.futures.size :: scope.held⟩
      let keeps : World := { listed with held := .future world.loop.futures.size :: listed.held }
      have withinKeeps : keeps.Within kept made.loop.futures.size := by
        subst listing
        exact ⟨{ withinMade.loop with base := Nat.le_refl _ }, withinMade.names, withinMade.completer,
          withinMade.keyed, withinMade.transports, withinMade.servers, withinMade.conditions,
          List.cons_subset_cons _ withinMade.held⟩
      have known : Proactor.Known kept made.loop.futures.size engine.operations :=
        fun operation member => Calm.known_operations withinMade completer operation member
      have submits : Does kept made.loop.futures.size calm keeps
          (submitToEngine engine socket subject world.loop.futures.size) anyhow :=
        Calm.submitToEngine known (Calm.keyed_engine withinMade completer) new socket subject
      have begun : keeps.loop.Retains world.loop.futures.size := by
        change listed.loop.Retains _
        rw [loop]
        exact retains
      exact (submits withinKeeps).1.retains withinKeeps List.mem_cons_self begun
  · exact ⟨rfl, retains.grows (.resolve _ _ _) (retains.holds.resolve _ _)⟩

end World

end EventLoop

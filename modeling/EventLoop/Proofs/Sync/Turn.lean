import EventLoop.Proofs.Effect.Waiting
import EventLoop.Proofs.Sync.Perform

/-!
# Turns

A caller that asks for its turn at a gate has it at once, or has a place in the queue until it was
granted or cancelled. A caller that waits for a condition gives up the lock of the condition and has to
take it again.
-/
namespace EventLoop

/-- Whether a caller asks for its turn at a gate when it is polled. -/
def Script.Leaf.asks : Script.Leaf → Bool
  | turn .. | notice .. | relock .. => true
  | nextPoll | result _ | connecting .. | establishing .. => false

/-- Whether an instruction asks for a turn at a gate. -/
def Script.WaitInstruction.asks : Script.WaitInstruction → Bool
  | lock .. | semaphore .. | event .. | conditionLock .. => true
  | future _ | task _ | sleep _ | condition .. | conditionUntil .. | yield | park _ => false

namespace World

open Script (Leaf Goal Predicate Station WaitInstruction GuardInstruction Target)

variable {held : List Ref} {aspects : List Aspect} {own rest : Multiset Stake} {world : World}
variable {waiter : Waiter} {gate : Gate} {wait : Wait}

/-- The aspects that most moves change: they neither begin an iteration or a poll nor end a poll, they
take no callback, and they do not close the loop. -/
def moving : List Aspect := .tasks :: sync

/-- Whatever calm steps change, moves may change. -/
theorem calm_subset_moving : calm ⊆ moving := by decide

/-- The aspects that moves change which may cancel a task. -/
def revoking : List Aspect := .cancelling :: moving

/-- The aspects that moves change by which the time of a future is up. -/
def expiring : List Aspect := .timeouts :: moving

/-- The aspects that moves change which deal with a transport. -/
def trafficking : List Aspect := .traffic :: moving

/-- The aspects that moves change which have to do with a server. -/
def hosting : List Aspect := .serving :: moving

/-- The aspects that moves change which ask for something on behalf of another thread. -/
def requesting : List Aspect := .requests :: moving

/-- The aspects that moves change which may close the loop. -/
def halting : List Aspect := .shutting :: moving

/-- The aspects that moves change which may begin an iteration. -/
def iterating : List Aspect := .progress :: .runs :: halting

/-- Whatever moves change, iterations may change. -/
theorem moving_subset_iterating : moving ⊆ iterating := by decide

/-- Whatever is changed when the loop is to return, iterations may change. -/
theorem halting_subset_iterating : halting ⊆ iterating := by decide

/-- The aspects that moves change which begin or end a poll. -/
def polling : List Aspect := .polls :: moving

/-- The aspects that moves change which may notify callers that wait for a condition. -/
def notifying : List Aspect := .notices :: moving

/-- The aspects that moves change which ask for a turn at a gate. -/
def turning : List Aspect := .turns :: moving

/-- The aspects that a move changes which may ask for a turn at a gate. -/
def turningIf : (asks : Bool) → List Aspect
  | true => turning
  | false => moving

/-- Whatever moves change may be changed whether or not a caller asks for its turn. -/
theorem moving_subset_turningIf (asks : Bool) : moving ⊆ turningIf asks := by
  cases asks with
  | true => exact List.subset_cons_self _ _
  | false => exact List.Subset.refl _

/-- A caller that resumes gives up its place, and has its turn if it was granted. -/
def resume (gate : Gate) (future : FutureId) (granted : Bool) : WorldM Unit := do
  settlePlace gate future
  if granted then takeTurn gate

/-- Having one's turn does not depend on the references that were given up. -/
theorem takeTurn_drop (gate : Gate) (ref : Ref) (world : World) :
    (takeTurn gate (drop ref world).2).2 = (drop ref (takeTurn gate world).2).2 := by
  cases gate with
  | lock id => rfl
  | semaphore id => rfl
  | event id => rfl
  | condition id => rfl

/-- A caller whose future is done resumes before it lets go of the future. -/
theorem awaitTurn_eq (waiter : Waiter) (gate : Gate) (wait : Wait) :
    awaitTurn waiter gate wait = (do
      match ← await waiter wait with
      | .error wait => return .error wait
      | .ok outcome =>
        resume gate wait.future outcome.toBool
        drop (.future wait.future)
        return .ok outcome.toBool) := by
  unfold awaitTurn awaitPlace
  rw [bind_assoc]
  congr 1
  funext result
  cases result with
  | error after => rfl
  | ok outcome =>
    funext reached
    have swap := takeTurn_drop gate (.future wait.future) (settlePlace gate wait.future reached).2
    cases granted : outcome.toBool with
    | false =>
      simp only [resume, granted]
      rfl
    | true =>
      simp only [resume, granted]
      exact congrArg (Prod.mk _) swap

/-- Nothing is taken at a condition. -/
theorem awaitPlace_condition (waiter : Waiter) (id : ConditionId) (wait : Wait) :
    awaitPlace waiter (.condition id) wait = awaitTurn waiter (.condition id) wait := by
  funext world
  unfold awaitTurn
  rw [StateM.bind_apply]
  generalize awaitPlace waiter (.condition id) wait world = result
  rcases result with ⟨wait | granted, reached⟩
  · rfl
  · cases granted with
    | false => rfl
    | true => rfl

/-- Whether a gate is open is read. -/
theorem isOpenGate_same (gate : Gate) (world : World) : (isOpenGate gate world).2 = world := by
  cases gate with
  | lock id => rfl
  | semaphore id => rfl
  | event id => rfl
  | condition id => rfl

namespace Turn

/-- What has nothing to do with primitives leaves the stakes alone. -/
theorem calm {α : Type} {step : WorldM α}
    (does : ∀ scope : Scope, scope.Fresh world.loop.futures.size →
      Does scope world.loop.futures.size World.calm world step anyhow) :
    Performs held moving own world step (leaving own) :=
  (Performs.calmly (by decide) fun settled => does _ settled.fresh).leaves

/-- What deals with a transport leaves the stakes alone. -/
theorem dealing {α : Type} {step : WorldM α}
    (does : ∀ scope : Scope, scope.Fresh world.loop.futures.size →
      Does scope world.loop.futures.size World.dealing world step anyhow) :
    Performs held trafficking own world step (leaving own) :=
  (Performs.quietly (by decide) (by decide) fun settled => does _ settled.fresh).leaves

/-- What asks for something on behalf of another thread leaves the stakes alone. -/
theorem requiring {α : Type} {step : WorldM α}
    (does : ∀ scope : Scope, scope.Fresh world.loop.futures.size →
      Does scope world.loop.futures.size World.requiring world step anyhow) :
    Performs held requesting own world step (leaving own) :=
  (Performs.quietly (by decide) (by decide) fun settled => does _ settled.fresh).leaves

/-- What has to do with a server leaves the stakes alone. -/
theorem tending {α : Type} {step : WorldM α}
    (does : ∀ scope : Scope, scope.Fresh world.loop.futures.size →
      Does scope world.loop.futures.size World.tending world step anyhow) :
    Performs held hosting own world step (leaving own) :=
  (Performs.quietly (by decide) (by decide) fun settled => does _ settled.fresh).leaves

/-! ## Primitives -/

/-- Releasing a lock leaves to its caller what the caller had at stake. -/
theorem releaseLock (id : LockId) :
    Performs held moving own world (releaseLock id) (leaving own) :=
  (Performs.deed (Primitives.releaseLock id) (.released _ _ id)).leaves

/-- Giving a permit back leaves to its caller what the caller had at stake. -/
theorem releaseSemaphore (id : SemaphoreId) :
    Performs held moving own world (releaseSemaphore id) (leaving own) :=
  (Performs.deed (Primitives.releaseSemaphore id) (.returned _ _ id)).leaves

/-- Setting an event leaves to its caller what the caller had at stake. -/
theorem raiseEvent (id : EventId) : Performs held moving own world (raiseEvent id) (leaving own) :=
  (Performs.deed (Primitives.raiseEvent id) (.raised _ _ id)).leaves

/-- Clearing an event leaves to its caller what the caller had at stake. -/
theorem clearEvent (id : EventId) :
    Performs held moving own world (setEvent id (eventAt id world).1.clear) (leaving own) :=
  (Performs.deed (Primitives.setEvent id _) (.cleared _ _ id)).leaves

/-- Notifying callers leaves to its caller what the caller had at stake. -/
theorem notify (id : ConditionId) (count : Option Nat) :
    Performs held notifying own world (notify id count) (leaving own) :=
  (Performs.deed (Primitives.notify id count) (.notified _ _ id count List.mem_cons_self)).leaves

/-- Making a lock leaves to its caller what the caller had at stake, and the new primitive exists. -/
theorem makeLock : Performs held moving own world makeLock fun id left reached =>
    left = own ∧ id < reached.locks.size :=
  Performs.deed Primitives.makeLock (.madeLock _ _)

/-- Making a semaphore leaves to its caller what the caller had at stake, and the new primitive exists. -/
theorem makeSemaphore (value : Nat) (bounded : Bool) :
    Performs held moving own world (makeSemaphore value bounded) fun id left reached =>
      left = own ∧ id < reached.semaphores.size :=
  Performs.deed (Primitives.makeSemaphore value bounded) (.madeSemaphore _ _ value bounded)

/-- Making an event leaves to its caller what the caller had at stake, and the new primitive exists. -/
theorem makeEvent : Performs held moving own world makeEvent fun id left reached =>
    left = own ∧ id < reached.events.size :=
  Performs.deed Primitives.makeEvent (.madeEvent _ _)

/-- Making a condition leaves to its caller what the caller had at stake, and the new primitive exists. -/
theorem makeCondition {lock : LockId} (exists_ : lock < world.locks.size) :
    Performs held moving own world (makeCondition lock) fun id left reached =>
      left = own ∧ id < reached.conditions.size :=
  Performs.deed (Primitives.makeCondition exists_) (.madeCondition _ _ lock exists_)

/-- What a guard holds is given back. -/
theorem releaseGuard (guard : Guard) :
    Performs held moving (.hold guard ::ₘ rest) world (releaseGuard guard) (leaving rest) := by
  have deed : Deed held moving (.hold guard ::ₘ rest + world.loop.stakes) world
      (rest + world.loop.stakes) (World.releaseGuard guard world).2 := by
    rw [Multiset.cons_add]
    exact .dropped _ _ guard
  exact (Performs.deed (Primitives.releaseGuard guard) deed).leaves

/-- A caller has its turn at once. -/
theorem takeTurn (exists_ : world.HasGate gate) (isOpen : (isOpenGate gate world).1 = true) :
    Performs held turning own world (takeTurn gate) (leaving (gate.hold + own)) := by
  have deed : Deed held turning (own + world.loop.stakes) world
      (gate.hold + own + world.loop.stakes) (World.takeTurn gate world).2 := by
    rw [add_assoc]
    exact .took _ _ gate List.mem_cons_self exists_ isOpen
  exact (Performs.deed (Primitives.takeTurn gate) deed).leaves

/-! ## Waiting for one's turn -/

/-- What most moves do may be done by a move that asks for a turn. -/
theorem widened {α : Type} {step : WorldM α} {after : α → Multiset Stake → World → Prop}
    (performs : Performs held moving own world step after) :
    Performs held turning own world step after := performs.mono (List.subset_cons_self _ _)

/-- What a caller that asked for its turn has: a place, its turn, or nothing. -/
def turnStakes (gate : Gate) (rest : Multiset Stake) : Except Wait Bool → Multiset Stake
  | .error wait => .place gate wait.future ::ₘ rest
  | .ok true => gate.hold + rest
  | .ok false => rest

/-- Awaiting a future leaves the stakes alone. -/
theorem await (tied : world.loop.Tied waiter.waker wait) :
    Performs held moving own world (await waiter wait) fun result left reached => left = own ∧
      (∀ outcome, result = .ok outcome → reached = world ∧
        world.loop.isDone wait.future = true ∧ outcome = world.loop.resultOf wait.future) ∧
      ∀ after, result = .error after →
        after.future = wait.future ∧ reached.loop.Armed waiter.waker after :=
  Performs.calmly (by decide) fun _ => Calm.await tied

/-- Giving references up leaves to its caller what the caller had at stake. -/
theorem drop (ref : Ref) : Performs held moving own world (drop ref) (leaving own) :=
  (Performs.calmly (by decide) fun _ => Calm.drop ref).leaves

/-- A caller that was granted resumes. -/
theorem resume_granted {future : FutureId} (granted : world.loop.fate future = .granted) :
    Performs held turning (.place gate future ::ₘ rest) world (resume gate future true)
      (leaving (gate.hold + rest)) := by
  have deed : Deed held turning (.place gate future ::ₘ rest + world.loop.stakes) world
      (gate.hold + rest + world.loop.stakes) (resume gate future true world).2 := by
    rw [Multiset.cons_add, add_assoc]
    exact .resumed _ _ gate future List.mem_cons_self granted
  have does : Does (shelter held (placesOf (.place gate future ::ₘ rest + world.loop.stakes)) world)
      0 sync world (resume gate future true) anyhow :=
    Does.bind (Primitives.settlePlace gate future) fun _ _ _ => Primitives.takeTurn gate
  exact (Performs.deed does deed).leaves

/-- A caller that was cancelled resumes. -/
theorem resume_cancelled {future : FutureId} (cancelled : world.loop.fate future = .cancelled) :
    Performs held moving (.place gate future ::ₘ rest) world (resume gate future false)
      (leaving rest) := by
  have deed : Deed held moving (.place gate future ::ₘ rest + world.loop.stakes) world
      (rest + world.loop.stakes) (resume gate future false world).2 := by
    rw [Multiset.cons_add]
    exact .left _ _ gate future cancelled
  have does : Does (shelter held (placesOf (.place gate future ::ₘ rest + world.loop.stakes)) world)
      0 sync world (resume gate future false) anyhow :=
    Does.bind (Primitives.settlePlace gate future) fun _ _ _ => Does.nothing
  exact (Performs.deed does deed).leaves

/-- A caller that waits for its turn goes on waiting or resumes. -/
theorem awaitTurn (tied : world.loop.Tied waiter.waker wait) :
    Performs held turning (.place gate wait.future ::ₘ rest) world (awaitTurn waiter gate wait)
      fun result left reached => (left = turnStakes gate rest result ∧
        ∀ granted, result = .ok granted → world.loop.isDone wait.future = true) ∧
          Resumes waiter result reached := by
  refine Performs.besides ?_ fun _ => Waiting.awaitTurn gate tied
  rw [awaitTurn_eq]
  refine Performs.assuming fun settled => Performs.bind (widened (await tied)) ?_
  rintro result left reached ⟨rfl, finished, armed⟩
  cases result with
  | error after =>
    refine Performs.pure ⟨?_, fun granted same => nomatch same⟩
    rw [turnStakes, (armed after rfl).1]
  | ok outcome =>
    obtain ⟨rfl, done, rfl⟩ := finished outcome rfl
    have here : (gate, wait.future) ∈
        placesOf (.place gate wait.future ::ₘ rest + reached.loop.stakes) := by
      rw [Multiset.cons_add, placesOf_place]
      exact Multiset.mem_cons_self _ _
    have sound := settled.orderly.sound (Or.inr ⟨gate, here⟩)
    have decided := Loop.isDone_iff.mp done
    cases fate : reached.loop.fate wait.future with
    | pending => exact absurd fate decided
    | failed => exact absurd fate sound
    | granted =>
      rw [Loop.resultOf_of_granted fate]
      refine Performs.bind (resume_granted fate) ?_
      rintro _ _ resumed rfl
      refine Performs.bind (widened (drop _)) ?_
      rintro _ _ dropped rfl
      exact Performs.pure ⟨rfl, fun _ _ => done⟩
    | cancelled =>
      rw [Loop.resultOf_of_cancelled fate]
      refine Performs.bind (widened (resume_cancelled fate)) ?_
      rintro _ _ resumed rfl
      refine Performs.bind (widened (drop _)) ?_
      rintro _ _ dropped rfl
      exact Performs.pure ⟨rfl, fun _ _ => done⟩

/-- A caller whose future is pending goes on waiting. -/
theorem await_pending {future : FutureId} (bound : future < world.loop.futures.size)
    (pending : world.loop.fate future = .pending) :
    ∃ after, (World.await waiter ⟨future, none⟩ world).1 = .error after ∧ after.future = future := by
  have pending : world.loop.isDone future = false := by
    by_contra done
    rw [Bool.not_eq_false] at done
    exact Loop.isDone_iff.mp done pending
  have tied : world.loop.Tied waiter.waker ⟨future, none⟩ := tied_none bound
  refine ⟨⟨future, some world.loop.cells.size⟩, ?_, rfl⟩
  exact congrArg Prod.fst (Loop.await_eq tied pending)

/-- A caller takes a place at a gate that is shut and awaits its turn. -/
theorem parks {β : Type} {next : FutureId → Except Wait Outcome → WorldM β}
    {parked : β → Multiset Stake → World → Prop} (exists_ : world.HasGate gate)
    (shut : (isOpenGate gate world).1 = false) (timeout : Option Nat)
    (last : ∀ after reached, (next after.future (.error after) reached).2 = reached ∧
      parked (next after.future (.error after) reached).1 (.place gate after.future ::ₘ own)
        reached) :
    Ends held moving own world
      (World.park gate timeout >>= fun future =>
        World.await waiter ⟨future, none⟩ >>= next future) (fun _ _ _ => False) parked := by
  intro settled
  have new := Parking.pending_park gate timeout world
  have waits : ∃ after, (World.await waiter ⟨world.loop.futures.size, none⟩
      (World.park gate timeout world).2).1 = .error after ∧ after.future = world.loop.futures.size :=
    await_pending new.1 new.2
  obtain ⟨after, goes, same⟩ := waits
  set reached := (World.await waiter ⟨world.loop.futures.size, none⟩ (World.park gate timeout world).2).2
  have parking : Parking (own + world.loop.stakes) world
      (.place gate world.loop.futures.size ::ₘ (own + world.loop.stakes)) reached :=
    .parked _ _ gate timeout waiter exists_ shut
  have changes := parking.changes settled.orderly (List.Subset.refl _)
  have stakes : reached.loop.stakes = world.loop.stakes :=
    changes.stakes (by decide) (by decide) (by decide)
  have number : (World.park gate timeout world).1 = world.loop.futures.size := by rw [park_eq]
  have step : (World.park gate timeout >>= fun future =>
      World.await waiter ⟨future, none⟩ >>= next future) world =
        next after.future (.error after) reached := by
    change next (World.park gate timeout world).1 (World.await waiter
      ⟨(World.park gate timeout world).1, none⟩ (World.park gate timeout world).2).1
      (World.await waiter ⟨(World.park gate timeout world).1, none⟩
        (World.park gate timeout world).2).2 = _
    rw [number, goes, same]
  have ends := last after reached
  rw [step]
  refine ⟨.place gate after.future ::ₘ own, Or.inr ⟨_, .refl, ?_⟩⟩
  rw [ends.1, stakes, Multiset.cons_add, same]
  exact ⟨parking, same ▸ ends.2⟩

/-- A caller that asks for its turn has it at once or has to wait. -/
theorem beginTurn (exists_ : world.HasGate gate) (timeout : Option Nat) :
    Ends held turning own world (beginTurn waiter gate timeout)
      (fun result left reached => (result = .ok true ∧ left = gate.hold + own) ∧
        Resumes waiter result reached)
      (fun result left reached => (∃ after, result = .error after ∧
        left = .place gate after.future ::ₘ own) ∧ Resumes waiter result reached) := by
  refine Ends.besides ?_ fun _ => Waiting.beginTurn gate timeout
  refine Ends.read (isOpenGate_same gate world) ?_
  split
  · rename_i isOpen
    refine (Performs.bind (takeTurn exists_ isOpen) ?_).ends
    rintro _ _ taken rfl
    exact Performs.pure ⟨rfl, rfl⟩
  · rename_i shut
    rw [Bool.not_eq_true] at shut
    simp only [awaitTurn_eq]
    refine ((parks exists_ shut timeout fun after reached => ?_).mono
      (List.subset_cons_self _ _)).weaken
      (fun _ _ _ impossible => impossible.elim) fun _ _ _ waits => waits
    exact ⟨rfl, after, rfl, rfl⟩

/-! ## Waiting for a condition -/

/-- A caller that waits to be notified goes on waiting or gives up its place. -/
theorem awaitNotice {id : ConditionId} (tied : world.loop.Tied waiter.waker wait) :
    Performs held turning (.place (.condition id) wait.future ::ₘ rest) world
      (awaitPlace waiter (.condition id) wait) fun result left _ =>
        match result with
        | .error after => left = .place (.condition id) after.future ::ₘ rest
        | .ok _ => left = rest := by
  rw [awaitPlace_condition]
  refine (awaitTurn tied).weaken ?_
  rintro result left reached ⟨⟨rfl, -⟩, -⟩
  cases result with
  | error after => rfl
  | ok granted =>
    cases granted with
    | false => rfl
    | true => exact zero_add _

/-- What an instruction that may have to wait has at stake besides the rest. -/
def answering (rest : Multiset Stake) : Answer → Multiset Stake → World → Prop
  | .error leaf, left, _ => left = (Station.leaf leaf).stakes + rest
  | .ok _, left, _ => left = rest

/-- An instruction that has to wait has something at stake besides the rest. -/
def waiting (rest : Multiset Stake) (answer : Answer) (left : Multiset Stake) (_ : World) : Prop :=
  ∃ leaf, answer = .error leaf ∧ left = (Station.leaf leaf).stakes + rest

/-- Who waits for a notification has a place in the queue of the condition and lent its lock. -/
theorem stakes_notice (id : ConditionId) (wait : Wait) (goal : Goal) (rest : Multiset Stake) :
    (Station.leaf (.notice id wait goal)).stakes + rest =
      .place (.condition id) wait.future ::ₘ .loan id ::ₘ rest := by
  rw [Station.stakes, Multiset.insert_eq_cons, Multiset.cons_add, Multiset.singleton_add]

/-- Who takes the lock of a condition again has a place in the queue of the lock and lent that lock. -/
theorem stakes_relock (id : ConditionId) (lock : LockId) (wait : Wait) (notified : Bool)
    (goal : Goal) (rest : Multiset Stake) :
    (Station.leaf (.relock id lock wait notified goal)).stakes + rest =
      .place (.lock lock) wait.future ::ₘ .debt id lock ::ₘ rest := by
  rw [Station.stakes, Multiset.insert_eq_cons, Multiset.cons_add, Multiset.singleton_add]

/-- A caller that begins to wait for a condition gives its lock up and takes a place. -/
theorem beginNotice {id : ConditionId} (exists_ : id < world.conditions.size)
    (timeout : Option Nat) (goal : Goal) :
    Ends held moving own world (beginNotice waiter id timeout goal)
      (fun result left _ => (∃ error, result = .error error) ∧ left = own)
      (fun result left _ => ∃ leaf, result = .ok leaf ∧
        left = (Station.leaf leaf).stakes + own) := by
  refine Ends.read rfl (Ends.read rfl ?_)
  split
  · rename_i locked
    have lent : Deed held moving (own + world.loop.stakes) world
        (.loan id ::ₘ own + world.loop.stakes)
        (World.releaseLock (conditionAt id world).1.lock world).2 := by
      rw [Multiset.cons_add]
      exact .lent _ _ id exists_ locked
    refine Ends.following (Performs.deed (Primitives.releaseLock _) lent) ?_
    rintro _ _ released ⟨rfl, -⟩
    refine Ends.assuming fun settled => ?_
    have stands : released.HasGate (.condition id) :=
      settled.stands (.loan id) (Multiset.mem_add.mpr (Or.inl (Multiset.mem_cons_self _ _)))
    refine (parks stands rfl timeout fun after reached => ?_).weaken
      (fun _ _ _ impossible => impossible.elim) fun _ _ _ waits => waits
    exact ⟨rfl, _, rfl, (stakes_notice id after goal own).symm⟩
  · exact (Performs.pure ⟨⟨_, rfl⟩, rfl⟩).ends

/-- A caller that seeks a predicate to hold gives the lock up if it does not. -/
theorem seek {id : ConditionId} (exists_ : id < world.conditions.size) (deadline : Option Nat)
    (predicate : Predicate) :
    Ends held moving own world (seek waiter id deadline predicate) (answering own)
      (waiting own) := by
  have asked : Performs held moving own world (ask waiter predicate) fun _ left reached =>
      left = own ∧ anyhow () reached ∧ id < reached.conditions.size := by
    refine Performs.calmly (by decide) fun _ => ?_
    exact ((Waiting.ask predicate).weaken fun _ _ _ => trivial).means .condition exists_
  refine Ends.following asked ?_
  rintro ⟨answer, predicate⟩ left reached ⟨rfl, -, exists_⟩
  dsimp only
  split
  · exact (Performs.pure rfl).ends
  · refine Ends.get ?_
    split
    · exact (Performs.pure rfl).ends
    · refine Ends.bind (beginNotice exists_ _ _) ?_ ?_
      · rintro _ _ last ⟨⟨error, rfl⟩, rfl⟩
        exact (Performs.pure rfl).ends
      · rintro _ _ last ⟨leaf, rfl, rfl⟩
        exact ⟨rfl, leaf, rfl, rfl⟩

/-- Going on once the lock is taken again answers, or waits for the next notification. -/
theorem afterRelock {id : ConditionId} (exists_ : id < world.conditions.size) (notified : Bool)
    (goal : Goal) :
    Ends held moving own world (afterRelock waiter id notified goal) (answering own)
      (waiting own) := by
  cases goal with
  | notification => exact (Performs.pure rfl).ends
  | predicate deadline predicate => exact seek exists_ deadline predicate

/-- Once its lock was taken again, a caller owes nothing. -/
theorem repay {id : ConditionId} {lock : LockId} (notified : Bool) (goal : Goal) :
    Ends held turning (Gate.hold (.lock lock) + (.debt id lock ::ₘ rest)) world
      (World.afterRelock waiter id notified goal) (answering rest) (waiting rest) := by
  refine Ends.assuming fun settled => ?_
  have debt : Stake.Stands world (.debt id lock) := by
    refine settled.stands _ (Multiset.mem_add.mpr (Or.inl (Multiset.mem_add.mpr (Or.inr ?_))))
    exact Multiset.mem_cons_self _ _
  refine Ends.exchange ?_ ((afterRelock debt.1 notified goal).mono (List.subset_cons_self _ _))
  have stakes : Gate.hold (.lock lock) + (.debt id lock ::ₘ rest) + world.loop.stakes =
      .debt id lock ::ₘ .hold (.lock lock) ::ₘ (rest + world.loop.stakes) := by
    rw [Gate.hold, Multiset.singleton_add, Multiset.cons_swap, Multiset.cons_add,
      Multiset.cons_add]
  rw [stakes]
  exact .repaid _ _ id lock

/-- A caller that waited for a condition takes its lock again. -/
theorem relock {id : ConditionId} (notified : Bool) (goal : Goal) :
    Ends held turning (.loan id ::ₘ rest) world (relock waiter id notified goal)
      (answering rest) (waiting rest) := by
  refine Ends.assuming fun settled => ?_
  have stands : Stake.Stands world (.loan id) :=
    settled.stands _ (Multiset.mem_add.mpr (Or.inl (Multiset.mem_cons_self _ _)))
  have exists_ : world.HasGate (.lock (world.lockOf id)) :=
    settled.orderly.within.hasGate_lockOf stands
  have recalled : Deed held turning (.loan id ::ₘ rest + world.loop.stakes) world
      (.debt id (world.lockOf id) ::ₘ rest + world.loop.stakes) world := by
    rw [Multiset.cons_add, Multiset.cons_add]
    exact .recalled _ _ id
  refine Ends.exchange recalled (Ends.read rfl (Ends.bind (beginTurn exists_ none) ?_ ?_))
  · rintro _ _ reached ⟨⟨rfl, rfl⟩, -⟩
    exact repay notified goal
  · rintro _ _ reached ⟨⟨after, rfl, rfl⟩, -⟩
    exact ⟨rfl, _, rfl, (stakes_relock id _ after notified goal rest).symm⟩

/-! ## Instructions that wait -/

/-- What waits for a connection has nothing at stake. -/
theorem answering_of_connects {answer : Answer} {reached : World}
    (connects : answer.Connects waiter reached) : answering own answer own reached := by
  cases answer with
  | ok value => rfl
  | error leaf =>
    have connecting := connects.connecting leaf rfl
    cases leaf with
    | connecting | establishing => exact (zero_add _).symm
    | nextPoll | result | turn | notice | relock => cases connecting

/-- Awaiting a result leaves nothing at stake, if the wait is tied to the waker of the caller. -/
theorem awaitResult (tied : world.loop.Tied waiter.waker wait) :
    Performs held moving own world (World.tryLeaf waiter (.result wait)) (answering own) := by
  refine Performs.bind (await tied) ?_
  rintro result _ reached ⟨rfl, -, -⟩
  split
  · exact Performs.pure (zero_add _).symm
  · refine Performs.bind (drop _) ?_
    rintro _ _ dropped rfl
    exact Performs.get (Performs.pure rfl)

/-- What a caller took is held by no guard. -/
theorem keep {α : Type} {step : WorldM α} {after : α → Multiset Stake → World → Prop}
    (performs : Performs held aspects rest world step after) :
    Performs held aspects (gate.hold + rest) world step after := by
  cases gate with
  | lock id =>
    refine Performs.exchange ?_ performs
    rw [Gate.hold, add_assoc, Multiset.singleton_add]
    exact .kept _ _ (.lock id)
  | semaphore id =>
    refine Performs.exchange ?_ performs
    rw [Gate.hold, add_assoc, Multiset.singleton_add]
    exact .kept _ _ (.semaphore id)
  | event id =>
    rw [Gate.hold, zero_add]
    exact performs
  | condition id =>
    rw [Gate.hold, zero_add]
    exact performs

/-- A caller that asked for its turn answers whether it was granted. -/
theorem answerTurn (result : Except Wait Bool) :
    Performs held aspects (turnStakes gate rest result) world
      (match result with
      | .error wait => (pure (.error (.turn gate wait)) : WorldM Answer)
      | .ok granted => pure (.ok (.bool granted))) (answering rest) := by
  cases result with
  | error after => exact Performs.pure (Multiset.singleton_add _ _).symm
  | ok granted =>
    cases granted with
    | false => exact Performs.pure rfl
    | true => exact keep (Performs.pure rfl)

/-- Trying a waiting instruction again. -/
theorem tryLeaf {leaf : Leaf} (tied : ∀ wait ∈ leaf.waits, world.loop.Tied waiter.waker wait) :
    Ends held (turningIf leaf.asks) ((Station.leaf leaf).stakes + rest) world (tryLeaf waiter leaf)
      (fun answer left reached => answering rest answer left reached ∧ answer.Armed waiter reached)
      (fun answer left reached => waiting rest answer left reached ∧ answer.Armed waiter reached) := by
  refine Ends.besides ?_ fun settled => Waiting.tryLeaf settled.fresh tied
  cases leaf with
  | nextPoll =>
    rw [Station.stakes, zero_add]
    exact (Performs.pure rfl).ends
  | result wait =>
    rw [Station.stakes, zero_add]
    exact (awaitResult (tied wait List.mem_cons_self)).ends
  | turn gate wait =>
    rw [Station.stakes, Multiset.singleton_add]
    refine (Performs.bind (awaitTurn (tied wait List.mem_cons_self)) ?_).ends
    rintro result _ reached ⟨⟨rfl, -⟩, -⟩
    exact answerTurn result
  | notice id wait goal =>
    rw [stakes_notice]
    have tied := tied wait List.mem_cons_self
    refine Ends.following (awaitNotice tied) ?_
    intro result left reached stakes
    cases result with
    | error after =>
      cases stakes
      exact (Performs.pure (stakes_notice id after goal rest).symm).ends
    | ok notified =>
      cases stakes
      exact relock notified goal
  | relock id lock wait notified goal =>
    rw [stakes_relock]
    refine Ends.following (awaitTurn (tied wait List.mem_cons_self)) ?_
    rintro result _ reached ⟨⟨rfl, -⟩, -⟩
    cases result with
    | error after =>
      exact (Performs.pure (stakes_relock id lock after notified goal rest).symm).ends
    | ok granted =>
      cases granted with
      | true => exact repay notified goal
      | false =>
        refine Ends.exchange ?_ (relock notified goal)
        rw [turnStakes, Multiset.cons_add, Multiset.cons_add]
        exact .renewed _ _ id lock
  | connecting socket wait target name script =>
    rw [Station.stakes, zero_add]
    have tied := tied wait List.mem_cons_self
    refine ((Performs.calmly calm_subset_moving fun settled =>
      Waiting.awaitConnection settled.fresh socket target name script tied).weaken ?_).ends
    rintro answer _ reached ⟨rfl, connects⟩
    exact answering_of_connects connects
  | establishing transport wait target =>
    rw [Station.stakes, zero_add]
    have tied := tied wait List.mem_cons_self
    refine ((Performs.calmly calm_subset_moving fun _ =>
      Waiting.awaitTransport transport target tied).weaken ?_).ends
    rintro answer _ reached ⟨rfl, connects⟩
    exact answering_of_connects connects

/-- Beginning to wait for a future leaves nothing at stake, if the future exists. -/
theorem beginResult {future : FutureId} (bound : future < world.loop.futures.size) :
    Performs held moving own world (beginResult waiter future) (answering own) :=
  awaitResult (tied_none bound)

/-- Beginning to wait at a gate ends in a turn or in a place. -/
theorem beginGate (exists_ : world.HasGate gate) (timeout : Option Nat) :
    Ends held turning own world (beginGate waiter gate timeout) (answering own) (waiting own) := by
  refine Ends.bind (beginTurn exists_ timeout) ?_ ?_
  · rintro _ _ reached ⟨⟨rfl, rfl⟩, -⟩
    exact (answerTurn (.ok true)).ends
  · rintro _ _ reached ⟨⟨after, rfl, rfl⟩, -⟩
    exact ⟨rfl, _, rfl, (Multiset.singleton_add _ _).symm⟩

/-- What a name stands for exists. -/
theorem named? (kind : ObjectClass) (name : String) :
    Performs held moving own world (named? kind name) fun found left reached =>
      left = own ∧ ∀ id ∈ found, reached.Means (openTo held) kind id :=
  Performs.calmly (by decide) fun _ => (Calm.named? kind name).weaken
    fun _ _ means id member => (means id member).widen fun _ _ => trivial

/-- Beginning something on a named object ends as it does for any object of that name. -/
theorem withNamed {kind : ObjectClass} {name : String} {action : Nat → WorldM Answer}
    (more : moving ⊆ aspects) (performs : ∀ id reached, reached.Means (openTo held) kind id →
      Ends held aspects own reached (action id) (answering own) (waiting own)) :
    Ends held aspects own world (withNamed kind name action) (answering own) (waiting own) := by
  refine Ends.following ((named? kind name).mono more) ?_
  rintro found _ reached ⟨rfl, means⟩
  split
  · rename_i id
    exact performs id reached (means id rfl)
  · exact (Performs.pure rfl).ends

/-- Beginning an instruction that may have to wait. -/
theorem beginWait (instruction : WaitInstruction) :
    Ends held (turningIf instruction.asks) own world (beginWait waiter instruction)
      (fun answer left reached => answering own answer left reached ∧ answer.Armed waiter reached)
      (fun answer left reached => waiting own answer left reached ∧ answer.Armed waiter reached) := by
  refine Ends.besides ?_ fun settled => Waiting.beginWait settled.fresh instruction
  have more := moving_subset_turningIf instruction.asks
  cases instruction with
  | future name => exact withNamed more fun id _ means => (beginResult means.2).ends
  | task name =>
    refine withNamed more fun id _ means => ?_
    refine Ends.following (Performs.calmly calm_subset_moving fun _ =>
      (Calm.forget .task name).means .task means) ?_
    rintro _ _ reached ⟨rfl, -, means⟩
    refine Ends.assuming fun settled => Ends.get ?_
    split
    · rename_i task found
      exact (beginResult (settled.orderly.within.loop.result found).2).ends
    · exact (Performs.pure rfl).ends
  | sleep delay =>
    refine Ends.get (Ends.following (Performs.calmly calm_subset_moving fun settled =>
      Calm.makeSleep settled.fresh _ delay) ?_)
    rintro future _ reached ⟨rfl, known⟩
    exact (beginResult known.2).ends
  | lock name timeout =>
    exact withNamed more fun id reached means =>
      beginGate (show reached.HasGate (.lock id) from means) timeout
  | semaphore name timeout =>
    exact withNamed more fun id reached means =>
      beginGate (show reached.HasGate (.semaphore id) from means) timeout
  | event name timeout =>
    exact withNamed more fun id reached means =>
      beginGate (show reached.HasGate (.event id) from means) timeout
  | conditionLock name timeout =>
    refine withNamed more fun id reached means => Ends.assuming fun settled => ?_
    have exists_ : reached.HasGate (.lock (reached.lockOf id)) :=
      settled.orderly.within.hasGate_lockOf means
    exact Ends.read rfl (beginGate exists_ timeout)
  | condition name timeout =>
    refine withNamed more fun id _ means => ?_
    refine Ends.bind (beginNotice means timeout _) ?_ ?_
    · rintro _ _ last ⟨⟨error, rfl⟩, rfl⟩
      exact (Performs.pure rfl).ends
    · rintro _ _ last ⟨leaf, rfl, rfl⟩
      exact ⟨rfl, leaf, rfl, rfl⟩
  | conditionUntil name timeout predicate =>
    exact withNamed more fun id _ means => Ends.get (seek means _ predicate)
  | yield =>
    refine (Performs.bind (calm fun _ _ => Does.changeLoop (by decide)
      (.woken world waiter.waker) trivial) ?_).ends
    rintro _ _ reached rfl
    exact Performs.pure (zero_add _).symm
  | park name =>
    refine (Performs.bind (Performs.calmly calm_subset_moving fun _ =>
      Calm.store .waker name trivial nofun) ?_).ends
    rintro _ _ reached ⟨rfl, -⟩
    exact Performs.pure (zero_add _).symm

/-- Beginning to connect. -/
theorem beginConnection (name : String) (target : Target) (script : Script.Protocol) :
    Performs held moving own world (beginConnection waiter name target script)
      fun answer left reached => answering own answer left reached ∧ answer.Armed waiter reached := by
  refine (Performs.calmly (by decide) fun settled =>
    Waiting.beginConnection settled.fresh name target script).weaken ?_
  rintro answer _ reached ⟨rfl, connects⟩
  exact ⟨answering_of_connects connects, connects.armed⟩

/-- What a guard is asked for exists. -/
theorem guardFor? (instruction : GuardInstruction) :
    Performs held moving own world (guardFor? instruction) fun guard left reached =>
      left = own ∧ ∀ asked, guard = some asked → reached.HasGate asked.gate := by
  refine Performs.calmly (by decide) fun _ => (Waiting.guardFor? instruction).weaken ?_
  intro guard reached means asked same
  cases asked with
  | lock id => exact means _ same
  | semaphore id => exact means _ same

end Turn

end World

end EventLoop

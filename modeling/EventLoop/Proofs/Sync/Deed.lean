import EventLoop.Proofs.Effect.Waiting
import EventLoop.Proofs.Sync.Order

/-!
# Deeds

A deed is one thing that is done to a primitive, or one change of the world that has nothing to do with
primitives. It says what programs have at stake before and after. Deeds keep queues and places in
order, so a step that is made of deeds does too. To take a place in a queue is no deed but a parking:
whoever does it does nothing else until it is polled again.
-/
namespace EventLoop

open Sync (Lock Semaphore Event Condition WaiterQueue)

/-- What a caller holds once it has its turn. -/
def Gate.hold : Gate → Multiset Stake
  | lock id => {.hold (.lock id)}
  | semaphore id => {.hold (.semaphore id)}
  | event _ | condition _ => 0

/-- What is held at a gate is no place. -/
@[simp] theorem placesOf_gate_hold (gate : Gate) : placesOf gate.hold = 0 := by
  cases gate with
  | lock id => rfl
  | semaphore id => rfl
  | event id => rfl
  | condition id => rfl

namespace World

/-- One deed. -/
inductive Deed (held : List Ref) (aspects : List Aspect) :
    Multiset Stake → World → Multiset Stake → World → Prop
  /-- Something changes that has nothing to do with primitives. -/
  | changed {aspect : Aspect} (stakes : Multiset Stake) {before after : World}
      (member : aspect ∈ aspects) (calm : aspect ≠ .primitives) (early : aspect ≠ .timeouts)
      (change : Change (shelter held (placesOf stakes) before) aspect before after) :
      Deed held aspects stakes before stakes after
  /-- The time of a future is up. -/
  | expired (stakes : Multiset Stake) (world : World) (future : FutureId)
      (member : .timeouts ∈ aspects) : Deed held aspects stakes world stakes
        { world with loop := (world.loop.resolve future .cancel).2 }
  /-- A lock is made. -/
  | madeLock (stakes : Multiset Stake) (world : World) :
      Deed held aspects stakes world stakes (makeLock world).2
  /-- A semaphore is made. -/
  | madeSemaphore (stakes : Multiset Stake) (world : World) (value : Nat) (bounded : Bool) :
      Deed held aspects stakes world stakes (makeSemaphore value bounded world).2
  /-- An event is made. -/
  | madeEvent (stakes : Multiset Stake) (world : World) :
      Deed held aspects stakes world stakes (makeEvent world).2
  /-- A condition is made around a lock. -/
  | madeCondition (stakes : Multiset Stake) (world : World) (lock : LockId)
      (exists_ : lock < world.locks.size) :
      Deed held aspects stakes world stakes (makeCondition lock world).2
  /-- A lock is released by someone who does not hold it by a guard. -/
  | released (stakes : Multiset Stake) (world : World) (id : LockId) :
      Deed held aspects stakes world stakes (releaseLock id world).2
  /-- A permit is given back by someone who does not hold it by a guard. -/
  | returned (stakes : Multiset Stake) (world : World) (id : SemaphoreId) :
      Deed held aspects stakes world stakes (releaseSemaphore id world).2
  /-- An event is set. -/
  | raised (stakes : Multiset Stake) (world : World) (id : EventId) :
      Deed held aspects stakes world stakes (raiseEvent id world).2
  /-- An event is cleared. -/
  | cleared (stakes : Multiset Stake) (world : World) (id : EventId) :
      Deed held aspects stakes world stakes (setEvent id (eventAt id world).1.clear world).2
  /-- Some of those who wait for a condition are notified. -/
  | notified (stakes : Multiset Stake) (world : World) (id : ConditionId) (count : Option Nat)
      (member : .notices ∈ aspects) :
      Deed held aspects stakes world stakes (notify id count world).2
  /-- A caller has its turn at once at a gate that is open. -/
  | took (stakes : Multiset Stake) (world : World) (gate : Gate) (member : .turns ∈ aspects)
      (exists_ : world.HasGate gate) (isOpen : (isOpenGate gate world).1 = true) :
      Deed held aspects stakes world (gate.hold + stakes) (takeTurn gate world).2
  /-- A caller that was granted resumes and has its turn. -/
  | resumed (stakes : Multiset Stake) (world : World) (gate : Gate) (future : FutureId)
      (member : .turns ∈ aspects) (granted : world.loop.fate future = .granted) :
      Deed held aspects (.place gate future ::ₘ stakes) world (gate.hold + stakes)
        (takeTurn gate (settlePlace gate future world).2).2
  /-- A caller that was cancelled resumes. -/
  | left (stakes : Multiset Stake) (world : World) (gate : Gate) (future : FutureId)
      (cancelled : world.loop.fate future = .cancelled) :
      Deed held aspects (.place gate future ::ₘ stakes) world stakes
        (settlePlace gate future world).2
  /-- A caller is gone before it resumed. -/
  | abandoned (stakes : Multiset Stake) (world : World) (gate : Gate) (future : FutureId) :
      Deed held aspects (.place gate future ::ₘ stakes) world stakes
        (abandonPlace gate future world).2
  /-- A guard gives back what it holds. -/
  | dropped (stakes : Multiset Stake) (world : World) (guard : Guard) :
      Deed held aspects (.hold guard ::ₘ stakes) world stakes (releaseGuard guard world).2
  /-- What was taken is held by no guard. -/
  | kept (stakes : Multiset Stake) (world : World) (guard : Guard) :
      Deed held aspects (.hold guard ::ₘ stakes) world stakes world
  /-- A caller gives up the lock of a condition. -/
  | lent (stakes : Multiset Stake) (world : World) (id : ConditionId)
      (exists_ : id < world.conditions.size)
      (locked : (lockAt (world.lockOf id) world).1.locked = true) :
      Deed held aspects stakes world (.loan id ::ₘ stakes)
        (releaseLock (world.lockOf id) world).2
  /-- A caller that waited for a condition goes on to take its lock again. -/
  | recalled (stakes : Multiset Stake) (world : World) (id : ConditionId) :
      Deed held aspects (.loan id ::ₘ stakes) world (.debt id (world.lockOf id) ::ₘ stakes) world
  /-- A caller that could not take the lock of a condition again goes on to try once more. -/
  | renewed (stakes : Multiset Stake) (world : World) (id : ConditionId) (lock : LockId) :
      Deed held aspects (.debt id lock ::ₘ stakes) world (.loan id ::ₘ stakes) world
  /-- A caller has taken the lock of a condition again. -/
  | repaid (stakes : Multiset Stake) (world : World) (id : ConditionId) (lock : LockId) :
      Deed held aspects (.debt id lock ::ₘ .hold (.lock lock) ::ₘ stakes) world stakes world
  /-- A caller that gave up the lock of a condition will not take it again. -/
  | waived (stakes : Multiset Stake) (world : World) (id : ConditionId) :
      Deed held aspects (.loan id ::ₘ stakes) world stakes world
  /-- A caller that was to take a lock again will not take it. -/
  | forgiven (stakes : Multiset Stake) (world : World) (id : ConditionId) (lock : LockId) :
      Deed held aspects (.debt id lock ::ₘ stakes) world stakes world

variable {held : List Ref} {aspects : List Aspect} {before after : World}

/-- Every deed keeps queues and places in order. -/
theorem Deed.orderly {stakes left : Multiset Stake} (deed : Deed held aspects stakes before left after)
    (orderly : Orderly held (placesOf stakes) before) : Orderly held (placesOf left) after := by
  cases deed with
  | changed _ member calm early change => exact (orderly.changed change calm early).1
  | expired => exact orderly.expire _
  | madeLock => exact orderly.makeLock
  | madeSemaphore => exact orderly.makeSemaphore _ _
  | madeEvent => exact orderly.makeEvent
  | madeCondition _ _ lock exists_ => exact orderly.makeCondition exists_
  | released => exact orderly.releaseLock (le_refl _) _
  | returned => exact orderly.releaseSemaphore (le_refl _) _
  | raised => exact orderly.raiseEvent _
  | cleared => exact orderly.clearEvent _
  | notified => exact orderly.notify _ _
  | took =>
    rw [placesOf_add, placesOf_gate_hold, zero_add]
    exact orderly.takeTurn _
  | resumed =>
    rw [placesOf_place] at orderly
    rw [placesOf_add, placesOf_gate_hold, zero_add]
    exact orderly.settlePlace.takeTurn _
  | left =>
    rw [placesOf_place] at orderly
    exact orderly.settlePlace
  | abandoned =>
    rw [placesOf_place] at orderly
    exact orderly.abandonPlace
  | dropped =>
    rw [placesOf_hold] at orderly
    exact orderly.releaseGuard (le_refl _) _
  | kept =>
    rw [placesOf_hold] at orderly
    exact orderly
  | lent =>
    rw [placesOf_loan]
    exact orderly.releaseLock (le_refl _) _
  | recalled =>
    rw [placesOf_loan] at orderly
    rw [placesOf_debt]
    exact orderly
  | renewed =>
    rw [placesOf_debt] at orderly
    rw [placesOf_loan]
    exact orderly
  | repaid =>
    rw [placesOf_debt, placesOf_hold] at orderly
    exact orderly
  | waived =>
    rw [placesOf_loan] at orderly
    exact orderly
  | forgiven =>
    rw [placesOf_debt] at orderly
    exact orderly

/-! ## Deeds are changes -/

/-- A change that respects a scope respects a wider one. -/
theorem Change.widen {scope wider : Scope} {aspect : Aspect}
    (change : Change scope aspect before after)
    (known : ∀ future, scope.known future → wider.known future) (held : wider.held ⊆ scope.held) :
    Change wider aspect before after := by
  have knows {loop : Loop} {future : FutureId} (knows : loop.Knows scope.known future) :
      loop.Knows wider.known future := ⟨known future knows.1, knows.2⟩
  cases change with
  | surroundings => exact .surroundings _ _ _ _ _
  | held _ _ keeps => exact .held _ _ (List.Subset.trans held keeps)
  | dropped => exact .dropped _ _
  | names _ names stands =>
    exact .names _ _ fun member => (stands member).imp_right (And.imp_left fun means => means.widen known)
  | devices _ _ _ _ listed keyed lasts =>
    exact .devices _ _ _ _ (fun f member => knows (listed f member)) keyed lasts
  | made => exact .made _ _ _ _
  | resolved _ _ _ free => exact .resolved _ _ _ (known _ free)
  | registered _ _ _ apart aside => exact .registered _ _ _ apart aside
  | awaited _ _ _ tied => exact .awaited _ _ _ tied
  | taken _ _ _ free found owner => exact .taken _ _ _ (known _ free) found owner
  | emptied _ _ _ found missed free done => exact .emptied _ _ _ found missed free done
  | deserted _ _ _ found missed free waits => exact .deserted _ _ _ found missed free waits
  | called _ _ apart free asked aside own lasting =>
    exact .called _ _ apart (fun f member => knows (free f member)) asked aside own lasting
  | scheduled _ _ _ apart free asked aside own lasting =>
    exact .scheduled _ _ _ apart (fun f member => knows (free f member)) asked aside own lasting
  | disarmed _ _ named => exact .disarmed _ _ named
  | asked _ _ apart free asked aside remote lasting =>
    exact .asked _ _ apart (fun f member => knows (free f member)) asked aside remote lasting
  | connected => exact .connected _ _ _ _ _
  | released => exact .released _ _
  | turned _ _ _ _ found same listed =>
    exact .turned _ _ _ _ found same fun f member => knows (listed f member)
  | announced => exact .announced _ _ _
  | bound _ _ _ aside => exact .bound _ _ _ aside
  | retired _ _ free => exact .retired _ _ free
  | servers _ _ listed => exact .servers _ _ fun found f member => knows (listed found f member)
  | summoned => exact .summoned _ _
  | enlisted => exact .enlisted _ _ _
  | primitives _ _ _ _ _ locks semaphores events conditions stands =>
    exact .primitives _ _ _ _ _ locks semaphores events conditions stands
  | granted => exact .granted _ _ _
  | expired => exact .expired _ _
  | woken => exact .woken _ _
  | spawned _ _ _ free => exact .spawned _ _ _ (known _ free)
  | pollBegun => exact .pollBegun _ _
  | pollEnded _ _ _ tied => exact .pollEnded _ _ _ tied
  | completed => exact .completed _ _ _
  | cancelled _ _ _ found live => exact .cancelled _ _ _ found live
  | abandoned _ _ free missed => exact .abandoned _ _ free missed
  | prepared => exact .prepared _ _
  | gathered => exact .gathered _ _
  | readyTaken => exact .readyTaken _
  | stopAsked => exact .stopAsked _
  | stopped => exact .stopped _
  | flags _ _ _ idle => exact .flags _ _ _ idle
  | fitted => exact .fitted _ _ _ _
  | shut => exact .shut _
  | cleared => exact .cleared _

/-- Changes that respect a scope respect a wider one. -/
theorem Changes.widen {scope wider : Scope} (changes : Changes scope aspects before after)
    (known : ∀ future, scope.known future → wider.known future) (held : wider.held ⊆ scope.held) :
    Changes wider aspects before after := by
  refine Relation.ReflTransGen.mono ?_ before after changes
  rintro first second ⟨aspect, member, change⟩
  exact ⟨aspect, member, change.widen known held⟩

/-- A deed that changes some aspects while some objects are held is one that changes more aspects while
less is held. -/
theorem Deed.weaken {more : List Aspect} {less : List Ref} {stakes left : Multiset Stake}
    (fewer : aspects ⊆ more) (keeps : less ⊆ held) (deed : Deed held aspects stakes before left after) :
    Deed less more stakes before left after := by
  cases deed with
  | changed _ member calm early change =>
    exact .changed _ (fewer member) calm early (change.widen (fun _ free => free) keeps)
  | expired _ _ _ member => exact .expired _ _ _ (fewer member)
  | madeLock => exact .madeLock _ _
  | madeSemaphore => exact .madeSemaphore _ _ _ _
  | madeEvent => exact .madeEvent _ _
  | madeCondition _ _ _ exists_ => exact .madeCondition _ _ _ exists_
  | released => exact .released _ _ _
  | returned => exact .returned _ _ _
  | raised => exact .raised _ _ _
  | cleared => exact .cleared _ _ _
  | notified _ _ _ _ member => exact .notified _ _ _ _ (fewer member)
  | took _ _ _ member exists_ isOpen => exact .took _ _ _ (fewer member) exists_ isOpen
  | resumed _ _ _ _ member granted => exact .resumed _ _ _ _ (fewer member) granted
  | left _ _ _ _ cancelled => exact .left _ _ _ _ cancelled
  | abandoned => exact .abandoned _ _ _ _
  | dropped => exact .dropped _ _ _
  | kept => exact .kept _ _ _
  | lent _ _ _ exists_ locked => exact .lent _ _ _ exists_ locked
  | recalled => exact .recalled _ _ _
  | renewed => exact .renewed _ _ _ _
  | repaid => exact .repaid _ _ _ _
  | waived => exact .waived _ _ _
  | forgiven => exact .forgiven _ _ _ _

/-- A scope in which every future is known. -/
def openTo (held : List Ref) : Scope := ⟨fun _ => True, held⟩

/-- Every deed is made of changes. -/
theorem Deed.changes {stakes left : Multiset Stake} {all : List Aspect}
    (deed : Deed held aspects stakes before left after)
    (orderly : Orderly held (placesOf stakes) before) (more : aspects ⊆ all) (syncs : sync ⊆ all) :
    Changes (openTo held) all before after := by
  have does {α : Type} {step : WorldM α} {condition : α → World → Prop}
      (does : Does (shelter held (placesOf stakes) before) 0 sync before step condition) :
      Changes (openTo held) all before (step before).2 :=
    ((does orderly.within).1.mono syncs).widen (fun _ _ => trivial) (List.Subset.refl _)
  cases deed with
  | changed _ member calm early change =>
    exact .single (more member) (change.widen (fun _ _ => trivial) (List.Subset.refl _))
  | expired _ _ _ member => exact .single (more member) (.expired _ _)
  | madeLock => exact does Primitives.makeLock
  | madeSemaphore => exact does (Primitives.makeSemaphore _ _)
  | madeEvent => exact does Primitives.makeEvent
  | madeCondition _ _ lock exists_ => exact does (Primitives.makeCondition exists_)
  | released => exact does (Primitives.releaseLock _)
  | returned => exact does (Primitives.releaseSemaphore _)
  | raised => exact does (Primitives.raiseEvent _)
  | cleared => exact does (Primitives.setEvent _ _)
  | notified => exact does (Primitives.notify _ _)
  | took => exact does (Primitives.takeTurn _)
  | resumed _ _ gate future =>
    exact does (Does.bind (Primitives.settlePlace gate future) fun _ _ _ => Primitives.takeTurn gate)
  | left => exact does (Primitives.settlePlace _ _)
  | abandoned => exact does (Primitives.abandonPlace _ _)
  | dropped => exact does (Primitives.releaseGuard _)
  | kept | recalled | renewed | repaid | waived | forgiven => exact .refl
  | lent => exact does (Primitives.releaseLock _)

/-- What deeds put at stake exists if what was at stake before exists. -/
theorem Deed.stands {stakes left : Multiset Stake} (deed : Deed held aspects stakes before left after)
    (stands : ∀ stake ∈ stakes, stake.Stands before) : ∀ stake ∈ left, stake.Stands before := by
  have fewer {rest : Multiset Stake} {first : Stake}
      (stands : ∀ stake ∈ first ::ₘ rest, stake.Stands before) :
      ∀ stake ∈ rest, stake.Stands before :=
    fun stake member => stands stake (Multiset.mem_cons_of_mem member)
  have more {rest : Multiset Stake} {first : Stake} (exists_ : first.Stands before)
      (stands : ∀ stake ∈ rest, stake.Stands before) : ∀ stake ∈ first ::ₘ rest, stake.Stands before := by
    intro stake member
    rcases Multiset.mem_cons.mp member with rfl | member
    · exact exists_
    · exact stands stake member
  have holds {rest : Multiset Stake} {gate : Gate} (exists_ : before.HasGate gate)
      (stands : ∀ stake ∈ rest, stake.Stands before) :
      ∀ stake ∈ gate.hold + rest, stake.Stands before := by
    cases gate with
    | lock id => exact more exists_ stands
    | semaphore id => exact more exists_ stands
    | event id =>
      rw [Gate.hold, zero_add]
      exact stands
    | condition id =>
      rw [Gate.hold, zero_add]
      exact stands
  cases deed with
  | changed | expired | madeLock | madeSemaphore | madeEvent | madeCondition | released | returned
  | raised | cleared | notified => exact stands
  | took _ _ _ _ exists_ => exact holds exists_ stands
  | resumed => exact holds (stands _ (Multiset.mem_cons_self _ _)) (fewer stands)
  | left | abandoned | dropped | kept | waived | forgiven => exact fewer stands
  | lent _ _ _ exists_ => exact more exists_ stands
  | recalled =>
    have loan := stands _ (Multiset.mem_cons_self _ _)
    exact more ⟨loan, rfl⟩ (fewer stands)
  | renewed =>
    have debt := stands _ (Multiset.mem_cons_self _ _)
    exact more debt.1 (fewer stands)
  | repaid => exact fewer (fewer stands)

/-- Nothing ceases to exist by a deed. -/
theorem Deed.grows {stakes left : Multiset Stake} (deed : Deed held aspects stakes before left after)
    (orderly : Orderly held (placesOf stakes) before) : before.Grows after := by
  have changes := deed.changes orderly (List.subset_append_left _ _) (List.subset_append_right _ _)
  exact changes.grows

/-- Every deed leaves what is at stake settled. -/
theorem Deed.settled {stakes left : Multiset Stake} (deed : Deed held aspects stakes before left after)
    (settled : Settled held stakes before) : Settled held left after :=
  ⟨deed.orderly settled.orderly, fun stake member =>
    (deed.stands settled.stands stake member).grows (deed.grows settled.orderly)⟩

/-! ## Taking a place -/

/-- A caller takes a place at a gate that is shut and awaits its turn. -/
inductive Parking : Multiset Stake → World → Multiset Stake → World → Prop
  /-- The future of the place is the next one. -/
  | parked (stakes : Multiset Stake) (world : World) (gate : Gate) (timeout : Option Nat)
      (waiter : Waiter) (exists_ : world.HasGate gate)
      (shut : (isOpenGate gate world).1 = false) :
      Parking stakes world (.place gate world.loop.futures.size ::ₘ stakes)
        (await waiter ⟨world.loop.futures.size, none⟩ (park gate timeout world).2).2

namespace Parking

variable {stakes left : Multiset Stake}

/-- The future of a place that was taken exists and is pending. -/
theorem pending_park (gate : Gate) (timeout : Option Nat) (world : World) :
    world.loop.futures.size < (park gate timeout world).2.loop.futures.size ∧
      (park gate timeout world).2.loop.fate world.loop.futures.size = .pending := by
  rw [loop_park, Loop.size_makeTimed]
  exact ⟨Nat.lt_succ_self _, Loop.fate_makeTimed_new world.loop .unit world.host.kernel.now timeout⟩

/-- The wait for the future of a place that was taken is tied. -/
theorem tied_park (gate : Gate) (timeout : Option Nat) (waiter : Waiter) (world : World) :
    (park gate timeout world).2.loop.Tied waiter.waker ⟨world.loop.futures.size, none⟩ :=
  tied_none (pending_park gate timeout world).1

/-- To take a place is made of changes. -/
theorem changes {all : List Aspect} (parking : Parking stakes before left after)
    (orderly : Orderly held (placesOf stakes) before) (syncs : sync ⊆ all) :
    Changes (openTo held) all before after := by
  cases parking with
  | parked gate timeout waiter =>
    have parks := (Primitives.park gate timeout) orderly.within
    have tied := tied_park gate timeout waiter before
    have waits := (Calm.await tied).sync (parks.1.within orderly.within)
    exact ((parks.1.trans waits.1).mono syncs).widen (fun _ _ => trivial) (List.Subset.refl _)

/-- To take a place leaves what is at stake settled. -/
theorem settled (parking : Parking stakes before left after) (settled : Settled held stakes before) :
    Settled held left after := by
  have changes := parking.changes settled.orderly (List.Subset.refl _)
  cases parking with
  | parked gate timeout waiter exists_ =>
    refine ⟨?_, fun stake member => ?_⟩
    · have parked := settled.orderly.park exists_ timeout
      have tied := tied_park gate timeout waiter before
      rw [placesOf_place]
      exact (parked.changed (.awaited _ _ waiter.waker tied) Aspect.noConfusion
        Aspect.noConfusion).1
    · have grows := changes.grows
      rcases Multiset.mem_cons.mp member with rfl | member
      · exact grows.hasGate exists_
      · exact (settled.stands stake member).grows grows

end Parking

end World

end EventLoop

import EventLoop.Proofs.Sync.Acquisitions

/-!
# Locks are had in the order of arrival

A call for a lock that finds it free and nobody in its queue has the lock at once; any other one takes
the last place in the queue. A caller that was granted the lock stands before everyone else who waits. So
whoever arrives later has the lock later, whatever becomes of the others in the meantime.
-/
namespace EventLoop.World

open Script (Goal)
open Sync (Lock WaiterQueue)

variable {held : List Ref} {aspects : List Aspect} {stakes left : Multiset Stake}
variable {places : Multiset (Gate × FutureId)} {world before after : World} {gate : Gate}
variable {future first other : FutureId} {id : LockId}

/-! ## Callers that wait -/

/-- Once it is decided what became of a caller, it stays so, whatever is done. -/
theorem Deed.decided (deed : Deed held aspects stakes before left after)
    (orderly : Orderly held (placesOf stakes) before)
    (engaged : Engaged (placesOf stakes) before future)
    (decided : before.loop.fate future ≠ .pending) :
    after.loop.fate future = before.loop.fate future := by
  cases deed with
  | changed _ _ calm early change =>
    exact change.fate orderly.within calm early (fun free => free engaged) (orderly.bound engaged)
  | expired _ _ other =>
    dsimp only
    rw [Loop.fate_resolve]
    apply if_neg
    rintro ⟨rfl, pending, -⟩
    exact decided pending
  | madeLock | madeSemaphore | madeEvent | madeCondition => rfl
  | released _ _ id => exact (orderly.touches_releaseLock id).decided decided
  | returned _ _ id => exact (orderly.touches_releaseSemaphore id).decided decided
  | raised _ _ id => exact (orderly.touches_raiseEvent id).decided decided
  | cleared _ _ id => exact (Sets.setEvent id _ before).touched.decided decided
  | notified _ _ id count => exact (orderly.touches_notify id count).decided decided
  | took _ _ gate => exact (touches_takeTurn gate before).decided decided
  | resumed _ _ gate other =>
    have settles := (touches_settlePlace gate other before).decided decided
    have takes := (touches_takeTurn gate (settlePlace gate other before).2).decided
      (settles.symm ▸ decided)
    exact takes.trans settles
  | left _ _ gate other => exact (touches_settlePlace gate other before).decided decided
  | abandoned _ _ gate other =>
    have place : (gate, other) ∈ placesOf (.place gate other ::ₘ left) := by simp
    exact (orderly.touches_abandonPlace place).decided decided
  | dropped _ _ guard => exact (orderly.touches_releaseGuard guard).decided decided
  | lent _ _ id => exact (orderly.touches_releaseLock (before.lockOf id)).decided decided
  | kept | recalled | renewed | repaid | waived | forgiven => rfl

/-- Whoever waits after a deed waited before. -/
theorem Queued.of_deed (queued : Queued gate future after)
    (deed : Deed held aspects stakes before left after)
    (orderly : Orderly held (placesOf stakes) before) : Queued gate future before := by
  have member := (deed.thins orderly gate).subset queued.member
  refine ⟨member, fun cancelled => queued.live ?_⟩
  rw [Loop.cancelled_iff] at cancelled ⊢
  rw [deed.decided orderly (Or.inl ⟨gate, member⟩) (cancelled ▸ Fate.noConfusion), cancelled]

namespace Parking

/-- Where a place is taken there is one more entry at the end of a queue. -/
theorem entries (parking : Parking stakes before left after) (gate : Gate) :
    after.entries gate = before.entries gate ∨
      after.entries gate = before.entries gate ++ [before.loop.futures.size] := by
  obtain ⟨parked, loop, exists_, -, rfl, -, -⟩ := parking.form
  have sets := Sets.setQueue parked ((before.queue parked).park before.loop.futures.size) before
  by_cases same : gate = parked
  · subst same
    refine Or.inr ?_
    rw [World.entries, queue_loop, sets.present exists_]
    rfl
  · refine Or.inl ?_
    rw [World.entries, queue_loop, sets.queues same]
    rfl

/-- Whoever waits after a place was taken waited before, or has just taken it. -/
theorem queued (parking : Parking stakes before left after) (orderly : Orderly held places before)
    (queued : Queued gate future after) :
    Queued gate future before ∨ future = before.loop.futures.size := by
  have waited : future ∈ before.entries gate ∨ future = before.loop.futures.size := by
    have member := queued.member
    rcases parking.entries gate with same | added
    · rw [same] at member
      exact Or.inl member
    · rw [added, List.mem_append, List.mem_singleton] at member
      exact member
  refine waited.imp_left fun member => ⟨member, fun cancelled => queued.live ?_⟩
  obtain ⟨_, loop, -, -, rfl, old, -⟩ := parking.form
  rw [Loop.cancelled_iff] at cancelled ⊢
  exact (old future (orderly.bound (Or.inl ⟨gate, member⟩))).trans cancelled

/-- Nothing ceases to exist where a place is taken. -/
theorem grows (parking : Parking stakes before left after)
    (orderly : Orderly held (placesOf stakes) before) : before.Grows after :=
  (parking.changes orderly (List.Subset.refl _)).grows

end Parking

section Course

variable {start last : Multiset Stake × World}

/-- No deed adds an entry to a queue, and nothing ceases to exist. -/
theorem Deeds.thins (deeds : Deeds held aspects start last) (settled : Settled held start.1 start.2) :
    Thins start.2 last.2 ∧ start.2.loop.futures.size ≤ last.2.loop.futures.size := by
  induction deeds with
  | refl => exact ⟨.refl _, Nat.le_refl _⟩
  | tail earlier deed ih =>
    have orderly := (Deeds.settled earlier settled).orderly
    exact ⟨ih.1.trans (deed.thins orderly), Nat.le_trans ih.2 (deed.grows orderly).loop.futures⟩

/-- Whoever arrives at a gate stands last there, with a new future that is pending. -/
theorem Course.arrives (course : Course held aspects start last) (settled : Settled held start.1 start.2)
    (absent : future ∉ start.2.entries gate) (waits : future ∈ last.2.entries gate) :
    last.2.loop.fate future = .pending ∧ start.2.loop.futures.size ≤ future ∧ ∃ waiting,
      waiting.Sublist (start.2.entries gate) ∧ last.2.entries gate = waiting ++ [future] := by
  rcases course with deeds | ⟨middle, deeds, parking⟩
  · exact absurd (((deeds.thins settled).1 gate).subset waits) absent
  · obtain ⟨thins, size⟩ := deeds.thins settled
    have old : future ∉ middle.2.entries gate := fun there => absent ((thins gate).subset there)
    rcases parking.entries gate with same | added
    · rw [same] at waits
      exact absurd waits old
    · rw [added, List.mem_append, List.mem_singleton] at waits
      obtain rfl := waits.resolve_left old
      obtain ⟨_, _, -, -, form, -, pending⟩ := parking.form
      have pending : last.2.loop.fate middle.2.loop.futures.size = .pending := form ▸ pending
      exact ⟨pending, size, _, thins gate, added⟩

end Course

/-- A future that exists and does not belong to a caller that waits at a gate. -/
structure Spent (gate : Gate) (future : FutureId) (world : World) : Prop where
  /-- The future exists. -/
  exists_ : future < world.loop.futures.size
  /-- The caller does not wait. -/
  gone : ¬ Queued gate future world

/-! ## The law of the order -/

/-- The law of the order in which a lock is had. -/
structure Ranked (id : LockId) (world : World) : Prop where
  /-- Whoever arrived earlier has the smaller number and stands further ahead. -/
  sorted : (world.entries (.lock id)).Pairwise (· < ·)
  /-- A caller that was granted stands before everyone else who waits. -/
  leads : ∀ first ∈ world.granted (.lock id), ∀ other, Queued (.lock id) other world → first ≤ other

/-- The first one that is pending in a queue of which nobody was granted is granted when the queue is
woken, and stands before all the others. -/
theorem le_of_granted_wake {queue : WaiterQueue} {loop : Loop}
    (sorted : queue.entries.Pairwise (· < ·))
    (bound : ∀ future ∈ queue.entries, future < loop.futures.size)
    (none : grantedOf loop queue.entries = [])
    (granted : first ∈ grantedOf (loop.resolveAll (queue.wake loop.futureState 1).1
      (.finish (.ok .unit))) (queue.wake loop.futureState 1).2.entries)
    (waits : other ∈ (queue.wake loop.futureState 1).2.entries) : first ≤ other := by
  have unfinished (future : FutureId) (member : future ∈ queue.entries) :
      loop.futureState future ≠ .finished := fun finished => by
    have granted : future ∈ grantedOf loop queue.entries :=
      List.mem_filter.mpr ⟨member, beq_iff_eq.mpr finished⟩
    rw [none] at granted
    cases granted
  have pending : loop.futureState other = .pending := by
    have kept := List.mem_filter.mp waits
    cases state : loop.futureState other with
    | pending => rfl
    | finished => exact absurd state (unfinished other kept.1)
    | cancelled =>
      rw [state] at kept
      cases kept.2
  have found : (queue.wake loop.futureState 1).2.entries.find? (loop.futureState · == .pending) =
      some first := by
    have finished := beq_iff_eq.mp (List.mem_filter.mp granted).2
    rw [futureState_wake bound] at finished
    by_contra differ
    rw [if_neg differ] at finished
    exact unfinished first (List.mem_filter.mp (List.mem_filter.mp granted).1).1 finished
  obtain ⟨-, ahead, behind, split, passed⟩ := List.find?_eq_some_iff_append.mp found
  have ordered : (queue.wake loop.futureState 1).2.entries.Pairwise (· < ·) :=
    sorted.sublist List.filter_sublist
  rw [split] at ordered waits
  rcases List.mem_append.mp waits with earlier | later
  · have skipped := passed other earlier
    rw [pending] at skipped
    cases skipped
  · rcases List.mem_cons.mp later with same | later
    · exact Nat.le_of_eq same.symm
    · exact Nat.le_of_lt (List.rel_of_pairwise_cons (List.pairwise_append.mp ordered).2.1 later)

/-- Where callers only leave and no future finishes, nobody is granted. -/
theorem granted_subset (thins : Thins before after)
    (states : ∀ future ∈ before.entries gate, after.loop.futureState future = .finished →
      before.loop.futureState future = .finished) :
    after.granted gate ⊆ before.granted gate := fun future granted => by
  obtain ⟨member, finished⟩ := List.mem_filter.mp granted
  have waited := (thins gate).subset member
  exact List.mem_filter.mpr ⟨waited, beq_iff_eq.mpr (states future waited (beq_iff_eq.mp finished))⟩

/-- Where callers only leave and the loop stays as it is, nobody is granted. -/
theorem granted_subset_of_loop (thins : Thins before after) (same : after.loop = before.loop) :
    after.granted gate ⊆ before.granted gate :=
  granted_subset thins fun future _ finished => by
    rw [same] at finished
    exact finished

namespace Ranked

/-- If callers only leave and nobody is granted, the order stays. -/
theorem thinned (ranked : before.Ranked id) (thins : Thins before after)
    (waited : ∀ other, Queued (.lock id) other after → Queued (.lock id) other before)
    (fewer : after.granted (.lock id) ⊆ before.granted (.lock id)) : after.Ranked id where
  sorted := ranked.sorted.sublist (thins _)
  leads first granted other queued := ranked.leads first (fewer granted) other (waited other queued)

/-- The first caller that waits for a lock is granted, and nobody was granted before. -/
theorem woken (exists_ : world.HasGate (.lock id)) (lock : Lock) {queue : WaiterQueue}
    (same : lock.waiters = (queue.wake world.view 1).2) (sorted : queue.entries.Pairwise (· < ·))
    (bound : ∀ future ∈ queue.entries, future < world.loop.futures.size)
    (none : grantedOf world.loop queue.entries = []) :
    (grant (queue.wake world.view 1).1 (setLock id lock world).2).2.Ranked id := by
  have entries : (grant (queue.wake world.view 1).1 (setLock id lock world).2).2.entries (.lock id) =
      (queue.wake world.view 1).2.entries := by
    rw [grant_eq, World.entries, queue_loop, (Sets.setLock id lock world).present exists_, same]
  refine ⟨?_, fun first granted other queued => ?_⟩
  · rw [entries]
    exact sorted.sublist List.filter_sublist
  · have member := queued.member
    rw [World.granted, entries, grant_eq] at granted
    rw [entries] at member
    exact le_of_granted_wake sorted bound none granted member

/-- A caller is gone before it resumed; its grant passes to the next one. -/
theorem abandoned (ranked : before.Ranked id) (exclusive : before.Exclusive id)
    (bound : ∀ future ∈ before.entries (.lock id), future < before.loop.futures.size)
    (known : future < before.loop.futures.size)
    (waits : future ∈ before.entries (.lock id) ∨ before.loop.fate future = .cancelled)
    (thins : Thins before (abandonPlace (.lock id) future before).2)
    (waited : ∀ other, Queued (.lock id) other (abandonPlace (.lock id) future before).2 →
      Queued (.lock id) other before) :
    (abandonPlace (.lock id) future before).2.Ranked id := by
  by_cases finished : before.view future = .finished
  · have here := mem_of_finished waits finished
    -- The caller is the only one that was granted.
    have none : grantedOf before.loop ((before.entries (.lock id)).erase future) = [] := by
      refine List.eq_nil_of_length_eq_zero (Nat.le_zero.mp (Nat.le_of_succ_le_succ ?_))
      exact (length_grantedOf_erase here finished).trans_le
        (Nat.le_trans (Nat.le_add_right _ _) exclusive.single)
    have sublist : ((before.queue (.lock id)).remove future).entries.Sublist
        (before.entries (.lock id)) := List.erase_sublist
    have handoff : (before.queue (.lock id)).handoff = true := exclusive.handoff
    rw [abandonPlace_of_finished handoff finished]
    exact woken (hasGate_of_mem here) { (lockAt id before).1 with
        waiters := (((before.queue (.lock id)).remove future).wake before.view 1).2 } rfl
      (ranked.sorted.sublist sublist) (fun other member => bound other (sublist.subset member)) none
  · refine ranked.thinned thins waited (granted_subset thins fun other _ resolved => ?_)
    rw [abandonPlace_of_unfinished finished, cancelAll_eq] at resolved
    dsimp only at resolved
    rw [(Sets.setQueue _ _ before).loop, futureState_resolveAll _ (by decide)
      fun other member => List.mem_singleton.mp member ▸ known] at resolved
    split at resolved
    · cases resolved
    · exact resolved

/-- Whatever may happen to a lock keeps the order. -/
theorem turnover (ranked : before.Ranked id) (exclusive : before.Exclusive id)
    (orderly : Orderly held places before) (turnover : Turnover (.lock id) before after)
    (thins : Thins before after)
    (waited : ∀ other, Queued (.lock id) other after → Queued (.lock id) other before) :
    after.Ranked id := by
  have bound (future : FutureId) (waits : future ∈ before.entries (.lock id)) :
      future < before.loop.futures.size := orderly.bound (Or.inl ⟨.lock id, waits⟩)
  cases turnover with
  | made _ _ last => cases last
  | released =>
    change (releaseLock id before).2.Ranked id
    rw [releaseLock_eq]
    by_cases locked : (lockAt id before).1.locked = true
    · rw [if_pos locked]
      exact woken (Exclusive.hasGate_of_locked locked) _ rfl ranked.sorted bound
        (List.eq_nil_of_length_eq_zero (exclusive.none_of_locked locked))
    · rw [if_neg locked]
      exact ranked
  | took => exact ranked.thinned thins waited (granted_subset_of_loop thins rfl)
  | resumed future =>
    refine ranked.thinned thins waited (granted_subset_of_loop thins ?_)
    change (settlePlace (.lock id) future before).2.loop = before.loop
    rw [settlePlace_eq]
    exact (Sets.setQueue _ _ before).loop
  | left future =>
    refine ranked.thinned thins waited (granted_subset_of_loop thins ?_)
    rw [settlePlace_eq]
    exact (Sets.setQueue _ _ before).loop
  | abandoned future known waits =>
    exact ranked.abandoned exclusive bound known waits thins waited

/-- Whoever arrives stands behind everyone who waits. -/
theorem parked (ranked : before.Ranked id) (orderly : Orderly held places before)
    (parking : Parking stakes before left after) : after.Ranked id := by
  have bound (future : FutureId) (waits : future ∈ before.entries (.lock id)) :
      future < before.loop.futures.size := orderly.bound (Or.inl ⟨.lock id, waits⟩)
  refine ⟨?_, fun first granted other queued => ?_⟩
  · rcases parking.entries (.lock id) with same | added
    · rw [same]
      exact ranked.sorted
    · rw [added, List.pairwise_append]
      refine ⟨ranked.sorted, List.pairwise_singleton _ _, fun future member last new => ?_⟩
      rw [List.mem_singleton.mp new]
      exact bound future member
  · rw [parking.granted orderly] at granted
    rcases parking.queued orderly queued with waited | new
    · exact ranked.leads first granted other waited
    · rw [new]
      exact Nat.le_of_lt (bound first (List.mem_filter.mp granted).1)

end Ranked

/-! ## What comes of calls -/

/-- A caller that gives its place up leaves the others in their queues. -/
theorem mem_awaitPlace {waiter : Waiter} {wait : Wait} {queue : Gate} {answer : Bool}
    {reached : World} (answered : awaitPlace waiter gate wait world = (.ok answer, reached))
    (waits : future ∈ world.entries queue) (apart : queue = gate → future ≠ wait.future) :
    future ∈ reached.entries queue := by
  unfold awaitPlace at answered
  rw [StateM.bind_apply] at answered
  have same : (await waiter wait world).2.queue = world.queue := queue_loop world _
  generalize await waiter wait world = result at answered same
  obtain ⟨after | outcome, middle⟩ := result
  · cases answered
  · have form : ∃ loop, reached = { (settlePlace gate wait.future middle).2 with loop } := by
      cases answered
      exact ⟨_, rfl⟩
    have waits : future ∈ middle.entries queue := by
      rw [World.entries, same]
      exact waits
    obtain ⟨loop, rfl⟩ := form
    rw [World.entries, queue_loop, settlePlace_eq]
    have sets := Sets.setQueue gate ((middle.queue gate).remove wait.future) middle
    by_cases here : queue = gate
    · subst here
      exact sets.mem_entries (hasGate_of_mem waits) ((List.mem_erase_of_ne (apart rfl)).mpr waits)
    · rw [sets.queues here]
      exact waits

/-- A caller that goes on without its turn has given its place up and nothing else. -/
theorem awaitPlace_of_refused {waiter : Waiter} {wait : Wait} {reached : World}
    (refused : awaitTurn waiter gate wait world = (.ok false, reached)) :
    awaitPlace waiter gate wait world = (.ok false, reached) := by
  unfold awaitTurn at refused
  rw [StateM.bind_apply] at refused
  generalize awaitPlace waiter gate wait world = result at refused ⊢
  obtain ⟨after | granted, middle⟩ := result
  · cases refused
  · cases granted <;> cases refused
    rfl

/-- Nobody stands in the queue of a lock that a caller has at once. -/
theorem entries_of_beginTurn {waiter : Waiter} {timeout : Option Nat}
    (turn : (beginTurn waiter (.lock id) timeout world).1 = .ok true) :
    world.entries (.lock id) = [] := by
  cases isOpen : (isOpenGate (.lock id) world).1 with
  | false =>
    obtain ⟨⟨after, waits⟩, -⟩ := beginTurn_of_shut waiter timeout isOpen
    rw [waits] at turn
    cases turn
  | true =>
    have free : ((lockAt id world).1.waiters.isEmpty && !(lockAt id world).1.locked) = true := isOpen
    rw [Bool.and_eq_true] at free
    exact List.isEmpty_iff.mp free.1

end EventLoop.World

namespace EventLoop.Machine

open Script (Instruction Pending Goal)
open World (Queued Ranked Spent)

variable {machine before after : Machine} {id : LockId} {gate : Gate} {future first second : FutureId}

/-! ## The order in every state of every run -/

/-- The law of the order lasts, together with the law that locks exclude each other's holders. -/
theorem lasting_ranked (id : LockId) :
    Lasting fun world => world.Exclusive id ∧ world.Ranked id where
  bare isBare := by
    refine ⟨(lasting_exclusive id).bare isBare, ?_⟩
    cases isBare
    exact ⟨List.Pairwise.nil, fun _ granted => nomatch granted⟩
  deed deed settled holds := by
    obtain ⟨exclusive, ranked⟩ := holds
    have orderly := settled.orderly
    have thins := deed.thins orderly
    have waited (other) (queued : Queued (.lock id) other _) := queued.of_deed deed orderly
    refine ⟨(lasting_exclusive id).deed deed settled exclusive, ?_⟩
    rcases deed.turnover settled (.lock id) with turnover | same
    · exact ranked.turnover exclusive orderly turnover thins waited
    · exact ranked.thinned thins waited (same.granted ▸ List.Subset.refl _)
  parking parking settled holds :=
    ⟨holds.1.parked settled.orderly parking, holds.2.parked settled.orderly parking⟩

/-- A future that exists goes on to exist. -/
theorem persists_exists (future : FutureId) :
    Persists fun _ world => future < world.loop.futures.size where
  deed deed settled holds := Nat.lt_of_lt_of_le holds (deed.grows settled.orderly).loop.futures
  parking parking settled holds :=
    Nat.lt_of_lt_of_le holds (parking.grows settled.orderly).loop.futures

/-- A caller that does not wait any more never waits again. -/
theorem persists_spent (gate : Gate) (future : FutureId) :
    Persists fun _ world => world.Spent gate future where
  deed deed settled holds :=
    ⟨(persists_exists future).deed deed settled holds.exists_,
      fun queued => holds.gone (queued.of_deed deed settled.orderly)⟩
  parking parking settled holds := by
    refine ⟨(persists_exists future).parking parking settled holds.exists_, fun queued => ?_⟩
    rcases parking.queued settled.orderly queued with waited | new
    · exact holds.gone waited
    · exact Nat.ne_of_lt holds.exists_ new

/-- The world in which a machine makes a move has the queues of the machine. -/
theorem entries_holding (machine : Machine) (gate : Gate) :
    machine.holding.entries gate = machine.world.entries gate := by
  have queues : machine.holding.queue = machine.world.queue := World.queue_congr rfl rfl rfl rfl
  rw [World.entries, queues]
  rfl

/-! ## Calls for a lock -/

/-- The states that later steps of a run lead to. -/
abbrev Later : Machine → Machine → Prop := Onward fun _ => True

/-- In a step, a call for a lock takes a place in the queue. -/
structure Arrives (id : LockId) (future : FutureId) (before after : Machine) : Prop where
  /-- It is a step of the run. -/
  step : Step before after
  /-- The call had no place before. -/
  absent : future ∉ before.world.entries (.lock id)
  /-- It has one then. -/
  waits : future ∈ after.world.entries (.lock id)

/-- Whoever goes on with a lock was granted it. -/
theorem Acquires.mem_granted (acquires : Acquires id future machine) (reachable : machine.Reachable) :
    future ∈ machine.world.granted (.lock id) := by
  have sound := Reachable.sound reachable
  have orderly := sound.settled.orderly
  cases acquires with
  | @granted task pending wait clean polled awaits same turn =>
    subst same
    have place := mem_placesOf (stakes_of_retry polled awaits.place_mem)
    have sound : machine.holding.loop.fate wait.future ≠ .failed := orderly.sound (Or.inr ⟨_, place⟩)
    have granted : machine.holding.loop.fate wait.future = .granted := World.fate_of_answer sound turn
    have fate : machine.world.loop.fate wait.future = .granted := granted
    have waits : wait.future ∈ machine.world.entries (.lock id) := by
      refine (orderly.placed place).resolve_right fun cancelled => ?_
      rw [fate] at cancelled
      cases cancelled
    refine List.mem_filter.mpr ⟨waits, ?_⟩
    rw [Loop.futureState_eq, fate]
    rfl

/-- A caller that was granted waits until it goes on. -/
theorem queued_of_granted (granted : future ∈ machine.world.granted gate) :
    Queued gate future machine.world := by
  obtain ⟨member, finished⟩ := List.mem_filter.mp granted
  refine ⟨member, ?_⟩
  rw [beq_iff_eq.mp finished]
  exact FutureState.noConfusion

/-- Nobody waits for a lock that a caller has at once. -/
theorem AcquiresAtOnce.none (acquires : AcquiresAtOnce id machine) (reachable : machine.Reachable)
    (future : FutureId) : ¬ Queued (.lock id) future machine.world := by
  intro queued
  have orderly := (Reachable.sound reachable).settled.orderly
  have waits : future ∈ machine.holding.entries (.lock id) :=
    (machine.entries_holding (.lock id)).symm ▸ queued.member
  cases acquires with
  | begins clean runs asks turn =>
    have empty : machine.holding.entries (.lock id) = [] := World.entries_of_beginTurn turn
    rw [empty] at waits
    cases waits
  | notified clean polled answered lock turn =>
    have stays := World.mem_awaitPlace answered waits Gate.noConfusion
    rw [World.entries_of_beginTurn turn] at stays
    cases stays
  | @again task condition old wait notified goal reached clean polled refused lock turn =>
    have awaits : AwaitsLock old _ wait := .relock condition wait notified goal
    have place := mem_placesOf (stakes_of_retry polled awaits.place_mem)
    have sound : machine.holding.loop.fate wait.future ≠ .failed := orderly.sound (Or.inr ⟨_, place⟩)
    have cancelled : machine.holding.loop.fate wait.future = .cancelled :=
      World.fate_of_answer sound (congrArg Prod.fst refused)
    have apart : future ≠ wait.future := by
      rintro rfl
      exact queued.live (Loop.cancelled_iff.mpr cancelled)
    have stays := World.mem_awaitPlace (World.awaitPlace_of_refused refused) waits fun _ => apart
    rw [World.entries_of_beginTurn turn] at stays
    cases stays

/-- Whoever arrives stands last in the queue, with a new future. -/
theorem Arrives.last (arrives : Arrives id future before after) (reachable : before.Reachable) :
    before.world.loop.futures.size ≤ future ∧ ∃ waiting,
      waiting.Sublist (before.world.entries (.lock id)) ∧
        after.world.entries (.lock id) = waiting ++ [future] := by
  obtain ⟨aspects, passes⟩ := reachable.passes arrives.step
  exact (World.Course.arrives passes (Reachable.sound reachable).settled arrives.absent arrives.waits).2

/-- The future of whoever has arrived exists. -/
theorem Arrives.exists_ (arrives : Arrives id future before after) (reachable : before.Reachable) :
    future < after.world.loop.futures.size := by
  have reached : after.Reachable := .step reachable arrives.step trivial
  exact (Reachable.sound reached).settled.orderly.bound (Or.inl ⟨_, arrives.waits⟩)

/-- Whoever does not wait for a lock any more never goes on with it. -/
theorem spent_of_gone (reachable : machine.Reachable) (exists_ : future < machine.world.loop.futures.size)
    (gone : ¬ Queued (.lock id) future machine.world) (later : Later machine after) :
    ¬ Acquires id future after := by
  intro acquires
  have spent := (persists_spent (.lock id) future).onward reachable later ⟨exists_, gone⟩
  exact spent.gone (queued_of_granted (acquires.mem_granted (Visits.onward reachable later)))

/-- A lock is had in the order in which the calls for it arrive. -/
structure ServesInOrder (id : LockId) (machine : Machine) : Prop where
  /-- Whoever arrives stands last in the queue; the others keep their order. -/
  arrives : ∀ {future after}, Arrives id future machine after → ∃ waiting,
    waiting.Sublist (machine.world.entries (.lock id)) ∧
      after.world.entries (.lock id) = waiting ++ [future]
  /-- Whoever goes on with the lock has taken it once, be it after a wait or at once. -/
  takes : ∀ {after}, (∃ future, Acquires id future machine) ∨ AcquiresAtOnce id machine →
    Step machine after → (World.lockAt id after.world).1.taken =
      (World.lockAt id machine.world).1.taken + 1
  /-- Whenever the lock is taken, someone goes on with it. -/
  taken : ∀ {after}, Step machine after →
    (World.lockAt id after.world).1.taken ≠ (World.lockAt id machine.world).1.taken →
    (∃ future, Acquires id future machine) ∨ AcquiresAtOnce id machine
  /-- Whoever goes on with the lock after a wait is the only one that was granted. -/
  granted : ∀ {future}, Acquires id future machine → machine.world.granted (.lock id) = [future]
  /-- Of two calls that arrive, the one that arrived first has ceased to wait when the other one goes on with
  the lock, and does not go on with the lock after that. -/
  order : ∀ {first second after later next acquiring}, Arrives id first machine after →
    Later after later → Arrives id second later next → Later next acquiring →
    Acquires id second acquiring → ¬ Queued (.lock id) first acquiring.world ∧
      ∀ {last}, Later acquiring last → ¬ Acquires id first last
  /-- When a call has the lock at once, nobody waits for it. -/
  atOnce : AcquiresAtOnce id machine → ∀ future, ¬ Queued (.lock id) future machine.world
  /-- Whoever arrived before that does not go on with the lock after it. -/
  overtakes : ∀ {future after acquiring last}, Arrives id future machine after →
    Later after acquiring → AcquiresAtOnce id acquiring → Later acquiring last →
    ¬ Acquires id future last

/-- In every run, every lock is had in the order in which the calls for it arrive. -/
theorem servesInOrder (reachable : machine.Reachable) (id : LockId) : machine.ServesInOrder id := by
  refine ⟨fun arrives => (arrives.last reachable).2, fun acquires step => ?_,
    fun step taken => (reachable.taken_or step id).resolve_left taken, fun acquires => ?_, ?_,
    fun acquires future => acquires.none reachable future, ?_⟩
  · rcases acquires with ⟨future, acquires⟩ | acquires
    · exact acquires.takes reachable step
    · exact acquires.takes reachable step
  · have exclusive := ((lasting_ranked id).reachable reachable).1
    exact World.eq_singleton_of_mem (Nat.le_trans (Nat.le_add_right _ _) exclusive.single)
      (acquires.mem_granted reachable)
  · intro first second after later next acquiring arrives meanwhile follows onward acquires
    have reached : after.Reachable := .step reachable arrives.step trivial
    have met : later.Reachable := Visits.onward reached meanwhile
    have joined : next.Reachable := .step met follows.step trivial
    have served : acquiring.Reachable := Visits.onward joined onward
    -- The numbers of the futures tell who arrived first.
    have known : first < later.world.loop.futures.size :=
      (persists_exists first).onward reached meanwhile (arrives.exists_ reachable)
    have before : first < second := Nat.lt_of_lt_of_le known (follows.last met).1
    have exists_ : first < acquiring.world.loop.futures.size :=
      (persists_exists first).onward joined onward
        (Nat.lt_trans before (follows.exists_ met))
    have gone : ¬ Queued (.lock id) first acquiring.world := fun queued =>
      Nat.not_le_of_lt before (((lasting_ranked id).reachable served).2.leads second
        (acquires.mem_granted served) first queued)
    exact ⟨gone, fun onward => spent_of_gone served exists_ gone onward⟩
  · intro future after acquiring last arrives onward acquires further
    have reached : after.Reachable := .step reachable arrives.step trivial
    have served : acquiring.Reachable := Visits.onward reached onward
    have exists_ : future < acquiring.world.loop.futures.size :=
      (persists_exists future).onward reached onward (arrives.exists_ reachable)
    exact spent_of_gone served exists_ (acquires.none served future) further

/-- One task is to take a lock, and two others ask for it after that. -/
def crowd : Machine := scripted.drive (fun _ => true) 40
  [.sync (.makeLock "l"), .spawn "holder" [.wait (.lock "l" none)],
    .spawn "first" [.wait (.lock "l" none)], .spawn "second" [.wait (.lock "l" none)]]

/-- The first one of the others is about to arrive. -/
def arriving : Machine := crowd.drive (fun _ => true) 16 [.runOnce 1]

/-- It has arrived. -/
def arrived : Machine := arriving.runWithin (fun _ => true) 1

/-- The second one is about to arrive. -/
def following : Machine := arrived.runWithin (fun _ => true) 7

/-- It has arrived. -/
def followed : Machine := following.runWithin (fun _ => true) 1

/-- The lock was released twice, and the second one is about to go on with it. -/
def passedOn : Machine := ((followed.runWithin (fun _ => true) 40).drive (fun _ => true) 40
  [.sync (.releaseLock "l"), .runOnce 2, .sync (.releaseLock "l")]).drive (fun _ => true) 9 [.runOnce 2]

/-- A machine that moves comes to a later state. -/
theorem later_runWithin (moves : Nat) (machine : Machine) :
    Later machine (machine.runWithin (fun _ => true) moves) :=
  (onward_runWithin _ moves machine).mono fun _ _ => trivial

/-- A machine that is driven comes to a later state. -/
theorem later_drive (moves : Nat) (machine : Machine) (instructions : List Instruction) :
    Later machine (machine.drive (fun _ => true) moves instructions) :=
  (onward_drive _ moves machine instructions).mono fun _ _ => trivial

/-- One move is a step. -/
theorem step_runWithin (moves : machine.next.isSome = true) :
    Step machine (machine.runWithin (fun _ => true) 1) := by
  obtain ⟨after, next⟩ := Option.isSome_iff_exists.mp moves
  unfold runWithin
  rw [next]
  exact .moved next

/-- The moves of a machine are the steps of a run as long as it does not halt. -/
theorem steps_runWithin {moves : Nat} {machine : Machine}
    (goes : (machine.runWithin (fun _ => true) moves).next.isSome = true) :
    ∀ number ≤ moves, Step (machine.runWithin (fun _ => true) number)
      (machine.runWithin (fun _ => true) (number + 1)) := by
  induction moves generalizing machine with
  | zero =>
    intro number few
    rw [Nat.le_zero.mp few]
    exact step_runWithin goes
  | succ moves ih =>
    intro number few
    cases next : machine.next with
    | none =>
      unfold runWithin at goes
      simp only [next] at goes
      cases goes
    | some after =>
      have first (number : Nat) : machine.runWithin (fun _ => true) (number + 1) =
          after.runWithin (fun _ => true) number := by
        rw [runWithin, next]
        rfl
      rw [first] at goes ⊢
      cases number with
      | zero => exact .moved next
      | succ number =>
        rw [first]
        exact ih goes number (Nat.le_of_succ_le_succ few)

/-- Whether a caller that waits for the first lock is about to go on with it. -/
def goesOn (future : FutureId) (machine : Machine) : Bool :=
  match machine.signal with
  | .retry task (.leaf (.turn (.lock 0) wait)) =>
    machine.world.loop.dropped.isEmpty && wait.future == future &&
      World.hasTurn (machine.inWorld (World.awaitTurn (machine.waiter task) (.lock 0) wait)).1
  | _ => false

/-- Whoever goes on with its turn acquires it then. -/
theorem acquires_of_goesOn (goesOn : machine.goesOn future = true) : Acquires 0 future machine := by
  unfold Machine.goesOn at goesOn
  split at goesOn
  · rename_i task wait polled
    rw [Bool.and_eq_true, Bool.and_eq_true, beq_iff_eq] at goesOn
    obtain ⟨⟨clean, same⟩, turn⟩ := goesOn
    refine .granted (List.isEmpty_iff.mp clean) polled (.turn wait) same ?_
    cases answer : (machine.inWorld (World.awaitTurn (machine.waiter task) (.lock 0) wait)).1 with
    | error =>
      rw [answer] at turn
      cases turn
    | ok granted =>
      rw [answer] at turn
      exact congrArg Except.ok turn
  · cases goesOn

/-- When the second one goes on with the lock, the first one has had it and will not have it any more. -/
theorem servesInOrder_passedOn : Acquires 0 5 passedOn ∧ ¬ Queued (.lock 0) 4 passedOn.world ∧
    ∀ {last}, Later passedOn last → ¬ Acquires 0 4 last := by
  have reachable : arriving.Reachable := Visits.onward (reachable_drive 40 _) (later_drive 16 _ _)
  have serves : arriving.ServesInOrder 0 := servesInOrder reachable 0
  have comes : arriving.next.isSome = true ∧ 4 ∉ arriving.world.entries (.lock 0) ∧
      4 ∈ arrived.world.entries (.lock 0) := by decide +kernel
  have follows : following.next.isSome = true ∧ 5 ∉ following.world.entries (.lock 0) ∧
      5 ∈ followed.world.entries (.lock 0) := by decide +kernel
  have goesOn : passedOn.goesOn 5 = true := by decide +kernel
  have acquires := acquires_of_goesOn goesOn
  have first : Arrives 0 4 arriving arrived := ⟨step_runWithin comes.1, comes.2.1, comes.2.2⟩
  have second : Arrives 0 5 following followed := ⟨step_runWithin follows.1, follows.2.1, follows.2.2⟩
  have meanwhile : Later followed passedOn :=
    ((later_runWithin 40 _).trans (later_drive 40 _ _)).trans (later_drive 9 _ _)
  exact ⟨acquires, serves.order first (later_runWithin 7 _) second meanwhile acquires⟩

end EventLoop.Machine

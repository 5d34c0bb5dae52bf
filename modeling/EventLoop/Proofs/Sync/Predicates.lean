import EventLoop.Proofs.Machine.Leaves
import EventLoop.Proofs.Machine.Wakeups

/-!
# Waiting until a predicate holds

A caller that waits until a predicate holds waits to be notified, like any other, and evaluates the predicate
each time it has taken the lock of the condition again. It does so until the predicate holds or its deadline is
reached; no single wait is to last longer than that. As it stops when the predicate holds, all that it sees of
a predicate is how often that did not hold before.
-/
namespace EventLoop

open Script (Leaf Goal Predicate Station)

namespace Script

/-- A wait for a condition with another goal. -/
def Leaf.aimed (goal : Goal) : Leaf → Leaf
  | .notice id wait _ => .notice id wait goal
  | .relock id lock wait notified _ => .relock id lock wait notified goal
  | leaf => leaf

end Script

namespace World

variable {α β : Type} {world : World} {waiter : Waiter} {id : ConditionId} {gate : Gate} {wait : Wait}
variable {leaf : Leaf} {deadline : Option Nat} {predicate : Predicate}

/-! ## Waiting without a word -/

/-- A step leaves the host alone: no time passes, and nothing is written down. -/
def Mute (step : WorldM α) : Prop := ∀ world, (step world).2.host = world.host

namespace Mute

/-- Doing nothing writes nothing down. -/
theorem pure (value : α) : Mute (pure value) := fun _ => rfl

/-- A step that goes on writes nothing down, if neither of its parts does. -/
theorem bind {step : WorldM α} {next : α → WorldM β} (mute : Mute step) (rest : ∀ value, Mute (next value)) :
    Mute (step >>= next) := fun world => (rest _ _).trans (mute world)

/-- Changing the queue of a gate writes nothing down. -/
theorem setQueue (gate : Gate) (queue : Sync.WaiterQueue) : Mute (World.setQueue gate queue) := by
  intro world
  cases gate <;> rfl

/-- Removing a caller from its queue writes nothing down. -/
theorem settlePlace (gate : Gate) (future : FutureId) : Mute (World.settlePlace gate future) := by
  intro world
  rw [settlePlace_eq]
  exact setQueue _ _ world

/-- Parking a caller writes nothing down. -/
theorem park (gate : Gate) (timeout : Option Nat) : Mute (World.park gate timeout) := by
  intro world
  rw [park_eq]
  exact setQueue gate _ { world with loop := (world.loop.makeTimed .unit world.host.kernel.now timeout).2 }

/-- Taking a turn writes nothing down. -/
theorem takeTurn (gate : Gate) : Mute (World.takeTurn gate) := by
  intro world
  cases gate <;> rfl

/-- Releasing a lock writes nothing down. -/
theorem releaseLock (lock : LockId) : Mute (World.releaseLock lock) := by
  intro world
  rw [releaseLock_eq, grant_eq]
  split <;> rfl

/-- Awaiting a future writes nothing down. -/
theorem await (waiter : Waiter) (wait : Wait) : Mute (World.await waiter wait) := fun _ => rfl

/-- Waiting for one's turn writes nothing down. -/
theorem awaitTurn (waiter : Waiter) (gate : Gate) (wait : Wait) : Mute (World.awaitTurn waiter gate wait) := by
  refine bind (bind (await waiter wait) fun answer => ?_) fun answer => ?_
  · cases answer with
    | error after => exact pure _
    | ok outcome => exact bind (settlePlace gate wait.future) fun _ => bind (fun _ => rfl) fun _ => pure _
  · cases answer with
    | error after => exact pure _
    | ok granted =>
      cases granted with
      | false => exact pure _
      | true => exact bind (takeTurn gate) fun _ => pure _

/-- Asking for a turn writes nothing down. -/
theorem beginTurn (waiter : Waiter) (gate : Gate) (timeout : Option Nat) :
    Mute (World.beginTurn waiter gate timeout) := by
  have asks : Mute (isOpenGate gate) := fun world => by rw [isOpenGate_same]
  refine bind asks fun isOpen => ?_
  cases isOpen with
  | true => exact bind (takeTurn gate) fun _ => pure _
  | false => exact bind (park gate timeout) fun _ => awaitTurn waiter gate _

/-- Taking the lock of a condition again writes nothing down, unless there is a predicate to ask. -/
theorem relock (waiter : Waiter) (id : ConditionId) (notified : Bool) :
    Mute (World.relock waiter id notified .notification) := by
  refine bind (fun _ => rfl) fun condition => bind (beginTurn waiter _ none) fun answer => ?_
  cases answer <;> exact pure _

/-- A caller that waits for a condition leaves the host alone when it is polled. -/
theorem tryLeaf (awaits : AwaitsCondition id .notification leaf gate wait) (waiter : Waiter) :
    Mute (World.tryLeaf waiter leaf) := by
  intro world
  cases awaits with
  | notice =>
    have waits := awaitTurn waiter (.condition id) wait world
    rw [tryLeaf_notice, awaitPlace_condition]
    generalize World.awaitTurn waiter (.condition id) wait world = answer at waits ⊢
    rcases answer with ⟨after | notified, reached⟩
    · exact waits
    · exact (relock waiter id notified reached).trans waits
  | relock lock wait notified =>
    have waits := awaitTurn waiter (.lock lock) wait world
    rw [tryLeaf_relock]
    generalize World.awaitTurn waiter (.lock lock) wait world = answer at waits ⊢
    rcases answer with ⟨after | turn, reached⟩
    · exact waits
    · cases turn with
      | true => exact waits
      | false => exact (relock waiter id notified reached).trans waits

/-- A caller that begins to wait for a condition leaves the host alone. -/
theorem beginNotice (waiter : Waiter) (id : ConditionId) (timeout : Option Nat) (goal : Goal) :
    Mute (World.beginNotice waiter id timeout goal) := by
  refine bind (fun _ => rfl) fun condition => bind (fun _ => rfl) fun locked => ?_
  cases locked with
  | false => exact pure _
  | true =>
    refine bind (releaseLock _) fun _ => bind (park _ timeout) fun _ => bind (await waiter _) fun answer => ?_
    cases answer <;> exact pure _

end Mute

/-! ## Waiting with another goal -/

/-- A caller that waits for a condition waits in the same way whatever its goal is. -/
theorem AwaitsCondition.aimed {goal : Goal} (awaits : AwaitsCondition id goal leaf gate wait) (other : Goal) :
    AwaitsCondition id other (leaf.aimed other) gate wait := by
  cases awaits with
  | notice => exact .notice wait
  | relock lock wait notified => exact .relock lock wait notified

/-- A caller that waits until a predicate holds takes the lock as one that was notified, and seeks the predicate
to hold then. -/
theorem relock_predicate (waiter : Waiter) (id : ConditionId) (notified : Bool) (deadline : Option Nat)
    (predicate : Predicate) (world : World) : relock waiter id notified (.predicate deadline predicate) world =
      match relock waiter id notified .notification world with
      | (.error next, reached) => (.error (next.aimed (.predicate deadline predicate)), reached)
      | (.ok _, reached) => seek waiter id deadline predicate reached := by
  rw [relock_eq, relock_eq]
  generalize beginTurn waiter (.lock (world.lockOf id)) none world = answer
  rcases answer with ⟨after | granted, reached⟩ <;> rfl

/-- A caller that waits until a predicate holds waits as one that is only to be notified, and seeks the
predicate to hold when that is over. -/
theorem tryLeaf_predicate (waiter : Waiter)
    (awaits : AwaitsCondition id (.predicate deadline predicate) leaf gate wait) (world : World) :
    tryLeaf waiter leaf world =
      match tryLeaf waiter (leaf.aimed .notification) world with
      | (.error next, reached) => (.error (next.aimed (.predicate deadline predicate)), reached)
      | (.ok _, reached) => seek waiter id deadline predicate reached := by
  cases awaits with
  | notice =>
    rw [Leaf.aimed, tryLeaf_notice, tryLeaf_notice]
    generalize awaitPlace waiter (.condition id) wait world = answer
    rcases answer with ⟨after | notified, reached⟩
    · rfl
    · exact relock_predicate waiter id notified deadline predicate reached
  | relock lock wait notified =>
    rw [Leaf.aimed, tryLeaf_relock, tryLeaf_relock]
    generalize awaitTurn waiter (.lock lock) wait world = answer
    rcases answer with ⟨after | turn, reached⟩
    · rfl
    · cases turn with
      | true => rfl
      | false => exact relock_predicate waiter id notified deadline predicate reached

/-! ## Evaluating a predicate -/

/-- A caller evaluates its predicate once while a lock is held. -/
structure Evaluates (waiter : Waiter) (lock : LockId) (predicate : Predicate) (told : Bool)
    (later : Predicate) (before after : World) : Prop where
  /-- The lock is held. -/
  locked : (lockAt lock before).1.locked = true
  /-- The predicate is asked, and is another one then. -/
  asked : ask waiter predicate before = ((told, later), after)
  /-- One line is written down about it. -/
  noted : after.host.journal = before.host.journal.record before.host.kernel.now
    (Actor.task waiter.name).text "pred" (.bool told)
  /-- No time passes. -/
  instant : after.host.kernel = before.host.kernel
  /-- The locks stay as they are. -/
  kept : Requeued before after

/-- Whoever asks a predicate while a lock is held evaluates it. -/
theorem evaluates_ask {lock : LockId} (locked : (lockAt lock world).1.locked = true) (waiter : Waiter)
    (predicate : Predicate) : Evaluates waiter lock predicate (ask waiter predicate world).1.1
      (ask waiter predicate world).1.2 world (ask waiter predicate world).2 := by
  refine ⟨locked, rfl, ?_, ?_, requeued_ask waiter predicate world⟩
  · cases predicate <;> rfl
  · cases predicate <;> rfl

/-- Whatever a predicate answers that keeps a state of its own until it holds for the first time, one that counts
how often it was asked answers the same. -/
theorem exists_asked (answers : Nat → Bool) {last : Nat} (unheld : ∀ number < last, answers number = false) :
    ∃ needed, ∀ number ≤ last, ∀ waiter world,
      (ask waiter (.asked needed number) world).1 = (answers number, .asked needed (number + 1)) := by
  refine ⟨if answers last then last + 1 else last + 2, fun number few waiter world => ?_⟩
  have asked (needed : Nat) : (ask waiter (.asked needed number) world).1 =
      (decide (needed ≤ number + 1), .asked needed (number + 1)) := rfl
  rw [asked, Prod.mk.injEq]
  refine ⟨?_, rfl⟩
  rcases Nat.lt_or_eq_of_le few with earlier | rfl
  · rw [unheld number earlier, decide_eq_false_iff_not]
    split <;> omega
  · cases held : answers number <;> simp

/-- A predicate was evaluated for the last time: its value is what the caller is told, which holds the lock still,
and unless the predicate holds the deadline is reached. -/
structure Settles (waiter : Waiter) (lock : LockId) (deadline : Option Nat) (predicate : Predicate)
    (told : Bool) (before after : World) : Prop where
  /-- It is evaluated. -/
  evaluates : ∃ later, Evaluates waiter lock predicate told later before after
  /-- The deadline is reached, unless it holds. -/
  late : told = false → ∃ due, deadline = some due ∧ due ≤ after.host.kernel.now
  /-- The lock is held still. -/
  held : (lockAt lock after).1.locked = true

/-- What comes of seeking a predicate to hold. -/
inductive Sought (waiter : Waiter) (id : ConditionId) (lock : LockId) (deadline : Option Nat)
    (predicate : Predicate) (world : World) : Answer × World → Prop
  /-- The caller is told the value of the predicate. -/
  | settles {told : Bool} {reached : World}
      (settles : Settles waiter lock deadline predicate told world reached) :
      Sought waiter id lock deadline predicate world (.ok (.ok (.bool told)), reached)
  /-- The predicate does not hold, and the caller gives the lock up and waits once more: until the deadline and
  no longer. -/
  | resigns {later : Predicate} {timeout : Option Nat} {wait : Wait} {middle reached : World}
      (evaluates : Evaluates waiter lock predicate false later world middle)
      (timely : deadline = timeout.map (middle.host.kernel.now + ·))
      (begun : beginNotice waiter id timeout (.predicate deadline later) middle =
        (.ok (.notice id wait (.predicate deadline later)), reached))
      (givenUp : GivenUp lock middle reached) (mute : reached.host = middle.host) :
      Sought waiter id lock deadline predicate world
        (.error (.notice id wait (.predicate deadline later)), reached)

/-- No time is left only if the deadline is reached. -/
theorem late_of_timeLeft {time : Nat} (left : timeLeft deadline time = none) :
    ∃ due, deadline = some due ∧ due ≤ time := by
  cases deadline with
  | none => cases left
  | some due =>
    rw [timeLeft] at left
    by_cases late : due ≤ time
    · exact ⟨due, rfl, late⟩
    · rw [if_neg late] at left
      cases left

/-- The time that is left ends with the deadline. -/
theorem timely_of_timeLeft {time : Nat} {timeout : Option Nat} (left : timeLeft deadline time = some timeout) :
    deadline = timeout.map (time + ·) := by
  cases deadline with
  | none =>
    cases left
    rfl
  | some due =>
    rw [timeLeft] at left
    by_cases late : due ≤ time
    · rw [if_pos late] at left
      cases left
    · rw [if_neg late] at left
      cases left
      have ends : time + (due - time) = due := by omega
      rw [Option.map_some, ends]

/-- Whoever holds the lock of a condition and seeks a predicate to hold evaluates it once. -/
theorem sought_seek (locked : (lockAt (world.lockOf id) world).1.locked = true) (waiter : Waiter)
    (deadline : Option Nat) (predicate : Predicate) :
    Sought waiter id (world.lockOf id) deadline predicate world (seek waiter id deadline predicate world) := by
  have evaluates := evaluates_ask locked waiter predicate
  rw [seek_eq]
  generalize ask waiter predicate world = result at evaluates ⊢
  obtain ⟨⟨told, later⟩, middle⟩ := result
  have held := (evaluates.kept.locked _).trans locked
  cases told with
  | true => exact .settles ⟨⟨later, evaluates⟩, fun impossible => Bool.noConfusion impossible, held⟩
  | false =>
    cases left : timeLeft deadline middle.host.kernel.now with
    | none =>
      simp only [left]
      exact .settles ⟨⟨later, evaluates⟩, fun _ => late_of_timeLeft left, held⟩
    | some timeout =>
      have begun := begun_beginNotice waiter id timeout (.predicate deadline later) middle
      simp only [left]
      generalize begins : beginNotice waiter id timeout (.predicate deadline later) middle = result at begun ⊢
      cases begun with
      | waits wait givenUp =>
        rw [evaluates.kept.lockOf] at givenUp
        have mute := Mute.beginNotice waiter id timeout (.predicate deadline later) middle
        rw [begins] at mute
        exact .resigns evaluates (timely_of_timeLeft left) begins givenUp mute
      | refused free =>
        rw [evaluates.kept.lockOf, held] at free
        cases free

/-- Whoever waits once more waits to be notified first. -/
theorem Sought.notice {lock : LockId} {reached : World}
    (sought : Sought waiter id lock deadline predicate world (.error leaf, reached)) :
    ∃ wait later, leaf = .notice id wait (.predicate deadline later) := by
  cases sought with
  | resigns => exact ⟨_, _, rfl⟩

/-! ## Being polled -/

/-- A caller goes on waiting: it takes no lock and evaluates nothing. -/
structure Idles (before after : World) : Prop where
  /-- Locks stay as they are, apart from their queues. -/
  requeued : Requeued before after
  /-- Nothing is written down. -/
  host : after.host = before.host

/-- A caller takes a lock again, and evaluates nothing until it has done so. -/
structure Regains (lock : LockId) (before after : World) : Prop where
  /-- It has taken the lock just now. -/
  retaken : Retaken lock before after
  /-- Nothing is written down. -/
  host : after.host = before.host

/-- What comes of a poll of a caller that waits until a predicate holds. -/
inductive Pursues (waiter : Waiter) (id : ConditionId) (lock : LockId) (deadline : Option Nat)
    (predicate : Predicate) (world : World) : Answer × World → Prop
  /-- It goes on waiting. -/
  | waits {next : Leaf} {gate : Gate} {wait : Wait} {reached : World}
      (awaits : AwaitsCondition id (.predicate deadline predicate) next gate wait)
      (idles : Idles world reached) :
      Pursues waiter id lock deadline predicate world (.error next, reached)
  /-- It has taken the lock again and seeks the predicate to hold. -/
  | seeks {middle : World} {result : Answer × World} (regains : Regains lock world middle)
      (sought : Sought waiter id lock deadline predicate middle result) :
      Pursues waiter id lock deadline predicate world result

/-- A caller that waits until a predicate holds is polled. -/
theorem pursues_tryLeaf (awaits : AwaitsCondition id (.predicate deadline predicate) leaf gate wait)
    (polled : Polled waiter id .notification world (tryLeaf waiter (leaf.aimed .notification) world)) :
    Pursues waiter id (world.lockOf id) deadline predicate world (tryLeaf waiter leaf world) := by
  have mute := Mute.tryLeaf (awaits.aimed .notification) waiter world
  rw [tryLeaf_predicate waiter awaits]
  generalize tryLeaf waiter (leaf.aimed .notification) world = result at polled mute ⊢
  cases polled with
  | waits plain requeued => exact .waits (plain.aimed _) ⟨requeued, mute⟩
  | @relocked notified reached same retaken =>
    have sought := sought_seek (same.symm ▸ retaken.locked) waiter deadline predicate
    rw [same] at sought
    exact .seeks ⟨retaken, mute⟩ sought

end World

namespace Machine

open World (AwaitsCondition Evaluates Idles Pursues Regains Requeued Retaken Settles Sought)

variable {machine after next : Machine} {id : ConditionId} {deadline : Option Nat} {predicate later : Predicate}
variable {leaf first : Leaf} {gate : Gate} {wait : Wait} {states : Nat → Machine} {rounds count : Nat}
variable {name : String} {timeout : Option Nat}

/-! ## In the course of a run -/

/-- What a call has done in the course of a run that seeks a predicate to hold: it evaluated the predicate once in
the beginning and once after each wait, always while it held the lock, and the predicate never held; so many
times it has begun to wait. -/
inductive Searches (id : ConditionId) (lock : LockId) (deadline : Option Nat) (predicate : Predicate)
    (machine : Machine) (states : Nat → Machine) : Nat → Predicate → Nat → Leaf → Prop
  /-- It evaluates the predicate in the beginning. -/
  | begins {waiter : World.Waiter} {wait : Wait} {later : Predicate}
      (sought : Sought waiter id lock deadline predicate machine.holding
        (.error (.notice id wait (.predicate deadline later)), (states 0).world)) :
      Searches id lock deadline predicate machine states 1 later 0 (.notice id wait (.predicate deadline later))
  /-- It is not polled. -/
  | stays {rounds count : Nat} {later : Predicate} {leaf : Leaf}
      (earlier : Searches id lock deadline predicate machine states rounds later count leaf)
      (other : ¬ (states count).Tries leaf) :
      Searches id lock deadline predicate machine states rounds later (count + 1) leaf
  /-- It is polled, and the wait goes on. -/
  | waits {rounds count : Nat} {later : Predicate} {leaf next : Leaf} {gate : Gate} {wait : Wait}
      (earlier : Searches id lock deadline predicate machine states rounds later count leaf)
      (tries : (states count).Tries leaf)
      (awaits : AwaitsCondition id (.predicate deadline later) next gate wait)
      (idles : Idles (states count).holding (states (count + 1)).world) :
      Searches id lock deadline predicate machine states rounds later (count + 1) next
  /-- It is polled, the wait is over, and it evaluates the predicate again. -/
  | again {rounds count : Nat} {later last : Predicate} {leaf : Leaf} {waiter : World.Waiter} {wait : Wait}
      {middle : World} (earlier : Searches id lock deadline predicate machine states rounds later count leaf)
      (tries : (states count).Tries leaf) (regains : Regains lock (states count).holding middle)
      (sought : Sought waiter id lock deadline later middle
        (.error (.notice id wait (.predicate deadline last)), (states (count + 1)).world)) :
      Searches id lock deadline predicate machine states (rounds + 1) last (count + 1)
        (.notice id wait (.predicate deadline last))

/-- A call that seeks a predicate to hold waits for the condition, until its deadline. -/
theorem Searches.awaits {lock : LockId}
    (searches : Searches id lock deadline predicate machine states rounds later count leaf) :
    ∃ gate wait, AwaitsCondition id (.predicate deadline later) leaf gate wait := by
  induction searches with
  | begins => exact ⟨_, _, .notice _⟩
  | stays _ _ ih => exact ih
  | waits _ _ awaits => exact ⟨_, _, awaits⟩
  | again => exact ⟨_, _, .notice _⟩

/-- A program that begins to wait until a predicate holds evaluates it once, if it holds the lock. -/
theorem BeginsWait.sought (begins : BeginsWait (.conditionUntil name timeout predicate) machine after)
    (named : machine.world.names.lookup (.condition, name) = some id)
    (locked : (World.lockAt (machine.world.lockOf id) machine.world).1.locked = true) :
    ∃ waiter answer, after.signal = ofAnswer answer ∧ Sought waiter id (machine.world.lockOf id)
      (timeout.map (machine.world.host.kernel.now + ·)) predicate machine.holding (answer, after.world) := by
  obtain ⟨waiter, world, signal⟩ := begins.begun
  have named : machine.holding.names.lookup (.condition, name) = some id := named
  have locked : (World.lockAt (machine.holding.lockOf id) machine.holding).1.locked = true := locked
  have does : machine.inWorld (World.beginWait waiter (.conditionUntil name timeout predicate)) =
      World.seek waiter id (timeout.map (machine.holding.host.kernel.now + ·)) predicate machine.holding :=
    World.withNamed_eq named _
  rw [does] at world signal
  refine ⟨waiter, _, signal, ?_⟩
  rw [world]
  exact World.sought_seek locked waiter _ predicate

/-- A call that seeks a predicate to hold and is polled goes on waiting, or takes the lock and evaluates the
predicate. -/
theorem Searches.pursues {lock : LockId}
    (searches : Searches id lock deadline predicate machine states rounds later count leaf)
    (reachable : (states count).Reachable) (same : (states count).world.lockOf id = lock)
    (tries : (states count).Tries leaf) (step : Step (states count) next) :
    ∃ waiter answer, next.signal = ofAnswer answer ∧
      Pursues waiter id lock deadline later (states count).holding (answer, next.world) := by
  obtain ⟨gate, wait, awaits⟩ := searches.awaits
  obtain ⟨waiter, world, signal⟩ := tries.step step
  obtain ⟨-, task, retried⟩ := tries
  have stakes : (Station.leaf (leaf.aimed .notification)).stakes = (Station.leaf leaf).stakes := by
    cases awaits <;> rfl
  have polled := reachable.polled retried waiter stakes (awaits.aimed .notification)
  have pursues := World.pursues_tryLeaf awaits polled
  rw [show (states count).holding.lockOf id = lock from same] at pursues
  refine ⟨waiter, _, signal, ?_⟩
  rw [world]
  exact pursues

/-- How a run goes in which a program begins to wait until a predicate holds. -/
structure Search (id : ConditionId) (name : String) (timeout : Option Nat) (predicate : Predicate)
    (machine : Machine) (states : Nat → Machine) (count : Nat) : Prop where
  /-- The condition has the name. -/
  named : machine.world.names.lookup (.condition, name) = some id
  /-- The lock of the condition is held. -/
  locked : (World.lockAt (machine.world.lockOf id) machine.world).1.locked = true
  /-- The program begins to wait. -/
  begins : BeginsWait (.conditionUntil name timeout predicate) machine (states 0)
  /-- The run goes on after that. -/
  steps : ∀ number < count, Step (states number) (states (number + 1))

/-- When a call is to end. -/
def deadlineOf (machine : Machine) (timeout : Option Nat) : Option Nat :=
  timeout.map (machine.world.host.kernel.now + ·)

namespace Search

/-- A shorter run goes in the same way. -/
theorem mono (search : Search id name timeout predicate machine states count) {fewer : Nat} (few : fewer ≤ count) :
    Search id name timeout predicate machine states fewer :=
  ⟨search.named, search.locked, search.begins, fun number less => search.steps number (by omega)⟩

/-- Every state of the run is one of a run from the beginning, and the condition has the same lock in it. -/
theorem reached (search : Search id name timeout predicate machine states count) (reachable : machine.Reachable) :
    (states count).Reachable ∧ (states count).world.lockOf id = machine.world.lockOf id := by
  have sound := Reachable.sound reachable
  have exists_ := sound.settled.orderly.within.names (World.mem_names search.named)
  have first := sound.grows search.begins.step
  have begun : (states 0).Reachable := .step reachable search.begins.step trivial
  have later : (states count).Reachable ∧ machine.world.Grows (states count).world := by
    apply begun.along (fun number => machine.world.Grows (states number).world) search.steps first
    intro number reached step grows
    exact grows.trans ((Reachable.sound reached).grows step)
  exact ⟨later.1, later.2.lockOf exists_⟩

/-- Wherever the call waits, it seeks the predicate to hold. -/
theorem searches (search : Search id name timeout predicate machine states count) (reachable : machine.Reachable)
    (waits : WaitsAt states first count leaf) :
    ∃ rounds later, Searches id (machine.world.lockOf id) (machine.deadlineOf timeout) predicate machine states
      rounds later count leaf := by
  induction waits with
  | begins waiting =>
    obtain ⟨waiter, answer, signal, sought⟩ := search.begins.sought search.named search.locked
    rw [waiting] at signal
    cases answer with
    | ok value => cases signal
    | error leaf =>
      cases signal
      obtain ⟨wait, later, rfl⟩ := sought.notice
      exact ⟨1, later, .begins sought⟩
  | stays earlier other ih =>
    obtain ⟨rounds, later, searches⟩ := ih (search.mono (Nat.le_succ _))
    exact ⟨rounds, later, .stays searches other⟩
  | @tried count leaf next earlier tries waiting ih =>
    have before := search.mono (Nat.le_succ count)
    obtain ⟨rounds, later, searches⟩ := ih before
    obtain ⟨reached, same⟩ := before.reached reachable
    obtain ⟨waiter, answer, signal, pursues⟩ :=
      searches.pursues reached same tries (search.steps count (Nat.lt_succ_self count))
    rw [waiting] at signal
    cases pursues with
    | waits awaits idles =>
      cases signal
      exact ⟨rounds, later, .waits searches tries awaits idles⟩
    | seeks regains sought =>
      cases answer with
      | ok value => cases signal
      | error leaf =>
        cases signal
        obtain ⟨wait, last, rfl⟩ := sought.notice
        exact ⟨rounds + 1, last, .again searches tries regains sought⟩

/-- When the call is answered at last, it has taken the lock and evaluated the predicate just now. -/
theorem answers (search : Search id name timeout predicate machine states count) (reachable : machine.Reachable)
    (waits : WaitsAt states first count leaf) (tries : (states count).Tries leaf)
    (step : Step (states count) next) {value : Value} (answered : next.signal = .answer value) :
    ∃ rounds later told waiter middle, value = .ok (.bool told) ∧
      Searches id (machine.world.lockOf id) (machine.deadlineOf timeout) predicate machine states
        rounds later count leaf ∧
      Regains (machine.world.lockOf id) (states count).holding middle ∧
      Settles waiter (machine.world.lockOf id) (machine.deadlineOf timeout) later told middle next.world ∧
      Retaken (machine.world.lockOf id) (states count).holding next.world := by
  obtain ⟨rounds, later, searches⟩ := search.searches reachable waits
  obtain ⟨reached, same⟩ := search.reached reachable
  obtain ⟨waiter, answer, signal, pursues⟩ := searches.pursues reached same tries step
  rw [answered] at signal
  cases pursues with
  | waits => cases signal
  | seeks regains sought =>
    cases sought with
    | resigns => cases signal
    | settles settles =>
      cases signal
      obtain ⟨last, evaluates⟩ := settles.evaluates
      exact ⟨rounds, later, _, waiter, _, rfl, searches, regains, settles,
        regains.retaken.requeued evaluates.kept⟩

end Search

/-- What is promised about a condition in a state of a run to those who wait until a predicate holds. -/
structure SeeksTruly (id : ConditionId) (machine : Machine) : Prop where
  /-- There are predicates for whatever one with a state of its own may answer until it holds. -/
  stateful : ∀ (answers : Nat → Bool) {last}, (∀ number < last, answers number = false) →
    ∃ needed, ∀ number ≤ last, ∀ waiter world,
      (World.ask waiter (.asked needed number) world).1 = (answers number, .asked needed (number + 1))
  /-- The call evaluates the predicate once in the beginning, while it holds the lock. It is told that the
  predicate holds, or that it does not if no time is to pass, and otherwise waits. -/
  begins : ∀ {name timeout predicate states}, Search id name timeout predicate machine states 0 →
    ∃ waiter answer, (states 0).signal = ofAnswer answer ∧
      Sought waiter id (machine.world.lockOf id) (machine.deadlineOf timeout) predicate machine.holding
        (answer, (states 0).world)
  /-- At any time after that the call was answered, or waits. -/
  follows : ∀ {name timeout predicate states count}, Search id name timeout predicate machine states count →
    (∃ value, (states 0).signal = .answer value) ∨ ∃ first, (∃ leaf, WaitsAt states first count leaf) ∨
      ∃ number < count, ∃ leaf value, WaitsAt states first number leaf ∧ (states number).Tries leaf ∧
        (states (number + 1)).signal = .answer value
  /-- Wherever it waits, it has evaluated the predicate once in the beginning and once after each wait, and only
  while it held the lock. No wait was begun with a timeout that reaches past the deadline. -/
  searches : ∀ {name timeout predicate states count first leaf},
    Search id name timeout predicate machine states count → WaitsAt states first count leaf →
      ∃ rounds later, Searches id (machine.world.lockOf id) (machine.deadlineOf timeout) predicate machine
        states rounds later count leaf
  /-- When it is answered, it is told the value of the predicate, which it has evaluated for the last time after
  it took the lock just now; unless the predicate holds, the deadline is reached. It holds the lock still, which
  nobody else took or released since. -/
  answers : ∀ {name timeout predicate states count first leaf next value},
    Search id name timeout predicate machine states count → WaitsAt states first count leaf →
      (states count).Tries leaf → Step (states count) next → next.signal = .answer value →
        ∃ rounds later told waiter middle, value = .ok (.bool told) ∧
          Searches id (machine.world.lockOf id) (machine.deadlineOf timeout) predicate machine states
            rounds later count leaf ∧
          Regains (machine.world.lockOf id) (states count).holding middle ∧
          Settles waiter (machine.world.lockOf id) (machine.deadlineOf timeout) later told middle next.world ∧
          Retaken (machine.world.lockOf id) (states count).holding next.world

/-- In every state of every run, a call that waits until a predicate holds evaluates it only while it holds the
lock, and is told its last value. -/
theorem seeksTruly (reachable : machine.Reachable) (id : ConditionId) : machine.SeeksTruly id where
  stateful := World.exists_asked
  begins search := search.begins.sought search.named search.locked
  follows search := search.begins.follows search.steps
  searches search waits := search.searches reachable waits
  answers search waits tries step answered := search.answers reachable waits tries step answered

/-- One task is to wait for a while until a predicate holds, which it does not, another one as long as it takes,
and a third one is to notify one caller before that while is over, and one more after it. -/
def consulting : Machine := scripted.drive (fun _ => true) 60
  [.sync (.makeLock "l"), .sync (.makeCondition "c" (some "l")),
    .spawn "doubter" [.wait (.lock "l" none), .wait (.conditionUntil "c" (some 3) (.asked 9 0)),
      .sync (.releaseLock "l")],
    .spawn "patient" [.wait (.lock "l" none), .wait (.conditionUntil "c" none (.asked 2 0))],
    .spawn "herald" [.wait (.sleep 2), .wait (.lock "l" none), .sync (.notify "c" 1), .sync (.releaseLock "l"),
      .wait (.sleep 4), .wait (.lock "l" none), .sync (.notify "c" 1), .sync (.releaseLock "l")]]

/-- The first task is about to begin to wait. -/
def doubting : Machine := consulting.drive (fun _ => true) 8 [.runOnce 20]

/-- The second one is. -/
def trusting : Machine := consulting.drive (fun _ => true) 18 [.runOnce 20]

/-- The first task evaluates its predicate again when it is notified, waits for the rest of its time, and is told
then that the predicate does not hold; the second one is told that its own does when it is notified. -/
theorem seeksTruly_consulting :
    (∃ waiter later middle next, Settles waiter 0 (some 3) later false middle next ∧ 3 ≤ next.host.kernel.now) ∧
      ∃ waiter later middle next, Settles waiter 0 none later true middle next := by
  have doubtful : doubting.Reachable := Visits.onward (reachable_drive 60 _) (later_drive 8 _ _)
  have trustful : trusting.Reachable := Visits.onward (reachable_drive 60 _) (later_drive 18 _ _)
  have refused : doubting.isAnswered "c" (some 3) (some (9, 0))
      ⟨0, ⟨4, some 0⟩, some (some 3, 9, 1), none⟩ 86 false = true ∧
    doubting.world.names.lookup (.condition, "c") = some 0 ∧ doubting.world.lockOf 0 = 0 ∧
    (World.lockAt 0 doubting.world).1.locked = true ∧ doubting.world.host.kernel.now = 0 := by decide +kernel
  have granted : trusting.isAnswered "c" none (some (2, 0))
      ⟨0, ⟨5, some 1⟩, some (none, 2, 1), none⟩ 128 true = true ∧
    trusting.world.names.lookup (.condition, "c") = some 0 ∧ trusting.world.lockOf 0 = 0 ∧
    (World.lockAt 0 trusting.world).1.locked = true := by decide +kernel
  -- From here on it does not matter how the states were reached.
  generalize doubting = machine at doubtful refused
  generalize trusting = other at trustful granted
  obtain ⟨refused, named, lock, locked, now⟩ := refused
  obtain ⟨granted, named', lock', locked'⟩ := granted
  constructor
  · obtain ⟨begins, steps, ⟨last, waits, tries⟩, next, step, answered⟩ := exists_of_isAnswered refused
    have search : Search 0 "c" (some 3) (.asked 9 0) machine (machine.advanced 1).advanced 86 :=
      ⟨named, lock.symm ▸ locked, begins, steps⟩
    obtain ⟨rounds, later, told, waiter, middle, value, -, -, settles, -⟩ :=
      (seeksTruly doubtful 0).answers search waits tries step answered
    cases value
    have deadline : machine.deadlineOf (some 3) = some 3 := by simp [deadlineOf, now]
    rw [lock, deadline] at settles
    obtain ⟨due, same, late⟩ := settles.late rfl
    cases same
    exact ⟨waiter, later, middle, next.world, settles, late⟩
  · obtain ⟨begins, steps, ⟨last, waits, tries⟩, next, step, answered⟩ := exists_of_isAnswered granted
    have search : Search 0 "c" none (.asked 2 0) other (other.advanced 1).advanced 128 :=
      ⟨named', lock'.symm ▸ locked', begins, steps⟩
    obtain ⟨rounds, later, told, waiter, middle, value, -, -, settles, -⟩ :=
      (seeksTruly trustful 0).answers search waits tries step answered
    cases value
    rw [lock'] at settles
    exact ⟨waiter, later, middle, next.world, settles⟩

end Machine

end EventLoop

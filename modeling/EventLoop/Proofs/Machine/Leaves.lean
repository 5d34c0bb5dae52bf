import EventLoop.Proofs.Sync.Arrivals
import EventLoop.Proofs.Sync.Relock

/-!
# Where calls wait

A call that has to wait does so at a leaf. It stays there until its task is polled; then it is answered, or
waits at the leaf that comes next. A call that waits for a condition waits at its place in the queue of
the condition, and after that for the lock, for which it may have to wait more than once; what it will be
told is known from then on.
-/
namespace EventLoop

open Script (Leaf Goal)

namespace World

variable {waiter : Waiter} {wait after : Wait} {world : World} {id : ConditionId} {goal : Goal}
variable {lock : LockId} {notified : Bool}

/-- Whoever has to go on waiting does so for the same future. -/
theorem await_future (goes : (await waiter wait world).1 = .error after) : after.future = wait.future := by
  change (world.loop.await wait waiter.waker).1 = .error after at goes
  unfold Loop.await at goes
  split at goes
  · cases goes
  · split at goes
    · cases goes
      rfl
    · cases goes
      rfl

/-- Whoever has to go on waiting at a place keeps it. -/
theorem awaitTurn_future {gate : Gate} (goes : (awaitTurn waiter gate wait world).1 = .error after) :
    after.future = wait.future := by
  rw [answer_awaitTurn] at goes
  cases result : (await waiter wait world).1 with
  | ok outcome =>
    rw [result] at goes
    cases goes
  | error other =>
    rw [result] at goes
    cases goes
    exact await_future result

/-- How a call that waited for a condition goes on: it waits for the lock, and it is known what it will be told,
or it goes on with that. -/
inductive Relocks (waiter : Waiter) (id : ConditionId) (notified : Bool) (goal : Goal) :
    Answer × World → Prop
  /-- It waits for the lock. -/
  | waits (lock : LockId) (wait : Wait) (reached : World) :
      Relocks waiter id notified goal (.error (.relock id lock wait notified goal), reached)
  /-- It goes on. -/
  | goes (reached : World) : Relocks waiter id notified goal (afterRelock waiter id notified goal reached)

/-- Whoever takes the lock of a condition again waits for it or goes on. -/
theorem relocks_relock (waiter : Waiter) (id : ConditionId) (notified : Bool) (goal : Goal) (world : World) :
    Relocks waiter id notified goal (relock waiter id notified goal world) := by
  rw [relock_eq]
  generalize beginTurn waiter (.lock (world.lockOf id)) none world = answer
  rcases answer with ⟨wait | granted, reached⟩
  · exact .waits _ wait reached
  · exact .goes reached

/-- Whoever waits for the lock of a condition goes on waiting for it or goes on. -/
theorem relocks_tryLeaf (waiter : Waiter) (id : ConditionId) (lock : LockId) (wait : Wait) (notified : Bool)
    (goal : Goal) (world : World) :
    Relocks waiter id notified goal (tryLeaf waiter (.relock id lock wait notified goal) world) := by
  rw [tryLeaf_relock]
  generalize awaitTurn waiter (.lock lock) wait world = answer
  rcases answer with ⟨after | turn, reached⟩
  · exact .waits lock after reached
  · cases turn with
    | true => exact .goes reached
    | false => exact relocks_relock waiter id notified goal reached

/-- How a call that waits to be notified goes on. -/
inductive Heeds (waiter : Waiter) (id : ConditionId) (wait : Wait) (goal : Goal) (world : World) :
    Answer × World → Prop
  /-- It goes on waiting at its place. -/
  | waits {after : Wait} (same : after.future = wait.future) (reached : World) :
      Heeds waiter id wait goal world (.error (.notice id after goal), reached)
  /-- It was notified, or its time was up, and it goes on to take the lock. -/
  | decided {notified : Bool} {result : Answer × World}
      (fate : world.loop.fate wait.future = if notified then .granted else .cancelled)
      (relocks : Relocks waiter id notified goal result) : Heeds waiter id wait goal world result

/-- Whoever waits to be notified goes on waiting, or learns whether it was notified. -/
theorem heeds_tryLeaf (waiter : Waiter) (sound : world.loop.fate wait.future ≠ .failed) :
    Heeds waiter id wait goal world (tryLeaf waiter (.notice id wait goal) world) := by
  have known (granted : Bool) (answered : (awaitTurn waiter (.condition id) wait world).1 = .ok granted) :
      world.loop.fate wait.future = if granted then .granted else .cancelled := fate_of_answer sound answered
  rw [tryLeaf_notice, awaitPlace_condition]
  generalize asked : awaitTurn waiter (.condition id) wait world = answer at known
  rcases answer with ⟨after | notified, reached⟩
  · exact .waits (awaitTurn_future (congrArg Prod.fst asked)) reached
  · exact .decided (known notified rfl) (relocks_relock waiter id notified goal reached)

end World

namespace Machine

variable {machine after : Machine} {leaf first next : Leaf} {states : Nat → Machine} {number : Nat}

/-- In the next step a program begins an instruction that may have to wait. -/
structure BeginsWait (instruction : Script.WaitInstruction) (machine after : Machine) : Prop where
  /-- Nothing else comes first. -/
  clean : machine.world.loop.dropped = []
  /-- The program goes on with the instruction. -/
  runs : ∃ task last rest, machine.signal = .program task last (.wait instruction :: rest)
  /-- It is a step of a run. -/
  step : Step machine after

/-- A program that begins an instruction is answered, or has to wait. -/
theorem BeginsWait.begun {instruction : Script.WaitInstruction} (begins : BeginsWait instruction machine after) :
    ∃ waiter, after.world = (machine.inWorld (World.beginWait waiter instruction)).2 ∧
      after.signal = ofAnswer (machine.inWorld (World.beginWait waiter instruction)).1 := by
  obtain ⟨clean, ⟨task, last, rest, runs⟩, step⟩ := begins
  have acts : act? machine.signal = some (stepProgram task last (.wait instruction :: rest)) := by
    rw [runs]
    rfl
  refine ⟨machine.waiter task, ?_, ?_⟩
  · rw [step.eq_of_next (next_of_act clean acts)]
    exact world_stepProgram_wait task last instruction rest machine.holding
  · rw [step.eq_of_next (next_of_act clean acts)]
    change ofAnswer (World.beginWait (machine.waiter task) instruction
      (World.waiterOf task machine.holding).2).1 = _
    rw [waiterOf_same]
    rfl

/-- The next thing that happens is that a call is tried again that waits at a leaf. -/
structure Tries (leaf : Leaf) (machine : Machine) : Prop where
  /-- Nothing else comes first. -/
  clean : machine.world.loop.dropped = []
  /-- Its task is polled. -/
  retried : ∃ task, machine.signal = .retry task (.leaf leaf)

/-- A call that is tried again is answered, or goes on waiting. -/
theorem Tries.step (tries : machine.Tries leaf) (step : Step machine after) :
    ∃ waiter, after.world = (machine.inWorld (World.tryLeaf waiter leaf)).2 ∧
      after.signal = ofAnswer (machine.inWorld (World.tryLeaf waiter leaf)).1 := by
  obtain ⟨clean, task, retried⟩ := tries
  have acts : act? machine.signal = some (stepRetry task (.leaf leaf)) := by
    rw [retried]
    rfl
  refine ⟨machine.waiter task, ?_, ?_⟩
  · rw [step.eq_of_next (next_of_act clean acts)]
    exact world_stepRetry task leaf machine.holding
  · rw [step.eq_of_next (next_of_act clean acts)]
    exact signal_stepRetry task leaf machine.holding

/-- What a call has at stake that is tried again is at stake. -/
theorem Tries.stakes_le (tries : machine.Tries leaf) :
    (Script.Station.leaf leaf).stakes ≤ machine.stakes := by
  obtain ⟨-, task, retried⟩ := tries
  have member : .leaf leaf ∈ machine.stations := by
    rw [stations, retried]
    exact List.mem_cons_self
  exact (stakes_le_stakesOf member).trans (Multiset.le_add_right _ _)

/-- Where a call waits in the course of a run: it begins to wait at a leaf, stays there until it is tried again,
and then waits at the next one, unless it is answered. -/
inductive WaitsAt (states : Nat → Machine) (first : Leaf) : Nat → Leaf → Prop
  /-- It begins to wait. -/
  | begins (waits : (states 0).signal = .waiting (.leaf first)) : WaitsAt states first 0 first
  /-- It stays where it is. -/
  | stays {number : Nat} {leaf : Leaf} (earlier : WaitsAt states first number leaf)
      (other : ¬ (states number).Tries leaf) : WaitsAt states first (number + 1) leaf
  /-- It is tried again, and goes on waiting. -/
  | tried {number : Nat} {leaf next : Leaf} (earlier : WaitsAt states first number leaf)
      (tries : (states number).Tries leaf) (waits : (states (number + 1)).signal = .waiting (.leaf next)) :
      WaitsAt states first (number + 1) next

/-- A call waits at its first leaf in the beginning. -/
theorem WaitsAt.started (waits : WaitsAt states first number leaf) :
    (states 0).signal = .waiting (.leaf first) := by
  induction waits with
  | begins waits => exact waits
  | stays _ _ ih => exact ih
  | tried _ _ _ ih => exact ih

/-- A program that begins an instruction has been answered, or waits at a leaf. -/
theorem BeginsWait.follows {instruction : Script.WaitInstruction} {count : Nat}
    (begins : BeginsWait instruction machine (states 0))
    (steps : ∀ number < count, Step (states number) (states (number + 1))) :
    (∃ value, (states 0).signal = .answer value) ∨ ∃ first, (∃ leaf, WaitsAt states first count leaf) ∨
      ∃ number < count, ∃ leaf value, WaitsAt states first number leaf ∧ (states number).Tries leaf ∧
        (states (number + 1)).signal = .answer value := by
  induction count with
  | zero =>
    obtain ⟨waiter, -, signal⟩ := begins.begun
    cases answer : (machine.inWorld (World.beginWait waiter instruction)).1 with
    | ok value =>
      rw [answer] at signal
      exact Or.inl ⟨value, signal⟩
    | error leaf =>
      rw [answer] at signal
      exact Or.inr ⟨leaf, Or.inl ⟨leaf, .begins signal⟩⟩
  | succ count ih =>
    rcases ih fun number few => steps number (by omega) with
      answered | ⟨first, ⟨leaf, waits⟩ | ⟨number, earlier, answered⟩⟩
    · exact Or.inl answered
    · refine Or.inr ⟨first, ?_⟩
      by_cases tries : (states count).Tries leaf
      · obtain ⟨waiter, -, signal⟩ := tries.step (steps count (Nat.lt_succ_self count))
        cases answer : ((states count).inWorld (World.tryLeaf waiter leaf)).1 with
        | ok value =>
          rw [answer] at signal
          exact Or.inr ⟨count, Nat.lt_succ_self count, leaf, value, waits, tries, signal⟩
        | error next =>
          rw [answer] at signal
          exact Or.inl ⟨next, .tried waits tries signal⟩
      · exact Or.inl ⟨leaf, .stays waits tries⟩
    · exact Or.inr ⟨first, Or.inr ⟨number, by omega, answered⟩⟩

/-! ## Particular runs -/

/-- The states that a machine moves through. -/
def advanced (machine : Machine) (number : Nat) : Machine := machine.runWithin (fun _ => true) number

/-- What can be compared of a leaf at which a call waits for a condition: a predicate, if there is one, counts
how often it was asked. -/
structure Shape where
  /-- The condition. -/
  condition : ConditionId
  /-- The wait at its place. -/
  wait : Wait
  /-- The deadline, how often the predicate has to be asked, and how often it was. -/
  goal : Option (Option Nat × Nat × Nat)
  /-- The lock for which it waits, and what it will be told. -/
  lock : Option (LockId × Bool)
  deriving DecidableEq

/-- The goal of a call with a shape. -/
def Shape.toGoal (shape : Shape) : Goal :=
  match shape.goal with
  | some (deadline, needed, made) => .predicate deadline (.asked needed made)
  | none => .notification

/-- The leaf of a shape. -/
def Shape.toLeaf (shape : Shape) : Leaf :=
  match shape.lock with
  | some (lock, notified) => .relock shape.condition lock shape.wait notified shape.toGoal
  | none => .notice shape.condition shape.wait shape.toGoal

/-- The shape of a goal. -/
def goalShape? : Goal → Option (Option (Option Nat × Nat × Nat))
  | .notification => some none
  | .predicate deadline (.asked needed made) => some (some (deadline, needed, made))
  | .predicate _ (.holds ..) => none

/-- The shape of a leaf. -/
def leafShape? : Leaf → Option Shape
  | .notice condition wait goal => (goalShape? goal).map fun goal => ⟨condition, wait, goal, none⟩
  | .relock condition lock wait notified goal =>
    (goalShape? goal).map fun goal => ⟨condition, wait, goal, some (lock, notified)⟩
  | _ => none

/-- The shape of the leaf at which a call was just found to wait. -/
def waitingShape? : Signal → Option Shape
  | .waiting (.leaf leaf) => leafShape? leaf
  | _ => none

/-- The shape of the leaf of a call that is tried again. -/
def retriedShape? : Signal → Option Shape
  | .retry _ (.leaf leaf) => leafShape? leaf
  | _ => none

/-- Whether the call is tried again that waits at a leaf. -/
def isTrying (shape : Shape) (machine : Machine) : Bool :=
  machine.world.loop.dropped.isEmpty && retriedShape? machine.signal == some shape

/-- The shape of the leaf at which a call waits after some moves. -/
def follow : Nat → Machine → Shape → Option Shape
  | 0, _, shape => some shape
  | moves + 1, machine, shape => machine.next.bind fun after =>
    if machine.isTrying shape then (waitingShape? after.signal).bind (follow moves after)
    else follow moves after shape

/-- The shape of a leaf that was made of a shape is that shape. -/
theorem leafShape_toLeaf (shape : Shape) : leafShape? shape.toLeaf = some shape := by
  obtain ⟨condition, wait, _ | ⟨deadline, needed, made⟩, _ | ⟨lock, notified⟩⟩ := shape <;> rfl

/-- A goal is made of its shape. -/
theorem toGoal_of_goalShape {goal : Goal} {shape : Shape} (same : goalShape? goal = some shape.goal) :
    goal = shape.toGoal := by
  unfold Shape.toGoal
  cases goal with
  | notification => rw [← Option.some.inj same]
  | predicate deadline predicate =>
    cases predicate with
    | holds => cases same
    | asked => rw [← Option.some.inj same]

/-- A leaf is made of its shape. -/
theorem toLeaf_of_leafShape {shape : Shape} (same : leafShape? leaf = some shape) : leaf = shape.toLeaf := by
  cases leaf with
  | notice condition wait goal =>
    obtain ⟨aim, found, rfl⟩ := Option.map_eq_some_iff.mp same
    exact congrArg (Leaf.notice condition wait) (toGoal_of_goalShape found)
  | relock condition lock wait notified goal =>
    obtain ⟨aim, found, rfl⟩ := Option.map_eq_some_iff.mp same
    exact congrArg (Leaf.relock condition lock wait notified) (toGoal_of_goalShape found)
  | nextPoll | result | turn | connecting | establishing => cases same

/-- A signal that waits is made of its shape. -/
theorem waiting_of_shape {signal : Signal} {shape : Shape} (same : waitingShape? signal = some shape) :
    signal = .waiting (.leaf shape.toLeaf) := by
  unfold waitingShape? at same
  split at same
  · rw [toLeaf_of_leafShape same]
  · cases same

/-- The check on a state says that a leaf of that shape is tried next. -/
theorem isTrying_iff {shape : Shape} : machine.isTrying shape = true ↔ machine.Tries shape.toLeaf := by
  unfold isTrying
  rw [Bool.and_eq_true, beq_iff_eq, List.isEmpty_iff]
  constructor
  · rintro ⟨clean, same⟩
    unfold retriedShape? at same
    split at same
    · rename_i task leaf retried
      exact ⟨clean, task, by rw [retried, toLeaf_of_leafShape same]⟩
    · cases same
  · rintro ⟨clean, task, retried⟩
    rw [retried]
    exact ⟨clean, leafShape_toLeaf shape⟩

/-- A call that is followed waits at the leaf that is found. -/
theorem waitsAt_follow {moves : Nat} {shape last : Shape} (found : follow moves machine shape = some last)
    (waits : WaitsAt states first number shape.toLeaf)
    (same : ∀ more, states (number + more) = machine.advanced more) :
    WaitsAt states first (number + moves) last.toLeaf := by
  induction moves generalizing machine number shape with
  | zero =>
    cases found
    exact waits
  | succ moves ih =>
    unfold follow at found
    obtain ⟨after, next, found⟩ := Option.bind_eq_some_iff.mp found
    have moved (more : Nat) : states (number + 1 + more) = after.advanced more := by
      rw [Nat.add_assoc, Nat.add_comm 1 more, same, Machine.advanced, runWithin, next]
      rfl
    have here : states number = machine := same 0
    have total : number + (moves + 1) = number + 1 + moves := by omega
    rw [total]
    split at found
    · rename_i tries
      obtain ⟨middle, waiting, found⟩ := Option.bind_eq_some_iff.mp found
      have reached : (states (number + 1)).signal = .waiting (.leaf middle.toLeaf) := by
        rw [moved 0]
        exact waiting_of_shape waiting
      exact ih found (.tried waits (here ▸ isTrying_iff.mp tries) reached) moved
    · rename_i other
      exact ih found (.stays waits fun tries => other (isTrying_iff.mpr (here ▸ tries))) moved

/-- What a program begins that begins to wait for a condition: the name, the timeout, and how often a predicate
has to be asked and was. -/
def conditionWait? : Signal → Option (String × Option Nat × Option (Nat × Nat))
  | .program _ _ (.wait (.condition name timeout) :: _) => some (name, timeout, none)
  | .program _ _ (.wait (.conditionUntil name timeout (.asked needed made)) :: _) =>
    some (name, timeout, some (needed, made))
  | _ => none

/-- The instruction to wait for a condition. -/
def conditionWait (name : String) (timeout : Option Nat) :
    Option (Nat × Nat) → Script.WaitInstruction
  | some (needed, made) => .conditionUntil name timeout (.asked needed made)
  | none => .condition name timeout

/-- Whether a program begins to wait for a condition in the next move, waits at a leaf then, and is answered in
the move that follows the given number of moves. -/
def isAnswered (name : String) (timeout : Option Nat) (asked : Option (Nat × Nat)) (shape : Shape)
    (moves : Nat) (answer : Bool) (machine : Machine) : Bool :=
  machine.world.loop.dropped.isEmpty && conditionWait? machine.signal == some (name, timeout, asked) &&
    machine.next.isSome && waitingShape? (machine.advanced 1).signal == some shape &&
    (follow moves (machine.advanced 1) shape).any ((machine.advanced 1).advanced moves).isTrying &&
    ((machine.advanced 1).advanced (moves + 1)).next.isSome &&
    match ((machine.advanced 1).advanced (moves + 1)).signal with
      | .answer (.object [("ok", .bool given)]) => given == answer
      | _ => false

/-- What such a run of moves shows. -/
theorem exists_of_isAnswered {name : String} {timeout : Option Nat} {asked : Option (Nat × Nat)} {shape : Shape}
    {moves : Nat} {answer : Bool} (holds : machine.isAnswered name timeout asked shape moves answer = true) :
    BeginsWait (conditionWait name timeout asked) machine (machine.advanced 1) ∧
      (∀ number < moves, Step ((machine.advanced 1).advanced number)
        ((machine.advanced 1).advanced (number + 1))) ∧
      (∃ last, WaitsAt (machine.advanced 1).advanced shape.toLeaf moves last ∧
        ((machine.advanced 1).advanced moves).Tries last) ∧
      ∃ next, Step ((machine.advanced 1).advanced moves) next ∧
        next.signal = .answer (.ok (.bool answer)) := by
  unfold isAnswered at holds
  simp only [Bool.and_eq_true, beq_iff_eq, List.isEmpty_iff] at holds
  obtain ⟨⟨⟨⟨⟨⟨clean, runs⟩, goes⟩, waits⟩, followed⟩, further⟩, answered⟩ := holds
  have steps := steps_runWithin further
  refine ⟨⟨clean, ?_, step_runWithin goes⟩, fun number few => steps number (by omega), ?_, _,
    steps moves (by omega), ?_⟩
  · unfold conditionWait? at runs
    split at runs
    · rename_i task last name timeout rest signal
      cases runs
      exact ⟨task, last, rest, signal⟩
    · rename_i task last name timeout needed made rest signal
      cases runs
      exact ⟨task, last, rest, signal⟩
    · cases runs
  · obtain ⟨last, found, tries⟩ := (Option.any_eq_true _ _).mp followed
    have begun : WaitsAt (machine.advanced 1).advanced shape.toLeaf 0 shape.toLeaf :=
      .begins (waiting_of_shape waits)
    have reached := waitsAt_follow found begun fun more => congrArg _ (Nat.zero_add more)
    rw [Nat.zero_add] at reached
    exact ⟨_, reached, isTrying_iff.mp tries⟩
  · split at answered
    · rename_i given signal
      rw [beq_iff_eq] at answered
      rw [← answered]
      exact signal
    · cases answered

end Machine

end EventLoop

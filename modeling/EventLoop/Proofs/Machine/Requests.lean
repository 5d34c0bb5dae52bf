import EventLoop.Proofs.Machine.Deadlines
import EventLoop.Proofs.Machine.Outsets

/-!
# Requests of other threads

Callbacks that other threads asked for are started in the order in which they were asked for, each once: all
that were asked for before an iteration begins, and were not started, are started by this iteration. The wish
that the loop return stays until an iteration begins. The run that it belongs to returns as soon as this
iteration has ended, and the wish is gone.
-/
namespace EventLoop

open Script (Body Instruction)
open World (Changes moving openTo)

namespace Machine

variable {sort : Machine → Prop} {machine after first last : Machine}
variable {asked started : List Callback}

/-! ## What other threads asked for is told apart -/

/-- What other threads asked for is told apart from everything else in every state of a run. -/
theorem Reachable.marked (reachable : machine.Reachable) : machine.world.loop.Marked := by
  induction reachable with
  | initial initial =>
    obtain ⟨-, -, bare, isBare, settled, course⟩ := initial.course
    have changes := course.changes settled (List.subset_cons_self _ _)
    have marked : bare.loop.Marked := by
      cases isBare
      exact ⟨by simp, by simp⟩
    exact changes.marked marked
  | @step before after earlier step _ ih =>
    have sound : before.Sound False := Reachable.sound earlier
    cases step with
    | moved moves =>
      have passes := (sound.next moves fun asked => asked.elim).2
      exact (passes.changes sound before.moving_subset_changing).marked ih
    | begun halted instruction =>
      have passes := (sound.instructed halted instruction).2
      exact (passes.changes sound (instruction.moving_subset _)).marked ih

/-! ## Calls of other threads -/

/-- Interrupting a wait leaves the loop alone. -/
theorem loop_interrupt (world : World) : (World.interrupt world).2.loop = world.loop := by
  unfold World.interrupt
  rw [StateM.bind_apply, StateM.get_apply]
  by_cases fitted : 0 ≤ world.wakeup
  · simp only [if_pos fitted]
    rfl
  · simp only [if_neg fitted]
    rfl

/-- Asking for a callback on behalf of another thread finishes at once. -/
theorem finishes_callRemote (name : String) (body : Body) : Finishes (.callRemote name body) :=
  ⟨fun runner => by cases runner <;> rfl, fun _ _ _ => rfl⟩

/-- Asking the loop to return from outside finishes at once. -/
theorem finishes_remoteStop : Finishes (.loop .remoteStop) :=
  ⟨fun runner => by cases runner <;> rfl, fun _ _ _ => rfl⟩

/-- A callback that is asked for comes after those that were asked for before. -/
theorem Calls.loop_callRemote {name : String} {body : Body} (calls : Calls (.callRemote name body) machine after) :
    after.signal.isCall = false ∧ after.world.loop = { machine.world.loop with
      remote := machine.world.loop.remote ++ [.script (.remote name) body] } := by
  obtain ⟨protocol, world, answered⟩ := calls.answered (finishes_callRemote name body)
  have loop : (World.doInstruction protocol (.callRemote name body) world).2.loop = { world.loop with
      remote := world.loop.remote ++ [.script (.remote name) body] } := loop_interrupt _
  constructor
  · rw [answered.signal]
    rfl
  · rw [answered.done, loop, answered.loop]

/-- A wish that the loop return is noted. -/
theorem Calls.loop_remoteStop (calls : Calls (.loop .remoteStop) machine after) :
    after.signal.isCall = false ∧ after.world.loop = { machine.world.loop with remoteStop := true } := by
  obtain ⟨protocol, world, answered⟩ := calls.answered finishes_remoteStop
  have loop : (World.doInstruction protocol (.loop .remoteStop) world).2.loop =
      { world.loop with remoteStop := true } := loop_interrupt _
  constructor
  · rw [answered.signal]
    rfl
  · rw [answered.done, loop, answered.loop]

/-- Two instructions ask for something on behalf of another thread. -/
theorem eq_of_requests {instruction : Instruction} (requests : instruction.requests = true) :
    (∃ name body, instruction = .callRemote name body) ∨ instruction = .loop .remoteStop := by
  cases instruction with
  | callRemote name body => exact Or.inl ⟨name, body, rfl⟩
  | loop call =>
    cases call with
    | remoteStop => exact Or.inr rfl
    | _ => cases requests
  | _ => cases requests

/-! ## What iterations find -/

namespace Enters

variable {within : Frame} {start : World} {lower : List Frame}

/-- Up to the end of the poll everything that was asked for is taken over as it is, and the loop is to return
if it was asked to. -/
theorem polled (enters : Enters machine within start lower after) (marked : machine.world.loop.Marked)
    (opened : (polled within start).2.loop.closed = false) :
    (polled within start).2.loop.Marked ∧
      (polled within start).2.loop.remoteCalls = machine.world.loop.remoteCalls ∧
        (polled within start).2.loop.remoteStop = false ∧
          (machine.world.loop.stopping = true ∨ machine.world.loop.remoteStop = true →
            (polled within start).2.loop.stopping = true) := by
  have outset := enters.setsOut.loop
  have others : ∀ aspect ∈ World.calm, aspect ∉ [Aspect.requests, .taking, .closing, .runs] := by decide
  have prepares : start.loop.Relays (prepared start).loop := .prepare start.loop _
  have polls : (prepared start).loop.Relays (Machine.polled within start).2.loop := enters.polls.relays others
  have found := prepares.trans polls
  have kept : (Machine.polled within start).2.loop.remoteStop = (prepared start).loop.remoteStop :=
    enters.polls.remoteStop (by decide)
  obtain ⟨-, stopped, stopping⟩ := start.loop.requests_prepare start.host.kernel.now
  refine ⟨found.marked (outset.marked marked), ?_, ?_, fun stops => polls.stopping ?_⟩
  · rw [found.calls (outset.marked marked) opened, outset.remoteCalls]
  · rw [kept]
    exact stopped
  · change (start.loop.prepare start.host.kernel.now).2.stopping = true
    rw [stopping, outset.stops.1, outset.stops.2]
    simpa using stops

/-- When an iteration has begun, everything that was asked for was taken over as it is, and the loop is to
return if it was asked to. -/
theorem requests (enters : Enters machine within start lower after) (marked : machine.world.loop.Marked)
    (opened : after.world.loop.closed = false) (before : machine.world.loop.closed = false) :
    after.world.loop.remoteCalls = machine.world.loop.remoteCalls ∧
      after.world.loop.remoteStop = false ∧
        (machine.world.loop.stopping = true ∨ machine.world.loop.remoteStop = true →
          after.world.loop.stopping = true) := by
  rcases enters.begins before with ⟨error, failed, rfl⟩ | ⟨done, rfl⟩
  · exact (enters.polled marked opened).2
  · have gathers : (Machine.polled within start).2.loop.Relays
        (gathered (Machine.polled within start).2).loop := .gather _ _
    obtain ⟨marked, calls, -, stopping⟩ := enters.polled marked (gathers.closed opened)
    obtain ⟨-, stopped, -⟩ := (Machine.polled within start).2.loop.requests_gather
      (Machine.polled within start).2.host.kernel.now
    refine ⟨?_, stopped, fun stops => gathers.stopping (stopping stops)⟩
    rw [gathers.calls marked opened, calls]

end Enters

/-! ## Steps -/

/-- Unless another thread asks for a callback, a step leaves what other threads asked for as it is, or it
starts the first of it. -/
theorem Visits.remoteCalls (visits : Visits sort machine)
    (opens : ∀ state, sort state → state.world.loop.closed = false) (step : Step machine after)
    (fine : sort after) (unasked : ∀ name body, ¬ Calls (.callRemote name body) machine after) :
    machine.world.loop.remoteCalls =
      after.hand.toList.filter Callback.isRemote ++ after.world.loop.remoteCalls := by
  have marked := visits.reachable.marked
  have quietly (quiet : after.signal.isCall = false) : machine.world.loop.remoteCalls =
      after.hand.toList.filter Callback.isRemote ++ after.world.loop.remoteCalls := by
    rw [hand_of_isCall quiet]
    change _ = after.world.loop.remoteCalls
    cases visits.reachable.sound.steers step (opens after fine) with
    | enters within start lower enters =>
      exact (enters.requests marked (opens after fine) (opens machine visits.fine)).1.symm
    | leaves frame leaves => exact leaves.spares.remoteCalls.symm
    | requests instruction requests calls =>
      rcases eq_of_requests requests with ⟨name, body, rfl⟩ | rfl
      · exact absurd calls (unasked name body)
      · rw [calls.loop_remoteStop.2]
        rfl
    | takes left below signal split made =>
      rcases exists_stepIteration made with ⟨callback, rest, lower, -, -, -, -, called⟩ | ⟨same, -⟩
      · rw [called] at quiet
        cases quiet
      · rw [same]
    | apart aspects more others passes =>
      have relays := (passes.changes visits.reachable.sound more).relays
        fun aspect member => fun listed => others aspect member (by
          unfold steering
          simp only [List.mem_cons] at listed ⊢
          tauto)
      exact (relays.calls marked (opens after fine)).symm
  cases visits.goes opens step fine with
  | taking left callback rest lower uncalled called ready loop =>
    have first : callback :: rest = [callback] ++ rest := rfl
    rw [hand_of_called called, loop]
    unfold Loop.remoteCalls
    rw [ready, first, List.filter_append, List.append_assoc]
    rfl
  | steady proceeds stale quiet | counting proceeds uncalled quiet | polling task activity called quiet
  | ending task value uncalled ended quiet | suspending task activity uncalled quiet
  | abandoning task uncalled quiet | deserting future uncalled quiet => exact quietly quiet
  | finishing left uncalled ended => exact quietly (by rw [ended]; rfl)

/-! ## What is asked for in a run -/

/-- What other threads ask for, and which callbacks are started, on the way from one state of a run to a later
one, each in their order. -/
inductive Heard (sort : Machine → Prop) (first : Machine) :
    List Callback → List Callback → Machine → Prop
  /-- Nothing has happened yet. -/
  | refl : Heard sort first [] [] first
  /-- Another thread asks for a callback. -/
  | asked {asked started : List Callback} {before after : Machine} {name : String} {body : Body}
      (earlier : Heard sort first asked started before)
      (calls : Calls (.callRemote name body) before after) (fine : sort after) :
      Heard sort first (asked ++ [.script (.remote name) body]) started after
  /-- No other thread asks for a callback. -/
  | other {asked started : List Callback} {before after : Machine}
      (earlier : Heard sort first asked started before) (step : Step before after) (fine : sort after)
      (unasked : ∀ name body, ¬ Calls (.callRemote name body) before after) :
      Heard sort first asked (started ++ after.hand.toList) after

namespace Heard

/-- What is started is started on the way to the later state. -/
theorem traces (heard : Heard sort first asked started last) :
    ∃ appended, Traces sort first appended started last := by
  induction heard with
  | refl => exact ⟨[], .refl⟩
  | @asked _ _ before after _ _ _ calls fine ih =>
    obtain ⟨appended, traces⟩ := ih
    have further := traces.step calls.step fine
    rw [hand_of_isCall calls.loop_callRemote.1, Option.toList_none, List.append_nil] at further
    exact ⟨_, further⟩
  | other _ step fine _ ih =>
    obtain ⟨appended, traces⟩ := ih
    exact ⟨_, traces.step step fine⟩

/-- A run in which requests were heard leads onward. -/
theorem onward (heard : Heard sort first asked started last) : Onward sort first last := by
  obtain ⟨appended, traces⟩ := heard.traces
  exact traces.onward

/-- What was heard through states of one sort was heard through states of a wider one. -/
theorem mono {wider : Machine → Prop} (heard : Heard sort first asked started last)
    (wide : ∀ state, sort state → wider state) : Heard wider first asked started last := by
  induction heard with
  | refl => exact .refl
  | asked _ calls fine ih => exact ih.asked calls (wide _ fine)
  | other _ step fine unasked ih => exact ih.other step (wide _ fine) unasked

/-- What other threads asked for is started in the order in which it was asked for, or it still waits. -/
theorem order (heard : Heard sort first asked started last) (visits : Visits sort first)
    (opens : ∀ state, sort state → state.world.loop.closed = false) :
    first.world.loop.remoteCalls ++ asked =
      started.filter Callback.isRemote ++ last.world.loop.remoteCalls := by
  induction heard with
  | refl => simp
  | @asked asked started before after name body earlier calls fine ih =>
    have more : after.world.loop.remoteCalls =
        before.world.loop.remoteCalls ++ [.script (.remote name) body] := by
      rw [calls.loop_callRemote.2]
      exact (List.append_assoc _ _ _).symm
    rw [more, ← List.append_assoc, ← List.append_assoc, ih]
  | @other asked started before after earlier step fine unasked ih =>
    have conveys := (visits.onward earlier.onward).remoteCalls opens step fine unasked
    rw [ih, conveys, List.filter_append, List.append_assoc]

/-- Whatever step comes next, it is known what is asked for in it. -/
theorem exists_step (heard : Heard sort first asked started machine) (step : Step machine after)
    (fine : sort after) : ∃ more, Heard sort first (asked ++ more) (started ++ after.hand.toList) after := by
  by_cases calls : ∃ name body, Calls (.callRemote name body) machine after
  · obtain ⟨name, body, calls⟩ := calls
    refine ⟨[.script (.remote name) body], ?_⟩
    rw [hand_of_isCall calls.loop_callRemote.1, Option.toList_none, List.append_nil]
    exact heard.asked calls fine
  · refine ⟨[], ?_⟩
    rw [List.append_nil]
    exact heard.other step fine fun name body here => calls ⟨name, body, here⟩

end Heard

/-- On the way to a later state it is known what is asked for. -/
theorem Onward.exists_heard (onward : Onward sort first last) :
    ∃ asked started, Heard sort first asked started last := by
  induction onward with
  | refl => exact ⟨[], [], .refl⟩
  | tail _ next ih =>
    obtain ⟨asked, started, heard⟩ := ih
    obtain ⟨more, heard⟩ := heard.exists_step next.1 next.2
    exact ⟨_, _, heard⟩

/-- An iteration starts what other threads asked for before it began, and nothing that they ask for
meanwhile. -/
theorem Visits.hears {counted later : Machine} (visits : Visits IsSingle machine) (idle : ¬ machine.Iterates)
    (step : Step machine counted) (fine : counted.IsSingle) (iterates : counted.Iterates)
    (heard : Heard IsIterating counted asked started later) (ending : Step later last)
    (single : last.IsSingle) (exited : ¬ last.Iterates) :
    started.filter Callback.isRemote = machine.world.loop.remoteCalls ∧
      last.world.loop.remoteCalls = asked := by
  have opens (state : Machine) (single : state.IsSingle) : state.world.loop.closed = false := single.2
  have counts := visits.takesCounted idle step fine iterates
  obtain ⟨appended, traces⟩ := heard.traces
  obtain ⟨all, -, ended⟩ := counts.ends traces ending single exited
  have reached : Visits IsSingle counted := .step visits step fine
  have here : Visits IsSingle later := reached.onward (heard.mono fun _ => And.left).onward
  -- Neither the step that begins the iteration nor the one that ends it asks for a callback.
  have unasked (name : String) (body : Body) : ¬ Calls (.callRemote name body) machine counted := by
    intro calls
    have none := counts.collected.1
    rw [calls.loop_callRemote.2] at none
    simp at none
  have unasked' (name : String) (body : Body) : ¬ Calls (.callRemote name body) later last := by
    intro calls
    obtain ⟨protocol, world, answered⟩ := calls.answered (finishes_callRemote name body)
    have both := answered.signal.symm.trans ended
    cases both
  have begins : machine.world.loop.remoteCalls = counted.world.loop.remoteCalls := by
    obtain ⟨-, -, -, quiet⟩ := (visits.goes opens step fine).counts idle iterates
    have conveys := visits.remoteCalls opens step fine unasked
    rwa [hand_of_isCall quiet] at conveys
  have ends : later.world.loop.remoteCalls = last.world.loop.remoteCalls := by
    have conveys := here.remoteCalls opens ending single unasked'
    rwa [hand_of_isCall (by rw [ended]; rfl)] at conveys
  have order := (heard.mono fun _ => And.left).order reached opens
  have found : counted.world.loop.remoteCalls = started.filter Callback.isRemote := by
    rw [all]
    unfold Loop.remoteCalls
    rw [counts.collected.1, List.append_nil]
  rw [found] at order
  exact ⟨begins ▸ found.symm, ends ▸ (List.append_cancel_left order).symm⟩

/-! ## The wish that the loop return -/

/-- A wish that the loop return is kept until an iteration begins. -/
theorem Visits.keeps_wish (visits : Visits sort machine)
    (opens : ∀ state, sort state → state.world.loop.closed = false) (step : Step machine after)
    (fine : sort after) :
    (∃ within start lower, Enters machine within start lower after) ∨
      Calls (.loop .remoteStop) machine after ∨
        after.world.loop.remoteStop = machine.world.loop.remoteStop := by
  cases visits.reachable.sound.steers step (opens after fine) with
  | enters within start lower enters => exact Or.inl ⟨within, start, lower, enters⟩
  | leaves frame leaves =>
    have flags := leaves.spares.flags
    exact Or.inr (Or.inr (congrArg Prod.fst flags))
  | requests instruction requests calls =>
    rcases eq_of_requests requests with ⟨name, body, rfl⟩ | rfl
    · right; right
      rw [calls.loop_callRemote.2]
    · exact Or.inr (Or.inl calls)
  | takes left below signal split made =>
    right; right
    rcases exists_stepIteration made with ⟨callback, rest, lower, -, -, loop, -⟩ | ⟨loop, -⟩
    · rw [loop]
    · rw [loop]
  | apart aspects more others passes =>
    right; right
    exact (passes.changes visits.reachable.sound more).remoteStop fun aspect member listed =>
      others aspect member (by
        unfold steering
        simp only [List.mem_cons] at listed ⊢
        tauto)

/-- A loop that is to return is to return until a run of it ends that was to go on until then. -/
theorem Visits.keeps_stopping (visits : Visits sort machine)
    (opens : ∀ state, sort state → state.world.loop.closed = false) (step : Step machine after)
    (fine : sort after) (stops : machine.world.loop.stopping = true) :
    after.world.loop.stopping = true ∨ ∃ goal, Leaves (.running goal) machine after := by
  cases visits.reachable.sound.steers step (opens after fine) with
  | enters within start lower enters =>
    left
    exact (enters.requests visits.reachable.marked (opens after fine) (opens machine visits.fine)).2.2
      (Or.inl stops)
  | leaves frame leaves =>
    cases frame with
    | running goal => exact Or.inr ⟨goal, leaves⟩
    | repeated count => exact Or.inl ((leaves.keeps count rfl).2.trans stops)
    | _ => cases leaves.run
  | requests instruction requests calls =>
    left
    rcases eq_of_requests requests with ⟨name, body, rfl⟩ | rfl
    · rw [calls.loop_callRemote.2]
      exact stops
    · rw [calls.loop_remoteStop.2]
      exact stops
  | takes left below signal split made =>
    left
    rcases exists_stepIteration made with ⟨callback, rest, lower, -, -, loop, -⟩ | ⟨loop, -⟩
    · rw [loop]
      exact stops
    · rw [loop]
      exact stops
  | apart aspects more others passes =>
    left
    have relays := (passes.changes visits.reachable.sound more).relays fun aspect member listed =>
      others aspect member (by
        unfold steering
        simp only [List.mem_cons] at listed ⊢
        tauto)
    exact relays.stopping stops

/-- A run that was to go on until the loop is asked to return is about to return: its last iteration is under
way, or the run is about to receive the end of it. -/
structure Returning (goal : Option TaskId) (lower : List Frame) (machine : Machine) : Prop where
  /-- The loop is to return. -/
  stopping : machine.world.loop.stopping = true
  /-- An iteration is under way on top of the run, or the run receives the end of it. -/
  frames : (∃ upper left, machine.frames = upper ++ .iteration left :: .running goal :: lower) ∨
    machine.frames = .running goal :: lower ∧ ∃ result, machine.signal = .iterated result

/-- A run returns to the frames below it: it answers, and the loop neither runs nor is to return any more.
Whether another thread asked the loop to return meanwhile is left alone. -/
structure Returns (lower : List Frame) (machine after : Machine) : Prop where
  /-- The frame of the run is gone. -/
  frames : after.frames = lower
  /-- The run answers. -/
  answers : ∃ value, after.signal = .answer value
  /-- The loop does not run. -/
  running : after.world.loop.running = false
  /-- It is not to return any more. -/
  stopping : after.world.loop.stopping = false
  /-- A wish that came later is kept. -/
  remoteStop : after.world.loop.remoteStop = machine.world.loop.remoteStop

/-- A run that is left returns to the frames below it. -/
theorem Leaves.returns {goal : Option TaskId} {lower : List Frame}
    (leaves : Leaves (.running goal) machine after) (frames : machine.frames = .running goal :: lower) :
    Returns lower machine after := by
  have below : after.frames = lower := (List.cons.inj (leaves.frames.symm.trans frames)).2
  obtain ⟨running, stopping⟩ := leaves.idle goal rfl
  exact ⟨below, leaves.answers, running, stopping, congrArg Prod.fst leaves.spares.flags⟩

/-- A run whose iteration found that the loop is to return is about to return. -/
theorem Enters.returning {goal : Option TaskId} {start : World} {lower : List Frame}
    (enters : Enters machine (.running goal) start lower after)
    (before : machine.world.loop.closed = false) (stops : after.world.loop.stopping = true) :
    Returning goal lower after := by
  refine ⟨stops, ?_⟩
  rcases enters.begins before with ⟨error, -, rfl⟩ | ⟨-, rfl⟩
  · exact Or.inr ⟨rfl, _, rfl⟩
  · exact Or.inl ⟨[], _, rfl⟩

/-- The run that receives the end of its last iteration returns as soon as nothing is left that was given
up. -/
theorem Sound.returns {goal : Option TaskId} {lower : List Frame} {result : Except Error Unit}
    (sound : machine.Sound False) (stops : machine.world.loop.stopping = true)
    (frames : machine.frames = .running goal :: lower) (signal : machine.signal = .iterated result)
    (step : Step machine after) (opened : after.world.loop.closed = false) :
    after.frames = machine.frames ∧ after.signal = machine.signal ∨ Returns lower machine after := by
  cases step.does with
  | settled dropped => exact Or.inl ⟨rfl, rfl⟩
  | acted clean acts =>
    rw [signal] at acts
    cases acts
  | delivered clean done split =>
    obtain ⟨rfl, rfl⟩ := List.cons.inj (frames.symm.trans split)
    right
    rw [signal] at opened ⊢
    have finished : (result.toBool && !machine.world.loop.stopping) = false := by
      rw [stops]
      exact Bool.and_false _
    exact (leaves_running signal frames finished opened).returns frames
  | begun halted instruction =>
    obtain ⟨-, empty, -⟩ := sound.answered halted
    rw [empty] at frames
    cases frames

/-- A run that is about to return stays so until it returns. -/
theorem Returning.step {goal : Option TaskId} {lower : List Frame} (returning : Returning goal lower machine)
    (visits : Visits IsSingle machine) (step : Step machine after) (fine : after.IsSingle) :
    Returning goal lower after ∨ Returns lower machine after := by
  have opens (state : Machine) (single : state.IsSingle) : state.world.loop.closed = false := single.2
  have sound : machine.Sound False := visits.reachable.sound
  rcases visits.keeps_stopping opens step fine returning.stopping with stops | ⟨other, leaves⟩
  · rcases returning.frames with ⟨upper, left, frames⟩ | ⟨frames, result, signal⟩
    · left
      refine ⟨stops, ?_⟩
      cases step.does with
      | settled dropped => exact Or.inl ⟨upper, left, frames⟩
      | @acted act clean acts =>
        refine Or.inl ⟨(act machine.holding).1.1 ++ upper, left, ?_⟩
        rw [List.append_assoc, ← frames]
        rfl
      | @delivered frame below clean done split =>
        cases upper with
        | nil =>
          obtain ⟨rfl, rfl⟩ := List.cons.inj (split.symm.trans frames)
          have signal := (split ▸ sound.fits : Fits _ (_ :: _)).1.eq_proceed rfl done
          rw [signal]
          rcases exists_stepIteration (show machine.move _ (stepIteration left) = _ from rfl) with
            ⟨callback, rest, less, -, -, -, further, -⟩ | ⟨-, further, ended⟩
          · exact Or.inl ⟨[.letGo callback.refs], less, further⟩
          · exact Or.inr ⟨further, _, ended⟩
        | cons first upper =>
          obtain ⟨rfl, rfl⟩ := List.cons.inj (split.symm.trans frames)
          let received := (Machine.deliver machine.signal frame machine.holding).1.1
          refine Or.inl ⟨received ++ upper, left, ?_⟩
          rw [List.append_assoc]
          rfl
      | begun halted instruction =>
        obtain ⟨-, empty, -⟩ := sound.answered halted
        rw [empty] at frames
        simp at frames
    · rcases sound.returns returning.stopping frames signal step (opens after fine) with ⟨same, same'⟩ | returns
      · exact Or.inl ⟨stops, Or.inr ⟨same.trans frames, result, same'.trans signal⟩⟩
      · exact Or.inr returns
  · -- The run that ends is the only one.
    obtain ⟨result, signal⟩ := leaves.received
    rcases returning.frames with ⟨upper, left, frames⟩ | ⟨frames, -⟩
    · have two : 2 ≤ machine.runs := by
        unfold runs
        rw [leaves.frames] at frames ⊢
        cases upper with
        | nil => cases frames
        | cons first upper =>
          have below : after.frames = upper ++ .iteration left :: .running goal :: lower :=
            (List.cons.inj frames).2
          rw [below, List.countP_cons_of_pos rfl, List.countP_append,
            List.countP_cons_of_neg Bool.false_ne_true, List.countP_cons_of_pos rfl]
          omega
      have one := visits.fine.1
      omega
    · obtain ⟨rfl, -⟩ : other = goal ∧ after.frames = lower := by
        have both := List.cons.inj (leaves.frames.symm.trans frames)
        simpa using both
      exact Or.inr (leaves.returns frames)

/-- No iteration begins in a run that is about to return. -/
theorem Returning.not_begins {goal : Option TaskId} {lower : List Frame}
    (returning : Returning goal lower machine) (visits : Visits IsSingle machine) (step : Step machine after)
    (fine : after.IsSingle) : ¬ BeginsIteration machine after := by
  intro begins
  have single := (Reachable.sound (visits.step step fine).reachable).countP_isIteration fine.1
  rw [begins, List.countP_cons_of_pos rfl] at single
  rcases returning.frames with ⟨upper, left, frames⟩ | ⟨frames, result, signal⟩
  · have positive : 0 < machine.stages.countP Frame.isIteration := by
      apply List.countP_pos_iff.mpr
      refine ⟨.iteration left, List.mem_filter.mpr ⟨?_, rfl⟩, rfl⟩
      rw [frames]
      exact List.mem_append_right _ List.mem_cons_self
    omega
  · have longer := congrArg List.length begins
    have same : after.stages = machine.stages := by
      unfold stages
      rcases visits.reachable.sound.returns returning.stopping frames signal step fine.2 with
        ⟨same, -⟩ | returns
      · rw [same]
      · rw [returns.frames, frames, List.filter_cons_of_neg Bool.false_ne_true]
    rw [same, List.length_cons] at longer
    omega

/-- A state in which no run goes on within another one and a run is about to return. -/
def IsReturning (goal : Option TaskId) (lower : List Frame) (machine : Machine) : Prop :=
  machine.IsSingle ∧ Returning goal lower machine

/-- A run that is about to return is about to return in every later state, up to the one in which it has
returned. -/
theorem Returning.onward {goal : Option TaskId} {lower : List Frame} (returning : Returning goal lower first)
    (visits : Visits IsSingle first) (onward : Onward IsSingle first last) :
    Onward (IsReturning goal lower) first last ∨ ∃ before returned,
      Onward (IsReturning goal lower) first before ∧ Step before returned ∧ returned.IsSingle ∧
        Returns lower before returned ∧ Onward IsSingle returned last := by
  induction onward with
  | refl => exact Or.inl .refl
  | @tail before after earlier next ih =>
    rcases ih with still | ⟨ended, returned, way, step, fine, returns, rest⟩
    · have here : Returning goal lower before := by
        cases still with
        | refl => exact returning
        | tail _ last => exact last.2.2
      have reached := visits.onward (still.mono fun _ => And.left)
      rcases here.step reached next.1 next.2 with stays | returns
      · exact Or.inl (still.tail ⟨next.1, next.2, stays⟩)
      · exact Or.inr ⟨before, after, still, next.1, next.2, returns, .refl⟩
    · exact Or.inr ⟨ended, returned, way, step, fine, returns, rest.tail next⟩

/-! ## Every state of a run -/

/-- In a run of which it is known what other threads asked for and what was started, their requests are
heard. -/
structure HearsRequests (start : Machine) (asked started : List Callback) (machine : Machine) : Prop where
  /-- What was asked for was started, each callback once and in order, but for what is still to be started:
  what was taken over and what was not. -/
  order : asked = started.filter Callback.isRemote ++ machine.world.loop.remoteCalls
  /-- Whatever step comes next, it is known what is asked for in it. -/
  next : ∀ {after}, Step machine after → after.IsSingle →
    ∃ more, Heard IsSingle start (asked ++ more) (started ++ after.hand.toList) after
  /-- A callback that is started is run by the next step. -/
  runs : ∀ {callback after}, machine.signal = .call callback → Step machine after →
    after = machine.move machine.frames (runCallback callback)
  /-- An iteration that begins and ends has started what was still to be started when it began, each
  callback once and in order. What was asked for meanwhile is still to be started. -/
  iterations : ∀ {counted later last late run}, ¬ machine.Iterates → Step machine counted →
    counted.IsSingle → counted.Iterates → Heard IsIterating counted late run later → Step later last →
      last.IsSingle → ¬ last.Iterates →
        run.filter Callback.isRemote = machine.world.loop.remoteCalls ∧ last.world.loop.remoteCalls = late
  /-- Another thread that wishes the loop to return is heard. -/
  wishes : ∀ {after}, Calls (.loop .remoteStop) machine after → after.world.loop.remoteStop = true
  /-- The wish is kept until an iteration begins. -/
  keeps : ∀ {after}, Step machine after → after.IsSingle → machine.world.loop.remoteStop = true →
    after.world.loop.remoteStop = true ∨ ∃ within below lower, Enters machine within below lower after
  /-- Nothing else raises it. -/
  raised : ∀ {after}, Step machine after → after.IsSingle → machine.world.loop.remoteStop = false →
    after.world.loop.remoteStop = true → Calls (.loop .remoteStop) machine after
  /-- An iteration that begins consumes the wish. -/
  consumes : ∀ {within below lower after}, Enters machine within below lower after → after.IsSingle →
    after.world.loop.remoteStop = false
  /-- The run that the iteration belongs to is about to return from then on, until it has returned. -/
  returns : ∀ {goal below lower after last}, machine.world.loop.remoteStop = true → Step machine after →
    Enters machine (.running goal) below lower after → after.IsSingle → Onward IsSingle after last →
      Onward (IsReturning goal lower) after last ∨ ∃ before returned,
        Onward (IsReturning goal lower) after before ∧ Step before returned ∧ returned.IsSingle ∧
          Returns lower before returned ∧ Onward IsSingle returned last
  /-- In a run that is about to return no further iteration begins. -/
  lastIteration : ∀ {goal lower after}, Returning goal lower machine → Step machine after → after.IsSingle →
    ¬ BeginsIteration machine after

/-- Nothing was asked for when an open loop was just built. -/
theorem Initial.remoteCalls (initial : Initial machine) (opened : machine.world.loop.closed = false) :
    machine.world.loop.remoteCalls = [] := by
  obtain ⟨-, -, bare, isBare, settled, course⟩ := initial.course
  have changes := course.changes settled (List.subset_cons_self _ _)
  have relays := changes.relays (by decide)
  cases isBare
  exact relays.calls ⟨by simp, by simp⟩ opened

/-- While no run of an open loop goes on within another one, the requests of other threads are heard. -/
theorem hearsRequests {start : Machine} (initial : Initial start) (fine : start.IsSingle)
    (heard : Heard IsSingle start asked started machine) :
    HearsRequests start asked started machine := by
  have opens (state : Machine) (single : state.IsSingle) : state.world.loop.closed = false := single.2
  have visits : Visits IsSingle machine := (Visits.initial initial fine).onward heard.onward
  refine ⟨?_, heard.exists_step, visits.reachable.sound.eq_move_of_called, visits.hears, fun calls => ?_,
    fun step single wish => ?_, fun step single quiet wish => ?_, fun enters single => ?_, ?_,
    fun returning => returning.not_begins visits⟩
  · have order := heard.order (.initial initial fine) opens
    rwa [initial.remoteCalls fine.2, List.nil_append] at order
  · rw [calls.loop_remoteStop.2]
  · rcases visits.keeps_wish opens step single with enters | calls | same
    · exact Or.inr enters
    · left
      rw [calls.loop_remoteStop.2]
    · exact Or.inl (same.trans wish)
  · rcases visits.keeps_wish opens step single with ⟨within, below, lower, enters⟩ | calls | same
    · have gone := (enters.requests visits.reachable.marked single.2 visits.fine.2).2.1
      rw [gone] at wish
      cases wish
    · exact calls
    · rw [same, quiet] at wish
      cases wish
  · exact (enters.requests visits.reachable.marked single.2 visits.fine.2).2.1
  · intro goal below lower after last wish step enters single onward
    have stops := (enters.requests visits.reachable.marked single.2 visits.fine.2).2.2 (Or.inr wish)
    have returning := enters.returning visits.fine.2 stops
    exact returning.onward (visits.step step single) onward

/-- Another thread asked for a callback, which was run; meanwhile it asked for another one and wished the
loop to return. -/
def hurrying : Machine := scripted.drive singly 20
  [.callRemote "first" [.callRemote "second" [], .loop .remoteStop], .runOnce 1]

/-- One callback is still to be started, and the wish is still to be consumed. -/
theorem hearsRequests_hurrying : ∃ asked started, HearsRequests scripted asked started hurrying ∧
    hurrying.world.loop.remoteCalls.length = 1 ∧ hurrying.world.loop.remoteStop = true ∧
      hurrying.frames.length = 0 := by
  have onward : Onward IsSingle scripted hurrying := onward_singly 20 _
  obtain ⟨asked, started, heard⟩ := onward.exists_heard
  have single : scripted.IsSingle := isSingle_of_singly scripted rfl
  exact ⟨asked, started, hearsRequests initial_scripted single heard, by decide +kernel, by decide +kernel,
    by decide +kernel⟩

end Machine

end EventLoop

import EventLoop.Proofs.Machine.Callbacks

/-!
# Moves of frames

A frame receives what was just done and goes on. What the frame and the signal have at stake together is
at stake afterwards. An iteration takes the next callback, and the end of a close lets go of everything
that waits; no other frame does.
-/
namespace EventLoop

open Script (Station Activity Pending Branch Body)
open World (Does Performs Settled Ends Turn.calm Turn.dealing leaving moving shelter calm)

variable {held : List Ref} {strict : Prop} {down : Demand} {owner : Option TaskId}
variable {rest : Multiset Stake} {world : World}

/-! ## Proceeding -/

namespace Machine

/-- An iteration with nothing left to run is over. -/
theorem stepIteration_of_idle {left : Nat} (idle : world.loop.ready = []) :
    stepIteration (left + 1) world = (([], .iterated (.ok ())), world) := by
  unfold stepIteration
  simp only [StateM.bind_apply, World.onLoop_apply, Loop.takeReady]
  rw [idle]
  rfl

/-- An iteration takes the callback that is ready first. -/
theorem stepIteration_of_ready {left : Nat} {callback : Callback} {others : List Callback}
    (ready : world.loop.ready = callback :: others) :
    stepIteration (left + 1) world = (([.letGo callback.refs, .iteration left], .call callback),
      { world with loop := { world.loop with ready := others } }) := by
  unfold stepIteration
  simp only [StateM.bind_apply, World.onLoop_apply, Loop.takeReady]
  rw [ready]
  rfl

end Machine

namespace Moves

/-- The next callback that is taken resolves no future of a queue. -/
theorem takeReady : Performs held (.taking :: moving) rest world (World.onLoop (·.takeReady))
    fun taken left reached => left = rest ∧ reached.loop.dropped = world.loop.dropped ∧
      ∀ callback, taken = some callback → ∀ future ∈ callback.resolves?, reached.loop.Knows
        (shelter held (placesOf (rest + reached.loop.stakes)) reached).known future := by
  have does (settled : Settled held (rest + world.loop.stakes) world) :
      Does (shelter held (placesOf (rest + world.loop.stakes)) world) world.loop.futures.size
        [.taking] world (World.onLoop (·.takeReady))
        fun taken reached => reached.loop.dropped = world.loop.dropped ∧
          ∀ callback, taken = some callback → ∀ future ∈ callback.resolves?, reached.loop.Knows
            (shelter held (placesOf (rest + reached.loop.stakes)) reached).known future := by
    refine Does.onLoop List.mem_cons_self (.readyTaken world) ?_
    have same : world.loop.takeReady.2.stakes = world.loop.stakes :=
      Loop.stakes_congr (congrArg Table.size (Loop.tasks_takeReady _))
        (Loop.activityOf_congr (Loop.tasks_takeReady _))
    have scope : shelter held (placesOf (rest + world.loop.stakes))
        { world with loop := world.loop.takeReady.2 } =
          shelter held (placesOf (rest + world.loop.stakes)) world :=
      World.shelter_congr (World.queue_congr rfl rfl rfl rfl)
    dsimp only
    rw [same, scope]
    unfold Loop.takeReady
    split
    · exact ⟨rfl, fun callback taken => nomatch taken⟩
    · rename_i first others ready
      refine ⟨rfl, ?_⟩
      rintro _ ⟨⟩ future resolved
      exact settled.orderly.within.loop.ready first (ready ▸ List.mem_cons_self) future resolved
  exact Performs.quietly (by decide) (by decide) does

/-- Running the next callback of an iteration is a move, if someone below hears that the iteration is
over. -/
theorem stepIteration (left : Nat) (clean : world.loop.dropped = [])
    (iterated : Kind.iterated ∈ down.kinds) :
    Moves held (.taking :: moving) strict down owner rest rest world (Machine.stepIteration left) := by
  cases left with
  | zero => exact give rfl (Demand.single_le iterated)
  | succ left =>
    refine following takeReady ?_
    rintro taken _ reached ⟨rfl, same, known⟩
    cases taken with
    | none => exact give rfl (Demand.single_le iterated)
    | some callback =>
      refine pure ⟨(zero_add _).symm, ?_, ?_, trivial, ?_⟩
      · refine ⟨⟨List.Subset.refl _, fun _ => id, fun _ => rfl⟩,
          ⟨List.Subset.refl _, fun _ => id, fun _ => rfl⟩, Demand.single_le iterated⟩
      · intro frame member
        rcases List.mem_cons.mp member with rfl | member
        · trivial
        · rw [List.mem_singleton.mp member]
          trivial
      · rintro _ ⟨⟩
        exact ⟨same.trans clean, known callback rfl⟩

/-- Everything that waits is let go of. -/
theorem finishClose :
    Performs held (.closing :: moving) rest world World.finishClose (leaving rest) := by
  have closed : Performs held (.closing :: moving) rest world World.closePoller (leaving rest) :=
    (Turn.calm fun _ _ => World.Calm.closePoller).mono (List.subset_cons_self _ _)
  refine Performs.bind closed ?_
  rintro _ _ reached rfl
  have does (scope : Scope) (n : Nat) : Does scope n [.closing] reached
      (World.changeLoop (·.dropAll)) World.anyhow :=
    Does.changeLoop List.mem_cons_self (.cleared reached) trivial
  exact (Performs.quietly (by decide) (by decide) fun _ => does _ _).leaves

/-- The innermost frame goes on. -/
theorem proceedWith (frame : Frame) (takes : frame.Takes { kinds := [.proceed] })
    (clean : world.loop.dropped = []) :
    Moves held frame.aspects strict frame.demand owner (stakesOf frame.stations + rest) rest world
      (Machine.proceedWith frame) := by
  have received := takes.kinds List.mem_cons_self
  have ends {aspects : List Aspect} (reached : World) (proceeds : Kind.proceed ∈ frame.demand.kinds) :
      Moves held aspects strict frame.demand owner rest rest reached (Machine.give .proceed) :=
    give rfl (Demand.single_le proceeds)
  cases frame with
  | iteration left =>
    rw [Frame.stations, stakesOf_nil, zero_add]
    exact stepIteration left clean List.mem_cons_self
  | letGo refs =>
    rw [Frame.stations, stakesOf_nil, zero_add]
    exact after (Turn.calm fun _ _ => World.Calm.dropAll refs)
      fun _ reached _ => ends reached List.mem_cons_self
  | afterData transport =>
    rw [Frame.stations, stakesOf_nil, zero_add]
    exact after (Turn.dealing fun _ fresh => World.Calm.advance fresh transport
      fun _ => Net.Transport.Yields.receiveNext)
      fun _ reached _ => ends reached List.mem_cons_self
  | afterEnd transport =>
    rw [Frame.stations, stakesOf_nil, zero_add]
    exact after (Turn.dealing fun _ fresh => World.Calm.advance fresh transport
      fun _ => Net.Transport.Yields.close)
      fun _ reached _ => ends reached List.mem_cons_self
  | afterLoss transport =>
    rw [Frame.stations, stakesOf_nil, zero_add]
    exact after (Turn.dealing fun _ _ => World.Calm.closeTransportSocket transport)
      fun _ reached _ => ends reached List.mem_cons_self
  | closing value =>
    rw [Frame.stations, stakesOf_nil, zero_add]
    exact after finishClose fun _ _ _ => give rfl (Demand.single_le List.mem_cons_self)
  | script | program | repeated | running | poll | holding | rounds | joining | selecting =>
    exact absurd received (by simp [Frame.kinds])

/-- The innermost frame receives the value of an instruction. -/
theorem answerTo (value : Value) (frame : Frame) (takes : frame.Takes { kinds := [.answer] })
    (attended : frame.Attended strict world.loop) :
    Moves held moving strict frame.demand owner (stakesOf frame.stations + rest) rest world
      (Machine.answerTo value frame) := by
  have received := takes.kinds List.mem_cons_self
  cases frame with
  | script actor label others =>
    rw [Frame.stations, stakesOf_nil, zero_add]
    refine after (Turn.calm fun _ _ => World.Calm.record _ _ _) fun _ _ _ => ?_
    exact give rfl (Demand.single_le List.mem_cons_self)
  | program task label others =>
    rw [Frame.stations, stakesOf_nil, zero_add]
    refine read (waiterOf_same task world) ?_
    refine after (Turn.calm fun _ _ => World.Calm.record _ _ _) fun _ _ grows => pure ?_
    exact ⟨(zero_add _).symm, Demand.le_refl _, fun _ member => absurd member List.not_mem_nil,
      Nat.lt_of_lt_of_le attended grows.loop.size_tasks, fun _ same => by cases same⟩
  | repeated | running | iteration | letGo | afterData | afterEnd | afterLoss | poll | holding | rounds
  | joining | selecting | closing => exact absurd received (by simp [Frame.kinds])

/-- The innermost frame receives the end of an iteration. -/
theorem iteratedTo (result : Except Error Unit) (frame : Frame)
    (takes : frame.Takes { kinds := [.iterated] }) :
    Moves held frame.aspects strict frame.demand owner (stakesOf frame.stations + rest) rest world
      (Machine.iteratedTo result frame) := by
  have received := takes.kinds List.mem_cons_self
  cases frame with
  | repeated left =>
    rw [Frame.stations, stakesOf_nil, zero_add]
    cases result with
    | error error => exact mono World.halting_subset_iterating (leaveRun _ List.mem_cons_self)
    | ok =>
      cases left with
      | zero => exact mono World.halting_subset_iterating (leaveRun _ List.mem_cons_self)
      | succ left => exact beginIteration rfl List.mem_cons_self
  | running goal =>
    rw [Frame.stations, stakesOf_nil, zero_add]
    exact continueRun goal result List.mem_cons_self
  | script | program | iteration | letGo | afterData | afterEnd | afterLoss | poll | holding | rounds
  | joining | selecting | closing => exact absurd received (by simp [Frame.kinds])

/-! ## The ends of programs -/

/-- The innermost frame receives the end of a program, early or not. -/
theorem endedTo (early : Bool) (value : Value) (frame : Frame)
    (takes : frame.Takes { kinds := [if early then .returned else .ended] })
    (attended : frame.Attended strict world.loop) :
    Moves held frame.aspects strict frame.demand owner (stakesOf frame.stations + rest) rest world
      (Machine.endedTo early value frame) := by
  have received := takes.kinds List.mem_cons_self
  cases frame with
  | program task label others =>
    rw [Frame.stations, stakesOf_nil, zero_add]
    exact give rfl (Demand.single_le (by simp [Frame.demand, Demand.ending]))
  | poll task =>
    rw [Frame.stations, stakesOf_nil, zero_add]
    exact endProgram value List.mem_cons_self
  | holding task guard =>
    rw [Frame.stations, stakesOf_cons, stakesOf_nil, add_zero, Script.Station.stakes]
    refine following (World.Turn.releaseGuard guard) ?_
    rintro _ _ reached rfl
    cases early with
    | true => exact give rfl (Demand.single_le (by simp [Frame.demand, Demand.leaving]))
    | false => exact give rfl (Demand.single_le List.mem_cons_self)
  | rounds task left body =>
    rw [Frame.stations, stakesOf_nil, zero_add]
    cases early with
    | true => exact give rfl (Demand.single_le (by simp [Frame.demand, Demand.leaving]))
    | false =>
      cases left with
      | zero => exact give rfl (Demand.single_le List.mem_cons_self)
      | succ left =>
        refine pure (moved_program rfl attended attended ⟨⟨?_, fun _ => id, ?_⟩, Demand.le_refl _⟩)
        · exact List.Subset.refl _
        · exact fun same => by cases same
  | joining task before after =>
    obtain ⟨exists_, polls, ties⟩ := attended
    exact pure (moved_join exists_ polls ties (Demand.le_refl _))
  | selecting task before after => exact endSelect value List.mem_cons_self
  | script | repeated | running | iteration | letGo | afterData | afterEnd | afterLoss | closing =>
    exact absurd received (by cases early <;> simp [Frame.kinds])

/-! ## Programs that have to wait -/

/-- The innermost frame receives a program that has to wait. -/
theorem suspendedTo (activity : Activity) (frame : Frame)
    (takes : frame.Takes { kinds := [.suspended] }) (attended : frame.Attended strict world.loop)
    (polls : ∀ task ∈ frame.task?, world.loop.Polls strict task activity.stations)
    (owned : ∀ task, frame.demand.task = some task → owner = some task) :
    Moves held frame.aspects strict frame.demand owner
      (stakesOf activity.stations + (stakesOf frame.stations + rest)) rest world
      (Machine.suspendedTo activity frame) := by
  have received := takes.kinds List.mem_cons_self
  cases frame with
  | poll task =>
    rw [Frame.stations, stakesOf_nil, zero_add]
    exact endPoll (polls task rfl).ties List.mem_cons_self
  | holding task guard =>
    have same := owned task rfl
    subst same
    rw [← add_assoc, ← stakesOf_append]
    exact pure (moved_waiting (List.Perm.refl _) (Demand.waiting_mem_leaving task)
      ((polls task rfl).guarded guard))
  | rounds task left body =>
    have same := owned task rfl
    subst same
    rw [Frame.stations, stakesOf_nil, zero_add]
    exact pure (moved_waiting (List.Perm.refl _) (Demand.waiting_mem_leaving task) (polls task rfl))
  | joining task before after =>
    obtain ⟨exists_, polled, ties⟩ := attended
    rw [← add_assoc, ← stakesOf_append, Frame.stations, ← List.append_assoc]
    exact pure (moved_join exists_ ((polls task rfl).append polled) ties (Demand.le_refl _))
  | selecting task before after =>
    obtain ⟨exists_, polled, ties⟩ := attended
    rw [← add_assoc, ← stakesOf_append, Frame.stations, ← List.append_assoc]
    exact pure (moved_select exists_ ((polls task rfl).append polled) ties (Demand.le_refl _))
  | script | program | repeated | running | iteration | letGo | afterData | afterEnd | afterLoss
  | closing => exact absurd received (by simp [Frame.kinds])

/-- The innermost frame receives an instruction that has to wait. -/
theorem waitingTo (pending : Pending) (frame : Frame) (takes : frame.Takes { kinds := [.waiting] })
    (polls : ∀ task ∈ frame.task?, world.loop.Polls strict task pending.stations)
    (owned : ∀ task, frame.demand.task = some task → owner = some task) :
    Moves held moving strict frame.demand owner
      (stakesOf pending.stations + (stakesOf frame.stations + rest)) rest world
      (Machine.waitingTo pending frame) := by
  have received := takes.kinds List.mem_cons_self
  cases frame with
  | program task label others =>
    have same := owned task rfl
    subst same
    rw [Frame.stations, stakesOf_nil, zero_add]
    refine pure ⟨?_, Demand.single_le (by simp [Frame.demand, Demand.ending]),
      fun _ member => absurd member List.not_mem_nil, ?_, fun _ same => by cases same⟩
    · rw [Move.stations, List.flatMap_nil, List.append_nil]
      rfl
    · rintro _ ⟨⟩
      exact polls task rfl
  | script | repeated | running | iteration | letGo | afterData | afterEnd | afterLoss | poll | holding
  | rounds | joining | selecting | closing => exact absurd received (by simp [Frame.kinds])

/-! ## All signals -/

/-- The innermost frame receives a signal that says what was just done. -/
theorem deliver (signal : Signal) (frame : Frame) (done : Machine.act? signal = none)
    (takes : frame.Takes signal.demand) (attended : frame.Attended strict world.loop)
    (sent : signal.Attended strict world.loop frame.task?)
    (owned : ∀ task, frame.demand.task = some task → owner = some task)
    (clean : world.loop.dropped = []) :
    Moves held frame.aspects strict frame.demand owner
      (stakesOf signal.stations + (stakesOf frame.stations + rest)) rest world
      (Machine.deliver signal frame) := by
  cases signal with
  | proceed =>
    rw [Signal.stations, stakesOf_nil, zero_add]
    exact proceedWith frame takes clean
  | answer value =>
    rw [Signal.stations, stakesOf_nil, zero_add]
    exact (answerTo value frame takes attended).mono frame.moving_subset
  | iterated result =>
    rw [Signal.stations, stakesOf_nil, zero_add]
    exact iteratedTo result frame takes
  | ended value =>
    rw [Signal.stations, stakesOf_nil, zero_add]
    exact endedTo false value frame takes attended
  | returned value =>
    rw [Signal.stations, stakesOf_nil, zero_add]
    exact endedTo true value frame takes attended
  | suspended activity =>
    exact suspendedTo activity frame takes attended sent owned
  | waiting pending =>
    exact (waitingTo pending frame takes sent owned).mono frame.moving_subset
  | call | script | program | resume | retry | join | select => cases done

/-- A signal that asks for something to be done. -/
theorem act {signal : Signal} {step : WorldM Move} (acts : Machine.act? signal = some step)
    (sent : signal.Attended strict world.loop owner) (attentive : world.Attentive)
    (owned : ∀ task, signal.demand.task = some task → owner = some task)
    (call : ∀ callback, signal = .call callback → ∀ future ∈ callback.resolves?,
      world.loop.Knows (shelter held (placesOf (rest + world.loop.stakes)) world).known future) :
    Moves held (signal.aspects world.loop) strict signal.demand owner
      (stakesOf signal.stations + rest) rest world step := by
  cases signal with
  | call callback =>
    cases acts
    rw [Signal.stations, stakesOf_nil, zero_add]
    exact runCallback callback attentive (call callback rfl) (Demand.le_refl _)
  | script actor body =>
    cases acts
    rw [Signal.stations, stakesOf_nil, zero_add]
    exact stepScript actor body List.mem_cons_self
  | program task last body =>
    cases acts
    rw [Signal.stations, stakesOf_nil, zero_add]
    exact stepProgram last body sent (Demand.le_refl _)
  | resume task activity =>
    have same := owned task rfl
    subst same
    cases activity with
    | fresh body =>
      cases acts
      rw [Signal.stations, Activity.stations, stakesOf_nil, zero_add]
      exact pure ⟨(zero_add _).symm, Demand.le_refl _, fun _ member => (nomatch member), sent.1,
        fun _ same => nomatch same⟩
    | paused pending label others =>
      cases acts
      refine pure ⟨?_, ⟨⟨List.Subset.refl _, fun _ => id, fun looping => nomatch looping⟩,
        Demand.le_refl _⟩, ?_, sent, fun _ same => nomatch same⟩
      · rw [Move.stations, List.flatMap_singleton, Frame.stations, List.append_nil]
        rfl
      · intro frame member
        rw [List.mem_singleton.mp member]
        exact sent.1
  | retry task pending =>
    have same := owned task rfl
    subst same
    cases acts
    rw [Signal.aspects_retry]
    exact stepRetry pending sent.1 sent.2 (Demand.le_refl _)
  | join task before after =>
    have same := owned task rfl
    subst same
    cases acts
    exact stepJoin sent.1 sent.2.1 sent.2.2 (Demand.le_refl _)
  | select task before after =>
    have same := owned task rfl
    subst same
    cases acts
    exact stepSelect sent.1 sent.2.1 sent.2.2 (Demand.le_refl _)
  | proceed | answer | iterated | ended | returned | suspended | waiting => cases acts

end Moves

end EventLoop

import EventLoop.Proofs.Effect.Step
import EventLoop.Proofs.Timers

/-!
# Silent loops

Only the two halves of closing the loop have to do with whether it is closed. Once it is closed and nothing
waits in it any more, it stays that way whatever is asked of it: what would have waited is given up at
once.
-/
namespace EventLoop

namespace Loop

/-- The loop is closed and nothing waits in it. -/
structure IsSilent (loop : Loop) : Prop where
  /-- It is closed. -/
  closed : loop.closed = true
  /-- No callback is ready. -/
  ready : loop.ready = []
  /-- No timer is to come. -/
  timers : loop.timers.entries = []

/-- Everything that waits in a closed loop was let go of. -/
theorem isSilent_dropAll {loop : Loop} (closed : loop.closed = true) : loop.dropAll.IsSilent :=
  ⟨closed, rfl, rfl⟩

/-- The loop is neither opened nor closed, a closed loop does not begin to run, and in a silent loop
nothing begins to wait. -/
structure Heeds (loop other : Loop) : Prop where
  /-- It is as closed as before. -/
  closed : other.closed = loop.closed
  /-- If it is closed, it runs only if it ran before. -/
  running : loop.closed = true → other.running = true → loop.running = true
  /-- Silence is kept. -/
  silent : loop.IsSilent → other.IsSilent

namespace Heeds

variable {loop other : Loop}

/-- Only whether the loop runs matters where nothing that waits is touched. -/
theorem of_running (closed : other.closed = loop.closed) (ready : other.ready = loop.ready)
    (entries : other.timers.entries = loop.timers.entries)
    (running : loop.closed = true → other.running = true → loop.running = true) : loop.Heeds other :=
  ⟨closed, running, fun silent => ⟨closed.trans silent.closed, ready.trans silent.ready,
    entries.trans silent.timers⟩⟩

/-- A loop that is closed as before, with the same waiting in it, heeds its silence. -/
theorem of_eq (closed : other.closed = loop.closed) (ready : other.ready = loop.ready)
    (entries : other.timers.entries = loop.timers.entries) (same : other.running = loop.running) :
    loop.Heeds other := of_running closed ready entries fun _ runs => same.symm.trans runs

/-- A loop heeds its silence when nothing happens. -/
theorem refl (loop : Loop) : loop.Heeds loop := of_eq rfl rfl rfl rfl

/-- A loop that heeds its silence twice heeds it. -/
theorem trans {first second third : Loop} (before : first.Heeds second) (after : second.Heeds third) :
    first.Heeds third := by
  refine ⟨after.closed.trans before.closed, fun closed runs => ?_, fun silent => ?_⟩
  · exact before.running closed (after.running (before.closed.trans closed) runs)
  · exact after.silent (before.silent silent)

/-- Making a callback ready heeds the silence of the loop: a closed loop drops the callback. -/
theorem callSoon (loop : Loop) (callback : Callback) : loop.Heeds (loop.callSoon callback) := by
  rw [callSoon_eq]
  refine ⟨rfl, fun _ runs => runs, fun silent => ⟨silent.closed, ?_, silent.timers⟩⟩
  rw [silent.closed, silent.ready]
  rfl

/-- Scheduling a callback for a time heeds the silence of the loop: a closed loop refuses the timer. -/
theorem callAt (loop : Loop) (deadline : Nat) (callback : Callback) :
    loop.Heeds (loop.callAt deadline callback).2 := by
  rw [callAt_eq]
  refine ⟨rfl, fun _ runs => runs, fun silent => ⟨silent.closed, silent.ready, ?_⟩⟩
  rw [silent.closed]
  exact silent.timers

/-- Making a future, with a timeout or without, heeds the silence of the loop. -/
theorem makeTimed (loop : Loop) (kind : FutureKind) (now : Nat) (timeout : Option Nat) :
    loop.Heeds (loop.makeTimed kind now timeout).2 := by
  cases timeout with
  | none => exact of_eq rfl rfl rfl rfl
  | some delay => exact (callAt loop (now + delay) (.expire loop.futures.size)).trans (of_eq rfl rfl rfl rfl)

/-- Resolving a future heeds the silence of the loop. -/
theorem resolve (loop : Loop) (id : FutureId) (resolution : Resolution) :
    loop.Heeds (loop.resolve id resolution).2 := by
  rw [resolve_eq]
  split
  · rename_i timer _
    rw [replaceFuture_eq]
    refine ⟨rfl, fun _ runs => runs, fun silent => ⟨silent.closed, ?_, ?_⟩⟩
    · rw [silent.closed, silent.ready]
      rfl
    · cases timer with
      | none => exact silent.timers
      | some timer => exact silent.timers
  · exact refl loop

/-- Registering a reaction heeds the silence of the loop. -/
theorem whenDone (loop : Loop) (id : FutureId) (reaction : Reaction) :
    loop.Heeds (loop.whenDone id reaction) := by
  rw [whenDone_eq]
  split
  · exact of_eq rfl rfl rfl rfl
  · exact callSoon loop _

/-- Awaiting a future heeds the silence of the loop. -/
theorem await (loop : Loop) (wait : Wait) (waker : Nat) : loop.Heeds (loop.await wait waker).2 := by
  unfold Loop.await
  split
  · exact refl loop
  · split
    · exact of_eq rfl rfl rfl rfl
    · exact (of_eq rfl rfl rfl rfl : loop.Heeds { loop with cells := loop.cells.push waker }).trans
        (whenDone _ _ _)

/-- Changing what a task is doing heeds the silence of the loop. -/
theorem setPhase (loop : Loop) (id : TaskId) (phase : TaskPhase) : loop.Heeds (loop.setPhase id phase) :=
  of_eq rfl rfl rfl rfl

/-- Making a poll of a task ready heeds the silence of the loop. -/
theorem schedule (loop : Loop) (id : TaskId) : loop.Heeds (loop.schedule id) := by
  unfold Loop.schedule
  split
  · exact (setPhase loop id _).trans (callSoon _ _)
  · exact refl loop

/-- Removing a task from the live ones heeds the silence of the loop. -/
theorem retire (loop : Loop) (task : Task) : loop.Heeds (loop.retire task) := by
  unfold Loop.retire
  split
  · exact refl loop
  · exact of_eq rfl rfl rfl rfl

/-- Spawning a task heeds the silence of the loop: on a closed loop the task is cancelled from the
beginning. -/
theorem spawn (loop : Loop) (name : String) (body : Script.Body) :
    loop.Heeds (loop.spawn name body).2 := by
  unfold Loop.spawn makeFuture addFuture
  dsimp only
  split
  · have added : loop.Heeds { loop with
        futures := loop.futures.push (.new .value)
        tasks := loop.tasks.push ⟨name, .cancelled, none, loop.futures.size⟩ } := of_eq rfl rfl rfl rfl
    exact added.trans (resolve _ _ _)
  · have added : loop.Heeds { loop with
        futures := loop.futures.push (.new .value)
        live := (loop.live.insert loop.tasks.size).2
        tasks := loop.tasks.push ⟨name, .idle (.fresh body),
          some (loop.live.insert loop.tasks.size).1, loop.futures.size⟩ } := of_eq rfl rfl rfl rfl
    exact added.trans (schedule _ _)

/-- Taking the program out of a task heeds the silence of the loop. -/
theorem beginPoll (loop : Loop) (id : TaskId) : loop.Heeds (loop.beginPoll id).2 := by
  unfold Loop.beginPoll
  split
  · exact setPhase loop id _
  · exact refl loop

/-- Putting a program back into its task heeds the silence of the loop. -/
theorem endPoll (loop : Loop) (id : TaskId) (activity : Script.Activity) :
    loop.Heeds (loop.endPoll id activity).2 := by
  unfold Loop.endPoll
  split
  · exact setPhase loop id _
  · exact refl loop

/-- Beginning to cancel a task heeds the silence of the loop. -/
theorem beginCancel (loop : Loop) (id : TaskId) (task : Task) :
    loop.Heeds (loop.beginCancel id task).2 := (setPhase loop id _).trans (retire _ _)

/-- Completing a task heeds the silence of the loop. -/
theorem complete (loop : Loop) (id : TaskId) (value : Value) :
    loop.Heeds (loop.complete id value) := by
  unfold Loop.complete
  split
  · split
    · exact ((setPhase loop id _).trans (retire _ _)).trans (resolve _ _ _)
    · exact refl loop
  · exact refl loop

/-- Waking the live task with a number heeds the silence of the loop. -/
theorem scheduleLive (loop : Loop) (slot : Nat) : loop.Heeds (loop.scheduleLive slot) := by
  unfold Loop.scheduleLive
  split
  · exact schedule loop _
  · exact refl loop

/-- Waking live tasks one after another heeds the silence of the loop. -/
theorem foldl_scheduleLive (loop : Loop) (slots : List Nat) :
    loop.Heeds (slots.foldl Loop.scheduleLive loop) := by
  induction slots generalizing loop with
  | nil => exact refl loop
  | cons slot rest ih => exact (scheduleLive loop slot).trans (ih (loop.scheduleLive slot))

/-- Taking over what other threads asked for heeds the silence of the loop. -/
theorem collectRequests (loop : Loop) : loop.Heeds loop.collectRequests := by
  rw [collectRequests_eq]
  have taken (stopping : Bool) (dropped : List Ref) : loop.Heeds { loop with
      ready := loop.ready ++ if loop.closed then [] else loop.remote
      dropped
      remote := []
      remoteStop := false
      stopping
      woken := [] } := by
    refine ⟨rfl, fun _ runs => runs, fun silent => ⟨silent.closed, ?_, silent.timers⟩⟩
    rw [silent.closed, silent.ready]
    rfl
  exact (taken _ _).trans (foldl_scheduleLive _ loop.woken)

/-- The first part of an iteration heeds the silence of the loop. -/
theorem prepare (loop : Loop) (now : Nat) : loop.Heeds (loop.prepare now).2 := by
  have collected := collectRequests loop
  unfold Loop.prepare patience
  split
  · exact collected
  · refine collected.trans ⟨rfl, fun _ runs => runs, fun silent => ⟨silent.closed, silent.ready, ?_⟩⟩
    change (Timers.next loop.collectRequests.timers).2.2.entries = []
    rw [Timers.snd_next, silent.timers]
    rfl

/-- The second part of an iteration heeds the silence of the loop. -/
theorem gather (loop : Loop) (now : Nat) : loop.Heeds (loop.gather now).2 := by
  have due : loop.Heeds (loop.collectDue now) := by
    refine ⟨rfl, fun _ runs => runs, fun silent => ⟨silent.closed, ?_, ?_⟩⟩
    · rw [ready_collectDue, Timers.due, silent.ready, silent.timers]
      rfl
    · change (loop.timers.takeDue now).2.2.entries = []
      rw [Timers.snd_takeDue, silent.timers]
      rfl
  exact due.trans (collectRequests (loop.collectDue now))

/-- Taking the next ready callback heeds the silence of the loop. -/
theorem takeReady (loop : Loop) : loop.Heeds loop.takeReady.2 := by
  unfold Loop.takeReady
  split
  · exact refl loop
  · rename_i callback rest ready
    refine ⟨rfl, fun _ runs => runs, fun silent => ?_⟩
    rw [silent.ready] at ready
    cases ready

end Heeds

/-- Nothing is ready in a silent loop. -/
theorem IsSilent.takeReady {loop : Loop} (silent : loop.IsSilent) : loop.takeReady = (none, loop) := by
  unfold Loop.takeReady
  rw [silent.ready]

end Loop

/-- What a loop is fitted with from when it is built until it is closed. -/
structure Fittings where
  /-- Whether the loop is closed. -/
  closed : Bool
  /-- The loop's own pipe. -/
  pipe : Option Pipe
  /-- Whether operations are taken on. -/
  submitting : Bool

/-- Nothing is left of the fittings of a loop that is closed. -/
def Fittings.gone : Fittings := ⟨true, none, false⟩

namespace World

variable {scope : Scope} {aspect : Aspect} {aspects : List Aspect} {before after : World}

/-- What the loop is fitted with. -/
def fittings (world : World) : Fittings := ⟨world.loop.closed, world.pipe, world.submitting⟩

/-- Only the beginning of closing the loop has to do with whether it is closed. -/
theorem Change.heeds (change : Change scope aspect before after) (other : aspect ≠ .shutting) :
    before.loop.Heeds after.loop := by
  cases change with
  | surroundings | held | names | devices | released | turned | retired | servers | dropped | taken
  | emptied | deserted | disarmed | asked | stopAsked | stopped | primitives | woken | abandoned =>
    exact .of_eq rfl rfl rfl rfl
  | flags _ _ _ idle => exact .of_running rfl rfl rfl idle
  | fitted | shut => exact absurd rfl other
  | made => exact .makeTimed _ _ _ _
  | resolved | granted | expired => exact .resolve _ _ _
  | registered | bound | enlisted => exact .whenDone _ _ _
  | connected _ socket peer protocol reads =>
    exact addTransport_loop _ (.refl before.loop) fun loop callback heeds =>
      heeds.trans (.callSoon loop callback)
  | awaited => exact .await _ _ _
  | called | announced | summoned => exact .callSoon _ _
  | scheduled => exact .callAt _ _ _
  | spawned => exact .spawn _ _ _
  | pollBegun => exact .beginPoll _ _
  | pollEnded => exact .endPoll _ _ _
  | completed => exact .complete _ _ _
  | cancelled => exact .beginCancel _ _ _
  | prepared => exact .prepare _ _
  | gathered => exact .gather _ _
  | readyTaken => exact .takeReady _
  | cleared => exact ⟨rfl, fun _ runs => runs, fun silent => Loop.isSilent_dropAll silent.closed⟩

/-- The same goes for its own pipe and for whether operations are taken on. -/
theorem Change.fittings (change : Change scope aspect before after) (other : aspect ≠ .shutting) :
    after.fittings = before.fittings := by
  have closed := (change.heeds other).closed
  unfold World.fittings
  rw [closed]
  cases change with
  | fitted | shut => exact absurd rfl other
  | connected =>
    rw [addTransport_eq]
  | _ => rfl

/-- Only the beginning of closing the loop changes what it is fitted with. -/
theorem Changes.fittings (changes : Changes scope aspects before after) (other : .shutting ∉ aspects) :
    after.fittings = before.fittings := by
  induction changes with
  | refl => rfl
  | tail _ last ih =>
    obtain ⟨aspect, member, change⟩ := last
    exact (change.fittings fun same => other (same ▸ member)).trans ih

/-- A step that does not close the loop keeps its fittings. -/
theorem Does.fitted {α : Type} {n : Nat} {world : World} {step : WorldM α} {after : α → World → Prop}
    (does : Does scope n aspects world step after) (other : .shutting ∉ aspects) :
    Does scope n aspects world step fun _ reached => reached.fittings = world.fittings :=
  fun within => ⟨(does within).1, (does within).1.fittings other⟩

/-- A closed loop that does not run begins no run, whatever changes. -/
theorem Changes.idle (changes : Changes scope aspects before after) (closed : before.loop.closed = true)
    (idle : before.loop.running = false) : after.loop.running = false := by
  have kept {aspect : Aspect} {before after : World} (_ : aspect ∈ aspects)
      (change : Change scope aspect before after)
      (both : before.loop.closed = true ∧ before.loop.running = false) :
      after.loop.closed = true ∧ after.loop.running = false := by
    by_cases shutting : aspect = .shutting
    · subst shutting
      cases change with
      | fitted => exact both
      | shut => exact ⟨rfl, both.2⟩
    · have heeds := change.heeds shutting
      refine ⟨heeds.closed.trans both.1, Bool.eq_false_iff.mpr fun runs => ?_⟩
      exact Bool.eq_false_iff.mp both.2 (heeds.running both.1 runs)
  exact (@preserves scope aspects (fun world => world.loop.closed = true ∧ world.loop.running = false)
    kept before after changes ⟨closed, idle⟩).2

/-- A silent loop stays silent, whatever changes. -/
theorem Changes.silent (changes : Changes scope aspects before after) (silent : before.loop.IsSilent) :
    after.loop.IsSilent := by
  have kept {aspect : Aspect} {before after : World} (_ : aspect ∈ aspects)
      (change : Change scope aspect before after) (silent : before.loop.IsSilent) :
      after.loop.IsSilent := by
    by_cases shutting : aspect = .shutting
    · subst shutting
      cases change with
      | fitted => exact silent
      | shut => exact ⟨rfl, silent.ready, silent.timers⟩
    · exact (change.heeds shutting).silent silent
  exact @preserves scope aspects (·.loop.IsSilent) kept before after changes silent

end World

end EventLoop

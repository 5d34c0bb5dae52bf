import EventLoop.Proofs.Effect.Step
import EventLoop.Proofs.Rousing
import EventLoop.Proofs.Timers

/-!
# What other threads ask for

Another thread leaves callbacks and the wish that the loop return with the loop, which takes them over at
the beginning of its iterations. Whatever else changes leaves both alone: callbacks that other threads asked
for neither appear nor vanish nor change their order until they are started, and a wish is neither lost nor
made up.
-/
namespace EventLoop

namespace Loop

variable {loop other : Loop}

/-- The callbacks that other threads asked for and that were not started yet, in order: those that were taken
over, and those that were not. -/
def remoteCalls (loop : Loop) : List Callback := loop.ready.filter Callback.isRemote ++ loop.remote

/-- Whether another thread asked the loop to return, whether it runs, and whether it is to return. -/
def flags (loop : Loop) : Bool × Bool × Bool := (loop.remoteStop, loop.running, loop.stopping)

/-- What other threads asked for is told apart from everything else. -/
structure Marked (loop : Loop) : Prop where
  /-- What is not taken over yet is what other threads asked for. -/
  remote : ∀ callback ∈ loop.remote, callback.isRemote = true
  /-- No timer was set for what another thread asked for. -/
  timers : ∀ entry ∈ loop.timers.entries, entry.callback.isRemote = false

/-- All that becomes ready is the loop's own, and what other threads ask for is left alone. -/
structure Spares (loop other : Loop) : Prop where
  /-- The loop is as closed as before. -/
  closed : other.closed = loop.closed
  /-- What becomes ready is not what another thread asked for. -/
  ready : ∃ new, other.ready = loop.ready ++ new ∧ ∀ callback ∈ new, callback.isRemote = false
  /-- What was not taken over is not taken over. -/
  remote : other.remote = loop.remote
  /-- The flags are left alone. -/
  flags : other.flags = loop.flags
  /-- A timer that is set is for a callback of the loop's own. -/
  timers : ∀ entry ∈ other.timers.entries, entry ∈ loop.timers.entries ∨ entry.callback.isRemote = false

namespace Spares

/-- What waits and what was asked for may stay the same. -/
theorem of_eq (closed : other.closed = loop.closed) (ready : other.ready = loop.ready)
    (remote : other.remote = loop.remote) (flags : other.flags = loop.flags)
    (entries : other.timers.entries = loop.timers.entries) : loop.Spares other := by
  refine ⟨closed, ⟨[], ?_, ?_⟩, remote, flags, ?_⟩
  · simp [ready]
  · simp
  · intro entry member
    exact Or.inl (entries ▸ member)

/-- A loop spares what other threads asked for when nothing happens. -/
theorem refl (loop : Loop) : loop.Spares loop := of_eq rfl rfl rfl rfl rfl

/-- What spares it twice spares it. -/
theorem trans {first second third : Loop} (before : first.Spares second) (after : second.Spares third) :
    first.Spares third := by
  obtain ⟨early, ready, own⟩ := before.ready
  obtain ⟨late, ready', own'⟩ := after.ready
  refine ⟨after.closed.trans before.closed, ⟨early ++ late, ?_, ?_⟩, after.remote.trans before.remote,
    after.flags.trans before.flags, ?_⟩
  · rw [ready', ready, List.append_assoc]
  · intro callback member
    exact (List.mem_append.mp member).elim (own callback) (own' callback)
  · intro entry member
    rcases after.timers entry member with there | apart
    · exact before.timers entry there
    · exact Or.inr apart

/-- What other threads asked for stays what it is. -/
theorem remoteCalls (spares : loop.Spares other) : other.remoteCalls = loop.remoteCalls := by
  obtain ⟨new, ready, own⟩ := spares.ready
  have none : new.filter Callback.isRemote = [] := by
    apply List.filter_eq_nil_iff.mpr
    intro callback member
    simp [own callback member]
  unfold Loop.remoteCalls
  rw [ready, List.filter_append, none, List.append_nil, spares.remote]

/-- What other threads asked for is told apart from everything else as long as it is spared. -/
theorem marked (spares : loop.Spares other) (marked : loop.Marked) : other.Marked := by
  constructor
  · rw [spares.remote]
    exact marked.remote
  · intro entry member
    exact (spares.timers entry member).elim (marked.timers entry) id

/-- Making a callback ready spares what other threads asked for, if the callback is the loop's own. -/
theorem callSoon (loop : Loop) {callback : Callback} (own : callback.isRemote = false) :
    loop.Spares (loop.callSoon callback) := by
  rw [callSoon_eq]
  refine ⟨rfl, ⟨_, rfl, ?_⟩, rfl, rfl, fun entry member => Or.inl member⟩
  intro other member
  split at member
  · simp at member
  · rw [List.mem_singleton.mp member]
    exact own

/-- Scheduling a callback for a time spares what other threads asked for, if the callback is the loop's
own. -/
theorem callAt (loop : Loop) (deadline : Nat) {callback : Callback} (own : callback.isRemote = false) :
    loop.Spares (loop.callAt deadline callback).2 := by
  rw [callAt_eq]
  refine ⟨rfl, ⟨[], by simp, by simp⟩, rfl, rfl, ?_⟩
  intro entry member
  cases closed : loop.closed with
  | true =>
    rw [closed] at member
    exact Or.inl member
  | false =>
    rw [closed] at member
    rcases Timers.mem_insertEntry.mp member with rfl | old
    · exact Or.inr own
    · exact Or.inl old

/-- Making a future, with a timeout or without, spares what other threads asked for. -/
theorem makeTimed (loop : Loop) (kind : FutureKind) (now : Nat) (timeout : Option Nat) :
    loop.Spares (loop.makeTimed kind now timeout).2 := by
  cases timeout with
  | none => exact of_eq rfl rfl rfl rfl rfl
  | some delay =>
    have armed : loop.Spares (loop.callAt (now + delay) (.expire loop.futures.size)).2 :=
      callAt loop (now + delay) rfl
    exact armed.trans (of_eq rfl rfl rfl rfl rfl)

/-- Resolving a future spares what other threads asked for. -/
theorem resolve (loop : Loop) (id : FutureId) (resolution : Resolution) :
    loop.Spares (loop.resolve id resolution).2 := by
  rw [resolve_eq]
  split
  · rename_i kind reactions timer found
    rw [replaceFuture_eq]
    refine ⟨rfl, ⟨_, rfl, ?_⟩, rfl, rfl, ?_⟩
    · intro callback member
      split at member
      · simp at member
      · obtain ⟨reaction, -, rfl⟩ := List.mem_map.mp member
        rfl
    · intro entry member
      cases timer with
      | none => exact Or.inl member
      | some timer => exact Or.inl member
  · exact refl loop

/-- Registering a reaction spares what other threads asked for. -/
theorem whenDone (loop : Loop) (id : FutureId) (reaction : Reaction) :
    loop.Spares (loop.whenDone id reaction) := by
  rw [whenDone_eq]
  split
  · exact of_eq rfl rfl rfl rfl rfl
  · exact callSoon loop rfl

/-- Awaiting a future spares what other threads asked for. -/
theorem await (loop : Loop) (wait : Wait) (waker : Nat) :
    loop.Spares (loop.await wait waker).2 := by
  unfold Loop.await
  split
  · exact refl loop
  · split
    · exact of_eq rfl rfl rfl rfl rfl
    · have stored : loop.Spares { loop with cells := loop.cells.push waker } := of_eq rfl rfl rfl rfl rfl
      exact stored.trans (whenDone _ _ _)

/-- Changing what a task is doing spares what other threads asked for. -/
theorem setPhase (loop : Loop) (id : TaskId) (phase : TaskPhase) :
    loop.Spares (loop.setPhase id phase) := of_eq rfl rfl rfl rfl rfl

/-- Making a poll of a task ready spares what other threads asked for. -/
theorem schedule (loop : Loop) (id : TaskId) : loop.Spares (loop.schedule id) := by
  unfold Loop.schedule
  split
  · exact (setPhase loop id _).trans (callSoon _ rfl)
  · exact refl loop

/-- Removing a task from the live ones spares what other threads asked for. -/
theorem retire (loop : Loop) (task : Task) : loop.Spares (loop.retire task) := by
  unfold Loop.retire
  split
  · exact refl loop
  · exact of_eq rfl rfl rfl rfl rfl

/-- Spawning a task spares what other threads asked for. -/
theorem spawn (loop : Loop) (name : String) (body : Script.Body) :
    loop.Spares (loop.spawn name body).2 := by
  unfold Loop.spawn makeFuture addFuture
  dsimp only
  split
  · have added : loop.Spares { loop with
        futures := loop.futures.push (.new .value)
        tasks := loop.tasks.push ⟨name, .cancelled, none, loop.futures.size⟩ } :=
      of_eq rfl rfl rfl rfl rfl
    exact added.trans (resolve _ _ _)
  · have added : loop.Spares { loop with
        futures := loop.futures.push (.new .value)
        live := (loop.live.insert loop.tasks.size).2
        tasks := loop.tasks.push ⟨name, .idle (.fresh body),
          some (loop.live.insert loop.tasks.size).1, loop.futures.size⟩ } :=
      of_eq rfl rfl rfl rfl rfl
    exact added.trans (schedule _ _)

/-- Taking the program out of a task spares what other threads asked for. -/
theorem beginPoll (loop : Loop) (id : TaskId) : loop.Spares (loop.beginPoll id).2 := by
  unfold Loop.beginPoll
  split
  · exact setPhase loop id _
  · exact refl loop

/-- Putting a program back into its task spares what other threads asked for. -/
theorem endPoll (loop : Loop) (id : TaskId) (activity : Script.Activity) :
    loop.Spares (loop.endPoll id activity).2 := by
  unfold Loop.endPoll
  split
  · exact setPhase loop id _
  · exact refl loop

/-- Beginning to cancel a task spares what other threads asked for. -/
theorem beginCancel (loop : Loop) (id : TaskId) (task : Task) :
    loop.Spares (loop.beginCancel id task).2 := (setPhase loop id _).trans (retire _ _)

/-- Completing a task spares what other threads asked for. -/
theorem complete (loop : Loop) (id : TaskId) (value : Value) :
    loop.Spares (loop.complete id value) := by
  unfold Loop.complete
  split
  · split
    · exact ((setPhase loop id _).trans (retire _ _)).trans (resolve _ _ _)
    · exact refl loop
  · exact refl loop

/-- Waking live tasks one after another spares what other threads asked for. -/
theorem foldl_scheduleLive (loop : Loop) (slots : List Nat) :
    loop.Spares (slots.foldl Loop.scheduleLive loop) := by
  induction slots generalizing loop with
  | nil => exact refl loop
  | cons slot rest ih =>
    have first : loop.Spares (loop.scheduleLive slot) := by
      unfold scheduleLive
      split
      · exact schedule loop _
      · exact refl loop
    exact first.trans (ih (loop.scheduleLive slot))

end Spares

/-- On the way from one loop to another no callback that another thread asked for is started or asked for, the
loop runs if it ran before, and if it was to return it still is. -/
structure Relays (loop other : Loop) : Prop where
  /-- What other threads asked for stays what it is. -/
  calls : loop.Marked → other.closed = false → other.remoteCalls = loop.remoteCalls
  /-- It is told apart from everything else. -/
  marked : loop.Marked → other.Marked
  /-- The loop is not opened. -/
  closed : other.closed = false → loop.closed = false
  /-- It runs if it ran before. -/
  running : other.running = loop.running
  /-- It still is to return. -/
  stopping : loop.stopping = true → other.stopping = true

/-- What spares what other threads asked for relays it. -/
theorem Spares.relays (spares : loop.Spares other) : loop.Relays other := by
  obtain ⟨-, running, stopping⟩ : other.remoteStop = loop.remoteStop ∧ other.running = loop.running ∧
      other.stopping = loop.stopping := by
    simpa only [Loop.flags, Prod.mk.injEq] using spares.flags
  refine ⟨fun _ _ => spares.remoteCalls, spares.marked, fun opened => ?_, running, fun stops => ?_⟩
  · exact spares.closed.symm.trans opened
  · exact stopping.trans stops

namespace Relays

/-- What is relayed twice is relayed. -/
theorem trans {first second third : Loop} (before : first.Relays second) (after : second.Relays third) :
    first.Relays third := by
  refine ⟨fun marked opened => ?_, fun marked => after.marked (before.marked marked),
    fun opened => before.closed (after.closed opened), after.running.trans before.running,
    fun stops => after.stopping (before.stopping stops)⟩
  rw [after.calls (before.marked marked) opened, before.calls marked (after.closed opened)]

/-- What other threads asked for is taken over as it is. -/
theorem collectRequests (loop : Loop) : loop.Relays loop.collectRequests := by
  rw [collectRequests_eq]
  apply trans _ (Spares.foldl_scheduleLive _ loop.woken).relays
  constructor
  · intro marked opened
    have all : loop.remote.filter Callback.isRemote = loop.remote :=
      List.filter_eq_self.mpr marked.remote
    have opened : loop.closed = false := opened
    simp [remoteCalls, opened, all]
  · intro marked
    exact ⟨by simp, marked.timers⟩
  · intro opened
    exact opened
  · rfl
  · intro stops
    simp [stops]

/-- Cancelled timers are forgotten. -/
theorem patience (loop : Loop) (now : Nat) : loop.Relays (loop.patience now).2 := by
  unfold Loop.patience
  split
  · exact (Spares.refl loop).relays
  · refine Spares.relays ⟨rfl, ⟨[], by simp [drop], by simp⟩, rfl, rfl, fun entry member => Or.inl ?_⟩
    change entry ∈ loop.timers.next.2.2.entries at member
    rw [Timers.snd_next] at member
    exact (List.dropWhile_sublist _).subset member

/-- The first part of an iteration takes over what other threads asked for, and keeps all of it. -/
theorem prepare (loop : Loop) (now : Nat) : loop.Relays (loop.prepare now).2 :=
  (collectRequests loop).trans (patience loop.collectRequests now)

/-- The callbacks of timers that are due are the loop's own. -/
theorem collectDue (loop : Loop) (now : Nat) : loop.Relays (loop.collectDue now) := by
  have fewer : (loop.collectDue now).timers.entries ⊆ loop.timers.entries := by
    change (loop.timers.takeDue now).2.2.entries ⊆ _
    rw [Timers.snd_takeDue]
    exact (List.dropWhile_sublist _).subset
  refine ⟨fun marked _ => ?_, fun marked => ?_, fun opened => opened, rfl, fun stops => stops⟩
  · have none : ((loop.timers.due now).map TimerEntry.callback).filter Callback.isRemote = [] := by
      apply List.filter_eq_nil_iff.mpr
      intro callback member
      obtain ⟨entry, due, rfl⟩ := List.mem_map.mp member
      have waits := (List.takeWhile_sublist _).subset (List.mem_of_mem_filter due)
      simp [marked.timers entry waits]
    unfold remoteCalls
    rw [ready_collectDue, List.filter_append, none, List.append_nil]
    rfl
  · exact ⟨marked.remote, fun entry member => marked.timers entry (fewer member)⟩

/-- The second part of an iteration takes over what other threads asked for, and keeps all of it. -/
theorem gather (loop : Loop) (now : Nat) : loop.Relays (loop.gather now).2 :=
  (collectDue loop now).trans (collectRequests (loop.collectDue now))

end Relays

/-- What other threads asked for was taken over. -/
theorem requests_collectRequests (loop : Loop) :
    loop.collectRequests.remote = [] ∧ loop.collectRequests.remoteStop = false ∧
      loop.collectRequests.stopping = (loop.stopping || loop.remoteStop) := by
  rw [collectRequests_eq]
  have spares := Spares.foldl_scheduleLive { loop with
    ready := loop.ready ++ if loop.closed then [] else loop.remote
    dropped := loop.dropped ++ if loop.closed then loop.remote.flatMap Callback.refs else []
    remote := []
    remoteStop := false
    stopping := loop.stopping || loop.remoteStop
    woken := [] } loop.woken
  have same := spares.flags
  simp only [Loop.flags, Prod.mk.injEq] at same
  exact ⟨spares.remote, same.1, same.2.2⟩

/-- What was asked for before an iteration begins, or while it prepares, is taken over. -/
theorem requests_prepare (loop : Loop) (now : Nat) :
    (loop.prepare now).2.remote = [] ∧ (loop.prepare now).2.remoteStop = false ∧
      (loop.prepare now).2.stopping = (loop.stopping || loop.remoteStop) := by
  unfold prepare patience
  split
  · exact loop.requests_collectRequests
  · exact loop.requests_collectRequests

/-- What was asked for by the time that callbacks are gathered is taken over. -/
theorem requests_gather (loop : Loop) (now : Nat) :
    (loop.gather now).2.remote = [] ∧ (loop.gather now).2.remoteStop = false ∧
      (loop.gather now).2.stopping = (loop.stopping || loop.remoteStop) :=
  (loop.collectDue now).requests_collectRequests

end Loop

namespace World

variable {scope : Scope} {aspect : Aspect} {aspects : List Aspect} {before after : World}

/-- Most changes leave alone what other threads ask for. -/
theorem Change.spares (change : Change scope aspect before after)
    (other : aspect ∉ [.progress, .requests, .taking, .closing, .stops, .runs, .shutting]) :
    before.loop.Spares after.loop := by
  cases change with
  | surroundings | held | names | devices | released | turned | retired | servers | dropped | taken
  | emptied | deserted | disarmed | primitives | woken | abandoned => exact .of_eq rfl rfl rfl rfl rfl
  | fitted | shut | asked | stopAsked | stopped | flags | prepared | gathered | readyTaken | cleared =>
    exact absurd (by decide) other
  | made => exact .makeTimed _ _ _ _
  | resolved | granted | expired => exact .resolve _ _ _
  | registered | bound | enlisted => exact .whenDone _ _ _
  | connected _ socket peer protocol reads =>
    rw [addTransport_eq]
    cases reads with
    | true => exact (Loop.Spares.callSoon _ rfl).trans (.callSoon _ rfl)
    | false => exact .callSoon _ rfl
  | awaited => exact .await _ _ _
  | called _ _ _ _ _ _ own => exact .callSoon _ own
  | announced | summoned => exact .callSoon _ rfl
  | scheduled _ _ _ _ _ _ _ own => exact .callAt _ _ own
  | spawned => exact .spawn _ _ _
  | pollBegun => exact .beginPoll _ _
  | pollEnded => exact .endPoll _ _ _
  | completed => exact .complete _ _ _
  | cancelled => exact .beginCancel _ _ _

/-- Most changes neither start a callback of another thread nor ask for one, and they let the loop run. -/
theorem Change.relays (change : Change scope aspect before after)
    (other : aspect ∉ [.requests, .taking, .closing, .runs]) : before.loop.Relays after.loop := by
  by_cases spares : aspect ∈ [.progress, .requests, .taking, .closing, .stops, .runs, .shutting]
  · cases change with
    | prepared => exact .prepare _ _
    | gathered => exact .gather _ _
    | stopped => exact ⟨fun _ _ => rfl, fun marked => ⟨marked.1, marked.2⟩, id, rfl, fun _ => rfl⟩
    | fitted => exact (Loop.Spares.refl _).relays
    | shut =>
      refine ⟨fun _ opened => ?_, fun marked => ⟨marked.1, marked.2⟩, fun opened => ?_, rfl, id⟩
      · cases opened
      · cases opened
    | asked | stopAsked | flags | readyTaken | cleared => exact absurd (by decide) other
    | _ => exact absurd spares (by decide)
  · exact (change.spares spares).relays

/-- Whatever changes, what other threads asked for is told apart from everything else. -/
theorem Change.marked (change : Change scope aspect before after) (marked : before.loop.Marked) :
    after.loop.Marked := by
  by_cases relays : aspect ∈ [.requests, .taking, .closing, .runs]
  · cases change with
    | asked _ callback _ _ _ _ remote =>
      refine ⟨fun other member => ?_, marked.timers⟩
      rcases List.mem_append.mp member with old | new
      · exact marked.remote other old
      · rw [List.mem_singleton.mp new]
        exact remote
    | stopAsked | flags => exact ⟨marked.remote, marked.timers⟩
    | readyTaken =>
      unfold Loop.takeReady
      split
      · exact marked
      · exact ⟨marked.remote, marked.timers⟩
    | cleared => exact ⟨marked.remote, by simp [Loop.dropAll, Loop.drop]⟩
    | _ => exact absurd relays (by decide)
  · exact (change.relays relays).marked marked

/-- Only a request and the beginning of an iteration have to do with whether another thread asked the loop to
return. -/
theorem Change.remoteStop (change : Change scope aspect before after)
    (other : aspect ∉ [.progress, .requests]) : after.loop.remoteStop = before.loop.remoteStop := by
  by_cases spares : aspect ∈ [.progress, .requests, .taking, .closing, .stops, .runs, .shutting]
  · cases change with
    | stopped | flags | fitted | shut | cleared => rfl
    | readyTaken =>
      unfold Loop.takeReady
      split
      · rfl
      · rfl
    | asked | stopAsked | prepared | gathered => exact absurd (by decide) other
    | _ => exact absurd spares (by decide)
  · exact congrArg Prod.fst (change.spares spares).flags

/-- Changes that neither start a callback of another thread nor ask for one relay what was asked for. -/
theorem Changes.relays (changes : Changes scope aspects before after)
    (others : ∀ aspect ∈ aspects, aspect ∉ [.requests, .taking, .closing, .runs]) :
    before.loop.Relays after.loop := by
  induction changes with
  | refl => exact (Loop.Spares.refl _).relays
  | tail _ last ih =>
    obtain ⟨aspect, member, change⟩ := last
    exact ih.trans (change.relays (others aspect member))

/-- What other threads asked for is told apart from everything else through all changes. -/
theorem Changes.marked (changes : Changes scope aspects before after) (marked : before.loop.Marked) :
    after.loop.Marked :=
  @preserves scope aspects (·.loop.Marked) (fun _ change marked => change.marked marked) before after changes
    marked

/-- Only iterations and other threads change whether the loop was asked to return from outside. -/
theorem Changes.remoteStop (changes : Changes scope aspects before after)
    (others : ∀ aspect ∈ aspects, aspect ∉ [.progress, .requests]) :
    after.loop.remoteStop = before.loop.remoteStop := by
  induction changes with
  | refl => rfl
  | tail _ last ih =>
    obtain ⟨aspect, member, change⟩ := last
    exact (change.remoteStop (others aspect member)).trans ih

end World

end EventLoop

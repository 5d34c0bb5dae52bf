import EventLoop.Proofs.Machine.Requests
import Mathlib.Data.List.TakeWhile

/-!
# How long iterations sleep

An iteration that begins polls once. It may not sleep while something is to be done: a callback is ready or
was asked for, an idle task was woken, or the loop was asked to return. Otherwise it sleeps until the first
timer is due that was not cancelled, or without an end. Time is rounded up to whole milliseconds, so a sleep
that nothing ends early lasts until this timer is due, and the same iteration collects its callback.
-/
namespace EventLoop

open Proactor (Engine)
open Kernel (Flags)

/-! ## The first timer that is due -/

namespace Timers

variable {timers : Timers} {now : Nat}

/-- When the first of the timers is due that were not cancelled. -/
def nearest (timers : Timers) : Option Nat :=
  ((timers.entries.filter fun entry => !timers.isCancelled entry.id).map TimerEntry.deadline).min?

/-- In the order of turns, the first timer that was not cancelled is due before the others. -/
theorem Sorted.fst_next (sorted : timers.Sorted) : timers.next.1 = timers.nearest := by
  let live : List TimerEntry := timers.entries.filter fun entry => !timers.isCancelled entry.id
  have order : (live.map TimerEntry.deadline).Pairwise fun first second => min first second = first := by
    apply List.pairwise_map.mpr
    apply (sorted.order.sublist List.filter_sublist).imp
    intro first second before
    rcases precedes_iff.mp before with sooner | ⟨same, -⟩
    · omega
    · omega
  have first : timers.nearest = (live.map TimerEntry.deadline).head? := List.min?_eq_head? order
  rw [first, List.head?_map, List.head?_filter, List.find?_not_eq_head?_dropWhile]
  unfold next splitCancelled
  rw [List.span_eq_takeWhile_dropWhile]

/-- The cancelled entries at the front are none of those that are due. -/
theorem Sorted.due_next (sorted : timers.Sorted) (now : Nat) : timers.next.2.2.due now = timers.due now := by
  have passed : timers.next.2.2.Sorted := @Sorted.step True _ _ sorted (.passed timers)
  rw [passed.due_eq, sorted.due_eq, snd_next]
  let isDue (entry : TimerEntry) : Bool :=
    !timers.isCancelled entry.id && decide (entry.deadline ≤ now)
  have none : (timers.entries.takeWhile fun entry => timers.isCancelled entry.id).filter isDue = [] := by
    apply List.filter_eq_nil_iff.mpr
    intro entry member
    have cancelled := List.all_eq_true.mp List.all_takeWhile entry member
    simp [isDue, cancelled]
  change (timers.entries.dropWhile fun entry => timers.isCancelled entry.id).filter isDue =
    timers.entries.filter isDue
  conv_rhs =>
    rw [← @List.takeWhile_append_dropWhile _ (fun entry => timers.isCancelled entry.id) timers.entries,
      List.filter_append, none, List.nil_append]

end Timers

/-! ## When the loop may not sleep -/

namespace Loop

variable {loop : Loop} {now : Nat}

/-- Something is to be done at once. -/
inductive Pressed (loop : Loop) : Prop
  /-- A callback is ready. -/
  | ready (callback : Callback) (ready : callback ∈ loop.ready)
  /-- Another thread asked for a callback. -/
  | remote (callback : Callback) (asked : callback ∈ loop.remote)
  /-- A task that is idle was woken. -/
  | woken (slot : Nat) (id : TaskId) (woken : slot ∈ loop.woken) (lives : loop.live.get? slot = some id)
      (idle : loop.IsIdle id)
  /-- The loop was asked to return. -/
  | stops (stops : loop.stopping = true ∨ loop.remoteStop = true)

/-- Taking over what other threads asked for leaves the timers as they are. -/
theorem timers_collectRequests (loop : Loop) : loop.collectRequests.timers = loop.timers := by
  rw [collectRequests_eq]
  exact (waits_foldl_scheduleLive loop.woken _).2.2

/-- Once an open loop has taken over what was asked for and which tasks were woken, a callback is ready or the
loop is to return if something was to be done, and only then. -/
theorem pressed_iff (opened : loop.closed = false) :
    loop.collectRequests.ready ≠ [] ∨ loop.collectRequests.stopping = true ↔ loop.Pressed := by
  obtain ⟨ids, collected, -⟩ := roused_collectRequests opened
  rw [collected.ready, loop.requests_collectRequests.2.2, Bool.or_eq_true]
  constructor
  · rintro (ready | stops)
    · obtain ⟨callback, member⟩ := List.exists_mem_of_ne_nil _ ready
      rcases List.mem_append.mp member with earlier | step
      · exact (List.mem_append.mp earlier).elim (.ready callback) (.remote callback)
      · obtain ⟨id, woken, -⟩ := List.mem_map.mp step
        obtain ⟨⟨slot, listed, lives⟩, idle⟩ := (collected.tasks id).mp woken
        exact .woken slot id listed lives idle
    · exact .stops stops
  · intro pressed
    cases pressed with
    | ready callback ready =>
      exact Or.inl (List.ne_nil_of_mem (List.mem_append_left _ (List.mem_append_left _ ready)))
    | remote callback asked =>
      exact Or.inl (List.ne_nil_of_mem (List.mem_append_left _ (List.mem_append_right _ asked)))
    | woken slot id woken lives idle =>
      have due : id ∈ ids := (collected.tasks id).mpr ⟨⟨slot, woken, lives⟩, idle⟩
      exact Or.inl (List.ne_nil_of_mem (List.mem_append_right _ (List.mem_map_of_mem due)))
    | stops stops => exact Or.inr stops

/-- How long an iteration that is about to begin may sleep. -/
theorem fst_prepare (sorted : loop.timers.Sorted) : (loop.prepare now).1 =
    if loop.collectRequests.ready ≠ [] ∨ loop.collectRequests.stopping = true then some 0
      else loop.timers.nearest.map (· - now) := by
  unfold prepare patience
  by_cases busy : loop.collectRequests.ready ≠ [] ∨ loop.collectRequests.stopping = true
  · rw [if_pos busy, if_pos (by simpa using busy)]
  · rw [if_neg busy, if_neg (by simpa using busy), ← sorted.fst_next]
    dsimp only
    rw [timers_collectRequests]

/-- Where nothing is to be done at once, no callback is ready and the cancelled entries at the front are
removed. -/
theorem snd_prepare (calm : ¬ (loop.collectRequests.ready ≠ [] ∨ loop.collectRequests.stopping = true)) :
    (loop.prepare now).2.ready = [] ∧ (loop.prepare now).2.timers = loop.timers.next.2.2 ∧
      (loop.prepare now).2.closed = loop.collectRequests.closed := by
  unfold prepare patience
  rw [if_neg (by simpa using calm), timers_collectRequests]
  exact ⟨not_not.mp (not_or.mp calm).1, rfl, rfl⟩

/-- A task that begins on an open loop becomes ready, and the timers are left alone. -/
theorem spawn_of_open (opened : loop.closed = false) (name : String) (body : Script.Body) :
    (loop.spawn name body).2.ready = loop.ready ++ [.step (loop.spawn name body).1] ∧
      (loop.spawn name body).2.timers = loop.timers := by
  have idle : taskPhase? { loop with
      futures := loop.futures.push (.new .value)
      live := (loop.live.insert loop.tasks.size).2
      tasks := loop.tasks.push ⟨name, .idle (.fresh body),
        some (loop.live.insert loop.tasks.size).1, loop.futures.size⟩ } loop.tasks.size =
      some (.idle (.fresh body)) := by
    unfold taskPhase?
    rw [Table.get?_push, if_pos rfl]
    rfl
  unfold spawn makeFuture addFuture
  dsimp only
  rw [if_neg (ne_true_of_eq_false opened)]
  unfold schedule
  rw [idle]
  dsimp only
  rw [callSoon_eq]
  constructor
  · simp [setPhase, opened]
  · rfl

namespace Outset

variable {start : Loop} {within : Frame}

/-- On an open loop an iteration begins with the timers that there were. -/
theorem timers (outset : loop.Outset within start) (opened : loop.closed = false) :
    start.timers = loop.timers := by
  cases outset with
  | single | again | forever => rfl
  | task name body entry found =>
    rw [← (spawn_of_open opened name body).2]
    change ((loop.spawn name body).2.whenDone entry.result .stopLoop).timers = _
    rw [whenDone_eq]
    split
    · rfl
    · rw [callSoon_eq]

/-- What is to be done before a run goes on is to be done when the iteration is about to begin. -/
theorem pressed (outset : loop.Outset within start) (opened : loop.closed = false) (pressed : loop.Pressed) :
    start.Pressed := by
  cases outset with
  | single | again => exact pressed
  | forever =>
    cases pressed with
    | ready callback ready => exact .ready callback ready
    | remote callback asked => exact .remote callback asked
    | woken slot id woken lives idle => exact .woken slot id woken lives idle
    | stops stops => exact .stops stops
  | task name body entry found =>
    -- The task that begins is due.
    let id := (loop.spawn name body).1
    have due : Callback.step id ∈ (loop.spawn name body).2.ready := by
      rw [(spawn_of_open opened name body).1]
      exact List.mem_append_right _ (List.mem_singleton_self _)
    apply Pressed.ready (.step id)
    obtain ⟨new, ready, -⟩ := (Spares.whenDone (loop.spawn name body).2 entry.result .stopLoop).ready
    change Callback.step id ∈ ((loop.spawn name body).2.whenDone entry.result .stopLoop).ready
    rw [ready]
    exact List.mem_append_left _ due

end Outset

end Loop

/-! ## Polls without an event -/

/-- A wait that ends without a report has let its timeout pass. -/
theorem Kernel.now_wait {kernel reached : Kernel} {poller : Fd} {limit : Nat} {timeout : Option Nat}
    {endless : Errno} (quiet : kernel.wait poller limit timeout endless = (.ok [], reached)) :
    ∃ milliseconds, timeout = some milliseconds ∧ reached.now = kernel.now + milliseconds * 1000000 := by
  unfold wait guarded at quiet
  dsimp only at quiet
  split at quiet
  · cases quiet
  · split at quiet
    · cases quiet
    · split at quiet
      · cases quiet
      · split at quiet
        · split at quiet
          · rename_i milliseconds
            cases quiet
            exact ⟨milliseconds, rfl, rfl⟩
          · cases quiet
        · rename_i reported
          obtain ⟨none, -⟩ := Prod.mk.inj quiet
          rw [Except.ok.inj none] at reported
          exact absurd rfl reported

/-- A wait of the host is one of its kernel, which is written down. -/
theorem Host.wait_of_quiet {host : Host} {reached : Kernel} {poller : Fd} {limit : Nat} {timeout : Option Nat}
    {endless : Errno} (quiet : host.kernel.wait poller limit timeout endless = (.ok [], reached)) :
    ∃ journal, Host.wait endless poller limit timeout host = (.ok [], ⟨reached, journal⟩) := by
  unfold wait traced
  dsimp only
  rw [quiet]
  exact ⟨_, rfl⟩

/-- Where nothing was reported there is nothing to handle. -/
theorem Proactor.Engine.poll_of_quiet {σ : Type} {system : Proactor.System σ} {engine : Engine} {poller : Fd}
    {timeout : Option Nat} {state reached : σ} (found : engine.poller = some poller)
    (quiet : system.wait poller engine.limit (timeout.map milliseconds) state = (.ok [], reached)) :
    engine.poll system timeout state = ((.ok (), engine), reached) := by
  unfold poll
  rw [found]
  dsimp only
  rw [StateM.bind_apply, quiet]
  rfl

/-- A poll without a report leaves everything but the host alone. -/
theorem World.poll_of_quiet {endless : Endless} {timeout : Option Nat} {world : World} {engine : Engine}
    {poller : Fd} {reached : Kernel} (completer : world.completer = .engine engine)
    (found : engine.poller = some poller)
    (quiet : world.host.kernel.wait poller engine.limit (timeout.map Engine.milliseconds) endless.errno =
      (.ok [], reached)) :
    ∃ journal, World.poll endless timeout world = (.ok (), { world with host := ⟨reached, journal⟩ }) := by
  obtain ⟨journal, waited⟩ := Host.wait_of_quiet quiet
  have quietly : (system endless.errno).wait poller engine.limit (timeout.map Engine.milliseconds) world =
      (.ok [], { world with host := ⟨reached, journal⟩ }) := by
    change onHost (Host.wait _ _ _ _) world = _
    unfold onHost
    rw [waited]
  refine ⟨journal, ?_⟩
  unfold poll
  rw [StateM.bind_apply, StateM.get_apply]
  dsimp only
  rw [completer]
  dsimp only
  rw [StateM.bind_apply, Engine.poll_of_quiet found quietly]
  cases world
  cases completer
  rfl

namespace Machine

variable {machine after : Machine} {within : Frame} {start : World} {lower : List Frame} {kernel : Kernel}

/-- The poll of an iteration that is about to begin meets no event, and this is the kernel afterwards. -/
inductive Rests (within : Frame) (start : World) (kernel : Kernel) : Prop
  | quiet (engine : Engine) (poller : Fd) (completer : start.completer = .engine engine)
      (found : engine.poller = some poller)
      (waited : start.host.kernel.wait poller engine.limit ((patience start).map Engine.milliseconds)
        (endlessWithin within).errno = (.ok [], kernel))

/-- A poll that meets no event lets the milliseconds pass that it may sleep. -/
theorem Rests.now (rests : Rests within start kernel) : ∃ time, patience start = some time ∧
    kernel.now = start.host.kernel.now + Engine.milliseconds time * 1000000 := by
  obtain ⟨engine, poller, -, -, waited⟩ := rests
  obtain ⟨milliseconds, timeout, passed⟩ := Kernel.now_wait waited
  obtain ⟨time, sleeps, rfl⟩ := Option.map_eq_some_iff.mp timeout
  exact ⟨time, sleeps, passed⟩

/-- Whole steps that are rounded up are no shorter than the time. -/
theorem le_div_mul (time slack : Nat) : time ≤ (time + slack) / (slack + 1) * (slack + 1) := by
  have exceeds := Nat.lt_div_mul_add (a := time + slack) (b := slack + 1) (by omega)
  omega

/-- Whole milliseconds that are rounded up reach a time that is no more than the longest wait away. -/
theorem le_milliseconds {time : Nat} (near : time ≤ Engine.longestWait * 1000000) :
    time ≤ Engine.milliseconds time * 1000000 := by
  unfold Engine.milliseconds
  rcases Nat.le_total ((time + 999999) / 1000000) Engine.longestWait with few | many
  · rw [Nat.min_eq_left few]
    exact le_div_mul time 999999
  · rw [Nat.min_eq_right many]
    exact near

namespace Enters

/-- An iteration that begins on an open loop leaves the timers as they were until it polls. -/
theorem timers (enters : Enters machine within start lower after)
    (opened : machine.world.loop.closed = false) : start.loop.timers = machine.world.loop.timers :=
  enters.setsOut.loop.timers opened

/-- How long the poll of an iteration may sleep. -/
theorem patience (enters : Enters machine within start lower after) (reachable : machine.Reachable)
    (opened : machine.world.loop.closed = false) : Machine.patience start =
      if start.loop.collectRequests.ready ≠ [] ∨ start.loop.collectRequests.stopping = true then some 0
        else machine.world.loop.timers.nearest.map (· - machine.world.host.kernel.now) := by
  have sorted : start.loop.timers.Sorted := by
    rw [enters.timers opened]
    exact timers_sorted reachable
  unfold Machine.patience
  rw [Loop.fst_prepare sorted, enters.timers opened, enters.setsOut.kernel]

/-- While something is to be done no poll may sleep. -/
theorem awake (enters : Enters machine within start lower after) (reachable : machine.Reachable)
    (opened : machine.world.loop.closed = false) (pressed : machine.world.loop.Pressed) :
    Machine.patience start = some 0 := by
  have still : start.loop.Pressed := enters.setsOut.loop.pressed opened pressed
  rw [enters.patience reachable opened, if_pos ((Loop.pressed_iff (enters.opened opened)).mpr still)]

/-- After a poll without an event the iteration gathers what is due. -/
theorem rested (enters : Enters machine within start lower after)
    (opened : machine.world.loop.closed = false) (rests : Rests within start kernel) :
    after.world.host.kernel = kernel ∧
      after.world.loop = ((start.loop.prepare start.host.kernel.now).2.gather kernel.now).2 ∧
        after.frames = .iteration after.world.loop.ready.length :: within :: lower := by
  obtain ⟨engine, poller, completer, found, waited⟩ := rests
  obtain ⟨journal, polled⟩ := @World.poll_of_quiet _ _ (prepared start) _ _ _ completer found waited
  have polled : Machine.polled within start = _ := polled
  rcases enters.begins opened with ⟨error, failed, -⟩ | ⟨-, rfl⟩
  · rw [polled] at failed
    cases failed
  · rw [polled]
    exact ⟨rfl, rfl, rfl⟩

end Enters

/-- An iteration collects the timers that are due at the end of its sleep, among them the nearest. -/
structure Wakes (machine after : Machine) (deadline : Nat) : Prop where
  /-- The nearest timer is due. -/
  due : deadline ≤ after.world.host.kernel.now
  /-- The callbacks of all timers that are due by then and were not cancelled are ready before any other. -/
  ready : (machine.world.loop.timers.entries.filter fun entry =>
    !machine.world.loop.timers.isCancelled entry.id &&
      decide (entry.deadline ≤ after.world.host.kernel.now)).map TimerEntry.callback <+: after.world.loop.ready
  /-- No timer that is due waits any longer. -/
  entries : ∀ entry ∈ after.world.loop.timers.entries, after.world.host.kernel.now < entry.deadline
  /-- The iteration is to take everything that is ready. -/
  frames : ∃ below, after.frames = .iteration after.world.loop.ready.length :: below

/-- An iteration that has nothing to do sleeps until the nearest timer is due, unless it meets an event. -/
theorem Enters.wakes (enters : Enters machine within start lower after) (reachable : machine.Reachable)
    (opened : machine.world.loop.closed = false)
    (calm : ¬ (start.loop.collectRequests.ready ≠ [] ∨ start.loop.collectRequests.stopping = true))
    (rests : Rests within start kernel) {deadline : Nat}
    (nearest : machine.world.loop.timers.nearest = some deadline)
    (near : deadline ≤ machine.world.host.kernel.now + (2 ^ 31 - 1) * 1000000) :
    Wakes machine after deadline := by
  have sorted := timers_sorted reachable
  obtain ⟨same, loop, frames⟩ := enters.rested opened rests
  obtain ⟨ready, timers, closed⟩ := @Loop.snd_prepare start.loop start.host.kernel.now calm
  rw [enters.timers opened] at timers
  have opened' : start.loop.collectRequests.closed = false := by
    obtain ⟨ids, -, roused⟩ := Loop.roused_collectRequests (enters.opened opened)
    exact roused.closed.trans (enters.opened opened)
  have prepared : (start.loop.prepare start.host.kernel.now).2.timers.Sorted := by
    rw [timers]
    exact @Timers.Sorted.step True _ _ sorted (.passed _)
  subst same
  refine ⟨?_, ?_, ?_, _, frames⟩
  · obtain ⟨time, sleeps, now⟩ := rests.now
    rw [enters.patience reachable opened, if_neg calm, nearest] at sleeps
    cases sleeps
    have longest : Engine.longestWait = 2 ^ 31 - 1 := rfl
    have away : deadline - machine.world.host.kernel.now ≤ Engine.longestWait * 1000000 := by
      rw [longest]
      exact Nat.sub_le_of_le_add (Nat.add_comm _ _ ▸ near)
    rw [now, enters.setsOut.kernel]
    exact Nat.sub_le_iff_le_add'.mp (le_milliseconds away)
  · rw [← sorted.due_eq, ← sorted.due_next, ← timers, loop]
    have gathers := Loop.ready_gather (closed.trans opened') after.world.host.kernel.now
    rwa [ready, List.nil_append] at gathers
  · have taken := Loop.timers_gather (start.loop.prepare start.host.kernel.now).2 after.world.host.kernel.now
    rw [← loop] at taken
    have sorted : after.world.loop.timers.Sorted := by
      rw [taken]
      exact prepared.step (.taken _ trivial _)
    apply sorted.lt_deadline
    rw [taken, Timers.snd_takeDue]

/-! ## Every state of a run -/

/-- Whatever iteration begins in a state of a run, it sleeps neither on what is to be done nor past the nearest
timer. -/
structure PollsInTime (machine : Machine) : Prop where
  /-- An iteration that begins is entered within the frame of a run. -/
  begins : ∀ {after}, Step machine after → after.IsOpen → BeginsIteration machine after →
    ∃ within start lower, Enters machine within start lower after
  /-- It polls what completes operations once, for at most the time that it may sleep. If this fails, so does
  the iteration, and otherwise it gathers what is ready and is to take all of it. -/
  polls : ∀ {within start lower after}, Enters machine within start lower after →
    (∃ error, (polled within start).1 = .error error ∧
        after = ⟨(polled within start).2, within :: lower, .iterated (.error (.ofIo error))⟩) ∨
      (polled within start).1 = .ok () ∧ after = ⟨gathered (polled within start).2,
        .iteration (gathered (polled within start).2).loop.ready.length :: within :: lower, .proceed⟩
  /-- It may not sleep if something is ready or the loop is to return once requests are collected, otherwise
  until the first timer is due that was not cancelled, or without an end. -/
  timeout : ∀ {within start lower after}, Enters machine within start lower after → patience start =
    if start.loop.collectRequests.ready ≠ [] ∨ start.loop.collectRequests.stopping = true then some 0
      else machine.world.loop.timers.nearest.map (· - machine.world.host.kernel.now)
  /-- So it never sleeps on what was to be done before the step. -/
  awake : ∀ {within start lower after}, Enters machine within start lower after →
    machine.world.loop.Pressed → patience start = some 0
  /-- A sleep that meets no event lasts for the time that it may, in whole milliseconds. -/
  sleeps : ∀ {within start lower after kernel}, Enters machine within start lower after →
    Rests within start kernel → ∃ time, patience start = some time ∧ after.world.host.kernel = kernel ∧
      kernel.now = machine.world.host.kernel.now + Engine.milliseconds time * 1000000
  /-- If the nearest timer is not too far away, the same iteration collects it, and whatever else is due. -/
  wakes : ∀ {within start lower after kernel deadline}, Enters machine within start lower after →
    ¬ (start.loop.collectRequests.ready ≠ [] ∨ start.loop.collectRequests.stopping = true) →
      Rests within start kernel → machine.world.loop.timers.nearest = some deadline →
        deadline ≤ machine.world.host.kernel.now + (2 ^ 31 - 1) * 1000000 → Wakes machine after deadline

/-- In every state of every run on an open loop, iterations poll in time. -/
theorem pollsInTime (visits : Visits IsOpen machine) : PollsInTime machine := by
  have opened : machine.world.loop.closed = false := visits.fine
  have reachable := visits.reachable
  refine ⟨fun step fine begins => visits.exists_enters (fun _ fine => fine) step fine begins,
    fun enters => enters.begins opened,
    fun enters => enters.patience reachable opened, fun enters => enters.awake reachable opened,
    fun enters rests => ?_,
    fun enters calm rests => enters.wakes reachable opened calm rests⟩
  obtain ⟨time, sleeps, passed⟩ := rests.now
  refine ⟨time, sleeps, (enters.rested opened rests).1, ?_⟩
  rw [passed, enters.setsOut.kernel]

/-- A loop that was just built, with the engine. -/
def engined : Machine :=
  let scenario : Scenario := ⟨{}, {}, []⟩
  ⟨scenario.build.2, [], .answer .null⟩

/-- The machine with an engine is in an initial state. -/
theorem initial_engined : Initial engined := .built (Prod.ext rfl rfl)

/-- Nothing is to be done but two timers, of which the first was cancelled. -/
def napping : Machine := engined.drive openly 20
  [.runOnce 2, .callLater "first" 700000 [], .callLater "second" 1500000 [], .loop (.cancelTimer "first")]

/-- The next iteration sleeps for two milliseconds and runs the callback of the second timer. -/
theorem pollsInTime_napping : PollsInTime napping ∧ napping.world.loop.timers.nearest = some 1500000 ∧
    (napping.drive openly 20 [.runOnce 1]).world.host.kernel.now = 2000000 ∧
      (napping.drive openly 20 [.runOnce 1]).world.loop.timers.entries.length = 0 := by
  have visits : Visits IsOpen napping := by
    apply Visits.mono (.drive (.initial initial_engined rfl) 20 _)
    intro machine fine
    unfold openly at fine
    rw [Bool.not_eq_true'] at fine
    exact fine
  exact ⟨pollsInTime visits, by decide +kernel, by decide +kernel, by decide +kernel⟩

end Machine

end EventLoop

import EventLoop.Proofs.Machine.Run
import EventLoop.Proofs.Timers

/-!
# Timers that are cancelled in time

Whatever a run does, its timers take only the steps that timers take. So in every state the entries that
wait are in the order of their turns, and a timer whose entry still waits when it is cancelled is passed
over for good. Once an entry was taken because it is due, its callback is ready like any other, and to
cancel its timer no longer makes a difference.
-/
namespace EventLoop

open World (Settled moving)

namespace World

variable {collects : Prop} {scope : Scope} {aspects : List Aspect} {before after : World}

/-- No change does more to the timers than they may do, and only iterations and the closing of the loop
collect entries. -/
theorem Change.ages {aspect : Aspect} (change : Change scope aspect before after)
    (may : aspect = .progress ∨ aspect = .closing → collects) :
    before.loop.Ages collects after.loop := by
  cases change with
  | surroundings | held | names | devices | fitted | released | turned | retired | servers | dropped
  | taken | emptied | deserted | asked | primitives | woken | stopAsked | stopped | flags | shut
  | abandoned =>
    exact .of_eq rfl
  | made => exact .makeTimed _ _ _ _
  | resolved | granted | expired => exact .resolve _ _ _
  | registered | bound | enlisted => exact .whenDone _ _ _
  | connected _ socket peer protocol reads =>
    exact addTransport_loop _ (.refl before.loop) fun loop callback ages =>
      ages.trans (.callSoon loop callback)
  | awaited => exact .await _ _ _
  | called | announced | summoned => exact .callSoon _ _
  | scheduled => exact .callAt _ _ _
  | disarmed => exact .cancelTimer _ _
  | spawned => exact .spawn _ _ _
  | pollBegun => exact .beginPoll _ _
  | pollEnded => exact .endPoll _ _ _
  | completed => exact .complete _ _ _
  | cancelled => exact .beginCancel _ _ _
  | prepared => exact .prepare _ _
  | gathered => exact .gather (may (Or.inl rfl)) _ _
  | readyTaken => exact .takeReady _
  | cleared => exact .dropAll (may (Or.inr rfl)) _

/-- What becomes of the timers through changes goes on step by step, and something is collected only in
an iteration or when the loop is closed. -/
theorem Changes.ages (changes : Changes scope aspects before after)
    (may : .progress ∈ aspects ∨ .closing ∈ aspects → collects) :
    before.loop.Ages collects after.loop := by
  induction changes with
  | refl => exact .refl _
  | tail _ last ih =>
    obtain ⟨aspect, member, change⟩ := last
    refine ih.trans (change.ages fun which => may ?_)
    rcases which with rfl | rfl
    · exact Or.inl member
    · exact Or.inr member

/-- Neither do deeds and the taking of a place. -/
theorem Course.ages {held : List Ref} {before after : Multiset Stake × World}
    (course : Course held aspects before after) (settled : Settled held before.1 before.2)
    (may : .progress ∈ aspects ∨ .closing ∈ aspects → collects) :
    before.2.loop.Ages collects after.2.loop := by
  have apart : Aspect.progress ∉ moving ∧ Aspect.closing ∉ moving := by decide
  refine (course.changes_append settled).ages fun which => may ?_
  exact which.imp (fun member => (List.mem_append.mp member).resolve_right apart.1)
    fun member => (List.mem_append.mp member).resolve_right apart.2

end World

namespace Machine

variable {machine after earlier : Machine} {sort : Machine → Prop} {entry : TimerEntry}

/-- No step of a run does more to the timers than they may do. -/
theorem Reachable.ages (reachable : machine.Reachable) (step : Step machine after) :
    machine.world.loop.Ages True after.world.loop := by
  obtain ⟨aspects, passes⟩ := reachable.passes step
  exact World.Course.ages passes (Reachable.sound reachable).settled fun _ => trivial

/-- Neither does the rest of a run. -/
theorem Onward.ages (onward : Onward sort machine after) (visits : Visits sort machine) :
    machine.world.loop.Ages True after.world.loop := by
  induction onward with
  | refl => exact .refl _
  | tail earlier last ih =>
    exact ih.trans (Reachable.ages (visits.onward earlier).reachable last.1)

/-- In every state of every run, the entries of timers are in the order of their turns. -/
theorem timers_sorted (reachable : machine.Reachable) : machine.world.loop.timers.Sorted := by
  induction reachable with
  | initial initial =>
    obtain ⟨-, -, bare, ⟨host, settings, completer, -⟩, settled, course⟩ := initial.course
    exact (Timers.Sorted.of_empty rfl).steps (course.ages settled fun _ => trivial).steps
  | step earlier step _ ih => exact ih.steps (Reachable.ages earlier step).steps

/-- In every state of every run, the callbacks that become ready because their time has come are those of
all entries that are due and whose timers were not cancelled, in the order of their turns; and each timer
has one entry at most. -/
theorem timers_become_ready (reachable : machine.Reachable) (now : Nat) :
    (machine.world.loop.collectDue now).ready = machine.world.loop.ready ++
      (machine.world.loop.timers.entries.filter fun entry =>
        !machine.world.loop.timers.isCancelled entry.id && decide (entry.deadline ≤ now)).map
          TimerEntry.callback ∧
    (machine.world.loop.timers.entries.map TimerEntry.id).Nodup := by
  have sorted := timers_sorted reachable
  refine ⟨?_, sorted.nodup⟩
  rw [← sorted.due_eq now]
  exact Loop.ready_collectDue machine.world.loop now

/-- If a timer is cancelled while its entry waits, then its callback never becomes ready: the entry has
waited in every state since the timer was scheduled, and nothing that becomes due later on is of this
timer. -/
theorem cancelled_timers_stay_unready (visits : Visits sort earlier) (before : Onward sort earlier machine)
    (onward : Onward sort machine after) (waits : entry ∈ machine.world.loop.timers.entries)
    (cancelled : machine.world.loop.timers.isCancelled entry.id = true) :
    (earlier.world.loop.timers.table.get? entry.id ≠ none →
      entry ∈ earlier.world.loop.timers.entries) ∧
    ∀ now, ∀ other ∈ after.world.loop.timers.due now, other.id ≠ entry.id := by
  have past := Timers.Abides.of_steps (before.ages visits).steps
  have future := Timers.Abides.of_steps (onward.ages (visits.onward before)).steps
  refine ⟨(past.old entry waits).resolve_right, fun now other due same => ?_⟩
  have live := (List.mem_filter.mp due).2
  rw [same, future.isCancelled cancelled] at live
  cases live

end Machine

end EventLoop

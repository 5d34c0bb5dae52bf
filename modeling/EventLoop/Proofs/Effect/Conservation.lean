import EventLoop.Proofs.Effect.Calm
import EventLoop.Proofs.Tasks

/-!
# What calm steps conserve

Nothing that waits in the loop is lost by a calm step: callbacks that are ready stay ready in their order, the
entries of timers stay where they are, and the tasks do what they did.
-/
namespace EventLoop

namespace Loop

/-- What waits in a loop waits in another one, where more may have become ready. -/
structure Conserves (loop other : Loop) : Prop where
  /-- The callbacks that are ready stay ready, in their order and before all others. -/
  ready : loop.ready <+: other.ready
  /-- The entries of timers stay. -/
  timers : loop.timers.entries ⊆ other.timers.entries
  /-- The tasks do what they did. -/
  tasks : other.tasks = loop.tasks
  /-- The loop is as closed as before. -/
  closed : other.closed = loop.closed

namespace Conserves

variable {loop other : Loop}

/-- What waits is conserved if it stays the same. -/
theorem of_eq (ready : other.ready = loop.ready) (entries : other.timers.entries = loop.timers.entries)
    (tasks : other.tasks = loop.tasks) (closed : other.closed = loop.closed) : loop.Conserves other :=
  ⟨ready ▸ List.prefix_refl _, entries ▸ List.Subset.refl _, tasks, closed⟩

/-- What waits is conserved when nothing happens. -/
theorem refl (loop : Loop) : loop.Conserves loop := of_eq rfl rfl rfl rfl

/-- What is conserved twice is conserved. -/
theorem trans {first second third : Loop} (before : first.Conserves second) (after : second.Conserves third) :
    first.Conserves third :=
  ⟨before.ready.trans after.ready, List.Subset.trans before.timers after.timers,
    after.tasks.trans before.tasks, after.closed.trans before.closed⟩

/-- Making a callback ready conserves what waits. -/
theorem callSoon (loop : Loop) (callback : Callback) : loop.Conserves (loop.callSoon callback) := by
  rw [callSoon_eq]
  exact ⟨List.prefix_append _ _, List.Subset.refl _, rfl, rfl⟩

/-- Scheduling a callback for a time conserves what waits. -/
theorem callAt (loop : Loop) (deadline : Nat) (callback : Callback) :
    loop.Conserves (loop.callAt deadline callback).2 := by
  rw [callAt_eq]
  refine ⟨List.prefix_refl _, ?_, rfl, rfl⟩
  cases loop.closed with
  | true => exact List.Subset.refl _
  | false => exact fun entry waits => Timers.mem_insertEntry.mpr (Or.inr waits)

/-- Making a future, with a timeout or without, conserves what waits. -/
theorem makeTimed (loop : Loop) (kind : FutureKind) (now : Nat) (timeout : Option Nat) :
    loop.Conserves (loop.makeTimed kind now timeout).2 := by
  cases timeout with
  | none => exact of_eq rfl rfl rfl rfl
  | some delay =>
    have armed := callAt loop (now + delay) (.expire loop.futures.size)
    exact armed.trans (of_eq rfl rfl rfl rfl)

/-- A future that is resolved cancels its timer, whose entry stays. -/
theorem resolve (loop : Loop) (id : FutureId) (resolution : Resolution) :
    loop.Conserves (loop.resolve id resolution).2 := by
  rw [resolve_eq]
  split
  · rename_i kind reactions timer found
    rw [replaceFuture_eq]
    refine ⟨List.prefix_append _ _, ?_, rfl, rfl⟩
    cases timer with
    | none => exact List.Subset.refl _
    | some timer => exact List.Subset.refl _
  · exact refl loop

/-- Registering a reaction conserves what waits. -/
theorem whenDone (loop : Loop) (id : FutureId) (reaction : Reaction) :
    loop.Conserves (loop.whenDone id reaction) := by
  rw [whenDone_eq]
  split
  · exact of_eq rfl rfl rfl rfl
  · exact callSoon loop _

/-- Awaiting a future conserves what waits. -/
theorem await (loop : Loop) (wait : Wait) (waker : Nat) : loop.Conserves (loop.await wait waker).2 := by
  unfold Loop.await
  split
  · exact refl loop
  · split
    · exact of_eq rfl rfl rfl rfl
    · have stored : loop.Conserves { loop with cells := loop.cells.push waker } := of_eq rfl rfl rfl rfl
      exact stored.trans (whenDone _ _ _)

end Conserves

end Loop

namespace World

variable {scope : Scope} {aspect : Aspect} {before after : World}

/-- A calm change conserves what waits in the loop. -/
theorem Change.conserves (change : Change scope aspect before after) (calmly : aspect ∈ calm) :
    before.loop.Conserves after.loop := by
  cases change with
  | surroundings | held | dropped | names | devices | taken | emptied | disarmed | released | retired | woken
  | stopped => exact .of_eq rfl rfl rfl rfl
  | made => exact .makeTimed _ _ _ _
  | resolved => exact .resolve _ _ _
  | registered => exact .whenDone _ _ _
  | awaited => exact .await _ _ _
  | called => exact .callSoon _ _
  | scheduled => exact .callAt _ _ _
  | connected _ socket peer protocol reads =>
    exact addTransport_loop _ (.refl before.loop) fun loop callback conserves =>
      conserves.trans (.callSoon loop callback)
  | _ => exact absurd calmly (by decide)

/-- Calm changes conserve what waits in the loop. -/
theorem Changes.conserves (changes : Changes scope calm before after) :
    before.loop.Conserves after.loop := by
  induction changes with
  | refl => exact .refl _
  | tail _ last ih =>
    obtain ⟨aspect, member, change⟩ := last
    exact ih.trans (change.conserves member)

end World

end EventLoop

import EventLoop.Proofs.Machine.Stages
import Mathlib.Data.Set.Card

/-!
# Settling

References that were given up are looked at one after another before anything else happens, and an object
that is released gives up others in turn. This ends: whatever is released is not missed any more, and nothing
comes to be missed by it. So the machine arrives at what it was about to do, and that is the same as before.
-/
namespace EventLoop

/-- A future that is emptied is not missed any more. -/
theorem Future.isMissed_emptied (future : Future) : future.emptied.isMissed = false := by
  obtain ⟨kind, phase⟩ := future
  cases phase with
  | pending | cancelled | finished => rfl

namespace World

variable {α β : Type} {world other : World}

/-! ## Worlds in which nothing comes to be missed -/

/-- Nothing comes to be missed on the way from one world to another. -/
def Fades (world other : World) : Prop := ∀ ref, other.isMissed ref = true → world.isMissed ref = true

namespace Fades

/-- Nothing comes to be missed when nothing happens. -/
theorem refl (world : World) : world.Fades world := fun _ missed => missed

/-- Nothing comes to be missed by one thing after another. -/
theorem trans {first second third : World} (before : first.Fades second) (after : second.Fades third) :
    first.Fades third := fun ref missed => before ref (after ref missed)

/-- Whether an object would be missed shows in five tables. -/
theorem of_eq (sockets : other.sockets = world.sockets) (futures : other.loop.futures = world.loop.futures)
    (tasks : other.loop.tasks = world.loop.tasks) (transports : other.transports = world.transports)
    (servers : other.servers = world.servers) : world.Fades other := by
  intro ref missed
  cases ref with
  | socket id =>
    have same : other.isOpen id = world.isOpen id := by
      unfold isOpen fdOf
      rw [sockets]
    exact same.symm.trans missed
  | future => simpa only [isMissed, futures] using missed
  | task => simpa only [isMissed, tasks] using missed
  | transport => simpa only [isMissed, transports] using missed
  | server => simpa only [isMissed, servers] using missed

/-- A future that is left with nothing to miss makes nothing missed. -/
theorem modifyFuture {loop : Loop} {id : FutureId} {change : Future → Future}
    (futures : loop.futures = world.loop.futures.modify id change) (tasks : loop.tasks = world.loop.tasks)
    (less : ∀ future, world.loop.futures.get? id = some future → (change future).isMissed = false) :
    world.Fades { world with loop } := by
  intro ref missed
  cases ref with
  | socket | transport | server => exact missed
  | task => simpa only [isMissed, tasks] using missed
  | future here =>
    simp only [isMissed, futures] at missed ⊢
    by_cases same : here = id
    · subst same
      rw [Table.get?_modify_self, Option.any_map] at missed
      obtain ⟨future, found, missed⟩ := (Option.any_eq_true _ _).mp missed
      exact absurd ((less future found).symm.trans missed) (by decide)
    · rwa [Table.get?_modify_of_ne _ _ same] at missed

/-- A task that gives its program up makes nothing missed. -/
theorem setPhase {id : TaskId} {phase : TaskPhase} (none : ∀ task : Task, ({ task with phase }).activity? = none) :
    world.Fades { world with loop := world.loop.setPhase id phase } ∧
      ({ world with loop := world.loop.setPhase id phase } : World).isMissed (.task id) = false := by
  have gone : ((world.loop.setPhase id phase).tasks.get? id).any (·.activity?.isSome) = false := by
    unfold Loop.setPhase
    rw [Table.get?_modify_self, Option.any_map]
    cases world.loop.tasks.get? id with
    | none => rfl
    | some task => simp [none task]
  refine ⟨fun ref missed => ?_, gone⟩
  cases ref with
  | socket | transport | server | future => exact missed
  | task here =>
    by_cases same : here = id
    · subst same
      exact absurd (gone.symm.trans missed) (by decide)
    · simpa only [isMissed, Loop.setPhase, Table.get?_modify_of_ne _ _ same] using missed

end Fades

/-! ## Steps that let nothing be missed -/

/-- Nothing comes to be missed by a step. -/
def Fading (step : WorldM α) : Prop := ∀ world : World, world.Fades (step world).2

/-- A task that is gone gives up its program, if it holds one, and its result. -/
def lettingGo (task : Task) : WorldM Unit :=
  task.activity?.elim (drop (.future task.result)) fun activity => do
    abandonProgram task.name activity
    drop (.future task.result)

/-- A task that is released is gone first. -/
theorem release_task {id : TaskId} {task : Task} (found : world.loop.tasks.get? id = some task) :
    release (.task id) world = lettingGo task { world with loop := world.loop.setPhase id .cancelled } := by
  unfold release lettingGo
  simp only [StateM.bind_apply, StateM.get_apply, found]
  cases task.activity? with
  | none => rfl
  | some activity => rfl

namespace Fading

/-- Nothing comes to be missed when nothing is done. -/
theorem pure (value : α) : Fading (Pure.pure value) := fun world => .refl world

/-- Nothing comes to be missed by a step that goes on, if not by either part. -/
theorem bind {step : WorldM α} {next : α → WorldM β} (first : Fading step) (rest : ∀ value, Fading (next value)) :
    Fading (step >>= next) := fun world => (first world).trans (rest _ _)

/-- The state is read. -/
theorem get {next : World → WorldM β} (rest : ∀ world, Fading (next world)) : Fading (get >>= next) :=
  fun world => rest world world

/-- Each of many steps lets nothing be missed. -/
theorem forM {elements : List α} {action : α → WorldM PUnit} (each : ∀ element, Fading (action element)) :
    Fading (elements.forM action) := by
  induction elements with
  | nil => exact pure _
  | cons element rest ih => exact bind (each element) fun _ => ih

/-- References are given up. -/
theorem drop (refs : List Ref) : Fading (changeLoop (·.drop refs)) := fun _ => .of_eq rfl rfl rfl rfl rfl

/-- A future that is resolved without anything to keep alive makes nothing missed. -/
theorem resolve (future : FutureId) {resolution : Resolution}
    (bare : ∀ kind, (⟨kind, Future.resolved resolution⟩ : Future).isMissed = false) :
    Fading (World.resolve future resolution) := by
  intro world
  change world.Fades { world with loop := (world.loop.resolve future resolution).2 }
  rw [Loop.resolve_eq]
  split
  · rw [Loop.replaceFuture_eq]
    exact Fades.modifyFuture rfl rfl fun _ _ => bare _
  · exact .refl world

/-- Granting callers lets nothing be missed. -/
theorem grant (futures : List FutureId) : Fading (World.grant futures) :=
  forM fun future => bind (resolve future fun _ => rfl) fun _ => pure _

/-- Cancelling futures lets nothing be missed. -/
theorem cancelAll (futures : List FutureId) : Fading (World.cancelAll futures) :=
  forM fun future => bind (resolve future fun _ => rfl) fun _ => pure _

/-- Changing the queue of a gate lets nothing be missed. -/
theorem setQueue (gate : Gate) (queue : Sync.WaiterQueue) : Fading (World.setQueue gate queue) := by
  intro world
  cases gate with
  | lock | semaphore | event | condition => exact .of_eq rfl rfl rfl rfl rfl

/-- Giving up the place of a caller that is gone lets nothing be missed. -/
theorem abandonPlace (gate : Gate) (future : FutureId) : Fading (World.abandonPlace gate future) := by
  have looks : Fading (queueAt gate) := by
    intro world
    cases gate with
    | lock | semaphore | event | condition => exact .refl world
  refine bind looks fun queue => get fun world => ?_
  refine bind (setQueue gate _) fun _ => ?_
  split
  · exact grant _
  · exact cancelAll _

/-- Releasing a lock lets nothing be missed. -/
theorem releaseLock (id : LockId) : Fading (World.releaseLock id) := by
  refine bind (fun world => .refl world) fun lock => get fun world => ?_
  split
  · exact pure _
  · refine bind (fun _ => .of_eq rfl rfl rfl rfl rfl) fun _ => ?_
    exact bind (grant _) fun _ => pure _

/-- Giving a permit back lets nothing be missed. -/
theorem releaseSemaphore (id : SemaphoreId) : Fading (World.releaseSemaphore id) := by
  refine bind (fun world => .refl world) fun semaphore => get fun world => ?_
  split
  · exact pure _
  · refine bind (fun _ => .of_eq rfl rfl rfl rfl rfl) fun _ => ?_
    exact bind (grant _) fun _ => pure _

/-- Giving up a part of a program lets nothing be missed. -/
theorem abandonPart (part : Script.Part) : Fading (World.abandonPart part) := by
  cases part with
  | place gate future => exact bind (abandonPlace gate future) fun _ => drop _
  | future | socket | transport => exact drop _
  | guard guard =>
    cases guard with
    | lock id => exact bind (releaseLock id) fun _ => pure _
    | semaphore id => exact bind (releaseSemaphore id) fun _ => pure _

/-- A program that is given up makes nothing missed. -/
theorem abandonProgram (name : String) (activity : Script.Activity) :
    Fading (World.abandonProgram name activity) := by
  refine bind (get fun world => ?_) fun _ => forM abandonPart
  split
  · exact fun _ => .of_eq rfl rfl rfl rfl rfl
  · exact pure _

/-- A task that is gone gives up its program and its result. -/
theorem lettingGo (task : Task) : Fading (World.lettingGo task) := by
  unfold World.lettingGo
  cases task.activity? with
  | none => exact drop _
  | some activity => exact bind (abandonProgram task.name activity) fun _ => drop _

end Fading

/-! ## What is released -/

/-- What was removed from a table is not there, and everything else still is. -/
theorem any_isSome_removed {α : Type} (table : Table (Option α)) (id here : Nat) :
    ((table.modify id fun _ => none).get? here).any (·.isSome) =
      if here = id then false else (table.get? here).any (·.isSome) := by
  rw [Table.get?_modify]
  split
  · rw [Option.any_map]
    cases table.get? here with
    | none => rfl
    | some => rfl
  · rfl

/-- An entry that is empty, or is not there, holds nothing. -/
theorem any_isSome_of_join {α : Type} {entry : Option (Option α)} (none : entry.join = none) :
    entry.any (·.isSome) = false := by
  rcases entry with _ | _ | _
  · rfl
  · rfl
  · cases none

/-- An object that is released is not missed any more, and nothing comes to be missed by it. -/
theorem fades_release (ref : Ref) (world : World) :
    world.Fades (release ref world).2 ∧ (release ref world).2.isMissed ref = false := by
  cases ref with
  | socket id =>
    refine ⟨fun ref missed => ?_, isOpen_closeSocket id world⟩
    change (closeSocket id world).2.isMissed ref = true at missed
    rw [snd_closeSocket] at missed
    split at missed
    · cases ref with
      | future | task | transport | server => exact missed
      | socket here =>
        by_cases same : here = id
        · subst same
          rename_i opened
          exact decide_eq_true opened
        · change decide (0 ≤ ((world.sockets.modify id _).get? here).getD Kernel.closedFd) = true at missed
          rwa [Table.get?_modify_of_ne _ _ same] at missed
    · exact missed
  | future id =>
    unfold release
    simp only [StateM.bind_apply, StateM.get_apply]
    cases found : world.loop.futures.get? id with
    | none =>
      refine ⟨.refl world, ?_⟩
      change (world.loop.futures.get? id).any _ = false
      rw [found]
      rfl
    | some future =>
      refine ⟨Fades.modifyFuture rfl rfl fun future _ => future.isMissed_emptied, ?_⟩
      change ((world.loop.futures.modify id Future.emptied).get? id).any _ = false
      rw [Table.get?_modify_self, found]
      exact future.isMissed_emptied
  | task id =>
    cases found : world.loop.tasks.get? id with
    | none =>
      have same : (release (.task id) world).2 = world := by
        unfold release
        simp only [StateM.bind_apply, StateM.get_apply, found]
        rfl
      rw [same]
      refine ⟨.refl world, ?_⟩
      change (world.loop.tasks.get? id).any _ = false
      rw [found]
      rfl
    | some task =>
      let gone : World := { world with loop := world.loop.setPhase id .cancelled }
      obtain ⟨fades, missed⟩ : world.Fades gone ∧ gone.isMissed (.task id) = false :=
        Fades.setPhase fun _ => rfl
      rw [release_task found]
      have rest := Fading.lettingGo task gone
      refine ⟨fades.trans rest, eq_false_of_ne_true fun still => ?_⟩
      exact Bool.false_ne_true (missed.symm.trans (rest _ still))
  | transport id =>
    unfold release
    simp only [StateM.bind_apply, StateM.get_apply]
    cases found : (world.transports.get? id).join with
    | none => exact ⟨.refl world, any_isSome_of_join found⟩
    | some transport =>
      refine ⟨fun ref missed => ?_, (any_isSome_removed _ id id).trans (if_pos rfl)⟩
      cases ref with
      | socket | future | task | server => exact missed
      | transport here =>
        have kept := (any_isSome_removed world.transports id here).symm.trans missed
        split at kept
        · cases kept
        · exact kept
  | server id =>
    unfold release
    simp only [StateM.bind_apply, StateM.get_apply]
    cases found : (world.servers.get? id).join with
    | none => exact ⟨.refl world, any_isSome_of_join found⟩
    | some server =>
      refine ⟨fun ref missed => ?_, (any_isSome_removed _ id id).trans (if_pos rfl)⟩
      cases ref with
      | socket | future | task | transport => exact missed
      | server here =>
        have kept := (any_isSome_removed world.servers id here).symm.trans missed
        split at kept
        · cases kept
        · exact kept

/-- Whether an object would be missed does not depend on what else was given up. -/
theorem isMissed_with_dropped (world : World) (refs : List Ref) (ref : Ref) :
    ({ world with loop := { world.loop with dropped := refs } } : World).isMissed ref = world.isMissed ref := by
  cases ref with
  | socket | future | task | transport | server => rfl

/-- A reference that was given up and is looked at is done with, or an object that would be missed is released
that is not missed any more. -/
theorem fades_settleDropped (ref : Ref) (refs : List Ref) (world : World) :
    (settleDropped ref refs world).2 = { world with loop := { world.loop with dropped := refs } } ∨
      world.Fades (settleDropped ref refs world).2 ∧ world.isMissed ref = true ∧
        (settleDropped ref refs world).2.isMissed ref = false := by
  let bare : World := { world with loop := { world.loop with dropped := refs } }
  have settled : (settleDropped ref refs world).2 =
      { (releaseUnmentioned ref bare).2 with loop := { (releaseUnmentioned ref bare).2.loop with
        dropped := (releaseUnmentioned ref bare).1 ++ refs } } := rfl
  by_cases free : (bare.isMissed ref && !bare.isMentioned ref) = true
  · obtain ⟨fades, gone⟩ := fades_release ref { bare with loop := { bare.loop with dropped := [] } }
    have aside {first second : World} (refs' : List Ref) (fades : first.Fades second) :
        first.Fades { second with loop := { second.loop with dropped := refs' } } :=
      fades.trans (.of_eq rfl rfl rfl rfl rfl)
    have before : world.Fades { bare with loop := { bare.loop with dropped := [] } } :=
      .of_eq rfl rfl rfl rfl rfl
    rw [settled, releaseUnmentioned_of_free free rfl]
    right
    rw [isMissed_with_dropped]
    refine ⟨aside _ (before.trans fades), before ref ?_, gone⟩
    rw [isMissed_with_dropped]
    exact ((Bool.and_eq_true _ _).mp free).1
  · rw [settled, releaseUnmentioned_of_kept free]
    exact Or.inl rfl

/-! ## The end of settling -/

/-- The objects that would be missed. -/
def missed (world : World) : Set Ref := { ref | world.isMissed ref = true }

/-- What is missed does not depend on the references that were given up. -/
theorem missed_with_dropped (world : World) (refs : List Ref) :
    ({ world with loop := { world.loop with dropped := refs } } : World).missed = world.missed :=
  Set.ext fun ref => iff_of_eq (congrArg (· = true) (isMissed_with_dropped world refs ref))

/-- Only objects that exist would be missed. -/
theorem finite_missed (world : World) : world.missed.Finite := by
  have ids (kind : Nat → Ref) (size : Nat) : (kind '' { id | id < size }).Finite :=
    (Set.finite_lt_nat size).image kind
  have exists_ {α : Type} {table : Table α} {id : Nat} {test : α → Bool}
      (found : (table.get? id).any test = true) : id < table.size := by
    obtain ⟨entry, found, -⟩ := (Option.any_eq_true _ _).mp found
    exact Table.lt_size_of_get? found
  refine (((((ids .socket world.sockets.size).union (ids .future world.loop.futures.size)).union
    (ids .task world.loop.tasks.size)).union (ids .transport world.transports.size)).union
      (ids .server world.servers.size)).subset fun ref missed => ?_
  change world.isMissed ref = true at missed
  cases ref with
  | future id => exact Or.inl (Or.inl (Or.inl (Or.inr ⟨id, exists_ missed, rfl⟩)))
  | task id => exact Or.inl (Or.inl (Or.inr ⟨id, exists_ missed, rfl⟩))
  | transport id => exact Or.inl (Or.inr ⟨id, exists_ missed, rfl⟩)
  | server id => exact Or.inr ⟨id, exists_ missed, rfl⟩
  | socket id =>
    refine Or.inl (Or.inl (Or.inl (Or.inl ⟨id, ?_, rfl⟩)))
    by_contra beyond
    have opened : 0 ≤ world.fdOf id := of_decide_eq_true missed
    unfold fdOf at opened
    rw [Table.get?_eq_none (Nat.le_of_not_lt beyond)] at opened
    exact absurd opened (by decide)

/-- When something is released, fewer objects are missed. -/
theorem Fades.card_lt {ref : Ref} (fades : world.Fades other) (missed : world.isMissed ref = true)
    (gone : other.isMissed ref = false) : other.missed.ncard < world.missed.ncard := by
  refine Set.ncard_lt_ncard ⟨fun ref missed => fades ref missed, fun all => ?_⟩ world.finite_missed
  exact absurd (gone.symm.trans (all missed)) (by decide)

end World

namespace Machine

/-- Settling ends. Up to then, and afterwards, the machine is about to do what it was about to do before. -/
theorem exists_settled (machine : Machine) : ∃ moves world, world.loop.dropped = [] ∧
    (∀ fewer ≤ moves, ∃ world, machine.run fewer = { machine with world }) ∧
      ∀ more, machine.run (moves + more) = Machine.run more { machine with world } := by
  -- Either fewer objects are missed, or as many are and fewer references are left to look at.
  induction count : machine.world.missed.ncard using Nat.strong_induction_on generalizing machine with
  | _ count fewer =>
    induction refs : machine.world.loop.dropped generalizing machine with
    | nil =>
      refine ⟨0, machine.world, refs, fun fewer none => ⟨machine.world, ?_⟩, fun more => by rw [Nat.zero_add]⟩
      rw [Nat.le_zero.mp none]
      rfl
    | cons ref rest ih =>
      let after : Machine := { machine with world := (machine.inWorld (World.settleDropped ref rest)).2 }
      have next : machine.next = some after := next_of_dropped refs
      have begun (moves : Nat) : machine.run (moves + 1) = after.run moves := by
        rw [Machine.run, next]
      suffices ∃ moves world, world.loop.dropped = [] ∧
          (∀ fewer ≤ moves, ∃ world, after.run fewer = { after with world }) ∧
            ∀ more, after.run (moves + more) = Machine.run more { after with world } by
        obtain ⟨moves, world, clean, until_, rest⟩ := this
        refine ⟨moves + 1, world, clean, fun fewer few => ?_, fun more => ?_⟩
        · cases fewer with
          | zero => exact ⟨machine.world, rfl⟩
          | succ fewer =>
            rw [begun]
            exact until_ fewer (Nat.le_of_succ_le_succ few)
        · rw [Nat.add_right_comm, begun]
          exact rest more
      have same : ({ machine.world with held := machine.held } : World).missed = machine.world.missed := by
        ext ref
        cases ref with
        | socket | future | task | transport | server => exact Iff.rfl
      rcases World.fades_settleDropped ref rest { machine.world with held := machine.held } with
        kept | ⟨fades, missed, gone⟩
      · have world : after.world = _ := kept
        refine ih after ?_ ?_
        · rw [world, ← count, ← same]
          exact congrArg Set.ncard (World.missed_with_dropped _ rest)
        · rw [world]
      · exact fewer _ (count ▸ same ▸ fades.card_lt missed gone) after rfl

end Machine

end EventLoop

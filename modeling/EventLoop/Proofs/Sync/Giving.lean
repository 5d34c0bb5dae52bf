import EventLoop.Proofs.Sync.Turn
import EventLoop.World.Instructions

/-!
# Giving programs up

A program that is given up leaves its places, gives back what it holds, and will not take the locks
again that it has lent. So nothing of what it had at stake is left.
-/
namespace EventLoop

/-- A step for each element of lists that are put together is one for each list and its elements. -/
theorem forM_flatMap {α β : Type} (elements : List α) (parts : α → List β)
    (action : β → WorldM PUnit) :
    (elements.flatMap parts).forM action = elements.forM fun element =>
      (parts element).forM action := by
  induction elements with
  | nil => rfl
  | cons element rest ih =>
    have append : (parts element ++ rest.flatMap parts).forM action =
        (parts element).forM action >>= fun _ => (rest.flatMap parts).forM action :=
      List.forM_append
    rw [List.flatMap_cons, append, ih]
    rfl

/-- If a task gives its program up, what the program has at stake is not with the tasks any more. -/
theorem Loop.stakes_without {loop other : Loop} {id : TaskId}
    (size : other.tasks.size = loop.tasks.size) (gone : other.activityOf id = none)
    (same : ∀ task, task ≠ id → other.activityOf task = loop.activityOf task) :
    loop.stakesAt id + other.stakes = loop.stakes := by
  by_cases exists_ : id < loop.tasks.size
  · have exchange := stakes_exchange size exists_ same
    rw [stakesAt_of_none gone, add_zero, add_comm] at exchange
    exact exchange
  · have none : loop.activityOf id = none := by
      by_contra holds
      obtain ⟨activity, holds⟩ := Option.ne_none_iff_exists'.mp holds
      exact exists_ (lt_size_of_activityOf holds)
    rw [stakesAt_of_none none, zero_add]
    refine stakes_congr size (funext fun task => ?_)
    by_cases here : task = id
    · rw [here, gone, none]
    · exact same task here

/-- The aspects that change when a reference that was given up is looked at. -/
def Ref.aspects : Ref → List Aspect
  | future _ => .deserting :: World.moving
  | task _ | socket _ | transport _ | server _ => World.moving

/-- Looking at a reference changes no less than most moves do. -/
theorem Ref.moving_subset (ref : Ref) : World.moving ⊆ ref.aspects := by
  cases ref with
  | future => exact List.subset_cons_self _ _
  | task | socket | transport | server => exact List.Subset.refl _

namespace World

open Script (Station Activity Part)

variable {held : List Ref} {own rest : Multiset Stake} {world : World}

namespace Giving

/-! ## Parts and stations -/

/-- Giving up a place takes it from what is at stake. -/
theorem place (gate : Gate) (future : FutureId) :
    Performs held moving (.place gate future ::ₘ rest) world (abandonPart (.place gate future))
      (leaving rest) := by
  have deed : Deed held moving (.place gate future ::ₘ rest + world.loop.stakes) world
      (rest + world.loop.stakes) (abandonPlace gate future world).2 := by
    rw [Multiset.cons_add]
    exact .abandoned _ _ gate future
  refine Performs.bind (Performs.deed (Primitives.abandonPlace gate future) deed).leaves ?_
  rintro _ _ abandoned rfl
  exact Turn.drop _

/-- A single part is given up. -/
theorem single {part : Part} {after : Multiset Stake}
    (performs : Performs held moving own world (abandonPart part) (leaving after)) :
    Performs held moving own world ([part].forM abandonPart) (leaving after) := by
  refine Performs.bind performs ?_
  rintro _ _ reached rfl
  exact Performs.pure rfl

/-- What a station has at stake is given up with its parts. -/
theorem station (station : Station) :
    Performs held moving (station.stakes + rest) world (station.parts.forM abandonPart)
      (leaving rest) := by
  cases station with
  | leaf leaf =>
    cases leaf with
    | nextPoll =>
      rw [Station.stakes, zero_add]
      exact Performs.pure rfl
    | result wait =>
      rw [Station.stakes, zero_add]
      exact single (Turn.drop _)
    | turn gate wait =>
      rw [Station.stakes, Multiset.singleton_add]
      exact single (place gate wait.future)
    | notice id wait goal =>
      rw [Turn.stakes_notice, Multiset.cons_swap]
      refine Performs.exchange ?_ (single (place (.condition id) wait.future))
      rw [Multiset.cons_add]
      exact .waived _ _ id
    | relock id lock wait notified goal =>
      rw [Turn.stakes_relock, Multiset.cons_swap]
      refine Performs.exchange ?_ (single (place (.lock lock) wait.future))
      rw [Multiset.cons_add]
      exact .forgiven _ _ id lock
    | connecting socket wait target name script =>
      rw [Station.stakes, zero_add]
      refine Performs.bind (Turn.drop _) ?_
      rintro _ _ dropped rfl
      exact single (Turn.drop _)
    | establishing transport wait target =>
      rw [Station.stakes, zero_add]
      refine Performs.bind (Turn.drop _) ?_
      rintro _ _ dropped rfl
      exact single (Turn.drop _)
  | entry asked wait =>
    rw [Station.stakes, Multiset.singleton_add]
    exact single (place asked.gate wait.future)
  | guard guard =>
    rw [Station.stakes, Multiset.singleton_add]
    exact single (Turn.releaseGuard guard)

/-! ## Programs -/

/-- Writing down that a task has ended leaves what is at stake. -/
theorem recordEnd (task : String) :
    Performs held moving own world (recordEnd task) (leaving own) :=
  Turn.calm fun _ _ => Primitives.recordEnd task

/-- What a program has at stake is given up with the program. -/
theorem abandon (activity : Activity) :
    Performs held moving (stakesOf activity.stations + rest) world (abandon activity)
      (leaving rest) := by
  unfold World.abandon
  rw [activity.parts_eq, forM_flatMap]
  exact Performs.forM fun station _ _ _ => Giving.station station

/-- Giving up the program of a task takes from what is at stake all that its stations had. -/
theorem abandonProgram (task : String) (activity : Activity) :
    Performs held moving (stakesOf activity.stations + rest) world (abandonProgram task activity)
      (leaving rest) := by
  refine Performs.bind (recordEnd task) ?_
  rintro _ _ recorded rfl
  exact abandon activity

/-- Programs have together at stake what each of them has. -/
theorem stakesOf_activityStations (activities : List Activity) :
    stakesOf (Script.activityStations activities) =
      (activities.map fun activity => stakesOf activity.stations).sum := by
  induction activities with
  | nil => rfl
  | cons activity rest ih =>
    rw [Script.activityStations, stakesOf_append, ih, List.map_cons, List.sum_cons]

/-- Programs are given up one after another. -/
theorem abandonAll (activities : List Activity) :
    Performs held moving (stakesOf (Script.activityStations activities) + rest) world
      (activities.forM World.abandon) (leaving rest) := by
  rw [stakesOf_activityStations]
  exact Performs.forM fun activity _ _ _ => abandon activity

/-! ## Tasks -/

/-- A task that is cancelled gives up its program if it holds one. -/
theorem cancelTask (id : TaskId) :
    Performs held revoking own world (World.cancelTask id) (leaving own) := by
  refine Performs.get ?_
  split
  · exact Performs.pure rfl
  · rename_i task found
    split
    · exact Performs.pure rfl
    · rename_i live
      rw [Bool.not_eq_true] at live
      have change (scope : Scope) : Change scope .cancelling world
          (onLoop (·.beginCancel id task) world).2 := .cancelled world id task found live
      have without : world.loop.stakesAt id +
          (onLoop (·.beginCancel id task) world).2.loop.stakes = world.loop.stakes :=
        Loop.stakes_without (Loop.size_tasks_beginCancel world.loop id task)
          ((Loop.activityOf_beginCancel world.loop id id task).trans (if_pos rfl))
          fun other differ =>
            (Loop.activityOf_beginCancel world.loop id other task).trans (if_neg differ)
      have begun : Performs held revoking own world (onLoop (·.beginCancel id task))
          fun activity? left reached => activity? = task.activity? ∧
            left = own + world.loop.stakesAt id ∧ world.Grows reached := by
        refine Performs.change (by decide) Aspect.noConfusion Aspect.noConfusion
          (fun _ => change _) ?_ ⟨rfl, rfl, (change (openTo held)).grows⟩
        rw [add_assoc, without]
      have cancelled (reached : World) (grows : world.Grows reached) :
          Performs held revoking own reached (World.cancelAll [task.result] >>= fun _ => pure true)
            (leaving own) := by
        obtain ⟨later, later_found, same⟩ := grows.loop.tasks found
        have result : later.result = task.result := congrArg (fun identity => identity.2.2) same
        refine Performs.bind (Performs.calmly (by decide) fun settled =>
          Calm.cancelAll fun future member => ?_).leaves ?_
        · rw [List.mem_singleton.mp member, ← result]
          exact (settled.orderly.within.loop.result later_found).1
        · rintro _ _ cancelled rfl
          exact Performs.pure rfl
      refine Performs.bind begun ?_
      rintro _ _ reached ⟨rfl, rfl, grows⟩
      have stakes : world.loop.stakesAt id =
          task.activity?.elim 0 fun activity => stakesOf activity.stations := by
        rw [Loop.stakesAt, Loop.activityOf, found, Option.bind_some]
      rw [stakes]
      cases task.activity? with
      | none =>
        rw [Option.elim_none, add_zero]
        exact cancelled reached grows
      | some activity =>
        rw [Option.elim_some, add_comm]
        refine Performs.bind ((abandonProgram task.name activity).growing.mono
          (List.subset_cons_self _ _)) ?_
        rintro _ _ abandoned ⟨rfl, more⟩
        exact cancelled abandoned (grows.trans more)

/-! ## References that were given up -/

/-- Setting aside the references that were given up leaves what is at stake. -/
theorem setDropped (refs : List Ref) :
    Performs held moving own world (changeLoop fun loop => { loop with dropped := refs })
      fun _ left reached => left = own ∧
        reached = { world with loop := { world.loop with dropped := refs } } :=
  Performs.calmly (by decide) fun _ => Does.changeLoop (by decide) (.dropped world refs) rfl

/-- A task that nothing mentions gives up its program. -/
theorem releaseTask {id : TaskId} (free : world.isMentioned (.task id) = false)
    (missed : world.isMissed (.task id) = true) :
    Performs held moving own world (release (.task id)) (leaving own) := by
  refine Performs.get ?_
  split
  · rename_i task found
    have change (scope : Scope) : Change scope .tasks world
        (changeLoop (·.setPhase id .cancelled) world).2 := .abandoned world id free missed
    have without : world.loop.stakesAt id +
        (changeLoop (·.setPhase id .cancelled) world).2.loop.stakes = world.loop.stakes :=
      Loop.stakes_without (Loop.size_tasks_setPhase world.loop id _)
        ((Loop.activityOf_cancelled world.loop id id).trans (if_pos rfl))
        fun other differ => (Loop.activityOf_cancelled world.loop id other).trans (if_neg differ)
    have begun : Performs held moving own world (changeLoop (·.setPhase id .cancelled))
        (leaving (own + world.loop.stakesAt id)) := by
      refine Performs.change (by decide) Aspect.noConfusion Aspect.noConfusion
        (fun _ => change _) ?_ rfl
      rw [add_assoc, without]
    refine Performs.bind begun ?_
    rintro _ _ reached rfl
    have stakes : world.loop.stakesAt id =
        task.activity?.elim 0 fun activity => stakesOf activity.stations := by
      rw [Loop.stakesAt, Loop.activityOf, found, Option.bind_some]
    rw [stakes]
    cases task.activity? with
    | none =>
      rw [Option.elim_none, add_zero]
      exact Turn.drop _
    | some activity =>
      rw [Option.elim_some, add_comm]
      refine Performs.bind (abandonProgram task.name activity) ?_
      rintro _ _ abandoned rfl
      exact Turn.drop _
  · exact Performs.pure rfl

/-- Releasing an object that nothing mentions leaves what is at stake to whoever has it. -/
theorem releaseUnmentioned (ref : Ref) :
    Performs held ref.aspects own world (releaseUnmentioned ref) (leaving own) := by
  have device (device : ref.isDevice = true) :
      Performs held moving own world (World.releaseUnmentioned ref) (leaving own) :=
    (Performs.calmly (by decide) fun _ => Calm.releaseUnmentionedDevice device).leaves
  cases ref with
  | socket | transport | server => exact device rfl
  | future id =>
    have deserts {scope : Scope} {n : Nat} : Does scope n (.deserting :: calm) world
        (World.releaseUnmentioned (.future id)) anyhow := by
      refine Calm.releaseUnmentioned (fun _ => True) (by decide) trivial fun bare missed free => ?_
      refine (Calm.releaseFuture missed free ?_ (by decide) (Or.inr (by decide))).anyway
      rw [bare]
    have member : .deserting :: calm ⊆ .deserting :: moving := by decide
    exact (Performs.quietly (by decide) member fun _ => deserts).leaves
  | task id =>
    refine Performs.get ?_
    split
    · rename_i free
      rw [Bool.and_eq_true, Bool.not_eq_true'] at free
      refine Performs.bind (setDropped []) ?_
      rintro _ _ _ ⟨rfl, rfl⟩
      refine Performs.bind (releaseTask (Calm.isMentioned_without_dropped free.2) free.1) ?_
      rintro _ _ released rfl
      refine Performs.get (Performs.bind (setDropped world.loop.dropped).leaves ?_)
      rintro _ _ restored rfl
      exact Performs.pure rfl
    · exact Performs.pure rfl

/-- The first reference that was given up is looked at. -/
theorem settleDropped (ref : Ref) (refs : List Ref) :
    Performs held ref.aspects own world (settleDropped ref refs) (leaving own) := by
  have more : moving ⊆ ref.aspects := ref.moving_subset
  refine Performs.bind ((setDropped refs).leaves.mono more) ?_
  rintro _ _ set rfl
  refine Performs.bind (releaseUnmentioned ref) ?_
  rintro given _ released rfl
  exact (setDropped (given ++ refs)).leaves.mono more

end Giving

end World

end EventLoop

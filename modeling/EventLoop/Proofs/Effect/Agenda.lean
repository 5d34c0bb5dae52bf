import EventLoop.Proofs.Effect.Wakeups
import EventLoop.Proofs.Timers

/-!
# What an open loop has to do

The agenda of a loop is what is ready, the futures with what they will bring about, and the tasks.
Whatever happens to an open loop between two polls is a sequence of a few acts on its agenda. Nothing but
such an act makes a callback ready, and each act says for what callback it does so: those that something
asked for, those that a future brings about, and the polls of tasks.
-/
namespace EventLoop

/-- What a loop has to do. -/
structure Agenda where
  /-- The callbacks that are ready, in the order in which they will run. -/
  ready : List Callback
  /-- The futures. -/
  futures : Table Future
  /-- The tasks. -/
  tasks : Table Task
  /-- The live tasks, under the numbers that their wakers carry. -/
  live : Slab TaskId

/-- What the loop has to do. -/
def Loop.agenda (loop : Loop) : Agenda := ⟨loop.ready, loop.futures, loop.tasks, loop.live⟩

namespace Agenda

variable {cancels : Prop} {agenda other : Agenda} {id : TaskId} {task : Task} {phase : TaskPhase}

/-- Changes what a task is doing. -/
def setPhase (agenda : Agenda) (id : TaskId) (phase : TaskPhase) : Agenda :=
  { agenda with tasks := agenda.tasks.modify id fun task => { task with phase } }

/-- Removes a task from the live ones. -/
def retire (agenda : Agenda) (task : Task) : Agenda :=
  match task.slot with
  | none => agenda
  | some slot => { agenda with live := (agenda.live.erase slot).2 }

/-- A task whose phase is set has it, and the others are as they were. -/
theorem get?_setPhase (agenda : Agenda) (id here : TaskId) (phase : TaskPhase) :
    (agenda.setPhase id phase).tasks.get? here =
      if here = id then (agenda.tasks.get? here).map fun task => { task with phase }
      else agenda.tasks.get? here := by
  unfold setPhase
  exact Table.get?_modify agenda.tasks id here _

/-- A task that is retired is still in the table. -/
@[simp] theorem tasks_retire (agenda : Agenda) (task : Task) :
    (agenda.retire task).tasks = agenda.tasks := by
  unfold retire
  split
  · rfl
  · rfl

/-- Retiring a task makes nothing ready. -/
@[simp] theorem ready_retire (agenda : Agenda) (task : Task) :
    (agenda.retire task).ready = agenda.ready := by
  unfold retire
  split
  · rfl
  · rfl

/-- Retiring a task leaves the futures as they are. -/
@[simp] theorem futures_retire (agenda : Agenda) (task : Task) :
    (agenda.retire task).futures = agenda.futures := by
  unfold retire
  split
  · rfl
  · rfl

/-- One act on an agenda; `cancels` says whether it may cancel a task. -/
inductive Act (cancels : Prop) (agenda : Agenda) : Agenda → Prop
  /-- Callbacks that something asked for become ready. -/
  | called (callbacks : List Callback) (asked : ∀ callback ∈ callbacks, callback.isAsked = true) :
      Act cancels agenda { agenda with ready := agenda.ready ++ callbacks }
  /-- A future is made. -/
  | made (kind : FutureKind) (timer : Option TimerId) :
      Act cancels agenda { agenda with futures := agenda.futures.push ⟨kind, .pending [] timer⟩ }
  /-- A reaction is registered with a future that is pending. -/
  | registered (future : FutureId) (reaction : Reaction) (kind : FutureKind)
      (reactions : List Reaction) (timer : Option TimerId)
      (found : agenda.futures.get? future = some ⟨kind, .pending reactions timer⟩) :
      Act cancels agenda { agenda with futures := agenda.futures.modify future fun _ =>
        ⟨kind, .pending (reactions ++ [reaction]) timer⟩ }
  /-- A reaction is registered with a future that is not pending, which is ready at once. -/
  | answered (future : FutureId) (reaction : Reaction)
      (done : ∀ entry, agenda.futures.get? future = some entry → entry.isDone = true) :
      Act cancels agenda { agenda with ready := agenda.ready ++ [.done future reaction] }
  /-- A future that is pending is resolved, and its reactions become ready. -/
  | resolved (future : FutureId) (resolution : Resolution) (kind : FutureKind)
      (reactions : List Reaction) (timer : Option TimerId)
      (found : agenda.futures.get? future = some ⟨kind, .pending reactions timer⟩) :
      Act cancels agenda { agenda with
        futures := agenda.futures.modify future fun _ => ⟨kind, Future.resolved resolution⟩
        ready := agenda.ready ++ reactions.map (.done future) }
  /-- The outcome of a future is moved out. -/
  | taken (future : FutureId) (entry : Future) (found : agenda.futures.get? future = some entry) :
      Act cancels agenda { agenda with futures := agenda.futures.modify future fun _ => entry.take.2 }
  /-- A future that is done is emptied. -/
  | emptied (future : FutureId) (entry : Future) (found : agenda.futures.get? future = some entry)
      (done : entry.isDone = true) :
      Act cancels agenda { agenda with futures := agenda.futures.modify future Future.emptied }
  /-- A poll of an idle task becomes ready. -/
  | roused (id : TaskId) (task : Task) (activity : Script.Activity)
      (found : agenda.tasks.get? id = some task) (idle : task.phase = .idle activity) :
      Act cancels agenda { agenda.setPhase id (.queued activity) with
        ready := agenda.ready ++ [.step id] }
  /-- A task begins, and its first poll is ready. -/
  | spawned (name : String) (body : Script.Body) :
      Act cancels agenda {
        ready := agenda.ready ++ [.step agenda.tasks.size]
        futures := agenda.futures.push (.new .value)
        tasks := agenda.tasks.push ⟨name, .queued (.fresh body),
          some (agenda.live.insert agenda.tasks.size).1, agenda.futures.size⟩
        live := (agenda.live.insert agenda.tasks.size).2 }
  /-- A task that is not over is cancelled. -/
  | cancelled (id : TaskId) (task : Task) (found : agenda.tasks.get? id = some task)
      (waits : task.isOver = false) (asked : cancels) :
      Act cancels agenda ((agenda.setPhase id .cancelled).retire task)

/-- Acts, one after another. -/
def Acts (cancels : Prop) : Agenda → Agenda → Prop := Relation.ReflTransGen (Act cancels)

/-- An act only appends callbacks to those that are ready. -/
theorem Act.ready (act : Act cancels agenda other) : agenda.ready <+: other.ready := by
  cases act with
  | called | answered | resolved | roused | spawned => exact List.prefix_append _ _
  | made | registered | taken | emptied => exact List.prefix_refl _
  | cancelled id task =>
    rw [ready_retire]
    exact List.prefix_refl _

/-- Acts add callbacks behind those that are ready. -/
theorem Acts.ready (acts : Acts cancels agenda other) : agenda.ready <+: other.ready := by
  induction acts with
  | refl => exact List.prefix_refl _
  | tail _ act ih => exact ih.trans act.ready

/-! ## The live tasks -/

/-- The live tasks are those that are not over, each under its number. -/
structure Enrolls (agenda : Agenda) : Prop where
  /-- The numbers are kept in order. -/
  tidy : agenda.live.Tidy
  /-- A task that is not over has a number and is found under it. -/
  lives : ∀ {id task}, agenda.tasks.get? id = some task → task.isOver = false →
    ∃ slot, task.slot = some slot ∧ agenda.live.get? slot = some id
  /-- What is found under a number is a task that is not over and has the number. -/
  known : ∀ {slot id}, agenda.live.get? slot = some id →
    ∃ task, agenda.tasks.get? id = some task ∧ task.slot = some slot ∧ task.isOver = false

namespace Enrolls

/-- A task that goes on not to be over may change what it is doing. -/
theorem setPhase (enrolls : agenda.Enrolls) (found : agenda.tasks.get? id = some task)
    (waits : task.isOver = false) (stays : Task.isOver { task with phase } = false) :
    (agenda.setPhase id phase).Enrolls := by
  refine ⟨enrolls.tidy, fun {here entry} there alive => ?_, fun {slot here} lives => ?_⟩
  · rw [get?_setPhase] at there
    by_cases same : here = id
    · subst same
      rw [if_pos rfl, found] at there
      cases there
      obtain ⟨slot, numbered, lives⟩ := enrolls.lives found waits
      exact ⟨slot, numbered, lives⟩
    · rw [if_neg same] at there
      exact enrolls.lives there alive
  · obtain ⟨entry, there, numbered, alive⟩ := enrolls.known lives
    rw [get?_setPhase]
    by_cases same : here = id
    · subst same
      rw [found] at there
      cases there
      exact ⟨{ task with phase }, by rw [if_pos rfl, found]; rfl, numbered, stays⟩
    · exact ⟨entry, by rw [if_neg same]; exact there, numbered, alive⟩

/-- A task that ends is no longer live. -/
theorem retire (enrolls : agenda.Enrolls) (found : agenda.tasks.get? id = some task)
    (waits : task.isOver = false) (ended : Task.isOver { task with phase } = true) :
    ((agenda.setPhase id phase).retire task).Enrolls := by
  obtain ⟨slot, numbered, lives⟩ := enrolls.lives found waits
  unfold Agenda.retire
  rw [numbered]
  refine ⟨enrolls.tidy.erase slot, fun {here entry} there alive => ?_, fun {place here} sits => ?_⟩
  · change (agenda.setPhase id phase).tasks.get? here = some entry at there
    rw [get?_setPhase] at there
    by_cases same : here = id
    · subst same
      rw [if_pos rfl, found] at there
      cases there
      rw [ended] at alive
      cases alive
    · rw [if_neg same] at there
      obtain ⟨place, other, sits⟩ := enrolls.lives there alive
      refine ⟨place, other, ?_⟩
      have differ : place ≠ slot := by
        rintro rfl
        rw [lives] at sits
        cases sits
        exact same rfl
      change (agenda.live.erase slot).2.get? place = some here
      rw [Slab.get?_erase, if_neg differ]
      exact sits
  · change (agenda.live.erase slot).2.get? place = some here at sits
    rw [Slab.get?_erase] at sits
    split at sits
    · cases sits
    · rename_i differ
      obtain ⟨entry, there, other, alive⟩ := enrolls.known sits
      have apart : here ≠ id := by
        rintro rfl
        rw [found] at there
        cases there
        rw [numbered] at other
        cases other
        exact differ rfl
      refine ⟨entry, ?_, other, alive⟩
      change (agenda.setPhase id phase).tasks.get? here = some entry
      rw [get?_setPhase, if_neg apart]
      exact there

/-- A task that begins is live. -/
theorem spawned (enrolls : agenda.Enrolls) (name : String) (body : Script.Body)
    (result : FutureId) : Enrolls { agenda with
      tasks := agenda.tasks.push ⟨name, .queued (.fresh body),
        some (agenda.live.insert agenda.tasks.size).1, result⟩
      live := (agenda.live.insert agenda.tasks.size).2 } := by
  have older {id : TaskId} {task : Task} (found : agenda.tasks.get? id = some task) :
      id ≠ agenda.tasks.size := Nat.ne_of_lt (Table.lt_size_of_get? found)
  refine ⟨enrolls.tidy.insert _, fun {here entry} there alive => ?_, fun {place here} sits => ?_⟩
  · dsimp only at there ⊢
    rw [Table.get?_push] at there
    split at there
    · rename_i last
      cases there
      subst last
      exact ⟨_, rfl, by rw [enrolls.tidy.get?_insert, if_pos rfl]⟩
    · obtain ⟨slot, numbered, lives⟩ := enrolls.lives there alive
      refine ⟨slot, numbered, ?_⟩
      have differ : slot ≠ (agenda.live.insert agenda.tasks.size).1 := by
        rintro rfl
        rw [enrolls.tidy.get?_new] at lives
        cases lives
      rw [enrolls.tidy.get?_insert, if_neg differ]
      exact lives
  · dsimp only at sits ⊢
    rw [enrolls.tidy.get?_insert] at sits
    split at sits
    · rename_i new
      cases sits
      subst new
      exact ⟨_, by rw [Table.get?_push, if_pos rfl], rfl, rfl⟩
    · obtain ⟨entry, there, numbered, alive⟩ := enrolls.known sits
      exact ⟨entry, by rw [Table.get?_push, if_neg (older there)]; exact there, numbered, alive⟩

/-- Neither what is ready nor the futures matter. -/
theorem congr (enrolls : agenda.Enrolls) (tasks : other.tasks = agenda.tasks)
    (live : other.live = agenda.live) : other.Enrolls :=
  ⟨live ▸ enrolls.tidy, tasks ▸ live ▸ enrolls.lives, tasks ▸ live ▸ enrolls.known⟩

/-- Every act keeps the live tasks in order. -/
theorem act (enrolls : agenda.Enrolls) (act : Act cancels agenda other) : other.Enrolls := by
  cases act with
  | called | made | registered | answered | resolved | taken | emptied =>
    exact enrolls.congr rfl rfl
  | roused id task activity found idle =>
    have waits : task.isOver = false := by simp [Task.isOver, idle]
    exact (enrolls.setPhase found waits rfl).congr rfl rfl
  | spawned name body => exact (enrolls.spawned name body agenda.futures.size).congr rfl rfl
  | cancelled id task found waits asked => exact enrolls.retire found waits rfl

/-- The live tasks stay those that are not over, whatever acts are done. -/
theorem acts (enrolls : agenda.Enrolls) (acts : Acts cancels agenda other) : other.Enrolls := by
  induction acts with
  | refl => exact enrolls
  | tail _ last ih => exact ih.act last

end Enrolls

end Agenda

/-! ## Transitions of the loop -/

namespace Loop

variable {cancels : Prop} {loop other : Loop}

/-- Timers and other threads ask for callbacks only that something may ask for. -/
structure Asking (loop : Loop) : Prop where
  /-- The callbacks of timers. -/
  timers : ∀ entry ∈ loop.timers.entries, entry.callback.isAsked = true
  /-- The callbacks of other threads. -/
  remote : ∀ callback ∈ loop.remote, callback.isAsked = true

/-- What is asked for depends on the timers and the other threads alone. -/
theorem Asking.congr (asking : loop.Asking) (timers : other.timers.entries = loop.timers.entries)
    (remote : other.remote = loop.remote) : other.Asking :=
  ⟨timers ▸ asking.timers, remote ▸ asking.remote⟩

/-- Less may be asked for. -/
theorem Asking.fewer (asking : loop.Asking) (timers : other.timers.entries ⊆ loop.timers.entries)
    (remote : other.remote ⊆ loop.remote) : other.Asking :=
  ⟨fun entry member => asking.timers entry (timers member),
    fun callback member => asking.remote callback (remote member)⟩

/-- A loop goes on by acts. -/
structure Proceeds (cancels : Prop) (loop other : Loop) : Prop where
  /-- The acts on its agenda. -/
  acts : Agenda.Acts cancels loop.agenda other.agenda
  /-- Only what may be asked for is asked for. -/
  asking : other.Asking

namespace Proceeds

/-- Nothing is done. -/
theorem same (agenda : other.agenda = loop.agenda) (asking : other.Asking) :
    Proceeds cancels loop other :=
  ⟨agenda ▸ .refl, asking⟩

/-- One act is done. -/
theorem single (act : Agenda.Act cancels loop.agenda other.agenda) (asking : other.Asking) :
    Proceeds cancels loop other := ⟨.single act, asking⟩

/-- A loop goes on by doing nothing. -/
theorem refl (asking : loop.Asking) : Proceeds cancels loop loop := same rfl asking

/-- A loop that goes on twice goes on. -/
theorem trans {first second third : Loop} (before : Proceeds cancels first second)
    (after : Proceeds cancels second third) : Proceeds cancels first third :=
  ⟨before.acts.trans after.acts, after.asking⟩

variable (opened : loop.closed = false) (asking : loop.Asking)

include opened asking

/-- Making a callback ready is an act, if something may ask for it. -/
theorem callSoon {callback : Callback} (asked : callback.isAsked = true) :
    Proceeds cancels loop (loop.callSoon callback) := by
  rw [callSoon_eq, opened]
  refine single (.called [callback] fun other member => ?_) (asking.congr rfl rfl)
  rw [List.mem_singleton.mp member]
  exact asked

omit opened in
/-- Scheduling a callback for a time is an act, if something may ask for its callback. -/
theorem callAt {callback : Callback} (asked : callback.isAsked = true) (deadline : Nat) :
    Proceeds cancels loop (loop.callAt deadline callback).2 := by
  refine same ?_ ⟨fun entry member => ?_, ?_⟩
  · rw [callAt_eq]
    rfl
  · rcases Within.mem_entries_callAt member with old | new
    · exact asking.timers entry old
    · exact new ▸ asked
  · rw [callAt_eq]
    exact asking.remote

omit opened in
/-- Making a future, with a timeout or without, is done by acts. -/
theorem makeTimed (kind : FutureKind) (now : Nat) (timeout : Option Nat) :
    Proceeds cancels loop (loop.makeTimed kind now timeout).2 := by
  cases timeout with
  | none => exact single (.made kind none) (asking.congr rfl rfl)
  | some delay =>
    have armed : Proceeds cancels loop (loop.callAt (now + delay) (.expire loop.futures.size)).2 :=
      callAt asking rfl (now + delay)
    refine armed.trans (single ?_ (armed.asking.congr rfl rfl))
    exact .made kind (some (loop.callAt (now + delay) (.expire loop.futures.size)).1)

/-- Resolving a future is done by acts. -/
theorem resolve (future : FutureId) (resolution : Resolution) :
    Proceeds cancels loop (loop.resolve future resolution).2 := by
  rw [resolve_eq]
  split
  · rename_i kind reactions timer found
    rw [replaceFuture_eq, opened]
    refine single (.resolved future resolution kind reactions timer found) (asking.congr ?_ rfl)
    cases timer with
    | none => rfl
    | some timer => rfl
  · exact refl asking

/-- Registering a reaction is done by acts. -/
theorem whenDone (future : FutureId) (reaction : Reaction) :
    Proceeds cancels loop (loop.whenDone future reaction) := by
  rw [whenDone_eq]
  split
  · rename_i kind reactions timer found
    exact single (.registered future reaction kind reactions timer found)
      (asking.congr rfl rfl)
  · rename_i done
    rw [callSoon_eq, opened]
    refine single (.answered future reaction fun entry found => ?_)
      (asking.congr rfl rfl)
    obtain ⟨kind, phase⟩ := entry
    cases phase with
    | pending reactions timer => exact absurd found (done kind reactions timer)
    | cancelled => rfl
    | finished => rfl

/-- Awaiting a future is done by acts. -/
theorem await (wait : Wait) (waker : Nat) : Proceeds cancels loop (loop.await wait waker).2 := by
  unfold Loop.await
  split
  · exact refl asking
  · split
    · exact same rfl (asking.congr rfl rfl)
    · let pushed : Loop := { loop with cells := loop.cells.push waker }
      have free : pushed.closed = false := opened
      have registered : Proceeds cancels pushed (pushed.whenDone wait.future (.wake loop.cells.size)) :=
        whenDone free (asking.congr rfl rfl) wait.future (.wake loop.cells.size)
      exact ⟨registered.acts, registered.asking⟩

/-- Making a poll of a task ready is done by acts. -/
theorem schedule (id : TaskId) : Proceeds cancels loop (loop.schedule id) := by
  unfold Loop.schedule
  split
  · rename_i activity idle
    obtain ⟨task, found, phase⟩ := Option.map_eq_some_iff.mp idle
    rw [callSoon_eq]
    simp only [setPhase, opened, Bool.false_eq_true, if_false]
    exact single (.roused id task activity found phase) (asking.congr rfl rfl)
  · exact refl asking

/-- Spawning a task is done by acts. -/
theorem spawn (name : String) (body : Script.Body) :
    Proceeds cancels loop (loop.spawn name body).2 := by
  rw [spawn_eq_of_open opened]
  exact single (.spawned name body) (asking.congr rfl rfl)

omit opened in
/-- Beginning to cancel a task is done by acts, if tasks may be cancelled and it is not over. -/
theorem beginCancel {id : TaskId} {task : Task} (found : loop.tasks.get? id = some task)
    (waits : task.isOver = false) (asked : cancels) : Proceeds cancels loop (loop.beginCancel id task).2 := by
  have agenda : (loop.beginCancel id task).2.agenda =
      (loop.agenda.setPhase id .cancelled).retire task := by
    unfold Loop.beginCancel Loop.retire Agenda.retire
    cases task.slot with
    | none => rfl
    | some slot => rfl
  refine single (agenda ▸ .cancelled id task found waits asked) (asking.congr ?_ ?_)
  · unfold Loop.beginCancel Loop.retire
    cases task.slot with
    | none => rfl
    | some slot => rfl
  · unfold Loop.beginCancel Loop.retire
    cases task.slot with
    | none => rfl
    | some slot => rfl

/-- Waking live tasks one after another is done by acts. -/
theorem foldl_scheduleLive (slots : List Nat) :
    Proceeds cancels loop (slots.foldl Loop.scheduleLive loop) := by
  induction slots generalizing loop with
  | nil => exact refl asking
  | cons slot rest ih =>
    have first : Proceeds cancels loop (loop.scheduleLive slot) := by
      unfold Loop.scheduleLive
      split
      · exact schedule opened asking _
      · exact refl asking
    have stays : (loop.scheduleLive slot).closed = false := by
      unfold Loop.scheduleLive Loop.schedule
      split
      · split
        · rw [callSoon_eq]
          exact opened
        · exact opened
      · exact opened
    exact first.trans (ih stays first.asking)

/-- Taking over what other threads asked for is done by acts. -/
theorem collectRequests : Proceeds cancels loop loop.collectRequests := by
  rw [collectRequests_eq]
  have act : Agenda.Act cancels loop.agenda { loop.agenda with
      ready := loop.ready ++ if loop.closed then [] else loop.remote } := by
    rw [opened]
    exact .called loop.remote asking.remote
  refine trans (single ?_ ?_) (foldl_scheduleLive ?_ ?_ loop.woken)
  · exact act
  · exact asking.fewer (List.Subset.refl _) (List.nil_subset _)
  · exact opened
  · exact asking.fewer (List.Subset.refl _) (List.nil_subset _)

/-- The first part of an iteration is done by acts. -/
theorem prepare (now : Nat) : Proceeds cancels loop (loop.prepare now).2 := by
  have collected : Proceeds cancels loop loop.collectRequests := collectRequests opened asking
  unfold Loop.prepare Loop.patience
  split
  · exact collected
  · refine collected.trans (same rfl (collected.asking.fewer ?_ (List.Subset.refl _)))
    change (loop.collectRequests.timers.next.2.2).entries ⊆ _
    rw [Timers.snd_next]
    exact List.dropWhile_subset _

/-- The second part of an iteration is done by acts. -/
theorem gather (now : Nat) : Proceeds cancels loop (loop.gather now).2 := by
  have due : Proceeds cancels loop (loop.collectDue now) := by
    have callbacks : ∀ callback ∈ (loop.timers.takeDue now).1, callback.isAsked = true := by
      intro callback member
      rw [Timers.fst_takeDue] at member
      obtain ⟨entry, listed, rfl⟩ := List.mem_map.mp member
      exact asking.timers entry (List.takeWhile_subset _ (List.mem_of_mem_filter listed))
    refine single (.called (loop.timers.takeDue now).1 callbacks) (asking.fewer ?_ (List.Subset.refl _))
    change ((loop.timers.takeDue now).2.2).entries ⊆ _
    rw [Timers.snd_takeDue]
    exact List.dropWhile_subset _
  exact due.trans (collectRequests opened due.asking)

end Proceeds

end Loop

/-! ## Changes of the world -/

namespace World

open Loop (Proceeds)

variable {scope : Scope} {aspect : Aspect} {aspects : List Aspect} {before after : World}

/-- A task that is found among the live ones is mentioned. -/
theorem mentioned_of_lives {world : World} {slot : Nat} {id : TaskId}
    (lives : world.loop.live.get? slot = some id) : world.isMentioned (.task id) = true := by
  have member : some id ∈ world.loop.live.slots :=
    List.mem_of_getElem? (Option.join_eq_some_iff.mp lives)
  have awaited : isAwaited world.loop (.task id) = true := by
    unfold isAwaited
    simp only [Bool.or_eq_true]
    refine Or.inr (List.any_eq_true.mpr ⟨some id, member, ?_⟩)
    simp
  unfold isMentioned
  rw [awaited]
  simp

/-- The aspects whose changes are made of acts: they neither begin or end a poll, nor take a callback,
let go of everything or desert a future. -/
def isActive (aspect : Aspect) : Bool := isSteady aspect && aspect != .deserting

/-- Every active change of an open loop is made of acts. -/
theorem Change.proceeds {cancels : Prop} (change : Change scope aspect before after)
    (active : isActive aspect = true) (may : aspect = .cancelling → cancels)
    (opened : before.loop.closed = false) (asking : before.loop.Asking)
    (enrolls : before.loop.agenda.Enrolls) : Proceeds cancels before.loop after.loop := by
  have aside {loop : Loop} (agenda : loop.agenda = before.loop.agenda)
      (timers : loop.timers.entries = before.loop.timers.entries)
      (remote : loop.remote = before.loop.remote) : Proceeds cancels before.loop loop :=
    .same agenda (asking.congr timers remote)
  cases change with
  | surroundings | held | names | devices | fitted | released | turned | retired | servers | primitives
  | dropped | disarmed | woken | stopAsked | stopped | flags | shut => exact aside rfl rfl rfl
  | made _ kind now timeout => exact .makeTimed asking kind now timeout
  | resolved _ future resolution | granted _ future resolution =>
    exact .resolve opened asking future resolution
  | expired _ future => exact .resolve opened asking future .cancel
  | registered _ future reaction | bound _ future reaction =>
    exact .whenDone opened asking future reaction
  | awaited _ wait waker => exact .await opened asking wait waker
  | taken _ id future _ found =>
    exact .single (.taken id future found) (asking.congr rfl rfl)
  | emptied _ id future found missed free done =>
    exact .single (.emptied id future found done) (asking.congr rfl rfl)
  | called _ callback _ _ asked => exact .callSoon opened asking asked
  | summoned => exact .callSoon opened asking rfl
  | enlisted => exact .whenDone opened asking _ _
  | announced _ id error => exact .callSoon opened asking rfl
  | scheduled _ deadline callback _ _ asked => exact .callAt asking asked deadline
  | asked _ callback _ _ asked =>
    refine .same rfl ⟨asking.timers, fun other member => ?_⟩
    rcases List.mem_append.mp member with old | new
    · exact asking.remote other old
    · rw [List.mem_singleton.mp new]
      exact asked
  | connected _ socket peer protocol reads =>
    rw [addTransport_eq]
    have made : Proceeds cancels before.loop
        (before.loop.callSoon (.connectionMade before.transports.size)) := .callSoon opened asking rfl
    cases reads with
    | false => exact made
    | true =>
      refine made.trans (.callSoon ?_ made.asking rfl)
      rw [Loop.callSoon_eq]
      exact opened
  | spawned _ name body => exact .spawn opened asking name body
  | cancelled _ id task found waits => exact .beginCancel asking found waits (may rfl)
  | abandoned _ id free missed =>
    obtain ⟨task, found, holds⟩ := (Option.any_eq_true _ _).mp missed
    have waits : task.isOver = false := by
      unfold Task.isOver
      unfold Task.activity? at holds
      cases phase : task.phase with
      | idle | queued | running => rfl
      | completed | cancelled =>
        rw [phase] at holds
        cases holds
    obtain ⟨slot, -, lives⟩ := enrolls.lives found waits
    rw [mentioned_of_lives lives] at free
    cases free
  | prepared _ now => exact .prepare opened asking now
  | gathered _ now => exact .gather opened asking now
  | deserted | pollBegun | pollEnded | completed | readyTaken | cleared => cases active

/-- Active changes of an open loop are made of acts. -/
theorem Changes.proceeds {cancels : Prop} (changes : Changes scope aspects before after)
    (active : ∀ aspect ∈ aspects, isActive aspect = true)
    (may : Aspect.cancelling ∈ aspects → cancels) (opened : after.loop.closed = false)
    (asking : before.loop.Asking) (enrolls : before.loop.agenda.Enrolls) :
    Proceeds cancels before.loop after.loop := by
  induction changes with
  | refl => exact .refl asking
  | tail _ last ih =>
    obtain ⟨aspect, member, change⟩ := last
    have opened := change.opened opened
    have earlier := ih opened
    exact earlier.trans
      (change.proceeds (active aspect member) (fun same => may (same ▸ member)) opened
        earlier.asking (enrolls.acts earlier.acts))

end World

end EventLoop

import EventLoop.Proofs.Effect.Agenda
import EventLoop.Proofs.Machine.Calls
import EventLoop.Proofs.Machine.Sedate
import EventLoop.Proofs.Machine.Wakeups

/-!
# Iterations and polls under way

The stages of a machine are the iterations and the polls that are under way, the innermost first. Every
step of a run on an open loop either does acts and leaves the stages alone, or it does one of a few
things: it counts what an iteration will take, takes a callback, ends an iteration, or begins or ends a
poll. Nested runs are no exception: a step only begins or ends the innermost stage.
-/
namespace EventLoop

open Script (Activity Instruction)
open World (Changes isActive moving expiring trafficking hosting revoking requesting halting iterating
  notifying polling turning openTo)

/-- Whether a frame is an iteration or a poll. -/
def Frame.isStage : Frame → Bool
  | iteration _ | poll _ => true
  | script .. | program .. | repeated _ | running _ | letGo _ | afterData _ | afterEnd _ | afterLoss _
  | holding .. | rounds .. | joining .. | selecting .. | closing _ => false

/-- A frame of a script, of a program or of a run is no stage. -/
theorem Frame.isStage_of_isPlain {frame : Frame} (plain : frame.isPlain = true) :
    frame.isStage = false := by
  cases frame with
  | iteration | poll => cases plain
  | _ => rfl

/-! ## Callbacks -/

/-- A step leaves no stage and runs no callback. -/
def MovesAside (step : WorldM Move) : Prop :=
  ∀ world, (∀ frame ∈ (step world).1.1, frame.isStage = false) ∧ (step world).1.2.isCall = false

namespace MovesAside

variable {α : Type}

/-- Something is done first. -/
theorem bind {step : WorldM α} {next : α → WorldM Move} (each : ∀ value, MovesAside (next value)) :
    MovesAside (step >>= next) := fun world => each (step world).1 (step world).2

/-- Giving a signal runs no callback, unless the signal does. -/
theorem give {signal : Signal} (other : signal.isCall = false) : MovesAside (Machine.give signal) :=
  fun _ => ⟨fun _ member => (nomatch member), other⟩

/-- Handing a notice to a protocol leaves no stage and runs no callback. -/
theorem handTo (transport : TransportId) (notice : Net.Notice) (listener? : Option Net.Listener) :
    MovesAside (Machine.handTo transport notice listener?) := by
  intro world
  obtain ⟨signal, result, plain⟩ := Machine.fst_handTo transport notice listener? world
  rw [result]
  refine ⟨notice.of_frames rfl rfl rfl, ?_⟩
  rcases plain with rfl | ⟨actor, body, rfl⟩
  · rfl
  · rfl

/-- Telling a protocol that the connection is made leaves no stage and runs no callback. -/
theorem tellMade (transport : TransportId) : MovesAside (Machine.tellMade transport) := by
  rw [Machine.tellMade_eq]
  exact bind (handTo transport _)

/-- Handing data to a protocol leaves no stage and runs no callback. -/
theorem tellData (transport : TransportId) (data : Bytes) :
    MovesAside (Machine.tellData transport data) := by
  rw [Machine.tellData_eq]
  exact bind (handTo transport _)

/-- Telling a protocol that the peer sends nothing more leaves no stage and runs no callback. -/
theorem tellEnd (transport : TransportId) : MovesAside (Machine.tellEnd transport) := by
  rw [Machine.tellEnd_eq]
  exact bind (handTo transport _)

/-- Telling a protocol that the connection is lost leaves no stage and runs no callback. -/
theorem tellLost (transport : TransportId) (error : Option Error) :
    MovesAside (Machine.tellLost transport error) := by
  rw [Machine.tellLost_eq]
  exact bind (handTo transport _)

/-- Reacting to a future that is done leaves no stage and runs no callback. -/
theorem react (future : FutureId) (reaction : Reaction) :
    MovesAside (Machine.react future reaction) := by
  cases reaction with
  | script => exact bind fun _ => bind fun _ => give rfl
  | wake | stopLoop | pipeRead | sent | accepted => exact bind fun _ => give rfl
  | received transport =>
    refine bind fun arrival => ?_
    cases arrival with
    | nothing => exact give rfl
    | data data => exact tellData transport data
    | endOfStream => exact tellEnd transport

/-- A callback that polls no task leaves no stage. -/
theorem runCallback {callback : Callback} (other : ∀ task, callback ≠ .step task) :
    MovesAside (Machine.runCallback callback) := by
  cases callback with
  | step task => exact absurd rfl (other task)
  | done future reaction => exact react future reaction
  | connectionMade transport => exact tellMade transport
  | connectionLost transport error => exact tellLost transport error
  | script | readPipe | resolve | expire | startReading | startAccepting =>
    exact bind fun _ => give rfl

end MovesAside

/-! ## Active aspects -/

/-- Moving is an active aspect. -/
theorem isActive_moving : ∀ aspect ∈ moving, isActive aspect = true := by decide

/-- What has to do with transports is active. -/
theorem isActive_trafficking : ∀ aspect ∈ trafficking, isActive aspect = true := by decide

/-- What has to do with a time that is up is active. -/
theorem isActive_expiring : ∀ aspect ∈ expiring, isActive aspect = true := by decide

/-- What is asked of the host is active. -/
theorem isActive_hosting : ∀ aspect ∈ hosting, isActive aspect = true := by decide

/-- What is revoked is active. -/
theorem isActive_revoking : ∀ aspect ∈ revoking, isActive aspect = true := by decide

/-- What is asked on behalf of another thread is active. -/
theorem isActive_requesting : ∀ aspect ∈ requesting, isActive aspect = true := by decide

/-- What is done when the loop is to return is active. -/
theorem isActive_halting : ∀ aspect ∈ halting, isActive aspect = true := by decide

/-- What an iteration does is active. -/
theorem isActive_iterating : ∀ aspect ∈ iterating, isActive aspect = true := by decide

/-- What notifications do is active. -/
theorem isActive_notifying : ∀ aspect ∈ notifying, isActive aspect = true := by decide

/-- What callers do that take their turn is active. -/
theorem isActive_turning : ∀ aspect ∈ turning, isActive aspect = true := by decide

/-- A callback that polls no task makes active changes only. -/
theorem Callback.isActive {callback : Callback} (other : ∀ task, callback ≠ .step task) :
    ∀ aspect ∈ callback.aspects, isActive aspect = true :=
  @of_aspects (fun aspects => ∀ aspect ∈ aspects, EventLoop.World.isActive aspect = true) callback
    (fun task same => absurd same (other task)) isActive_trafficking isActive_hosting isActive_expiring
    isActive_moving

/-- What a script or a program does is active. -/
theorem isActive_bodyAspects (loop : Loop) (body : Script.Body) :
    ∀ aspect ∈ bodyAspects loop body, isActive aspect = true := by
  cases body with
  | nil => exact isActive_moving
  | cons instruction rest =>
    exact instruction.forall_aspects loop isActive_iterating isActive_halting isActive_trafficking
      isActive_hosting isActive_revoking isActive_requesting isActive_notifying isActive_moving

/-! ## Who cancels tasks -/

/-- Tasks are not cancelled by moving. -/
theorem cancelling_not_moving : Aspect.cancelling ∉ moving := by decide

/-- Tasks are not cancelled by what has to do with transports. -/
theorem cancelling_not_trafficking : Aspect.cancelling ∉ trafficking := by decide

/-- Tasks are not cancelled by what is asked of the host. -/
theorem cancelling_not_hosting : Aspect.cancelling ∉ hosting := by decide

/-- Tasks are not cancelled by what is asked on behalf of another thread. -/
theorem cancelling_not_requesting : Aspect.cancelling ∉ requesting := by decide

/-- Tasks are not cancelled when the loop is to return. -/
theorem cancelling_not_halting : Aspect.cancelling ∉ halting := by decide

/-- Tasks are not cancelled by an iteration. -/
theorem cancelling_not_iterating : Aspect.cancelling ∉ iterating := by decide

/-- Tasks are not cancelled by polling. -/
theorem cancelling_not_polling : Aspect.cancelling ∉ polling := by decide

/-- Only an instruction to cancel a task may cancel one. -/
theorem Script.Instruction.exists_cancel {loop : Loop} {instruction : Instruction}
    (may : .cancelling ∈ instruction.aspects loop) : ∃ name, instruction = .task (.cancel name) := by
  cases asked : instruction.cancels with
  | true =>
    cases instruction with
    | task call =>
      cases call with
      | cancel name => exact ⟨name, rfl⟩
      | _ => cases asked
    | _ => cases asked
  | false =>
    unfold Script.Instruction.aspects Script.Instruction.base at may
    rw [asked, if_neg Bool.false_ne_true] at may
    split at may
    · exact absurd may cancelling_not_iterating
    · split at may
      · exact absurd may cancelling_not_halting
      · split at may
        · exact absurd may cancelling_not_trafficking
        · split at may
          · exact absurd may cancelling_not_hosting
          · split at may
            · exact absurd may cancelling_not_requesting
            · split at may
              · exact absurd may (by decide : Aspect.cancelling ∉ notifying)
              · exact absurd may cancelling_not_moving

/-- Only a body that goes on with such an instruction may cancel a task. -/
theorem exists_cancel_of_bodyAspects {loop : Loop} {body : Script.Body}
    (may : .cancelling ∈ bodyAspects loop body) : ∃ name rest, body = .task (.cancel name) :: rest := by
  cases body with
  | nil => exact absurd may cancelling_not_moving
  | cons instruction rest =>
    obtain ⟨name, rfl⟩ := Script.Instruction.exists_cancel may
    exact ⟨name, rest, rfl⟩

/-- No callback cancels a task by itself. -/
theorem Callback.cancelling_not_mem (callback : Callback) : .cancelling ∉ callback.aspects :=
  @of_aspects (.cancelling ∉ ·) callback (fun _ _ => cancelling_not_polling) cancelling_not_trafficking
    cancelling_not_hosting (by decide) cancelling_not_moving

/-- No frame cancels a task when it goes on. -/
theorem Frame.cancelling_not_mem (frame : Frame) : .cancelling ∉ frame.aspects := by
  cases frame with
  | iteration => exact (by decide : Aspect.cancelling ∉ (.taking :: moving : List Aspect))
  | closing => exact (by decide : Aspect.cancelling ∉ (.closing :: moving : List Aspect))
  | poll => exact cancelling_not_polling
  | repeated | running => exact cancelling_not_iterating
  | afterData | afterEnd | afterLoss => exact cancelling_not_trafficking
  | script | program | letGo | holding | rounds | joining | selecting => exact cancelling_not_moving

/-- A signal that runs no callback makes active changes only. -/
theorem Signal.isActive (loop : Loop) {signal : Signal} (other : signal.isCall = false) :
    ∀ aspect ∈ signal.aspects loop, isActive aspect = true := by
  refine forall_aspects isActive_turning ?_
  cases signal with
  | call => cases other
  | script _ body | program _ _ body => exact isActive_bodyAspects loop body
  | _ => exact isActive_moving

/-! ## Loops that mind what they have to do -/

/-- A loop asks only for what may be asked for, and knows the live tasks. -/
structure Loop.Minds (loop : Loop) : Prop where
  /-- What timers and other threads ask for. -/
  asking : loop.Asking
  /-- The live tasks. -/
  enrolls : loop.agenda.Enrolls

/-- A loop that goes on minds what it has to do. -/
theorem Loop.Proceeds.minds {cancels : Prop} {loop other : Loop}
    (proceeds : Loop.Proceeds cancels loop other) (minds : loop.Minds) : other.Minds :=
  ⟨proceeds.asking, minds.enrolls.acts proceeds.acts⟩

/-! ## References that were given up -/

namespace World

/-- An object that would not be missed, or that something mentions, stays as it is. -/
theorem releaseUnmentioned_of_kept {ref : Ref} {world : World}
    (kept : ¬ (world.isMissed ref && !world.isMentioned ref) = true) :
    releaseUnmentioned ref world = ([], world) := by
  change (if world.isMissed ref && !world.isMentioned ref then _ else _ : WorldM (List Ref)) world = _
  rw [if_neg kept]
  rfl

/-- An object that would be missed and that nothing mentions is released. -/
theorem releaseUnmentioned_of_free {ref : Ref} {world released : World}
    (free : (world.isMissed ref && !world.isMentioned ref) = true)
    (release : release ref { world with loop := { world.loop with dropped := [] } } =
      ((), released)) : releaseUnmentioned ref world = (released.loop.dropped,
        { released with loop := { released.loop with dropped := world.loop.dropped } }) := by
  change (if world.isMissed ref && !world.isMentioned ref then _ else _ : WorldM (List Ref)) world = _
  rw [if_pos free]
  have same := congrArg Prod.snd release
  dsimp only at same
  rw [← same]
  rfl

/-- A future that is released is emptied, and what it kept alive is given up. -/
theorem release_future {future : FutureId} {entry : Future} {world : World}
    (found : world.loop.futures.get? future = some entry) :
    release (.future future) world = ((), { world with loop := { world.loop with
      futures := world.loop.futures.modify future Future.emptied }.drop entry.refs }) := by
  unfold release
  simp only [StateM.bind_apply, StateM.get_apply, found]
  rfl

/-- A future that was given up is emptied, or it stays as it is. -/
theorem loop_settleDropped (future : FutureId) (refs : List Ref) (world : World) :
    (settleDropped (.future future) refs world).2.loop =
        { world.loop with dropped := refs } ∨
      ∃ entry given, world.loop.futures.get? future = some entry ∧
        isMentioned { world with loop := { world.loop with dropped := refs } }
          (.future future) = false ∧
        (settleDropped (.future future) refs world).2.loop = { world.loop with
          futures := world.loop.futures.modify future Future.emptied, dropped := given } := by
  let bare : World := { world with loop := { world.loop with dropped := refs } }
  have settled : (settleDropped (.future future) refs world).2.loop =
      { (releaseUnmentioned (.future future) bare).2.loop with
        dropped := (releaseUnmentioned (.future future) bare).1 ++ refs } := rfl
  rw [settled]
  by_cases free : (bare.isMissed (.future future) && !bare.isMentioned (.future future)) = true
  · have both := free
    rw [Bool.and_eq_true, Bool.not_eq_true'] at both
    obtain ⟨entry, found, -⟩ := (Option.any_eq_true _ _).mp both.1
    rw [releaseUnmentioned_of_free free (release_future found)]
    exact Or.inr ⟨entry, _, found, both.2, rfl⟩
  · rw [releaseUnmentioned_of_kept free]
    exact Or.inl rfl

end World

namespace Loop

/-- A task is completed if it is being polled. -/
theorem complete_eq (loop : Loop) (id : TaskId) (value : Value) :
    loop.complete id value = match loop.tasks.get? id with
      | some ⟨name, .running, slot, result⟩ => (((loop.setPhase id .completed).retire
          ⟨name, .running, slot, result⟩).resolve result (.finish (.ok (.value value)))).2
      | _ => loop := by
  unfold complete
  rcases found : loop.tasks.get? id with _ | ⟨name, phase, slot, result⟩
  · rfl
  · cases phase with
    | running => rfl
    | idle | queued | completed | cancelled => rfl

/-- What is to be done is retired with the task. -/
theorem agenda_retire (loop : Loop) (task : Task) :
    (loop.retire task).agenda = loop.agenda.retire task := by
  unfold retire Agenda.retire
  cases task.slot with
  | none => rfl
  | some slot => rfl

/-- Retiring a task makes no callback ready. -/
theorem ready_retire (loop : Loop) (task : Task) : (loop.retire task).ready = loop.ready := by
  unfold retire
  split
  · rfl
  · rfl

/-- Resolving a future only appends callbacks to those that are ready. -/
theorem ready_resolve (loop : Loop) (future : FutureId) (resolution : Resolution) :
    loop.ready <+: (loop.resolve future resolution).2.ready := by
  rw [resolve_eq]
  split
  · rw [replaceFuture_eq]
    exact List.prefix_append _ _
  · exact List.prefix_refl _

/-- Completing a task only appends callbacks to those that are ready. -/
theorem ready_complete (loop : Loop) (id : TaskId) (value : Value) :
    loop.ready <+: (loop.complete id value).ready := by
  rw [complete_eq]
  split
  · rename_i name slot result found
    have retired : ((loop.setPhase id .completed).retire ⟨name, .running, slot, result⟩).ready =
        loop.ready := ready_retire _ _
    rw [← retired]
    exact ready_resolve _ _ _
  · exact List.prefix_refl _

end Loop

namespace Loop.Minds

variable {loop : Loop} (minds : loop.Minds)

include minds

/-- Resolving a future changes nothing that matters. -/
theorem resolve (future : FutureId) (resolution : Resolution) :
    (loop.resolve future resolution).2.Minds := by
  rw [resolve_eq]
  split
  · rename_i kind reactions timer found
    rw [replaceFuture_eq]
    refine ⟨minds.asking.congr ?_ rfl, minds.enrolls.congr rfl rfl⟩
    cases timer with
    | none => rfl
    | some timer => rfl
  · exact minds

/-- A task that is being polled and is completed is no longer live. -/
theorem retired {id : TaskId} {task : Task} (found : loop.tasks.get? id = some task)
    (running : task.phase = .running) : ((loop.setPhase id .completed).retire task).Minds := by
  refine ⟨minds.asking.congr ?_ ?_, ?_⟩
  · unfold Loop.retire
    cases task.slot with
    | none => rfl
    | some slot => rfl
  · unfold Loop.retire
    cases task.slot with
    | none => rfl
    | some slot => rfl
  · rw [agenda_retire]
    refine minds.enrolls.retire found ?_ rfl
    simp [Task.isOver, running]

/-- The live tasks are known after one was completed. -/
theorem complete (id : TaskId) (value : Value) : (loop.complete id value).Minds := by
  rw [complete_eq]
  split
  · rename_i name slot result found
    exact (minds.retired found rfl).resolve result _
  · exact minds

end Loop.Minds

namespace Machine

variable {machine after : Machine}

/-- The iterations and the polls that are under way, the innermost first. -/
def stages (machine : Machine) : List Frame := machine.frames.filter Frame.isStage

/-- The step cancels a task: someone calls for it. -/
def Cancels (machine after : Machine) : Prop := ∃ name, Calls (.task (.cancel name)) machine after

/-- A signal that may cancel a task calls for it. -/
theorem cancels_of_aspects {step : WorldM Move} (clean : machine.world.loop.dropped = [])
    (acts : act? machine.signal = some step)
    (may : .cancelling ∈ machine.signal.aspects machine.world.loop) :
    machine.Cancels (machine.move machine.frames step) := by
  have moves := next_of_act clean acts
  have may := Signal.mem_base may (by decide)
  cases signal : machine.signal with
  | script actor body =>
    rw [signal] at may
    obtain ⟨name, rest, rfl⟩ := exists_cancel_of_bodyAspects may
    exact ⟨name, .script actor rest clean signal moves⟩
  | program task last body =>
    rw [signal] at may
    obtain ⟨name, rest, rfl⟩ := exists_cancel_of_bodyAspects may
    exact ⟨name, .program task last rest clean signal moves⟩
  | call callback =>
    rw [signal] at may
    exact absurd may callback.cancelling_not_mem
  | _ =>
    rw [signal] at may
    exact absurd may cancelling_not_moving

/-- The first reference that was given up is a pending future that nothing mentions. -/
structure Deserts (machine : Machine) (future : FutureId) : Prop where
  /-- It was given up. -/
  dropped : machine.world.loop.dropped.head? = some (.future future)
  /-- It is pending. -/
  pending : ∃ entry, machine.world.loop.futures.get? future = some entry ∧ entry.isDone = false
  /-- Nothing mentions it, apart from that. -/
  free : World.isMentioned { machine.holding with loop := { machine.world.loop with
    dropped := machine.world.loop.dropped.tail } } (.future future) = false

/-- What a step does to an open loop and to the iterations and polls that are under way. -/
inductive Goes (machine after : Machine) : Prop
  /-- Acts are done; no poll begins. -/
  | steady (proceeds : Loop.Proceeds (machine.Cancels after) machine.world.loop after.world.loop)
      (stale : ∀ task, machine.signal = .call (.step task) → ¬ machine.world.loop.IsQueued task)
      (quiet : after.signal.isCall = false) (stages : after.stages = machine.stages)
  /-- An iteration begins: it will take as many callbacks as are ready once they were gathered. -/
  | counting (proceeds : Loop.Proceeds (machine.Cancels after) machine.world.loop after.world.loop)
      (uncalled : machine.signal.isCall = false) (quiet : after.signal.isCall = false)
      (earlier : World) (gathered : after.world = { earlier with
        loop := (earlier.loop.gather earlier.host.kernel.now).2 })
      (stages : after.stages = .iteration after.world.loop.ready.length :: machine.stages)
  /-- The innermost iteration takes a callback. -/
  | taking (left : Nat) (callback : Callback) (rest : List Callback) (lower : List Frame)
      (uncalled : machine.signal.isCall = false) (called : after.signal = .call callback)
      (ready : machine.world.loop.ready = callback :: rest)
      (loop : after.world.loop = { machine.world.loop with ready := rest })
      (before : machine.stages = .iteration (left + 1) :: lower)
      (stages : after.stages = .iteration left :: lower)
  /-- The innermost iteration ends. -/
  | finishing (left : Nat) (uncalled : machine.signal.isCall = false)
      (ended : after.signal = .iterated (.ok ())) (exhausted : left = 0 ∨ machine.world.loop.ready = [])
      (loop : after.world.loop = machine.world.loop)
      (stages : machine.stages = .iteration left :: after.stages)
  /-- The poll of a task that is due begins. -/
  | polling (task : TaskId) (activity : Activity) (called : machine.signal = .call (.step task))
      (quiet : after.signal.isCall = false)
      (queued : machine.world.loop.taskPhase? task = some (.queued activity))
      (loop : after.world.loop = machine.world.loop.setPhase task .running)
      (stages : after.stages = .poll task :: machine.stages)
  /-- The program of the task that is polled innermost has ended. -/
  | ending (task : TaskId) (value : Value) (uncalled : machine.signal.isCall = false)
      (ended : machine.signal = .ended value ∨ machine.signal = .returned value)
      (quiet : after.signal.isCall = false)
      (loop : after.world.loop = machine.world.loop.complete task value)
      (stages : machine.stages = .poll task :: after.stages)
  /-- The program of the task that is polled innermost has to wait. -/
  | suspending (task : TaskId) (activity : Activity) (uncalled : machine.signal.isCall = false)
      (quiet : after.signal.isCall = false)
      (running : machine.world.loop.taskPhase? task = some .running)
      (loop : after.world.loop = machine.world.loop.setPhase task (.idle activity))
      (stages : machine.stages = .poll task :: after.stages)
  /-- The program of the task that is polled innermost has to wait, but the task is over: it is given
  up. -/
  | abandoning (task : TaskId) (uncalled : machine.signal.isCall = false)
      (quiet : after.signal.isCall = false)
      (refused : machine.world.loop.taskPhase? task ≠ some .running)
      (proceeds : Loop.Proceeds (machine.Cancels after) machine.world.loop after.world.loop)
      (stages : machine.stages = .poll task :: after.stages)
  /-- A future is deserted: what it was to bring about is lost. -/
  | deserting (future : FutureId) (uncalled : machine.signal.isCall = false)
      (quiet : after.signal.isCall = false) (deserts : machine.Deserts future)
      (refs : List Ref) (loop : after.world.loop = { machine.world.loop with
        futures := machine.world.loop.futures.modify future Future.emptied, dropped := refs })
      (stages : after.stages = machine.stages)

/-- Frames that are no stages add none. -/
theorem stages_move {above below : List Frame} (apart : ∀ frame ∈ above, frame.isStage = false) :
    (above ++ below).filter Frame.isStage = below.filter Frame.isStage := by
  have none : above.filter Frame.isStage = [] :=
    List.filter_eq_nil_iff.mpr fun frame member => by simp [apart frame member]
  rw [List.filter_append, none, List.nil_append]

/-- A step that goes its way by active changes goes on by acts. -/
theorem Passes.proceeds {aspects : List Aspect} (passes : machine.Passes aspects after)
    (sound : machine.Sound False) (more : moving ⊆ aspects)
    (active : ∀ aspect ∈ aspects, isActive aspect = true)
    (may : Aspect.cancelling ∈ aspects → machine.Cancels after)
    (opened : after.world.loop.closed = false) (minds : machine.world.loop.Minds) :
    Loop.Proceeds (machine.Cancels after) machine.world.loop after.world.loop :=
  (passes.changes sound more).proceeds active may opened minds.asking minds.enrolls

/-- A sedate move goes on by acts, and it may begin an iteration. -/
theorem goes_sedate {made : Move} {below : List Frame} (sedate : made.Sedate True after.world)
    (proceeds : Loop.Proceeds (machine.Cancels after) machine.world.loop after.world.loop)
    (uncalled : machine.signal.isCall = false) (frames : after.frames = made.1 ++ below)
    (signal : after.signal = made.2) (same : below.filter Frame.isStage = machine.stages) :
    Goes machine after := by
  have stages : after.stages = (made.1 ++ below).filter Frame.isStage :=
    congrArg (List.filter Frame.isStage) frames
  cases sedate with
  | plain apart quiet =>
    refine .steady proceeds (fun task called => absurd called (Signal.ne_call_of_isCall uncalled _))
      (signal ▸ quiet) ?_
    rw [stages, ← same]
    exact stages_move fun frame member => Frame.isStage_of_isPlain (apart frame member)
  | counted allowed earlier above first plain goes_on gathered =>
    refine .counting proceeds uncalled ?_ earlier gathered ?_
    · rw [signal, goes_on]
      rfl
    · have length : (earlier.loop.gather earlier.host.kernel.now).1 =
          after.world.loop.ready.length := by
        rw [gathered]
        rfl
      rw [stages, first, ← same, ← length, List.cons_append, List.filter_cons_of_pos rfl]
      exact congrArg _ (stages_move fun frame member => Frame.isStage_of_isPlain (plain frame member))

/-! ## Every step of a run -/

/-- Looking at a reference that was given up does acts, unless it deserts a future. -/
theorem Sound.goes_settle (sound : machine.Sound False) {ref : Ref} {refs : List Ref}
    (dropped : machine.world.loop.dropped = ref :: refs) {settled : World}
    (settles : settled = (World.settleDropped ref refs machine.holding).2)
    (opened : settled.loop.closed = false) (minds : machine.world.loop.Minds) :
    Goes machine { machine with world := settled } := by
  subst settles
  have uncalled := Signal.isCall_eq_false (sound.not_call dropped)
  have acting (proceeds : Loop.Proceeds
      (machine.Cancels { machine with world := (World.settleDropped ref refs machine.holding).2 })
      machine.world.loop (World.settleDropped ref refs machine.holding).2.loop) :
      Goes machine { machine with world := (World.settleDropped ref refs machine.holding).2 } :=
    .steady proceeds (fun task called => absurd called (Signal.ne_call_of_isCall uncalled _)) uncalled rfl
  have passes := (sound.settle dropped fun asked => asked.elim).2
  cases ref with
  | task | socket | transport | server =>
    exact acting (passes.proceeds sound (List.Subset.refl _) isActive_moving
      (fun may => absurd may cancelling_not_moving) opened minds)
  | future future =>
    rcases World.loop_settleDropped future refs machine.holding with kept | emptied
    · exact acting (.same (by rw [kept]; rfl) (kept ▸ minds.asking.congr rfl rfl))
    · obtain ⟨entry, given, found, free, loop⟩ := emptied
      cases done : entry.isDone with
      | true =>
        refine acting (.single ?_ (loop ▸ minds.asking.congr rfl rfl))
        rw [loop]
        exact .emptied future entry found done
      | false =>
        refine .deserting future uncalled uncalled ⟨?_, ⟨entry, found, done⟩, ?_⟩ given loop rfl
        · rw [dropped]
          rfl
        · rw [dropped]
          exact free

/-- What a move leaves can be read off its step. -/
theorem move_eq {below frames : List Frame} {step : WorldM Move} {signal : Signal} {reached : World}
    (made : step machine.holding = ((frames, signal), reached)) :
    machine.move below step = ⟨reached, frames ++ below, signal⟩ := by
  change Machine.mk (step machine.holding).2 ((step machine.holding).1.1 ++ below)
    (step machine.holding).1.2 = _
  rw [made]

/-- A callback that polls a task runs no other callback. -/
theorem isCall_beginPoll (task : TaskId) (world : World) :
    (beginPoll task world).1.2.isCall = false := by
  unfold beginPoll
  simp only [StateM.bind_apply, World.onLoop_apply]
  cases (world.loop.beginPoll task).1 with
  | none => rfl
  | some activity =>
    simp only [StateM.bind_apply, StateM.get_apply]
    by_cases told : world.host.journal.settings.tasks = true
    · simp only [told, ↓reduceIte]
      rfl
    · simp only [told, Bool.false_eq_true, ↓reduceIte]
      rfl

/-- The poll of a task begins, if it is due. -/
theorem goes_poll {task : TaskId} (called : machine.signal = .call (.step task))
    (asking : machine.world.loop.Asking) :
    Goes machine (machine.move machine.frames (beginPoll task)) := by
  have begun := loop_beginPoll task machine.holding
  have quiet := isCall_beginPoll task machine.holding
  by_cases due : ∃ activity, machine.world.loop.taskPhase? task = some (.queued activity)
  · obtain ⟨activity, queued⟩ := due
    have given : machine.holding.loop.beginPoll task =
        (some activity, machine.world.loop.setPhase task .running) := by
      change machine.world.loop.beginPoll task = _
      unfold Loop.beginPoll
      rw [queued]
    rw [given] at begun
    refine .polling task activity called quiet queued begun.1 ?_
    change ((beginPoll task machine.holding).1.1 ++ machine.frames).filter Frame.isStage = _
    rw [begun.2 rfl]
    rfl
  · have idle : machine.holding.loop.beginPoll task = (none, machine.world.loop) := by
      change machine.world.loop.beginPoll task = _
      unfold Loop.beginPoll
      split
      · rename_i activity queued
        exact absurd ⟨activity, queued⟩ due
      · rfl
    have made : beginPoll task machine.holding = (([], .proceed), machine.holding) := by
      unfold beginPoll
      simp only [StateM.bind_apply, World.onLoop_apply, idle]
      rfl
    rw [move_eq made]
    refine .steady (.refl asking) (fun other same => ?_) rfl rfl
    cases called.symm.trans same
    exact due

/-- A signal that is acted on goes on by acts, or a poll begins, or an iteration. -/
theorem Sound.goes_act (sound : machine.Sound False) {step : WorldM Move}
    (clean : machine.world.loop.dropped = []) (acts : act? machine.signal = some step)
    (opened : (machine.move machine.frames step).world.loop.closed = false)
    (minds : machine.world.loop.Minds) : Goes machine (machine.move machine.frames step) := by
  have passes := (sound.act acts fun asked => asked.elim).2
  have more := machine.signal.moving_subset machine.world.loop
  cases uncalled : machine.signal.isCall with
  | false =>
    have active := machine.signal.isActive machine.world.loop uncalled
    exact goes_sedate (MovesSedately.act trivial acts uncalled machine.holding)
      (passes.proceeds sound more active (cancels_of_aspects clean acts) opened minds) uncalled rfl rfl
      rfl
  | true =>
    cases signal : machine.signal with
    | call callback =>
      rw [signal] at acts passes more
      by_cases polls : ∃ task, callback = .step task
      · obtain ⟨task, rfl⟩ := polls
        cases acts
        exact goes_poll signal minds.asking
      · have other (task : TaskId) : callback ≠ .step task := fun same => polls ⟨task, same⟩
        cases acts
        obtain ⟨frames, quiet⟩ := MovesAside.runCallback other machine.holding
        refine .steady (passes.proceeds sound more (Callback.isActive other)
          (fun may => absurd may callback.cancelling_not_mem) opened minds) ?_ quiet
          (stages_move frames)
        intro task called
        rw [signal] at called
        cases called
        exact absurd rfl (other task)
    | _ =>
      rw [signal] at uncalled
      cases uncalled

/-- An iteration takes the next callback or ends. -/
theorem goes_iteration {left : Nat} {below : List Frame} (signal : machine.signal = .proceed)
    (split : machine.frames = .iteration left :: below) :
    Goes machine (machine.move below (stepIteration left)) := by
  have uncalled : machine.signal.isCall = false := by rw [signal]; rfl
  have stages : machine.stages = .iteration left :: below.filter Frame.isStage := by
    unfold Machine.stages
    rw [split]
    rfl
  cases left with
  | zero => exact .finishing 0 uncalled rfl (Or.inl rfl) rfl stages
  | succ left =>
    cases ready : machine.world.loop.ready with
    | nil =>
      have made : stepIteration (left + 1) machine.holding = _ := stepIteration_of_idle ready
      rw [move_eq made]
      exact .finishing (left + 1) uncalled rfl (Or.inr ready) rfl stages
    | cons callback rest =>
      have made : stepIteration (left + 1) machine.holding = _ := stepIteration_of_ready ready
      rw [move_eq made]
      exact .taking left callback rest _ uncalled rfl ready rfl stages rfl

/-- The poll of a task ends. -/
theorem Sound.goes_poll_end (sound : machine.Sound False) {task : TaskId} {below : List Frame}
    (split : machine.frames = .poll task :: below) (done : act? machine.signal = none)
    (opened : (machine.move below (Machine.deliver machine.signal (.poll task))).world.loop.closed =
      false) (minds : machine.world.loop.Minds) :
    Goes machine (machine.move below (Machine.deliver machine.signal (.poll task))) := by
  have uncalled := Signal.isCall_of_done done
  have stages : machine.stages = .poll task :: below.filter Frame.isStage := by
    unfold Machine.stages
    rw [split]
    rfl
  have received := (split ▸ sound.fits : Fits _ (.poll task :: below)).1.kinds
  cases signal : machine.signal with
  | ended value | returned value =>
    have complete := loop_endProgram task value machine.holding
    refine .ending task value uncalled (by simp [signal]) rfl complete.1 ?_
    change machine.stages = .poll task :: ((endProgram task value machine.holding).1.1 ++
      below).filter Frame.isStage
    rw [complete.2]
    exact stages
  | suspended activity =>
    rw [signal] at opened
    change (machine.move below (endPoll task activity)).world.loop.closed = false at opened
    change Goes machine (machine.move below (endPoll task activity))
    by_cases running : machine.world.loop.taskPhase? task = some .running
    · have made : endPoll task activity machine.holding = _ := endPoll_of_running running
      rw [move_eq made]
      exact .suspending task activity uncalled rfl running rfl stages
    · have made : endPoll task activity machine.holding = _ := endPoll_of_not_running running
      rw [move_eq made] at opened ⊢
      refine .abandoning task uncalled rfl running ?_ stages
      exact (changes_abandonProgram sound signal _).proceeds isActive_moving
        (fun may => absurd may cancelling_not_moving) opened minds.asking minds.enrolls
  | proceed | answer | iterated | waiting =>
    rw [signal] at received
    exact absurd (received List.mem_cons_self) (by simp [Frame.kinds])
  | call | script | program | resume | retry | join | select =>
    rw [signal] at done
    cases done

/-- A frame that receives what was just done goes on by acts, or an iteration begins, goes on or ends, or
a poll ends. -/
theorem Sound.goes_deliver (sound : machine.Sound False) {frame : Frame} {below : List Frame}
    (clean : machine.world.loop.dropped = []) (done : act? machine.signal = none)
    (split : machine.frames = frame :: below)
    (opened : (machine.move below (Machine.deliver machine.signal frame)).world.loop.closed = false)
    (minds : machine.world.loop.Minds) :
    Goes machine (machine.move below (Machine.deliver machine.signal frame)) := by
  have passes := (sound.deliver clean done split fun asked => asked.elim).2
  have takes : frame.Takes machine.signal.demand := (split ▸ sound.fits).1
  have uncalled := Signal.isCall_of_done done
  have sedately (active : ∀ aspect ∈ frame.aspects, isActive aspect = true)
      (apart : frame.isStage = false) :
      Goes machine (machine.move below (Machine.deliver machine.signal frame)) := by
    refine goes_sedate (MovesSedately.deliver done ?_ (fun _ => trivial) machine.holding)
      (passes.proceeds sound frame.moving_subset active
        (fun may => absurd may frame.cancelling_not_mem) opened minds) uncalled rfl rfl ?_
    · rintro left rfl
      cases apart
    · unfold Machine.stages
      rw [split, List.filter_cons_of_neg (ne_true_of_eq_false apart)]
  cases frame with
  | iteration left =>
    have signal := takes.eq_proceed rfl done
    rw [signal]
    exact goes_iteration signal split
  | poll task => exact sound.goes_poll_end split done opened minds
  | closing => exact (sound.not_closing split passes opened).elim
  | repeated | running => exact sedately isActive_iterating rfl
  | afterData | afterEnd | afterLoss => exact sedately isActive_trafficking rfl
  | script | program | letGo | holding | rounds | joining | selecting =>
    exact sedately isActive_moving rfl

/-- Every step of a run on an open loop goes on by acts, or it begins or ends the innermost stage or takes
a callback, or it deserts a future. -/
theorem Sound.goes (sound : machine.Sound False) (step : Step machine after)
    (opened : after.world.loop.closed = false) (minds : machine.world.loop.Minds) :
    Goes machine after := by
  cases step.does with
  | settled dropped => exact sound.goes_settle dropped rfl opened minds
  | acted clean acts => exact sound.goes_act clean acts opened minds
  | delivered clean done split => exact sound.goes_deliver clean done split opened minds
  | begun halted instruction =>
    obtain ⟨-, empty, value, signal⟩ := sound.answered halted
    have passes := (sound.instructed halted instruction).2
    have may : .cancelling ∈ instruction.aspects machine.world.loop →
        machine.Cancels (machine.instructed instruction) := by
      intro may
      obtain ⟨name, rfl⟩ := Script.Instruction.exists_cancel may
      exact ⟨name, .outside halted⟩
    have proceeds := passes.proceeds sound (instruction.moving_subset machine.world.loop)
      (isActive_bodyAspects machine.world.loop [instruction]) may opened minds
    refine goes_sedate (MovesSedately.beginInstruction trivial .outside instruction _) proceeds ?_ rfl rfl ?_
    · rw [signal]
      rfl
    · unfold Machine.stages
      rw [empty]

/-! ## Every state of a run -/

/-- A step goes on from what the loop minds. -/
theorem Goes.minds (goes : Goes machine after) (minds : machine.world.loop.Minds) :
    after.world.loop.Minds := by
  cases goes with
  | steady proceeds | counting proceeds | abandoning _ _ _ _ proceeds => exact proceeds.minds minds
  | taking _ _ _ _ _ _ _ loop | finishing _ _ _ _ loop | deserting _ _ _ _ _ loop =>
    rw [loop]
    exact ⟨minds.asking.congr rfl rfl, minds.enrolls.congr rfl rfl⟩
  | polling task activity called quiet queued loop =>
    obtain ⟨entry, found, phase⟩ := Option.map_eq_some_iff.mp queued
    rw [loop]
    refine ⟨minds.asking.congr rfl rfl, minds.enrolls.setPhase found ?_ rfl⟩
    simp [Task.isOver, phase]
  | suspending task activity uncalled quiet running loop =>
    obtain ⟨entry, found, phase⟩ := Option.map_eq_some_iff.mp running
    rw [loop]
    refine ⟨minds.asking.congr rfl rfl, minds.enrolls.setPhase found ?_ rfl⟩
    simp [Task.isOver, phase]
  | ending task value uncalled ended quiet loop =>
    rw [loop]
    exact minds.complete task value

/-- A loop without tasks, timers and futures minds what it has to do. -/
theorem minds_empty : ({} : Loop).Minds :=
  ⟨⟨fun _ member => (nomatch member), fun _ member => (nomatch member)⟩,
    ⟨Slab.tidy_empty, fun found => (nomatch found), fun found => (nomatch found)⟩⟩

/-- A loop is built by acts, and no task is cancelled. -/
theorem Initial.proceeds (initial : Initial machine) (opened : machine.world.loop.closed = false) :
    Loop.Proceeds False ({} : Loop) machine.world.loop := by
  obtain ⟨-, -, bare, ⟨host, settings, completer, none, -⟩, settled, course⟩ := initial.course
  exact (course.changes settled (List.subset_cons_self _ _)).proceeds isActive_halting
    (fun may => absurd may cancelling_not_halting) opened minds_empty.asking minds_empty.enrolls

/-- A loop that was just built minds what it has to do. -/
theorem Initial.minds (initial : Initial machine) (opened : machine.world.loop.closed = false) :
    machine.world.loop.Minds :=
  (initial.proceeds opened).minds minds_empty

/-- Every state of a run on an open loop minds what the loop has to do. -/
theorem Visits.minds {sort : Machine → Prop} (visits : Visits sort machine)
    (opens : ∀ state, sort state → state.world.loop.closed = false) : machine.world.loop.Minds := by
  induction visits with
  | initial initial fine => exact initial.minds (opens _ fine)
  | step earlier step fine ih =>
    exact (earlier.reachable.sound.goes step (opens _ fine) ih).minds ih

/-- Every step of a run on an open loop goes on from the state before it. -/
theorem Visits.goes {sort : Machine → Prop} (visits : Visits sort machine)
    (opens : ∀ state, sort state → state.world.loop.closed = false) (step : Step machine after)
    (fine : sort after) : Goes machine after :=
  visits.reachable.sound.goes step (opens _ fine) (visits.minds opens)

end Machine

end EventLoop

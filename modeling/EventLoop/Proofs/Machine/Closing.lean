import EventLoop.Proofs.Descriptors.Closings
import EventLoop.Proofs.Machine.Lives
import EventLoop.Proofs.Machine.Shutting

/-!
# Closing for good

A loop is closed in two parts. In between, nothing happens but that whatever was given up is looked at.
Afterwards nothing waits in the loop any more and nothing ever will: no callback starts, no task is polled,
every operation fails, and there is no descriptor left that could be closed once more.
-/
namespace EventLoop

open Script (Instruction)
open World (moving trafficking polling)

/-! ## Operations that are refused -/

namespace World

/-- An operation fails at once, and neither the completer nor the host hears of it. -/
structure Refuses (world : World) (socket : SocketId) (subject : Proactor.Subject) : Prop where
  /-- It fails because the loop is closed. -/
  outcome : (submit socket subject world).2.loop.resultOf (submit socket subject world).1 =
    .error (.illegalState "event loop is closed")
  /-- It is over. -/
  done : (submit socket subject world).2.loop.isDone (submit socket subject world).1 = true
  /-- The completer. -/
  completer : (submit socket subject world).2.completer = world.completer
  /-- The host. -/
  host : (submit socket subject world).2.host = world.host

/-- A world that takes no operations on refuses every one. -/
theorem refuses {world : World} (off : world.submitting = false) (socket : SocketId)
    (subject : Proactor.Subject) : world.Refuses socket subject := by
  let made : Loop := (world.loop.makeFuture subject.futureKind).2
  let refused : Loop := (made.resolve world.loop.futures.size (.finish (.error .loopClosed))).2
  have step : submit socket subject world =
      (world.loop.futures.size, { world with loop := refused }) := by
    unfold submit
    simp only [StateM.bind_apply, StateM.get_apply]
    exact congrFun (if_neg (Bool.eq_false_iff.mp off)) _
  have fresh : made.futures.get? world.loop.futures.size =
      some ⟨subject.futureKind, .pending [] none⟩ := by
    change (world.loop.futures.push _).get? _ = _
    rw [Table.get?_push, if_pos rfl]
    rfl
  have found : refused.futures.get? world.loop.futures.size =
      some ⟨subject.futureKind, .finished (some (.error .loopClosed))⟩ := by
    change (Loop.futures (Loop.resolve _ _ _).2).get? _ = _
    rw [Loop.resolve_eq, fresh]
    dsimp only
    rw [Loop.replaceFuture_eq]
    dsimp only
    rw [Table.get?_modify_self, fresh]
    rfl
  constructor
  · rw [step]
    unfold Loop.resultOf
    dsimp only
    rw [found]
    rfl
  · rw [step]
    unfold Loop.isDone Loop.futureState
    dsimp only
    rw [found]
    rfl
  · rw [step]
  · rw [step]

end World

namespace Machine

variable {start machine after : Machine} {value : Value} {below : List Frame}

/-! ## Between the two halves -/

/-- The first half of closing the loop is done, and the frame for the other half goes on as soon as all
that was given up has been looked at. -/
structure IsClosing (value : Value) (below : List Frame) (machine : Machine) : Prop where
  /-- The loop is closed, and its fittings are gone. -/
  gone : machine.world.fittings = .gone
  /-- It is not running. -/
  idle : machine.world.loop.running = false
  /-- The frame for the other half is on top. -/
  frames : machine.frames = .closing value :: below
  /-- Nothing else comes first. -/
  signal : machine.signal = .proceed

/-- The loop was closed: nothing waits in it, it takes nothing on, and no callback runs. -/
structure Inert (machine : Machine) : Prop where
  /-- The loop is closed, and neither a callback nor a timer waits in it. -/
  silent : machine.world.loop.IsSilent
  /-- It has no pipe and takes no operation on. -/
  gone : machine.world.fittings = .gone
  /-- It is not running. -/
  idle : machine.world.loop.running = false
  /-- It has no poller. -/
  poller : machine.world.poller? = none
  /-- No callback is about to start: neither one that is ready nor that of a timer, of another thread, of a
  future that is done or of a protocol, nor one that polls a task. -/
  quiet : ∀ callback, machine.signal ≠ .call callback

/-- A step keeps of a closed loop what closing it has left. -/
theorem Reachable.kept (reachable : machine.Reachable) (step : Step machine after)
    (gone : machine.world.fittings = .gone) (idle : machine.world.loop.running = false) :
    after.world.fittings = .gone ∧ after.world.loop.running = false ∧
      (machine.world.loop.IsSilent → after.world.loop.IsSilent) := by
  have sound := reachable.sound
  have closed : machine.world.loop.closed = true := congrArg Fittings.closed gone
  obtain ⟨aspects, course⟩ := reachable.passes step
  have changes := World.Course.changes_append course sound.settled
  refine ⟨?_, changes.idle closed idle, changes.silent⟩
  rcases sound.closesAtMost step with kept | begins
  · exact kept.trans gone
  · have opened := begins.opened
    rw [closed] at opened
    cases opened

/-- The poller of a loop that has none is not there later either. -/
theorem Step.poller (step : Step machine after) (none : machine.world.poller? = none) :
    after.world.poller? = Option.none := by
  obtain ⟨closings, deals⟩ := step.deals
  have fares := (World.Deals.fares deals (show machine.outset.Has .engine from trivial)).2
  rw [owned?_outset machine] at fares
  change Owner.Fares machine.world.poller? _ _ at fares
  rw [none] at fares
  exact fares.of_none.2

/-- While the loop is being closed, whatever was given up is looked at, and then the other half follows. -/
theorem IsClosing.step (closing : IsClosing value below machine) (reachable : machine.Reachable)
    (step : Step machine after) : IsClosing value below after ∨
      after.Inert ∧ after.signal = .answer value ∧ after.frames = below := by
  obtain ⟨gone, idle, -⟩ := reachable.kept step closing.gone closing.idle
  cases step.does with
  | settled => exact Or.inl ⟨gone, idle, closing.frames, closing.signal⟩
  | acted clean acts =>
    rw [closing.signal] at acts
    cases acts
  | delivered clean done split =>
    rw [closing.frames] at split
    cases split
    rw [closing.signal] at gone idle ⊢
    obtain ⟨poller, -, loop⟩ := Scenario.closePoller_gone machine.holding
    have closed : machine.world.loop.closed = true := congrArg Fittings.closed closing.gone
    refine Or.inr ⟨⟨?_, gone, idle, poller, nofun⟩, rfl, rfl⟩
    have shut : (World.closePoller machine.holding).2.loop.closed = true :=
      (congrArg Loop.closed loop).trans closed
    exact Loop.isSilent_dropAll shut
  | begun halted =>
    have fits := (reachable.sound.answered halted).2.1
    rw [closing.frames] at fits
    cases fits

/-- No callback is left for an iteration of a silent loop. -/
theorem stepIteration_of_isSilent {world : World} (silent : world.loop.IsSilent) (left : Nat) :
    (stepIteration left world).1 = ([], .iterated (.ok ())) := by
  cases left with
  | zero => rfl
  | succ left =>
    have taken : World.onLoop (·.takeReady) world = (none, world) := by
      unfold World.onLoop
      simp only [silent.takeReady]
    simp only [stepIteration, StateM.bind_apply, taken]
    rfl

/-- A move that leaves no poll and runs no callback, in front of frames that were there before. -/
theorem polls_move {step : WorldM Move} (quiet : (step machine.holding).1.2.isCall = false)
    (few : ∀ id, ((step machine.holding).1.1.filter Frame.isStage).countP (Frame.polls id) = 0)
    (fewer : below.Sublist machine.frames) :
    (machine.move below step).signal.isCall = false ∧
      ∀ id, (machine.move below step).polls id ≤ machine.polls id := by
  refine ⟨quiet, fun id => ?_⟩
  change (((step machine.holding).1.1 ++ below).filter Frame.isStage).countP (Frame.polls id) ≤
    (machine.frames.filter Frame.isStage).countP (Frame.polls id)
  rw [List.filter_append, List.countP_append, few id, Nat.zero_add]
  exact (fewer.filter Frame.isStage).countP_le

/-- A sedate move begins no poll and runs no callback. -/
theorem polls_sedate {may : Prop} {step : WorldM Move} (sedate : MovesSedately may step)
    (fewer : below.Sublist machine.frames) :
    (machine.move below step).signal.isCall = false ∧
      ∀ id, (machine.move below step).polls id ≤ machine.polls id := by
  have apart {frames : List Frame} (plain : ∀ frame ∈ frames, frame.isPlain = true) :
      frames.filter Frame.isStage = [] := List.filter_eq_nil_iff.mpr fun frame member =>
    ne_true_of_eq_false (Frame.isStage_of_isPlain (plain frame member))
  cases sedate machine.holding with
  | plain frames quiet =>
    refine polls_move quiet (fun id => ?_) fewer
    rw [apart frames]
    rfl
  | counted allowed earlier above first plain signal =>
    refine polls_move (signal ▸ rfl) (fun id => ?_) fewer
    rw [first, List.filter_cons_of_pos rfl, apart plain]
    rfl

/-- An inert loop stays inert, and no poll begins. -/
theorem Inert.step (inert : machine.Inert) (reachable : machine.Reachable) (step : Step machine after) :
    after.Inert ∧ ∀ id, after.polls id ≤ machine.polls id := by
  obtain ⟨gone, idle, silent⟩ := reachable.kept step inert.gone inert.idle
  have poller := step.poller inert.poller
  have uncalled := Signal.isCall_eq_false inert.quiet
  have rest : after.signal.isCall = false ∧ ∀ id, after.polls id ≤ machine.polls id := by
    cases step.does with
    | settled => exact ⟨uncalled, fun id => Nat.le_refl _⟩
    | acted clean acts => exact polls_sedate (.act trivial acts uncalled) (List.Sublist.refl _)
    | @delivered frame below clean done split =>
      have fewer : below.Sublist machine.frames := split ▸ List.sublist_cons_self frame below
      by_cases iterates : ∃ left, frame = .iteration left
      · obtain ⟨left, rfl⟩ := iterates
        have takes : Frame.Takes (.iteration left) machine.signal.demand :=
          (split ▸ reachable.sound.fits : Fits _ (.iteration left :: below)).1
        have ended : (deliver machine.signal (.iteration left) machine.holding).1 =
            ([], .iterated (.ok ())) := by
          rw [takes.eq_proceed rfl done]
          exact @stepIteration_of_isSilent machine.holding inert.silent left
        refine polls_move ?_ (fun id => ?_) fewer
        · rw [ended]
          rfl
        · rw [ended]
          rfl
      · exact polls_sedate
          (.deliver done (fun left same => iterates ⟨left, same⟩) fun _ => trivial) fewer
    | begun halted instruction =>
      have frames := (reachable.sound.answered halted).2.1
      obtain ⟨quiet, fewer⟩ := @polls_sedate ⟨(Scenario.takeLog machine.world).2, [], .proceed⟩ [] _
        (beginInstruction .outside instruction) (.beginInstruction trivial .outside instruction)
        (List.Sublist.refl _)
      exact ⟨quiet, fun id => Nat.le_trans (fewer id) (Nat.zero_le _)⟩
  exact ⟨⟨silent inert.silent, gone, idle, poller, Signal.ne_call_of_isCall rest.1⟩, rest.2⟩

/-- A loop that is closed is inert, or it is just being closed. -/
theorem Reachable.closed (reachable : machine.Reachable) (closed : machine.world.loop.closed = true) :
    machine.Inert ∨ ∃ value below, IsClosing value below machine := by
  induction reachable with
  | initial initial =>
    rw [initial.fitted.2.opened] at closed
    cases closed
  | @step before after earlier step _ ih =>
    have reachable : before.Reachable := earlier
    rcases reachable.sound.closesAtMost step with kept | begins
    · have before_closed : before.world.loop.closed = true :=
        (congrArg Fittings.closed kept).symm.trans closed
      rcases ih before_closed with inert | ⟨value, below, closing⟩
      · exact Or.inl (inert.step reachable step).1
      · rcases closing.step reachable step with closing | ⟨inert, -⟩
        · exact Or.inr ⟨value, below, closing⟩
        · exact Or.inl inert
    · obtain ⟨value, below, frames⟩ := begins.frames
      exact Or.inr ⟨value, below, begins.gone, begins.idle, frames, begins.signal⟩

/-! ## Calls -/

/-- Nothing has changed but that a call from outside takes what was written down. -/
def Untouched (machine after : Machine) : Prop :=
  after.world = { machine.outset with held := after.world.held }

/-- A running loop refuses to be closed, and a closed one has nothing left to do. -/
theorem beginClose_eq (refusal success : Value) (world : World) : beginClose refusal success world =
    if world.loop.running then (([], .answer refusal), world)
    else if world.loop.closed then (([], .answer success), world)
    else (([.closing success], .proceed), (World.beginClose world).2) := by
  by_cases running : world.loop.running = true
  · rw [if_pos running]
    exact congrFun (if_pos running) world
  · rw [if_neg running]
    by_cases closed : world.loop.closed = true
    · rw [if_pos closed]
      exact congrFun ((if_neg running).trans (if_pos closed)) world
    · rw [if_neg closed]
      exact congrFun ((if_neg running).trans (if_neg closed)) world

/-- What a call that closes the loop does. -/
theorem Calls.close (calls : Calls (.loop .close) machine after) : ∃ world below,
    world = { machine.outset with held := world.held } ∧
      let (move, reached) := beginClose (World.errorValue .closeWhileRunning) (.ok .null) world
      after = ⟨reached, move.1 ++ below, move.2⟩ := by
  cases calls with
  | outside halted =>
    let start : Machine := ⟨(Scenario.takeLog machine.world).2, [], .proceed⟩
    rw [outset_of_halted halted]
    exact ⟨start.holding, [], rfl, rfl⟩
  | script actor rest clean signal moves =>
    have acts : act? machine.signal = some (stepScript actor (.loop .close :: rest)) := by
      rw [signal]
      rfl
    obtain rfl := Option.some.inj (moves.symm.trans (next_of_act clean acts))
    rw [outset_of_moves moves]
    refine ⟨machine.holding, .script actor (Instruction.loop .close).label rest :: machine.frames, rfl, ?_⟩
    change Machine.mk _ ((_ ++ [_]) ++ _) _ = _
    rw [List.append_assoc]
    rfl
  | program task last rest clean signal moves =>
    have acts : act? machine.signal = some (stepProgram task last (.loop .close :: rest)) := by
      rw [signal]
      rfl
    obtain rfl := Option.some.inj (moves.symm.trans (next_of_act clean acts))
    rw [outset_of_moves moves]
    refine ⟨machine.holding, .program task (Instruction.loop .close).label rest :: machine.frames, rfl, ?_⟩
    change Machine.mk _ ((_ ++ [_]) ++ _) _ = _
    rw [List.append_assoc]
    rfl

/-- What becomes of the loop when it is closed: a running loop refuses, a closed one has nothing left to
do, and otherwise every operation that waits in the engine is cancelled. -/
structure Closes (machine after : Machine) : Prop where
  /-- A running loop refuses, and nothing changes. -/
  refuses : machine.world.loop.running = true →
    after.signal = .answer (World.errorValue .closeWhileRunning) ∧ Untouched machine after
  /-- To close a closed loop once more changes nothing. -/
  again : machine.world.loop.closed = true →
    after.signal = .answer (.ok .null) ∧ Untouched machine after
  /-- Otherwise the loop begins to close. -/
  begins : machine.world.loop.closed = false → machine.world.loop.running = false →
    ∃ below, IsClosing (.ok .null) below after
  /-- Whatever waits in the engine is cancelled. -/
  cancels : machine.world.loop.closed = false → machine.world.loop.running = false →
    ∀ {engine operation}, machine.world.completer = .engine engine → operation ∈ engine.operations →
      machine.world.loop.futureState operation.future = .pending →
        after.world.loop.futureState operation.future = .cancelled

/-- The world at the outset of a step has the loop and the completer of the state. -/
theorem loop_outset (machine : Machine) : machine.outset.loop = machine.world.loop ∧
    machine.outset.completer = machine.world.completer := by
  rw [outset_eq]
  exact ⟨rfl, rfl⟩

/-- What a call that closes the loop brings about. -/
theorem Calls.closes (calls : Calls (.loop .close) machine after) (reachable : machine.Reachable) :
    Closes machine after := by
  obtain ⟨world, below, same, ends⟩ := calls.close
  obtain ⟨loop, completer⟩ := loop_outset machine
  have loop : world.loop = machine.world.loop := by
    rw [same]
    exact loop
  have completer : world.completer = machine.world.completer := by
    rw [same]
    exact completer
  have idle (closed : machine.world.loop.closed = true) : machine.world.loop.running = false := by
    rcases reachable.closed closed with inert | ⟨value, below, closing⟩
    · exact inert.idle
    · exact closing.idle
  rw [beginClose_eq, loop] at ends
  refine ⟨fun running => ?_, fun closed => ?_, fun opened idle => ?_, fun opened idle => ?_⟩
  · rw [if_pos running] at ends
    subst ends
    exact ⟨rfl, same⟩
  · rw [if_neg (Bool.eq_false_iff.mp (idle closed)), if_pos closed] at ends
    subst ends
    exact ⟨rfl, same⟩
  · rw [if_neg (Bool.eq_false_iff.mp idle), if_neg (Bool.eq_false_iff.mp opened)] at ends
    subst ends
    have shut : (World.beginClose world).2.loop.closed = true := World.closed_beginClose world
    rcases reachable.sound.closesAtMost calls.step with kept | begins
    · have same : (World.beginClose world).2.loop.closed = machine.world.loop.closed :=
        congrArg Fittings.closed kept
      rw [shut, opened] at same
      cases same
    · exact ⟨below, begins.gone, begins.idle, rfl, rfl⟩
  · rw [if_neg (Bool.eq_false_iff.mp idle), if_neg (Bool.eq_false_iff.mp opened)] at ends
    subst ends
    intro engine operation found waits pending
    have within := reachable.sound.settled.orderly.within
    have keyed := within.keyed
    have bound : operation.future < machine.world.loop.futures.size := by
      refine (within.completer operation.future ?_).2
      rw [found]
      exact List.mem_map_of_mem waits
    rw [found] at keyed
    refine World.futureState_beginClose keyed (completer.trans found) waits (loop ▸ bound) ?_
    unfold Loop.isDone
    rw [loop, pending]
    rfl

/-! ## The descriptors of a loop -/

/-- What a loop owns from when it is built until it is closed: both ends of its own pipe, and a poller if
the engine completes its operations. -/
def IsFitting (machine : Machine) : Owner → Prop
  | .socket id => ∃ pipe, machine.world.pipe = some pipe ∧ (id = pipe.reader ∨ id = pipe.writer)
  | .engine => ∃ engine, machine.world.completer = .engine engine

/-- Each of them has a descriptor when the loop was just built. -/
theorem Initial.owns (initial : Initial start) {owner : Owner} (fitting : start.IsFitting owner) :
    ∃ fd, start.world.owned? owner = some fd := by
  obtain ⟨-, ⟨pipe, found, -, reader, writer⟩, polls⟩ := initial.fitted.2
  cases owner with
  | engine =>
    obtain ⟨engine, completer⟩ := fitting
    rw [completer] at polls
    obtain ⟨poller, there⟩ := polls
    exact ⟨poller, (World.Trades.poller?_of_engine completer).trans there⟩
  | socket id =>
    obtain ⟨other, also, which⟩ := fitting
    cases found.symm.trans also
    rcases which with rfl | rfl
    · exact ⟨_, World.owned?_of_isOpen reader⟩
    · exact ⟨_, World.owned?_of_isOpen writer⟩

/-- The pipe of a loop that is open is the one with which it was built. Both ends of that are closed with
the loop. -/
theorem History.pipe {closings : List Closing} (initial : Initial start)
    (history : History start closings machine) {pipe : Pipe} (found : start.world.pipe = some pipe) :
    (machine.world.loop.closed = false → machine.world.pipe = some pipe) ∧
      (machine.world.loop.closed = true →
        machine.world.isOpen pipe.reader = false ∧ machine.world.isOpen pipe.writer = false) := by
  have visits : start.Reachable := .initial initial trivial
  obtain ⟨opened, ⟨other, also, -, reader, writer⟩, -⟩ := initial.fitted.2
  cases also.symm.trans found
  induction history with
  | refl =>
    refine ⟨fun _ => found, fun closed => ?_⟩
    rw [opened] at closed
    cases closed
  | @tail _ _ before after earlier step deals ih =>
    have sound := (visits.onward earlier.onward).reachable.sound
    rcases sound.closesAtMost step with kept | begins
    · have same : after.world.loop.closed = before.world.loop.closed := congrArg Fittings.closed kept
      refine ⟨fun opened => ?_, fun closed => ?_⟩
      · exact (congrArg Fittings.pipe kept).trans (ih.1 (same.symm.trans opened))
      · have gone {id : SocketId} (has : start.world.Has (.socket id))
            (shut : before.world.isOpen id = false) : after.world.isOpen id = false := by
          have later : History before _ after := .tail .refl step deals
          have fares := (later.fares (earlier.fares has).1).2
          rw [World.owned?_of_closed shut] at fares
          exact World.isOpen_of_owned? fares.of_none.2
        obtain ⟨first, second⟩ := ih.2 (same.symm.trans closed)
        exact ⟨gone (World.has_of_isOpen reader) first, gone (World.has_of_isOpen writer) second⟩
    · have closed : after.world.loop.closed = true := congrArg Fittings.closed begins.gone
      refine ⟨fun opened => ?_, fun _ => begins.pipe pipe (ih.1 begins.opened)⟩
      rw [closed] at opened
      cases opened

/-- Whatever a loop owned when it was built is closed by exactly one call, and that when it is inert. -/
theorem Inert.losses {closings : List Closing} (inert : machine.Inert) (initial : Initial start)
    (history : History start closings machine) {owner : Owner} (fitting : start.IsFitting owner) :
    ∃ fd, start.world.Owns owner fd ∧ owner.losses closings = [fd] := by
  obtain ⟨fd, found⟩ := initial.owns fitting
  have owns := World.owns_of_owned? found
  have fares := (history.fares owns.has).2
  have gone : machine.world.owned? owner = none := by
    cases owner with
    | engine => exact inert.poller
    | socket id =>
      obtain ⟨pipe, there, which⟩ := fitting
      obtain ⟨reader, writer⟩ := (history.pipe initial there).2 inert.silent.closed
      rcases which with rfl | rfl
      · exact World.owned?_of_closed reader
      · exact World.owned?_of_closed writer
  rw [found, gone] at fares
  exact ⟨fd, owns, fares.lost⟩

/-! ## Every state of a run -/

/-- A loop that is closed is closed for good: so it is in every state of a run. -/
structure ClosesForGood (start machine : Machine) : Prop where
  /-- What a call that closes the loop brings about. -/
  calls : ∀ {after}, Calls (.loop .close) machine after → Closes machine after
  /-- A future that is cancelled stays cancelled. -/
  cancelled : ∀ {after future}, Onward (fun _ => True) machine after →
    machine.world.loop.futureState future = .cancelled →
      after.world.loop.futureState future = .cancelled
  /-- While the loop is being closed only what was given up is looked at, until there is an answer. -/
  returns : ∀ {value below after}, IsClosing value below machine → Step machine after →
    IsClosing value below after ∨ after.Inert ∧ after.signal = .answer value ∧ after.frames = below
  /-- Every other state of a closed loop is inert. -/
  closed : machine.world.loop.closed = true →
    machine.Inert ∨ ∃ value below, IsClosing value below machine
  /-- An inert loop stays inert whatever it is asked for, and no task is polled any more. -/
  stays : ∀ {after}, machine.Inert → Onward (fun _ => True) machine after →
    after.Inert ∧ ∀ id, after.polls id ≤ machine.polls id
  /-- Every operation fails. -/
  refuses : machine.Inert → ∀ socket subject, machine.world.Refuses socket subject
  /-- The loop was built with a pipe of its own that has two ends. -/
  pipe : ∃ pipe, start.world.pipe = some pipe ∧ pipe.reader ≠ pipe.writer
  /-- The run up to here comes with its close calls. -/
  history : ∃ closings, History start closings machine
  /-- Exactly one of them is about each end of the pipe and about the poller when the loop is inert. -/
  losses : ∀ {closings owner}, machine.Inert → History start closings machine →
    start.IsFitting owner → ∃ fd, start.world.Owns owner fd ∧ owner.losses closings = [fd]

/-- Every loop that is closed is closed for good. -/
theorem closesForGood (initial : Initial start) (onward : Onward (fun _ => True) start machine) :
    ClosesForGood start machine := by
  have reachable : machine.Reachable := Visits.onward (.initial initial trivial) onward
  obtain ⟨-, ⟨pipe, found, apart, -⟩, -⟩ := initial.fitted.2
  refine ⟨fun calls => calls.closes reachable, fun later cancelled => ?_,
    fun closing step => closing.step reachable step, reachable.closed, fun inert later => ?_,
    fun inert => World.refuses (congrArg Fittings.submitting inert.gone), ⟨pipe, found, apart⟩,
    History.exists_of_onward onward, fun inert history => inert.losses initial history⟩
  · induction later with
    | refl => exact cancelled
    | tail earlier last ih =>
      have visits : Visits (fun _ => True) machine := reachable
      have before := (visits.onward earlier).reachable
      obtain ⟨aspects, passes⟩ := before.passes last.1
      exact (World.Course.changes_append passes before.sound.settled).staysCancelled ih
  · induction later with
    | refl => exact ⟨inert, fun id => Nat.le_refl _⟩
    | tail earlier last ih =>
      have visits : Visits (fun _ => True) machine := reachable
      obtain ⟨kept, fewer⟩ := ih.1.step (visits.onward earlier).reachable last.1
      exact ⟨kept, fun id => Nat.le_trans (fewer id) (ih.2 id)⟩

/-- A callback closed the loop while another one was ready and a receive was pending. Later another receive
was submitted. -/
def shutdown : Machine := traced.drive (fun _ => true) 60
  [.socket (.pair "a" "b"), .socket (.receive "a" 9 "waits"), .callSoon "closes" [.loop .close],
    .callSoon "other" [], .runOnce 1, .socket (.receive "b" 9 "late")]

/-- The loop is inert: the pending receive is cancelled, the later one has failed, and only the two sockets
are open. -/
theorem closesForGood_shutdown : Initial traced ∧ Onward (fun _ => True) traced shutdown ∧
    ClosesForGood traced shutdown ∧ shutdown.Inert ∧
      shutdown.world.loop.futureState 0 = .cancelled ∧ shutdown.world.loop.futureState 2 = .finished ∧
        shutdown.world.host.kernel.descriptors = [103, 104] := by
  have built : Initial traced := .built (Prod.ext rfl rfl)
  have onward : Onward (fun _ => True) traced shutdown := (onward_drive _ 60 traced _).mono fun _ _ => trivial
  have good := closesForGood built onward
  have inert : shutdown.Inert := by
    rcases good.closed (by decide +kernel) with inert | ⟨value, below, closing⟩
    · exact inert
    · have none : shutdown.frames.isEmpty = true := by decide +kernel
      rw [closing.frames] at none
      cases none
  exact ⟨built, onward, good, inert, by decide +kernel, by decide +kernel, by decide +kernel⟩

end Machine

end EventLoop

import EventLoop.Proofs.Machine.Overseeing
import EventLoop.Proofs.Transport.Noting

/-!
# Dealings with transports

Few steps of a run deal with transports: a callback about a transport is called, a frame goes on that waited
while a protocol was told something, or an instruction is done that is about a transport. All other steps
leave transports alone. What a step has to do with transports is said here once.
-/
namespace EventLoop

open World (openTo moving)

namespace Machine

variable {machine after : Machine} {strict : Prop}

/-- Whether a state asks nothing of any transport. -/
def IsDetached (machine : Machine) : Prop := machine.world.loop.dropped = [] →
  (∀ callback, machine.signal = .call callback → callback.transport? = none) ∧
    (machine.signal = .proceed → ∀ id below, machine.frames ≠ .afterData id :: below)

/-- What a step of a run has to do with transports. -/
inductive Handles (machine : Machine) : Machine → Prop
  /-- Nothing. -/
  | aside {after : Machine} {aspects : List Aspect} (passes : machine.Passes aspects after)
      (apart : .traffic ∉ aspects) (quiet : machine.IsDetached) : Handles machine after
  /-- A callback about a transport is called. -/
  | called {callback : Callback} {id : TransportId} (clean : machine.world.loop.dropped = [])
      (signal : machine.signal = .call callback) (owner : callback.transport? = some id) :
      Handles machine (machine.move machine.frames (runCallback callback))
  /-- A protocol was handed data, and its transport goes on to read. -/
  | resumes {id : TransportId} {below : List Frame} (clean : machine.world.loop.dropped = [])
      (proceeds : machine.signal = .proceed) (split : machine.frames = .afterData id :: below) :
      Handles machine (machine.move below (proceedWith (.afterData id)))
  /-- A protocol was told that the stream has ended, and its transport closes. -/
  | closes {id : TransportId} {below : List Frame} (quiet : machine.IsDetached) :
      Handles machine (machine.move below (proceedWith (.afterEnd id)))
  /-- A protocol was told that the connection is lost, and its transport closes the socket. -/
  | shuts {id : TransportId} {below : List Frame} (quiet : machine.IsDetached) :
      Handles machine (machine.move below (proceedWith (.afterLoss id)))
  /-- A script, a program or someone outside deals with a transport. -/
  | instructed {after : Machine} {start : World} {held : List Ref} {protocol : Option String}
      {what : Script.TransportInstruction} (amid : machine.world.Amid start)
      (transports : start.transports = machine.world.transports)
      (within : start.Within (openTo held) 0)
      (reached : after.world = (World.doTransport protocol what start).2) (quiet : machine.IsDetached) :
      Handles machine after

/-- The world in which a machine makes a move differs in what is held at most. -/
theorem amid_holding (machine : Machine) : machine.world.Amid machine.holding := ⟨_, _, _, rfl⟩

/-- A signal that runs no callback about a transport asks nothing of any. -/
theorem IsDetached.of_act {step : WorldM Move} (acts : act? machine.signal = some step)
    (apart : ∀ callback, machine.signal = .call callback → callback.transport? = none) :
    machine.IsDetached := fun _ => ⟨apart, fun proceeds => by
  rw [proceeds] at acts
  cases acts⟩

/-- A frame asks nothing of a transport unless a protocol was handed data. -/
theorem IsDetached.of_done {frame : Frame} {below : List Frame} (done : act? machine.signal = none)
    (split : machine.frames = frame :: below) (other : ∀ id, frame ≠ .afterData id) :
    machine.IsDetached := by
  refine fun _ => ⟨fun callback called => ?_, fun _ id rest same => ?_⟩
  · rw [called] at done
    cases done
  · exact other id (List.cons.inj (split.symm.trans same)).1

/-- Nothing is asked of a transport while what was given up is looked at. -/
theorem IsDetached.of_dropped {ref : Ref} {refs : List Ref} (dropped : machine.world.loop.dropped = ref :: refs) :
    machine.IsDetached := fun clean => by
  rw [clean] at dropped
  cases dropped

/-- Nothing is asked of a transport when an instruction from outside is begun. -/
theorem Sound.isDetached (sound : machine.Sound strict) (halted : machine.next = none) : machine.IsDetached := by
  obtain ⟨-, -, value, answer⟩ := sound.answered halted
  exact fun _ => ⟨fun callback called => (nomatch answer.symm.trans called),
    fun proceeds => nomatch answer.symm.trans proceeds⟩

/-- The first instruction of a body deals with a transport. -/
theorem Sound.handles_body (sound : machine.Sound strict) {frame : Frame} {runner : Runner}
    {what : Script.TransportInstruction} (quiet : machine.IsDetached) :
    machine.Handles (machine.move machine.frames (do
      let (frames, signal) ← beginInstruction runner (.transport what)
      return (frames ++ [frame], signal))) := by
  cases runner with
  | outside | script | program =>
    exact .instructed machine.amid_holding rfl sound.within rfl quiet

/-- What a signal that asks for something to be done has to do with transports. -/
theorem Sound.handles_act (sound : machine.Sound strict) {step : WorldM Move}
    (clean : machine.world.loop.dropped = []) (acts : act? machine.signal = some step)
    (passes : machine.Passes (machine.signal.aspects machine.world.loop)
      (machine.move machine.frames step)) :
    machine.Handles (machine.move machine.frames step) := by
  rcases act_cases machine.world.loop acts with ⟨apart, calls⟩ | ⟨callback, id, signal, owner, rfl⟩ |
    ⟨runner, what, frame, uncalled, -, rfl⟩
  · exact .aside passes (Signal.of_base isApart_turning apart : IsApart _).1 (.of_act acts calls)
  · exact .called clean signal owner
  · exact sound.handles_body
      (.of_act acts fun callback called => absurd called (Signal.ne_call_of_isCall uncalled callback))

/-- What a frame that goes on has to do with transports. -/
theorem Sound.handles_deliver (sound : machine.Sound strict) {frame : Frame} {below : List Frame}
    (clean : machine.world.loop.dropped = []) (done : act? machine.signal = none)
    (split : machine.frames = frame :: below)
    (passes : machine.Passes frame.aspects (machine.move below (Machine.deliver machine.signal frame))) :
    machine.Handles (machine.move below (Machine.deliver machine.signal frame)) := by
  have proceeds (only : frame.kinds = [.proceed]) : machine.signal = .proceed :=
    (split ▸ sound.fits).1.eq_proceed only done
  have quiet (other : ∀ id, frame ≠ .afterData id) : machine.IsDetached := .of_done done split other
  have aside (other : ∀ id, frame ≠ .afterData id) (apart : .traffic ∉ frame.aspects) :
      machine.Handles (machine.move below (Machine.deliver machine.signal frame)) :=
    .aside passes apart (quiet other)
  cases frame with
  | afterData =>
    have signal := proceeds rfl
    rw [signal]
    exact .resumes clean signal split
  | afterEnd =>
    rw [proceeds rfl]
    exact .closes (quiet nofun)
  | afterLoss =>
    rw [proceeds rfl]
    exact .shuts (quiet nofun)
  | repeated | running => exact aside nofun isApart_iterating.1
  | poll => exact aside nofun isApart_polling.1
  | iteration => exact aside nofun (by decide : Aspect.traffic ∉ (.taking :: moving : List Aspect))
  | closing value => exact aside nofun (by decide : Aspect.traffic ∉ (.closing :: moving : List Aspect))
  | script | program | letGo | holding | rounds | joining | selecting => exact aside nofun isApart_moving.1

/-- What a step of a run has to do with transports. -/
theorem Sound.handles (sound : machine.Sound False) (step : Step machine after) : machine.Handles after := by
  cases step.does with
  | @settled ref refs dropped =>
    exact .aside (sound.settle dropped fun asked => asked.elim).2 (isApart_settling ref).1
      (.of_dropped dropped)
  | acted clean acts =>
    exact sound.handles_act clean acts (sound.act acts fun asked => asked.elim).2
  | delivered clean done split =>
    exact sound.handles_deliver clean done split (sound.deliver clean done split fun asked => asked.elim).2
  | begun halted instruction =>
    have quiet := sound.isDetached halted
    rcases instruction.isApart machine.world.loop with apart | ⟨what, rfl⟩
    · exact .aside (sound.instructed halted instruction).2 apart.1 quiet
    · let start : Machine := ⟨(Scenario.takeLog machine.world).2, [], .proceed⟩
      have amid : machine.world.Amid start.holding := ⟨_, _, _, rfl⟩
      exact .instructed amid rfl (sound.within_outside halted) rfl quiet

/-! ## Following transports through a step -/

variable {σ : Type} {manner : Net.Manner σ} {step? : Option σ} {id : TransportId} {below : List Frame}

/-- A step that does not deal with transports leaves each of them as it is. -/
theorem Passes.follows {aspects : List Aspect} (passes : machine.Passes aspects after)
    (sound : machine.Sound strict) (apart : .traffic ∉ aspects) :
    World.Follows manner none id machine.world after.world := by
  have aside : Aspect.traffic ∉ moving := by decide
  exact (World.Course.changes_append passes sound.settled).follows fun member =>
    (List.mem_append.mp member).elim apart aside

/-- What a move of the machine does to a transport. -/
theorem Sound.follows (sound : machine.Sound strict) {step : WorldM Move}
    (follows : World.Following manner machine.held step? id machine.holding step) :
    World.Follows manner step? id machine.world (machine.move below step).world :=
  have reached := (follows sound.within).2
  ⟨reached.size, reached.known, reached.leads⟩

end Machine

end EventLoop

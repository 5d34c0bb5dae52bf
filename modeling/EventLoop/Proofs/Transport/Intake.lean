import EventLoop.Proofs.Transport.Following
import EventLoop.Proofs.Transport.Reading

/-!
# What transports read in steps of the world

Only two things that a step of the world can do have to do with what a transport reads: a receive is
submitted, and the protocol is told of what arrived. All other changes leave it alone, whichever transport
they are about.
-/
namespace EventLoop

open Net (Transport Effect ReadStep intake)

/-- Transports are followed in what they read. One that was opened in between has read nothing. -/
def Net.reading : Net.Manner ReadStep where
  leads step? before after := before.Reads step? after
  fresh transport := intake transport.history = [] ∧ transport.reading = none
  refl := .refl
  trans first second := first.trans second
  since first second := first.since second
  opened _ _ _ := ⟨rfl, rfl⟩
  lasts := by
    rintro first last ⟨fresh, idle⟩ reads
    refine ⟨?_, (reads.kept rfl).elim (fun same => same.trans idle) And.left⟩
    rw [reads.intake, fresh]
    rfl

/-- An effect other than a receive has nothing to do with what its transport reads. -/
theorem Net.Transport.Reads.applied {effect : Effect} (aside : effect.isReceive = false)
    (future : FutureId) (transport : Transport) :
    transport.Reads none (effect.applied future transport) := by
  cases effect with
  | receive => cases aside
  | send | announce => exact .noted rfl rfl (fun active => active) rfl
  | cancel | warnLostWrites | reportFatal => exact .refl transport

namespace World

variable {α : Type} {held : List Ref} {id other : TransportId} {step? : Option ReadStep}
variable {before after world : World} {transport : Transport}

/-- What a transport reads on the way from one world to a later one. -/
abbrev Reads (step? : Option ReadStep) (id : TransportId) (before after : World) : Prop :=
  Follows Net.reading step? id before after

/-- A transport that is there afterwards was there before, or it was opened and has read nothing. -/
theorem Reads.reads (reads : Reads step? id before after) {later : Transport}
    (found : after.transports.get? id = some (some later)) :
    (∃ transport, before.transports.get? id = some (some transport) ∧ transport.Reads step? later) ∨
      before.transports.size ≤ id ∧ intake later.history = [] ∧ later.reading = none :=
  reads.leads found

/-- What a transport reads in a step from a world within bounds. -/
abbrev Receives (held : List Ref) (step? : Option ReadStep) (id : TransportId) (world : World)
    (step : WorldM α) : Prop :=
  Following Net.reading held step? id world step

namespace Receives

/-- A transition that drifts reads nothing. -/
theorem advance {step : Transport → List Effect × Transport}
    (yields : ∀ transport : Transport, transport.Yields (step transport).1 (step transport).2)
    (drifts : ∀ transport : Transport, transport.Drifts (step transport).1 (step transport).2)
    (reads : ∀ transport : Transport, transport.Reads none (step transport).2) :
    Receives held none id world (advance other step) :=
  Following.advance yields (fun _ transport _ => reads transport) fun _ transport _ effect member =>
    .applied (eq_false_of_ne_true (List.countP_eq_zero.mp (drifts transport).receives effect member))

/-- Data is written. -/
theorem write (data : Bytes) : Receives held none id world (write other data) :=
  .read rfl (advance (fun _ => .write _ _) (fun _ => .write _ _) fun transport => .write transport _ _)

/-- Data is written back for a protocol. -/
theorem echo (protocol : String) (data : Bytes) : Receives held none id world (echo protocol data) := by
  refine .following (Calm.named? _ _) nofun fun id? _ _ _ => ?_
  split
  · exact write data
  · exact .pure

/-- A send has ended. -/
theorem sendEnded (future : FutureId) : Receives held none id world (World.sendEnded other future) :=
  .read rfl (advance (fun _ => .sendEnded _) (fun _ => .sendEnded _) fun transport => .sendEnded transport _)

/-- What scripts do to transports. -/
theorem doTransport (protocol : Option String) (instruction : Script.TransportInstruction) :
    Receives held none id world (doTransport protocol instruction) := by
  have calm (still : instruction.effects ⊆ tending) :
      Receives held none id world (World.doTransport protocol instruction) :=
    .aside ((Instructions.doTransport (fun _ _ => trivial) protocol instruction).mono still)
  cases instruction with
  | write reference data => exact .onTransport fun _ _ => .bind (write data) fun _ _ => .pure
  | close reference =>
    exact .onTransport fun _ _ => .bind
      (advance (fun _ => .close) (fun _ => .close) fun transport => .close transport) fun _ _ => .pure
  | abort reference =>
    exact .onTransport fun _ _ => .bind (advance (fun _ => .forceClose none)
      (fun _ => .forceClose none) fun transport => .forceClose transport none) fun _ _ => .pure
  | closeServer | closeOnConnection => exact calm (List.Subset.refl _)
  | state | socket | serverState => exact calm (List.subset_cons_self _ _)

/-- The protocol is told something that is not about what arrived. -/
theorem tellProtocol {notice : Net.Notice} (aside : (Net.Event.told notice).isOfRead = false) :
    Receives held none id world (tellProtocol other notice) :=
  Following.tellProtocol fun _ transport _ => .tell transport aside

/-- The protocol of a transport whose connection is lost is taken. -/
theorem takeProtocol (error : Option Error) :
    Receives held none id world (takeProtocol other error) :=
  Following.takeProtocol fun _ transport _ => .connectionLost transport error

/-- The socket of a transport is closed. -/
theorem closeTransportSocket : Receives held none id world (World.closeTransportSocket other) :=
  Following.closeTransportSocket fun _ _ => .noted rfl rfl (fun active => active) rfl

/-! ### What is read -/

/-- A transport reads on if it is active. -/
theorem receiveNext {step : ReadStep} (receives : step.receives = true)
    (known : ∀ step, step? = some step → id < world.transports.size)
    (active : id = other → ∀ transport, world.transports.get? id = some (some transport) →
      step? = if transport.isActive then some step else none) (apart : id ≠ other → step? = none) :
    Receives held step? id world (World.advance other (·.receiveNext)) := by
  refine .lookUp (fun absent => .gone absent known apart) fun transport there => ?_
  dsimp only
  have set {step? : Option ReadStep} (reads : id = other → transport.Reads step? transport)
      (apart : id ≠ other → step? = none) :
      Receives held step? id world (setTransport other transport) :=
    .turned there (List.Subset.refl _) rfl reads apart
  cases reading : transport.isActive with
  | false =>
    have idle : step? = none := by
      by_cases same : id = other
      · rw [active same transport (same ▸ there), reading]
        rfl
      · exact apart same
    have nothing : transport.receiveNext = ([], transport) := if_neg (ne_true_of_eq_false reading)
    rw [idle, nothing]
    exact .bind (set (fun _ => .refl transport) fun _ => rfl) fun _ _ => .bind .pure fun _ _ => .pure
  | true =>
    have asks : transport.receiveNext = ([.receive], transport) := if_pos reading
    rw [asks]
    refine .since (set (fun _ => .refl transport) fun _ => rfl) known fun _ reached size => ?_
    refine .andThen (.andThen (.receive (fun step same => Nat.lt_of_lt_of_le (known step same) size)
      (fun same future before => ?_) apart) fun _ _ => .pure) fun _ _ => .pure
    rw [active same transport (same ▸ there), reading]
    exact .submits before receives future

end Receives

end World

end EventLoop

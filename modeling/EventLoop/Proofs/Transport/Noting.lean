import EventLoop.Proofs.Transport.Drift
import EventLoop.Proofs.Transport.Following

/-!
# What the history of a transport is backed by

The history of a transport says what happened to it, and what it says really happened: an event that tells of
a submission is taken down in a step that hands just this operation to the completer, and data is taken down as
written in a step that writes it. Here this is shown of the steps of a world, each of which takes down
nothing that it does not bring about.
-/
namespace EventLoop

namespace Net

/-- A transport takes down only events that a law allows, and it keeps its socket. -/
structure Transport.Notes (law : Event → Prop) (before after : Transport) : Prop where
  /-- The socket and the peer's address stay. -/
  line : after.line = before.line
  /-- The history goes on with such events. -/
  history : ∃ more, after.history = before.history ++ more ∧ ∀ event ∈ more, law event

namespace Transport.Notes

variable {law : Event → Prop} {transport middle after : Transport}

/-- Nothing is taken down. -/
theorem of_eq (line : after.line = transport.line) (history : after.history = transport.history) :
    transport.Notes law after :=
  ⟨line, [], by rw [history, List.append_nil], fun _ member => absurd member List.not_mem_nil⟩

/-- Nothing happens. -/
theorem refl (transport : Transport) : transport.Notes law transport := of_eq rfl rfl

/-- One event is taken down. -/
theorem noted {event : Event} (line : after.line = transport.line)
    (history : after.history = transport.history ++ [event]) (allowed : law event) :
    transport.Notes law after :=
  ⟨line, [event], history, fun _ member => List.mem_singleton.mp member ▸ allowed⟩

/-- One after another. -/
theorem trans (first : transport.Notes law middle) (second : middle.Notes law after) :
    transport.Notes law after := by
  obtain ⟨earlier, begun, before⟩ := first.history
  obtain ⟨later, ended, rest⟩ := second.history
  refine ⟨second.line.trans first.line, earlier ++ later, ?_, fun event member => ?_⟩
  · rw [ended, begun, List.append_assoc]
  · exact (List.mem_append.mp member).elim (before event) (rest event)

/-- The protocol is told something if it still listens. -/
theorem tell {notice : Notice} (told : transport.protocol.isSome = true → law (.told notice)) :
    transport.Notes law (transport.tell notice) := by
  unfold Transport.tell
  split
  · rename_i listens
    exact noted rfl rfl (told listens)
  · exact refl transport

/-- The loss of the connection is told if the protocol still listens. -/
theorem connectionLost {error : Option Error}
    (told : transport.protocol.isSome = true → law (.told (.lost error))) :
    transport.Notes law (transport.connectionLost error) :=
  (tell told).trans (of_eq rfl rfl)

/-- The announcement of a loss is left to the effect. -/
theorem announceLoss (error : Option Error) : transport.Notes law (transport.announceLoss error).2 := by
  unfold Transport.announceLoss
  split
  · exact refl transport
  · exact of_eq rfl rfl

/-- The submission of a send is left to the effect. -/
theorem sendNext (transport : Transport) : transport.Notes law transport.sendNext.2 := by
  unfold Transport.sendNext
  split
  · split
    · exact announceLoss none
    · exact refl transport
  · exact of_eq rfl rfl

/-- Data is written. -/
theorem write {data : Bytes} (threshold : Nat) (written : law (.written data transport.isActive)) :
    transport.Notes law (transport.write data threshold).2 := by
  have begun : transport.Notes law (transport.note (.written data transport.isActive)) :=
    noted rfl rfl written
  have waits : transport.Notes law { transport.note (.written data transport.isActive) with
      buffer := transport.buffer ++ data } := noted rfl rfl written
  unfold Transport.write
  dsimp only
  split
  · exact begun
  · split
    · exact noted rfl rfl written
    · split
      · exact waits
      · exact waits.trans (sendNext _)

/-- The transport begins to close. -/
theorem close (closing : law .closing) : transport.Notes law transport.close.2 := by
  have begun : transport.Notes law
      { transport.note .closing with status := .closing, lost := transport.lost + 1 } :=
    noted rfl rfl closing
  unfold Transport.close
  split
  · dsimp only
    split
    · exact begun.trans (announceLoss none)
    · exact begun
  · exact refl transport

/-- The transport is closed at once. -/
theorem forceClose (discarded : law .discarded) (error : Option Error) :
    transport.Notes law (transport.forceClose error).2 := by
  cases announced : transport.announced with
  | true =>
    rw [forceClose_announced announced]
    exact refl transport
  | false =>
    have begun : transport.Notes law transport.beginClosing := by
      unfold beginClosing
      split
      · exact of_eq rfl rfl
      · exact refl transport
    rw [forceClose_eq announced]
    exact begun.trans (noted rfl rfl discarded)

/-- A receive has failed. -/
theorem receiveFailed (discarded : law .discarded) (error : Error) :
    transport.Notes law (transport.receiveFailed error).2 := by
  unfold Transport.receiveFailed
  split
  · exact refl transport
  · split
    · exact refl transport
    · split
      · exact forceClose discarded (some error)
      · exact forceClose discarded (some error)

/-- A send has ended. -/
theorem sendEnded {error : Option Error} (sent : law (.sent error)) (discarded : law .discarded) :
    transport.Notes law (transport.sendEnded error).2 := by
  have begun : transport.Notes law { transport.note (.sent error) with writing := none } :=
    noted rfl rfl sent
  cases error with
  | none => exact begun.trans (sendNext _)
  | some error =>
    refine begun.trans ?_
    change Notes law _ (Transport.sendFailed _ error).2
    unfold Transport.sendFailed
    split
    · exact refl _
    · split
      · exact forceClose discarded none
      · split
        · exact forceClose discarded (some error)
        · exact forceClose discarded (some error)

/-- A receive has ended; what the protocol is to be told is left to others. -/
theorem receiveEnded (discarded : law .discarded) (outcome : Except Error Bytes) :
    transport.Notes law (transport.receiveEnded outcome).2.2 := by
  have emptied : transport.Notes law { transport with reading := none } := of_eq rfl rfl
  unfold Transport.receiveEnded
  cases outcome with
  | error error => exact emptied.trans (receiveFailed discarded error)
  | ok data =>
    dsimp only
    split
    · exact emptied
    · split
      · exact emptied
      · exact emptied

/-- If no event is allowed, nothing is taken down. -/
theorem history_eq (notes : transport.Notes (fun _ => False) after) : after.history = transport.history := by
  obtain ⟨more, goes, none⟩ := notes.history
  rw [goes, List.eq_nil_iff_forall_not_mem.mpr none, List.append_nil]

end Transport.Notes

/-- When data is written, the write alone is taken down. -/
theorem Transport.history_write (transport : Transport) (data : Bytes) (threshold : Nat) :
    (transport.write data threshold).2.history =
      transport.history ++ [.written data transport.isActive] := by
  unfold Transport.write
  dsimp only
  split
  · rfl
  · split
    · rfl
    · split
      · rfl
      · exact (Notes.sendNext _).history_eq

/-- Transports are followed in what they take down. -/
def noting (law : Event → Prop) : Manner Empty where
  leads _ before after := before.Notes law after
  fresh transport := ∀ event ∈ transport.history, law event
  refl := .refl
  trans first second := first.trans second
  since first second := first.trans second
  opened _ _ _ := nofun
  lasts := by
    rintro first last fresh ⟨-, more, history, allowed⟩ event member
    rw [history] at member
    exact (List.mem_append.mp member).elim (fresh event) (allowed event)

/-! ## Submissions -/

/-- Whether an effect submits an operation. -/
def Effect.isSubmission : Effect → Bool
  | .receive | .send _ => true
  | .cancel _ | .announce _ | .warnLostWrites | .reportFatal .. => false

/-- A submission is asked for alone. -/
def Alone (effects : List Effect) : Prop :=
  ∀ effect ∈ effects, effect.isSubmission = true → effects = [effect]

namespace Alone

variable {transport : Transport}

/-- One effect is alone. -/
theorem single (effect : Effect) : Alone [effect] := fun _ member _ => by
  rw [List.mem_singleton.mp member]

/-- Effects none of which is a submission. -/
theorem of_none {effects : List Effect} (none : ∀ effect ∈ effects, effect.isSubmission = false) :
    Alone effects := fun effect member submits => by
  rw [none effect member] at submits
  cases submits

/-- Nothing is asked for when there is nothing to do. -/
theorem nil : Alone [] := of_none fun _ member => absurd member List.not_mem_nil

/-- Announcing a loss submits nothing. -/
theorem announceLoss (error : Option Error) : Alone (transport.announceLoss error).1 := by
  unfold Transport.announceLoss
  split
  · exact nil
  · exact single _

/-- What waits is sent by one submission, or a loss is announced. -/
theorem sendNext (transport : Transport) : Alone transport.sendNext.1 := by
  unfold Transport.sendNext
  split
  · split
    · exact announceLoss none
    · exact nil
  · exact single _

/-- A write submits one send at most. -/
theorem write (data : Bytes) (threshold : Nat) : Alone (transport.write data threshold).1 := by
  unfold Transport.write
  dsimp only
  split
  · exact nil
  · split
    · dsimp only
      split
      · exact single _
      · exact nil
    · split
      · exact nil
      · exact sendNext _

/-- Closing submits nothing. -/
theorem close : Alone transport.close.1 := by
  unfold Transport.close
  split
  · dsimp only
    split
    · exact announceLoss none
    · exact nil
  · exact nil

/-- To close a transport at once submits nothing. -/
theorem not_forceClose (error : Option Error) :
    ∀ effect ∈ (transport.forceClose error).1, effect.isSubmission = false := by
  cases announced : transport.announced with
  | true =>
    rw [Transport.forceClose_announced announced]
    exact fun _ member => absurd member List.not_mem_nil
  | false =>
    rw [Transport.forceClose_eq announced]
    intro effect member
    rcases List.mem_append.mp member with cancels | announces
    · obtain ⟨future, -, rfl⟩ := List.mem_map.mp cancels
      rfl
    · rw [List.mem_singleton.mp announces]
      rfl

/-- Closing by force cancels, announces and submits nothing. -/
theorem forceClose (error : Option Error) : Alone (transport.forceClose error).1 :=
  of_none (not_forceClose error)

/-- An error that ends the connection is reported first. -/
theorem fail (error : Error) : Alone (transport.fail error).1 := of_none fun effect member => by
  rcases List.mem_cons.mp member with rfl | rest
  · rfl
  · exact not_forceClose (some error) effect rest

/-- The end of a send leads to one submission at most. -/
theorem sendEnded (error : Option Error) : Alone (transport.sendEnded error).1 := by
  cases error with
  | none => exact sendNext _
  | some error =>
    change Alone (Transport.sendFailed _ error).1
    unfold Transport.sendFailed
    split
    · exact nil
    · split
      · exact forceClose none
      · split
        · exact forceClose (some error)
        · exact fail error

/-- The end of a receive submits nothing. -/
theorem receiveEnded (outcome : Except Error Bytes) : Alone (transport.receiveEnded outcome).2.1 := by
  unfold Transport.receiveEnded
  cases outcome with
  | error error =>
    change Alone (Transport.receiveFailed _ error).1
    unfold Transport.receiveFailed
    split
    · exact nil
    · split
      · exact nil
      · split
        · exact forceClose (some error)
        · exact fail error
  | ok data =>
    dsimp only
    split
    · exact nil
    · split
      · exact nil
      · exact nil

/-- The next receive is one submission. -/
theorem receiveNext : Alone transport.receiveNext.1 := by
  unfold Transport.receiveNext
  split
  · exact single _
  · exact nil

end Alone

end Net

namespace World

open Net (Transport Effect Event Alone noting)

variable {α : Type} {law : Event → Prop} {held : List Ref} {id other : TransportId}
variable {before world start : World} {transport : Transport}

/-- A world differs from another one at most in what is held, in its transports and in its journal. -/
def Amid (world start : World) : Prop :=
  ∃ held transports journal,
    start = { world with held, transports, host := { world.host with journal } }

namespace Amid

/-- A world differs in nothing from itself. -/
theorem refl (world : World) : world.Amid world := ⟨_, _, _, rfl⟩

/-- What differs little from a world that differs little from another one differs little from that. -/
theorem trans (first : before.Amid world) (second : world.Amid start) : before.Amid start := by
  obtain ⟨held, transports, journal, rfl⟩ := first
  obtain ⟨held, transports, journal, rfl⟩ := second
  exact ⟨held, transports, journal, rfl⟩

/-- A transport is changed. -/
theorem setTransport (id : TransportId) (transport : Transport) (world : World) :
    world.Amid (setTransport id transport world).2 := ⟨_, _, _, rfl⟩

/-- Something is written down. -/
theorem record (who what : String) (value : Value) (world : World) :
    world.Amid (record who what value world).2 := ⟨_, _, _, rfl⟩

/-- A message is written down. -/
theorem message (level : Level) (text : String) (world : World) :
    world.Amid (message level text world).2 := ⟨_, _, _, rfl⟩

/-- The protocol of a transport is told something. -/
theorem tellProtocol (id : TransportId) (notice : Net.Notice) (world : World) :
    world.Amid (tellProtocol id notice world).2 := by
  unfold World.tellProtocol
  rw [StateM.bind_apply, transport?_apply]
  cases (world.transports.get? id).join with
  | none => exact refl world
  | some transport => exact setTransport id _ world

/-- The protocol of a transport whose connection is lost is taken. -/
theorem takeProtocol (id : TransportId) (error : Option Error) (world : World) :
    world.Amid (takeProtocol id error world).2 := by
  unfold World.takeProtocol
  rw [StateM.bind_apply, transport?_apply]
  cases (world.transports.get? id).join with
  | none => exact refl world
  | some transport => exact (setTransport id _ world).trans (message _ _ _)

/-- The settings stay the same. -/
theorem settings (amid : before.Amid world) : world.settings = before.settings := by
  obtain ⟨held, transports, journal, rfl⟩ := amid
  rfl

end Amid

/-- An operation on a socket is handed to the completer, and a reaction will hear of its end; nothing else is
done but to the transports and to the journal. -/
def Submits (before after : World) (socket : SocketId) (subject : Proactor.Subject) (future : FutureId)
    (reaction : Reaction) : Prop :=
  ∃ start transports, before.Amid start ∧ (submit socket subject start).1 = future ∧
    after = { (submit socket subject start).2 with
      transports, loop := (submit socket subject start).2.loop.whenDone future reaction }

/-- What an event in the history of a transport stands for that is taken down on the way from one world to
another. What a protocol is told, and the ends of sends, are not the world's business. -/
def Backs (before after : World) (id : TransportId) : Event → Prop
  | .written data _ => ∃ start, before.Amid start ∧ after = (write id data start).2
  | .submitted data => ∀ transport, after.transports.get? id = some (some transport) →
      ∃ future, transport.writing = some future ∧
        before.Submits after transport.socket (.send data) future (.sent id)
  | .receiving => ∀ transport, after.transports.get? id = some (some transport) →
      ∃ future, transport.reading = some future ∧
        before.Submits after transport.socket (.receive before.settings.readSize) future (.received id)
  | .shut => ∀ transport, after.transports.get? id = some (some transport) →
      after.isOpen transport.socket = false
  | .closing | .discarded | .announced _ => True
  | .told _ | .sent _ => False

/-! ## What the steps of a world take down -/

/-- When a transport is changed, nothing but the transports changes. -/
theorem snd_changeTransport (id : TransportId) (change : Transport → Transport) (world : World) :
    ∃ transports, (changeTransport id change world).2 = { world with transports } :=
  ⟨_, congrArg Prod.snd (Minds.changeTransport_eq id change world)⟩

/-- When a receive calls for something, nothing else is left to do. -/
theorem ended_of_arrived {future : FutureId} {arrival : Net.Arrival}
    (arrived : (receiveEnded id future world).1 = arrival) (some : arrival ≠ .nothing) :
    ∃ transport, world.transports.get? id = .some (.some transport) ∧
      transport.receiveEnded (dataOf (world.loop.resultOf future)) =
        (arrival, [], { transport with reading := none }) := by
  rw [fst_receiveEnded] at arrived
  cases found : (world.transports.get? id).join with
  | none =>
    rw [found] at arrived
    exact absurd arrived.symm some
  | some transport =>
    rw [found, Option.elim_some] at arrived
    refine ⟨transport, Option.join_eq_some_iff.mp found, ?_⟩
    rcases Transport.Drifts.receiveEnded transport (dataOf (world.loop.resultOf future)) with
      ⟨effects, after, ended, -⟩ | ⟨-, other, -, ended⟩
    · rw [ended] at arrived
      exact absurd arrived.symm some
    · rw [ended] at arrived
      cases arrived
      exact ended

/-- What a transition does to the world does not depend on its result. -/
theorem snd_transition {otherwise : α} {step : Transport → α × List Effect × Transport} :
    (transition id otherwise step world).2 = (advance id (fun transport => (step transport).2) world).2 := by
  unfold advance transition
  rw [StateM.bind_apply, StateM.bind_apply, transport?_apply]
  cases (world.transports.get? id).join with
  | none => rfl
  | some transport => rfl

/-- A transport that is there after it was changed was there before. -/
theorem found_changeTransport {change : Transport → Transport} {later : Transport}
    (found : (changeTransport id change world).2.transports.get? id = some (some later)) :
    ∃ earlier, world.transports.get? id = some (some earlier) ∧ later = change earlier := by
  rw [Minds.changeTransport_eq] at found
  cases joined : (world.transports.get? id).join with
  | none =>
    rw [joined] at found
    rw [show world.transports.get? id = some (some later) from found] at joined
    cases joined
  | some earlier =>
    have there := Option.join_eq_some_iff.mp joined
    rw [joined] at found
    dsimp only at found
    rw [Table.get?_modify_self, there] at found
    cases found
    exact ⟨earlier, there, rfl⟩

/-- An operation of a transport is submitted, and the transport keeps its future. -/
theorem submits_of_found {change : FutureId → Transport → Transport} {slot : Transport → Option FutureId}
    {subject : Proactor.Subject} {reaction : Reaction} (amid : before.Amid start)
    (within : start.Within (openTo held) 0)
    (found : start.transports.get? id = some (some transport))
    (line : ∀ future transport, (change future transport).line = transport.line)
    (keeps : ∀ future transport, slot (change future transport) = some future) {after : World}
    (reached : after = (((do
      let future ← submit transport.socket subject
      changeTransport id (change future)
      changeLoop (·.whenDone future reaction)) : WorldM Unit) start).2) {later : Transport}
    (there : after.transports.get? id = some (some later)) :
    ∃ future, slot later = some future ∧ before.Submits after later.socket subject future reaction := by
  have fresh : (openTo held).Fresh 0 := fun _ _ => trivial
  obtain ⟨transports, changed⟩ := snd_changeTransport id
    (change (submit transport.socket subject start).1) (submit transport.socket subject start).2
  have shape : after = { (submit transport.socket subject start).2 with
      transports
      loop := (submit transport.socket subject start).2.loop.whenDone
        (submit transport.socket subject start).1 reaction } := by
    rw [reached]
    change (changeLoop (·.whenDone (submit transport.socket subject start).1 reaction)
      (changeTransport id (change (submit transport.socket subject start).1)
        (submit transport.socket subject start).2).2).2 = _
    rw [changed]
    rfl
  -- Whatever the completer does, the transport that submits stays as it is.
  have stays : Follows (noting fun _ => False) none id start (submit transport.socket subject start).2 :=
    (Following.calmly (Calm.submit fresh transport.socket subject) within).2
  have there : (changeTransport id (change (submit transport.socket subject start).1)
      (submit transport.socket subject start).2).2.transports.get? id = some (some later) := by
    rw [changed]
    rw [shape] at there
    exact there
  obtain ⟨other, here, rfl⟩ := found_changeTransport there
  have same : other.line = transport.line := by
    rcases stays.leads here with ⟨earlier, before, notes⟩ | ⟨beyond, -⟩
    · cases found.symm.trans before
      exact notes.line
    · exact absurd (Table.lt_size_of_get? found) (Nat.not_lt.mpr beyond)
  have socket : (change (submit transport.socket subject start).1 other).socket = transport.socket :=
    congrArg Prod.fst ((line _ other).trans same)
  rw [socket]
  exact ⟨_, keeps _ _, start, transports, amid, rfl, shape⟩

/-- The transport that was just set is there. -/
theorem get?_setTransport (found : world.transports.get? id = some (some transport)) (later : Transport) :
    (setTransport id later world).2.transports.get? id = some (some later) := by
  change (world.transports.modify id _).get? id = _
  rw [Table.get?_modify_self, found]
  rfl

/-- A transition sets the transport before what it asks for is brought about. -/
theorem advance_of_found (found : world.transports.get? id = some (some transport))
    (step : Transport → List Effect × Transport) : (advance id step world).2 =
      ((step transport).1.forM (perform id (step transport).2)
        (setTransport id (step transport).2 world).2).2 := by
  have joined : (world.transports.get? id).join = some transport := by rw [found]; rfl
  unfold advance transition
  rw [StateM.bind_apply, transport?_apply, joined]
  rfl

/-- What a transition takes down that is applied to a transport, if it is backed by the whole step. -/
theorem Following.notes_advance {step : Transport → List Effect × Transport} (amid : before.Amid world)
    (yields : ∀ transport : Transport, transport.Yields (step transport).1 (step transport).2)
    (alone : ∀ transport, Alone (step transport).1)
    (notes : id = other → ∀ transport, world.transports.get? id = some (some transport) →
      transport.Notes law (step transport).2)
    (backs : ∀ event, before.Backs (World.advance other step world).2 id event → law event) :
    Following (noting law) held none id world (World.advance other step) := fun within => by
  refine Following.advance yields notes (fun same transport found effect member future earlier => ?_) within
  subst same
  have begun : Following (noting law) held none id world
      (World.setTransport id (step transport).2) :=
    .turned found (yields transport).futures (yields transport).line (fun _ => notes rfl transport found)
      fun _ => rfl
  have bounds := (begun within).1.within within
  have there := get?_setTransport found (step transport).2
  have whole := advance_of_found found step
  have near := amid.trans (.setTransport id (step transport).2 world)
  cases effect with
  | receive =>
    refine .noted rfl rfl (backs _ fun later here => ?_)
    rw [alone transport _ member rfl] at whole
    rw [← near.settings]
    exact @submits_of_found held id before _ _ (fun future => Effect.receive.applied future) (·.reading)
      _ _ near bounds there (fun _ _ => rfl) (fun _ _ => rfl) _ whole later here
  | send data =>
    refine .noted rfl rfl (backs _ fun later here => ?_)
    rw [alone transport _ member rfl] at whole
    exact @submits_of_found held id before _ _ (fun future => (Effect.send data).applied future) (·.writing)
      _ _ near bounds there (fun _ _ => rfl) (fun _ _ => rfl) _ whole later here
  | announce error => exact .noted rfl rfl (backs _ trivial)
  | cancel | warnLostWrites | reportFatal => exact .refl _

/-- Data that is written is taken down before anything that comes of it. -/
theorem history_write (within : world.Within (openTo held) 0)
    (found : world.transports.get? id = some (some transport)) {data : Bytes} {later : Transport}
    (there : (write id data world).2.transports.get? id = some (some later)) :
    ∃ more, later.history = transport.history ++ .written data transport.isActive :: more := by
  let step (transport : Transport) := transport.write data world.settings.lostWrites
  have yields : transport.Yields (step transport).1 (step transport).2 := .write _ _
  have begun : Following (noting fun _ => True) held none id world (setTransport id (step transport).2) :=
    .turned found yields.futures yields.line (fun _ => .write _ trivial) fun _ => rfl
  have rest : Following (noting fun _ => True) held none id (setTransport id (step transport).2 world).2
      ((step transport).1.forM (perform id (step transport).2)) :=
    .performAll _ fun _ effect _ future before => by
      cases effect with
      | receive | send | announce => exact .noted rfl rfl trivial
      | cancel | warnLostWrites | reportFatal => exact .refl before
  have whole : (write id data world).2 = _ := advance_of_found found step
  rw [whole] at there
  rcases (rest ((begun within).1.within within)).2.leads there with ⟨middle, here, notes⟩ | ⟨beyond, -⟩
  · cases (get?_setTransport found _).symm.trans here
    obtain ⟨more, goes, -⟩ := notes.history
    refine ⟨more, ?_⟩
    rw [goes, Transport.history_write, List.append_assoc]
    rfl
  · exact absurd (Table.lt_size_of_get? (get?_setTransport found (step transport).2)) (Nat.not_lt.mpr beyond)

namespace Following

/-- What is taken down when data is written. -/
theorem notes_write (amid : before.Amid world) (data : Bytes)
    (backs : ∀ event, before.Backs (write other data world).2 id event → law event) :
    Following (noting law) held none id world (write other data) := by
  refine .read rfl (notes_advance amid (fun _ => .write _ _) (fun _ => .write _ _)
    (fun same transport _ => .write _ (backs _ ⟨world, amid, ?_⟩)) backs)
  rw [same]

/-- What is taken down when data is written back for a protocol. -/
theorem notes_echo (amid : before.Amid world) (protocol : String) (data : Bytes)
    (backs : ∀ event, before.Backs (echo protocol data world).2 id event → law event) :
    Following (noting law) held none id world (echo protocol data) := by
  cases named : world.names.lookup (.transport, protocol) with
  | none =>
    have same : echo protocol data world = ((), world) := by
      unfold echo named?
      simp only [StateM.bind_apply, StateM.get_apply, named]
      rfl
    exact congr same pure
  | some other =>
    have same : echo protocol data world = write other data world := by
      unfold echo named?
      simp only [StateM.bind_apply, StateM.get_apply, named]
      rfl
    rw [same] at backs
    exact congr same (notes_write amid data backs)

/-- What is taken down when a script deals with a transport. -/
theorem notes_doTransport (amid : before.Amid world) (protocol : Option String)
    (instruction : Script.TransportInstruction)
    (backs : ∀ event, before.Backs (doTransport protocol instruction world).2 id event → law event) :
    Following (noting law) held none id world (doTransport protocol instruction) := by
  have calm (still : instruction.effects ⊆ tending) :
      Following (noting law) held none id world (World.doTransport protocol instruction) :=
    .aside ((Instructions.doTransport (fun _ _ => trivial) protocol instruction).mono still)
  cases instruction with
  | write reference data =>
    refine .onTransport fun other same => .bind (notes_write amid data fun event backed => ?_) fun _ _ => .pure
    refine backs event ?_
    rw [show World.doTransport protocol (.write reference data) world = _ from same]
    exact backed
  | close reference =>
    refine .onTransport fun other same => .bind (notes_advance amid (fun _ => .close) (fun _ => .close)
      (fun _ _ _ => .close (backs .closing trivial)) fun event backed => ?_) fun _ _ => .pure
    refine backs event ?_
    rw [show World.doTransport protocol (.close reference) world = _ from same]
    exact backed
  | abort reference =>
    refine .onTransport fun other same => .bind (notes_advance amid (fun _ => .forceClose none)
      (fun _ => .forceClose none) (fun _ _ _ => .forceClose (backs .discarded trivial) none)
      fun event backed => ?_) fun _ _ => .pure
    refine backs event ?_
    rw [show World.doTransport protocol (.abort reference) world = _ from same]
    exact backed
  | closeServer | closeOnConnection => exact calm (List.Subset.refl _)
  | state | socket | serverState => exact calm (List.subset_cons_self _ _)

/-- What is taken down when a transport reads on. -/
theorem notes_receiveNext (amid : before.Amid world)
    (backs : ∀ event, before.Backs (World.advance other (·.receiveNext) world).2 id event → law event) :
    Following (noting law) held none id world (World.advance other (·.receiveNext)) := by
  refine notes_advance amid (fun _ => .receiveNext) (fun _ => .receiveNext) (fun _ transport _ => ?_) backs
  rw [Transport.snd_receiveNext]
  exact .refl transport

/-- What is taken down when a send has ended. -/
theorem notes_sendEnded (amid : before.Amid world) (future : FutureId)
    (sent : id = other → law (.sent (errorOf (world.loop.resultOf future))))
    (backs : ∀ event, before.Backs (World.sendEnded other future world).2 id event → law event) :
    Following (noting law) held none id world (World.sendEnded other future) :=
  .read rfl (notes_advance amid (fun _ => .sendEnded _) (fun _ => .sendEnded _)
    (fun same _ _ => .sendEnded (sent same) (backs .discarded trivial)) backs)

/-- What is taken down when a receive has ended. -/
theorem notes_receiveEnded (amid : before.Amid world) (future : FutureId)
    (backs : ∀ event, before.Backs (World.receiveEnded other future world).2 id event → law event) :
    Following (noting law) held none id world (World.receiveEnded other future) := by
  have same : (World.receiveEnded other future world).2 = (World.advance other (fun transport =>
      (transport.receiveEnded (dataOf (world.loop.resultOf future))).2) world).2 :=
    snd_transition
  rw [same] at backs
  exact of_snd same (notes_advance amid (fun _ => .receiveEnded _) (fun _ => .receiveEnded _)
    (fun _ _ _ => .receiveEnded (backs .discarded trivial) _) backs)

/-- What is taken down when the socket of a transport is closed. -/
theorem notes_closeTransportSocket
    (backs : ∀ event, before.Backs (World.closeTransportSocket other world).2 id event → law event) :
    Following (noting law) held none id world (World.closeTransportSocket other) := fun within => by
  have stays : Follows (noting fun _ => True) none id world (World.closeTransportSocket other world).2 :=
    (Following.closeTransportSocket (fun _ transport =>
      (.noted rfl rfl trivial : transport.Notes (fun _ => True) (transport.note .shut))) within).2
  refine Following.closeTransportSocket (fun same _ => .noted rfl rfl (backs _ fun later there => ?_)) within
  subst same
  cases joined : (world.transports.get? id).join with
  | none =>
    have same : World.closeTransportSocket id world = ((), world) := by
      unfold World.closeTransportSocket
      rw [StateM.bind_apply, transport?_apply, joined]
      rfl
    rw [same] at there
    rw [show world.transports.get? id = some (some later) from there] at joined
    cases joined
  | some transport =>
    have found := Option.join_eq_some_iff.mp joined
    rcases stays.leads there with ⟨earlier, here, notes⟩ | ⟨beyond, -⟩
    · have socket : later.socket = earlier.socket := congrArg Prod.fst notes.line
      rw [socket]
      exact isOpen_closeTransportSocket here
    · exact absurd (Table.lt_size_of_get? found) (Nat.not_lt.mpr beyond)

end Following

end World

end EventLoop

import EventLoop.Proofs.Machine.Errands
import EventLoop.Proofs.Machine.Run
import EventLoop.Proofs.Transport.Drift
import EventLoop.Proofs.Transport.Traffic

/-!
# The machine oversees transports

Most moves of the machine have nothing to do with transports. A callback about a transport, a frame that
waits for a protocol and an instruction that deals with a transport mind the transports: each of them is
something that happens to a transport, and the errands afterwards are those of what the move leaves. So
in every state of a run of a loop that stays open the transports are overseen.
-/
namespace EventLoop

open Net (Transport Listener Outlook Attained Plays Arrival Notice)
open World (Minds Overseen openTo moving expiring trafficking hosting revoking requesting halting iterating
  notifying polling turning)
open Script (Instruction)

variable {held : List Ref} {world : World} {below : List Frame}

/-! ## Errands of callbacks and frames -/

/-- A callback about one transport brings nothing to the others. -/
theorem Callback.errand_of_other {callback : Callback} {id other : TransportId}
    (owner : callback.transport? = some id) (differ : other ≠ id) : callback.errand other = {} := by
  have silent : (id == other) = false := beq_eq_false_iff_ne.mpr differ.symm
  cases callback with
  | connectionMade | startReading | connectionLost =>
    cases owner
    simp [errand, stirs, replyTo?, silent]
  | done future reaction =>
    have receipt := Reaction.isReceipt_of_other owner differ
    have dispatch := Reaction.isDispatch_of_other owner differ
    simp [errand, stirs, replyTo?, receipt, dispatch]
  | script | step | readPipe | resolve | expire | startAccepting => cases owner

/-- The errands of a callback about a transport are added to those of the frames. -/
theorem errandsOf_call {callback : Callback} {id : TransportId} {errand : Outlook}
    (owner : callback.transport? = some id) (brings : callback.errand id = errand)
    (below : List Frame) :
    errandsOf (.call callback) below = Function.update (errandsOf .proceed below) id
      { errandsOf .proceed below id with
        stirs := errand.stirs, receipts := errand.receipts, dispatches := errand.dispatches } := by
  funext other
  by_cases here : other = id
  · subst here
    rw [Function.update_self, ← brings]
    rfl
  · rw [Function.update_of_ne here]
    unfold errandsOf
    rw [show Signal.errand (.call callback) other = {} from callback.errand_of_other owner here]
    rfl

/-- A frame that waits while a protocol is handed data is one more errand. -/
theorem errandsOf_afterData (id : TransportId) (below : List Frame) :
    errandsOf .proceed (.afterData id :: below) = Function.update (errandsOf .proceed below) id
      { errandsOf .proceed below id with handing := (errandsOf .proceed below id).handing + 1 } := by
  funext other
  by_cases here : other = id
  · subst here
    rw [Function.update_self]
    have one : (Frame.afterData other).isAfterData other = true := beq_self_eq_true other
    unfold errandsOf
    rw [List.countP_cons_of_pos one, List.countP_cons_of_neg Bool.false_ne_true]
  · rw [Function.update_of_ne here]
    have none : ¬ (Frame.afterData id).isAfterData other = true :=
      fun same => here (beq_iff_eq.mp same).symm
    unfold errandsOf
    rw [List.countP_cons_of_neg none, List.countP_cons_of_neg Bool.false_ne_true]

/-- A frame that waits while a protocol is told of a loss is one more errand. -/
theorem errandsOf_afterLoss (id : TransportId) (below : List Frame) :
    errandsOf .proceed (.afterLoss id :: below) = Function.update (errandsOf .proceed below) id
      { errandsOf .proceed below id with losing := (errandsOf .proceed below id).losing + 1 } := by
  funext other
  by_cases here : other = id
  · subst here
    rw [Function.update_self]
    have one : (Frame.afterLoss other).isAfterLoss other = true := beq_self_eq_true other
    unfold errandsOf
    rw [List.countP_cons_of_pos one, List.countP_cons_of_neg Bool.false_ne_true]
  · rw [Function.update_of_ne here]
    have none : ¬ (Frame.afterLoss id).isAfterLoss other = true :=
      fun same => here (beq_iff_eq.mp same).symm
    unfold errandsOf
    rw [List.countP_cons_of_neg none, List.countP_cons_of_neg Bool.false_ne_true]

/-- Frames ask for nothing by themselves. -/
theorem air_errandsOf (signal : Signal) (below : List Frame) (id : TransportId) :
    (errandsOf signal below id).air = [] := by
  cases signal with
  | call => rfl
  | _ => rfl

/-! ## Moves that deal with transports -/

/-- A step of the machine minds the transports, and the errands are those of what it leaves. -/
def MovesMinding (held : List Ref) (errands : TransportId → Outlook)
    (below : List Frame) (world : World) (step : WorldM Move) : Prop :=
  Minds held errands world step fun move => errandsOf move.2 (move.1 ++ below)

/-- The protocol is told of what has arrived. -/
theorem Net.Arrival.told_of_notice {arrival : Arrival} {notice : Notice}
    (tells : arrival.notice? = some notice) : arrival.told = fun transport => transport.tell notice := by
  cases arrival with
  | nothing => cases tells
  | data | endOfStream =>
    cases tells
    rfl

namespace MovesMinding

/-- A quiet move leaves the errands of the frames below. -/
theorem quietly {move : Move} (quiet : move.Quiet) :
    MovesMinding held (errandsOf .proceed below) below world (pure move) :=
  Minds.finish fun overseen => by
    rw [quiet.errands]
    exact overseen

/-- Giving a signal minds the transports, unless a callback is to run. -/
theorem give {signal : Signal} (other : signal.isCall = false) :
    MovesMinding held (errandsOf .proceed below) below world (Machine.give signal) :=
  quietly ⟨fun _ member => (nomatch member), other⟩

/-- Frames are left with a signal. -/
theorem leave {frames : List Frame} {signal : Signal} (other : signal.isCall = false) :
    MovesMinding held (errandsOf .proceed (frames ++ below)) below world (pure (frames, signal)) :=
  Minds.finish fun overseen => by
    have same : errandsOf signal (frames ++ below) = errandsOf .proceed (frames ++ below) :=
      @errandsOf_of_idle signal [] (frames ++ below) (Signal.errand_of_not_call other)
        fun _ member => (nomatch member)
    rw [same]
    exact overseen

/-- A protocol may write data back before its script is run. -/
theorem heed (listener : Listener) (id : TransportId) (notice : Notice) (settled : ∀ id, (errands id).air = []) :
    Minds held errands world (listener.heed id notice) fun _ => errands := by
  cases heeds : listener.heeds notice with
  | false =>
    rw [listener.heed_of_not_heeds heeds]
    exact Minds.pure
  | true =>
    rw [listener.heed_of_heeds heeds]
    refine Minds.following (World.Calm.record _ _ _) fun _ _ _ => ?_
    cases notice with
    | made => exact Minds.calmly (World.Calm.store .transport _ trivial ObjectClass.noConfusion)
    | data bytes =>
      unfold Net.Listener.prepare
      dsimp only
      split
      · exact Minds.echo listener.name bytes settled
      · exact Minds.pure
    | endOfStream | lost => exact Minds.pure

/-- A protocol is handed a notice, and its transport waits until it has done what it does about it. -/
theorem handTo (id : TransportId) (notice : Notice) (listener? : Option Listener) :
    MovesMinding held (errandsOf .proceed (notice.frames id ++ below)) below world
      (Machine.handTo id notice listener?) := by
  cases listener? with
  | none => exact leave rfl
  | some listener =>
    refine Minds.bind (heed listener id notice fun other => air_errandsOf _ _ other) fun _ _ => leave ?_
    rcases listener.signal_cases notice with proceed | ⟨actor, body, script⟩
    · rw [proceed]
      rfl
    · rw [script]
      rfl

/-- The protocol is told that the connection is made. -/
theorem tellMade (id : TransportId) :
    MovesMinding held (errandsOf (.call (.connectionMade id)) below) below world
      (Machine.tellMade id) := by
  have brings : (Callback.connectionMade id).errand id = { stirs := [.connectionMade id] } := by
    simp [Callback.errand, Callback.stirs, Callback.replyTo?]
  have told := @Minds.tellMade held world (errandsOf .proceed below)
    (errandsOf .proceed below id) id rfl
  rw [errandsOf_call rfl brings, Machine.tellMade_eq]
  refine Minds.bind told fun listener? reached => ?_
  have base : Function.update (errandsOf .proceed below) id
      { errandsOf .proceed below id with stirs := [] } = errandsOf .proceed below :=
    Function.update_eq_self id _
  rw [base]
  exact handTo id .made listener?

/-- The transport begins to read. -/
theorem startReading (id : TransportId) :
    MovesMinding held (errandsOf (.call (.startReading id)) below) below world
      (Machine.runCallback (.startReading id)) := by
  have brings : (Callback.startReading id).errand id = { stirs := [.startReading id] } := by
    simp [Callback.errand, Callback.stirs, Callback.replyTo?]
  have begun := @Minds.startReading held world (errandsOf .proceed below)
    (errandsOf .proceed below id) id rfl
  rw [errandsOf_call rfl brings]
  refine Minds.bind begun fun _ reached => ?_
  have base : Function.update (errandsOf .proceed below) id
      { errandsOf .proceed below id with stirs := [] } = errandsOf .proceed below :=
    Function.update_eq_self id _
  rw [base]
  exact give rfl

/-- The protocol is told that the connection is lost. -/
theorem tellLost (id : TransportId) (error : Option Error) :
    MovesMinding held (errandsOf (.call (.connectionLost id error)) below) below world
      (Machine.tellLost id error) := by
  have brings : (Callback.connectionLost id error).errand id =
      { stirs := [.connectionLost id error] } := by
    simp [Callback.errand, Callback.stirs, Callback.replyTo?]
  have told := @Minds.tellLost held world (errandsOf .proceed below)
    (errandsOf .proceed below id) id error rfl
  rw [errandsOf_call rfl brings, Machine.tellLost_eq]
  refine Minds.bind told fun listener? reached => ?_
  have waits : Function.update (errandsOf .proceed below) id { errandsOf .proceed below id with
      stirs := [], losing := (errandsOf .proceed below id).losing + 1 } =
        errandsOf .proceed (.afterLoss id :: below) := (errandsOf_afterLoss id below).symm
  rw [waits]
  exact handTo id (.lost error) listener?

/-- What a receive that has ended is to bring to its transport. -/
theorem errand_received (id : TransportId) (future : FutureId) :
    (Callback.done future (.received id)).errand id = { receipts := {future} } := by
  simp [Callback.errand, Callback.stirs, Callback.replyTo?, Reaction.isReceipt, Reaction.isDispatch]

/-- A receive of a transport has ended, and there is nothing to tell the protocol. -/
theorem receivedNothing {id : TransportId} {future : FutureId}
    (nothing : (World.receiveEnded id future world).1 = .nothing) :
    MovesMinding held (errandsOf (.call (.done future (.received id))) below) below world
      (Machine.react future (.received id)) := by
  have quiet : ∀ transport, world.transports.get? id = some (some transport) →
      (transport.receiveEnded (World.dataOf (world.loop.resultOf future))).1 = .nothing := by
    intro transport found
    have result := World.fst_receiveEnded id future world
    rw [nothing, found] at result
    exact result.symm
  have ended := @Minds.receiveEnded held world (errandsOf .proceed below)
    (errandsOf .proceed below id) id future rfl quiet
  rw [errandsOf_call rfl (errand_received id future)]
  refine Minds.congr (Machine.react_of_nothing nothing) (Minds.bind ended fun _ reached => ?_)
  have base : Function.update (errandsOf .proceed below) id
      { errandsOf .proceed below id with receipts := 0 } = errandsOf .proceed below :=
    Function.update_eq_self id _
  rw [base]
  exact give rfl

variable {id : TransportId} {transport : Transport} {future : FutureId}

/-- A receive of a transport has brought something that its protocol is told of. -/
theorem receivedTold {arrival : Arrival} {notice : Notice}
    (there : world.transports.get? id = some (some transport))
    (ended : transport.receiveEnded (World.dataOf (world.loop.resultOf future)) =
      (arrival, [], { transport with reading := none })) (tells : arrival.notice? = some notice)
    (result : (World.receiveEnded id future world).1 = arrival) :
    MovesMinding held (errandsOf (.call (.done future (.received id))) below) below world
      (Machine.react future (.received id)) := by
  have arrived := @Minds.arrived held world (errandsOf .proceed below) id
    (errandsOf .proceed below id) transport future _ rfl there ended
  have told : ((World.receiveEnded id future >>= fun _ => World.tellProtocol id notice) world).2 =
      (World.setTransport id (arrival.told { transport with reading := none }) world).2 :=
    congrArg Prod.snd (World.receiveEnded_tellProtocol there ended (Arrival.told_of_notice tells))
  have waits : Function.update (errandsOf .proceed below) id { errandsOf .proceed below id with
      receipts := 0, handing := (errandsOf .proceed below id).handing + arrival.handed } =
        errandsOf .proceed (notice.frames id ++ below) := by
    cases arrival with
    | nothing => cases tells
    | data bytes =>
      cases tells
      exact (errandsOf_afterData id below).symm
    | endOfStream =>
      cases tells
      have idle : errandsOf .proceed ([.afterEnd id] ++ below) = errandsOf .proceed below :=
        errandsOf_of_idle (fun _ => rfl) fun _ member => List.mem_singleton.mp member ▸ rfl
      exact (Function.update_eq_self id _).trans idle.symm
  rw [errandsOf_call rfl (errand_received id future)]
  refine Minds.congr (Machine.react_of_notice (result ▸ tells)) (Minds.instead told arrived fun reached => ?_)
  rw [waits]
  exact handTo id notice _

/-- A receive of a transport has ended. -/
theorem received (id : TransportId) (future : FutureId) :
    MovesMinding held (errandsOf (.call (.done future (.received id))) below) below world
      (Machine.react future (.received id)) := by
  have result := World.fst_receiveEnded id future world
  cases found : (world.transports.get? id).join with
  | none =>
    rw [found] at result
    exact receivedNothing result
  | some transport =>
    have there := Option.join_eq_some_iff.mp found
    rcases Net.Transport.Drifts.receiveEnded transport (World.dataOf (world.loop.resultOf future)) with
      ⟨effects, after, ended, -⟩ | ⟨-, arrival, some, ended⟩
    · rw [found, Option.elim_some, ended] at result
      exact receivedNothing result
    · rw [found, Option.elim_some, ended] at result
      cases arrival with
      | nothing => cases some
      | data | endOfStream => exact receivedTold there ended rfl result

/-- What a send that has ended is to bring to its transport. -/
theorem errand_sent (id : TransportId) (future : FutureId) :
    (Callback.done future (.sent id)).errand id = { dispatches := {future} } := by
  simp [Callback.errand, Callback.stirs, Callback.replyTo?, Reaction.isReceipt, Reaction.isDispatch]

/-- A send of a transport has ended. -/
theorem sent (id : TransportId) {future : FutureId} :
    MovesMinding held (errandsOf (.call (.done future (.sent id))) below) below world
      (Machine.react future (.sent id)) := by
  have ended := @Minds.sendEnded held world (errandsOf .proceed below)
    (errandsOf .proceed below id) id future rfl
  rw [errandsOf_call rfl (errand_sent id future)]
  refine Minds.bind ended fun _ reached => ?_
  have base : Function.update (errandsOf .proceed below) id
      { errandsOf .proceed below id with dispatches := 0 } = errandsOf .proceed below :=
    Function.update_eq_self id _
  rw [base]
  exact give rfl

/-- A transport goes on after its protocol was handed data. -/
theorem afterData (id : TransportId) :
    MovesMinding held (errandsOf .proceed (.afterData id :: below)) below world
      (Machine.proceedWith (.afterData id)) := by
  have read := @Minds.readOn held world (errandsOf .proceed below)
    (errandsOf .proceed below id) id (errandsOf .proceed below id).handing rfl
  rw [errandsOf_afterData]
  refine Minds.bind read fun _ reached => ?_
  have base : Function.update (errandsOf .proceed below) id (errandsOf .proceed below id) =
      errandsOf .proceed below := Function.update_eq_self id _
  rw [base]
  exact give rfl

/-- A transport closes after its protocol was told that the stream has ended. -/
theorem afterEnd (id : TransportId) :
    MovesMinding held (errandsOf .proceed (.afterEnd id :: below)) below world
      (Machine.proceedWith (.afterEnd id)) := by
  have same : errandsOf .proceed (.afterEnd id :: below) = errandsOf .proceed below :=
    @errandsOf_of_idle .proceed [.afterEnd id] below (fun _ => rfl)
      fun _ member => List.mem_singleton.mp member ▸ rfl
  rw [same]
  refine Minds.bind (Minds.advance (fun _ => .close) rfl ?_) fun _ _ => give rfl
  exact fun transport outlook none => .closed transport outlook none

/-- A transport closes its socket after its protocol was told that the connection is lost. -/
theorem afterLoss (id : TransportId) :
    MovesMinding held (errandsOf .proceed (.afterLoss id :: below)) below world
      (Machine.proceedWith (.afterLoss id)) := by
  have closed := @Minds.closeTransportSocket held world (errandsOf .proceed below)
    (errandsOf .proceed below id) id (errandsOf .proceed below id).losing rfl
  rw [errandsOf_afterLoss]
  refine Minds.bind closed fun _ reached => ?_
  have base : Function.update (errandsOf .proceed below) id (errandsOf .proceed below id) =
      errandsOf .proceed below := Function.update_eq_self id _
  rw [base]
  exact give rfl

/-- A script or a program deals with a transport. -/
theorem doTransport (protocol : Option String) (instruction : Script.TransportInstruction) :
    MovesMinding held (errandsOf .proceed below) below world (do
      Machine.give (.answer (← World.doInstruction protocol (.transport instruction)))) :=
  Minds.bind (Minds.doTransport protocol instruction fun id => air_errandsOf _ _ id)
    fun _ _ => give rfl

/-- A frame goes below what a step leaves. -/
theorem onto {errands : TransportId → Outlook} {step : WorldM Move} {frame : Frame}
    (first : MovesMinding held errands (frame :: below) world step) :
    MovesMinding held errands below world (do
      let (frames, signal) ← step
      return (frames ++ [frame], signal)) := by
  refine Minds.bind first fun move reached => Minds.finish fun overseen => ?_
  rw [List.append_assoc]
  exact overseen

/-- A callback about a transport runs. -/
theorem runCallback {callback : Callback} {id : TransportId} (owner : callback.transport? = some id) :
    MovesMinding held (errandsOf (.call callback) below) below world
      (Machine.runCallback callback) := by
  cases callback with
  | script | step | readPipe | resolve | expire | startAccepting => cases owner
  | connectionMade => exact tellMade _
  | startReading => exact startReading _
  | connectionLost => exact tellLost _ _
  | done future reaction =>
    cases reaction with
    | script | wake | stopLoop | pipeRead | accepted => cases owner
    | received => exact received _ future
    | sent => exact sent _

/-- An instruction from anyone deals with a transport. -/
theorem beginInstruction (runner : Runner) (instruction : Script.TransportInstruction) :
    MovesMinding held (errandsOf .proceed below) below world
      (Machine.beginInstruction runner (.transport instruction)) := by
  cases runner with
  | outside => exact doTransport _ instruction
  | script => exact doTransport _ instruction
  | program => exact doTransport _ instruction

end MovesMinding

/-! ## Every step of a run -/

/-- Moving is apart from the transports. -/
theorem isApart_moving : IsApart moving := by
  unfold IsApart
  decide

/-- What is done when a time is up is apart from the transports. -/
theorem isApart_expiring : IsApart expiring := by
  unfold IsApart
  decide

/-- What is settled is apart from the transports. -/
theorem isApart_settling (ref : Ref) : IsApart ref.aspects := by
  cases ref with
  | future =>
    have apart : IsApart (.deserting :: moving) := by
      unfold IsApart
      decide
    exact apart
  | task | socket | transport | server => exact isApart_moving

/-- What is done when the loop is to return is apart from the transports. -/
theorem isApart_halting : IsApart halting := by
  unfold IsApart
  decide

/-- What an iteration does is apart from the transports. -/
theorem isApart_iterating : IsApart iterating := by
  unfold IsApart
  decide

/-- What polling does is apart from the transports. -/
theorem isApart_polling : IsApart polling := by
  unfold IsApart
  decide

/-- What is asked of the host is apart from the transports. -/
theorem isApart_hosting : IsApart hosting := by
  unfold IsApart
  decide

/-- What is revoked is apart from the transports. -/
theorem isApart_revoking : IsApart revoking := by
  unfold IsApart
  decide

/-- What is asked on behalf of another thread is apart from the transports. -/
theorem isApart_requesting : IsApart requesting := by
  unfold IsApart
  decide

/-- What notifications do is apart from the transports. -/
theorem isApart_notifying : IsApart notifying := by
  unfold IsApart
  decide

/-- What callers do is apart from the transports. -/
theorem isApart_turning : IsApart turning := by
  unfold IsApart
  decide

/-- An instruction deals with a transport, or it has nothing to do with any. -/
theorem Script.Instruction.isApart (loop : Loop) (instruction : Instruction) :
    IsApart (instruction.aspects loop) ∨ ∃ what, instruction = .transport what := by
  cases still : instruction.deals with
  | true =>
    cases instruction with
    | transport what => exact Or.inr ⟨what, rfl⟩
    | _ => cases still
  | false =>
    refine Or.inl ?_
    unfold Script.Instruction.aspects Script.Instruction.base
    rw [still]
    split
    · exact isApart_iterating
    · split
      · exact isApart_halting
      · change IsApart (if instruction.serves then hosting
          else if instruction.cancels then revoking
          else if instruction.requests then requesting
          else if instruction.notifies then notifying else moving)
        split
        · exact isApart_hosting
        · split
          · exact isApart_revoking
          · split
            · exact isApart_requesting
            · split
              · exact isApart_notifying
              · exact isApart_moving

/-- A callback that is about no transport has nothing to do with any. -/
theorem Callback.isApart {callback : Callback} (apart : callback.transport? = none) :
    IsApart callback.aspects := by
  cases callback with
  | connectionMade | startReading | connectionLost => cases apart
  | step => exact isApart_polling
  | startAccepting => exact isApart_hosting
  | expire => exact isApart_expiring
  | script | readPipe | resolve => exact isApart_moving
  | done future reaction =>
    cases reaction with
    | received | sent => cases apart
    | accepted => exact isApart_hosting
    | script | wake | stopLoop | pipeRead => exact isApart_moving

namespace Machine

variable {strict : Prop} {machine after : Machine}

/-- A move that has nothing to do with transports keeps them overseen. -/
theorem Sound.aside (sound : machine.Sound strict) {aspects : List Aspect}
    (passes : machine.Passes aspects after) (more : moving ⊆ aspects) (apart : IsApart aspects)
    (opened : after.world.loop.closed = false) (same : after.errands = machine.errands)
    (overseen : Overseen machine.errands machine.world) :
    Overseen after.errands after.world := by
  rw [same]
  exact overseen.changes (World.Course.changes passes sound.settled more) apart opened

/-- A move that minds the transports keeps them overseen. -/
theorem Sound.mind (sound : machine.Sound strict) {step : WorldM Move}
    (minds : MovesMinding machine.held machine.errands below machine.holding step)
    (opened : (machine.move below step).world.loop.closed = false)
    (overseen : Overseen machine.errands machine.world) :
    Overseen (machine.move below step).errands (machine.move below step).world :=
  (minds sound.within).2 opened (overseen.still rfl (.refl _))

/-- A signal that has nothing to do with transports keeps them overseen. -/
theorem Sound.overseen_aside (sound : machine.Sound strict) {step : WorldM Move}
    (acts : act? machine.signal = some step)
    (passes : machine.Passes (machine.signal.aspects machine.world.loop)
      (machine.move machine.frames step))
    (opened : (machine.move machine.frames step).world.loop.closed = false)
    (overseen : Overseen machine.errands machine.world)
    (apart : IsApart (machine.signal.base machine.world.loop))
    (calls : ∀ callback, machine.signal = .call callback → callback.transport? = none) :
    Overseen (machine.move machine.frames step).errands
      (machine.move machine.frames step).world := by
  have apart : IsApart (machine.signal.aspects machine.world.loop) :=
    Signal.of_base isApart_turning apart
  refine sound.aside passes (machine.signal.moving_subset _) apart opened ?_ overseen
  have idle : ∀ id, machine.signal.errand id = {} := by
    intro id
    cases signal : machine.signal with
    | call callback => exact callback.errand_of_apart (calls callback signal) id
    | _ => rfl
  have before : machine.errands = errandsOf .proceed machine.frames :=
    @errandsOf_of_idle machine.signal [] machine.frames idle fun _ member => (nomatch member)
  exact ((MovesQuietly.act acts calls machine.holding).errands machine.frames).trans before.symm

/-- The first instruction of a body deals with a transport, and the frame of the rest attends to none. -/
theorem Sound.overseen_body (sound : machine.Sound strict) {frame : Frame}
    (what : Script.TransportInstruction) (runner : Runner) (idle : frame.attends = false)
    (brings : machine.errands = errandsOf .proceed machine.frames)
    (opened : (machine.move machine.frames (do
      let (frames, signal) ← beginInstruction runner (.transport what)
      return (frames ++ [frame], signal))).world.loop.closed = false)
    (overseen : Overseen machine.errands machine.world) :
    Overseen
      (machine.move machine.frames (do
        let (frames, signal) ← beginInstruction runner (.transport what)
        return (frames ++ [frame], signal))).errands
      (machine.move machine.frames (do
        let (frames, signal) ← beginInstruction runner (.transport what)
        return (frames ++ [frame], signal))).world := by
  have below : errandsOf .proceed (frame :: machine.frames) = errandsOf .proceed machine.frames :=
    @errandsOf_of_idle .proceed [frame] machine.frames (fun _ => rfl)
      fun _ member => List.mem_singleton.mp member ▸ idle
  refine sound.mind ?_ opened overseen
  rw [brings, ← below]
  exact MovesMinding.onto (MovesMinding.beginInstruction runner what)

/-- What a signal asks for has nothing to do with transports, or it is a callback about one, or the first
instruction of a body deals with one. -/
theorem act_cases {signal : Signal} {step : WorldM Move} (loop : Loop) (acts : act? signal = some step) :
    (IsApart (signal.base loop) ∧ ∀ callback, signal = .call callback → callback.transport? = none) ∨
      (∃ callback id, signal = .call callback ∧ callback.transport? = some id ∧
        step = runCallback callback) ∨
      ∃ runner what frame, signal.isCall = false ∧ frame.attends = false ∧ step = do
        let (frames, signal) ← beginInstruction runner (.transport what)
        return (frames ++ [frame], signal) := by
  cases signal with
  | proceed | answer | iterated | ended | returned | suspended | waiting => cases acts
  | resume | retry | join | select => exact Or.inl ⟨isApart_moving, nofun⟩
  | call callback =>
    cases acts
    cases owner : callback.transport? with
    | none =>
      refine Or.inl ⟨Callback.isApart owner, ?_⟩
      rintro other ⟨⟩
      exact owner
    | some id => exact Or.inr (Or.inl ⟨callback, id, rfl, owner, rfl⟩)
  | script actor rest =>
    cases rest with
    | nil => exact Or.inl ⟨isApart_moving, nofun⟩
    | cons instruction rest =>
      rcases instruction.isApart loop with apart | ⟨what, rfl⟩
      · exact Or.inl ⟨apart, nofun⟩
      · cases acts
        exact Or.inr (Or.inr ⟨.script actor, what, _, rfl, rfl, rfl⟩)
  | program task last rest =>
    cases rest with
    | nil => exact Or.inl ⟨isApart_moving, nofun⟩
    | cons instruction rest =>
      rcases instruction.isApart loop with apart | ⟨what, rfl⟩
      · exact Or.inl ⟨apart, nofun⟩
      · cases acts
        exact Or.inr (Or.inr ⟨.program task, what, _, rfl, rfl, rfl⟩)

/-- A signal that asks for something to be done keeps transports overseen. -/
theorem Sound.overseen_act (sound : machine.Sound strict) {step : WorldM Move}
    (acts : act? machine.signal = some step)
    (passes : machine.Passes (machine.signal.aspects machine.world.loop)
      (machine.move machine.frames step))
    (opened : (machine.move machine.frames step).world.loop.closed = false)
    (overseen : Overseen machine.errands machine.world) :
    Overseen (machine.move machine.frames step).errands
      (machine.move machine.frames step).world := by
  rcases act_cases machine.world.loop acts with ⟨apart, calls⟩ | ⟨callback, id, signal, owner, rfl⟩ |
    ⟨runner, what, frame, uncalled, idle, rfl⟩
  · exact sound.overseen_aside acts passes opened overseen apart calls
  · have brings : machine.errands = errandsOf (.call callback) machine.frames :=
      congrArg (errandsOf · machine.frames) signal
    refine sound.mind ?_ opened overseen
    rw [brings]
    exact MovesMinding.runCallback owner
  · have brings : machine.errands = errandsOf .proceed machine.frames :=
      @errandsOf_of_idle machine.signal [] machine.frames (Signal.errand_of_not_call uncalled)
        fun _ member => (nomatch member)
    exact sound.overseen_body what runner idle brings opened overseen

/-- A callback that was taken from the loop is to bring what it would have brought. -/
theorem over_takeReady {loop : Loop} {callback : Callback} {rest : List Callback}
    (ready : loop.ready = callback :: rest) (frames : List Frame) (id : TransportId) :
    (errandsOf (.call callback) frames id).over { loop with ready := rest } id =
      (errandsOf .proceed frames id).over loop id := by
  have stirs : [callback].filter (·.stirs id) ++ rest.filter (·.stirs id) =
      loop.ready.filter (·.stirs id) := by
    rw [ready, ← List.filter_append]
    rfl
  have replies (about : Reaction → Bool) :
      ([callback].filterMap (·.replyTo? about) : Multiset FutureId) +
        Loop.replies about { loop with ready := rest } = 0 + loop.replies about := by
    unfold Loop.replies
    rw [ready, zero_add, ← add_assoc, Multiset.coe_add, ← List.filterMap_append]
    rfl
  unfold Outlook.over errandsOf
  dsimp only [Signal.errand, Callback.errand]
  rw [replies, replies]
  exact congrArg (fun calls : List Callback => ({
    stirs := calls
    receipts := 0 + loop.replies (Reaction.isReceipt id)
    dispatches := 0 + loop.replies (Reaction.isDispatch id)
    handing := frames.countP (·.isAfterData id)
    losing := frames.countP (·.isAfterLoss id) } : Outlook)) stirs

/-- An iteration takes the next callback from the loop. -/
theorem overseen_stepIteration (left : Nat) (below : List Frame)
    (overseen : Overseen (errandsOf .proceed below) machine.world) :
    Overseen (machine.move below (stepIteration left)).errands
      (machine.move below (stepIteration left)).world := by
  have quietly {signal : Signal} {frames : List Frame} (idle : ∀ id, signal.errand id = {})
      (quiet : ∀ frame ∈ frames, frame.attends = false) :
      Overseen (errandsOf signal (frames ++ below)) machine.holding := by
    rw [errandsOf_of_idle idle quiet]
    exact overseen.still rfl (.refl _)
  cases left with
  | zero => exact @quietly (.iterated (.ok ())) [] (fun _ => rfl) fun _ member => (nomatch member)
  | succ left =>
    cases ready : machine.world.loop.ready with
    | nil =>
      have step : stepIteration (left + 1) machine.holding =
          (([], .iterated (.ok ())), machine.holding) := stepIteration_of_idle ready
      unfold move inWorld
      rw [show stepIteration (left + 1) { machine.world with held := machine.held } = _ from step]
      exact @quietly (.iterated (.ok ())) [] (fun _ => rfl) fun _ member => (nomatch member)
    | cons callback rest =>
      have step : stepIteration (left + 1) machine.holding =
          (([.letGo callback.refs, .iteration left], .call callback),
            { machine.holding with loop := { machine.world.loop with ready := rest } }) :=
        stepIteration_of_ready ready
      unfold move inWorld
      rw [show stepIteration (left + 1) { machine.world with held := machine.held } = _ from step]
      have carried (id : TransportId) := over_takeReady ready
        ([.letGo callback.refs, .iteration left] ++ below) id
      have base : errandsOf .proceed ([.letGo callback.refs, .iteration left] ++ below) =
          errandsOf .proceed below := errandsOf_of_idle (fun _ => rfl) fun frame member => by
        rcases List.mem_pair.mp member with rfl | rfl
        · rfl
        · rfl
      rw [base] at carried
      refine ⟨fun {id transport} found => ?_, fun {id} beyond => ?_,
        ⟨overseen.aloof.timers, overseen.aloof.remote⟩⟩
      · exact carried id ▸ overseen.attained found
      · exact (carried id).trans (overseen.fresh beyond)

/-- A frame that goes on keeps transports overseen. -/
theorem Sound.overseen_deliver (sound : machine.Sound strict) {frame : Frame} {below : List Frame}
    (split : machine.frames = frame :: below) (done : act? machine.signal = none)
    (passes : machine.Passes frame.aspects (machine.move below (Machine.deliver machine.signal frame)))
    (opened : (machine.move below (Machine.deliver machine.signal frame)).world.loop.closed = false)
    (overseen : Overseen machine.errands machine.world) :
    Overseen (machine.move below (Machine.deliver machine.signal frame)).errands
      (machine.move below (Machine.deliver machine.signal frame)).world := by
  have idle := Signal.isCall_of_done done
  have brings : machine.errands = errandsOf .proceed (frame :: below) := by
    unfold errands
    rw [split]
    exact @errandsOf_of_idle machine.signal [] (frame :: below) (Signal.errand_of_not_call idle)
      fun _ member => (nomatch member)
  have proceeds (only : frame.kinds = [.proceed]) : machine.signal = .proceed :=
    (split ▸ sound.fits).1.eq_proceed only done
  have aside (apart : IsApart frame.aspects) (away : frame.attends = false) :
      Overseen (machine.move below (Machine.deliver machine.signal frame)).errands
        (machine.move below (Machine.deliver machine.signal frame)).world := by
    refine sound.aside passes frame.moving_subset apart opened ?_ overseen
    have base : errandsOf .proceed (frame :: below) = errandsOf .proceed below :=
      @errandsOf_of_idle .proceed [frame] below (fun _ => rfl)
        fun _ member => List.mem_singleton.mp member ▸ away
    rw [brings, base]
    exact (MovesQuietly.deliver done apart machine.holding).errands below
  have mind (only : frame.kinds = [.proceed])
      (minds : MovesMinding machine.held (errandsOf .proceed (frame :: below)) below
        machine.holding (proceedWith frame)) :
      Overseen (machine.move below (Machine.deliver machine.signal frame)).errands
        (machine.move below (Machine.deliver machine.signal frame)).world := by
    rw [proceeds only] at opened ⊢
    rw [← brings] at minds
    exact sound.mind minds opened overseen
  cases frame with
  | afterData id => exact mind rfl (.afterData id)
  | afterEnd id => exact mind rfl (.afterEnd id)
  | afterLoss id => exact mind rfl (.afterLoss id)
  | iteration left =>
    rw [proceeds rfl]
    refine overseen_stepIteration left below ?_
    have base : errandsOf .proceed (.iteration left :: below) = errandsOf .proceed below :=
      @errandsOf_of_idle .proceed [.iteration left] below (fun _ => rfl)
        fun _ member => List.mem_singleton.mp member ▸ rfl
    rw [brings, base] at overseen
    exact overseen
  | closing => exact (sound.not_closing split passes opened).elim
  | repeated | running => exact aside isApart_iterating rfl
  | poll => exact aside isApart_polling rfl
  | script | program | letGo | holding | rounds | joining | selecting => exact aside isApart_moving rfl

/-- Every step of a run keeps transports overseen as long as the loop is open. -/
theorem Sound.overseen_step (sound : machine.Sound False) (step : Step machine after)
    (opened : after.world.loop.closed = false) (overseen : Overseen machine.errands machine.world) :
    Overseen after.errands after.world := by
  cases step.does with
  | @settled ref refs dropped =>
    have passes := (sound.settle dropped fun asked => asked.elim).2
    exact sound.aside passes ref.moving_subset (isApart_settling ref) opened rfl overseen
  | acted clean acts =>
    exact sound.overseen_act acts (sound.act acts fun asked => asked.elim).2 opened overseen
  | delivered clean done split =>
    have passes := (sound.deliver clean done split fun asked => asked.elim).2
    exact sound.overseen_deliver split done passes opened overseen
  | begun halted instruction =>
    obtain ⟨-, empty, value, answer⟩ := sound.answered halted
    have brings : machine.errands = errandsOf .proceed [] := by
      unfold errands
      rw [empty, answer]
      rfl
    rcases instruction.isApart machine.world.loop with apart | ⟨what, rfl⟩
    · have passes := (sound.instructed halted instruction).2
      refine sound.aside passes (instruction.moving_subset _) apart opened ?_ overseen
      exact ((MovesQuietly.beginInstruction .outside instruction _).errands []).trans brings.symm
    · let start : Machine := ⟨(Scenario.takeLog machine.world).2, [], .proceed⟩
      have minds : MovesMinding start.held (errandsOf .proceed []) [] start.holding
          (beginInstruction .outside (.transport what)) := MovesMinding.beginInstruction .outside what
      rw [brings] at overseen
      exact (minds (sound.within_outside halted)).2 opened (overseen.still rfl (.refl _))

/-- When a loop was just built, there are no transports. -/
theorem Initial.overseen (initial : Initial machine) (opened : machine.world.loop.closed = false) :
    Overseen machine.errands machine.world := by
  obtain ⟨frames, signal, bare, isBare, settled, course⟩ := initial.course
  have brings : machine.errands = errandsOf .proceed [] := by
    unfold errands
    rw [frames, signal]
    rfl
  rw [brings]
  refine Overseen.changes (course.changes settled (List.subset_cons_self _ _)) isApart_halting opened ?_
  cases isBare with
  | intro host settings completer =>
    refine ⟨fun found => (nomatch found), fun {id} _ => ?_, ⟨?_, ?_⟩⟩
    · rfl
    · exact fun _ member => (nomatch member)
    · exact fun _ member => (nomatch member)

/-- In every state of a run of a loop that stays open the transports are overseen. -/
theorem Visits.overseen {sort : Machine → Prop} (visits : Visits sort machine)
    (opened : ∀ state, sort state → state.world.loop.closed = false) :
    Overseen machine.errands machine.world := by
  induction visits with
  | initial initial fine => exact initial.overseen (opened _ fine)
  | step earlier step fine ih => exact earlier.reachable.sound.overseen_step step (opened _ fine) ih

end Machine

end EventLoop

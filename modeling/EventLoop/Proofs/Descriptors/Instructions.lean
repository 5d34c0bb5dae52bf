import EventLoop.Proofs.Descriptors.Engine

/-!
# Connections and instructions leave nothing loose

Whatever transports, servers, waiting instructions and instructions from scripts do is made of steps that
leave nothing loose. A socket is made from a descriptor as soon as its calls have succeeded.
-/
namespace EventLoop.World.Trades

open Net (Transport Server Effect)
open Script (Leaf Goal Predicate WaitInstruction)

variable {α : Type} {world : World}

/-! ## Transports -/

/-- Changing a transport has nothing to do with descriptors, whether or not it is still there. -/
theorem changeTransport (id : TransportId) (change : Transport → Transport) :
    Trades 0 world (World.changeTransport id change) cleared := by
  refine first (aside rfl) fun transport? _ => ?_
  cases transport? with
  | none => exact nothing
  | some transport => exact aside rfl

/-- The text that shows a transport is made without touching a descriptor. -/
theorem transportText (transport : Transport) (status : Net.Status) :
    Trades 0 world (World.transportText transport status) cleared := aside rfl

/-- Whatever effect a transport asks for, no descriptor is left loose: operations are submitted or
cancelled, a reaction is scheduled, or a message is written. -/
theorem perform (id : TransportId) (transport : Transport) (effect : Effect) :
    Trades 0 world (World.perform id transport effect) cleared := by
  cases effect with
  | receive =>
    exact get (first (submit _ _) fun _ _ => first (changeTransport _ _) fun _ _ => changeLoop _)
  | send data =>
    exact first (submit _ _) fun _ _ => first (changeTransport _ _) fun _ _ => changeLoop _
  | cancel future => exact cancelAll _
  | announce error => exact first (changeTransport _ _) fun _ _ => changeLoop _
  | warnLostWrites | reportFatal => exact first (transportText _ _) fun _ _ => message _ _

/-- A transition of a transport leaves nothing loose, since none of its effects does. -/
theorem transition (id : TransportId) (otherwise : α)
    (step : Transport → α × List Effect × Transport) :
    Trades 0 world (World.transition id otherwise step) cleared := by
  refine first (aside rfl) fun transport? _ => ?_
  split
  · exact nothing
  · exact first (aside rfl) fun _ _ => first (forM fun effect _ => perform id _ effect) fun _ _ => nothing

/-- A transition without a result leaves nothing loose. -/
theorem advance (id : TransportId) (step : Transport → List Effect × Transport) :
    Trades 0 world (World.advance id step) cleared := transition id () _

/-- Writing to a transport leaves nothing loose. -/
theorem write (id : TransportId) (data : Bytes) : Trades 0 world (World.write id data) cleared :=
  get (advance id _)

/-- Sending back what was received is a write to the protocol's transport, if it has one. -/
theorem echo (protocol : String) (data : Bytes) :
    Trades 0 world (World.echo protocol data) cleared := by
  refine first (named? _ _) fun id? _ => ?_
  cases id? with
  | none => exact nothing
  | some id => exact write id data

/-- The end of a receive leaves nothing loose. -/
theorem receiveEnded (id : TransportId) (future : FutureId) :
    Trades 0 world (World.receiveEnded id future) cleared := get (transition id _ _)

/-- The end of a send leaves nothing loose. -/
theorem sendEnded (id : TransportId) (future : FutureId) :
    Trades 0 world (World.sendEnded id future) cleared := get (advance id _)

/-- Asking for the address of a socket leaves its descriptor alone. -/
theorem ownName (fd : Fd) : Trades 0 world (World.onHost (Host.ownName fd)) cleared :=
  hosted fun host => ⟨Kernel.stays_ownName host.kernel fd, .refl _⟩

/-- Asking for the address of a peer leaves the descriptor alone. -/
theorem peerName (fd : Fd) : Trades 0 world (World.onHost (Host.peerName fd)) cleared :=
  hosted fun host => ⟨Kernel.stays_peerName host.kernel fd, .refl _⟩

/-- The peer of a connection is the one that is given, or the host is asked. -/
theorem peerOf (socket : SocketId) (given : Option Address) :
    Trades 0 world (World.peerOf socket given) cleared := by
  cases given with
  | some peer => exact nothing
  | none => exact get (first (peerName _) fun _ _ => nothing)

/-- A transport that is added takes its socket as it is. -/
theorem addTransport (transport : Transport) (reads : Bool) :
    Trades 0 world (World.addTransport transport reads) cleared := by
  cases reads with
  | true | false => exact aside rfl

/-- Opening a transport adds it for a socket that exists, so no descriptor changes hands. -/
theorem openTransport (socket : SocketId) (protocol : Net.Listener) (peer : Option Address)
    (waiter : Option FutureId) (writeOnly : Bool) :
    Trades 0 world (World.openTransport socket protocol peer waiter writeOnly) cleared := by
  refine first (peerOf socket peer) fun _ _ => first (addTransport _ _) fun _ _ => ?_
  cases waiter with
  | none => exact nothing
  | some future => exact first (changeLoop _) fun _ _ => nothing

/-- Telling a protocol something leaves nothing loose. -/
theorem tellProtocol (id : TransportId) (notice : Net.Notice) :
    Trades 0 world (World.tellProtocol id notice) cleared := by
  refine first (aside rfl) fun transport? _ => ?_
  split
  · exact nothing
  · exact aside rfl

/-- Taking a protocol away to tell it of the loss leaves nothing loose. -/
theorem takeProtocol (id : TransportId) (error : Option Error) :
    Trades 0 world (World.takeProtocol id error) cleared := by
  refine first (aside rfl) fun transport? _ => ?_
  split
  · exact nothing
  · exact first (aside rfl) fun _ _ => first (transportText _ _) fun _ _ =>
      first (message _ _) fun _ _ => nothing

/-- Closing the socket of a transport closes a descriptor that the socket owns. -/
theorem closeTransportSocket (id : TransportId) :
    Trades 0 world (World.closeTransportSocket id) cleared := by
  refine first (aside rfl) fun transport? _ => ?_
  cases transport? with
  | none => exact nothing
  | some transport =>
    exact first (aside rfl) fun _ _ => first (forgetSocket _) fun _ _ => closeSocket _

/-! ## Servers -/

/-- A server that starts serving keeps the listening socket it was given. -/
theorem startServing (name : String) (socket : SocketId) (script : Script.Protocol) :
    Trades 0 world (World.startServing name socket script) cleared :=
  first (aside rfl) fun _ _ => first (message _ _) fun _ _ => aside rfl

/-- Closing a server cancels its accept and closes its socket, if it serves. -/
theorem closeServer (id : ServerId) : Trades 0 world (World.closeServer id) cleared := by
  refine first (aside rfl) fun server? _ => ?_
  cases server? with
  | none => exact nothing
  | some server =>
    dsimp only
    split
    · exact first (aside rfl) fun _ _ => first (aside rfl) fun _ _ => first (message _ _) fun _ _ =>
        first (cancelAll _) fun _ _ => first (forgetSocket _) fun _ _ => closeSocket _
    · exact nothing

/-- Servers that are closed one after another leave nothing loose. -/
theorem closeServers (names : List String) : Trades 0 world (World.closeServers names) cleared := by
  refine forM fun name _ => first (named? _ _) fun found _ => ?_
  cases found with
  | none => exact nothing
  | some id => exact closeServer id

/-- Changing a server has nothing to do with descriptors. -/
theorem changeServer (id : ServerId) (change : Net.Server → Net.Server) :
    Trades 0 world (World.changeServer id change) cleared := by
  refine first (aside rfl) fun server? _ => ?_
  cases server? with
  | none => exact nothing
  | some server => exact aside rfl

/-- The next accept of a server is submitted on its socket, so nothing is left loose. -/
theorem acceptNext (id : ServerId) : Trades 0 world (World.acceptNext id) cleared := by
  refine first (aside rfl) fun server? _ => ?_
  cases server? with
  | none => exact nothing
  | some server =>
    dsimp only
    split
    · exact first (submit _ _) fun _ _ => aside rfl
    · exact nothing

/-- When an accept has ended, the socket that it made belongs to a new transport, or there is none. -/
theorem acceptEnded (id : ServerId) (future : FutureId) :
    Trades 0 world (World.acceptEnded id future) cleared := by
  refine first (aside rfl) fun server? _ => ?_
  cases server? with
  | none => exact nothing
  | some server =>
    refine get ?_
    dsimp only
    split
    · refine first (aside rfl) fun _ _ => first (closeServers _) fun _ _ => ?_
      refine first (openTransport _ _ _ _ _) fun _ _ => first (changeServer _ _) fun _ _ => ?_
      exact first (changeLoop _) fun _ _ => acceptNext id
    · exact aside rfl
    · refine first (aside rfl) fun _ _ => ?_
      split
      · exact first (aside rfl) fun _ _ => first (message _ _) fun _ _ => closeServer id
      · exact closeServer id

/-- Making a socket listen leaves its descriptor open. -/
theorem listenAt (fd : Fd) (address : Address) :
    Trades 0 world (World.onHost (Host.listenAt fd address)) cleared := by
  refine ofHost (first (hosted (Host.stays_silent (Kernel.stays_setReuse · fd))) fun result _ => ?_)
  cases result with
  | error error => exact nothing
  | ok =>
    refine ofHost (first (hosted (Host.stays_silent (Kernel.stays_bind · fd address)))
      fun result _ => ?_)
    cases result with
    | error error => exact nothing
    | ok => exact hosted (Host.stays_silent (Kernel.stays_listen · fd))

/-- A listening socket is made, or what was obtained is given back and there is no new socket. -/
theorem listenerOrNone (address : Option Address) :
    Trades 0 world (World.bindListener address) fun result owed reached =>
      owed = 0 ∧ ∀ error, result = .error error → reached.sockets = world.sockets := by
  cases address with
  | none => exact pure ⟨rfl, fun _ _ => rfl⟩
  | some address =>
    refine bind (hostSocket address.ip).hosts ?_
    rintro result _ opened ⟨rfl, sockets⟩
    cases result with
    | error error => exact pure ⟨rfl, fun _ _ => sockets⟩
    | ok fd =>
      refine thence (listenAt fd address) ?_
      have kept : (World.onHost (Host.listenAt fd address) opened).2.sockets = opened.sockets := rfl
      generalize World.onHost (Host.listenAt fd address) opened = listened at kept ⊢
      obtain ⟨result, reached⟩ := listened
      cases result with
      | error error =>
        refine bind (returned fd 0).hosts ?_
        rintro _ _ closed ⟨rfl, same⟩
        exact pure ⟨rfl, fun _ _ => (same.trans kept).trans sockets⟩
      | ok =>
        refine bind (makeSocket fd 0) ?_
        rintro _ _ _ rfl
        exact pure ⟨rfl, fun _ failed => nomatch failed⟩

/-- A listener is bound and becomes a socket, or its descriptor is given back. -/
theorem bindListener (address : Option Address) :
    Trades 0 world (World.bindListener address) cleared :=
  (listenerOrNone address).weaken fun _ _ _ refused => refused.1

/-! ## The loop's own pipe -/

/-- Interrupting the poll writes to the pipe at most. -/
theorem interrupt : Trades 0 world World.interrupt cleared := by
  unfold World.interrupt
  refine get ?_
  dsimp only
  split
  · exact first (message _ _) fun _ _ =>
      first (hosted (Host.stays_traced (by decide) (Kernel.stays_send · _ _))) fun _ _ => nothing
  · exact nothing

/-- The loop submits the next receive on its own pipe. -/
theorem receiveFromPipe : Trades 0 world World.receiveFromPipe cleared := by
  refine get ?_
  split
  · exact get (first (submit _ _) fun _ _ => changeLoop _)
  · exact nothing

/-- What came out of the pipe is dropped, and the next receive is submitted. -/
theorem pipeRead (future : FutureId) : Trades 0 world (World.pipeRead future) cleared := by
  refine get ?_
  split
  · exact first (message _ _) fun _ _ => receiveFromPipe
  · split
    · exact message _ _
    · exact nothing

/-- Closing the pipe closes the two sockets that own its ends. -/
theorem closePipe : Trades 0 world World.closePipe cleared := by
  refine get (first (still ⟨.refl _, rfl, rfl, Or.inr rfl, id⟩ rfl) fun _ _ => ?_)
  cases world.pipe with
  | none => exact nothing
  | some pipe =>
    exact first (forgetSocket _) fun _ _ => first (closeSocket _) fun _ _ => closeSocket _

/-- Closing the loop begins with its pipe, whose ends are owned, and cancels the operations. -/
theorem beginClose : Trades 0 world World.beginClose cleared :=
  first closePipe fun _ _ => first (changeLoop _) fun _ _ => first cancelOperations fun _ _ =>
    still ⟨.refl _, rfl, rfl, Or.inl rfl, fun still => (Bool.false_ne_true still).elim⟩ rfl

/-! ## Waiting -/

/-- Asking for the waiter of a task changes nothing. -/
theorem waiterOf (task : TaskId) : Trades 0 world (World.waiterOf task) cleared := by
  refine get ?_
  split
  · exact nothing
  · exact nothing

/-- Awaiting a future concerns the loop alone. -/
theorem await (waiter : Waiter) (wait : Wait) : Trades 0 world (World.await waiter wait) cleared :=
  onLoop _

/-- Waiting at a place concerns the loop and the queue of the gate. -/
theorem awaitPlace (waiter : Waiter) (gate : Gate) (wait : Wait) :
    Trades 0 world (World.awaitPlace waiter gate wait) cleared := by
  refine first (await waiter wait) fun result _ => ?_
  split
  · exact nothing
  · exact first (settlePlace _ _) fun _ _ => first (changeLoop _) fun _ _ => nothing

/-- A caller that resumes takes its turn or not; descriptors are not involved. -/
theorem awaitTurn (waiter : Waiter) (gate : Gate) (wait : Wait) :
    Trades 0 world (World.awaitTurn waiter gate wait) cleared := by
  refine first (awaitPlace waiter gate wait) fun result _ => ?_
  split
  · exact nothing
  · exact optional (fun _ => takeTurn gate) fun _ _ => nothing

/-- A caller that asks for its turn takes it, or parks and waits. -/
theorem beginTurn (waiter : Waiter) (gate : Gate) (timeout : Option Nat) :
    Trades 0 world (World.beginTurn waiter gate timeout) cleared := by
  refine first (isOpenGate gate) fun opened _ => ?_
  split
  · exact first (takeTurn gate) fun _ _ => nothing
  · exact first (park gate timeout) fun _ _ => awaitTurn waiter gate _

/-- A caller that begins to wait for a notification gives the lock back and parks. -/
theorem beginNotice (waiter : Waiter) (id : ConditionId) (timeout : Option Nat) (goal : Goal) :
    Trades 0 world (World.beginNotice waiter id timeout goal) cleared := by
  refine first (aside rfl) fun condition _ => first (aside rfl) fun locked _ => ?_
  split
  · refine first (releaseLock _) fun _ _ => first (park _ timeout) fun _ _ =>
      first (await waiter _) fun result _ => ?_
    split
    · exact nothing
    · exact nothing
  · exact nothing

/-- Asking a predicate reads a variable or counts, and the answer is written down. -/
theorem ask (waiter : Waiter) (predicate : Predicate) :
    Trades 0 world (World.ask waiter predicate) cleared := by
  cases predicate with
  | holds name value => exact get (first nothing fun _ _ => first (record _ _ _) fun _ _ => nothing)
  | asked needed made => exact first nothing fun _ _ => first (record _ _ _) fun _ _ => nothing

/-- A caller that seeks goes on with its predicate or waits for the next notification. -/
theorem seek (waiter : Waiter) (id : ConditionId) (deadline : Option Nat) (predicate : Predicate) :
    Trades 0 world (World.seek waiter id deadline predicate) cleared := by
  refine first (ask waiter predicate) fun asked _ => ?_
  split
  split
  · exact nothing
  · refine first (aside rfl) fun time _ => ?_
    split
    · exact nothing
    · refine first (beginNotice waiter id _ _) fun result _ => ?_
      split
      · exact nothing
      · exact nothing

/-- A caller that has its lock again answers or goes on seeking. -/
theorem afterRelock (waiter : Waiter) (id : ConditionId) (notified : Bool) (goal : Goal) :
    Trades 0 world (World.afterRelock waiter id notified goal) cleared := by
  cases goal with
  | notification => exact nothing
  | predicate deadline predicate => exact seek waiter id deadline predicate

/-- Taking the lock again leaves nothing loose. -/
theorem relock (waiter : Waiter) (id : ConditionId) (notified : Bool) (goal : Goal) :
    Trades 0 world (World.relock waiter id notified goal) cleared := by
  refine first (aside rfl) fun condition _ => first (beginTurn waiter _ none) fun result _ => ?_
  split
  · exact nothing
  · exact afterRelock waiter id notified goal

/-- Whoever waits for a transport gives up its reference to it once that is set up. -/
theorem awaitTransport (waiter : Waiter) (transport : TransportId) (wait : Wait)
    (target : Address) : Trades 0 world (World.awaitTransport waiter transport wait target) cleared := by
  refine first (await waiter wait) fun result _ => ?_
  split
  · exact nothing
  · refine first (changeLoop _) fun _ _ => first (changeLoop _) fun _ _ => ?_
    split
    · exact nothing
    · exact nothing

/-- A connection that is made gets a transport; the socket of one that failed is given up. -/
theorem awaitConnection (waiter : Waiter) (socket : SocketId) (wait : Wait) (target : Address)
    (name : String) (script : Script.Protocol) :
    Trades 0 world (World.awaitConnection waiter socket wait target name script) cleared := by
  refine first (await waiter wait) fun result _ => ?_
  split
  · exact nothing
  · exact first (changeLoop _) fun _ _ => first (changeLoop _) fun _ _ => nothing
  · exact first (changeLoop _) fun _ _ => first (onLoop _) fun _ _ =>
      first (openTransport _ _ _ _ _) fun _ _ => awaitTransport waiter _ _ target

/-- Whatever a call waits for, trying it again leaves nothing loose. -/
theorem tryLeaf (waiter : Waiter) (leaf : Leaf) :
    Trades 0 world (World.tryLeaf waiter leaf) cleared := by
  cases leaf with
  | nextPoll => exact nothing
  | result wait =>
    refine first (await waiter wait) fun result _ => ?_
    split
    · exact nothing
    · exact first (changeLoop _) fun _ _ => get nothing
  | turn gate wait =>
    refine first (awaitTurn waiter gate wait) fun result _ => ?_
    split
    · exact nothing
    · exact nothing
  | notice id wait goal =>
    refine first (awaitPlace waiter _ wait) fun result _ => ?_
    split
    · exact nothing
    · exact relock waiter id _ goal
  | relock id lock wait notified goal =>
    refine first (awaitTurn waiter _ wait) fun result _ => ?_
    split
    · exact nothing
    · exact afterRelock waiter id notified goal
    · exact relock waiter id notified goal
  | connecting socket wait target name script =>
    exact awaitConnection waiter socket wait target name script
  | establishing transport wait target => exact awaitTransport waiter transport wait target

/-- Beginning at a gate leaves nothing loose. -/
theorem beginGate (waiter : Waiter) (gate : Gate) (timeout : Option Nat) :
    Trades 0 world (World.beginGate waiter gate timeout) cleared := by
  refine first (beginTurn waiter gate timeout) fun result _ => ?_
  split
  · exact nothing
  · exact nothing

/-- What is done with an object that has a name leaves nothing loose, if it does not for any object. -/
theorem withNamed {kind : ObjectClass} {name : String} {action : Nat → WorldM Answer}
    (each : ∀ id world, Trades 0 world (action id) cleared) :
    Trades 0 world (World.withNamed kind name action) cleared := by
  refine first (named? kind name) fun id? reached => ?_
  split
  · exact each _ reached
  · exact nothing

/-- Beginning a wait leaves nothing loose, whichever wait it is. -/
theorem beginWait (waiter : Waiter) (instruction : WaitInstruction) :
    Trades 0 world (World.beginWait waiter instruction) cleared := by
  cases instruction with
  | future name => exact withNamed fun future _ => tryLeaf waiter _
  | task name =>
    refine withNamed fun id _ => first (forget _ _) fun _ _ => get ?_
    split
    · exact tryLeaf waiter _
    · exact nothing
  | sleep delay => exact first (aside rfl) fun _ _ => first (onLoop _) fun _ _ => tryLeaf waiter _
  | lock name timeout | semaphore name timeout | event name timeout =>
    exact withNamed fun id _ => beginGate waiter _ timeout
  | conditionLock name timeout =>
    exact withNamed fun id _ => first (aside rfl) fun _ _ => beginGate waiter _ timeout
  | condition name timeout =>
    refine withNamed fun id _ => first (beginNotice waiter id timeout _) fun result _ => ?_
    split
    · exact nothing
    · exact nothing
  | conditionUntil name timeout predicate =>
    exact withNamed fun id _ => first (aside rfl) fun _ _ => seek waiter id _ predicate
  | yield => exact first (changeLoop _) fun _ _ => nothing
  | park name => exact first (store _ _ _) fun _ _ => nothing

/-- The address of a target is given, or the host is asked for that of a server. -/
theorem targetAddress (target : Script.Target) :
    Trades 0 world (World.targetAddress target) cleared := by
  cases target with
  | address address => exact nothing
  | server name =>
    refine first (named? _ _) fun id? _ => ?_
    split
    · exact nothing
    · refine first (aside rfl) fun server? _ => ?_
      split
      · exact nothing
      · exact get (ownName _)

/-- The socket for a connection is made before anything is submitted on it. -/
theorem beginConnection (waiter : Waiter) (name : String) (target : Script.Target)
    (script : Script.Protocol) :
    Trades 0 world (World.beginConnection waiter name target script) cleared := by
  refine first (targetAddress target) fun result _ => ?_
  split
  · exact nothing
  · refine bind (hostSocket _) ?_
    rintro made _ reached rfl
    cases made with
    | error error => exact nothing
    | ok fd =>
      refine bind (makeSocket fd 0) ?_
      rintro socket _ reached rfl
      exact first (submit _ _) fun _ _ => awaitConnection waiter socket _ _ name script

/-! ## Instructions -/

/-- What an instruction does with a named object leaves nothing loose, if it does not for any object. -/
theorem onNamed {kind : ObjectClass} {name : String} {action : Nat → WorldM Value}
    (each : ∀ id world, Trades 0 world (action id) cleared) :
    Trades 0 world (World.onNamed kind name action) cleared := by
  refine first (named? kind name) fun id? reached => ?_
  split
  · exact each _ reached
  · exact nothing

/-- The value that shows a timer is made without changes. -/
theorem timerValue (id : TimerId) : Trades 0 world (World.timerValue id) cleared := by
  refine get ?_
  split
  · exact nothing
  · exact nothing

/-- Instructions for the loop leave nothing loose. -/
theorem doLoop (instruction : Script.LoopInstruction) :
    Trades 0 world (World.doLoop instruction) cleared := by
  cases instruction with
  | stop | stopByHandle | close | giveUp | state | handleState | now => exact aside rfl
  | advance time =>
    exact first (hosted fun host => ⟨Kernel.stays_advance _ _, .refl _⟩) fun _ _ => aside rfl
  | cancelTimer name => exact onNamed fun id _ => first (changeLoop _) fun _ _ => nothing
  | timerState name => exact onNamed fun id _ => timerValue id
  | remoteStop => exact first (changeLoop _) fun _ _ => first interrupt fun _ _ => nothing
  | failPoll error =>
    refine first (still ?_ rfl) fun _ _ => nothing
    rcases world with ⟨_, _, _, completer, _⟩
    cases completer with
    | engine => exact .of_devices rfl
    | scripted => exact ⟨.refl _, rfl, rfl, Or.inl rfl, id⟩

/-- What is supplied for a future is read off the names. -/
theorem suppliedPayload (kind : FutureKind) (supply : Script.Supply) :
    Trades 0 world (World.suppliedPayload kind supply) cleared := by
  cases kind with
  | unit | bytes | value => exact nothing
  | connection => exact first (named? _ _) fun _ _ => nothing

/-- The value that shows a future is made without changes. -/
theorem futureValue (id : FutureId) : Trades 0 world (World.futureValue id) cleared := by
  refine get ?_
  dsimp only
  split
  · exact nothing
  · exact nothing

/-- Instructions for futures leave nothing loose. -/
theorem doFuture (instruction : Script.FutureInstruction) :
    Trades 0 world (World.doFuture instruction) cleared := by
  cases instruction with
  | make | sleep =>
    exact first (aside rfl) fun _ _ => first (onLoop _) fun _ _ => first (store _ _ _) fun _ _ => nothing
  | setResult name supply =>
    exact onNamed fun id _ => get (first (suppliedPayload _ supply) fun _ _ =>
      first (resolve _ _) fun _ _ => nothing)
  | setError | cancel => exact onNamed fun id _ => first (resolve _ _) fun _ _ => nothing
  | state name => exact onNamed fun id _ => futureValue id
  | result name => exact onNamed fun id _ => get nothing
  | clone name copy => exact onNamed fun id _ => first (store _ _ _) fun _ _ => nothing
  | same name other => exact onNamed fun id _ => onNamed fun other _ => nothing

/-- Cancelling a task concerns the loop alone. -/
theorem cancelTask (id : TaskId) : Trades 0 world (World.cancelTask id) cleared := by
  refine get ?_
  split
  · exact nothing
  · split
    · exact nothing
    · refine first (onLoop _) fun activity? _ => ?_
      cases activity? with
      | none => exact first (cancelAll _) fun _ _ => nothing
      | some activity =>
        exact first (abandonProgram _ _) fun _ _ => first (cancelAll _) fun _ _ => nothing

/-- Instructions for tasks leave nothing loose. -/
theorem doTask (instruction : Script.TaskInstruction) :
    Trades 0 world (World.doTask instruction) cleared := by
  cases instruction with
  | cancel name => exact onNamed fun id _ => first (cancelTask id) fun _ _ => nothing
  | state name =>
    refine onNamed fun id _ => get ?_
    split
    · exact nothing
    · exact nothing
  | resultFuture name future =>
    refine onNamed fun id _ => get ?_
    split
    · exact first (store _ _ _) fun _ _ => nothing
    · exact nothing
  | wake name foreign =>
    refine onNamed fun waker _ => first (changeLoop _) fun _ _ => ?_
    exact optional (fun _ => interrupt) fun _ _ => nothing
  | setVar name value => exact aside rfl

/-- Instructions for primitives leave nothing loose. -/
theorem doSync (instruction : Script.SyncInstruction) :
    Trades 0 world (World.doSync instruction) cleared := by
  cases instruction with
  | makeLock | makeSemaphore | makeEvent =>
    exact first (aside rfl) fun _ _ => first (store _ _ _) fun _ _ => nothing
  | releaseLock name => exact onNamed fun id _ => first (releaseLock id) fun _ _ => nothing
  | releaseSemaphore name => exact onNamed fun id _ => first (releaseSemaphore id) fun _ _ => nothing
  | setEvent name => exact onNamed fun id _ => first (raiseEvent id) fun _ _ => nothing
  | clearEvent name =>
    exact onNamed fun id _ => first (aside rfl) fun _ _ => first (aside rfl) fun _ _ => nothing
  | lockState | semaphoreState | eventState =>
    exact onNamed fun id _ => first (aside rfl) fun _ _ => nothing
  | makeCondition name lock? =>
    have rest (lock : LockId) (world : World) : Trades 0 world (do
        World.store .condition name (← World.makeCondition lock)
        return .null : WorldM Value) cleared :=
      first (aside rfl) fun _ _ => first (store _ _ _) fun _ _ => nothing
    have second (shared : Option LockId) (world : World) : Trades 0 world (do
        let lock ← match shared with
          | some lock => Pure.pure lock
          | none => World.makeLock
        World.store .condition name (← World.makeCondition lock)
        return .null : WorldM Value) cleared := by
      cases shared with
      | none => exact first (aside rfl) rest
      | some lock => exact rest lock world
    cases lock? with
    | none => exact second none world
    | some lock => exact first (named? _ _) second
  | conditionLock name lock =>
    exact onNamed fun id _ => first (aside rfl) fun _ _ => first (store _ _ _) fun _ _ => nothing
  | releaseCondition name =>
    exact onNamed fun id _ => first (aside rfl) fun _ _ => first (releaseLock _) fun _ _ => nothing
  | notify | notifyAll => exact onNamed fun id _ => first (notify id _) fun _ _ => nothing
  | conditionState name =>
    exact onNamed fun id _ => first (aside rfl) fun _ _ => first (aside rfl) fun _ _ => nothing

/-- Storing a socket under a name leaves nothing loose. -/
theorem storeSocket (name : String) (result : Except IoError SocketId) :
    Trades 0 world (World.storeSocket name result) cleared := by
  cases result with
  | error error => exact nothing
  | ok socket => exact get (first (store _ _ _) fun _ _ => nothing)

/-- An operation is submitted on a socket that exists, and its future gets a name. -/
theorem submitNamed (name : String) (subject : Proactor.Subject) (future : String) :
    Trades 0 world (World.submitNamed name subject future) cleared :=
  onNamed fun socket _ => first (submit socket subject) fun _ _ => first (store _ _ _) fun _ _ => nothing

/-- Instructions for sockets leave nothing loose: whoever obtains a descriptor makes a socket of it. -/
theorem doSocket (instruction : Script.SocketInstruction) :
    Trades 0 world (World.doSocket instruction) cleared := by
  cases instruction with
  | pair left right =>
    refine bind hostPair ?_
    rintro result _ reached rfl
    cases result with
    | error error => exact nothing
    | ok pair =>
      obtain ⟨leftFd, rightFd⟩ := pair
      refine bind (makeSocket leftFd {rightFd}) ?_
      rintro _ _ reached rfl
      refine bind (makeSocket rightFd 0) ?_
      rintro _ _ reached rfl
      exact first (store _ _ _) fun _ _ => first (store _ _ _) fun _ _ => nothing
  | stream name address =>
    refine bind (hostSocket _) ?_
    rintro result _ reached rfl
    cases result with
    | error error => exact nothing
    | ok fd =>
      refine bind (makeSocket fd 0) ?_
      rintro socket _ reached rfl
      exact storeSocket name _
  | listener name address => exact first (bindListener _) fun result _ => storeSocket name result
  | state name =>
    exact onNamed fun socket _ => get (first (ownName _) fun _ _ => first (peerName _) fun _ _ =>
      first (aside rfl) fun _ _ => nothing)
  | close name => exact onNamed fun socket _ => first (closeSocket socket) fun _ _ => nothing
  | clone name copy => exact onNamed fun socket _ => first (store _ _ _) fun _ _ => nothing
  | receive name limit future | send name data future | accept name future =>
    exact submitNamed name _ future
  | connect name target future =>
    refine first (targetAddress target) fun result _ => ?_
    split
    · exact nothing
    · exact submitNamed name _ future
  | accepted future name =>
    refine onNamed fun id _ => get ?_
    split
    · exact storeSocket name _
    · exact nothing
    · exact nothing

/-- What is done with a transport that a script refers to leaves nothing loose, if it does not for any
transport. -/
theorem onTransport {protocol : Option String} {reference : Script.TransportRef}
    {action : TransportId → WorldM Value} (each : ∀ id world, Trades 0 world (action id) cleared) :
    Trades 0 world (World.onTransport protocol reference action) cleared := by
  unfold World.onTransport
  split
  · exact onNamed each
  · exact nothing

/-- Instructions for transports leave nothing loose. -/
theorem doTransport (protocol : Option String) (instruction : Script.TransportInstruction) :
    Trades 0 world (World.doTransport protocol instruction) cleared := by
  cases instruction with
  | write reference data => exact onTransport fun id _ => first (write id data) fun _ _ => nothing
  | close | abort => exact onTransport fun id _ => first (advance id _) fun _ _ => nothing
  | state reference =>
    refine onTransport fun id _ => first (aside rfl) fun transport? _ => ?_
    split
    · exact nothing
    · exact get (first (transportText _ _) fun _ _ => nothing)
  | socket reference name =>
    refine onTransport fun id _ => first (aside rfl) fun transport? _ => ?_
    split
    · exact first (store _ _ _) fun _ _ => nothing
    · exact nothing
  | closeServer name => exact onNamed fun id _ => first (closeServer id) fun _ _ => nothing
  | closeOnConnection name closes =>
    exact onNamed fun id _ => first (changeServer id _) fun _ _ => nothing
  | serverState name =>
    refine onNamed fun id _ => first (aside rfl) fun server? _ => ?_
    split
    · exact nothing
    · exact get (first (ownName _) fun _ _ => nothing)

/-- A call of the kernel on a named descriptor leaves nothing loose, if the kernel keeps its
descriptors. -/
theorem callKernel {name : String} {shown : α → Value}
    {call : Fd → Kernel → Except Errno α × Kernel}
    (stays : ∀ fd (kernel : Kernel), kernel.Stays (call fd kernel).2) :
    Trades 0 world (World.callKernel name shown call) cleared :=
  onNamed fun _ _ => get (first (hosted (Host.stays_silent (stays _))) fun _ _ => nothing)

/-- Instructions for the kernel leave nothing loose. -/
theorem doSystem (instruction : Script.SystemInstruction) :
    Trades 0 world (World.doSystem instruction) cleared := by
  cases instruction with
  | operations =>
    refine get ?_
    split
    · exact nothing
    · exact nothing
  | operation choice name =>
    refine get ?_
    split
    · exact nothing
    · dsimp only
      split
      · split
        · exact first (store _ _ _) fun _ _ => nothing
        · exact first (store _ _ _) fun _ _ => nothing
      · split
        · exact nothing
        · exact nothing
  | fault call error times name? =>
    have armed (fd? : Option Fd) (world : World) : Trades 0 world (do
        World.onHost (modify fun host =>
          { host with kernel := host.kernel.arm { call, error, times, fd? } })
        return .null : WorldM Value) cleared :=
      first (hosted fun host => ⟨Kernel.stays_arm _ _, .refl _⟩) fun _ _ => nothing
    cases name? with
    | none => exact armed none world
    | some name => exact get (first (named? _ _) fun _ _ => armed _ _)
  | send name data => exact callKernel fun fd kernel => kernel.stays_send fd data
  | receive name limit => exact callKernel fun fd kernel => kernel.stays_receive fd limit
  | fail name error => exact callKernel fun fd kernel => kernel.stays_leaveError fd error

/-- Dropping a named object gives its reference up, and what follows from that is closed by its owner. -/
theorem doDrop (kind : ObjectClass) (name : String) :
    Trades 0 world (World.doDrop kind name) cleared := by
  cases kind with
  | var => exact aside rfl
  | _ => exact first (forget _ _) fun _ _ => nothing

/-- Scheduling a callback concerns the loop alone. -/
theorem callAt (name : String) (deadline : Nat) (body : Script.Body) :
    Trades 0 world (World.callAt name deadline body) cleared :=
  first (onLoop _) fun _ _ => first (store _ _ _) fun _ _ => timerValue _

/-- Spawning a task concerns the loop alone. -/
theorem spawn (name : String) (body : Script.Body) :
    Trades 0 world (World.spawn name body) cleared :=
  first (onLoop _) fun _ _ => get (optional (fun _ => recordEnd name) fun _ _ => nothing)

/-- A transport that a script opens is made for the socket it names. -/
theorem doOpenTransport (name socket : String) (options : Script.TransportOptions)
    (script : Script.Protocol) :
    Trades 0 world (World.doOpenTransport name socket options script) cleared := by
  refine onNamed fun socket world => ?_
  have opened (waiter : Option FutureId) (world : World) : Trades 0 world (do
      let id ← World.openTransport socket ⟨name, script⟩ options.peer waiter options.writeOnly
      World.store .transport name id
      return .null : WorldM Value) cleared :=
    first (openTransport _ _ _ _ _) fun _ _ => first (store _ _ _) fun _ _ => nothing
  split
  · exact first (named? _ _) opened
  · exact opened none world

/-- The listener of a server is made, or nothing is left open. -/
theorem doOpenServer (name : String) (source : Script.ListenerSource) (script : Script.Protocol) :
    Trades 0 world (World.doOpenServer name source script) cleared := by
  have serves (socket : SocketId) (world : World) : Trades 0 world (do
      World.store .server name (← World.startServing name socket script)
      return .ok .null : WorldM Value) cleared :=
    first (startServing _ _ _) fun _ _ => first (store _ _ _) fun _ _ => nothing
  cases source with
  | socket socket => exact onNamed serves
  | address text =>
    refine first (bindListener _) fun result reached => ?_
    cases result with
    | error error => exact nothing
    | ok socket => exact serves socket reached

/-- Whatever an instruction does, no descriptor is left loose. -/
theorem doInstruction (protocol : Option String) (instruction : Script.Instruction) :
    Trades 0 world (World.doInstruction protocol instruction) cleared := by
  cases instruction with
  | loop instruction => exact doLoop instruction
  | future instruction => exact doFuture instruction
  | task instruction => exact doTask instruction
  | sync instruction => exact doSync instruction
  | socket instruction => exact doSocket instruction
  | transport instruction => exact doTransport protocol instruction
  | system instruction => exact doSystem instruction
  | drop kind name => exact doDrop kind name
  | callSoon name body => exact first (changeLoop _) fun _ _ => nothing
  | callLater name delay body => exact first (aside rfl) fun _ _ => callAt name _ body
  | callAt name deadline body => exact callAt name deadline body
  | callRemote name body => exact first (changeLoop _) fun _ _ => first interrupt fun _ _ => nothing
  | onDone future name body => exact onNamed fun id _ => first (changeLoop _) fun _ _ => nothing
  | onTaskDone task name body =>
    refine onNamed fun id _ => get ?_
    split
    · exact first (changeLoop _) fun _ _ => nothing
    · exact nothing
  | spawn name body => exact first (spawn name body) fun _ _ => first (store _ _ _) fun _ _ => nothing
  | openTransport name socket options script => exact doOpenTransport name socket options script
  | openServer name source script => exact doOpenServer name source script
  | _ => exact nothing

end EventLoop.World.Trades

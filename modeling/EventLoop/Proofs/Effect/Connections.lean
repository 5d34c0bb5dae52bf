import EventLoop.Proofs.Effect.Devices
import EventLoop.Proofs.Effect.Silence

/-!
# Transports, servers and the pipe are calm

A transition of a transport cancels operations of its own only, and those that it keeps were its own
before.
-/
namespace EventLoop

namespace Net.Transport

/-- A transition of a transport cancels no other futures than those of the transport, leaves it with no
others, and keeps its socket and the peer's address. -/
structure Yields (before : Transport) (effects : List Effect) (after : Transport) : Prop where
  /-- What is cancelled was the transport's. -/
  cancels : ∀ future, Effect.cancel future ∈ effects → future ∈ before.futures
  /-- What is left was the transport's. -/
  futures : after.futures ⊆ before.futures
  /-- The socket and the peer's address are the same. -/
  line : after.line = before.line

namespace Yields

variable {transport : Transport}

/-- A transition that asks for nothing and keeps the operations. -/
theorem of_eq {before after : Transport} (futures : after.futures = before.futures)
    (line : after.line = before.line) : before.Yields [] after :=
  ⟨fun _ member => absurd member List.not_mem_nil, fun _ member => futures ▸ member, line⟩

/-- What a transport without some of its operations yields, it yields itself. -/
theorem of_fewer {fewer after : Transport} {effects : List Effect}
    (futures : fewer.futures ⊆ transport.futures) (line : fewer.line = transport.line)
    (yields : fewer.Yields effects after) : transport.Yields effects after :=
  ⟨fun future member => futures (yields.cancels future member),
    fun _ member => futures (yields.futures member), yields.line.trans line⟩

/-- Announcing a loss cancels nothing and leaves the operations as they are. -/
theorem announceLoss (error : Option Error) :
    transport.Yields (transport.announceLoss error).1 (transport.announceLoss error).2 := by
  unfold Transport.announceLoss
  split
  · exact of_eq rfl rfl
  · exact ⟨fun future member => by simp at member, fun _ member => member, rfl⟩

/-- Sending what waits asks for a send or announces the loss, and cancels nothing. -/
theorem sendNext : transport.Yields transport.sendNext.1 transport.sendNext.2 := by
  unfold Transport.sendNext
  split
  · split
    · exact announceLoss none
    · exact of_eq rfl rfl
  · exact ⟨fun future member => by simp at member, fun _ member => member, rfl⟩

/-- A write adds to the buffer, asks for a send, or is dropped. -/
theorem write (data : Bytes) (threshold : Nat) :
    transport.Yields (transport.write data threshold).1 (transport.write data threshold).2 := by
  unfold Transport.write
  dsimp only
  split
  · exact of_eq rfl rfl
  · split
    · refine ⟨fun future member => ?_, fun _ member => member, rfl⟩
      dsimp only at member
      split at member
      · simp at member
      · cases member
    · split
      · exact of_eq rfl rfl
      · refine of_fewer ?_ ?_ sendNext
        · exact List.Subset.refl _
        · rfl

/-- Closing a transport cancels nothing; at most its loss is announced. -/
theorem close : transport.Yields transport.close.1 transport.close.2 := by
  unfold Transport.close
  split
  · dsimp only
    split
    · refine of_fewer ?_ ?_ (announceLoss none)
      · exact List.Subset.refl _
      · rfl
    · exact of_eq rfl rfl
  · exact of_eq rfl rfl

/-- Closing a transport by force cancels its own operations. -/
theorem forceClose (error : Option Error) :
    transport.Yields (transport.forceClose error).1 (transport.forceClose error).2 := by
  unfold Transport.forceClose
  split
  · exact of_eq rfl rfl
  · have lost := @announceLoss { transport.beginClosing.note .discarded with
      buffer := [], reading := none, writing := none } error
    have begun : transport.beginClosing.line = transport.line := by
      unfold beginClosing
      split
      · rfl
      · rfl
    refine ⟨fun future member => ?_, fun future member => ?_, lost.line.trans begun⟩
    · rcases List.mem_append.mp member with own | other
      · obtain ⟨future', listed, same⟩ := List.mem_map.mp own
        cases same
        simp only [Transport.futures, List.mem_append] at listed ⊢
        exact listed.symm
      · exact nomatch lost.cancels future other
    · exact nomatch lost.futures member

/-- A failure is a close by force that is reported. -/
theorem fail (error : Error) :
    transport.Yields (transport.fail error).1 (transport.fail error).2 := by
  have closed := @forceClose transport (some error)
  refine ⟨fun future member => ?_, closed.futures, closed.line⟩
  rcases List.mem_cons.mp member with same | other
  · cases same
  · exact closed.cancels future other

/-- A receive that failed leads to nothing, or closes the transport by force. -/
theorem receiveFailed (error : Error) :
    transport.Yields (transport.receiveFailed error).1 (transport.receiveFailed error).2 := by
  unfold Transport.receiveFailed
  split
  · exact of_eq rfl rfl
  · split
    · exact of_eq rfl rfl
    · split
      · exact forceClose (some error)
      · exact fail error

/-- A send that failed leads to nothing, or closes the transport by force. -/
theorem sendFailed (error : Error) :
    transport.Yields (transport.sendFailed error).1 (transport.sendFailed error).2 := by
  unfold Transport.sendFailed
  split
  · exact of_eq rfl rfl
  · split
    · exact forceClose none
    · split
      · exact forceClose (some error)
      · exact fail error

/-- The end of a send makes the transport forget it and go on with what is buffered. -/
theorem sendEnded (error : Option Error) :
    transport.Yields (transport.sendEnded error).1 (transport.sendEnded error).2 := by
  have fewer : ({ transport.note (.sent error) with writing := none } : Transport).futures ⊆
      transport.futures := by
    intro future member
    simp only [Transport.futures, Option.toList_none, List.append_nil] at member
    exact List.mem_append_left _ member
  cases error with
  | none => exact of_fewer fewer rfl sendNext
  | some error => exact of_fewer fewer rfl (sendFailed error)

/-- The end of a receive makes the transport forget it and go on, end or fail. -/
theorem receiveEnded (outcome : Except Error Bytes) :
    transport.Yields (transport.receiveEnded outcome).2.1
      (transport.receiveEnded outcome).2.2 := by
  have fewer : ({ transport with reading := none } : Transport).futures ⊆ transport.futures := by
    intro future member
    simp only [Transport.futures, Option.toList_none, List.nil_append] at member
    exact List.mem_append_right _ member
  unfold Transport.receiveEnded
  cases outcome with
  | error error => exact of_fewer fewer rfl (receiveFailed error)
  | ok data =>
    dsimp only
    split
    · exact ⟨fun _ member => absurd member List.not_mem_nil, fewer, rfl⟩
    · split
      · exact ⟨fun _ member => absurd member List.not_mem_nil, fewer, rfl⟩
      · exact ⟨fun _ member => absurd member List.not_mem_nil, fewer, rfl⟩

/-- The next receive is asked for only, so nothing new is among the operations. -/
theorem receiveNext : transport.Yields transport.receiveNext.1 transport.receiveNext.2 := by
  unfold Transport.receiveNext
  split
  · exact ⟨fun future member => by simp at member, fun _ member => member, rfl⟩
  · exact of_eq rfl rfl

end Yields

/-- What the protocol is told does not change the operations of a transport. -/
@[simp]
theorem futures_tell (transport : Transport) (notice : Notice) :
    (transport.tell notice).futures = transport.futures := by
  unfold tell
  split
  · rfl
  · rfl

/-- The loss of the connection does not change the operations of a transport. -/
@[simp]
theorem futures_connectionLost (transport : Transport) (error : Option Error) :
    (transport.connectionLost error).futures = transport.futures :=
  futures_tell transport (.lost error)

/-- What the protocol is told does not change what a transport is connected to. -/
@[simp]
theorem line_tell (transport : Transport) (notice : Notice) :
    (transport.tell notice).line = transport.line := by
  unfold tell
  split
  · rfl
  · rfl

/-- The loss of the connection does not change what a transport is connected to. -/
@[simp]
theorem line_connectionLost (transport : Transport) (error : Option Error) :
    (transport.connectionLost error).line = transport.line :=
  line_tell transport (.lost error)

end Net.Transport

namespace World.Calm

open Net (Transport Server Effect Listener)

variable {α β : Type} {scope : Scope} {n : Nat} {world : World}

/-! ## Transports -/

/-- The operations of a transport are known. -/
theorem transport? (id : TransportId) :
    Does scope n calm world (transport? id) fun transport? reached =>
      ∀ transport ∈ transport?, reached.transports.get? id = some (some transport) ∧
        ∀ future ∈ transport.futures, reached.loop.Knows scope.known future := by
  refine Does.assuming fun within => Does.get (Does.pure ?_)
  intro transport found
  rw [Option.mem_def, Option.join_eq_some_iff] at found
  exact ⟨found, within.transports found⟩

/-- A transport is set if it keeps its connection and its operations are known. -/
theorem setTransport {id : TransportId} {earlier transport : Transport}
    (found : world.transports.get? id = some (some earlier)) (same : transport.line = earlier.line)
    (known : ∀ future ∈ transport.futures, world.loop.Knows scope.known future) :
    Does scope n dealing world (setTransport id transport) anyhow :=
  Does.modify (by decide) (.turned world id earlier transport found same known) trivial

/-- A transport is changed if it keeps its connection and takes on known operations only. -/
theorem changeTransport {change : Transport → Transport} {futures : List FutureId}
    (known : ∀ future ∈ futures, world.loop.Knows scope.known future)
    (fewer : ∀ transport, (change transport).futures ⊆ futures ++ transport.futures)
    (line : ∀ transport, (change transport).line = transport.line)
    (id : TransportId) : Does scope n dealing world (changeTransport id change) anyhow := by
  refine Does.bind ((transport? id).knows known).dealing ?_
  rintro found reached ⟨own, known⟩
  split
  · rename_i transport
    refine setTransport (own transport rfl).1 (line transport) fun other member => ?_
    rcases List.mem_append.mp (fewer transport member) with new | old
    · exact known other new
    · exact (own transport rfl).2 other old
  · exact Does.pure trivial

/-- The text that shows a socket is made without changes. -/
theorem socketText (socket : SocketId) :
    Does scope n calm world (socketText socket) anyhow := Does.get (Does.pure trivial)

/-- The text that shows a transport is made without changes. -/
theorem transportText (transport : Transport) (status : Net.Status) :
    Does scope n calm world (transportText transport status) anyhow := Does.get (Does.pure trivial)

/-- A reaction of a transport is registered. -/
theorem bind (future : FutureId) {reaction : Reaction} (aside : reaction.server? = none) :
    Does scope n dealing world (changeLoop (·.whenDone future reaction)) anyhow :=
  Does.changeLoop (by decide) (.bound world future reaction aside) trivial

/-- An effect of a transport is performed on its own operations, or on one that is submitted just now. -/
theorem perform (fresh : scope.Fresh n) (id : TransportId) (transport : Transport)
    {effect : Effect} (known : ∀ future, effect = .cancel future → scope.known future) :
    Does scope n dealing world (perform id transport effect) anyhow := by
  have single {future : FutureId} {world : World} (knows : world.loop.Knows scope.known future) :
      ∀ other ∈ [future], world.loop.Knows scope.known other :=
    fun other member => List.mem_singleton.mp member ▸ knows
  cases effect with
  | receive =>
    refine Does.get (Does.bind (submit fresh _ _).dealing fun future reached new => ?_)
    refine Does.bind (changeTransport (single new) (fun transport other member => ?_)
      (fun _ => by rfl) id) fun _ _ _ => bind _ rfl
    simp only [Transport.futures, Option.toList_some, List.singleton_append, List.mem_cons,
      List.mem_append] at member ⊢
    rcases member with same | old
    · exact Or.inl same
    · exact Or.inr (Or.inr old)
  | send data =>
    refine Does.bind (submit fresh _ _).dealing fun future reached new => ?_
    refine Does.bind (changeTransport (single new) (fun transport other member => ?_)
      (fun _ => by rfl) id) fun _ _ _ => bind _ rfl
    simp only [Transport.futures, Option.toList_some, List.mem_append, List.mem_cons,
      List.not_mem_nil, or_false] at member ⊢
    rcases member with old | same
    · exact Or.inr (Or.inl old)
    · exact Or.inl same
  | cancel future =>
    refine (cancelAll fun other member => ?_).dealing
    rw [List.mem_singleton.mp member]
    exact known future rfl
  | announce error =>
    refine Does.bind (changeTransport (List.forall_mem_nil _) (fun transport => ?_) (fun _ => by rfl) id)
      fun _ reached _ => Does.changeLoop (by decide) (.announced reached id error) trivial
    exact List.Subset.refl transport.futures
  | warnLostWrites =>
    exact (Does.bind (transportText _ _) fun _ _ _ => message _ _).dealing
  | reportFatal status error =>
    exact (Does.bind (transportText _ _) fun _ _ _ => message _ _).dealing

/-- A transition of a transport that yields what it may changes nothing but the transport's part. -/
theorem transition (fresh : scope.Fresh n) (id : TransportId) (otherwise : α)
    {step : Transport → α × List Effect × Transport}
    (yields : ∀ transport : Transport, transport.Yields (step transport).2.1 (step transport).2.2) :
    Does scope n dealing world (transition id otherwise step) anyhow := by
  refine Does.bind (transport? id).dealing fun found reached knownAll => ?_
  split
  · exact Does.pure trivial
  · rename_i transport
    obtain ⟨there, known⟩ := knownAll transport rfl
    have set : Does scope n dealing reached (World.setTransport id (step transport).2.2) anyhow :=
      setTransport there (yields transport).line
        fun future member => known future ((yields transport).futures member)
    refine Does.bind set fun _ _ _ => ?_
    refine Does.bind (Does.forM fun effect member _ => ?_) fun _ _ _ => Does.pure trivial
    refine perform fresh id _ fun future same => (known future ?_).1
    exact (yields transport).cancels future (same ▸ member)

/-- A transition without a result changes nothing but the transport's part. -/
theorem advance (fresh : scope.Fresh n) (id : TransportId)
    {step : Transport → List Effect × Transport}
    (yields : ∀ transport : Transport, transport.Yields (step transport).1 (step transport).2) :
    Does scope n dealing world (advance id step) anyhow :=
  transition fresh id () yields

/-- Writing changes nothing but the transport's part. -/
theorem write (fresh : scope.Fresh n) (id : TransportId) (data : Bytes) :
    Does scope n dealing world (write id data) anyhow :=
  Does.get (advance fresh id fun _ => .write _ _)

/-- Sending back what was received changes nothing but the transport's part. -/
theorem echo (fresh : scope.Fresh n) (protocol : String) (data : Bytes) :
    Does scope n dealing world (echo protocol data) anyhow := by
  refine Does.bind (named? _ _).dealing fun id? _ _ => ?_
  split
  · exact write fresh _ data
  · exact Does.pure trivial

/-- The end of a receive changes nothing but the transport's part. -/
theorem receiveEnded (fresh : scope.Fresh n) (id : TransportId) (future : FutureId) :
    Does scope n dealing world (receiveEnded id future) anyhow :=
  Does.get (transition fresh id _ fun _ => .receiveEnded _)

/-- The end of a send changes nothing but the transport's part. -/
theorem sendEnded (fresh : scope.Fresh n) (id : TransportId) (future : FutureId) :
    Does scope n dealing world (sendEnded id future) anyhow :=
  Does.get (advance fresh id fun _ => .sendEnded _)

/-- The peer of a connection is the one that is given, or the host is asked. -/
theorem peerOf (socket : SocketId) (given : Option Address) :
    Does scope n calm world (peerOf socket given) anyhow := by
  unfold World.peerOf
  split
  · exact Does.pure trivial
  · exact Does.get (Does.bind (onHost _) fun _ _ _ => Does.pure trivial)

/-- A transport is opened for a socket, with a waiter that is known. -/
theorem openTransport (socket : SocketId) (protocol : Listener) (peer : Option Address)
    {waiter : Option FutureId}
    (known : ∀ future ∈ waiter.toList, world.loop.Knows scope.known future) (writeOnly : Bool) :
    Does scope n calm world (openTransport socket protocol peer waiter writeOnly) anyhow := by
  refine Does.bind ((peerOf socket peer).knows known) ?_
  rintro peer addressed ⟨-, known⟩
  have opened : Does scope n calm addressed
      (addTransport { socket, peer, protocol := some protocol } !writeOnly) anyhow :=
    fun _ => ⟨.single (by decide) (.connected addressed socket peer protocol _), trivial⟩
  refine Does.bind (opened.knows known) ?_
  rintro id reached ⟨-, known⟩
  cases waiter with
  | none => exact Does.pure trivial
  | some future =>
    refine Does.bind (callSoon rfl (fun other resolved => ?_) rfl rfl rfl rfl) fun _ _ _ =>
      Does.pure trivial
    rw [← Option.some.inj resolved]
    exact known future (Option.mem_toList.mpr rfl)

/-- Telling a protocol something changes nothing but the transport's part. -/
theorem tellProtocol (id : TransportId) (notice : Net.Notice) :
    Does scope n dealing world (tellProtocol id notice) anyhow := by
  refine Does.bind (transport? id).dealing fun found reached known => ?_
  split
  · exact Does.pure trivial
  · rename_i transport
    obtain ⟨there, own⟩ := known transport rfl
    refine Does.bind (setTransport there (transport.line_tell notice) fun future member => ?_)
      fun _ _ _ => Does.pure trivial
    rw [Transport.futures_tell] at member
    exact own future member

/-- Taking a protocol away changes nothing but the transport's part. -/
theorem takeProtocol (id : TransportId) (error : Option Error) :
    Does scope n dealing world (takeProtocol id error) anyhow := by
  refine Does.bind (transport? id).dealing fun found reached known => ?_
  split
  · exact Does.pure trivial
  · rename_i transport
    obtain ⟨there, own⟩ := known transport rfl
    refine Does.bind (setTransport there (transport.line_connectionLost error)
      fun future member => ?_) fun _ _ _ => ?_
    · rw [Transport.futures_connectionLost] at member
      exact own future member
    · refine Does.bind (transportText _ _).dealing fun _ _ _ => ?_
      exact Does.bind (message _ _).dealing fun _ _ _ => Does.pure trivial

/-- Closing the socket of a transport changes nothing but the transport's part. -/
theorem closeTransportSocket (id : TransportId) :
    Does scope n dealing world (closeTransportSocket id) anyhow := by
  refine Does.bind (transport? id).dealing fun found reached known => ?_
  split
  · rename_i transport
    obtain ⟨there, own⟩ := known transport rfl
    have same : (transport.note .shut).futures = transport.futures := rfl
    refine Does.bind (setTransport there rfl (same ▸ own)) fun _ _ _ => ?_
    exact (Does.bind (forgetSocket _) fun _ _ _ => closeSocket _).dealing
  · exact Does.pure trivial

/-! ## Servers -/

/-- The accept of a server is known. -/
theorem server? (id : ServerId) :
    Does scope n calm world (server? id) fun server? reached =>
      ∀ server ∈ server?, ∀ future ∈ server.accepting,
        reached.loop.Knows scope.known future := by
  refine Does.assuming fun within => Does.get (Does.pure ?_)
  intro server found
  rw [Option.mem_def, Option.join_eq_some_iff] at found
  exact within.servers found

/-- A server is set if its accept is known. -/
theorem setServer {server : Server}
    (known : ∀ future ∈ server.accepting, world.loop.Knows scope.known future)
    (id : ServerId) : Does scope n tending world (setServer id server) anyhow := by
  refine Does.assuming fun within => Does.modify (by decide)
    (.servers world _ ?_) trivial
  intro other server' present
  rw [Table.get?_modify] at present
  split at present
  · rw [Option.map_eq_some_iff] at present
    obtain ⟨_, -, same⟩ := present
    cases same
    exact known
  · exact within.servers present

/-- A server changes if it is still there, and its accept stays known. -/
theorem changeServer {change : Server → Server}
    (same : ∀ server, (change server).accepting = server.accepting) (id : ServerId) :
    Does scope n tending world (changeServer id change) anyhow := by
  refine Does.bind (server? id).tending fun found reached known => ?_
  split
  · rename_i server
    exact setServer (fun future member => known server rfl future (same server ▸ member)) id
  · exact Does.pure trivial

/-- A server is to begin to accept. -/
theorem summon (id : ServerId) :
    Does scope n tending world (World.callSoon (.startAccepting id)) anyhow :=
  Does.changeLoop (by decide) (.summoned world id) trivial

/-- A server is to hear of the end of an accept. -/
theorem enlist (future : FutureId) (id : ServerId) :
    Does scope n tending world (changeLoop (·.whenDone future (.accepted id))) anyhow :=
  Does.changeLoop (by decide) (.enlisted world future id) trivial

/-- A server starts to serve and schedules its first accept. -/
theorem startServing (name : String) (socket : SocketId) (script : Script.Protocol) :
    Does scope n tending world (startServing name socket script) anyhow := by
  refine Does.bind (socketText socket).tending fun _ _ _ => ?_
  refine Does.bind (message _ _).tending fun _ reached _ => ?_
  refine Does.assuming fun within => Does.get (Does.through anyhow
    (Does.set (by decide) (.servers reached _ ?_) trivial)
    fun _ _ _ => ?_)
  · intro other server present
    rw [Table.get?_push] at present
    split at present
    · cases present
      exact fun future member => absurd member (Option.not_mem_none future)
    · exact within.servers present
  · exact Does.bind (summon _) fun _ _ _ => Does.pure trivial

/-- Closing a server changes nothing but the server's part. -/
theorem closeServer (id : ServerId) : Does scope n tending world (closeServer id) anyhow := by
  refine Does.bind (server? id).tending fun found reached known => ?_
  split
  · exact Does.pure trivial
  · rename_i server
    split
    · refine Does.bind (setServer (fun future member =>
        absurd member (Option.not_mem_none future)) id) fun _ _ _ => Does.tending ?_
      refine Does.bind (socketText _) fun _ _ _ => ?_
      refine Does.bind (message _ _) fun _ _ _ => ?_
      refine Does.bind (cancelAll fun future member => ?_) fun _ _ _ => ?_
      · exact (known server rfl future (Option.mem_toList.mp member)).1
      · exact Does.bind (forgetSocket _) fun _ _ _ => closeSocket _
    · exact Does.pure trivial

/-- Servers are closed one after another. -/
theorem closeServers (names : List String) :
    Does scope n tending world (closeServers names) anyhow := by
  refine Does.forM fun name _ _ => Does.bind (named? _ _).tending fun found _ _ => ?_
  split
  · exact closeServer _
  · exact Does.pure trivial

/-- The next accept of a server is submitted just now, so it is known. -/
theorem acceptNext (fresh : scope.Fresh n) (id : ServerId) :
    Does scope n tending world (acceptNext id) anyhow := by
  refine Does.bind (server? id).tending fun found reached known => ?_
  split
  · exact Does.pure trivial
  · rename_i server
    split
    · refine Does.bind (submit fresh _ _).tending fun future _ new => ?_
      refine Does.bind (setServer (fun other member => ?_) id) fun _ _ _ => enlist _ id
      cases member
      exact new
    · exact Does.pure trivial

/-- The end of an accept changes nothing but the server's part, whether a connection came or an error. -/
theorem acceptEnded (fresh : scope.Fresh n) (id : ServerId) (future : FutureId) :
    Does scope n tending world (acceptEnded id future) anyhow := by
  refine Does.bind (server? id).tending fun found reached known => ?_
  split
  · exact Does.pure trivial
  · rename_i server
    have none {server : Server} (empty : server.accepting = none) (world : World) :
        Does scope n tending world (World.setServer id server) anyhow :=
      setServer (fun other member => by rw [empty] at member; cases member) id
    refine Does.get ?_
    dsimp only
    split
    · refine Does.bind (none rfl _) fun _ _ _ => Does.bind (closeServers _) fun _ _ _ => ?_
      refine Does.bind (openTransport _ _ _ (fun other member =>
        absurd member List.not_mem_nil) _).tending fun _ _ _ => ?_
      refine Does.bind (changeServer (fun _ => by rfl) id) fun _ _ _ => ?_
      exact Does.bind (drop _).tending fun _ _ _ => acceptNext fresh id
    · exact none rfl _
    · refine Does.bind (none rfl _) fun _ reached _ => ?_
      split
      · refine Does.bind (socketText _).tending fun _ _ _ => ?_
        exact Does.bind (message _ _).tending fun _ _ _ => closeServer id
      · exact closeServer id

/-! ## The pipe -/

/-- Binding a listener calls the host and makes a socket. -/
theorem bindListener (address : Option Address) :
    Does scope n calm world (bindListener address) anyhow := by
  unfold World.bindListener
  split
  · exact Does.pure trivial
  · refine Does.bind (onHost _) fun _ _ _ => ?_
    split
    · exact Does.pure trivial
    · refine Does.bind (onHost _) fun _ _ _ => ?_
      split
      · exact Does.bind (onHost _) fun _ _ _ => Does.pure trivial
      · exact Does.bind (makeSocket _) fun _ _ _ => Does.pure trivial

/-- Interrupting the poll writes to the pipe at most. -/
theorem interrupt : Does scope n calm world interrupt anyhow := by
  refine Does.get ?_
  dsimp only
  split
  · refine Does.bind (message _ _) fun _ _ _ => ?_
    exact Does.bind (onHost _) fun _ _ _ => Does.pure trivial
  · exact Does.pure trivial

/-- The receive on the loop's own pipe is submitted just now, so it is known. -/
theorem receiveFromPipe (fresh : scope.Fresh n) :
    Does scope n calm world receiveFromPipe anyhow := by
  refine Does.get ?_
  split
  · refine Does.get (Does.bind (submit fresh _ _) fun _ _ _ => whenDone _ rfl rfl)
  · exact Does.pure trivial

/-- After something came out of the pipe, the next receive is submitted. -/
theorem pipeRead (fresh : scope.Fresh n) (future : FutureId) :
    Does scope n calm world (pipeRead future) anyhow := by
  refine Does.get ?_
  split
  · exact Does.bind (message _ _) fun _ _ _ => receiveFromPipe fresh
  · split
    · exact message _ _
    · exact Does.pure trivial

/-! ## The loop's own pipe -/

/-- What is calm may be done while the loop is fitted out or closed. -/
theorem shutting {step : WorldM α} {after : α → World → Prop}
    (does : Does scope n calm world step after) :
    Does scope n (.shutting :: calm) world step after := does.mono (List.subset_cons_self _ _)

/-- Making the loop's own pipe is part of fitting the loop out. -/
theorem makePipe : Does scope n (.shutting :: calm) world makePipe anyhow := by
  refine Does.bind (shutting (onHost _)) fun _ _ _ => ?_
  split
  · exact Does.pure trivial
  · refine Does.bind (shutting (makeSocket _)) fun _ _ _ => ?_
    refine Does.bind (shutting (makeSocket _)) fun _ reached _ => ?_
    refine Does.through anyhow (Does.modify (by decide) (.fitted reached _ _ _) trivial)
      fun _ _ _ => ?_
    refine Does.bind (shutting (callSoon rfl (fun future resolved => nomatch resolved) rfl rfl rfl rfl))
      fun _ _ _ => ?_
    exact Does.pure trivial

/-- Closing the loop's own pipe leaves the loop without it. -/
theorem closePipe : Does scope n (.shutting :: calm) world closePipe fun _ reached =>
    reached.fittings = { world.fittings with pipe := none } := by
  refine Does.get ?_
  dsimp only
  refine Does.through (fun _ reached => reached.fittings = { world.fittings with pipe := none })
    (Does.modify (by decide) (.fitted world _ _ _) rfl) fun _ reached fittings => ?_
  split
  · have closes (pipe : Pipe) : Does scope n calm reached (do
        World.forgetSocket pipe.reader
        World.closeSocket pipe.reader
        World.closeSocket pipe.writer) anyhow :=
      Does.bind (forgetSocket _) fun _ _ _ => Does.bind (closeSocket _) fun _ _ _ => closeSocket _
    exact (shutting ((closes _).fitted (by decide))).weaken fun _ _ same => same.trans fittings
  · exact Does.pure fittings

/-- The first part of closing the loop closes it. It has no pipe any more and takes no operations on. -/
theorem beginClose : Does scope n (.shutting :: calm) world beginClose fun _ reached =>
    reached.fittings = .gone := by
  refine Does.bind closePipe fun _ piped fittings => ?_
  refine Does.through (fun _ reached => reached.loop.closed = true ∧ reached.pipe = none)
    (Does.changeLoop (by decide) (.shut piped) ⟨rfl, congrArg Fittings.pipe fittings⟩)
    fun _ shut closed => ?_
  refine Does.bind (shutting (cancelOperations.fitted (by decide))) fun _ reached same => ?_
  refine Does.modify (by decide) (.fitted reached _ _ _) ?_
  have stays : reached.loop.closed = true := (congrArg Fittings.closed same).trans closed.1
  have none : reached.pipe = none := (congrArg Fittings.pipe same).trans closed.2
  change (⟨reached.loop.closed, reached.pipe, false⟩ : Fittings) = .gone
  rw [stays, none]
  rfl

end World.Calm

end EventLoop

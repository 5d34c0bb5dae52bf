import EventLoop.Proofs.Transport.Replies
import EventLoop.Net.Transport

/-!
# The course of a transport

Seen from a transport, the rest of the world is an outlook: the callbacks that wait to stir it, the
operations of whose ends it is still to hear, what is going on with its protocol, and the effects that
a transition of its own asked for and that were not brought about yet. `Plays` lists all that may happen
next to a transport with its outlook. What is attained by any course of such plays is all that can be
seen of a transport from outside.
-/
namespace EventLoop.Net

/-- What is to come for a transport. -/
structure Outlook where
  /-- The callbacks that wait to stir it, in their order. -/
  stirs : List Callback := []
  /-- The receives of whose ends it is still to hear. -/
  receipts : Multiset FutureId := 0
  /-- The sends of whose ends it is still to hear. -/
  dispatches : Multiset FutureId := 0
  /-- How often its protocol is being handed data at the moment. -/
  handing : Nat := 0
  /-- How often its protocol is being told at the moment that the connection is lost. -/
  losing : Nat := 0
  /-- What was asked for and was not brought about yet. -/
  air : List Effect := []

/-- A transport and what is to come for it. -/
structure Situation where
  /-- The transport. -/
  transport : Transport
  /-- What is to come. -/
  outlook : Outlook

/-- What the protocol is told of an arrival. -/
def Arrival.told : Arrival → Transport → Transport
  | .nothing, transport => transport
  | .data bytes, transport => transport.tell (.data bytes)
  | .endOfStream, transport => transport.tell .endOfStream

/-- How often the protocol is being handed data once there was an arrival. -/
def Arrival.handed : Arrival → Nat
  | .data _ => 1
  | .nothing | .endOfStream => 0

/-- Whether an arrival is nothing to the protocol. -/
def Arrival.isNothing : Arrival → Bool
  | .nothing => true
  | .data _ | .endOfStream => false

/-- Whether an effect changes nothing for its transport but what it hears of its operations. -/
def Effect.isPlain : Effect → Bool
  | .cancel _ | .warnLostWrites | .reportFatal .. => true
  | .receive | .send _ | .announce _ => false

/-- Something that happens to a transport. -/
inductive Plays (id : TransportId) : Situation → Situation → Prop
  /-- Reactions are lost, but none of a send under way. -/
  | lapse (transport : Transport) (outlook : Outlook) {receipts dispatches : Multiset FutureId}
      (receives : receipts ≤ outlook.receipts) (sends : dispatches ≤ outlook.dispatches)
      (kept : ∀ future, transport.writing = some future → future ∈ outlook.dispatches →
        future ∈ dispatches) :
      Plays id ⟨transport, outlook⟩ ⟨transport, { outlook with receipts, dispatches }⟩
  /-- The protocol is told that the connection is made. -/
  | made (transport : Transport) (outlook : Outlook) {rest : List Callback}
      (settled : outlook.air = []) (next : outlook.stirs = .connectionMade id :: rest) :
      Plays id ⟨transport, outlook⟩ ⟨transport.tell .made, { outlook with stirs := rest }⟩
  /-- The transport begins to read. -/
  | started (transport : Transport) (outlook : Outlook) {rest : List Callback}
      (settled : outlook.air = []) (next : outlook.stirs = .startReading id :: rest) :
      Plays id ⟨transport, outlook⟩
        ⟨transport.receiveNext.2, { outlook with stirs := rest, air := transport.receiveNext.1 }⟩
  /-- The protocol is told that the connection is lost. -/
  | lost (transport : Transport) (outlook : Outlook) {error : Option Error} {rest : List Callback}
      (settled : outlook.air = []) (next : outlook.stirs = .connectionLost id error :: rest) :
      Plays id ⟨transport, outlook⟩ ⟨transport.connectionLost error,
        { outlook with stirs := rest, losing := outlook.losing + 1 }⟩
  /-- A receive has ended. -/
  | received (transport : Transport) (outlook : Outlook) {future : FutureId}
      (outcome : Except Error Bytes) (settled : outlook.air = [])
      (due : future ∈ outlook.receipts) :
      Plays id ⟨transport, outlook⟩
        ⟨(transport.receiveEnded outcome).1.told (transport.receiveEnded outcome).2.2,
          { outlook with
            receipts := outlook.receipts.erase future
            handing := outlook.handing + (transport.receiveEnded outcome).1.handed
            air := (transport.receiveEnded outcome).2.1 }⟩
  /-- A send has ended. -/
  | sent (transport : Transport) (outlook : Outlook) {future : FutureId} (error : Option Error)
      (settled : outlook.air = []) (due : future ∈ outlook.dispatches) :
      Plays id ⟨transport, outlook⟩ ⟨(transport.sendEnded error).2,
        { outlook with
          dispatches := outlook.dispatches.erase future, air := (transport.sendEnded error).1 }⟩
  /-- Data is written. -/
  | written (transport : Transport) (outlook : Outlook) (data : Bytes) (threshold : Nat)
      (settled : outlook.air = []) :
      Plays id ⟨transport, outlook⟩ ⟨(transport.write data threshold).2,
        { outlook with air := (transport.write data threshold).1 }⟩
  /-- The transport is closed. -/
  | closed (transport : Transport) (outlook : Outlook) (settled : outlook.air = []) :
      Plays id ⟨transport, outlook⟩
        ⟨transport.close.2, { outlook with air := transport.close.1 }⟩
  /-- The transport is closed at once. -/
  | aborted (transport : Transport) (outlook : Outlook) (settled : outlook.air = []) :
      Plays id ⟨transport, outlook⟩
        ⟨(transport.forceClose none).2, { outlook with air := (transport.forceClose none).1 }⟩
  /-- The protocol was handed data, and the transport goes on to read. -/
  | handed (transport : Transport) (outlook : Outlook) {left : Nat} (settled : outlook.air = [])
      (next : outlook.handing = left + 1) :
      Plays id ⟨transport, outlook⟩ ⟨transport.receiveNext.2,
        { outlook with handing := left, air := transport.receiveNext.1 }⟩
  /-- The protocol was told that the connection is lost, and the socket is closed. -/
  | shut (transport : Transport) (outlook : Outlook) {left : Nat} (settled : outlook.air = [])
      (next : outlook.losing = left + 1) :
      Plays id ⟨transport, outlook⟩
        ⟨transport.note .shut, { outlook with losing := left }⟩
  /-- An effect is brought about that changes nothing for the transport. -/
  | passed (transport : Transport) (outlook : Outlook) {effect : Effect} {rest : List Effect}
      (next : outlook.air = effect :: rest) (plain : effect.isPlain = true) :
      Plays id ⟨transport, outlook⟩ ⟨transport, { outlook with air := rest }⟩
  /-- The loss of the connection is announced. -/
  | announced (transport : Transport) (outlook : Outlook) {error : Option Error}
      {rest : List Effect} (next : outlook.air = .announce error :: rest) :
      Plays id ⟨transport, outlook⟩ ⟨transport.note (.announced error),
        { outlook with stirs := outlook.stirs ++ [Callback.connectionLost id error], air := rest }⟩
  /-- A receive is submitted. -/
  | receives (transport : Transport) (outlook : Outlook) (future : FutureId) {rest : List Effect}
      (next : outlook.air = .receive :: rest) :
      Plays id ⟨transport, outlook⟩
        ⟨{ transport.note .receiving with reading := some future },
          { outlook with receipts := outlook.receipts + {future}, air := rest }⟩
  /-- A send is submitted. -/
  | sends (transport : Transport) (outlook : Outlook) (future : FutureId) {data : Bytes}
      {rest : List Effect} (next : outlook.air = .send data :: rest) :
      Plays id ⟨transport, outlook⟩
        ⟨{ transport.note (.submitted data) with writing := some future },
          { outlook with dispatches := outlook.dispatches + {future}, air := rest }⟩

/-- What can become of a transport with a number, and of its outlook. -/
inductive Attained (id : TransportId) : Situation → Prop
  /-- A transport was opened. -/
  | opened (socket : SocketId) (peer : Option Address) (protocol : Listener) (reads : Bool) :
      Attained id ⟨{ socket, peer, protocol := some protocol },
        { stirs := .connectionMade id :: if reads then [.startReading id] else [] }⟩
  /-- Something happened to it. -/
  | plays {before after : Situation} (attained : Attained id before)
      (plays : Plays id before after) : Attained id after

end EventLoop.Net

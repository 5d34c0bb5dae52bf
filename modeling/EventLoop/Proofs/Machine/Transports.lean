import EventLoop.Proofs.Machine.Recounting
import EventLoop.Proofs.Transport.Losses
import EventLoop.Proofs.Transport.Sending
import EventLoop.Proofs.Transport.Telling

/-!
# Transports in runs

Whatever holds of all that a transport can attain holds of the transports in every state of a run of a
loop that stays open: what the protocol of a transport was told, how its data was sent, which of its
operations are under way, and which of its writes were lost. What the histories say of all this really
happened in the steps of the run.
-/
namespace EventLoop

open Net (Transport Outlook Attained Event Notice)

/-- What the protocol of a transport was told, and how often it is told that the connection is lost. -/
structure Net.Transport.TellsInOrder (transport : Transport) (outlook : Outlook) : Prop where
  /-- The protocol was told things in order. -/
  orderly : Net.Orderly (Net.notices transport.history)
  /-- Nothing that arrived was told after the transport was asked to close or was closed at once. -/
  silent : Net.Chronicle (fun before event => event.isArrival = true → ¬ Net.Left before)
    transport.history
  /-- The loss of the connection is announced at most once. -/
  once : transport.history.countP Event.isAnnouncement ≤ 1
  /-- A loss that was announced waits to be told or was told. -/
  scheduled : outlook.stirs.countP Callback.isLoss +
    (Net.notices transport.history).countP Notice.isLoss =
      transport.history.countP Event.isAnnouncement

/-- How the data that is written to a transport is sent. -/
structure Net.Transport.SendsInOrder (transport : Transport) : Prop where
  /-- What was submitted is a first part of what was written. -/
  partly : Net.submitted transport.history <+: Net.accepted transport.history
  /-- Unless the transport was closed at once, all that was written was submitted or waits. -/
  whole : .discarded ∉ transport.history →
    Net.submitted transport.history ++ transport.buffer = Net.accepted transport.history
  /-- A send is submitted only after those before it have ended, each without an error or with the error of a
  cancelled operation. -/
  sends : Net.Chronicle (fun before event => ∀ data, event = .submitted data → Net.Ended before)
    transport.history
  /-- Unless the transport was closed at once, all that was written was submitted before the loss of the
  connection is announced, and if no send has failed, all of them have ended without an error. -/
  flushes : Net.Chronicle (fun before event => event = .announced none → .discarded ∉ before →
    Net.submitted before = Net.accepted before ∧
      ((∀ error, .sent (some error) ∉ before) → Net.Finished before)) transport.history

/-- Which operations of a transport are under way, and how it closes. -/
structure Net.Transport.KeepsOperations (transport : Transport) (outlook : Outlook) : Prop where
  /-- One receive at a time is under way. -/
  receives : outlook.receipts.card ≤ 1
  /-- One send at a time is under way. -/
  sends : outlook.dispatches.card ≤ 1
  /-- No write is lost as long as the transport is active. -/
  counted : transport.lost = 0 ↔ transport.status = .active
  /-- Data waits only while a send is under way, unless the last one has ended with the error of a cancelled
  operation. -/
  waits : transport.buffer ≠ [] →
    (∃ future, transport.writing = some future ∧ future ∈ outlook.dispatches) ∨
      Net.Stalled transport.history
  /-- A transport that closes sends something until the loss of the connection is announced, unless the last
  send has ended with the error of a cancelled operation. -/
  closing : transport.status = .closing → transport.announced = false →
    (∃ future, transport.writing = some future ∧ future ∈ outlook.dispatches) ∨
      Net.Stalled transport.history
  /-- Nothing is submitted after the loss of the connection was announced. -/
  ceased : Net.Chronicle (fun before event =>
    (event = .receiving ∨ ∃ data, event = .submitted data) →
      before.countP Event.isAnnouncement = 0) transport.history
  /-- The socket is closed after the protocol was told that the connection is lost. -/
  shut : Net.Chronicle (fun before event => event = .shut → ∃ error, .told (.lost error) ∈ before)
    transport.history
  /-- Once the loss of the connection was announced, either the protocol is still to be told, or it is
  being told, or the socket was closed. -/
  closes : outlook.stirs.countP Callback.isLoss + outlook.losing + transport.history.count .shut =
    if transport.announced = true then 1 else 0

/-- Data that is written to a transport that is not active reaches nothing but the count, and a message is
written if the count reaches the threshold. -/
theorem World.write_of_inactive {world : World} {id : TransportId} {transport : Transport}
    (found : world.transports.get? id = some (some transport)) (tallied : transport.Tallied)
    (inactive : transport.status ≠ .active) {data : Bytes} (some : data ≠ []) :
    (World.write id data world).2 =
      if Net.lostWrites transport.history + 2 = world.settings.lostWrites then
        (World.message .warn (Transport.debugText (world.fdOf transport.socket) transport.status ++
          ": socket.send() raised exception.") (World.setTransport id (transport.dropped data) world).2).2
      else (World.setTransport id (transport.dropped data) world).2 := by
  have there : (world.transports.get? id).join = Option.some transport := by rw [found]; rfl
  unfold World.write World.advance World.transition
  simp only [StateM.bind_apply, StateM.get_apply, World.transport?_apply, there,
    Net.Transport.write_of_inactive tallied inactive some]
  split
  · rfl
  · rfl

/-- No send that a transport has under way is cancelled. -/
def World.SparesSends (world : World) : Prop :=
  ∀ {id transport future}, world.transports.get? id = some (some transport) →
    transport.writing = some future → world.loop.futureState future ≠ .cancelled

/-- Whether no send that a transport has under way is cancelled. -/
def World.sparesSends (world : World) : Bool :=
  world.transports.entries.all fun entry => entry.all fun transport =>
    transport.writing.all fun future => world.loop.futureState future != .cancelled

/-- It can be computed whether sends are spared. -/
theorem World.sparesSends_iff {world : World} : world.sparesSends = true ↔ world.SparesSends := by
  unfold sparesSends
  rw [Array.all_eq_true]
  constructor
  · intro all id transport future found writing
    obtain ⟨below, same⟩ := Array.getElem?_eq_some_iff.mp found
    have here := all id below
    rw [same, Option.all_some, writing, Option.all_some] at here
    exact bne_iff_ne.mp here
  · intro spares id below
    cases entry : world.transports.entries[id] with
    | none => rfl
    | some transport =>
      have found : world.transports.get? id = some (some transport) :=
        Array.getElem?_eq_some_iff.mpr ⟨below, entry⟩
      rw [Option.all_some]
      cases writing : transport.writing with
      | none => rfl
      | some future => exact bne_iff_ne.mpr (spares found writing)

namespace Machine

variable {machine : Machine} {id : TransportId} {transport : Transport}

/-- What is to come for a transport. -/
def outlook (machine : Machine) (id : TransportId) : Outlook :=
  (machine.errands id).over machine.world.loop id

/-- The loop is open, and nobody has cancelled a send that a transport has under way. -/
def IsCareful (machine : Machine) : Prop := machine.IsOpen ∧ machine.world.SparesSends

/-- Whether the loop is open and no send under way was cancelled. -/
def carefully (machine : Machine) : Bool := machine.openly && machine.world.sparesSends

/-- The states to which instructions drive the machine carefully are states of a run in which nobody but a
transport cancels its sends. -/
theorem visits_carefully (moves : Nat) (instructions : List Script.Instruction) :
    Visits IsCareful (scripted.drive carefully moves instructions) := by
  refine Visits.mono (.drive (.initial initial_scripted (by decide +kernel)) moves _) fun machine fine => ?_
  obtain ⟨opened, spares⟩ := (Bool.and_eq_true _ _).mp fine
  unfold openly at opened
  exact ⟨(Bool.not_eq_true' _).mp opened, World.sparesSends_iff.mp spares⟩

/-- Every transport has attained the state that it is in. -/
theorem Visits.attained (visits : Visits IsOpen machine)
    (found : machine.world.transports.get? id = some (some transport)) :
    Attained id ⟨transport, machine.outlook id⟩ :=
  (visits.overseen fun _ fine => fine).attained found

/-- The machine asks for nothing between two moves. -/
theorem air_outlook (machine : Machine) (id : TransportId) : (machine.outlook id).air = [] :=
  air_errandsOf machine.signal machine.frames id

/-- How the protocol of a transport is told things in a run: in order, and whatever was taken down as told is
what its scripts were run for. -/
structure TellsInOrder (machine : Machine) (id : TransportId) (transport : Transport) : Prop
    extends transport.TellsInOrder (machine.outlook id) where
  /-- The protocol was really told. -/
  recounts : machine.Recounts id

/-- As long as the loop is open, the protocol of every transport is told in order what happens. -/
theorem transports_tell_in_order (visits : Visits IsOpen machine)
    (found : machine.world.transports.get? id = some (some transport)) :
    machine.TellsInOrder id transport := by
  have attained := visits.attained found
  have telling := attained.telling
  have standing := attained.standing
  have waiting := standing.waiting
  have once := standing.once
  have ended := standing.ended
  rw [air_outlook, List.countP_nil, Nat.add_zero] at waiting once
  -- The protocol was told of the loss exactly if the transport is closed.
  have losses : (Net.notices transport.history).countP Notice.isLoss =
      if transport.status = .closed then 1 else 0 := by
    split
    · rename_i closed
      obtain ⟨error, told⟩ := standing.gone.mpr closed
      have positive : 0 < (Net.notices transport.history).countP Notice.isLoss :=
        List.countP_pos_iff.mpr ⟨.lost error, Net.mem_notices.mpr told, rfl⟩
      exact Nat.le_antisymm telling.orderly.losses positive
    · rename_i still
      refine List.countP_eq_zero.mpr fun notice member loss => still (standing.gone.mp ?_)
      cases notice with
      | lost error => exact ⟨error, Net.mem_notices.mp member⟩
      | made | data | endOfStream => cases loss
  refine ⟨⟨telling.orderly, telling.chronicle.mono fun _ _ timely => timely.arrival, ?_, ?_⟩,
    visits.reachable.sound.recounts id⟩
  · dsimp only at once
    rw [once]
    split
    · exact Nat.le_refl 1
    · exact Nat.zero_le 1
  · dsimp only at waiting once ended
    rw [waiting, once, losses]
    by_cases closed : transport.status = .closed
    · simp [closed, ended closed]
    · simp [closed]

/-- A connection that was made and lost again, after its protocol was handed data. -/
def served : Machine := scripted.drive (fun machine => !machine.world.loop.closed) 60
  [.socket (.pair "a" "b"), .openTransport "t" "a" ⟨none, none, false⟩ ⟨[], [], [], [], false, false⟩,
    .runOnce 1, .system (.operation (.latest .receive) "r"),
    .future (.setResult "r" ⟨.null, [7], "", none⟩), .runOnce 1, .transport (.close (.named "t")),
    .runOnce 1]

/-- The protocol was told that the connection is made, then of the data, and then of the loss. -/
theorem served_tells_in_order :
    ∃ transport, served.world.transports.get? 0 = some (some transport) ∧
      served.TellsInOrder 0 transport ∧
        Net.notices transport.history = [.made, .data [7], .lost none] := by
  have visits : Visits IsOpen served := by
    unfold served
    refine Visits.mono (.drive (.initial initial_scripted rfl) 60 _) fun machine fine => ?_
    exact (Bool.not_eq_true' _).mp fine
  have state : (served.world.transports.get? 0).join.map (fun transport =>
      Net.notices transport.history) = some [.made, .data [7], .lost none] := by decide +kernel
  obtain ⟨transport, joined, told⟩ := Option.map_eq_some_iff.mp state
  have found := Option.join_eq_some_iff.mp joined
  exact ⟨transport, found, transports_tell_in_order visits found, told⟩

/-! ## Sending -/

/-- How the data of a transport is sent in a run: in order, whatever is written is taken down, whatever was
taken down as submitted was handed to the completer, and each send is taken down as it has ended. -/
structure SendsInOrder (machine : Machine) (id : TransportId) (transport : Transport) : Prop
    extends transport.SendsInOrder where
  /-- Data that is written to the transport is taken down, and it is accepted if the transport is active. -/
  writes : ∀ {data later}, (machine.inWorld (World.write id data)).2.transports.get? id = some (some later) →
    ∃ more, later.history = transport.history ++ .written data transport.isActive :: more
  /-- The data was really submitted, and the sends really ended so. -/
  recounts : machine.Recounts id
  /-- A transport hears of the end of the send that it submitted last; one that was closed at once has let go
  of it. -/
  answers : ∀ future, machine.signal = .call (.done future (.sent id)) →
    transport.writing = some future ∨ transport.writing = none ∧ .discarded ∈ transport.history

/-- A callback that hears of the end of a send is to be called for it. -/
theorem mem_dispatches {future : FutureId} (called : machine.signal = .call (.done future (.sent id))) :
    future ∈ (machine.outlook id).dispatches := by
  unfold outlook Outlook.over errands
  rw [called]
  refine Multiset.mem_add.mpr (Or.inl ?_)
  change future ∈ ((Callback.done future (.sent id)).errand id).dispatches
  rw [MovesMinding.errand_sent]
  exact Multiset.mem_singleton_self future

/-- As long as the loop is open, whatever is written to a transport is sent in order. -/
theorem transports_send_in_order (visits : Visits IsOpen machine)
    (found : machine.world.transports.get? id = some (some transport)) :
    machine.SendsInOrder id transport := by
  have flow := (visits.attained found).flow
  have nothing : Net.asked (machine.outlook id).air = [] := by
    rw [air_outlook]
    rfl
  have sound := visits.reachable.sound
  refine ⟨⟨?_, fun stays => ?_, ?_, ?_⟩, World.history_write sound.within found, sound.recounts id,
    fun future called => ?_⟩
  · have partly := flow.partly
    dsimp only at partly
    rw [nothing, List.append_nil] at partly
    exact partly
  · have whole := flow.whole stays
    dsimp only at whole
    rw [nothing, List.append_nil] at whole
    exact whole
  · exact flow.chronicle.mono fun _ _ sequent data same => (sequent.sends data same).1
  · refine flow.chronicle.mono fun _ _ sequent same stays => ?_
    obtain ⟨ended, whole⟩ := sequent.loses none same stays
    exact ⟨whole, ended.finished⟩
  · have under := mem_dispatches called
    cases writing : transport.writing with
    | none =>
      refine Or.inr ⟨rfl, by_contra fun stays => ?_⟩
      rw [flow.own writing stays] at under
      exact Multiset.notMem_zero future under
    | some own =>
      have single := Nat.le_trans (Nat.le_add_right _ _) flow.single
      obtain ⟨only, all⟩ := Multiset.card_eq_one.mp
        (Nat.le_antisymm single (Multiset.card_pos_iff_exists_mem.mpr ⟨future, under⟩))
      have awaited := flow.awaited own writing
      dsimp only at all awaited
      rw [all] at under awaited
      rw [Multiset.mem_singleton.mp awaited, Multiset.mem_singleton.mp under]
      exact Or.inl rfl

/-- Data was written twice, the transport was closed, and both sends ended. -/
def flushed : Machine := scripted.drive openly 60
  [.socket (.pair "a" "b"), .openTransport "t" "a" ⟨none, none, false⟩ ⟨[], [], [], [], false, false⟩,
    .runOnce 1, .transport (.write (.named "t") [1, 2]), .transport (.write (.named "t") [3]),
    .transport (.close (.named "t")), .system (.operation (.latest .send) "w"),
    .future (.setResult "w" ⟨.null, [], "", none⟩), .runOnce 1,
    .system (.operation (.latest .send) "x"), .future (.setResult "x" ⟨.null, [], "", none⟩),
    .runOnce 1]

/-- All that was written was sent in two pieces. -/
theorem flushed_sends_in_order :
    ∃ transport, flushed.world.transports.get? 0 = some (some transport) ∧
      flushed.SendsInOrder 0 transport ∧
      Net.submitted transport.history = [1, 2, 3] ∧ transport.announced = true := by
  have visits : Visits IsOpen flushed := visits_openly 60 _
  have state : (flushed.world.transports.get? 0).join.map (fun transport =>
      (Net.submitted transport.history, transport.announced)) = some ([1, 2, 3], true) := by
    decide +kernel
  obtain ⟨transport, joined, reached⟩ := Option.map_eq_some_iff.mp state
  obtain ⟨sent, announced⟩ := Prod.mk.inj reached
  have found := Option.join_eq_some_iff.mp joined
  exact ⟨transport, found, transports_send_in_order visits found, sent, announced⟩

/-- The completer has ended a send with the error of a cancelled operation, and then data was written. -/
def passedOver : Machine := scripted.drive carefully 60
  [.socket (.pair "a" "b"), .openTransport "t" "a" ⟨none, none, false⟩ ⟨[], [], [], [], false, false⟩,
    .runOnce 1, .transport (.write (.named "t") [1, 2]), .system (.operation (.latest .send) "w"),
    .future (.setError "w" .cancelled), .runOnce 1, .transport (.write (.named "t") [3])]

/-- A send may be submitted after one that has failed, although nobody but the transport cancels sends. -/
theorem not_finished_passedOver : Visits IsCareful passedOver ∧
    ∃ transport, passedOver.world.transports.get? 0 = some (some transport) ∧
      ¬ Net.Chronicle (fun before event => ∀ data, event = .submitted data → Net.Finished before)
        transport.history := by
  have state : (passedOver.world.transports.get? 0).join.map Transport.history =
      some ([.told .made, .receiving, .written [1, 2] true, .submitted [1, 2], .sent (some .cancelled),
        .written [3] true] ++ [Event.submitted [3]]) := by decide +kernel
  obtain ⟨transport, joined, history⟩ := Option.map_eq_some_iff.mp state
  refine ⟨visits_carefully 60 _, transport, Option.join_eq_some_iff.mp joined, fun chronicle => ?_⟩
  refine (chronicle _ _ [] history [3] rfl).fine .cancelled ?_
  decide

/-! ## Operations -/

/-- As long as the loop is open, a transport has one receive and one send under way at most, and it closes its
socket once after all. -/
theorem transports_keep_operations (visits : Visits IsOpen machine)
    (found : machine.world.transports.get? id = some (some transport)) :
    transport.KeepsOperations (machine.outlook id) ∧ machine.Recounts id ∧
      (World.closeTransportSocket id machine.world).2.isOpen transport.socket = false := by
  have attained := visits.attained found
  have telling := attained.telling
  have standing := attained.standing
  have flow := attained.flow
  have waiting := standing.waiting
  have shutting := standing.shutting
  have ended := standing.ended
  have reads := telling.reads
  have single := flow.single
  rw [air_outlook, List.countP_nil, Nat.add_zero] at waiting single
  have known (sends : transport.writing.isSome = true) :
      ∃ future, transport.writing = some future ∧ future ∈ (machine.outlook id).dispatches := by
    obtain ⟨future, writing⟩ := Option.isSome_iff_exists.mp sends
    exact ⟨future, writing, flow.awaited future writing⟩
  refine ⟨?_, visits.reachable.sound.recounts id, World.isOpen_closeTransportSocket found⟩
  refine ⟨?_, single, standing.counted, fun some => (flow.waits some).imp_left known,
    fun closing silent => ?_, fun before event after same asked => ?_, ?_, ?_⟩
  · unfold Outlook.reads at reads
    dsimp only at reads
    omega
  · rcases flow.closing closing silent with sends | asked | stalled
    · exact Or.inl (known sends)
    · dsimp only at asked
      rw [air_outlook] at asked
      exact absurd asked (Nat.lt_irrefl 0)
    · exact Or.inr stalled
  · rcases asked with receiving | ⟨data, submitted⟩
    · exact (telling.chronicle before event after same).receiving receiving
    · exact ((flow.chronicle before event after same).sends data submitted).2
  · exact telling.chronicle.mono fun _ _ timely => timely.shut
  · dsimp only at waiting shutting ended
    rw [Nat.add_assoc, waiting, shutting]
    by_cases closed : transport.status = .closed
    · simp [closed, ended closed]
    · simp [closed]

/-- A transport was closed while data waits for the end of a send. -/
def lingering : Machine := scripted.drive openly 60
  [.socket (.pair "a" "b"), .openTransport "t" "a" ⟨none, none, false⟩ ⟨[], [], [], [], false, false⟩,
    .runOnce 1, .transport (.write (.named "t") [1, 2]), .transport (.write (.named "t") [3]),
    .transport (.close (.named "t"))]

/-- The transport will hear of the end of its send. -/
theorem lingering_keeps_operations :
    ∃ transport, lingering.world.transports.get? 0 = some (some transport) ∧
      transport.KeepsOperations (lingering.outlook 0) ∧ transport.buffer = [3] ∧
        transport.status = .closing ∧ transport.announced = false := by
  have visits : Visits IsOpen lingering := visits_openly 60 _
  have state : (lingering.world.transports.get? 0).join.map (fun transport =>
      (transport.buffer, transport.status, transport.announced)) = some ([3], .closing, false) := by
    decide +kernel
  obtain ⟨transport, joined, reached⟩ := Option.map_eq_some_iff.mp state
  obtain ⟨buffer, rest⟩ := Prod.mk.inj reached
  obtain ⟨status, announced⟩ := Prod.mk.inj rest
  have found := Option.join_eq_some_iff.mp joined
  exact ⟨transport, found, (transports_keep_operations visits found).1, buffer, status, announced⟩

/-- A transport that closes has heard that its send has ended with the error of a cancelled operation. -/
def stranded : Machine := scripted.drive carefully 60
  [.socket (.pair "a" "b"), .openTransport "t" "a" ⟨none, none, false⟩ ⟨[], [], [], [], false, false⟩,
    .runOnce 1, .transport (.write (.named "t") [1, 2]), .transport (.write (.named "t") [3]),
    .transport (.close (.named "t")), .system (.operation (.latest .send) "w"),
    .future (.setError "w" .cancelled), .runOnce 1]

/-- A transport that closes may keep data without sending anything, although nobody but the transport cancels
sends. -/
theorem not_sending_stranded : Visits IsCareful stranded ∧
    ∃ transport, stranded.world.transports.get? 0 = some (some transport) ∧ transport.buffer ≠ [] ∧
      transport.status = .closing ∧ transport.announced = false ∧ transport.writing = none ∧
        (stranded.outlook 0).dispatches = 0 := by
  have state : (stranded.world.transports.get? 0).join.map (fun transport =>
      (transport.buffer, transport.status, transport.announced, transport.writing)) =
        some ([3], .closing, false, none) := by decide +kernel
  have silent : (stranded.outlook 0).dispatches = 0 := by decide +kernel
  obtain ⟨transport, joined, reached⟩ := Option.map_eq_some_iff.mp state
  obtain ⟨buffer, rest⟩ := Prod.mk.inj reached
  obtain ⟨status, rest⟩ := Prod.mk.inj rest
  obtain ⟨announced, writing⟩ := Prod.mk.inj rest
  refine ⟨visits_carefully 60 _, transport, Option.join_eq_some_iff.mp joined, ?_, status, announced,
    writing, silent⟩
  rw [buffer]
  exact List.cons_ne_nil _ _

/-! ## Lost writes -/

/-- As long as the loop is open, every transport counts the writes that it loses, and it warns with the one
with which its count reaches the threshold. -/
theorem transports_count_losses (visits : Visits IsOpen machine)
    (found : machine.world.transports.get? id = some (some transport)) :
    transport.Tallied ∧ ∀ data threshold, .warnLostWrites ∈ (transport.write data threshold).1 ↔
      Net.Warned threshold transport.history (.written data transport.isActive) := by
  have attained := visits.attained found
  exact ⟨attained.tallied, Transport.mem_write_iff attained.tallied attained.standing.counted⟩

end Machine

end EventLoop

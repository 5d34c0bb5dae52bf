import EventLoop.Proofs.Transport.Standing

/-!
# What a protocol is told

A transport reads one piece at a time: either a receive is about to be submitted, or one is under way, or
the protocol is being handed data. So what the protocol is told comes in order, and nothing that arrived
is told once the transport was asked to close.
-/
namespace EventLoop.Net

/-- The receives that are about to be submitted, are under way, or follow once the protocol was handed
data. -/
def Outlook.reads (outlook : Outlook) : Nat :=
  outlook.stirs.countP Callback.isStart + outlook.receipts.card + outlook.handing +
    outlook.air.countP Effect.isReceive

/-- The protocol was told nothing yet, and the first that it will be told is that the connection is
made. -/
structure Unbegun (id : TransportId) (history : List Event) (outlook : Outlook) : Prop where
  /-- What comes first. -/
  first : ∃ rest, outlook.stirs = .connectionMade id :: rest ∧ rest.countP Callback.isMade = 0
  /-- Nothing was told. -/
  fresh : notices history = []
  /-- Nothing is received. -/
  receipts : outlook.receipts = 0
  /-- Nothing is handed to the protocol. -/
  handing : outlook.handing = 0
  /-- Nothing is asked for. -/
  air : outlook.air.countP Effect.isReceive = 0

/-- The protocol was told that the connection is made, and is not told so again. -/
structure Begun (history : List Event) (outlook : Outlook) : Prop where
  /-- It was told. -/
  made : ∃ rest, notices history = .made :: rest
  /-- It is not told again. -/
  once : outlook.stirs.countP Callback.isMade = 0

/-- What happened to a transport before its protocol is told of an arrival, before a receive is
submitted, and before the socket is closed. -/
structure Timely (before : List Event) (event : Event) : Prop where
  /-- Nothing that arrives is told once the transport was asked to close or was closed at once. -/
  arrival : event.isArrival = true → ¬ Left before
  /-- Nothing is received once the loss of the connection was announced. -/
  receiving : event = .receiving → before.countP Event.isAnnouncement = 0
  /-- The protocol was told that the connection is lost before the socket is closed. -/
  shut : event = .shut → ∃ error, .told (.lost error) ∈ before

/-- What holds of what the protocol of a transport was told and will be told. -/
structure Telling (id : TransportId) (situation : Situation) : Prop where
  /-- What comes first. -/
  begun : Unbegun id situation.transport.history situation.outlook ∨
    Begun situation.transport.history situation.outlook
  /-- What the protocol was told. -/
  orderly : Orderly (notices situation.transport.history)
  /-- One thing at a time is read. -/
  reads : situation.outlook.reads ≤ 1
  /-- After the end of the stream nothing is read. -/
  ended : .endOfStream ∈ notices situation.transport.history → situation.outlook.reads = 0
  /-- Only for an active transport a receive is asked for. -/
  aims : 0 < situation.outlook.air.countP Effect.isReceive → situation.transport.status = .active
  /-- The order of what happened. -/
  chronicle : Chronicle Timely situation.transport.history

namespace Telling

variable {id : TransportId} {transport after : Transport} {outlook ahead : Outlook}

/-- The protocol of a transport that was just opened is to be told that the connection is made. -/
theorem opened (socket : SocketId) (peer : Option Address) (protocol : Listener) (reads : Bool) :
    Telling id ⟨{ socket, peer, protocol := some protocol },
      { stirs := .connectionMade id :: if reads then [.startReading id] else [] }⟩ where
  begun := by
    refine Or.inl ⟨⟨_, rfl, ?_⟩, rfl, rfl, rfl, rfl⟩
    cases reads with
    | true => rfl
    | false => rfl
  orderly := Or.inl rfl
  reads := by
    cases reads with
    | true => exact Nat.le_refl 1
    | false => exact Nat.zero_le 1
  ended told := nomatch told
  aims asked := nomatch asked
  chronicle := Chronicle.nil

/-- The protocol is told nothing and nothing more is read. -/
theorem silent (telling : Telling id ⟨transport, outlook⟩) {more : List Event}
    {calls : List Callback} (history : after.history = transport.history ++ more)
    (silent : notices more = []) (chronicle : Chronicle Timely after.history)
    (stirs : ahead.stirs = outlook.stirs ++ calls) (made : calls.countP Callback.isMade = 0)
    (starts : calls.countP Callback.isStart = 0) (receipts : ahead.receipts ≤ outlook.receipts)
    (handing : ahead.handing ≤ outlook.handing)
    (receives : ahead.air.countP Effect.isReceive ≤ outlook.air.countP Effect.isReceive)
    (aims : 0 < ahead.air.countP Effect.isReceive → after.status = .active) :
    Telling id ⟨after, ahead⟩ := by
  have same : notices after.history = notices transport.history := by
    rw [history, notices_append, silent, List.append_nil]
  have fewer : ahead.reads ≤ outlook.reads := by
    have card := Multiset.card_le_card receipts
    unfold Outlook.reads
    rw [stirs, List.countP_append, starts]
    omega
  refine ⟨?_, ?_, fewer.trans telling.reads, fun told => ?_, aims, chronicle⟩
  · refine telling.begun.imp (fun unbegun => ?_) fun begun => ?_
    · obtain ⟨rest, first, others⟩ := unbegun.first
      refine ⟨⟨rest ++ calls, ?_, ?_⟩, same.trans unbegun.fresh, ?_, ?_, ?_⟩
      · rw [stirs, first]
        rfl
      · rw [List.countP_append, others, made]
      · exact Multiset.le_zero.mp (unbegun.receipts ▸ receipts)
      · exact Nat.le_zero.mp (unbegun.handing ▸ handing)
      · exact Nat.le_zero.mp (unbegun.air ▸ receives)
    · refine ⟨?_, ?_⟩
      · rw [same]
        exact begun.made
      · rw [stirs, List.countP_append, begun.once, made]
  · rw [same]
    exact telling.orderly
  · rw [same] at told
    exact Nat.le_zero.mp (telling.ended told ▸ fewer)

/-- What is asked of the transport is done to it. -/
theorem drift (telling : Telling id ⟨transport, outlook⟩) {effects : List Effect}
    (drifts : Transport.Drifts transport effects after) (stirs : ahead.stirs = outlook.stirs)
    (receipts : ahead.receipts ≤ outlook.receipts) (handing : ahead.handing = outlook.handing)
    (air : ahead.air = effects) : Telling id ⟨after, ahead⟩ := by
  obtain ⟨more, history, quiet, -⟩ := drifts.history
  have none : ahead.air.countP Effect.isReceive = 0 := by
    rw [air]
    exact drifts.receives
  refine telling.silent history ?_ ?_ (by rw [stirs, List.append_nil]) rfl rfl receipts
    (Nat.le_of_eq handing) (by rw [none]; exact Nat.zero_le _) fun some => by omega
  · refine List.filterMap_eq_nil_iff.mpr fun event member => ?_
    have silent := quiet event member
    cases event with
    | told => cases silent
    | written | submitted | sent | receiving | closing | discarded | announced | shut => rfl
  · rw [history]
    refine telling.chronicle.append fun event member before => ?_
    have silent := quiet event member
    cases event with
    | told | submitted | receiving | announced | shut => cases silent
    | written | sent | closing | discarded =>
      exact ⟨Bool.noConfusion, Event.noConfusion, Event.noConfusion⟩

/-- As long as the protocol listens, what it is told next is taken down. -/
theorem notices_tell (listens : transport.protocol.isSome = true) (notice : Notice) :
    notices (transport.tell notice).history = notices transport.history ++ [notice] := by
  rw [Transport.tell_of_listens listens, Transport.history_note, notices_append]
  rfl

/-- As long as the transport is not closed, its protocol was not told of a loss. -/
theorem not_lost {stirs : List Callback} {losing : Nat} {air : List Effect}
    (standing : Standing transport stirs losing air) (still : transport.status ≠ .closed)
    (error : Option Error) : .lost error ∉ notices transport.history := fun told =>
  still (standing.gone.mp ⟨error, mem_notices.mp told⟩)

/-- Something arrives only once the protocol was told that the connection is made. -/
theorem begun_of_due (telling : Telling id ⟨transport, outlook⟩) {future : FutureId}
    (due : future ∈ outlook.receipts) : Begun transport.history outlook :=
  telling.begun.resolve_left fun unbegun => by
    rw [unbegun.receipts] at due
    exact Multiset.notMem_zero _ due

/-- The protocol is told that the connection is made. -/
theorem made (telling : Telling id ⟨transport, outlook⟩)
    (standing : Standing transport outlook.stirs outlook.losing outlook.air)
    {rest : List Callback} (settled : outlook.air = [])
    (next : outlook.stirs = .connectionMade id :: rest) :
    Telling id ⟨transport.tell .made, { outlook with stirs := rest }⟩ := by
  have unbegun : Unbegun id transport.history outlook := telling.begun.resolve_right fun begun => by
    have once := begun.once
    rw [next, List.countP_cons_of_pos rfl] at once
    omega
  obtain ⟨others, first, none⟩ := unbegun.first
  have same : others = rest := (List.cons.inj (first.symm.trans next)).2
  have fresh := unbegun.fresh
  have still : transport.status ≠ .closed := by
    intro closed
    obtain ⟨error, told⟩ := standing.gone.mpr closed
    rw [← mem_notices, fresh] at told
    cases told
  have listens := standing.listens.mpr still
  have told : notices (transport.tell .made).history = [.made] := by
    rw [notices_tell listens, fresh]
    rfl
  refine ⟨Or.inr ⟨⟨[], told⟩, ?_⟩, ?_, ?_, fun ends => ?_, fun asked => ?_, ?_⟩
  · rw [← same]
    exact none
  · rw [told]
    exact Or.inr ⟨[], [], [], rfl, Or.inl rfl, Or.inl rfl⟩
  · refine Nat.le_trans (Nat.le_of_eq ?_) telling.reads
    unfold Outlook.reads
    rw [next, List.countP_cons_of_neg Bool.false_ne_true]
  · rw [told] at ends
    simp at ends
  · rw [settled] at asked
    cases asked
  · rw [Transport.tell_of_listens listens]
    exact telling.chronicle.snoc ⟨Bool.noConfusion, Event.noConfusion, Event.noConfusion⟩

/-- The transport goes on to read in place of what was counted as one that reads. -/
theorem reading (telling : Telling id ⟨transport, outlook⟩) (begun : Begun transport.history ahead)
    (fewer : ahead.stirs.countP Callback.isStart + ahead.receipts.card + ahead.handing + 1 =
      outlook.reads) :
    Telling id ⟨transport.receiveNext.2, { ahead with air := transport.receiveNext.1 }⟩ := by
  have active : 0 < transport.receiveNext.1.countP Effect.isReceive → transport.status = .active := by
    rw [Transport.fst_receiveNext]
    split
    · exact fun _ => ‹_›
    · exact fun asked => nomatch asked
  have one : transport.receiveNext.1.countP Effect.isReceive ≤ 1 := by
    rw [Transport.fst_receiveNext]
    split
    · exact Nat.le_refl 1
    · exact Nat.zero_le 1
  have reads := telling.reads
  rw [Transport.snd_receiveNext]
  refine ⟨Or.inr ⟨begun.made, begun.once⟩, telling.orderly, ?_, fun told => ?_, active,
    telling.chronicle⟩
  · change _ + _ + _ + transport.receiveNext.1.countP Effect.isReceive ≤ 1
    dsimp only at fewer reads ⊢
    omega
  · have none := telling.ended told
    dsimp only at none
    omega

/-- The transport begins to read. -/
theorem started (telling : Telling id ⟨transport, outlook⟩) {rest : List Callback}
    (settled : outlook.air = []) (next : outlook.stirs = .startReading id :: rest) :
    Telling id
      ⟨transport.receiveNext.2, { outlook with stirs := rest, air := transport.receiveNext.1 }⟩ := by
  have begun : Begun transport.history outlook := telling.begun.resolve_left fun unbegun => by
    obtain ⟨others, first, -⟩ := unbegun.first
    cases first.symm.trans next
  have once := begun.once
  rw [next, List.countP_cons_of_neg Bool.false_ne_true] at once
  refine @reading id transport outlook { outlook with stirs := rest } telling ⟨begun.made, once⟩
    ?_
  have one : outlook.stirs.countP Callback.isStart = rest.countP Callback.isStart + 1 := by
    rw [next]
    exact List.countP_cons_of_pos rfl
  have none : outlook.air.countP Effect.isReceive = 0 := by rw [settled]; rfl
  unfold Outlook.reads
  dsimp only
  omega

/-- The protocol was handed data, and the transport goes on to read. -/
theorem handed (telling : Telling id ⟨transport, outlook⟩) {left : Nat}
    (settled : outlook.air = []) (next : outlook.handing = left + 1) :
    Telling id ⟨transport.receiveNext.2,
      { outlook with handing := left, air := transport.receiveNext.1 }⟩ := by
  have begun : Begun transport.history outlook := telling.begun.resolve_left fun unbegun => by
    have none : outlook.handing = 0 := unbegun.handing
    omega
  refine @reading id transport outlook { outlook with handing := left } telling
    ⟨begun.made, begun.once⟩ ?_
  have none : outlook.air.countP Effect.isReceive = 0 := by rw [settled]; rfl
  unfold Outlook.reads
  dsimp only
  omega

/-- The protocol is told that the connection is lost. -/
theorem lost (telling : Telling id ⟨transport, outlook⟩)
    (standing : Standing transport outlook.stirs outlook.losing outlook.air)
    {error : Option Error} {rest : List Callback} (settled : outlook.air = [])
    (next : outlook.stirs = .connectionLost id error :: rest) :
    Telling id ⟨transport.connectionLost error,
      { outlook with stirs := rest, losing := outlook.losing + 1 }⟩ := by
  have begun : Begun transport.history outlook := telling.begun.resolve_left fun unbegun => by
    obtain ⟨others, first, -⟩ := unbegun.first
    cases first.symm.trans next
  obtain ⟨first, made⟩ := begun.made
  have once := begun.once
  rw [next, List.countP_cons_of_neg Bool.false_ne_true] at once
  have loses : 0 < outlook.stirs.countP Callback.isLoss := by
    rw [next, List.countP_cons_of_pos rfl]
    exact Nat.succ_pos _
  have still := (standing.open_of_loss loses).2
  have listens := standing.listens.mpr still
  have told : notices (transport.connectionLost error).history =
      notices transport.history ++ [Notice.lost error] := notices_tell listens (.lost error)
  have same : Outlook.reads { outlook with stirs := rest, losing := outlook.losing + 1 } =
      outlook.reads := by
    unfold Outlook.reads
    rw [next, List.countP_cons_of_neg Bool.false_ne_true]
  refine ⟨Or.inr ⟨⟨first ++ [.lost error], ?_⟩, once⟩, ?_, same ▸ telling.reads, fun ends => ?_,
    fun asked => ?_, ?_⟩
  · rw [told, made]
    rfl
  · rw [told]
    exact telling.orderly.lost made (not_lost standing still) error
  · rw [told] at ends
    rw [same]
    exact telling.ended (by simpa using ends)
  · rw [settled] at asked
    cases asked
  · have history : (transport.connectionLost error).history =
        (transport.tell (.lost error)).history := rfl
    rw [history, Transport.tell_of_listens listens]
    exact telling.chronicle.snoc ⟨Bool.noConfusion, Event.noConfusion, Event.noConfusion⟩

/-- The protocol of an active transport is told of something that arrived. -/
theorem arrived (telling : Telling id ⟨transport, outlook⟩)
    (standing : Standing transport outlook.stirs outlook.losing outlook.air) {future : FutureId}
    (due : future ∈ outlook.receipts)
    (active : transport.status = .active) {arrival : Arrival} (some : arrival.isNothing = false) :
    Telling id ⟨arrival.told { transport with reading := none }, { outlook with
      receipts := outlook.receipts.erase future
      handing := outlook.handing + arrival.handed
      air := [] }⟩ := by
  obtain ⟨⟨rest, made⟩, once⟩ := telling.begun_of_due due
  have positive := Multiset.card_pos_iff_exists_mem.mpr ⟨future, due⟩
  have fewer := Multiset.card_erase_add_one due
  have reads := telling.reads
  have goes : .endOfStream ∉ notices transport.history := fun ends => by
    have none := telling.ended ends
    unfold Outlook.reads at none
    dsimp only at none
    omega
  have still : transport.status ≠ .closed := by rw [active]; decide
  have stays : ¬ Left transport.history := standing.left.mp active
  have listens := standing.listens.mpr still
  have told (notice : Notice) :
      notices (Transport.tell { transport with reading := none } notice).history =
        notices transport.history ++ [notice] :=
    @notices_tell { transport with reading := none } listens notice
  have chronicle (notice : Notice) : Chronicle Timely
      (Transport.tell { transport with reading := none } notice).history := by
    rw [@Transport.tell_of_listens { transport with reading := none } listens]
    exact telling.chronicle.snoc ⟨fun _ => stays, Event.noConfusion, Event.noConfusion⟩
  cases arrival with
  | nothing => cases some
  | data bytes =>
    refine ⟨Or.inr ⟨⟨rest ++ [.data bytes], ?_⟩, once⟩, ?_, ?_, fun ends => ?_, fun asked => ?_,
      chronicle _⟩
    · exact (told _).trans (by rw [made]; rfl)
    · refine told (.data bytes) ▸ telling.orderly.data made goes (not_lost standing still) bytes
    · unfold Outlook.reads at reads ⊢
      dsimp only [Arrival.handed] at reads ⊢
      rw [List.countP_nil]
      omega
    · rw [show notices (Arrival.told (.data bytes) { transport with reading := none }).history =
        notices transport.history ++ [Notice.data bytes] from told _] at ends
      simp [goes] at ends
    · cases asked
  | endOfStream =>
    refine ⟨Or.inr ⟨⟨rest ++ [.endOfStream], ?_⟩, once⟩, ?_, ?_, fun _ => ?_, fun asked => ?_,
      chronicle _⟩
    · exact (told _).trans (by rw [made]; rfl)
    · exact told .endOfStream ▸ telling.orderly.endOfStream made goes (not_lost standing still)
    · unfold Outlook.reads at reads ⊢
      dsimp only [Arrival.handed] at reads ⊢
      rw [List.countP_nil]
      omega
    · unfold Outlook.reads at reads ⊢
      dsimp only [Arrival.handed] at reads ⊢
      rw [List.countP_nil]
      omega
    · cases asked

/-- A receive has ended. -/
theorem received (telling : Telling id ⟨transport, outlook⟩)
    (standing : Standing transport outlook.stirs outlook.losing outlook.air) {future : FutureId}
    (outcome : Except Error Bytes) (due : future ∈ outlook.receipts) :
    Telling id ⟨(transport.receiveEnded outcome).1.told (transport.receiveEnded outcome).2.2,
      { outlook with
        receipts := outlook.receipts.erase future
        handing := outlook.handing + (transport.receiveEnded outcome).1.handed
        air := (transport.receiveEnded outcome).2.1 }⟩ := by
  rcases Transport.Drifts.receiveEnded transport outcome with
    ⟨effects, after, ended, drifts⟩ | ⟨active, arrival, some, ended⟩
  · rw [ended]
    exact telling.drift drifts rfl (Multiset.erase_le _ _) rfl rfl
  · rw [ended]
    exact telling.arrived standing due active some

/-- The socket is closed. -/
theorem shut (telling : Telling id ⟨transport, outlook⟩)
    (standing : Standing transport outlook.stirs outlook.losing outlook.air) {left : Nat}
    (settled : outlook.air = []) (next : outlook.losing = left + 1) :
    Telling id ⟨transport.note .shut, { outlook with losing := left }⟩ := by
  have closed : transport.status = .closed := by
    by_contra still
    have shutting := standing.shutting
    rw [if_neg still] at shutting
    omega
  refine @silent id transport (transport.note .shut) outlook { outlook with losing := left } telling
    [.shut] [] rfl rfl ?_ (List.append_nil _).symm rfl rfl le_rfl (Nat.le_refl _)
    (Nat.le_refl _) fun asked => ?_
  · exact telling.chronicle.snoc
      ⟨Bool.noConfusion, Event.noConfusion, fun _ => standing.gone.mpr closed⟩
  · rw [settled] at asked
    cases asked

/-- A receive is submitted. -/
theorem receives (telling : Telling id ⟨transport, outlook⟩)
    (standing : Standing transport outlook.stirs outlook.losing outlook.air) (future : FutureId)
    {rest : List Effect} (next : outlook.air = .receive :: rest) :
    Telling id ⟨{ transport.note .receiving with reading := some future },
      { outlook with receipts := outlook.receipts + {future}, air := rest }⟩ := by
  have asked : outlook.air.countP Effect.isReceive = rest.countP Effect.isReceive + 1 := by
    rw [next]
    exact List.countP_cons_of_pos rfl
  have begun : Begun transport.history outlook := telling.begun.resolve_left fun unbegun => by
    have none : outlook.air.countP Effect.isReceive = 0 := unbegun.air
    omega
  have active : transport.status = .active := telling.aims (by dsimp only; omega)
  have silent : transport.history.countP Event.isAnnouncement = 0 := by
    have once := standing.once
    rw [standing.silent active, if_neg Bool.false_ne_true] at once
    omega
  have told : notices (transport.history ++ [Event.receiving]) = notices transport.history := by
    rw [notices_append]
    exact List.append_nil _
  have same : Outlook.reads { outlook with receipts := outlook.receipts + {future}, air := rest } =
      outlook.reads := by
    unfold Outlook.reads
    rw [asked, Multiset.card_add, Multiset.card_singleton]
    dsimp only
    omega
  refine ⟨Or.inr ⟨?_, begun.once⟩, ?_, same ▸ telling.reads, fun ends => ?_, fun _ => active, ?_⟩
  · exact told ▸ begun.made
  · exact told ▸ telling.orderly
  · rw [same]
    exact telling.ended (told ▸ ends)
  · exact telling.chronicle.snoc ⟨Bool.noConfusion, fun _ => silent, Event.noConfusion⟩

/-- Whatever happens, the protocol is told things in order. -/
theorem plays {before after : Situation} (plays : Plays id before after)
    (standing : Standing before.transport before.outlook.stirs before.outlook.losing
      before.outlook.air) (telling : Telling id before) : Telling id after := by
  -- Most plays tell the protocol nothing and read nothing more.
  have quiet {transport after : Transport} {outlook ahead : Outlook} {event : Event}
      {calls : List Callback} (telling : Telling id ⟨transport, outlook⟩)
      (history : after.history = transport.history ++ [event]) (status : after.status = transport.status)
      (silent : notices [event] = []) (timely : Timely transport.history event)
      (stirs : ahead.stirs = outlook.stirs ++ calls) (made : calls.countP Callback.isMade = 0)
      (starts : calls.countP Callback.isStart = 0) (receipts : ahead.receipts = outlook.receipts)
      (handing : ahead.handing = outlook.handing) {effect : Effect} {rest : List Effect}
      (next : outlook.air = effect :: rest) (air : ahead.air = rest) : Telling id ⟨after, ahead⟩ := by
    have receives : ahead.air.countP Effect.isReceive ≤ outlook.air.countP Effect.isReceive := by
      rw [air, next]
      exact List.Sublist.countP_le (List.sublist_cons_self _ _)
    refine telling.silent history silent ?_ stirs made starts receipts.le
      (Nat.le_of_eq handing) receives fun asked => ?_
    · rw [history]
      exact telling.chronicle.snoc timely
    · rw [status]
      exact telling.aims (Nat.lt_of_lt_of_le asked receives)
  cases plays with
  | lapse transport outlook receives =>
    exact telling.silent (List.append_nil _).symm rfl telling.chronicle (List.append_nil _).symm rfl
      rfl receives (Nat.le_refl _) (Nat.le_refl _) telling.aims
  | made transport outlook settled next => exact telling.made standing settled next
  | started transport outlook settled next => exact telling.started settled next
  | lost transport outlook settled next => exact telling.lost standing settled next
  | received transport outlook outcome settled due =>
    exact telling.received standing outcome due
  | sent transport outlook error => exact telling.drift (.sendEnded error) rfl le_rfl rfl rfl
  | written transport outlook data threshold =>
    exact telling.drift (.write data threshold) rfl le_rfl rfl rfl
  | closed => exact telling.drift .close rfl le_rfl rfl rfl
  | aborted => exact telling.drift (.forceClose none) rfl le_rfl rfl rfl
  | handed transport outlook settled next => exact telling.handed settled next
  | shut transport outlook settled next => exact telling.shut standing settled next
  | passed transport outlook next =>
    have receives := List.Sublist.countP_le (p := Effect.isReceive) (next ▸ List.sublist_cons_self _ _)
    exact telling.silent (List.append_nil _).symm rfl telling.chronicle (List.append_nil _).symm rfl
      rfl le_rfl (Nat.le_refl _) receives fun asked =>
        telling.aims (Nat.lt_of_lt_of_le asked receives)
  | announced transport outlook next =>
    exact quiet telling rfl rfl rfl ⟨Bool.noConfusion, Event.noConfusion, Event.noConfusion⟩ rfl rfl rfl
      rfl rfl next rfl
  | receives transport outlook future next => exact telling.receives standing future next
  | sends transport outlook future next =>
    exact quiet telling rfl rfl rfl ⟨Bool.noConfusion, Event.noConfusion, Event.noConfusion⟩
      (List.append_nil _).symm rfl rfl rfl rfl next rfl

end Telling

/-- Whatever is attained, the protocol was told things in order. -/
theorem Attained.telling {id : TransportId} {situation : Situation}
    (attained : Attained id situation) : Telling id situation := by
  induction attained with
  | opened socket peer protocol reads => exact Telling.opened socket peer protocol reads
  | plays earlier plays ih => exact Telling.plays plays earlier.standing ih

end EventLoop.Net

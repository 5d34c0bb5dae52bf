import EventLoop.Proofs.Transport.Standing

/-!
# How data is sent

A transport sends one piece at a time, and everything that was written waits in its buffer until it is
submitted. So what was submitted is a first part of what was written, a piece is submitted only after the
one before it has ended, and a transport that closes has something under way until the loss of its
connection is announced. The only exception is a send that ends with the error of a cancelled operation,
though the transport did not give it up: it is passed over, and the transport stands still until it is
written to.
-/
namespace EventLoop.Net

/-- Whether an effect submits a send. -/
def Effect.isSend : Effect → Bool
  | .send _ => true
  | .receive | .announce _ | .cancel _ | .warnLostWrites | .reportFatal .. => false

/-- The data that an effect submits. -/
def Effect.sent? : Effect → Option Bytes
  | .send data => some data
  | .receive | .announce _ | .cancel _ | .warnLostWrites | .reportFatal .. => none

/-- The data that effects submit, in order. -/
def asked (effects : List Effect) : Bytes := (effects.filterMap Effect.sent?).flatten

/-- Effects that submit no send submit no data. -/
theorem asked_of_none {effects : List Effect} (none : effects.countP Effect.isSend = 0) :
    asked effects = [] := by
  have empty : effects.filterMap Effect.sent? = [] := by
    refine List.filterMap_eq_nil_iff.mpr fun effect member => ?_
    have silent := List.countP_eq_zero.mp none effect member
    cases effect with
    | send => exact absurd rfl silent
    | receive | announce | cancel | warnLostWrites | reportFatal => rfl
  unfold asked
  rw [empty]
  rfl

/-- Whether an event has nothing to do with what is sent. -/
def Event.isApart : Event → Bool
  | .told _ | .receiving | .closing | .shut => true
  | .written .. | .submitted _ | .sent _ | .discarded | .announced _ => false

section Apart

variable {events : List Event} (apart : ∀ event ∈ events, event.isApart = true)
include apart

/-- Events that have nothing to do with writing are no sends. -/
theorem sends_of_apart : sends events = [] := by
  refine List.filter_eq_nil_iff.mpr fun event member => ?_
  have quiet := apart event member
  cases event with
  | submitted | sent => cases quiet
  | told | written | receiving | closing | discarded | announced | shut => exact Bool.false_ne_true

/-- Events that have nothing to do with writing accept nothing. -/
theorem accepted_of_apart : accepted events = [] := by
  have none : events.filterMap Event.accepted? = [] := by
    refine List.filterMap_eq_nil_iff.mpr fun event member => ?_
    have quiet := apart event member
    cases event with
    | written => cases quiet
    | told | submitted | sent | receiving | closing | discarded | announced | shut => rfl
  unfold accepted
  rw [none]
  rfl

/-- Events that have nothing to do with writing submit nothing. -/
theorem submitted_of_apart : submitted events = [] := by
  have none : events.filterMap Event.submitted? = [] := by
    refine List.filterMap_eq_nil_iff.mpr fun event member => ?_
    have quiet := apart event member
    cases event with
    | submitted => cases quiet
    | told | written | sent | receiving | closing | discarded | announced | shut => rfl
  unfold submitted
  rw [none]
  rfl

end Apart

/-- What happened to a transport before a send is submitted and before the loss of the connection is
announced. -/
structure Sequent (before : List Event) (event : Event) : Prop where
  /-- Every send before has ended, and the loss was not announced. -/
  sends : ∀ data, event = .submitted data →
    Ended before ∧ before.countP Event.isAnnouncement = 0
  /-- Unless the transport was closed at once, all that was written was submitted, and all sends have
  ended. -/
  loses : ∀ error, event = .announced error → .discarded ∉ before →
    Ended before ∧ submitted before = accepted before

/-- Most events may happen at any time. -/
theorem Sequent.of_other {before : List Event} {event : Event} (noSend : ∀ data, event ≠ .submitted data)
    (noLoss : ∀ error, event ≠ .announced error) : Sequent before event :=
  ⟨fun data same => absurd same (noSend data), fun error same => absurd same (noLoss error)⟩

/-- How the data of a transport flows: what was written, what waits, what is about to be submitted, and
the sends under way. -/
structure Flow (transport : Transport) (dispatches : Multiset FutureId) (air : List Effect) :
    Prop where
  /-- One send at a time is under way or about to be submitted. -/
  single : dispatches.card + air.countP Effect.isSend ≤ 1
  /-- The transport will hear of the end of its send. -/
  awaited : ∀ future, transport.writing = some future → future ∈ dispatches
  /-- Unless the transport was closed at once, it knows of every send under way. -/
  own : transport.writing = none → .discarded ∉ transport.history → dispatches = 0
  /-- Data waits only while a send is under way, unless the transport stands still. -/
  waits : transport.buffer ≠ [] → transport.writing.isSome = true ∨ Stalled transport.history
  /-- A transport that closes sends something until the loss is announced, unless it stands still. -/
  closing : transport.status = .closing → transport.announced = false →
    transport.writing.isSome = true ∨ 0 < air.countP Effect.isSend ∨ Stalled transport.history
  /-- Once the loss is announced nothing is left to be sent. -/
  ended : transport.announced = true →
    transport.writing = none ∧ transport.buffer = [] ∧ air.countP Effect.isSend = 0
  /-- A transport that was closed at once has announced the loss. -/
  forced : .discarded ∈ transport.history → transport.announced = true
  /-- Whatever is not under way has ended. -/
  rested : transport.writing = none → .discarded ∉ transport.history → Ended transport.history
  /-- The send under way was the last one submitted. -/
  sending : transport.writing.isSome = true → Sending transport.history
  /-- Unless the transport was closed at once, all that was written was submitted or waits. -/
  whole : .discarded ∉ transport.history →
    submitted transport.history ++ asked air ++ transport.buffer = accepted transport.history
  /-- What was submitted is a first part of what was written. -/
  partly : submitted transport.history ++ asked air <+: accepted transport.history
  /-- The order of what happened. -/
  chronicle : Chronicle Sequent transport.history

namespace Flow

variable {transport after : Transport} {dispatches : Multiset FutureId} {air effects : List Effect}

/-- Nothing was sent at a transport that was just opened. -/
theorem opened (socket : SocketId) (peer : Option Address) (protocol : Listener) :
    Flow { socket, peer, protocol := some protocol } 0 [] where
  single := Nat.zero_le 1
  awaited _ same := nomatch same
  own _ _ := rfl
  waits some := absurd rfl some
  closing status := nomatch status
  ended announced := nomatch announced
  forced member := nomatch member
  rested _ _ := ⟨[], nofun, rfl⟩
  sending some := nomatch some
  whole _ := rfl
  partly := List.prefix_rfl
  chronicle := Chronicle.nil

/-- A send is about to be submitted only if none is under way and the transport was not closed at
once. -/
theorem idle_of_asked (flow : Flow transport dispatches air)
    (some : 0 < air.countP Effect.isSend) :
    transport.writing = none ∧ transport.announced = false ∧ .discarded ∉ transport.history := by
  have single := flow.single
  have none : dispatches = 0 := Multiset.card_eq_zero.mp (by omega)
  have silent : transport.announced = false := by
    by_contra announced
    have none := (flow.ended (Bool.not_eq_false _ ▸ announced)).2.2
    omega
  refine ⟨?_, silent, fun discarded => ?_⟩
  · cases writing : transport.writing with
    | none => rfl
    | some future =>
      have member := flow.awaited future writing
      rw [none] at member
      exact absurd member (Multiset.notMem_zero future)
  · rw [flow.forced discarded] at silent
    cases silent

/-- As long as the loss is not announced, the transport was not closed at once. -/
theorem not_discarded (flow : Flow transport dispatches air) (silent : transport.announced = false) :
    .discarded ∉ transport.history := fun discarded => by
  rw [flow.forced discarded] at silent
  cases silent

/-- A transport that has a send under way knows of the only one. -/
theorem dispatches_of_writing (flow : Flow transport dispatches air) {future : FutureId}
    (writing : transport.writing = some future) :
    dispatches = {future} ∧ air.countP Effect.isSend = 0 := by
  have member := flow.awaited future writing
  have positive := Multiset.card_pos_iff_exists_mem.mpr ⟨future, member⟩
  have single := flow.single
  obtain ⟨only, rfl⟩ := Multiset.card_eq_one.mp (show dispatches.card = 1 by omega)
  rw [Multiset.mem_singleton.mp member]
  exact ⟨rfl, by omega⟩

/-- Events that are no sends leave the data waiting for what it waits for. -/
theorem waits_append (flow : Flow transport dispatches air) {more : List Event} (none : sends more = [])
    (some : transport.buffer ≠ []) :
    transport.writing.isSome = true ∨ Stalled (transport.history ++ more) :=
  (flow.waits some).imp_right fun stalled => stalled.congr none

/-- Events that are no sends leave a transport that closes waiting for what it waits for. -/
theorem closing_append (flow : Flow transport dispatches air) {more : List Event}
    (none : sends more = []) (closing : transport.status = .closing)
    (silent : transport.announced = false) :
    transport.writing.isSome = true ∨ 0 < air.countP Effect.isSend ∨
      Stalled (transport.history ++ more) :=
  (flow.closing closing silent).imp_right fun rest => rest.imp_right fun stalled => stalled.congr none

/-- Something happens that has nothing to do with what is sent, and the effects of another transition or
fewer ones are left. -/
theorem apart (flow : Flow transport dispatches air) (buffer : after.buffer = transport.buffer)
    (writing : after.writing = transport.writing) (announced : after.announced = transport.announced)
    {more : List Event} (history : after.history = transport.history ++ more)
    (apart : ∀ event ∈ more, event.isApart = true)
    (sends : effects.countP Effect.isSend = air.countP Effect.isSend)
    (same : asked effects = asked air)
    (closing : after.status = .closing → after.announced = false →
      after.writing.isSome = true ∨ 0 < effects.countP Effect.isSend ∨ Stalled after.history) :
    Flow after dispatches effects := by
  have noSends := sends_of_apart apart
  have kept : .discarded ∈ after.history ↔ .discarded ∈ transport.history := by
    rw [history, List.mem_append, or_iff_left]
    exact fun member => Bool.false_ne_true (apart _ member)
  have written : accepted after.history = accepted transport.history := by
    rw [history, accepted_append, accepted_of_apart apart, List.append_nil]
  have pieces : submitted after.history = submitted transport.history := by
    rw [history, submitted_append, submitted_of_apart apart, List.append_nil]
  refine ⟨sends ▸ flow.single, writing ▸ flow.awaited, ?_, ?_, closing, ?_, ?_, ?_, ?_, ?_, ?_, ?_⟩
  · rw [writing, kept]
    exact flow.own
  · rw [buffer, writing, history]
    exact flow.waits_append noSends
  · rw [announced, writing, buffer, sends]
    exact flow.ended
  · rw [kept, announced]
    exact flow.forced
  · rw [writing, kept, history]
    exact fun none stays => (flow.rested none stays).congr noSends
  · rw [writing, history]
    exact fun some => (flow.sending some).congr noSends
  · rw [kept, written, pieces, same, buffer]
    exact flow.whole
  · rw [written, pieces, same]
    exact flow.partly
  · rw [history]
    refine flow.chronicle.append fun event member before => ?_
    have quiet := apart event member
    cases event with
    | submitted | announced | written | sent | discarded => cases quiet
    | told | receiving | closing | shut =>
      exact .of_other (fun _ => Event.noConfusion) fun _ => Event.noConfusion

/-- One event of this kind happens, or none, and the same transport is left. -/
theorem noted (flow : Flow transport dispatches air) {event : Event} (apart : event.isApart = true) :
    Flow (transport.note event) dispatches air :=
  have alone : ∀ other ∈ [event], other.isApart = true :=
    fun _ member => List.mem_singleton.mp member ▸ apart
  flow.apart rfl rfl rfl rfl alone rfl rfl (flow.closing_append (sends_of_apart alone))

/-- The protocol is told something. -/
theorem tell (flow : Flow transport dispatches air) (notice : Notice) :
    Flow (transport.tell notice) dispatches air := by
  unfold Transport.tell
  split
  · exact flow.noted rfl
  · exact flow

/-- The data that waits is sent once everything before it was. -/
theorem sendNext (writing : transport.writing = none) (silent : transport.announced = false)
    (stays : .discarded ∉ transport.history) (ended : Ended transport.history)
    (whole : submitted transport.history ++ transport.buffer = accepted transport.history)
    (chronicle : Chronicle Sequent transport.history) :
    Flow transport.sendNext.2 0 transport.sendNext.1 := by
  have idle {future : FutureId} : transport.writing ≠ some future := by simp [writing]
  have some : ¬ transport.writing.isSome = true := by simp [writing]
  have announced : ¬ transport.announced = true := by simp [silent]
  unfold Transport.sendNext
  split
  · rename_i empty
    have buffer : transport.buffer = [] := List.isEmpty_iff.mp empty
    have sent : submitted transport.history ++ asked [] = accepted transport.history := by
      rw [← whole, buffer]
      rfl
    split
    · have lost : transport.announceLoss none =
          ([.announce none], { transport with announced := true }) := if_neg announced
      rw [lost]
      exact ⟨Nat.zero_le 1, fun _ same => absurd same idle, fun _ _ => rfl,
        fun waits => absurd buffer waits, fun _ silent => (nomatch silent),
        fun _ => ⟨writing, buffer, rfl⟩, fun _ => rfl, fun _ _ => ended,
        fun here => absurd here some, fun _ => by rw [← sent, buffer, List.append_nil]; rfl,
        sent ▸ List.prefix_rfl, chronicle⟩
    · rename_i other
      exact ⟨Nat.zero_le 1, fun _ same => absurd same idle, fun _ _ => rfl,
        fun waits => absurd buffer waits, fun closing => absurd closing other,
        fun here => absurd here announced, fun here => absurd here stays, fun _ _ => ended,
        fun here => absurd here some, fun _ => by rw [← sent, buffer, List.append_nil],
        sent ▸ List.prefix_rfl, chronicle⟩
  · have piece : asked [.send transport.buffer] = transport.buffer := List.append_nil _
    have sent : submitted transport.history ++ asked [.send transport.buffer] =
        accepted transport.history := by rw [piece, whole]
    exact ⟨Nat.le_refl 1, fun _ same => absurd same idle, fun _ _ => rfl,
      fun waits => absurd rfl waits, fun _ _ => Or.inr (Or.inl Nat.one_pos),
      fun here => absurd here announced, fun here => absurd here stays, fun _ _ => ended,
      fun here => absurd here some, fun _ => by rw [← sent, List.append_nil],
      sent ▸ List.prefix_rfl, chronicle⟩

/-- Data is written that the transport does not take. -/
theorem dropped (flow : Flow transport dispatches []) {data : Bytes} {active : Bool}
    (refused : accepted [.written data active] = []) (lost : Nat)
    (plain : effects.countP Effect.isSend = 0) :
    Flow { transport.note (.written data active) with lost } dispatches effects := by
  have kept : .discarded ∈ transport.history ++ [Event.written data active] ↔
      .discarded ∈ transport.history := by simp
  have written : accepted (transport.history ++ [Event.written data active]) =
      accepted transport.history := by
    rw [accepted_append, refused, List.append_nil]
  have pieces : submitted (transport.history ++ [Event.written data active]) =
      submitted transport.history := submitted_snoc rfl
  have none : asked effects = asked [] := asked_of_none plain
  refine ⟨plain ▸ flow.single, flow.awaited, fun none stays => flow.own none (mt kept.mpr stays),
    flow.waits_append rfl, ?_, ?_, fun here => flow.forced (kept.mp here), ?_, ?_, ?_, ?_, ?_⟩
  · rw [plain]
    exact flow.closing_append rfl
  · exact fun announced => ⟨(flow.ended announced).1, (flow.ended announced).2.1, plain⟩
  · exact fun none stays => (flow.rested none (mt kept.mpr stays)).congr rfl
  · exact fun some => (flow.sending some).congr rfl
  · intro stays
    change submitted (transport.history ++ _) ++ _ ++ _ = accepted (transport.history ++ _)
    rw [written, pieces, none]
    exact flow.whole (mt kept.mpr stays)
  · change submitted (transport.history ++ _) ++ _ <+: accepted (transport.history ++ _)
    rw [written, pieces, none]
    exact flow.partly
  · exact flow.chronicle.snoc (Sequent.of_other (fun _ => Event.noConfusion) fun _ => Event.noConfusion)

/-- Data is written to a transport that is active. -/
theorem taken (flow : Flow transport dispatches []) (data : Bytes)
    (silent : transport.announced = false) (active : transport.status = .active) :
    Flow (if transport.writing.isSome then
        ([], { transport.note (.written data true) with buffer := transport.buffer ++ data })
      else ({ transport.note (.written data true) with
        buffer := transport.buffer ++ data } : Transport).sendNext).2 dispatches
      (if transport.writing.isSome then
        ([], { transport.note (.written data true) with buffer := transport.buffer ++ data })
      else ({ transport.note (.written data true) with
        buffer := transport.buffer ++ data } : Transport).sendNext).1 := by
  have stays := flow.not_discarded silent
  have still : .discarded ∉ transport.history ++ [Event.written data true] := by simpa using stays
  have written : accepted (transport.history ++ [Event.written data true]) =
      accepted transport.history ++ data := by
    rw [accepted_append]
    exact congrArg _ (List.append_nil data)
  have pieces : submitted (transport.history ++ [Event.written data true]) =
      submitted transport.history := submitted_snoc rfl
  have chronicle : Chronicle Sequent (transport.history ++ [Event.written data true]) :=
    flow.chronicle.snoc (Sequent.of_other (fun _ => Event.noConfusion) fun _ => Event.noConfusion)
  have whole : submitted (transport.history ++ [Event.written data true]) ++ (transport.buffer ++ data) =
      accepted (transport.history ++ [Event.written data true]) := by
    have before : submitted transport.history ++ [] ++ transport.buffer = accepted transport.history :=
      flow.whole stays
    rw [written, pieces, ← before, List.append_nil, List.append_assoc]
  cases writing : transport.writing with
  | some future =>
    refine ⟨flow.single, fun _ same => flow.awaited _ same, fun none => ?_, fun _ => ?_, fun closing => ?_,
      fun announced => ?_, fun here => absurd here still, fun none => ?_, fun _ => ?_, fun _ => ?_, ?_,
      chronicle⟩
    · exact absurd (writing.symm.trans none) (Option.some_ne_none future)
    · exact Or.inl (congrArg Option.isSome writing)
    · exact nomatch active.symm.trans closing
    · exact nomatch silent.symm.trans announced
    · exact absurd (writing.symm.trans none) (Option.some_ne_none future)
    · exact (flow.sending (by rw [writing]; rfl)).congr rfl
    · exact (congrArg (· ++ _) (List.append_nil _)).trans whole
    · exact (List.append_nil (submitted _)).symm ▸ ⟨_, whole⟩
  | none =>
    have idle : dispatches = 0 := flow.own writing stays
    rw [idle]
    exact @sendNext { transport.note (.written data true) with buffer := transport.buffer ++ data }
      writing silent still ((flow.rested writing stays).congr rfl) whole chronicle

/-- Data is written. -/
theorem write (flow : Flow transport dispatches [])
    (counted : transport.lost = 0 ↔ transport.status = .active)
    (silent : transport.status = .active → transport.announced = false) (data : Bytes)
    (threshold : Nat) :
    Flow (transport.write data threshold).2 dispatches (transport.write data threshold).1 := by
  cases active : transport.isActive with
  | false =>
    have lost : 0 < transport.lost := by
      refine Nat.pos_of_ne_zero fun none => ?_
      rw [Transport.isActive, counted.mp none] at active
      cases active
    unfold Transport.write
    rw [active]
    dsimp only
    split
    · exact flow.dropped rfl transport.lost rfl
    · rw [if_pos (show 0 < (transport.note (.written data false)).lost from lost)]
      refine flow.dropped rfl (transport.lost + 1) ?_
      split
      · rfl
      · rfl
  | true =>
    have active' : transport.status = .active := beq_iff_eq.mp active
    have spared : ¬ 0 < (transport.note (.written data true)).lost :=
      Nat.not_lt.mpr (Nat.le_of_eq (counted.mpr active'))
    unfold Transport.write
    rw [active]
    dsimp only
    split
    · rename_i empty
      rw [List.isEmpty_iff.mp empty]
      exact flow.dropped rfl transport.lost rfl
    · exact flow.taken data (silent active') active'

/-- The transport begins to close. -/
theorem close (flow : Flow transport dispatches [])
    (silent : transport.status = .active → transport.announced = false) :
    Flow transport.close.2 dispatches transport.close.1 := by
  have noted : Flow (transport.note .closing) dispatches [] := flow.noted rfl
  unfold Transport.close
  split
  · rename_i active
    dsimp only
    split
    · rename_i idle
      obtain ⟨empty, free⟩ := Bool.and_eq_true_iff.mp idle
      have writing : transport.writing = none := Option.isNone_iff_eq_none.mp free
      have lost : Transport.announceLoss
          { transport.note .closing with status := .closing, lost := transport.lost + 1 } none =
            ([.announce none], { transport.note .closing with
              status := .closing, lost := transport.lost + 1, announced := true }) :=
        if_neg (ne_true_of_eq_false (silent active))
      rw [lost]
      exact { noted with
        closing := fun _ silent => nomatch silent
        ended := fun _ => ⟨writing, List.isEmpty_iff.mp empty, rfl⟩
        forced := fun _ => rfl }
    · rename_i busy
      have waits : transport.writing.isSome = true ∨ Stalled (transport.history ++ [Event.closing]) := by
        by_cases some : transport.buffer = []
        · refine Or.inl (by_contra fun none => busy ?_)
          have writing : transport.writing = Option.none := by simpa using none
          simp [some, writing]
        · exact flow.waits_append rfl some
      exact { noted with closing := fun _ _ => waits.imp_right Or.inr }
  · exact flow

/-- Nothing is left to be sent once the transport was closed at once. -/
theorem forced_close (silent : transport.announced = false) (single : dispatches.card ≤ 1)
    (partly : submitted transport.history <+: accepted transport.history)
    (chronicle : Chronicle Sequent transport.history) (error : Option Error) :
    Flow (transport.forceClose error).2 dispatches (transport.forceClose error).1 := by
  have history : (transport.beginClosing.note .discarded).history =
      transport.history ++ [Event.discarded] := by
    unfold Transport.beginClosing
    split
    · rfl
    · rfl
  have discarded : .discarded ∈ (transport.beginClosing.note .discarded).history := by simp
  have cancels : ((transport.writing.toList ++ transport.reading.toList).map Effect.cancel ++
      [Effect.announce error]).countP Effect.isSend = 0 := by
    rw [List.countP_append, List.countP_map]
    exact Nat.add_eq_zero_iff.mpr ⟨List.countP_eq_zero.mpr fun _ _ => Bool.false_ne_true, rfl⟩
  rw [Transport.forceClose_eq silent]
  refine ⟨?_, fun _ same => (nomatch same), fun _ stays => absurd discarded stays,
    fun some => absurd rfl some, fun _ silent => (nomatch silent), fun _ => ⟨rfl, rfl, cancels⟩,
    fun _ => rfl, fun _ stays => absurd discarded stays, fun some => (nomatch some),
    fun stays => absurd discarded stays, ?_, ?_⟩
  · rw [cancels]
    exact single
  · change submitted (transport.beginClosing.note .discarded).history ++ _ <+:
      accepted (transport.beginClosing.note .discarded).history
    rw [history, submitted_snoc rfl, accepted_snoc rfl, asked_of_none cancels, List.append_nil]
    exact partly
  · change Chronicle Sequent (transport.beginClosing.note .discarded).history
    rw [history]
    exact chronicle.snoc (Sequent.of_other (fun _ => Event.noConfusion) fun _ => Event.noConfusion)

/-- The transport is closed at once. -/
theorem forceClose (flow : Flow transport dispatches []) (error : Option Error) :
    Flow (transport.forceClose error).2 dispatches (transport.forceClose error).1 := by
  cases announced : transport.announced with
  | true =>
    rw [Transport.forceClose_announced announced]
    exact flow
  | false =>
    have partly : submitted transport.history ++ [] <+: accepted transport.history := flow.partly
    rw [List.append_nil] at partly
    exact forced_close announced flow.single partly flow.chronicle error

/-- A message is written first. -/
theorem reported (flow : Flow transport dispatches effects) (status : Status) (error : Error) :
    Flow transport dispatches (.reportFatal status error :: effects) :=
  flow.apart rfl rfl rfl (List.append_nil _).symm (fun _ member => nomatch member)
    (List.countP_cons_of_neg Bool.false_ne_true) rfl (by
      rw [List.countP_cons_of_neg Bool.false_ne_true]
      exact flow.closing)

/-- A failure keeps the flow, since it closes by force and submits nothing. -/
theorem fail (flow : Flow transport dispatches []) (error : Error) :
    Flow (transport.fail error).2 dispatches (transport.fail error).1 :=
  (flow.forceClose (some error)).reported transport.status error

/-- A receive has failed. -/
theorem receiveFailed (flow : Flow transport dispatches []) (error : Error) :
    Flow (transport.receiveFailed error).2 dispatches (transport.receiveFailed error).1 := by
  unfold Transport.receiveFailed
  split
  · exact flow
  · split
    · exact flow
    · split
      · exact flow.forceClose (some error)
      · exact flow.fail error

/-- A send has failed. -/
theorem sendFailed (error : Error)
    (cancelled : error.isCancelled = true → Flow transport dispatches [])
    (closes : ∀ error, Flow (transport.forceClose error).2 dispatches (transport.forceClose error).1) :
    Flow (transport.sendFailed error).2 dispatches (transport.sendFailed error).1 := by
  unfold Transport.sendFailed
  split
  · rename_i cancels
    exact cancelled cancels
  · split
    · exact closes none
    · split
      · exact closes (some error)
      · exact (closes (some error)).reported transport.status error

/-- The end of a send that the transport gave up is noted. -/
theorem given_up (flow : Flow transport dispatches []) (announced : transport.announced = true)
    (discarded : .discarded ∈ transport.history) {future : FutureId} (error : Option Error) :
    Flow { transport.note (.sent error) with writing := none } (dispatches.erase future) [] := by
  have still : .discarded ∈ transport.history ++ [Event.sent error] := List.mem_append_left _ discarded
  have part : submitted (transport.history ++ [Event.sent error]) ++ asked [] <+:
      accepted (transport.history ++ [Event.sent error]) := by
    rw [submitted_snoc rfl, accepted_snoc rfl]
    exact flow.partly
  refine ⟨?_, fun _ same => (nomatch same), fun _ stays => absurd still stays, fun some => ?_,
    fun _ silent => ?_, fun _ => ⟨rfl, (flow.ended announced).2.1, rfl⟩, fun _ => announced,
    fun _ stays => absurd still stays, fun some => (nomatch some), fun stays => absurd still stays,
    part, ?_⟩
  · exact Nat.le_trans (Multiset.card_le_card (Multiset.erase_le future dispatches)) flow.single
  · exact absurd (flow.ended announced).2.1 some
  · exact absurd (announced.symm.trans silent) Bool.noConfusion
  · exact flow.chronicle.snoc (Sequent.of_other (fun _ => Event.noConfusion) fun _ => Event.noConfusion)

/-- A send has ended with the error of a cancelled operation, though the transport did not give it up: the
transport stands still. -/
theorem passed_over (flow : Flow transport {future} []) (writing : transport.writing = some future)
    (stays : .discarded ∉ transport.history) :
    Flow { transport.note (.sent (some .cancelled)) with writing := none } 0 [] := by
  have silent : transport.announced ≠ true := fun announced => by
    have none := (flow.ended announced).1
    rw [writing] at none
    cases none
  have still : .discarded ∉ transport.history ++ [Event.sent (some .cancelled)] := by simpa using stays
  have sending : Sending transport.history := flow.sending (by rw [writing]; rfl)
  refine ⟨Nat.zero_le 1, fun _ same => (nomatch same), fun _ _ => rfl,
    fun _ => Or.inr (stalled_sent _), fun _ _ => Or.inr (Or.inr (stalled_sent _)),
    fun announced => absurd announced silent, fun here => absurd here still,
    fun _ _ => sending.ends (Or.inr rfl), fun some => (nomatch some), fun _ => ?_, ?_, ?_⟩
  · change submitted (transport.history ++ _) ++ [] ++ transport.buffer =
      accepted (transport.history ++ _)
    rw [submitted_snoc rfl, accepted_snoc rfl]
    exact flow.whole stays
  · change submitted (transport.history ++ _) ++ [] <+: accepted (transport.history ++ _)
    rw [submitted_snoc rfl, accepted_snoc rfl]
    exact flow.partly
  · exact flow.chronicle.snoc (Sequent.of_other (fun _ => Event.noConfusion) fun _ => Event.noConfusion)

/-- A send has ended. -/
theorem sendEnded (flow : Flow transport dispatches []) {future : FutureId} {error : Option Error}
    (due : future ∈ dispatches) :
    Flow (transport.sendEnded error).2 (dispatches.erase future) (transport.sendEnded error).1 := by
  cases writing : transport.writing with
  | none =>
    -- The transport was closed at once, and no send has been submitted since then.
    have discarded : .discarded ∈ transport.history := by
      by_contra stays
      rw [flow.own writing stays] at due
      exact Multiset.notMem_zero future due
    have announced := flow.forced discarded
    have noted : Flow { transport.note (.sent error) with writing := none } (dispatches.erase future) [] :=
      flow.given_up announced discarded error
    have ignored (cause : Option Error) :
        Transport.forceClose { transport.note (.sent error) with writing := none } cause =
          ([], { transport.note (.sent error) with writing := none }) :=
      @Transport.forceClose_announced { transport.note (.sent error) with writing := none } announced
        cause
    cases error with
    | none =>
      have empty : transport.buffer.isEmpty = true := by rw [(flow.ended announced).2.1]; rfl
      have done : Transport.sendEnded transport none =
          ([], { transport.note (.sent none) with writing := none }) := by
        change (if transport.buffer.isEmpty then if transport.status = .closing then
          (if transport.announced then _ else _) else _ else _) = _
        rw [if_pos empty, if_pos announced, ite_self]
      rw [done]
      exact noted
    | some error =>
      refine sendFailed error (fun _ => noted) fun cause => ?_
      rw [ignored]
      exact noted
  | some only =>
    obtain ⟨same, -⟩ := flow.dispatches_of_writing writing
    rw [same] at due ⊢
    have own : future = only := Multiset.mem_singleton.mp due
    rw [own, Multiset.erase_singleton]
    rw [same] at flow
    have silent : transport.announced = false := by
      by_contra announced
      have none := (flow.ended (Bool.not_eq_false _ ▸ announced)).1
      rw [writing] at none
      cases none
    have stays := flow.not_discarded silent
    have still : .discarded ∉ transport.history ++ [Event.sent error] := by simpa using stays
    have chronicle : Chronicle Sequent (transport.history ++ [Event.sent error]) :=
      flow.chronicle.snoc (Sequent.of_other (fun _ => Event.noConfusion) fun _ => Event.noConfusion)
    have whole : submitted (transport.history ++ [Event.sent error]) ++ transport.buffer =
        accepted (transport.history ++ [Event.sent error]) := by
      have before : submitted transport.history ++ [] ++ transport.buffer =
          accepted transport.history := flow.whole stays
      rw [submitted_snoc rfl, accepted_snoc rfl, ← before, List.append_nil]
    have sending : Sending transport.history := flow.sending (by rw [writing]; rfl)
    cases error with
    | none =>
      exact @sendNext { transport.note (.sent none) with writing := none } rfl silent still
        (sending.ends (Or.inl rfl)) whole chronicle
    | some error =>
      refine sendFailed error (fun cancelled => ?_) fun cause =>
        @forced_close { transport.note (.sent (some error)) with writing := none } 0 silent
          (Nat.zero_le 1) ⟨_, whole⟩ chronicle cause
      rw [eq_cancelled cancelled]
      exact flow.passed_over writing stays

/-- A receive has ended. -/
theorem receiveEnded (flow : Flow transport dispatches []) (outcome : Except Error Bytes) :
    Flow ((transport.receiveEnded outcome).1.told (transport.receiveEnded outcome).2.2) dispatches
      (transport.receiveEnded outcome).2.1 := by
  have ended : Flow { transport with reading := none } dispatches [] :=
    flow.apart rfl rfl rfl (List.append_nil _).symm (fun _ member => nomatch member) rfl rfl flow.closing
  unfold Transport.receiveEnded
  cases outcome with
  | error error => exact ended.receiveFailed error
  | ok data =>
    dsimp only
    split
    · exact ended
    · split
      · exact ended.tell .endOfStream
      · exact ended.tell (.data data)

/-- A send is submitted. -/
theorem submit (flow : Flow transport dispatches air)
    (once : transport.history.countP Event.isAnnouncement + air.countP Effect.isAnnouncement =
      if transport.announced = true then 1 else 0)
    {data : Bytes} {rest : List Effect} (next : air = .send data :: rest) (future : FutureId) :
    Flow { transport.note (.submitted data) with writing := some future } (dispatches + {future})
      rest := by
  have sends : air.countP Effect.isSend = rest.countP Effect.isSend + 1 := by
    rw [next]
    exact List.countP_cons_of_pos rfl
  obtain ⟨writing, silent, stays⟩ := flow.idle_of_asked (by omega)
  rw [silent, if_neg Bool.false_ne_true] at once
  have single := flow.single
  have none : dispatches = 0 := Multiset.card_eq_zero.mp (by omega)
  have ended := flow.rested writing stays
  have still : .discarded ∉ transport.history ++ [Event.submitted data] := by simpa using stays
  have pieces : submitted (transport.history ++ [Event.submitted data]) ++ asked rest =
      submitted transport.history ++ asked air := by
    have piece : submitted [.submitted data] = data := List.append_nil data
    rw [submitted_append, List.append_assoc, piece, next]
    rfl
  have written : accepted (transport.history ++ [Event.submitted data]) = accepted transport.history :=
    accepted_snoc rfl
  refine ⟨?_, ?_, fun none => (nomatch none), fun _ => Or.inl rfl, fun _ _ => Or.inl rfl,
    fun announced => ?_, fun here => absurd here still, fun none => (nomatch none),
    fun _ => ended.submit data,
    fun _ => ?_, ?_, ?_⟩
  · rw [none, zero_add, Multiset.card_singleton]
    omega
  · rintro other ⟨⟩
    exact Multiset.mem_add.mpr (Or.inr (Multiset.mem_singleton_self future))
  · rw [show transport.announced = true from announced] at silent
    cases silent
  · change submitted (transport.history ++ _) ++ _ ++ transport.buffer = accepted (transport.history ++ _)
    rw [pieces, written]
    exact flow.whole stays
  · change submitted (transport.history ++ _) ++ _ <+: accepted (transport.history ++ _)
    rw [pieces, written]
    exact flow.partly
  · refine flow.chronicle.snoc ⟨fun _ _ => ⟨ended, by omega⟩, fun _ same => nomatch same⟩

/-- The loss of the connection is announced. -/
theorem announce (flow : Flow transport dispatches air)
    (once : transport.history.countP Event.isAnnouncement + air.countP Effect.isAnnouncement =
      if transport.announced = true then 1 else 0)
    {error : Option Error} {rest : List Effect} (next : air = .announce error :: rest) :
    Flow (transport.note (.announced error)) dispatches rest := by
  have announced : transport.announced = true := by
    by_contra silent
    rw [if_neg silent, next, List.countP_cons_of_pos rfl] at once
    omega
  obtain ⟨writing, buffer, sends⟩ := flow.ended announced
  have fewer : rest.countP Effect.isSend = 0 := by
    rw [next, List.countP_cons_of_neg Bool.false_ne_true] at sends
    exact sends
  have kept : .discarded ∈ transport.history ++ [Event.announced error] ↔
      .discarded ∈ transport.history := by simp
  have none : asked rest = asked air := by rw [asked_of_none fewer, asked_of_none sends]
  have whole (stays : .discarded ∉ transport.history) :
      submitted transport.history = accepted transport.history := by
    have all := flow.whole stays
    rw [buffer, asked_of_none sends, List.append_nil, List.append_nil] at all
    exact all
  refine ⟨?_, flow.awaited, fun free stays => flow.own free (mt kept.mpr stays),
    flow.waits_append rfl,
    fun _ silent => ?_, fun _ => ⟨writing, buffer, fewer⟩, fun _ => announced,
    fun free stays => (flow.rested free (mt kept.mpr stays)).congr rfl,
    fun some => (flow.sending some).congr rfl, fun stays => ?_, ?_, ?_⟩
  · rw [fewer]
    exact Nat.le_trans (Nat.le_add_right _ _) flow.single
  · exact absurd (announced.symm.trans silent) Bool.noConfusion
  · change submitted (transport.history ++ _) ++ _ ++ _ = accepted (transport.history ++ _)
    rw [submitted_snoc rfl, accepted_snoc rfl, none]
    exact flow.whole (mt kept.mpr stays)
  · change submitted (transport.history ++ _) ++ _ <+: accepted (transport.history ++ _)
    rw [submitted_snoc rfl, accepted_snoc rfl, none]
    exact flow.partly
  · exact flow.chronicle.snoc ⟨fun _ same => (nomatch same),
      fun _ _ stays => ⟨flow.rested writing stays, whole stays⟩⟩

/-- Whatever happens, data goes on to flow. -/
theorem plays {id : TransportId} {before after : Situation} (plays : Plays id before after)
    (standing : Standing before.transport before.outlook.stirs before.outlook.losing
      before.outlook.air)
    (flow : Flow before.transport before.outlook.dispatches before.outlook.air) :
    Flow after.transport after.outlook.dispatches after.outlook.air := by
  -- What a transition asks for is asked for only when nothing else is.
  have settle {transport : Transport} {outlook : Outlook} (settled : outlook.air = [])
      (flow : Flow transport outlook.dispatches outlook.air) :
      Flow transport outlook.dispatches [] := settled ▸ flow
  have reading {transport : Transport} {outlook : Outlook} (settled : outlook.air = [])
      (flow : Flow transport outlook.dispatches outlook.air) :
      Flow transport.receiveNext.2 outlook.dispatches transport.receiveNext.1 := by
    rw [Transport.snd_receiveNext, Transport.fst_receiveNext]
    have flow := settle settled flow
    split
    · exact flow.apart rfl rfl rfl (List.append_nil _).symm (fun _ member => nomatch member) rfl rfl
        flow.closing
    · exact flow
  cases plays with
  | lapse transport outlook receives sends kept =>
    refine { flow with
      single := (Nat.add_le_add_right (Multiset.card_le_card sends) _).trans flow.single
      awaited := fun future writing => kept future writing (flow.awaited future writing)
      own := fun free stays => ?_ }
    have none := flow.own free stays
    rw [none] at sends
    exact Multiset.le_zero.mp sends
  | made => exact flow.tell .made
  | started transport outlook settled => exact @reading transport outlook settled flow
  | lost transport outlook settled =>
    have told := (settle settled flow).tell (.lost ‹Option Error›)
    rw [settled]
    exact { told with closing := fun status => nomatch status }
  | received transport outlook outcome settled => exact (settle settled flow).receiveEnded outcome
  | sent transport outlook error settled due =>
    exact (settle settled flow).sendEnded due
  | written transport outlook data threshold settled =>
    exact (settle settled flow).write standing.counted standing.silent data threshold
  | closed transport outlook settled => exact (settle settled flow).close standing.silent
  | aborted transport outlook settled => exact (settle settled flow).forceClose none
  | handed transport outlook settled => exact @reading transport outlook settled flow
  | shut transport outlook settled => exact flow.noted rfl
  | @passed transport outlook effect rest next plain =>
    have silent : effect.isSend = false := by
      cases effect with
      | send => cases plain
      | receive | announce | cancel | warnLostWrites | reportFatal => rfl
    have none : effect.sent? = none := by
      cases effect with
      | send => cases plain
      | receive | announce | cancel | warnLostWrites | reportFatal => rfl
    have fewer : rest.countP Effect.isSend = outlook.air.countP Effect.isSend := by
      rw [next, List.countP_cons_of_neg (ne_true_of_eq_false silent)]
    have same : asked rest = asked outlook.air := by
      unfold asked
      rw [next, List.filterMap_cons_none none]
    exact flow.apart rfl rfl rfl (List.append_nil _).symm (fun _ member => nomatch member) fewer same
      (fewer ▸ flow.closing)
  | announced transport outlook next => exact flow.announce standing.once next
  | @receives transport outlook future rest next =>
    have fewer : rest.countP Effect.isSend = outlook.air.countP Effect.isSend := by
      rw [next, List.countP_cons_of_neg Bool.false_ne_true]
    have same : asked rest = asked outlook.air := by rw [next]; rfl
    exact flow.apart rfl rfl rfl (Transport.history_note _ _)
      (fun _ member => List.mem_singleton.mp member ▸ rfl) fewer same (fewer ▸ flow.closing_append rfl)
  | sends transport outlook future next => exact flow.submit standing.once next future

end Flow

/-- Whatever is attained, data flows. -/
theorem Attained.flow {id : TransportId} {situation : Situation}
    (attained : Attained id situation) :
    Flow situation.transport situation.outlook.dispatches situation.outlook.air := by
  induction attained with
  | opened socket peer protocol reads => exact Flow.opened socket peer protocol
  | plays earlier plays ih => exact Flow.plays plays earlier.standing ih

end EventLoop.Net

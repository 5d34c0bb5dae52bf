import EventLoop.Proofs.Transport.Course
import EventLoop.Proofs.Transport.History

/-!
# What is asked of a transport

Writing to a transport, closing it and the ends of its operations have much in common: the protocol
stays, the transport leaves the active state at most once, and the loss of the connection is announced
at most once. `Drifts` says so of a transition, and every transition of this kind is shown to drift.
-/
namespace EventLoop.Net

/-- Whether an effect announces the loss of the connection. -/
def Effect.isAnnouncement : Effect → Bool
  | .announce _ => true
  | .receive | .send _ | .cancel _ | .warnLostWrites | .reportFatal .. => false

/-- Whether an effect submits a receive. -/
def Effect.isReceive : Effect → Bool
  | .receive => true
  | .announce _ | .send _ | .cancel _ | .warnLostWrites | .reportFatal .. => false

/-- Whether an event tells the protocol nothing and submits nothing. -/
def Event.isQuiet : Event → Bool
  | .written .. | .sent _ | .closing | .discarded => true
  | .told _ | .submitted _ | .receiving | .announced _ | .shut => false

namespace Transport

variable {transport : Transport}

/-- What a transition does to a transport that only writes to it, closes it, or takes note that an
operation has ended. -/
structure Drifts (before : Transport) (effects : List Effect) (after : Transport) : Prop where
  /-- The protocol stays. -/
  protocol : after.protocol = before.protocol
  /-- An active transport may begin to close. -/
  status : after.status = before.status ∨ before.status = .active ∧ after.status = .closing
  /-- Lost writes are counted as before. -/
  counted : (before.lost = 0 ↔ before.status = .active) → (after.lost = 0 ↔ after.status = .active)
  /-- The loss of the connection may be announced once the transport is not active. -/
  announced : after.announced = before.announced ∨
    before.announced = false ∧ after.announced = true ∧ after.status ≠ .active
  /-- What is announced is asked for. -/
  announcements : effects.countP Effect.isAnnouncement =
    if after.announced && !before.announced then 1 else 0
  /-- No receive is asked for. -/
  receives : effects.countP Effect.isReceive = 0
  /-- What happened is taken down. -/
  history : ∃ more, after.history = before.history ++ more ∧
    (∀ event ∈ more, event.isQuiet = true) ∧
    (after.status = .active ↔ before.status = .active ∧ ¬ Left more)

/-- All that matters for the protocol is the same. -/
structure Alike (transport other : Transport) : Prop where
  protocol : other.protocol = transport.protocol
  status : other.status = transport.status
  lost : other.lost = transport.lost
  announced : other.announced = transport.announced

namespace Drifts

/-- Nobody left the active state in a history in which nothing happened. -/
theorem not_left_nil : ¬ Left [] := fun left =>
  left.elim (fun here => nomatch here) fun here => nomatch here

/-- Nothing happens. -/
theorem idle {after : Transport} (alike : Alike transport after)
    (history : after.history = transport.history) : Drifts transport [] after where
  protocol := alike.protocol
  status := Or.inl alike.status
  counted same := by rw [alike.lost, alike.status]; exact same
  announced := Or.inl alike.announced
  announcements := by rw [alike.announced, Bool.and_not_self]; rfl
  receives := rfl
  history := by
    refine ⟨[], by rw [history, List.append_nil], fun _ member => (nomatch member), ?_⟩
    rw [alike.status]
    exact ⟨fun active => ⟨active, not_left_nil⟩, And.left⟩

/-- An event is taken down first. -/
theorem noted {middle after : Transport} {effects : List Effect}
    (drifts : Drifts middle effects after) (alike : Alike transport middle) {event : Event}
    (history : middle.history = transport.history ++ [event]) (quiet : event.isQuiet = true)
    (stays : ¬ Left [event]) : Drifts transport effects after where
  protocol := drifts.protocol.trans alike.protocol
  status := alike.status ▸ drifts.status
  counted := alike.status ▸ alike.lost ▸ drifts.counted
  announced := alike.announced ▸ drifts.announced
  announcements := alike.announced ▸ drifts.announcements
  receives := drifts.receives
  history := by
    obtain ⟨more, same, quiets, active⟩ := drifts.history
    refine ⟨event :: more, ?_, ?_, ?_⟩
    · rw [same, history, List.append_assoc]
      rfl
    · rintro other (_ | ⟨_, member⟩)
      · exact quiet
      · exact quiets other member
    · rw [active, alike.status]
      have split : Left (event :: more) ↔ Left [event] ∨ Left more := @left_append [event] more
      rw [split, not_or]
      exact ⟨fun ⟨here, free⟩ => ⟨here, stays, free⟩, fun ⟨here, _, free⟩ => ⟨here, free⟩⟩

/-- The loss is announced of a transport that is not active. -/
theorem announceLoss (inactive : transport.status ≠ .active) (error : Option Error) :
    Drifts transport (transport.announceLoss error).1 (transport.announceLoss error).2 := by
  unfold Transport.announceLoss
  split
  · exact idle ⟨rfl, rfl, rfl, rfl⟩ rfl
  · rename_i silent
    rw [Bool.not_eq_true] at silent
    refine ⟨rfl, Or.inl rfl, id, Or.inr ⟨silent, rfl, inactive⟩, ?_, rfl, [], ?_⟩
    · rw [silent]
      rfl
    · refine ⟨(List.append_nil _).symm, fun _ member => (nomatch member), ?_⟩
      exact ⟨fun active => absurd active inactive, And.left⟩

/-- Sending what waits drifts. -/
theorem sendNext : Drifts transport transport.sendNext.1 transport.sendNext.2 := by
  unfold Transport.sendNext
  split
  · split
    · rename_i closing
      refine announceLoss ?_ none
      rw [closing]
      decide
    · exact idle ⟨rfl, rfl, rfl, rfl⟩ rfl
  · refine ⟨rfl, Or.inl rfl, id, Or.inl rfl, ?_, rfl, [], ?_⟩
    · rw [Bool.and_not_self]
      rfl
    · refine ⟨(List.append_nil _).symm, fun _ member => (nomatch member), ?_⟩
      exact ⟨fun active => ⟨active, not_left_nil⟩, And.left⟩

/-- Writing to a transport drifts: the transport stays in its state. -/
theorem write (data : Bytes) (threshold : Nat) :
    Drifts transport (transport.write data threshold).1 (transport.write data threshold).2 := by
  have stays : ¬ Left [.written data transport.isActive] := by simp [Left]
  have taken {effects : List Effect} {after : Transport}
      (drifts : Drifts (transport.note (.written data transport.isActive)) effects after) :
      Drifts transport effects after := noted drifts ⟨rfl, rfl, rfl, rfl⟩ rfl rfl stays
  unfold Transport.write
  dsimp only
  split
  · exact taken (idle ⟨rfl, rfl, rfl, rfl⟩ rfl)
  · split
    · rename_i loses
      refine taken ⟨rfl, Or.inl rfl, fun same => ?_, Or.inl rfl, ?_, ?_, [], ?_⟩
      · have some : transport.lost ≠ 0 := Nat.ne_of_gt loses
        have inactive : ¬ transport.status = .active := fun active => some (same.mpr active)
        exact ⟨fun none => absurd none (Nat.succ_ne_zero _), fun active => absurd active inactive⟩
      · rw [Bool.and_not_self]
        dsimp only
        split
        · rfl
        · rfl
      · dsimp only
        split
        · rfl
        · rfl
      · refine ⟨(List.append_nil _).symm, fun _ member => absurd member List.not_mem_nil, ?_⟩
        exact ⟨fun active => ⟨active, not_left_nil⟩, And.left⟩
    · refine taken ?_
      split
      · exact idle ⟨rfl, rfl, rfl, rfl⟩ rfl
      · obtain ⟨protocol, status, counted, announced, announcements, receives, history⟩ :=
          @sendNext { transport.note (.written data transport.isActive) with
            buffer := transport.buffer ++ data }
        exact ⟨protocol, status, counted, announced, announcements, receives, history⟩

/-- An active transport that begins to close. -/
theorem close : Drifts transport transport.close.1 transport.close.2 := by
  unfold Transport.close
  split
  · rename_i active
    have begun {effects : List Effect} {after : Transport}
        (drifts : Drifts { transport.note .closing with
          status := .closing, lost := transport.lost + 1 } effects after) :
        Drifts transport effects after := by
      have inactive : after.status = .closing := drifts.status.elim id And.right
      have counted := drifts.counted (by simp)
      obtain ⟨more, same, quiets, -⟩ := drifts.history
      refine ⟨drifts.protocol, Or.inr ⟨active, inactive⟩, fun _ => counted, drifts.announced,
        drifts.announcements, drifts.receives, .closing :: more, ?_, ?_, ?_⟩
      · rw [same]
        exact List.append_assoc transport.history [.closing] more
      · rintro other (_ | ⟨_, member⟩)
        · rfl
        · exact quiets other member
      · rw [inactive]
        simp [Left]
    dsimp only
    split
    · exact begun (announceLoss Status.noConfusion none)
    · exact begun (idle ⟨rfl, rfl, rfl, rfl⟩ rfl)
  · exact idle ⟨rfl, rfl, rfl, rfl⟩ rfl

end Drifts

/-- A transport whose loss was not announced and that is closed at once. -/
theorem forceClose_eq (silent : transport.announced = false) (error : Option Error) :
    transport.forceClose error =
      ((transport.writing.toList ++ transport.reading.toList).map Effect.cancel ++
          [.announce error],
        { transport.beginClosing.note .discarded with
          buffer := [], reading := none, writing := none, announced := true }) := by
  have still : transport.beginClosing.announced = false := by
    unfold beginClosing
    split
    · exact silent
    · exact silent
  simp only [forceClose, silent, Bool.false_eq_true, if_false, Transport.announceLoss, note, still]

/-- A transport whose loss was announced is left alone. -/
theorem forceClose_announced (announced : transport.announced = true) (error : Option Error) :
    transport.forceClose error = ([], transport) := if_pos announced

namespace Drifts

/-- Beginning to close leaves the active state. -/
theorem status_beginClosing : transport.beginClosing.status ≠ .active ∧
    (transport.beginClosing.status = transport.status ∨
      transport.status = .active ∧ transport.beginClosing.status = .closing) := by
  unfold beginClosing
  split
  · rename_i active
    exact ⟨Status.noConfusion, Or.inr ⟨active, rfl⟩⟩
  · rename_i inactive
    exact ⟨inactive, Or.inl rfl⟩

/-- Closing by force drifts: it announces the loss unless that was done. -/
theorem forceClose (error : Option Error) :
    Drifts transport (transport.forceClose error).1 (transport.forceClose error).2 := by
  cases announced : transport.announced with
  | true =>
    rw [forceClose_announced announced]
    exact idle ⟨rfl, rfl, rfl, rfl⟩ rfl
  | false =>
    have cancels {count : Effect → Bool} (plain : ∀ future, count (.cancel future) = false)
        (futures : List FutureId) : (futures.map Effect.cancel).countP count = 0 := by
      rw [List.countP_eq_zero]
      intro effect member
      obtain ⟨future, -, rfl⟩ := List.mem_map.mp member
      rw [plain]
      exact Bool.false_ne_true
    obtain ⟨inactive, status⟩ := @status_beginClosing transport
    rw [forceClose_eq announced]
    refine ⟨?_, status, fun same => ?_, Or.inr ⟨announced, rfl, inactive⟩, ?_, ?_, [.discarded], ?_⟩
    · change transport.beginClosing.protocol = _
      unfold beginClosing
      split
      · rfl
      · rfl
    · change transport.beginClosing.lost = 0 ↔ transport.beginClosing.status = .active
      refine ⟨fun none => ?_, fun active => absurd active inactive⟩
      unfold beginClosing at none ⊢
      split at none
      · cases none
      · rename_i passive
        exact absurd (same.mp none) passive
    · rw [List.countP_append, cancels fun _ => rfl, announced]
      rfl
    · rw [List.countP_append, cancels fun _ => rfl]
      rfl
    · refine ⟨?_, fun event member => ?_, ?_⟩
      · change transport.beginClosing.history ++ [Event.discarded] = _
        unfold beginClosing
        split
        · rfl
        · rfl
      · rw [List.mem_singleton.mp member]
        rfl
      · refine ⟨fun active => absurd active inactive, fun stays => absurd ?_ stays.2⟩
        exact Or.inr List.mem_cons_self

/-- A message is written first. -/
theorem reported {effects : List Effect} {after : Transport} (drifts : Drifts transport effects after)
    (status : Status) (error : Error) :
    Drifts transport (.reportFatal status error :: effects) after :=
  { drifts with
    announcements := by rw [List.countP_cons_of_neg Bool.false_ne_true]; exact drifts.announcements
    receives := by rw [List.countP_cons_of_neg Bool.false_ne_true]; exact drifts.receives }

/-- A failure drifts. -/
theorem fail (error : Error) :
    Drifts transport (transport.fail error).1 (transport.fail error).2 :=
  (forceClose (some error)).reported transport.status error

/-- A receive that fails drifts. -/
theorem receiveFailed (error : Error) :
    Drifts transport (transport.receiveFailed error).1 (transport.receiveFailed error).2 := by
  unfold Transport.receiveFailed
  split
  · exact idle ⟨rfl, rfl, rfl, rfl⟩ rfl
  · split
    · exact idle ⟨rfl, rfl, rfl, rfl⟩ rfl
    · split
      · exact forceClose (some error)
      · exact fail error

/-- A send that fails drifts. -/
theorem sendFailed (error : Error) :
    Drifts transport (transport.sendFailed error).1 (transport.sendFailed error).2 := by
  unfold Transport.sendFailed
  split
  · exact idle ⟨rfl, rfl, rfl, rfl⟩ rfl
  · split
    · exact forceClose none
    · split
      · exact forceClose (some error)
      · exact fail error

/-- The end of a send drifts. -/
theorem sendEnded (error : Option Error) :
    Drifts transport (transport.sendEnded error).1 (transport.sendEnded error).2 := by
  have taken {effects : List Effect} {after : Transport}
      (drifts : Drifts { transport.note (.sent error) with writing := none } effects after) :
      Drifts transport effects after :=
    noted drifts ⟨rfl, rfl, rfl, rfl⟩ rfl rfl (by simp [Left])
  cases error with
  | none => exact taken sendNext
  | some error => exact taken (sendFailed error)

/-- A receive that has ended leads to a drift, or it has brought something for the protocol of an active
transport. -/
theorem receiveEnded (transport : Transport) (outcome : Except Error Bytes) :
    (∃ effects after, transport.receiveEnded outcome = (.nothing, effects, after) ∧
        Drifts transport effects after) ∨
      transport.status = .active ∧ ∃ arrival : Arrival, arrival.isNothing = false ∧
        transport.receiveEnded outcome = (arrival, [], { transport with reading := none }) := by
  have same {effects : List Effect} {after : Transport}
      (drifts : Drifts { transport with reading := none } effects after) :
      Drifts transport effects after :=
    ⟨drifts.protocol, drifts.status, drifts.counted, drifts.announced, drifts.announcements,
      drifts.receives, drifts.history⟩
  cases outcome with
  | error error => exact Or.inl ⟨_, _, rfl, same (receiveFailed error)⟩
  | ok data =>
    cases active : transport.isActive with
    | false =>
      refine Or.inl ⟨[], _, ?_, same (idle ⟨rfl, rfl, rfl, rfl⟩ rfl)⟩
      exact if_pos (congrArg not active)
    | true =>
      have brought : transport.receiveEnded (.ok data) =
          if data.isEmpty then (.endOfStream, [], { transport with reading := none })
          else (.data data, [], { transport with reading := none }) :=
        if_neg (by simpa [isActive] using active)
      refine Or.inr ⟨of_decide_eq_true active, ?_⟩
      cases empty : data.isEmpty with
      | true => exact ⟨.endOfStream, rfl, brought.trans (if_pos empty)⟩
      | false => exact ⟨.data data, rfl, brought.trans (if_neg (ne_true_of_eq_false empty))⟩

end Drifts

/-- To receive the next data changes nothing yet. -/
theorem snd_receiveNext (transport : Transport) : transport.receiveNext.2 = transport := by
  unfold receiveNext
  split
  · rfl
  · rfl

/-- Only an active transport asks to receive, and only once. -/
theorem fst_receiveNext (transport : Transport) : transport.receiveNext.1 =
    if transport.status = .active then [.receive] else [] := by
  unfold receiveNext isActive
  split
  · rename_i active
    rw [if_pos (beq_iff_eq.mp active)]
  · rename_i inactive
    rw [if_neg fun active => inactive (beq_iff_eq.mpr active)]

/-- A protocol that listens is told. -/
theorem tell_of_listens (listens : transport.protocol.isSome = true) (notice : Notice) :
    transport.tell notice = transport.note (.told notice) := if_pos listens

end Transport

end EventLoop.Net

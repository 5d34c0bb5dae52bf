import EventLoop.Proofs.Transport.Drift

/-!
# Where a transport stands

The fields of a transport are bound to one another, to its history and to what is to come: the lost
writes and the protocol to the status, the announcement of the loss to the callback that tells of it, and
the end of the transport to its socket. All that may happen to a transport keeps them so.
-/
namespace EventLoop

/-- Whether a callback tells a protocol that its connection is made. -/
def Callback.isMade : Callback → Bool
  | .connectionMade _ => true
  | .script .. | .step _ | .done .. | .readPipe | .resolve _ | .expire _ | .startReading _
  | .connectionLost .. | .startAccepting _ => false

/-- Whether a callback begins to read. -/
def Callback.isStart : Callback → Bool
  | .startReading _ => true
  | .script .. | .step _ | .done .. | .readPipe | .resolve _ | .expire _ | .connectionMade _
  | .connectionLost .. | .startAccepting _ => false

/-- Whether a callback tells a protocol that its connection is lost. -/
def Callback.isLoss : Callback → Bool
  | .connectionLost .. => true
  | .script .. | .step _ | .done .. | .readPipe | .resolve _ | .expire _ | .connectionMade _
  | .startReading _ | .startAccepting _ => false

namespace Net

/-- Whether an event leaves a transport where it stands. -/
def Event.isPassing : Event → Bool
  | .told .made | .told (.data _) | .told .endOfStream | .submitted _ | .receiving => true
  | .told (.lost _) | .written .. | .sent _ | .closing | .discarded | .announced _ | .shut => false

/-- How the fields of a transport, its history and what is to come are bound to one another. -/
structure Standing (transport : Transport) (stirs : List Callback) (losing : Nat)
    (air : List Effect) : Prop where
  /-- No write is lost as long as the transport is active. -/
  counted : transport.lost = 0 ↔ transport.status = .active
  /-- The protocol listens until the transport is closed. -/
  listens : transport.protocol.isSome = true ↔ transport.status ≠ .closed
  /-- The loss of an active connection is not announced. -/
  silent : transport.status = .active → transport.announced = false
  /-- The loss of a connection was announced before the transport was closed. -/
  ended : transport.status = .closed → transport.announced = true
  /-- The protocol is about to be told of a loss that was announced. -/
  waiting : stirs.countP Callback.isLoss + air.countP Effect.isAnnouncement =
    if transport.announced = true ∧ transport.status ≠ .closed then 1 else 0
  /-- The loss is announced once. -/
  once : transport.history.countP Event.isAnnouncement + air.countP Effect.isAnnouncement =
    if transport.announced = true then 1 else 0
  /-- The socket is closed once. -/
  shutting : losing + transport.history.count .shut =
    if transport.status = .closed then 1 else 0
  /-- The protocol of a closed transport was told that the connection is lost. -/
  gone : (∃ error, .told (.lost error) ∈ transport.history) ↔ transport.status = .closed
  /-- The transport is active until it is asked to close or is closed at once. -/
  left : transport.status = .active ↔ ¬ Left transport.history

namespace Standing

variable {transport after : Transport} {stirs : List Callback} {losing : Nat} {air : List Effect}

/-- A transport that was just opened stands, if no loss is to be told. -/
theorem opened (socket : SocketId) (peer : Option Address) (protocol : Listener)
    (stays : stirs.countP Callback.isLoss = 0) :
    Standing { socket, peer, protocol := some protocol } stirs 0 [] where
  counted := by simp
  listens := by simp
  silent _ := rfl
  ended closed := nomatch closed
  waiting := by simp [stays]
  once := rfl
  shutting := rfl
  gone := by simp
  left := by simp [Left]

/-- Events that leave the transport where it stands are taken down. -/
theorem passing (standing : Standing transport stirs losing air)
    (alike : Transport.Alike transport after) {event : Event}
    (history : after.history = transport.history ++ [event]) (passing : event.isPassing = true) :
    Standing after stirs losing air := by
  obtain ⟨protocol, status, lost, announced⟩ := alike
  have announcement : event.isAnnouncement = false := by
    cases event with
    | announced => cases passing
    | told | written | submitted | sent | receiving | closing | discarded | shut => rfl
  have shut : event ≠ .shut := by rintro rfl; cases passing
  have loss (error : Option Error) : .told (.lost error) ≠ event := by rintro rfl; cases passing
  have stays : ¬ Left [event] := by
    rintro (here | here)
    · rw [← List.mem_singleton.mp here] at passing
      cases passing
    · rw [← List.mem_singleton.mp here] at passing
      cases passing
  constructor
  · rw [lost, status]
    exact standing.counted
  · rw [protocol, status]
    exact standing.listens
  · rw [status, announced]
    exact standing.silent
  · rw [status, announced]
    exact standing.ended
  · rw [status, announced]
    exact standing.waiting
  · rw [history, announced, List.countP_append, List.countP_singleton, announcement]
    exact standing.once
  · rw [history, status, List.count_append, List.count_singleton]
    simpa [shut] using standing.shutting
  · simpa [history, status, loss] using standing.gone
  · rw [status, history, left_append]
    simpa [stays] using standing.left

/-- What is asked of the transport is done to it. -/
theorem drift (standing : Standing transport stirs losing []) {effects : List Effect}
    (drifts : Transport.Drifts transport effects after) : Standing after stirs losing effects := by
  obtain ⟨more, history, quiet, active⟩ := drifts.history
  have announcements : more.countP Event.isAnnouncement = 0 := by
    rw [List.countP_eq_zero]
    intro event member
    have silent := quiet event member
    cases event with
    | announced => cases silent
    | told | written | submitted | sent | receiving | closing | discarded | shut =>
      exact Bool.false_ne_true
  have shut : .shut ∉ more := fun member => Bool.false_ne_true (quiet _ member)
  have told (notice : Notice) : .told notice ∉ more := fun member =>
    Bool.false_ne_true (quiet _ member)
  have closed : after.status = .closed ↔ transport.status = .closed := by
    rcases drifts.status with same | ⟨before, now⟩
    · rw [same]
    · rw [before, now]
      decide
  have waiting := standing.waiting
  have once := standing.once
  have ended := standing.ended
  rw [List.countP_nil, Nat.add_zero] at waiting once
  constructor
  · exact drifts.counted standing.counted
  · rw [drifts.protocol, standing.listens, ne_eq, ne_eq, closed]
  · intro now
    rcases drifts.announced with same | ⟨-, -, inactive⟩
    · rw [same]
      exact standing.silent (active.mp now).1
    · exact absurd now inactive
  · intro now
    rcases drifts.announced with same | ⟨-, announced, -⟩
    · rw [same]
      exact ended (closed.mp now)
    · exact announced
  · simp only [waiting, drifts.announcements, ne_eq, closed]
    rcases drifts.announced with same | ⟨before, now, -⟩
    · simp [same]
    · have stays : transport.status ≠ .closed := fun last => by simp [before] at ended; exact ended last
      simp [before, now, stays]
  · rw [history, List.countP_append, announcements, Nat.add_zero, once, drifts.announcements]
    rcases drifts.announced with same | ⟨before, now, -⟩
    · simp [same]
    · simp [before, now]
  · rw [history, List.count_append, List.count_eq_zero.mpr shut, Nat.add_zero]
    simp only [closed, standing.shutting]
  · simpa [history, told, closed] using standing.gone
  · rw [active, history, left_append, not_or, standing.left]

/-- What is to come changes, but nothing that tells of a loss. -/
theorem restir (standing : Standing transport stirs losing air) {others : List Callback}
    {effects : List Effect}
    (losses : others.countP Callback.isLoss = stirs.countP Callback.isLoss)
    (announcements : effects.countP Effect.isAnnouncement = air.countP Effect.isAnnouncement) :
    Standing transport others losing effects :=
  { standing with
    waiting := by rw [losses, announcements]; exact standing.waiting
    once := by rw [announcements]; exact standing.once }

/-- The transport may go on to read. -/
theorem receiveNext (standing : Standing transport stirs losing []) :
    Standing transport.receiveNext.2 stirs losing transport.receiveNext.1 := by
  rw [Transport.snd_receiveNext, Transport.fst_receiveNext]
  split
  · exact standing.restir rfl rfl
  · exact standing

/-- The protocol is told something, but not that the connection is lost. -/
theorem tell (standing : Standing transport stirs losing air) {notice : Notice}
    (other : Event.isPassing (.told notice) = true) :
    Standing (transport.tell notice) stirs losing air := by
  unfold Transport.tell
  split
  · exact standing.passing ⟨rfl, rfl, rfl, rfl⟩ rfl other
  · exact standing

/-- The protocol is told of what arrived. -/
theorem told (standing : Standing transport stirs losing air) (arrival : Arrival) :
    Standing (arrival.told transport) stirs losing air := by
  cases arrival with
  | nothing => exact standing
  | data bytes => exact standing.tell rfl
  | endOfStream => exact standing.tell rfl

/-- A callback that tells of a loss waits for a transport that is not closed yet. -/
theorem open_of_loss (standing : Standing transport stirs losing air)
    (waits : 0 < stirs.countP Callback.isLoss) :
    transport.announced = true ∧ transport.status ≠ .closed := by
  have waiting := standing.waiting
  split at waiting
  · assumption
  · omega

/-- The protocol is told of the loss. -/
theorem connectionLost {id : TransportId} {error : Option Error}
    (standing : Standing transport (.connectionLost id error :: stirs) losing []) :
    Standing (transport.connectionLost error) stirs (losing + 1) [] := by
  have one : (Callback.connectionLost id error :: stirs).countP Callback.isLoss =
      stirs.countP Callback.isLoss + 1 := List.countP_cons_of_pos rfl
  obtain ⟨announced, still⟩ := standing.open_of_loss (by omega)
  have listens := standing.listens.mpr still
  have waiting := standing.waiting
  rw [one, List.countP_nil, Nat.add_zero, if_pos ⟨announced, still⟩] at waiting
  have once := standing.once
  have shutting := standing.shutting
  rw [if_neg still] at shutting
  rw [if_pos announced] at once
  have inactive : transport.status ≠ .active := by
    intro active
    rw [standing.silent active] at announced
    cases announced
  have lost : transport.lost ≠ 0 := fun none => inactive (standing.counted.mp none)
  have left : Left transport.history := by
    by_contra stays
    exact inactive (standing.left.mpr stays)
  unfold Transport.connectionLost
  rw [Transport.tell_of_listens listens]
  constructor
  · exact ⟨fun none => absurd none lost, Status.noConfusion⟩
  · exact ⟨Bool.noConfusion, fun other => absurd rfl other⟩
  · exact Status.noConfusion
  · exact fun _ => announced
  · rw [if_neg fun both => both.2 rfl, List.countP_nil]
    omega
  · rw [Transport.history_note, Transport.announced_note, if_pos announced, List.countP_append]
    exact once
  · have none : [Event.told (.lost error)].count Event.shut = 0 := rfl
    rw [Transport.history_note, List.count_append, none, if_pos rfl]
    omega
  · refine ⟨fun _ => rfl, fun _ => ⟨error, ?_⟩⟩
    exact List.mem_append_right _ List.mem_cons_self
  · refine ⟨Status.noConfusion, fun stays => absurd ?_ stays⟩
    exact left_append.mpr (Or.inl left)

/-- The socket is closed. -/
theorem shut (standing : Standing transport stirs (losing + 1) air) :
    Standing (transport.note .shut) stirs losing air where
  counted := standing.counted
  listens := standing.listens
  silent := standing.silent
  ended := standing.ended
  waiting := standing.waiting
  once := by
    rw [Transport.history_note, List.countP_append]
    exact standing.once
  shutting := by
    rw [Transport.history_note, List.count_append, ← Nat.add_assoc, List.count_singleton_self,
      Nat.add_right_comm]
    exact standing.shutting
  gone := by
    simpa using standing.gone
  left := by
    simpa [Left] using standing.left

/-- The loss is announced. -/
theorem announced {id : TransportId} {error : Option Error}
    (standing : Standing transport stirs losing (.announce error :: air)) :
    Standing (transport.note (.announced error)) (stirs ++ [Callback.connectionLost id error]) losing air where
  counted := standing.counted
  listens := standing.listens
  silent := standing.silent
  ended := standing.ended
  waiting := by
    have one : [Callback.connectionLost id error].countP Callback.isLoss = 1 := rfl
    have waiting := standing.waiting
    rw [List.countP_cons_of_pos rfl] at waiting
    rw [List.countP_append, one]
    exact (Nat.add_right_comm _ _ _).trans waiting
  once := by
    have one : [Event.announced error].countP Event.isAnnouncement = 1 := rfl
    have once := standing.once
    rw [List.countP_cons_of_pos rfl] at once
    rw [Transport.history_note, List.countP_append, one]
    exact (Nat.add_right_comm _ _ _).trans once
  shutting := by
    rw [Transport.history_note, List.count_append]
    exact standing.shutting
  gone := by
    simpa using standing.gone
  left := by
    simpa [Left] using standing.left

/-- Whatever happens, a transport stands as it should. -/
theorem plays {id : TransportId} {before after : Situation}
    (plays : Plays id before after)
    (standing : Standing before.transport before.outlook.stirs before.outlook.losing
      before.outlook.air) :
    Standing after.transport after.outlook.stirs after.outlook.losing after.outlook.air := by
  cases plays with
  | lapse transport outlook => exact standing
  | made transport outlook settled next =>
    refine (standing.restir ?_ rfl).tell rfl
    rw [next]
    exact (List.countP_cons_of_neg Bool.false_ne_true).symm
  | started transport outlook settled next =>
    rw [settled] at standing
    refine (standing.restir ?_ rfl).receiveNext
    rw [next]
    exact (List.countP_cons_of_neg Bool.false_ne_true).symm
  | lost transport outlook settled next =>
    rw [settled, next] at standing
    dsimp only
    rw [settled]
    exact standing.connectionLost
  | received transport outlook outcome settled due =>
    rw [settled] at standing
    rcases Transport.Drifts.receiveEnded transport outcome with
      ⟨effects, after, ended, drifts⟩ | ⟨-, arrival, -, ended⟩
    · rw [ended]
      exact standing.drift drifts
    · rw [ended]
      refine Standing.told ?_ arrival
      exact ⟨standing.counted, standing.listens, standing.silent, standing.ended, standing.waiting,
        standing.once, standing.shutting, standing.gone, standing.left⟩
  | sent transport outlook error settled due =>
    rw [settled] at standing
    exact standing.drift (.sendEnded error)
  | written transport outlook data threshold settled =>
    rw [settled] at standing
    exact standing.drift (.write data threshold)
  | closed transport outlook settled =>
    rw [settled] at standing
    exact standing.drift .close
  | aborted transport outlook settled =>
    rw [settled] at standing
    exact standing.drift (.forceClose none)
  | handed transport outlook settled next =>
    rw [settled] at standing
    exact standing.receiveNext
  | shut transport outlook settled next =>
    rw [next] at standing
    exact standing.shut
  | passed transport outlook next plain =>
    rw [next] at standing
    refine standing.restir rfl ?_
    rename_i effect rest
    refine (List.countP_cons_of_neg ?_).symm
    cases effect with
    | announce => cases plain
    | receive | send | cancel | warnLostWrites | reportFatal => exact Bool.false_ne_true
  | announced transport outlook next =>
    rw [next] at standing
    exact standing.announced
  | receives transport outlook future next =>
    rw [next] at standing
    refine (standing.restir rfl ?_).passing ⟨rfl, rfl, rfl, rfl⟩ rfl rfl
    exact (List.countP_cons_of_neg Bool.false_ne_true).symm
  | sends transport outlook future next =>
    rw [next] at standing
    refine (standing.restir rfl ?_).passing ⟨rfl, rfl, rfl, rfl⟩ rfl rfl
    exact (List.countP_cons_of_neg Bool.false_ne_true).symm

end Standing

/-- Whatever can be attained stands as it should. -/
theorem Attained.standing {id : TransportId} {situation : Situation}
    (attained : Attained id situation) :
    Standing situation.transport situation.outlook.stirs situation.outlook.losing
      situation.outlook.air := by
  induction attained with
  | opened socket peer protocol reads =>
    refine Standing.opened socket peer protocol ?_
    cases reads with
    | true => rfl
    | false => rfl
  | plays _ plays ih => exact Standing.plays plays ih

end Net

end EventLoop

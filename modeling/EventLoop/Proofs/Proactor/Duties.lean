import EventLoop.Proofs.Proactor.Keys
import EventLoop.Proofs.Proactor.Serving

/-!
# What the engine owes to its sockets

Every service keeps its lines, its watches and its calls as they should be. So each call for an operation
of a socket is made on the descriptor of that socket while it is open, even where descriptors are used
again; whoever is pending on an open socket is watched for; and what the kernel hands out on a socket goes
to the operations that read there, in the order in which they were submitted.
-/
namespace EventLoop.Proactor

open Kernel (Flags closedFd)

variable {σ : Type} {kernel : System σ} {service before after : Service σ}

namespace Site

variable {site : Site σ} {engine : Engine} {fd : Fd} {registration : Registration}

/-! ## Failures to watch -/

/-- Operations end in one way, and all others are left alone. -/
theorem settleAll_eq (kernel : System σ) (verdict : Verdict) (operations : List Operation)
    (site : Site σ) :
    let reached := (Engine.settleAll (system kernel) verdict operations site).2
    reached.sockets = site.sockets ∧ ∀ future, reached.roster.endings future =
      if site.roster.pending future = true ∧ future ∈ operations.map Operation.future then
        some ⟨verdict, site.sockets⟩ else site.roster.endings future := by
  induction operations generalizing site with
  | nil => exact ⟨rfl, fun future => by simp [Engine.settleAll]; rfl⟩
  | cons first rest ih =>
    obtain ⟨sockets, endings⟩ := ih (site.conclude first.future verdict)
    refine ⟨sockets, fun future => (endings future).trans ?_⟩
    have ended : (site.conclude first.future verdict).roster.endings future = _ :=
      Roster.endings_conclude
    have same : (site.conclude first.future verdict).sockets = site.sockets := rfl
    rw [Site.pending_conclude, ended, same]
    by_cases here : future = first.future <;> by_cases waits : site.roster.pending future = true <;>
      simp_all

/-- When a descriptor cannot be watched, all operations that wait there fail, the descriptor is forgotten,
and nothing else has changed. -/
theorem arm_fails {error : Errno} (found : engine.registration? fd = some registration)
    (opened : site.sockets.fd? registration.owner ≠ none)
    (loud : (site.live registration).interest.isEmpty = false)
    (failed : (engine.watch (system kernel) fd
      { (site.live registration).interest with once := true } site).1 = .error error) :
    let armed := engine.arm (system kernel) fd site
    (∀ one, armed.1.registration? one = if one = fd then none else engine.registration? one) ∧
      ∀ future, armed.2.roster.endings future =
        if site.roster.pending future = true ∧ future ∈ registration.operations.map Operation.future then
          some ⟨.over (.error (Engine.watchFailure error)), site.sockets⟩
        else site.roster.endings future := by
  let live := site.live registration
  let stored := engine.setRegistration fd live
  obtain ⟨after, reached⟩ :=
    ensures_watch kernel engine fd { live.interest with once := true } site site rfl
  have watched : stored.watch (system kernel) fd { live.interest with once := true } site =
      (.error error, { site with kernel := after }) := by
    rw [failed] at reached
    exact Prod.ext failed reached
  have armed : engine.arm (system kernel) fd site = (stored.eraseRegistration fd,
      (Engine.settleAll (system kernel) (.over (.error (Engine.watchFailure error))) live.operations
        { site with kernel := after }).2) := by
    rw [arm_open found opened]
    dsimp only
    rw [if_neg (by simp [loud])]
    simp only [bind, StateT.bind]
    rw [watched]
    rfl
  rw [armed]
  constructor
  · intro one
    rw [Engine.registration?_eraseRegistration]
    by_cases here : one = fd
    · rw [if_pos here, if_pos here]
    · rw [if_neg here, if_neg here, Engine.registration?_setRegistration, if_neg here]
  · intro future
    rw [(settleAll_eq kernel _ live.operations { site with kernel := after }).2 future]
    have same : live.operations =
        registration.operations.filter (site.roster.pending ·.future) := (List.filter_append ..).symm
    refine if_congr (and_congr_right fun waits => ?_) rfl rfl
    rw [same]
    simp only [List.mem_map, List.mem_filter]
    constructor
    · rintro ⟨operation, ⟨member, -⟩, rfl⟩
      exact ⟨operation, member, rfl⟩
    · rintro ⟨operation, member, rfl⟩
      exact ⟨operation, ⟨member, waits⟩, rfl⟩

end Site

/-! ## Runs -/

namespace Service

/-- The lines, the watches and the calls of a service are as they should be. -/
structure Proper (service : Service σ) : Prop where
  /-- No descriptor has two registrations. -/
  keyed : service.engine.Keyed
  /-- Nobody is exempt. -/
  sound : Sound service.engine.lines (fun _ => False) [] service.site

/-- A service begins without operations. -/
theorem proper_new (poller : Fd) (limit : Nat) (state : σ) : (new poller limit state).Proper where
  keyed := List.nodup_nil
  sound := by
    refine ⟨⟨?_, List.nodup_nil, fun _ _ => rfl, fun _ => rfl⟩, ⟨?_, ?_, ?_, ?_, ?_, rfl, ?_, ?_⟩,
      ⟨?_, ?_, fun _ => rfl, fun _ => List.Pairwise.nil, ?_, ?_⟩⟩
    all_goals simp [new]

namespace Proper

/-- A new operation is in line. -/
theorem fresh (proper : service.Proper) {socket : SocketId}
    (known : socket < service.site.sockets.count) (request : Request) :
    Fresh service.engine.lines (service.commission socket request)
      (service.enlist (service.commission socket request)).site := by
  have sound := proper.sound
  have new : (service.commission socket request).future = service.site.roster.made := rfl
  refine ⟨⟨?_, sound.guarded.enlisted known rfl, sound.ledger.enlisted sound.orderly new⟩, ?_, ?_⟩
  · rw [Lines.join_alone]
    exact sound.orderly.enlisted new
  · exact List.mem_append_right _ (List.mem_singleton.mpr rfl)
  · exact Option.isNone_iff_eq_none.mpr (sound.orderly.unmade _ (Nat.le_refl _))

/-- The engine is closed: everybody is over, and nothing is watched. -/
theorem shut (proper : service.Proper) (kernel : System σ) : (service.shut kernel).Proper where
  keyed := List.nodup_nil
  sound := by
    have loyal : ∀ operation ∈ service.engine.operations, ∃ spot,
        operation ∈ service.engine.lines spot ∧ (spot.fd ≠ closedFd →
          service.site.sockets.fd? spot.socket = none → Verdict.cancelled = .cancelled) := by
      intro operation member
      obtain ⟨fd, registration, found, inside⟩ := proper.keyed.registration_of_mem member
      obtain ⟨direction, listed⟩ := Engine.mem_lines found inside
      exact ⟨_, listed, fun _ _ => rfl⟩
    obtain ⟨sound, -, finished⟩ := Site.ensures_settleAll kernel service.engine.operations rfl loyal
      service.site ⟨proper.sound, rfl⟩
    have nobody {spot : Spot} {operation : Operation} (member : operation ∈ service.engine.lines spot) :
        operation ∈ service.engine.operations := by
      obtain ⟨registration, found, -, inside⟩ := Engine.registration_of_mem_lines member
      rw [← Engine.queues_of_some found] at inside
      exact Engine.mem_operations inside
    refine ⟨sound.orderly.relined fun spot => ?_, sound.guarded.unattended ?_, sound.ledger⟩
    · rw [Roster.waiting_eq_nil fun operation member => finished operation (nobody member)]
      rfl
    · intro commission member
      by_contra waits
      have waits := Bool.not_eq_false _ ▸ waits
      obtain ⟨operation, inside, same⟩ := sound.orderly.in_line member waits
      have gone := finished operation (nobody inside)
      rw [← Commission.future_eq_of_kind same.symm, waits] at gone
      cases gone

/-- A step keeps everything as it should be. -/
theorem step (proper : before.Proper) (step : Step kernel before after) : after.Proper := by
  obtain ⟨keyed, sound⟩ := proper
  cases step with
  | opened fd valid free => exact ⟨keyed, sound.orderly, sound.guarded.opened valid free, sound.ledger⟩
  | closed socket => exact ⟨keyed, sound.orderly, sound.guarded.closed socket, sound.ledger⟩
  | submitted socket known request =>
    exact ⟨keyed.submit _ _ _ _ _ trivial,
      Site.ensures_submit _ _ (Proper.fresh ⟨keyed, sound⟩ known request)⟩
  | connected socket known target =>
    let new := before.commission socket .connect
    have kept : Engine.Keeps (before.engine.connect (Site.system kernel) new.socket new.fd target
      new.future) := keyed.connect _ _ _ _
    exact ⟨kept (before.enlist new).site trivial,
      Site.ensures_connect new rfl target _ (Proper.fresh ⟨keyed, sound⟩ known .connect)⟩
  | polled timeout => exact ⟨keyed.poll timeout _ trivial, Site.ensures_poll timeout _ sound⟩
  | forgotten fd => exact ⟨keyed.unregister fd _ trivial, (Site.ensures_unregister fd _ sound).1⟩
  | cancelled future made =>
    exact ⟨keyed, sound.orderly.concluded made _, sound.guarded.concluded future _,
      sound.ledger.concluded_ill rfl fun _ _ _ _ _ => rfl⟩
  | shut => exact Proper.shut ⟨keyed, sound⟩ kernel
  | elapsed state => exact ⟨keyed, sound.called state⟩

end Proper

/-- In every service everything is as it should be. -/
theorem Reached.proper (reached : Reached kernel service) : service.Proper := by
  induction reached with
  | begun poller limit state => exact proper_new poller limit state
  | step _ step ih => exact ih.step step

/-! ## Main results -/

/-- Each call is made for one operation, and if the socket of the operation was open when the operation
was submitted, the call is made while the socket is open, on the descriptor that this socket has and no
other one. When another socket is registered at the descriptor, all operations that were submitted with it
on earlier sockets are over; whichever of them was pending when its socket was closed is cancelled. -/
theorem calls_stay_with_their_socket (reached : Reached kernel service) :
    (∀ call ∈ service.site.calls, ∃ commission ∈ service.site.roster.commissions,
      (∀ one ∈ service.site.roster.commissions,
        one.future = call.future ↔ one = commission) ∧
      (commission.fd ≠ closedFd → call.fd = commission.fd ∧
        ∀ socket, call.sockets.fd? socket = some call.fd ↔ socket = commission.socket)) ∧
    ∀ fd registration, service.engine.registration? fd = some registration →
      ∀ commission ∈ service.site.roster.commissions, commission.fd = fd →
        commission.socket ≠ registration.owner →
          ∃ ending, service.site.roster.endings commission.future = some ending ∧
            (commission.fd ≠ closedFd → ending.sockets.fd? commission.socket = none →
              ending.verdict = .cancelled) := by
  obtain ⟨-, sound⟩ := reached.proper
  constructor
  · intro call member
    obtain ⟨commission, known, makes⟩ := sound.ledger.attributed call member
    refine ⟨commission, known, fun one listed => ⟨fun same => ?_, ?_⟩, makes.place⟩
    · exact sound.orderly.eq_of_future listed known (same.trans makes.own.symm)
    · rintro rfl
      exact makes.own
  · intro fd registration found commission member here differ
    cases ended : service.site.roster.endings commission.future with
    | some ending => exact ⟨ending, rfl, sound.ledger.loyal commission member ending ended⟩
    | none =>
      have waits : service.site.roster.pending commission.future = true :=
        Option.isNone_iff_eq_none.mpr ended
      exact absurd (sound.waits_here found member waits here).1.symm differ

/-- A kernel that hands out data as it is told, and refuses to wait when it was told nothing more; every
poll reports that descriptor 4 can be read. -/
def fed : System (List Bytes) where
  receive _ _ _ := fun supply => match supply with
    | [] => (.error .wouldBlock, [])
    | data :: rest => (.ok data, rest)
  send _ _ _ := return .error .wouldBlock
  connect _ _ _ := return .error .inProgress
  accept _ _ := return .error (.os .wouldBlock)
  takeError _ _ := return .ok none
  control _ _ _ _ := return .ok ()
  wait _ _ _ := return .ok [(4, { input := true })]
  trace _ := return ()
  interruptions _ := 0
  isDone _ _ := false
  isOpen _ _ := true
  settle _ _ := return ()

/-- An operation waits on a socket. -/
def awaiting : Service (List Bytes) := ((new 3 8 []).openSocket 4).submit fed 0 (.receive 10)

/-- The state in which an operation waits for data is reached. -/
theorem reached_awaiting : Reached fed awaiting :=
  .step (.step (.begun 3 8 []) (.opened 4 (by decide) fun _ same => nomatch same))
    (.submitted 0 (by decide) (.receive 10))

/-- The socket is closed, another one has its descriptor, and an operation waits there too. -/
def reused : Service (List Bytes) :=
  ((awaiting.closeSocket 0).openSocket 4).submit fed 1 (.receive 10)

/-- The operation on the first socket is cancelled. -/
theorem calls_stay_with_their_socket_reused :
    ∃ ending, reused.site.roster.endings 0 = some ending ∧ ending.verdict = .cancelled := by
  have free (socket : SocketId) : (awaiting.closeSocket 0).site.sockets.fd? socket ≠ some 4 := by
    match socket with
    | 0 => exact fun same => nomatch same
    | socket + 1 => exact fun same => nomatch same
  have reached : Reached fed reused :=
    .step (.step (.step reached_awaiting (.closed 0)) (.opened 4 (by decide) free))
      (.submitted 1 (by decide) (.receive 10))
  obtain ⟨ending, found, cancelled⟩ := (calls_stay_with_their_socket reached).2 4
    ⟨1, [⟨.receive 10, 1⟩], []⟩ rfl ⟨0, 4, ⟨.receive 10, 0⟩⟩ List.mem_cons_self rfl (by decide)
  refine ⟨ending, found, cancelled (by decide) ?_⟩
  obtain rfl := Option.some.inj found
  rfl

/-- Each pending operation of an open socket is in the queue of its descriptor, and the descriptor is
watched for it; so is each operation in a queue of an open socket. When a descriptor cannot be watched, all
pending operations there fail, the descriptor is forgotten, and all other operations and registrations are
what they were. -/
theorem pending_is_watched (reached : Reached kernel service) :
    (∀ commission ∈ service.site.roster.commissions,
      service.site.roster.pending commission.future = true →
      service.site.sockets.fd? commission.socket ≠ none →
        (∃ registration, service.engine.registration? commission.fd = some registration ∧
          registration.owner = commission.socket ∧
          ∃ operation ∈ registration.queue commission.direction,
            operation.future = commission.future) ∧
        service.site.watches.Armed commission.fd commission.direction) ∧
    (∀ fd registration direction, service.engine.registration? fd = some registration →
      service.site.sockets.fd? registration.owner ≠ none →
      ∀ operation ∈ registration.queue direction,
        service.site.roster.pending operation.future = true →
          service.site.watches.Armed fd direction) ∧
    ∀ (engine : Engine) (site : Site σ) (fd : Fd) (registration : Registration) (error : Errno),
      engine.registration? fd = some registration →
      site.sockets.fd? registration.owner ≠ none →
      (site.live registration).interest.isEmpty = false →
      (engine.watch (Site.system kernel) fd
        { (site.live registration).interest with once := true } site).1 = .error error →
        let armed := engine.arm (Site.system kernel) fd site
        (∀ one, armed.1.registration? one = if one = fd then none else engine.registration? one) ∧
          ∀ future, armed.2.roster.endings future =
            if site.roster.pending future = true ∧
                future ∈ registration.operations.map Operation.future then
              some ⟨.over (.error (Engine.watchFailure error)), site.sockets⟩
            else site.roster.endings future := by
  obtain ⟨-, sound⟩ := reached.proper
  refine ⟨fun commission member waits opened => ⟨?_, ?_⟩, ?_, ?_⟩
  · obtain ⟨operation, inside, same⟩ := sound.orderly.in_line member waits
    obtain ⟨registration, found, own, queued⟩ := Engine.registration_of_mem_lines inside
    exact ⟨registration, found, own, operation, queued,
      (Commission.future_eq_of_kind same.symm).symm⟩
  · exact sound.guarded.armed commission member waits id opened
  · intro fd registration direction found opened operation member waits
    rw [← Engine.lines_of_some found] at member
    obtain ⟨commission, known, there, same⟩ := sound.orderly.commissioned member waits
    obtain ⟨own, place, way⟩ := Spot.mk.inj there
    rw [← Commission.future_eq_of_kind same] at waits
    rw [← place, ← way]
    exact sound.guarded.armed commission known waits id (own.symm ▸ opened)
  · exact fun engine site fd registration error => Site.arm_fails

/-- The descriptor is watched for the operation that waits. -/
theorem pending_is_watched_awaiting : awaiting.site.watches.Armed 4 .reading :=
  ((pending_is_watched reached_awaiting).1 ⟨0, 4, ⟨.receive 10, 0⟩⟩ List.mem_cons_self rfl
    fun closed => nomatch closed).2

/-- What the kernel hands out to the operations that read on a socket is what those of them that ended
well have brought, in the order in which they were submitted; each of them is one operation, and nothing is
handed out for any other. Nothing is asked for an operation that is over, and an operation that is
cancelled was handed nothing. Each one brings what was asked for: one that receives, no more bytes than it
may. -/
theorem answers_in_order (reached : Reached kernel service) :
    (∀ socket, (service.site.roster.readings socket).Nodup ∧
      (Call.answers service.site.calls).filter (·.1 ∈ service.site.roster.readings socket) =
        service.site.roster.brought (service.site.roster.readings socket)) ∧
    (∀ answer ∈ Call.answers service.site.calls,
      ∃ socket, answer.1 ∈ service.site.roster.readings socket) ∧
    (∀ call ∈ service.site.calls, call.endings call.future = none) ∧
    (∀ answer ∈ Call.answers service.site.calls, ∀ ending,
      service.site.roster.endings answer.1 = some ending → ending.verdict ≠ .cancelled) ∧
    ∀ commission ∈ service.site.roster.commissions, ∀ completion,
      service.site.roster.completion? commission.future = some completion →
        commission.request.Admits completion := by
  obtain ⟨-, sound⟩ := reached.proper
  have answered (socket : SocketId) : (Call.answers service.site.calls).filter
      (·.1 ∈ service.site.roster.readings socket) =
        service.site.roster.brought (service.site.roster.readings socket) := by
    simpa using sound.ledger.answered socket
  have reads (answer : FutureId × Completion) (member : answer ∈ Call.answers service.site.calls) :
      ∃ socket, answer.1 ∈ service.site.roster.readings socket := by
    obtain ⟨call, listed, found⟩ := List.mem_filterMap.mp member
    obtain ⟨completion, handed, rfl⟩ := Option.map_eq_some_iff.mp found
    obtain ⟨commission, known, makes⟩ := sound.ledger.attributed call listed
    refine ⟨commission.socket, Roster.mem_readings.mpr ⟨commission, known, rfl, ?_, makes.own⟩⟩
    exact makes.reads (by simp [handed])
  refine ⟨fun socket => ⟨Roster.nodup_readings sound.orderly.distinct socket, answered socket⟩, reads,
    sound.ledger.punctual, ?_, sound.ledger.fitting⟩
  intro answer member ending ended cancelled
  obtain ⟨socket, reading⟩ := reads answer member
  have brought : answer ∈ service.site.roster.brought (service.site.roster.readings socket) := by
    rw [← answered socket]
    exact List.mem_filter.mpr ⟨member, by simpa using reading⟩
  obtain ⟨future, -, found⟩ := List.mem_filterMap.mp brought
  obtain ⟨completion, well, rfl⟩ := Option.map_eq_some_iff.mp found
  simp [Roster.completion?, ended, cancelled, Verdict.completion?] at well

/-- Two operations wait on a socket, and then there is data for both. -/
def served : Service (List Bytes) :=
  ((awaiting.submit fed 0 (.receive 2)).elapse [[1, 2, 3], [4, 5]]).poll fed none

/-- Each of them has what was handed out for it. -/
theorem answers_in_order_served : (Call.answers served.site.calls).filter
    (·.1 ∈ served.site.roster.readings 0) =
      [(0, .received [1, 2, 3]), (1, .received [4, 5])] := by
  have reached : Reached fed served :=
    .step (.step (.step reached_awaiting (.submitted 0 (by decide) (.receive 2)))
      (.elapsed [[1, 2, 3], [4, 5]])) (.polled none)
  exact ((answers_in_order reached).1 0).2

end Service

end EventLoop.Proactor

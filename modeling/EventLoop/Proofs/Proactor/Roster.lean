import EventLoop.Proofs.Proactor.Service

/-!
# Who waits

The operations of a socket that are pending are those that wait in its queues, in the order in which they
were submitted. `Orderly` says so of all queues of the engine. Whoever is over may leave a queue or stay
there, so the statement holds after each thing that the engine does to a queue.
-/
namespace EventLoop.Proactor

variable {roster : Roster} {future other : FutureId} {ending : Ending} {operation : Operation}
variable {commission : Commission} {queue : List Operation}

/-! ## The operations that are pending -/

/-- What a request asks for, apart from how much of it is done. -/
def Request.kind : Request → Request
  | send _ => send []
  | request => request

/-- An operation, apart from how much of it is done. -/
def Operation.kind (operation : Operation) : Operation :=
  { operation with request := operation.request.kind }

/-- A request waits in the same queue however much of it is done. -/
@[simp] theorem Request.direction_kind (request : Request) :
    request.kind.direction = request.direction := by
  cases request <;> rfl

/-- Where an operation waits. -/
structure Spot where
  /-- The socket. -/
  socket : SocketId
  /-- The descriptor. -/
  fd : Fd
  /-- The direction. -/
  direction : Direction
  deriving DecidableEq

/-- Where an operation waits that was submitted. -/
def Commission.spot (commission : Commission) : Spot :=
  ⟨commission.socket, commission.fd, commission.direction⟩

namespace Commission

/-- A commission waits at its socket. -/
@[simp] theorem socket_spot : commission.spot.socket = commission.socket := rfl

/-- A commission waits at its descriptor. -/
@[simp] theorem fd_spot : commission.spot.fd = commission.fd := rfl

/-- Two operations of one kind have one future. -/
theorem future_eq_of_kind (same : commission.operation.kind = operation.kind) :
    commission.future = operation.future := (Operation.mk.inj same).2

end Commission

namespace Roster

/-- The operations that were submitted for a spot. -/
def submitted (roster : Roster) (spot : Spot) : List Operation :=
  (roster.commissions.filter (·.spot = spot)).map Commission.operation

/-- Those of a queue that are pending. -/
def waiting (roster : Roster) (queue : List Operation) : List Operation :=
  (queue.filter (roster.pending ·.future)).map Operation.kind

/-- What was submitted stays submitted when an operation ends. -/
@[simp] theorem commissions_conclude :
    (roster.conclude future ending).commissions = roster.commissions := by
  unfold conclude
  split <;> rfl

/-- The number of operations does not change when one ends. -/
@[simp] theorem made_conclude : (roster.conclude future ending).made = roster.made := by
  unfold conclude
  split <;> rfl

/-- What was submitted for a spot stays so when an operation ends. -/
@[simp] theorem submitted_conclude (spot : Spot) :
    (roster.conclude future ending).submitted spot = roster.submitted spot := by
  simp [submitted]

/-- What reads on a socket stays so when an operation ends. -/
@[simp] theorem readings_conclude (socket : SocketId) :
    (roster.conclude future ending).readings socket = roster.readings socket := by
  simp [readings]

/-- An operation that is over stays what it is. -/
theorem conclude_of_over (finished : roster.pending future = false) :
    roster.conclude future ending = roster := by
  simp [conclude, finished]

/-- How an operation has ended after one of them was to end. -/
theorem endings_conclude : (roster.conclude future ending).endings other =
    if roster.pending future = true ∧ other = future then some ending else roster.endings other := by
  unfold conclude
  split
  · rename_i waits
    by_cases same : other = future <;> simp [waits, same]
  · rename_i finished
    simp [finished]

/-- The operation that ends is the only one that is not pending any more. -/
@[simp] theorem pending_conclude : (roster.conclude future ending).pending other =
    (roster.pending other && other != future) := by
  unfold pending
  rw [endings_conclude]
  by_cases same : other = future
  · subst same
    cases found : roster.endings other <;> simp [pending, found]
  · simp [same]

/-- Whoever is pending then was pending before. -/
theorem pending_of_conclude (waits : (roster.conclude future ending).pending other = true) :
    roster.pending other = true := by
  rw [pending_conclude, Bool.and_eq_true] at waits
  exact waits.1

/-- The operation that ends is the only one that does not wait any more. -/
theorem waiting_conclude (queue : List Operation) : (roster.conclude future ending).waiting queue =
    (roster.waiting queue).filter (·.future != future) := by
  unfold waiting
  rw [List.filter_map, List.filter_filter]
  refine congrArg _ (List.filter_congr fun operation _ => ?_)
  rw [pending_conclude, Bool.and_comm]
  rfl

/-- What waits in a queue is put together from its parts. -/
theorem waiting_append (first second : List Operation) :
    roster.waiting (first ++ second) = roster.waiting first ++ roster.waiting second := by
  simp [waiting]

/-- An operation that is pending waits before those behind it. -/
theorem waiting_cons_of_pending (waits : roster.pending operation.future = true)
    (rest : List Operation) :
    roster.waiting (operation :: rest) = operation.kind :: roster.waiting rest := by
  simp [waiting, waits]

/-- An operation that is over does not wait. -/
theorem waiting_cons_of_over (finished : roster.pending operation.future = false)
    (rest : List Operation) :
    roster.waiting (operation :: rest) = roster.waiting rest := by
  simp [waiting, finished]

/-- Those who are over may leave a queue. -/
theorem waiting_filter (queue : List Operation) :
    roster.waiting (queue.filter (roster.pending ·.future)) = roster.waiting queue := by
  unfold waiting
  rw [List.filter_filter]
  simp

/-- Nothing waits in a queue whose operations are all over. -/
theorem waiting_eq_nil (finished : ∀ operation ∈ queue, roster.pending operation.future = false) :
    roster.waiting queue = [] := by
  unfold waiting
  rw [List.map_eq_nil_iff, List.filter_eq_nil_iff]
  intro operation member
  simp [finished operation member]

/-- Whoever waits is one of the pending operations of the queue. -/
theorem mem_waiting : operation ∈ roster.waiting queue ↔
    ∃ waits ∈ queue, roster.pending waits.future = true ∧ waits.kind = operation := by
  simp [waiting, and_assoc]

/-- An operation was submitted for its spot. -/
theorem mem_submitted {spot : Spot} : operation ∈ roster.submitted spot ↔
    ∃ commission ∈ roster.commissions, commission.spot = spot ∧ commission.operation = operation := by
  simp [submitted, and_assoc]

end Roster

/-! ## The queues of the sockets -/

/-- The operations in each queue. -/
abbrev Lines := Spot → List Operation

/-- The operations that a socket has in the queues of a descriptor. -/
def Engine.lines (engine : Engine) : Lines := fun spot =>
  match engine.registration? spot.fd with
  | some registration =>
    if registration.owner = spot.socket then registration.queue spot.direction else []
  | none => []

namespace Engine

variable {engine : Engine} {fd : Fd} {registration : Registration} {spot : Spot}

/-- Nothing stands in line at a descriptor without a registration. -/
theorem lines_of_none (missing : engine.registration? spot.fd = none) : engine.lines spot = [] := by
  simp [lines, missing]

/-- What stands in line for the owner of a registration is its queue. -/
theorem lines_of_some (found : engine.registration? fd = some registration) (direction : Direction) :
    engine.lines ⟨registration.owner, fd, direction⟩ = registration.queue direction := by
  simp [lines, found]

/-- Nobody else has operations at a descriptor. -/
theorem lines_of_ne (found : engine.registration? spot.fd = some registration)
    (differ : registration.owner ≠ spot.socket) : engine.lines spot = [] := by
  simp [lines, found, differ]

/-- The operations of a registration are in the lines of its owner. -/
theorem mem_lines (found : engine.registration? fd = some registration)
    (member : operation ∈ registration.operations) :
    ∃ direction, operation ∈ engine.lines ⟨registration.owner, fd, direction⟩ := by
  rcases List.mem_append.mp member with reader | writer
  · exact ⟨.reading, by rwa [lines_of_some found]⟩
  · exact ⟨.writing, by rwa [lines_of_some found]⟩

/-- Whoever is in a line is in the registration of the owner. -/
theorem registration_of_mem_lines (member : operation ∈ engine.lines spot) :
    ∃ registration, engine.registration? spot.fd = some registration ∧
      registration.owner = spot.socket ∧ operation ∈ registration.queue spot.direction := by
  unfold lines at member
  split at member
  · rename_i registration found
    split at member
    · rename_i own
      exact ⟨registration, found, own, member⟩
    · cases member
  · cases member

/-- The lines after the operations of a descriptor were replaced. -/
theorem lines_setRegistration (found : engine.registration? fd = some registration)
    {stored : Registration} (own : stored.owner = registration.owner) :
    (engine.setRegistration fd stored).lines =
      Function.update (Function.update engine.lines ⟨registration.owner, fd, .reading⟩ stored.readers)
        ⟨registration.owner, fd, .writing⟩ stored.writers := by
  funext ⟨socket, place, direction⟩
  simp only [lines, registration?_setRegistration, Function.update_apply, Spot.mk.injEq]
  by_cases here : place = fd
  · subst here
    by_cases owned : socket = registration.owner
    · cases direction <;> simp [own, owned, Registration.queue]
    · have differ : registration.owner ≠ socket := fun same => owned same.symm
      simp [own, owned, differ, found]
  · simp [here]

/-- The lines after one queue of a descriptor was replaced. -/
theorem lines_setQueue (found : engine.registration? fd = some registration) (direction : Direction)
    (queue : List Operation) :
    (engine.setRegistration fd (registration.setQueue direction queue)).lines =
      Function.update engine.lines ⟨registration.owner, fd, direction⟩ queue := by
  have readers := lines_of_some found .reading
  have writers := lines_of_some found .writing
  have own : (registration.setQueue direction queue).owner = registration.owner := by
    cases direction <;> rfl
  rw [lines_setRegistration found own]
  cases direction with
  | reading =>
    have other : (registration.setQueue .reading queue).writers =
        engine.lines ⟨registration.owner, fd, .writing⟩ := writers.symm
    rw [other, Function.update_comm (by simp), Function.update_eq_self]
    rfl
  | writing =>
    have other : (registration.setQueue .writing queue).readers =
        engine.lines ⟨registration.owner, fd, .reading⟩ := readers.symm
    rw [other, Function.update_eq_self]
    rfl

/-- The lines after a descriptor was forgotten. -/
theorem lines_eraseRegistration : (engine.eraseRegistration fd).lines spot =
    if spot.fd = fd then [] else engine.lines spot := by
  unfold lines
  rw [registration?_eraseRegistration]
  by_cases here : spot.fd = fd <;> simp [here]

/-- A socket that registers at a descriptor has nobody in line. -/
theorem lines_registered (missing : engine.registration? fd = none) (owner : SocketId) :
    (engine.setRegistration fd { owner }).lines = engine.lines := by
  funext spot
  unfold lines
  rw [registration?_setRegistration]
  by_cases here : spot.fd = fd
  · rw [if_pos here, here, missing]
    cases spot.direction <;> simp [Registration.queue]
  · rw [if_neg here]

end Engine

/-! ## Order -/

/-- The pending operations of each spot are those that wait there, in the order of their submission. -/
structure Orderly (lines : Lines) (roster : Roster) : Prop where
  /-- The operations have futures that were made. -/
  made : ∀ commission ∈ roster.commissions, commission.future < roster.made
  /-- No two operations have one future. -/
  distinct : (roster.commissions.map Commission.future).Nodup
  /-- No operation is over whose future was not made. -/
  unmade : ∀ future, roster.made ≤ future → roster.endings future = none
  /-- The pending operations are those that wait. -/
  waiting : ∀ spot, roster.waiting (roster.submitted spot) = roster.waiting (lines spot)

namespace Orderly

variable {lines : Lines} {spot : Spot}

/-- An operation is known by its future. -/
theorem eq_of_future (orderly : Orderly lines roster) {first second : Commission}
    (left : first ∈ roster.commissions) (right : second ∈ roster.commissions)
    (same : first.future = second.future) : first = second :=
  List.inj_on_of_nodup_map orderly.distinct left right same

/-- Those who wait in each line stay the same. -/
theorem relined (orderly : Orderly lines roster) {after : Lines}
    (same : ∀ spot, roster.waiting (after spot) = roster.waiting (lines spot)) : Orderly after roster :=
  { orderly with waiting := fun spot => (orderly.waiting spot).trans (same spot).symm }

/-- Those who wait in one line stay the same. -/
theorem updated (orderly : Orderly lines roster)
    (same : roster.waiting queue = roster.waiting (lines spot)) :
    Orderly (Function.update lines spot queue) roster := by
  refine orderly.relined fun one => ?_
  by_cases here : one = spot
  · rw [here, Function.update_self, same]
  · rw [Function.update_of_ne here]

/-- An operation ends. -/
theorem concluded (orderly : Orderly lines roster) (made : future < roster.made) (ending : Ending) :
    Orderly lines (roster.conclude future ending) where
  made := by
    rw [Roster.commissions_conclude, Roster.made_conclude]
    exact orderly.made
  distinct := by
    rw [Roster.commissions_conclude]
    exact orderly.distinct
  unmade one beyond := by
    rw [Roster.made_conclude] at beyond
    have differ : one ≠ future := Nat.ne_of_gt (Nat.lt_of_lt_of_le made beyond)
    rw [Roster.endings_conclude, if_neg (fun both => differ both.2)]
    exact orderly.unmade one beyond
  waiting spot := by
    rw [Roster.submitted_conclude, Roster.waiting_conclude, Roster.waiting_conclude, orderly.waiting]

/-- An operation is submitted and comes last in its line. -/
theorem enlisted (orderly : Orderly lines roster) (new : commission.future = roster.made) :
    Orderly (Function.update lines commission.spot (lines commission.spot ++ [commission.operation]))
      (roster.enlist commission) where
  made one member := by
    rcases List.mem_append.mp member with old | last
    · exact Nat.lt_succ_of_lt (orderly.made one old)
    · rw [List.mem_singleton.mp last, new]
      exact Nat.lt_succ_self _
  distinct := by
    change ((roster.commissions ++ [commission]).map Commission.future).Nodup
    rw [List.map_append, List.nodup_append]
    refine ⟨orderly.distinct, List.nodup_singleton _, ?_⟩
    intro one old last member same
    obtain ⟨earlier, listed, rfl⟩ := List.mem_map.mp old
    rw [List.mem_singleton.mp member, new] at same
    exact Nat.ne_of_lt (orderly.made earlier listed) same
  unmade one beyond := orderly.unmade one (Nat.le_of_succ_le beyond)
  waiting spot := by
    have same : (roster.enlist commission).submitted spot = roster.submitted spot ++
        if commission.spot = spot then [commission.operation] else [] := by
      by_cases here : commission.spot = spot <;>
        simp [Roster.submitted, Roster.enlist, List.filter_append, here]
    change roster.waiting _ = roster.waiting _
    rw [same, Roster.waiting_append, orderly.waiting]
    by_cases here : commission.spot = spot
    · rw [if_pos here, here, Function.update_self, Roster.waiting_append]
    · rw [if_neg here, Function.update_of_ne (Ne.symm here)]
      simp [Roster.waiting]

/-- Whoever is pending in a line was submitted for its spot. -/
theorem commissioned (orderly : Orderly lines roster) (member : operation ∈ lines spot)
    (waits : roster.pending operation.future = true) :
    ∃ commission ∈ roster.commissions, commission.spot = spot ∧
      commission.operation.kind = operation.kind := by
  have listed : operation.kind ∈ roster.waiting (lines spot) :=
    Roster.mem_waiting.mpr ⟨operation, member, waits, rfl⟩
  rw [← orderly.waiting] at listed
  obtain ⟨submitted, inside, -, same⟩ := Roster.mem_waiting.mp listed
  obtain ⟨commission, known, there, rfl⟩ := Roster.mem_submitted.mp inside
  exact ⟨commission, known, there, same⟩

/-- Whoever was submitted and is pending is in line. -/
theorem in_line (orderly : Orderly lines roster) (member : commission ∈ roster.commissions)
    (waits : roster.pending commission.future = true) :
    ∃ operation ∈ lines commission.spot, operation.kind = commission.operation.kind := by
  have listed : commission.operation.kind ∈ roster.waiting (roster.submitted commission.spot) :=
    Roster.mem_waiting.mpr
      ⟨_, Roster.mem_submitted.mpr ⟨commission, member, rfl, rfl⟩, waits, rfl⟩
  rw [orderly.waiting] at listed
  obtain ⟨operation, inside, -, same⟩ := Roster.mem_waiting.mp listed
  exact ⟨operation, inside, same⟩

/-- Before the first one in a line, everybody who was submitted for the spot is over. -/
theorem first (orderly : Orderly lines roster) (line : lines spot = operation :: queue)
    (waits : roster.pending operation.future = true) :
    (roster.submitted spot).Pairwise fun earlier later =>
      later.future = operation.future → roster.pending earlier.future = false := by
  have distinct : ((roster.submitted spot).map Operation.future).Nodup := by
    unfold Roster.submitted
    rw [List.map_map]
    exact (List.filter_sublist.map Commission.future).nodup orderly.distinct
  have heads : roster.waiting (roster.submitted spot) = operation.kind :: roster.waiting queue := by
    rw [orderly.waiting, line, Roster.waiting_cons_of_pending waits]
  -- Whoever is pending is behind the first one, and the first one occurs once.
  generalize roster.submitted spot = submitted at distinct heads
  induction submitted with
  | nil => exact .nil
  | cons one rest ih =>
    rw [List.map_cons, List.nodup_cons] at distinct
    by_cases ready : roster.pending one.future = true
    · rw [Roster.waiting_cons_of_pending ready] at heads
      have same : one.kind = operation.kind := (List.cons.inj heads).1
      have known : one.future = operation.future := (Operation.mk.inj same).2
      refine List.pairwise_cons.mpr ⟨fun later member late => ?_, ?_⟩
      · exact absurd (List.mem_map.mpr ⟨later, member, late.trans known.symm⟩) distinct.1
      · refine List.pairwise_of_forall_mem_list fun _ _ later member late => ?_
        exact absurd (List.mem_map.mpr ⟨later, member, late.trans known.symm⟩) distinct.1
    · have finished : roster.pending one.future = false := Bool.not_eq_true _ ▸ ready
      refine List.pairwise_cons.mpr ⟨fun _ _ _ => finished, ih distinct.2 ?_⟩
      rwa [Roster.waiting_cons_of_over finished] at heads

end Orderly

end EventLoop.Proactor

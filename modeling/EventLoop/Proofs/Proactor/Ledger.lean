import EventLoop.Proofs.Proactor.Guard

/-!
# What the calls brought

Each call is made for an operation that is pending, on the descriptor of its socket while the socket is
open. What the kernel hands out goes to the operations of a socket in the order in which they were
submitted, and each operation that ended well has what was handed out for it. An operation whose socket
was closed before it was over ends in no way but cancelled.
-/
namespace EventLoop.Proactor

open Kernel (closedFd)

variable {roster : Roster} {future : FutureId} {ending : Ending} {commission : Commission}
variable {call : Call} {calls : List Call} {sockets : Sockets} {completion : Completion}
variable {verdict : Verdict} {due : List (FutureId × Completion)}

/-- What a request may bring. -/
def Request.Admits : Request → Completion → Prop
  | receive limit, .received data => data.length ≤ limit
  | send _, .sent | connect, .connected | accept, .accepted _ _ => True
  | _, _ => False

/-- What a request may bring does not depend on how much of it is done. -/
theorem Request.admits_kind {request : Request} :
    request.kind.Admits completion ↔ request.Admits completion := by
  cases request <;> cases completion <;> exact Iff.rfl

/-- A call is made for an operation; if the socket of the operation had a descriptor when the operation
was submitted, the call is made on it while the socket has it, and nobody else. -/
structure Commission.Makes (commission : Commission) (call : Call) : Prop where
  /-- The call is made for the operation. -/
  own : commission.future = call.future
  /-- Only operations that read are handed anything. -/
  reads : call.handed ≠ none → commission.direction = .reading
  /-- The descriptor is that of the socket. -/
  place : commission.fd ≠ closedFd → call.fd = commission.fd ∧
    ∀ socket, call.sockets.fd? socket = some call.fd ↔ socket = commission.socket

/-! ## Completions -/

namespace Roster

/-- An operation that is pending has brought nothing. -/
theorem completion?_of_pending (waits : roster.pending future = true) :
    roster.completion? future = none := by
  have none : roster.endings future = none := Option.isNone_iff_eq_none.mp waits
  simp [completion?, none]

/-- What an operation has brought is known once it has ended, and for the others as before. -/
theorem completion?_conclude (other : FutureId) : (roster.conclude future ending).completion? other =
    if roster.pending future = true ∧ other = future then ending.verdict.completion?
    else roster.completion? other := by
  unfold completion?
  rw [endings_conclude]
  split <;> rfl

/-- What operations have brought is put together from its parts. -/
theorem brought_append (first second : List FutureId) :
    roster.brought (first ++ second) = roster.brought first ++ roster.brought second := by
  simp [brought]

/-- What operations have brought begins with what the first one has. -/
theorem brought_cons (first : FutureId) (rest : List FutureId) :
    roster.brought (first :: rest) =
      ((roster.completion? first).map (first, ·)).toList ++ roster.brought rest := by
  cases found : roster.completion? first <;> simp [brought, found]

/-- An operation that ends elsewhere brings nothing. -/
theorem brought_conclude_of_not_mem {futures : List FutureId} (absent : future ∉ futures) :
    (roster.conclude future ending).brought futures = roster.brought futures := by
  refine List.filterMap_congr fun other member => ?_
  have differ : other ≠ future := fun same => absent (same ▸ member)
  rw [completion?_conclude, if_neg fun both => differ both.2]

/-- An operation that does not end well brings nothing. -/
theorem brought_conclude_ill (ill : ending.verdict.completion? = none) (futures : List FutureId) :
    (roster.conclude future ending).brought futures = roster.brought futures := by
  refine List.filterMap_congr fun other _ => ?_
  rw [completion?_conclude]
  split
  · rename_i both
    rw [ill, both.2, completion?_of_pending both.1]
  · rfl

/-- The earlier operations of a sequence are over when a later one has ended well. -/
def InTurn (roster : Roster) (futures : List FutureId) : Prop :=
  futures.Pairwise fun earlier later =>
    (roster.completion? later).isSome = true → roster.pending earlier = false

/-- All operations of a sequence are over that come before a certain one. -/
def IsFirst (roster : Roster) (futures : List FutureId) (future : FutureId) : Prop :=
  futures.Pairwise fun earlier later => later = future → roster.pending earlier = false

/-- An operation that is none of a sequence has nobody before it. -/
theorem isFirst_of_not_mem {futures : List FutureId} (absent : future ∉ futures) :
    roster.IsFirst futures future :=
  List.pairwise_of_forall_mem_list fun _ _ _ member same => absurd (same ▸ member) absent

/-- The first operation that is not over ends well; what it brings comes last. -/
theorem brought_conclude_first {futures : List FutureId} (waits : roster.pending future = true)
    (well : ending.verdict.completion? = some completion) (member : future ∈ futures)
    (distinct : futures.Nodup) (inTurn : roster.InTurn futures)
    (first : roster.IsFirst futures future) : (roster.conclude future ending).brought futures =
      roster.brought futures ++ [(future, completion)] := by
  induction futures with
  | nil => cases member
  | cons one rest ih =>
    obtain ⟨absent, distinct⟩ := List.nodup_cons.mp distinct
    obtain ⟨ahead, inTurn⟩ := List.pairwise_cons.mp inTurn
    obtain ⟨before, first⟩ := List.pairwise_cons.mp first
    rw [brought_cons, brought_cons, completion?_conclude]
    by_cases here : one = future
    · subst here
      -- Nobody behind the one that waits has ended well.
      have nothing : roster.brought rest = [] := by
        refine List.filterMap_eq_nil_iff.mpr fun later behind => ?_
        cases found : roster.completion? later with
        | none => rfl
        | some other =>
          have finished := ahead later behind (by simp [found])
          rw [waits] at finished
          cases finished
      rw [if_pos ⟨waits, rfl⟩, brought_conclude_of_not_mem absent, nothing,
        completion?_of_pending waits, well]
      rfl
    · have inside : future ∈ rest := (List.mem_cons.mp member).resolve_left (Ne.symm here)
      rw [if_neg fun both => here both.2, ih inside distinct inTurn first, List.append_assoc]

/-- What has ended well stays in turn when one more operation ends, if it does not end well or is the
first one that is not over. -/
theorem InTurn.concluded {futures : List FutureId} (inTurn : roster.InTurn futures)
    (turn : ending.verdict.completion? = none ∨ roster.IsFirst futures future) :
    (roster.conclude future ending).InTurn futures := by
  have finished {other : FutureId} (gone : roster.pending other = false) :
      (roster.conclude future ending).pending other = false := by
    rw [pending_conclude, gone, Bool.false_and]
  rcases turn with ill | first
  · refine inTurn.imp fun {earlier later} old well => ?_
    rw [completion?_conclude] at well
    split at well
    · rw [ill] at well
      cases well
    · exact finished (old well)
  · refine (inTurn.and first).imp fun {earlier later} old well => ?_
    rw [completion?_conclude] at well
    split at well
    · rename_i both
      exact finished (old.2 both.2)
    · exact finished (old.1 well)

/-- An operation reads on a socket if it was submitted for it and receives or accepts. -/
theorem mem_readings {socket : SocketId} : future ∈ roster.readings socket ↔
    ∃ commission ∈ roster.commissions, commission.socket = socket ∧
      commission.direction = .reading ∧ commission.future = future := by
  simp [readings, and_assoc]

/-- What reads on a socket after an operation was submitted. -/
theorem readings_enlist (socket : SocketId) : (roster.enlist commission).readings socket =
    roster.readings socket ++
      if commission.socket = socket ∧ commission.direction = .reading then [commission.future]
      else [] := by
  by_cases here : commission.socket = socket ∧ commission.direction = .reading
  · simp [readings, enlist, List.filter_append, here]
  · rw [if_neg here]
    have apart : (decide (commission.socket = socket) && decide (commission.direction = .reading)) =
        false := by
      simpa using here
    simp [readings, enlist, List.filter_append, apart]

/-- No operation reads twice. -/
theorem nodup_readings (distinct : (roster.commissions.map Commission.future).Nodup)
    (socket : SocketId) : (roster.readings socket).Nodup :=
  (List.filter_sublist.map Commission.future).nodup distinct

end Roster

/-- What calls have brought is put together from its parts. -/
theorem Call.answers_append (first second : List Call) :
    answers (first ++ second) = answers first ++ answers second := by
  simp [answers]

/-! ## The ledger -/

/-- The calls that were made for the operations, and what they brought; some of it may be due to an
operation that is not yet over. -/
structure Ledger (due : List (FutureId × Completion)) (calls : List Call) (roster : Roster) : Prop where
  /-- No call is made for an operation that is over. -/
  punctual : ∀ call ∈ calls, call.endings call.future = none
  /-- Each call is made for an operation. -/
  attributed : ∀ call ∈ calls, ∃ commission ∈ roster.commissions, commission.Makes call
  /-- The operations that ended well have what was handed out. -/
  answered : ∀ socket,
    (Call.answers calls).filter (·.1 ∈ roster.readings socket) =
      roster.brought (roster.readings socket) ++ due.filter (·.1 ∈ roster.readings socket)
  /-- The operations that read on a socket end well in turn. -/
  inTurn : ∀ socket, roster.InTurn (roster.readings socket)
  /-- Whoever was pending when its socket was closed is cancelled. -/
  loyal : ∀ commission ∈ roster.commissions, ∀ ending,
    roster.endings commission.future = some ending → commission.fd ≠ closedFd →
      ending.sockets.fd? commission.socket = none → ending.verdict = .cancelled
  /-- Each operation brings what was asked for. -/
  fitting : ∀ commission ∈ roster.commissions, ∀ completion,
    roster.completion? commission.future = some completion → commission.request.Admits completion

namespace Ledger

/-- A call is made. -/
theorem asked (ledger : Ledger [] calls roster) (punctual : call.endings call.future = none)
    (member : commission ∈ roster.commissions) (makes : commission.Makes call) :
    Ledger (Call.answers [call]) (calls ++ [call]) roster :=
  { ledger with
    punctual := fun one listed => by
      rcases List.mem_append.mp listed with old | new
      · exact ledger.punctual one old
      · rw [List.mem_singleton.mp new]
        exact punctual
    attributed := fun one listed => by
      rcases List.mem_append.mp listed with old | new
      · exact ledger.attributed one old
      · rw [List.mem_singleton.mp new]
        exact ⟨commission, member, makes⟩
    answered := fun socket => by
      have before := ledger.answered socket
      rw [List.filter_nil, List.append_nil] at before
      rw [Call.answers_append, List.filter_append, before] }

/-- What holds of the endings of all operations holds after one of them has ended. -/
theorem fair_concluded (ledger : Ledger due calls roster) (future : FutureId) (verdict : Verdict)
    (sockets : Sockets)
    (loyal : ∀ commission ∈ roster.commissions, commission.future = future →
      commission.fd ≠ closedFd → sockets.fd? commission.socket = none → verdict = .cancelled)
    (fitting : ∀ commission ∈ roster.commissions, commission.future = future →
      ∀ completion, verdict.completion? = some completion → commission.request.Admits completion) :
    (∀ commission ∈ roster.commissions, ∀ ending,
      (roster.conclude future ⟨verdict, sockets⟩).endings commission.future = some ending →
        commission.fd ≠ closedFd → ending.sockets.fd? commission.socket = none →
          ending.verdict = .cancelled) ∧
    ∀ commission ∈ roster.commissions, ∀ completion,
      (roster.conclude future ⟨verdict, sockets⟩).completion? commission.future = some completion →
        commission.request.Admits completion := by
  constructor
  · intro commission member ending ended
    rw [Roster.endings_conclude] at ended
    split at ended
    · rename_i both
      obtain rfl := Option.some.inj ended
      exact loyal commission member both.2
    · exact ledger.loyal commission member ending ended
  · intro commission member completion ended
    rw [Roster.completion?_conclude] at ended
    split at ended
    · rename_i both
      exact fitting commission member both.2 completion ended
    · exact ledger.fitting commission member completion ended

/-- An operation ends, but not well. -/
theorem concluded_ill (ledger : Ledger [] calls roster) (ill : verdict.completion? = none)
    (loyal : ∀ commission ∈ roster.commissions, commission.future = future →
      commission.fd ≠ closedFd → sockets.fd? commission.socket = none → verdict = .cancelled) :
    Ledger [] calls (roster.conclude future ⟨verdict, sockets⟩) := by
  obtain ⟨loyal, fitting⟩ := ledger.fair_concluded future verdict sockets loyal
    fun _ _ _ completion well => absurd (ill.symm.trans well) (by simp)
  refine ⟨ledger.punctual, ?_, ?_, ?_, ?_, ?_⟩
  · rw [Roster.commissions_conclude]
    exact ledger.attributed
  · intro socket
    rw [Roster.readings_conclude, Roster.brought_conclude_ill ill]
    exact ledger.answered socket
  · intro socket
    rw [Roster.readings_conclude]
    exact (ledger.inTurn socket).concluded (Or.inl ill)
  · rw [Roster.commissions_conclude]
    exact loyal
  · rw [Roster.commissions_conclude]
    exact fitting

/-- An operation ends well. If it reads, it has what is due, and all operations before it are over. -/
theorem concluded_well {lines : Lines} (orderly : Orderly lines roster)
    (ledger : Ledger due calls roster) (waits : roster.pending commission.future = true)
    (member : commission ∈ roster.commissions)
    (well : verdict.completion? = some completion) (fits : commission.request.Admits completion)
    (opened : commission.fd ≠ closedFd → sockets.fd? commission.socket ≠ none)
    (handed : due = if commission.direction = .reading then [(commission.future, completion)] else [])
    (first : commission.direction = .reading →
      roster.IsFirst (roster.readings commission.socket) commission.future) :
    Ledger [] calls (roster.conclude commission.future ⟨verdict, sockets⟩) := by
  have only {one : Commission} (listed : one ∈ roster.commissions)
      (same : one.future = commission.future) : one = commission :=
    orderly.eq_of_future listed member same
  have inside {socket : SocketId} : commission.future ∈ roster.readings socket ↔
      commission.socket = socket ∧ commission.direction = .reading := by
    rw [Roster.mem_readings]
    constructor
    · rintro ⟨one, listed, own, reads, same⟩
      obtain rfl := only listed same
      exact ⟨own, reads⟩
    · exact fun ⟨own, reads⟩ => ⟨commission, member, own, reads, rfl⟩
  obtain ⟨loyal, fitting⟩ := ledger.fair_concluded commission.future verdict sockets
    (fun one listed same valid gone => by
      obtain rfl := only listed same
      exact absurd gone (opened valid))
    (fun one listed same other found => by
      obtain rfl := only listed same
      exact Option.some.inj (well.symm.trans found) ▸ fits)
  refine ⟨ledger.punctual, ?_, ?_, ?_, ?_, ?_⟩
  · rw [Roster.commissions_conclude]
    exact ledger.attributed
  · intro socket
    rw [Roster.readings_conclude, ledger.answered socket, List.filter_nil, List.append_nil, handed]
    by_cases reads : commission.future ∈ roster.readings socket
    · obtain ⟨rfl, way⟩ := inside.mp reads
      rw [Roster.brought_conclude_first waits well reads
        (Roster.nodup_readings orderly.distinct _) (ledger.inTurn _) (first way), if_pos way]
      simp [reads]
    · rw [Roster.brought_conclude_of_not_mem reads]
      split <;> simp [reads]
  · intro socket
    rw [Roster.readings_conclude]
    refine (ledger.inTurn socket).concluded (Or.inr ?_)
    by_cases reads : commission.future ∈ roster.readings socket
    · obtain ⟨rfl, way⟩ := inside.mp reads
      exact first way
    · exact Roster.isFirst_of_not_mem reads
  · rw [Roster.commissions_conclude]
    exact loyal
  · rw [Roster.commissions_conclude]
    exact fitting

/-- An operation is submitted. -/
theorem enlisted {lines : Lines} (orderly : Orderly lines roster) (ledger : Ledger [] calls roster)
    (new : commission.future = roster.made) : Ledger [] calls (roster.enlist commission) := by
  have unended : roster.endings commission.future = none :=
    orderly.unmade _ (Nat.le_of_eq new.symm)
  have unbrought : roster.completion? commission.future = none := by
    simp [Roster.completion?, unended]
  have unanswered : ∀ answer ∈ Call.answers calls, answer.1 ≠ commission.future := by
    intro answer member same
    obtain ⟨call, listed, found⟩ := List.mem_filterMap.mp member
    obtain ⟨completion, -, rfl⟩ := Option.map_eq_some_iff.mp found
    obtain ⟨one, known, makes⟩ := ledger.attributed call listed
    exact Nat.ne_of_lt (orderly.made one known) (makes.own.trans (same.trans new))
  refine ⟨ledger.punctual, ?_, ?_, ?_, ?_, ?_⟩
  · intro call listed
    obtain ⟨one, known, makes⟩ := ledger.attributed call listed
    exact ⟨one, List.mem_append_left _ known, makes⟩
  · intro socket
    rw [Roster.readings_enlist]
    split
    · have same : (Call.answers calls).filter
          (fun answer => decide (answer.1 ∈ roster.readings socket ++ [commission.future])) =
            (Call.answers calls).filter fun answer => decide (answer.1 ∈ roster.readings socket) := by
        refine List.filter_congr fun answer member => ?_
        simp [unanswered answer member]
      rw [same, ledger.answered socket]
      change _ = roster.brought (roster.readings socket ++ [commission.future]) ++ _
      rw [Roster.brought_append]
      simp [Roster.brought, unbrought]
    · rw [List.append_nil]
      exact ledger.answered socket
  · intro socket
    rw [Roster.readings_enlist]
    refine List.pairwise_append.mpr ⟨ledger.inTurn socket, ?_, ?_⟩
    · split
      · exact List.pairwise_singleton _ _
      · exact List.Pairwise.nil
    · intro earlier _ later member well
      split at member
      · rw [List.mem_singleton.mp member] at well
        change (roster.completion? commission.future).isSome = true at well
        rw [unbrought] at well
        cases well
      · cases member
  · intro one listed ending ended
    rcases List.mem_append.mp listed with old | last
    · exact ledger.loyal one old ending ended
    · rw [List.mem_singleton.mp last] at ended
      exact absurd (unended.symm.trans ended) (by simp)
  · intro one listed completion ended
    rcases List.mem_append.mp listed with old | last
    · exact ledger.fitting one old completion ended
    · rw [List.mem_singleton.mp last] at ended
      exact absurd (unbrought.symm.trans ended) (by simp)

end Ledger

end EventLoop.Proactor

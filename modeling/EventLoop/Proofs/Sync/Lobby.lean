import EventLoop.Proofs.Sync.Turnover

/-!
# Who waits in a queue

A caller that waits leaves the queue when it resumes or when it is gone. Its entry may leave earlier: when
the queue is woken, entries that were cancelled are removed, and a caller that is gone after it was granted
wakes the queue. So an entry is missing only if it was cancelled, and no entry stays behind.
-/
namespace EventLoop.Sync

/-- A queue, the loop that knows its futures, and those who wait. -/
structure Lobby where
  /-- The loop. -/
  loop : Loop
  /-- The queue. -/
  queue : WaiterQueue
  /-- The futures of the callers that have neither resumed nor gone, in the order of their arrival. -/
  waiters : List FutureId

namespace Lobby

/-! ## What may happen -/

/-- A caller arrives, to be cancelled after a timeout. -/
def park (lobby : Lobby) (now : Nat) (timeout : Option Nat) : Lobby :=
  let (future, loop) := lobby.loop.makeTimed .unit now timeout
  { loop, queue := lobby.queue.park future, waiters := lobby.waiters ++ [future] }

/-- Some who wait are granted. -/
def wake (lobby : Lobby) (count : Nat) : Lobby :=
  let (granted, queue) := lobby.queue.wake lobby.loop.futureState count
  { lobby with loop := lobby.loop.resolveAll granted (.finish (.ok .unit)), queue }

/-- The time of a caller is up. -/
def expire (lobby : Lobby) (future : FutureId) : Lobby :=
  { lobby with loop := (lobby.loop.resolve future .cancel).2 }

/-- A caller resumes. -/
def resume (lobby : Lobby) (future : FutureId) : Lobby :=
  { lobby with queue := lobby.queue.remove future, waiters := lobby.waiters.erase future }

/-- A caller is gone before it resumed. -/
def leave (lobby : Lobby) (future : FutureId) : Lobby :=
  let (settlement, queue) := lobby.queue.abandon lobby.loop.futureState future
  let loop := match settlement with
    | .passOn granted => lobby.loop.resolveAll granted (.finish (.ok .unit))
    | .cancel => lobby.loop.resolveAll [future] .cancel
  { loop, queue, waiters := lobby.waiters.erase future }

/-- One thing that may happen. -/
inductive Step (before : Lobby) : Lobby → Prop
  /-- A caller arrives. -/
  | parked (now : Nat) (timeout : Option Nat) : Step before (before.park now timeout)
  /-- The queue is woken. -/
  | woken (count : Nat) : Step before (before.wake count)
  /-- The time of a caller is up. -/
  | expired (future : FutureId) (waits : future ∈ before.waiters) : Step before (before.expire future)
  /-- A caller resumes whose future is done. -/
  | resumed (future : FutureId) (waits : future ∈ before.waiters)
      (done : before.loop.isDone future = true) : Step before (before.resume future)
  /-- A caller is gone. -/
  | left (future : FutureId) (waits : future ∈ before.waiters) : Step before (before.leave future)
  /-- Anything else happens in the loop: the futures of those who wait are left alone. -/
  | elsewhere (loop : Loop) (bound : before.loop.futures.size ≤ loop.futures.size)
      (same : ∀ future ∈ before.waiters, loop.futureState future = before.loop.futureState future) :
    Step before { before with loop }

/-- What may have become of a queue that was empty at first. -/
inductive Reached : Lobby → Prop
  /-- Nobody waits. -/
  | opened (loop : Loop) (handoff : Bool) : Reached ⟨loop, .empty handoff, []⟩
  /-- Something happens. -/
  | step {before after : Lobby} (earlier : Reached before) (step : Step before after) : Reached after

/-! ## What stays true -/

variable {lobby : Lobby} {future : FutureId}

/-- Those who wait are in order, and their entries are where they belong. -/
structure Holds (lobby : Lobby) : Prop where
  /-- The futures of those who wait exist. -/
  bound : ∀ future ∈ lobby.waiters, future < lobby.loop.futures.size
  /-- Whoever arrived later has a later future. -/
  order : lobby.waiters.Pairwise (· < ·)
  /-- Every entry is that of someone who waits, in the same order. -/
  entries : lobby.queue.entries.Sublist lobby.waiters
  /-- Only an entry that was cancelled is missing. -/
  absent : ∀ future ∈ lobby.waiters, future ∉ lobby.queue.entries →
    lobby.loop.futureState future = .cancelled

/-- Nobody waits twice. -/
theorem Holds.distinct (holds : lobby.Holds) : lobby.waiters.Nodup :=
  holds.order.imp Nat.ne_of_lt

/-- A lobby that was just opened is in order. -/
theorem holds_opened (loop : Loop) (handoff : Bool) : Holds ⟨loop, .empty handoff, []⟩ :=
  ⟨nofun, .nil, List.Sublist.refl _, nofun⟩

/-- The states of the futures of those who wait may change as long as nobody who was cancelled is
granted. -/
theorem Holds.states (holds : lobby.Holds) {loop : Loop} {queue : WaiterQueue}
    (bound : lobby.loop.futures.size ≤ loop.futures.size)
    (sublist : queue.entries.Sublist lobby.queue.entries)
    (stays : ∀ future ∈ lobby.waiters, lobby.loop.futureState future = .cancelled →
      loop.futureState future = .cancelled)
    (lost : ∀ future ∈ lobby.queue.entries, future ∉ queue.entries →
      lobby.loop.futureState future = .cancelled) :
    Holds { lobby with loop, queue } where
  bound future waits := Nat.lt_of_lt_of_le (holds.bound future waits) bound
  order := holds.order
  entries := sublist.trans holds.entries
  absent future waits missing := by
    refine stays future waits ?_
    by_cases listed : future ∈ lobby.queue.entries
    · exact lost future listed missing
    · exact holds.absent future waits listed

/-- What was resolved stays so, whatever is resolved then. -/
theorem cancelled_resolveAll {loop : Loop} {futures : List FutureId} {resolution : Resolution}
    (decided : resolution.fate ≠ .pending) (bound : ∀ future ∈ futures, future < loop.futures.size)
    (cancelled : loop.futureState future = .cancelled) :
    (loop.resolveAll futures resolution).futureState future = .cancelled := by
  rw [World.futureState_resolveAll loop decided bound, if_neg, cancelled]
  rintro ⟨-, pending⟩
  rw [cancelled] at pending
  cases pending

/-- A caller that parks keeps the lobby in order. -/
theorem Holds.park (holds : lobby.Holds) (now : Nat) (timeout : Option Nat) :
    (lobby.park now timeout).Holds := by
  have made := Loop.id_makeTimed lobby.loop .unit now timeout
  have size := Loop.size_makeTimed lobby.loop .unit now timeout
  have old (future : FutureId) (waits : future ∈ lobby.waiters) :
      (lobby.loop.makeTimed .unit now timeout).2.futureState future =
        lobby.loop.futureState future := by
    rw [Loop.futureState_eq, Loop.futureState_eq,
      Loop.fate_makeTimed .unit now timeout (holds.bound future waits)]
  unfold Lobby.park
  generalize lobby.loop.makeTimed .unit now timeout = parked at made size old
  obtain ⟨new, loop⟩ := parked
  dsimp only at made size old ⊢
  subst made
  refine ⟨fun future waits => ?_, ?_, ?_, fun future waits missing => ?_⟩
  · change future < loop.futures.size
    rw [size]
    rcases List.mem_append.mp waits with waits | last
    · exact Nat.lt_succ_of_lt (holds.bound future waits)
    · exact List.mem_singleton.mp last ▸ Nat.lt_succ_self _
  · refine List.pairwise_append.mpr ⟨holds.order, List.pairwise_singleton _ _, ?_⟩
    intro future waits new last
    exact List.mem_singleton.mp last ▸ holds.bound future waits
  · exact holds.entries.append_right _
  · rcases List.mem_append.mp waits with waits | last
    · exact (old future waits).trans (holds.absent future waits
        fun listed => missing (List.mem_append_left _ listed))
    · exact absurd (List.mem_append_right _ last) missing

/-- Waking callers keeps the lobby in order. -/
theorem Holds.wake (holds : lobby.Holds) (count : Nat) : (lobby.wake count).Holds := by
  have granted (future : FutureId)
      (member : future ∈ (lobby.queue.wake lobby.loop.futureState count).1) :
      future < lobby.loop.futures.size :=
    holds.bound future (holds.entries.subset (WaiterQueue.pending_of_mem_wake member).1)
  refine holds.states (Nat.le_of_eq (Loop.size_futures_resolveAll _ _ _).symm) List.filter_sublist
    (fun future _ => cancelled_resolveAll (by decide) granted) fun future listed missing => ?_
  by_contra other
  exact missing (List.mem_filter.mpr ⟨listed, bne_iff_ne.mpr other⟩)

/-- A caller whose time is up keeps the lobby in order. -/
theorem Holds.expire (holds : lobby.Holds) (waits : future ∈ lobby.waiters) :
    (lobby.expire future).Holds := by
  have bound (other : FutureId) (member : other ∈ [future]) : other < lobby.loop.futures.size :=
    List.mem_singleton.mp member ▸ holds.bound future waits
  refine holds.states (Nat.le_of_eq (Loop.size_futures_resolve _ _ _).symm) (List.Sublist.refl _)
    (fun other _ cancelled => ?_) fun other listed missing => absurd listed missing
  have resolved : (lobby.loop.resolveAll [future] .cancel).futureState other = .cancelled :=
    cancelled_resolveAll (by decide) bound cancelled
  exact resolved

/-- A caller that resumes keeps the lobby in order. -/
theorem Holds.resume (holds : lobby.Holds) (future : FutureId) : (lobby.resume future).Holds where
  bound other waits := holds.bound other (List.mem_of_mem_erase waits)
  order := holds.order.sublist List.erase_sublist
  entries := holds.entries.erase future
  absent other waits missing := by
    obtain ⟨differ, waits⟩ := holds.distinct.mem_erase_iff.mp waits
    exact holds.absent other waits fun listed =>
      missing ((List.mem_erase_of_ne differ).mpr listed)

/-- A caller that is gone leaves like one that resumes. If it had been granted, a queue that hands grants
on is woken then; otherwise its future is cancelled. -/
theorem leave_eq (lobby : Lobby) (future : FutureId) : lobby.leave future =
    if lobby.loop.futureState future = .finished then
      if lobby.queue.handoff then (lobby.resume future).wake 1 else lobby.resume future
    else { lobby.resume future with loop := lobby.loop.resolveAll [future] .cancel } := by
  unfold Lobby.leave WaiterQueue.abandon
  cases state : lobby.loop.futureState future with
  | pending | cancelled => rfl
  | finished =>
    dsimp only
    have same : (lobby.queue.remove future).handoff = lobby.queue.handoff := rfl
    rw [same, if_pos rfl]
    cases lobby.queue.handoff with
    | true | false => rfl

/-- What a caller that is gone was granted goes to others. -/
theorem leave_of_passOn {granted : List FutureId}
    (passed : (lobby.queue.abandon lobby.loop.futureState future).1 = .passOn granted) :
    lobby.leave future = ⟨lobby.loop.resolveAll granted (.finish (.ok .unit)),
      (lobby.queue.abandon lobby.loop.futureState future).2, lobby.waiters.erase future⟩ := by
  unfold Lobby.leave
  dsimp only
  rw [passed]

/-- The future of a caller that is gone without having been granted is cancelled. -/
theorem leave_of_cancel
    (cancelled : (lobby.queue.abandon lobby.loop.futureState future).1 = .cancel) :
    lobby.leave future = ⟨lobby.loop.resolveAll [future] .cancel,
      (lobby.queue.abandon lobby.loop.futureState future).2, lobby.waiters.erase future⟩ := by
  unfold Lobby.leave
  dsimp only
  rw [cancelled]

/-- A caller that leaves keeps the lobby in order. -/
theorem Holds.leave (holds : lobby.Holds) (waits : future ∈ lobby.waiters) :
    (lobby.leave future).Holds := by
  have resumed := holds.resume future
  rw [leave_eq]
  split
  · split
    · exact resumed.wake 1
    · exact resumed
  · have bound (other : FutureId) (member : other ∈ [future]) : other < lobby.loop.futures.size :=
      List.mem_singleton.mp member ▸ holds.bound future waits
    exact resumed.states (Nat.le_of_eq (Loop.size_futures_resolveAll _ _ _).symm)
      (List.Sublist.refl _) (fun other _ => cancelled_resolveAll (by decide) bound)
      fun other listed missing => absurd listed missing

/-- Each thing that may happen keeps the lobby in order. -/
theorem Step.holds {after : Lobby} (step : Step lobby after) (holds : lobby.Holds) : after.Holds := by
  cases step with
  | parked now timeout => exact holds.park now timeout
  | woken count => exact holds.wake count
  | expired future waits => exact holds.expire waits
  | resumed future waits done => exact holds.resume future
  | left future waits => exact holds.leave waits
  | elsewhere loop bound same =>
    exact holds.states bound (List.Sublist.refl _)
      (fun future waits cancelled => (same future waits).trans cancelled)
      fun future listed missing => absurd listed missing

/-- A lobby is in order in every state that is reached. -/
theorem Reached.holds (reached : Reached lobby) : lobby.Holds := by
  induction reached with
  | opened loop handoff => exact holds_opened loop handoff
  | step _ step ih => exact step.holds ih

/-! ## Whose the entries are -/

/-- The entries of a queue are those of the callers who wait, and each caller takes away its own. -/
structure KeepsPlaces (lobby : Lobby) : Prop where
  /-- Every entry is that of someone who waits, in the order of arrival. -/
  listed : lobby.queue.entries.Sublist lobby.waiters
  /-- No two entries are the same. -/
  distinct : lobby.queue.entries.Nodup
  /-- Whoever waits and was not cancelled has exactly one entry. -/
  once : ∀ future ∈ lobby.waiters, lobby.loop.futureState future ≠ .cancelled →
    lobby.queue.entries.count future = 1
  /-- Whoever waits and has no entry was cancelled. -/
  absent : ∀ future ∈ lobby.waiters, future ∉ lobby.queue.entries →
    lobby.loop.futureState future = .cancelled
  /-- A caller that resumes takes away its own entry only. -/
  resumes : ∀ future ∈ lobby.waiters, lobby.loop.isDone future = true →
    (lobby.resume future).queue.entries = lobby.queue.entries.filter (· != future)
  /-- So does a caller that is gone, unless it had been granted and the queue hands grants on. -/
  leaves : ∀ future ∈ lobby.waiters,
    lobby.loop.futureState future ≠ .finished ∨ lobby.queue.handoff = false →
      (lobby.leave future).queue.entries = lobby.queue.entries.filter (· != future)
  /-- Then the entries that were cancelled are removed as well. -/
  passes : ∀ future ∈ lobby.waiters,
    lobby.loop.futureState future = .finished → lobby.queue.handoff = true →
      (lobby.leave future).queue.entries = lobby.queue.entries.filter fun entry =>
        entry != future && lobby.loop.futureState entry != .cancelled
  /-- Once nobody waits, the queue is empty. -/
  vacant : lobby.waiters = [] → lobby.queue.entries = []

/-- A lobby in order keeps the places of its callers. -/
theorem Holds.places (holds : lobby.Holds) : lobby.KeepsPlaces := by
  have distinct : lobby.queue.entries.Nodup := holds.entries.nodup holds.distinct
  refine ⟨holds.entries, distinct, fun future waits stays => ?_, holds.absent,
    fun future _ _ => distinct.erase_eq_filter future, fun future _ keeps => ?_,
    fun future _ finished handoff => ?_, fun empty => ?_⟩
  · have listed : future ∈ lobby.queue.entries := by
      by_contra missing
      exact stays (holds.absent future waits missing)
    exact List.count_eq_one_of_mem distinct listed
  · have own : (lobby.resume future).queue.entries = lobby.queue.entries.filter (· != future) :=
      distinct.erase_eq_filter future
    rw [leave_eq]
    split
    · rename_i finished
      rw [keeps.resolve_left (not_not_intro finished)]
      exact own
    · exact own
  · rw [leave_eq, if_pos finished, handoff]
    change ((lobby.queue.entries.erase future).filter _) = _
    rw [distinct.erase_eq_filter, List.filter_filter]
    refine List.filter_congr fun entry _ => ?_
    exact Bool.and_comm _ _
  · have none := holds.entries
    rw [empty] at none
    exact List.sublist_nil.mp none

/-- Whatever happens, an entry stays in its queue until its caller resumes or is gone or, after it was
cancelled, until the queue is woken; and it does not stay longer. -/
theorem Reached.keepsPlaces (reached : Reached lobby) : lobby.KeepsPlaces := reached.holds.places

/-- Of three callers who wait the first one was granted, and the time of the second one is up. -/
def crowded : Lobby :=
  let parked := (((⟨{}, .empty true, []⟩ : Lobby).park 0 none).park 0 (some 5)).park 0 none
  (parked.wake 1).expire 1

/-- The crowded lobby is reached. -/
theorem reached_crowded : Reached crowded := by
  have parked : Reached ((((⟨{}, .empty true, []⟩ : Lobby).park 0 none).park 0 (some 5)).park 0 none) :=
    .step (.step (.step (.opened {} true) (.parked 0 none)) (.parked 0 (some 5))) (.parked 0 none)
  exact .step (.step parked (.woken 1)) (.expired 1 (by decide))

/-- When the first one is gone, the entry of the second one is removed with its own. -/
theorem keepsPlaces_crowded : crowded.queue.entries = [0, 1, 2] ∧
    (crowded.leave 0).queue.entries = [2] := by
  have keeps := reached_crowded.keepsPlaces
  refine ⟨by decide, ?_⟩
  rw [keeps.passes 0 (by decide) (by decide) rfl]
  decide

/-- A caller that is gone may take away an entry that is not its own, while its caller still waits. -/
theorem not_own_entry_only : ¬ ∀ lobby : Lobby, Reached lobby → ∀ future ∈ lobby.waiters,
    ∀ other ∈ (lobby.leave future).waiters, other ∈ lobby.queue.entries →
      other ∈ (lobby.leave future).queue.entries := by
  intro own
  have stays := own crowded reached_crowded 0 (by decide) 1 (by decide) (by decide)
  revert stays
  decide

end Lobby

end EventLoop.Sync

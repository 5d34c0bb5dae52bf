import EventLoop.Proofs.Machine.Run

/-!
# Grants that callers have not taken up

An entry that was granted stays in its queue until its caller resumes. Waking a queue grants at most one
entry more, and a queue that is not empty afterwards has an entry that was granted.
-/
namespace EventLoop.World

open Sync (WaiterQueue)

variable {held : List Ref} {places : Multiset (Gate × FutureId)} {world before after : World}
variable {gate other : Gate} {future : FutureId} {loop : Loop}

/-- Those of some futures that were granted. -/
def grantedOf (loop : Loop) (futures : List FutureId) : List FutureId :=
  futures.filter fun future => loop.futureState future == .finished

/-- The entries of a queue that were granted and whose callers have not resumed. -/
def granted (world : World) (gate : Gate) : List FutureId :=
  grantedOf world.loop (world.entries gate)

/-- The granted ones among futures depend on which of them are finished only. -/
theorem grantedOf_congr {other : Loop} {futures : List FutureId}
    (same : ∀ future ∈ futures, other.futureState future = .finished ↔
      loop.futureState future = .finished) :
    grantedOf other futures = grantedOf loop futures := by
  refine List.filter_congr fun future member => ?_
  rw [Bool.eq_iff_iff, beq_iff_eq, beq_iff_eq]
  exact same future member

/-- A future that is not finished is none of the grants. -/
theorem grantedOf_append_of_ne {futures : List FutureId}
    (unfinished : loop.futureState future ≠ .finished) :
    grantedOf loop (futures ++ [future]) = grantedOf loop futures := by
  have none : grantedOf loop [future] = [] := by simpa [grantedOf] using unfinished
  have split : grantedOf loop (futures ++ [future]) =
      grantedOf loop futures ++ grantedOf loop [future] := List.filter_append ..
  rw [split, none, List.append_nil]

/-- What leaves a queue and the fates of its entries alone leaves the grants alone. -/
theorem granted_congr (entries : after.entries gate = before.entries gate)
    (fates : ∀ future ∈ before.entries gate, after.loop.fate future = before.loop.fate future) :
    after.granted gate = before.granted gate := by
  unfold granted
  rw [entries]
  refine grantedOf_congr fun future member => ?_
  rw [Loop.futureState_eq, Loop.futureState_eq, fates future member]

/-- What is done at another gate leaves the grants alone. -/
theorem granted_touches (orderly : Orderly held places before) (touches : Touches other before after)
    (differ : gate ≠ other) : after.granted gate = before.granted gate :=
  granted_congr (congrArg WaiterQueue.entries (touches.queues differ)) fun _ member =>
    touches.fates fun there => differ (orderly.apart member there)

/-- How far futures are after some were resolved. -/
theorem futureState_resolveAll (loop : Loop) {futures : List FutureId} {resolution : Resolution}
    (decided : resolution.fate ≠ .pending) (bound : ∀ future ∈ futures, future < loop.futures.size)
    (future : FutureId) : (loop.resolveAll futures resolution).futureState future =
      if future ∈ futures ∧ loop.futureState future = .pending then resolution.fate.state
      else loop.futureState future := by
  rw [Loop.futureState_eq, Loop.fate_resolveAll loop futures resolution decided bound]
  by_cases here : future ∈ futures ∧ loop.fate future = .pending
  · rw [if_pos here, if_pos ⟨here.1, Loop.pending_iff.mpr here.2⟩]
  · rw [if_neg here, if_neg fun there => here ⟨there.1, Loop.pending_iff.mp there.2⟩,
      Loop.futureState_eq]

/-- Cancelling futures grants none and takes no grant back. -/
theorem grantedOf_cancel {futures cancelled : List FutureId}
    (bound : ∀ future ∈ cancelled, future < loop.futures.size) :
    grantedOf (loop.resolveAll cancelled .cancel) futures = grantedOf loop futures := by
  refine grantedOf_congr fun future _ => ?_
  rw [futureState_resolveAll loop (by decide) bound]
  split
  · rename_i pending
    rw [pending.2]
    decide
  · rfl

/-- An entry that is finished is one of the grants. -/
theorem length_granted_pos (waits : future ∈ world.entries gate)
    (finished : world.loop.futureState future = .finished) : 0 < (world.granted gate).length :=
  List.length_pos_of_mem (List.mem_filter.mpr ⟨waits, beq_iff_eq.mpr finished⟩)

/-- One grant less is left when a caller that was granted is removed. -/
theorem length_grantedOf_erase {futures : List FutureId} (member : future ∈ futures)
    (finished : loop.futureState future = .finished) :
    (grantedOf loop (futures.erase future)).length + 1 = (grantedOf loop futures).length := by
  have perm := (List.perm_cons_erase member).filter fun future => loop.futureState future == .finished
  rw [grantedOf, grantedOf, perm.length_eq, List.filter_cons_of_pos (by rw [finished]; rfl),
    List.length_cons]

/-- As many grants are left when a caller is removed that was not granted. -/
theorem length_grantedOf_erase_of_ne {futures : List FutureId}
    (unfinished : loop.futureState future ≠ .finished) :
    (grantedOf loop (futures.erase future)).length = (grantedOf loop futures).length := by
  by_cases member : future ∈ futures
  · have perm := (List.perm_cons_erase member).filter fun future => loop.futureState future == .finished
    rw [grantedOf, grantedOf, perm.length_eq, List.filter_cons_of_neg]
    exact fun same => unfinished (beq_iff_eq.mp same)
  · rw [List.erase_of_not_mem member]

section Wake

variable {queue : WaiterQueue} {view : Sync.FutureView}

/-- Waking a queue grants one caller at most. -/
theorem wake_one (queue : WaiterQueue) (view : Sync.FutureView) :
    (queue.wake view 1).1 = ((queue.wake view 1).2.entries.find? (view · == .pending)).toList := by
  unfold WaiterQueue.wake WaiterQueue.grantees
  dsimp only
  rw [← List.head?_filter]
  cases List.filter _ _ with
  | nil => rfl
  | cons first rest => rfl

/-- Those that satisfy one of two conditions are no more than those that satisfy either of them. -/
theorem countP_or_le {α : Type} (first second : α → Bool) (elements : List α) :
    elements.countP (fun element => first element || second element) ≤
      elements.countP first + elements.countP second := by
  induction elements with
  | nil => exact Nat.le_refl 0
  | cons element rest ih =>
    simp only [List.countP_cons]
    cases first element <;> cases second element <;> simp <;> omega

/-- Of the futures of a queue that is woken once, the first one that is pending is finished. -/
theorem futureState_wake (bound : ∀ future ∈ queue.entries, future < loop.futures.size)
    (future : FutureId) :
    (loop.resolveAll (queue.wake loop.futureState 1).1 (.finish (.ok .unit))).futureState future =
      if (queue.wake loop.futureState 1).2.entries.find? (loop.futureState · == .pending) = some future
      then .finished else loop.futureState future := by
  rw [futureState_resolveAll loop (by decide)
    (fun future member => bound future (WaiterQueue.pending_of_mem_wake member).1), wake_one]
  refine if_congr ?_ rfl rfl
  rw [Option.mem_toList, and_iff_left_iff_imp]
  intro found
  simpa using List.find?_some found

/-- After a queue was woken once, at most one entry more was granted. -/
theorem length_grantedOf_wake_le (distinct : queue.entries.Nodup)
    (bound : ∀ future ∈ queue.entries, future < loop.futures.size) :
    (grantedOf (loop.resolveAll (queue.wake loop.futureState 1).1 (.finish (.ok .unit)))
      (queue.wake loop.futureState 1).2.entries).length ≤
        (grantedOf loop queue.entries).length + 1 := by
  set entries := (queue.wake loop.futureState 1).2.entries
  set reached := loop.resolveAll (queue.wake loop.futureState 1).1 (.finish (.ok .unit))
  have kept : entries.Sublist queue.entries := List.filter_sublist
  have states (future : FutureId) : reached.futureState future =
      if entries.find? (loop.futureState · == .pending) = some future then .finished
      else loop.futureState future := futureState_wake bound future
  cases found : entries.find? (loop.futureState · == .pending) with
  | none =>
    have same : grantedOf reached entries = grantedOf loop entries :=
      grantedOf_congr fun future _ => by simp [states, found]
    rw [same]
    exact Nat.le_succ_of_le (kept.filter _).length_le
  | some first =>
    have split : grantedOf reached entries =
        entries.filter fun future => loop.futureState future == .finished || future == first := by
      refine List.filter_congr fun future _ => ?_
      rw [states, found]
      by_cases same : future = first
      · simp [same]
      · simp [same, Ne.symm same]
    rw [split, ← List.countP_eq_length_filter]
    calc entries.countP (fun future => loop.futureState future == .finished || future == first)
        ≤ entries.countP (loop.futureState · == .finished) + entries.countP (· == first) :=
          countP_or_le _ _ _
      _ ≤ (grantedOf loop queue.entries).length + 1 := by
          refine Nat.add_le_add ?_ ?_
          · rw [List.countP_eq_length_filter]
            exact (kept.filter _).length_le
          · exact List.nodup_iff_count_le_one.mp (kept.nodup distinct) first

/-- If anyone waits in a queue after it was woken once, then someone was granted. -/
theorem grantedOf_wake_ne_nil (bound : ∀ future ∈ queue.entries, future < loop.futures.size)
    (waits : (queue.wake loop.futureState 1).2.entries ≠ []) :
    grantedOf (loop.resolveAll (queue.wake loop.futureState 1).1 (.finish (.ok .unit)))
      (queue.wake loop.futureState 1).2.entries ≠ [] := by
  suffices finished : ∃ future ∈ (queue.wake loop.futureState 1).2.entries,
      (loop.resolveAll (queue.wake loop.futureState 1).1 (.finish (.ok .unit))).futureState future =
        .finished by
    obtain ⟨future, member, finished⟩ := finished
    exact List.ne_nil_of_mem (List.mem_filter.mpr ⟨member, beq_iff_eq.mpr finished⟩)
  cases found : (queue.wake loop.futureState 1).2.entries.find? (loop.futureState · == .pending) with
  | some first =>
    refine ⟨first, List.mem_of_find?_eq_some found, ?_⟩
    rw [futureState_wake bound, if_pos found]
  | none =>
    -- Nobody was granted just now, so whoever is left was granted before.
    obtain ⟨first, member⟩ := List.exists_mem_of_ne_nil _ waits
    refine ⟨first, member, ?_⟩
    rw [futureState_wake bound, found, if_neg (Option.some_ne_none first).symm]
    have unpending := List.find?_eq_none.mp found first member
    have uncancelled := (List.mem_filter.mp member).2
    cases state : loop.futureState first with
    | pending => exact absurd (beq_iff_eq.mpr state) unpending
    | cancelled =>
      rw [state] at uncancelled
      cases uncancelled
    | finished => rfl

end Wake

end EventLoop.World

import EventLoop.Proofs.Effect.Exposure
import EventLoop.Proofs.Wait
import Mathlib.Algebra.BigOperators.Group.Finset.Basic
import Mathlib.Algebra.Order.Group.Multiset

/-!
# What waits in the loop

A reaction waits with a future that is pending, and then among the ready callbacks; `Loop.replies` counts
both, so that it does not matter when a future is resolved. Transports and servers are told of their
operations in this way, and other callbacks about them become ready in a certain order. Transitions of the
loop to which only common callbacks are added leave all of that alone.
-/
namespace EventLoop

variable {about : Reaction → Bool} {common : Callback → Prop} {kind : Callback → Bool}

/-- The future that a callback is a reaction of, if it is a reaction of some kind. -/
def Callback.replyTo? (about : Reaction → Bool) : Callback → Option FutureId
  | .done future reaction => if about reaction then some future else none
  | .script .. | .step _ | .readPipe | .resolve _ | .expire _ | .connectionMade _ | .startReading _
  | .connectionLost .. | .startAccepting _ => none

/-- What the loop makes ready of itself is common: it polls tasks, wakes them, and cancels futures whose
time is up. -/
class Callback.Common (common : Callback → Prop) : Prop where
  /-- A task is polled. -/
  step : ∀ task, common (.step task)
  /-- A future is cancelled. -/
  expire : ∀ future, common (.expire future)
  /-- A task is woken. -/
  wake : ∀ future cell, common (.done future (.wake cell))

/-- Common callbacks are no reactions of a kind. -/
def Reaction.Concerns (common : Callback → Prop) (about : Reaction → Bool) : Prop :=
  ∀ future reaction, common (.done future reaction) → about reaction = false

/-- Neither common callbacks nor reactions are of a kind. -/
structure Callback.Rare (common : Callback → Prop) (kind : Callback → Bool) : Prop where
  /-- Common callbacks. -/
  common : ∀ {callback}, common callback → kind callback = false
  /-- Reactions. -/
  reaction : ∀ future reaction, kind (.done future reaction) = false

/-- A common callback is no reaction of a kind. -/
theorem Callback.replyTo?_of_common {callback : Callback} (concerns : Reaction.Concerns common about)
    (other : common callback) : callback.replyTo? about = none := by
  cases callback with
  | done future reaction => exact if_neg (by simp [concerns future reaction other])
  | script | step | readPipe | resolve | expire | connectionMade | startReading | connectionLost
  | startAccepting => rfl

/-- When its reactions become ready, each one of a kind is one reply. -/
theorem Callback.replyTo?_reactions (id : FutureId) (reactions : List Reaction) :
    (reactions.map (Callback.done id)).filterMap (·.replyTo? about) =
      List.replicate (reactions.countP about) id := by
  induction reactions with
  | nil => rfl
  | cons reaction rest ih =>
    rw [List.map_cons, List.filterMap_cons, ih, List.countP_cons]
    cases holds : about reaction <;> simp [Callback.replyTo?, holds, List.replicate_succ]

/-- How many reactions of a kind wait with a future. -/
def Future.pledges (about : Reaction → Bool) (future : Future) : Nat :=
  match future.phase with
  | .pending reactions _ => reactions.countP about
  | .cancelled | .finished _ => 0

/-- A future whose outcome is moved out keeps its reactions. -/
theorem Future.pledges_take (future : Future) :
    future.take.2.pledges about = future.pledges about := by
  rcases future with ⟨kind, phase⟩
  cases phase with
  | pending | cancelled => rfl
  | finished outcome =>
    cases outcome with
    | none => rfl
    | some outcome => rfl

/-- A future that is emptied has no reactions. -/
theorem Future.pledges_emptied (future : Future) : future.emptied.pledges about = 0 := by
  rcases future with ⟨kind, phase⟩
  cases phase with
  | pending | cancelled | finished => rfl

namespace Loop

variable {loop other : Loop} {id : FutureId} {future : Future}

/-- How many reactions of a kind wait with a future. -/
def pledgesOf (about : Reaction → Bool) (loop : Loop) (id : FutureId) : Nat :=
  (loop.futures.get? id).elim 0 (Future.pledges about)

/-- The futures of reactions of a kind that wait with futures. -/
def pledged (about : Reaction → Bool) (loop : Loop) : Multiset FutureId :=
  ∑ id ∈ Finset.range loop.futures.size, Multiset.replicate (loop.pledgesOf about id) id

/-- The futures of reactions of a kind that wait, with futures or among the ready callbacks. -/
def replies (about : Reaction → Bool) (loop : Loop) : Multiset FutureId :=
  (loop.ready.filterMap (·.replyTo? about) : Multiset FutureId) + loop.pledged about

/-! ## Reactions that wait with futures -/

/-- What is pledged is put together from what each future pledges. -/
theorem pledged_of_pledges (size : other.futures.size = loop.futures.size)
    (pledges : ∀ id, other.pledgesOf about id = loop.pledgesOf about id) :
    other.pledged about = loop.pledged about := by
  unfold pledged
  rw [size]
  exact Finset.sum_congr rfl fun id _ => by rw [pledges id]

/-- What is pledged depends on the futures alone. -/
theorem pledged_congr (same : other.futures = loop.futures) :
    other.pledged about = loop.pledged about :=
  pledged_of_pledges (by rw [same]) fun id => by unfold pledgesOf; rw [same]

/-- No reaction waits with a future that was just made. -/
theorem pledged_push (same : other.futures = loop.futures.push future)
    (none : future.pledges about = 0) : other.pledged about = loop.pledged about := by
  have last : other.pledgesOf about loop.futures.size = 0 := by
    rw [pledgesOf, same, Table.get?_push, if_pos rfl]
    exact none
  have others : ∀ id ∈ Finset.range loop.futures.size,
      Multiset.replicate (other.pledgesOf about id) id =
        Multiset.replicate (loop.pledgesOf about id) id := by
    intro id below
    have differ : id ≠ loop.futures.size := Nat.ne_of_lt (Finset.mem_range.mp below)
    rw [pledgesOf, same, Table.get?_push, if_neg differ, pledgesOf]
  unfold pledged
  rw [same, Table.size_push, Finset.sum_range_succ, last, Multiset.replicate_zero, add_zero]
  exact Finset.sum_congr rfl others

/-- When one future changes, the reactions that waited with it are replaced. -/
theorem pledged_modify {change : Future → Future} (found : loop.futures.get? id = some future)
    (same : other.futures = loop.futures.modify id change) :
    other.pledged about + Multiset.replicate (future.pledges about) id =
      loop.pledged about + Multiset.replicate ((change future).pledges about) id := by
  have below : id ∈ Finset.range loop.futures.size :=
    Finset.mem_range.mpr (Table.lt_size_of_get? found)
  have before : loop.pledgesOf about id = future.pledges about := by
    rw [pledgesOf, found]
    rfl
  have after : other.pledgesOf about id = (change future).pledges about := by
    rw [pledgesOf, same, Table.get?_modify_self, found]
    rfl
  have others : ∀ there ∈ (Finset.range loop.futures.size).erase id,
      Multiset.replicate (other.pledgesOf about there) there =
        Multiset.replicate (loop.pledgesOf about there) there := by
    intro there member
    rw [pledgesOf, same, Table.get?_modify_of_ne _ _ (Finset.ne_of_mem_erase member), pledgesOf]
  unfold pledged
  rw [same, Table.size_modify, ← Finset.add_sum_erase _ _ below, ← Finset.add_sum_erase _ _ below,
    Finset.sum_congr rfl others, before, after, add_right_comm, add_comm (Multiset.replicate _ id),
    add_right_comm]

/-- A change of one future that keeps its reactions. -/
theorem pledged_modify_same {change : Future → Future}
    (keeps : ∀ future, (change future).pledges about = future.pledges about)
    (same : other.futures = loop.futures.modify id change) :
    other.pledged about = loop.pledged about := by
  refine pledged_of_pledges (by rw [same, Table.size_modify]) fun there => ?_
  rw [pledgesOf, same, Table.get?_modify, pledgesOf]
  split
  · cases loop.futures.get? there with
    | none => rfl
    | some future => exact keeps future
  · rfl

/-- The reactions that wait with futures are those that pending futures will bring about. -/
theorem mem_pledged : id ∈ loop.pledged about ↔
    ∃ reaction, about reaction = true ∧ loop.Reacts id reaction := by
  unfold pledged
  simp only [Multiset.mem_sum, Multiset.mem_replicate, Finset.mem_range]
  constructor
  · rintro ⟨there, below, counts, rfl⟩
    obtain ⟨⟨kind, phase⟩, found⟩ := Table.exists_get?_of_lt_size below
    rw [pledgesOf, found] at counts
    cases phase with
    | cancelled | finished => exact absurd rfl counts
    | pending reactions timer =>
      obtain ⟨reaction, member, holds⟩ := List.countP_pos_iff.mp (Nat.pos_of_ne_zero counts)
      exact ⟨reaction, holds, kind, reactions, timer, found, member⟩
  · rintro ⟨reaction, holds, kind, reactions, timer, found, member⟩
    refine ⟨id, Table.lt_size_of_get? found, ?_, rfl⟩
    rw [pledgesOf, found]
    exact Nat.ne_of_gt (List.countP_pos_iff.mpr ⟨reaction, member, holds⟩)

/-- The reactions that wait are ready, or pending futures will bring them about. -/
theorem mem_replies : id ∈ loop.replies about ↔ ∃ reaction, about reaction = true ∧
    (.done id reaction ∈ loop.ready ∨ loop.Reacts id reaction) := by
  unfold replies
  rw [Multiset.mem_add, mem_pledged, Multiset.mem_coe, List.mem_filterMap]
  constructor
  · rintro (⟨callback, member, replies⟩ | ⟨reaction, holds, reacts⟩)
    · cases callback with
      | done future reaction =>
        obtain ⟨holds, same⟩ := Option.ite_none_right_eq_some.mp replies
        cases same
        exact ⟨reaction, holds, Or.inl member⟩
      | script | step | readPipe | resolve | expire | connectionMade | startReading | connectionLost
      | startAccepting => cases replies
    · exact ⟨reaction, holds, Or.inr reacts⟩
  · rintro ⟨reaction, holds, member | reacts⟩
    · exact Or.inl ⟨_, member, if_pos holds⟩
    · exact Or.inr ⟨reaction, holds, reacts⟩

/-! ## Transitions that add common callbacks -/

/-- What waits stays as it is, but for common callbacks. What timers or other threads will call is common
unless it was so before. -/
structure Still (common : Callback → Prop) (loop other : Loop) : Prop where
  /-- The same callbacks of each rare kind are ready. -/
  ready : ∀ {kind}, Callback.Rare common kind → other.ready.filter kind = loop.ready.filter kind
  /-- The same reactions wait. -/
  replies : ∀ {about}, Reaction.Concerns common about → other.replies about = loop.replies about
  /-- Timers. -/
  timers : ∀ entry ∈ other.timers.entries, entry ∈ loop.timers.entries ∨ common entry.callback
  /-- Other threads. -/
  remote : ∀ callback ∈ other.remote, callback ∈ loop.remote ∨ common callback

/-- What timers and other threads will call is common. -/
structure Aloof (common : Callback → Prop) (loop : Loop) : Prop where
  /-- Timers. -/
  timers : ∀ entry ∈ loop.timers.entries, common entry.callback
  /-- Other threads. -/
  remote : ∀ callback ∈ loop.remote, common callback

namespace Still

/-- A loop is still when nothing happens. -/
theorem refl (loop : Loop) : loop.Still common loop :=
  ⟨fun _ => rfl, fun _ => rfl, fun _ => Or.inl, fun _ => Or.inl⟩

/-- A loop that is still twice is still. -/
theorem trans {first second third : Loop} (before : first.Still common second)
    (after : second.Still common third) : first.Still common third where
  ready rare := (after.ready rare).trans (before.ready rare)
  replies concerns := (after.replies concerns).trans (before.replies concerns)
  timers entry member := by
    rcases after.timers entry member with old | other
    · exact before.timers entry old
    · exact Or.inr other
  remote callback member := by
    rcases after.remote callback member with old | other
    · exact before.remote callback old
    · exact Or.inr other

/-- Timers and other threads go on to call nothing else. -/
theorem aloof (still : loop.Still common other) (aloof : loop.Aloof common) : other.Aloof common where
  timers entry member := (still.timers entry member).elim (aloof.timers entry) id
  remote callback member := (still.remote callback member).elim (aloof.remote callback) id

/-- Common callbacks become ready, and the futures keep their reactions. -/
theorem of_ready (more : List Callback) (ready : other.ready = loop.ready ++ more)
    (others : ∀ callback ∈ more, common callback)
    (pledged : ∀ {about}, Reaction.Concerns common about → other.pledged about = loop.pledged about)
    (timers : ∀ entry ∈ other.timers.entries, entry ∈ loop.timers.entries ∨ common entry.callback)
    (remote : other.remote ⊆ loop.remote) : loop.Still common other where
  ready {kind} rare := by
    have none : more.filter kind = [] := by
      rw [List.filter_eq_nil_iff]
      intro callback member
      rw [rare.common (others callback member)]
      exact Bool.false_ne_true
    rw [ready, List.filter_append, none, List.append_nil]
  replies {about} concerns := by
    have none : more.filterMap (·.replyTo? about) = [] := by
      rw [List.filterMap_eq_nil_iff]
      exact fun callback member => Callback.replyTo?_of_common concerns (others callback member)
    rw [Loop.replies, ready, List.filterMap_append, none, List.append_nil, pledged concerns]
    rfl
  timers := timers
  remote callback member := Or.inl (remote member)

/-- The ready callbacks and the futures are the same, and no timer is added. -/
theorem of_eq (ready : other.ready = loop.ready) (futures : other.futures = loop.futures)
    (timers : other.timers.entries ⊆ loop.timers.entries) (remote : other.remote ⊆ loop.remote) :
    loop.Still common other := by
  refine of_ready [] (by rw [ready, List.append_nil]) (fun _ member => nomatch member)
    (fun _ => pledged_congr futures) (fun entry member => Or.inl (timers member)) remote

/-- Making a callback ready keeps what waits still, if the callback is common. -/
theorem callSoon (loop : Loop) {callback : Callback} (ordinary : common callback) :
    loop.Still common (loop.callSoon callback) := by
  rw [callSoon_eq]
  refine of_ready (if loop.closed then [] else [callback]) rfl (fun other member => ?_)
    (fun _ => pledged_congr rfl) (fun _ => Or.inl) (List.Subset.refl _)
  split at member
  · cases member
  · rw [List.mem_singleton.mp member]
    exact ordinary

/-- Scheduling a callback for a time keeps what waits still, if the callback is common. -/
theorem callAt (loop : Loop) (deadline : Nat) {callback : Callback}
    (ordinary : common callback) : loop.Still common (loop.callAt deadline callback).2 := by
  have entries := @Within.mem_entries_callAt loop deadline callback
  rw [callAt_eq] at entries ⊢
  refine of_ready [] (List.append_nil _).symm (fun _ member => nomatch member)
    (fun _ => pledged_congr rfl) (fun entry member => ?_) (List.Subset.refl _)
  refine (entries member).imp_right fun same => ?_
  rw [same]
  exact ordinary

/-- Resolving a future that is pending makes its reactions ready. -/
theorem replaceFuture (opened : loop.closed = false) {kind : FutureKind}
    {reactions : List Reaction} {timer : Option TimerId}
    (found : loop.futures.get? id = some ⟨kind, .pending reactions timer⟩)
    (resolution : Resolution) :
    loop.Still common (loop.replaceFuture id ⟨kind, Future.resolved resolution⟩ ⟨reactions, timer⟩) := by
  rw [replaceFuture_eq, opened]
  refine ⟨fun {rare} kind => ?_, fun {about} _ => ?_, fun entry member => Or.inl ?_, fun _ => Or.inl⟩
  · have none : (reactions.map (Callback.done id)).filter rare = [] := by
      rw [List.filter_map]
      refine List.map_eq_nil_iff.mpr (List.filter_eq_nil_iff.mpr fun reaction _ => ?_)
      rw [Function.comp_apply, kind.reaction id reaction]
      exact Bool.false_ne_true
    simp only [Bool.false_eq_true, if_false, List.filter_append, none, List.append_nil]
  · have moved := @pledged_modify about loop { loop with
      futures := loop.futures.modify id fun _ => ⟨kind, Future.resolved resolution⟩ } id _ _
        found rfl
    have settled : Future.pledges about ⟨kind, Future.resolved resolution⟩ = 0 := by
      cases resolution with
      | cancel => rfl
      | finish outcome => rfl
    rw [settled, Multiset.replicate_zero, add_zero] at moved
    simp only [Loop.replies, Bool.false_eq_true, if_false, List.filterMap_append,
      Callback.replyTo?_reactions]
    rw [← moved, ← Multiset.coe_add, add_assoc, Multiset.coe_replicate, add_comm (Multiset.replicate _ _)]
    rfl
  · cases timer with
    | none => exact member
    | some timer => exact member

/-- Resolving a future keeps what waits still: the reactions that were pledged are ready instead. -/
theorem resolve (opened : loop.closed = false) (id : FutureId) (resolution : Resolution) :
    loop.Still common (loop.resolve id resolution).2 := by
  rw [resolve_eq]
  split
  · rename_i found
    exact replaceFuture opened found resolution
  · exact refl loop

/-- A common reaction is registered. -/
theorem whenDone (loop : Loop) (future : FutureId) {reaction : Reaction}
    (ordinary : common (.done future reaction)) : loop.Still common (loop.whenDone future reaction) := by
  rw [whenDone_eq]
  split
  · rename_i kind reactions timer found
    refine of_ready [] (List.append_nil _).symm (fun _ member => nomatch member)
      (fun {about} concerns => ?_) (fun _ => Or.inl) (List.Subset.refl _)
    have moved := @pledged_modify about loop { loop with
      futures := loop.futures.modify future fun _ =>
        ⟨kind, .pending (reactions ++ [reaction]) timer⟩ } future _ _ found rfl
    have same : Future.pledges about ⟨kind, .pending (reactions ++ [reaction]) timer⟩ =
        Future.pledges about ⟨kind, .pending reactions timer⟩ := by
      have fails : ¬ about reaction = true := by simp [concerns future reaction ordinary]
      simp only [Future.pledges, List.countP_append, List.countP_singleton, if_neg fails,
        Nat.add_zero]
    rw [same] at moved
    exact add_right_cancel moved
  · exact callSoon loop ordinary

/-- A future changes and keeps its reactions. -/
theorem modifyFuture (loop : Loop) (id : FutureId) {change : Future → Future}
    (keeps : ∀ about future, (change future).pledges about = future.pledges about) :
    loop.Still common { loop with futures := loop.futures.modify id change } :=
  of_ready [] (List.append_nil _).symm (fun _ member => nomatch member)
    (fun _ => pledged_modify_same (keeps _) rfl) (fun _ => Or.inl) (List.Subset.refl _)

/-- Changing what a task is doing keeps what waits still. -/
theorem setPhase (loop : Loop) (id : TaskId) (phase : TaskPhase) :
    loop.Still common (loop.setPhase id phase) :=
  of_eq rfl rfl (List.Subset.refl _) (List.Subset.refl _)

/-- Removing a task from the live ones keeps what waits still. -/
theorem retire (loop : Loop) (task : Task) : loop.Still common (loop.retire task) := by
  unfold Loop.retire
  split
  · exact refl loop
  · exact of_eq rfl rfl (List.Subset.refl _) (List.Subset.refl _)

/-- Taking the program out of a task keeps what waits still. -/
theorem beginPoll (loop : Loop) (id : TaskId) : loop.Still common (loop.beginPoll id).2 := by
  unfold Loop.beginPoll
  split
  · exact setPhase loop id _
  · exact refl loop

/-- Putting a program back into its task keeps what waits still. -/
theorem endPoll (loop : Loop) (id : TaskId) (activity : Script.Activity) :
    loop.Still common (loop.endPoll id activity).2 := by
  unfold Loop.endPoll
  split
  · exact setPhase loop id _
  · exact refl loop

/-- Completing a task keeps what waits still. -/
theorem complete (opened : loop.closed = false) (id : TaskId) (value : Value) :
    loop.Still common (loop.complete id value) := by
  unfold Loop.complete
  split
  · rename_i task _
    split
    · have retired : loop.Still common _ := (setPhase loop id .completed).trans (retire _ task)
      refine retired.trans (resolve ?_ _ _)
      unfold Loop.retire
      split
      · exact opened
      · exact opened
    · exact refl loop
  · exact refl loop

/-- Beginning to cancel a task keeps what waits still. -/
theorem beginCancel (loop : Loop) (id : TaskId) (task : Task) :
    loop.Still common (loop.beginCancel id task).2 :=
  (setPhase loop id _).trans (retire _ task)

/-- Collecting the timers that are due keeps what waits still, since what timers call is common. -/
theorem collectDue (aloof : loop.Aloof common) (now : Nat) : loop.Still common (loop.collectDue now) := by
  unfold Loop.collectDue Timers.takeDue
  simp only [List.span_eq_takeWhile_dropWhile]
  refine of_ready _ rfl (fun callback member => ?_) (fun _ => pledged_congr rfl)
    (fun entry member => Or.inl ((List.dropWhile_suffix _).subset member)) (List.Subset.refl _)
  simp only [List.mem_map, List.partition_eq_filter_filter, List.mem_filter] at member
  obtain ⟨entry, ⟨due, -⟩, rfl⟩ := member
  exact aloof.timers entry ((List.takeWhile_prefix _).subset due)

/-! ## Transitions with callbacks of the loop's own -/

section own

variable [Callback.Common common]

/-- Making a future, with a timeout or without, keeps what waits still. -/
theorem makeTimed (loop : Loop) (kind : FutureKind) (now : Nat) (timeout : Option Nat) :
    loop.Still common (loop.makeTimed kind now timeout).2 := by
  have pushed (start : Loop) (timer : Option TimerId) : start.Still common
      { start with futures := start.futures.push ⟨kind, .pending [] timer⟩ } :=
    of_ready [] (List.append_nil _).symm (fun _ member => nomatch member)
      (fun _ => pledged_push rfl rfl) (fun _ => Or.inl) (List.Subset.refl _)
  cases timeout with
  | none => exact pushed loop none
  | some delay => exact (callAt loop _ (Callback.Common.expire _)).trans (pushed _ _)

/-- Awaiting a future keeps what waits still. -/
theorem await (loop : Loop) (wait : Wait) (waker : Nat) :
    loop.Still common (loop.await wait waker).2 := by
  unfold Loop.await
  split
  · exact refl loop
  · split
    · exact of_eq rfl rfl (List.Subset.refl _) (List.Subset.refl _)
    · have pushed : loop.Still common { loop with cells := loop.cells.push waker } :=
        of_eq rfl rfl (List.Subset.refl _) (List.Subset.refl _)
      exact pushed.trans (whenDone _ _ (Callback.Common.wake _ _))

/-- Making a poll of a task ready keeps what waits still. -/
theorem schedule (loop : Loop) (id : TaskId) : loop.Still common (loop.schedule id) := by
  unfold Loop.schedule
  split
  · exact (setPhase loop id _).trans (callSoon _ (Callback.Common.step _))
  · exact refl loop

/-- Spawning a task keeps what waits still. -/
theorem spawn (opened : loop.closed = false) (name : String) (body : Script.Body) :
    loop.Still common (loop.spawn name body).2 := by
  have made : loop.Still common (loop.makeFuture .value).2 := makeTimed loop .value 0 none
  unfold Loop.spawn
  have still : (loop.makeFuture .value).2.closed = false := opened
  simp only [still, Bool.false_eq_true, if_false]
  refine made.trans (Still.trans ?_ (schedule _ _))
  exact of_eq rfl rfl (List.Subset.refl _) (List.Subset.refl _)

/-- Waking the live task with a number keeps what waits still. -/
theorem scheduleLive (loop : Loop) (slot : Nat) : loop.Still common (loop.scheduleLive slot) := by
  unfold Loop.scheduleLive
  split
  · exact schedule loop _
  · exact refl loop

/-- Waking live tasks one after another keeps what waits still. -/
theorem foldl_scheduleLive {start : Loop} (still : loop.Still common start) (slots : List Nat) :
    loop.Still common (slots.foldl Loop.scheduleLive start) := by
  induction slots generalizing start with
  | nil => exact still
  | cons slot rest ih => exact ih (still.trans (scheduleLive start slot))

/-- Taking over what other threads asked for keeps what waits still. -/
theorem collectRequests (aloof : loop.Aloof common) : loop.Still common loop.collectRequests := by
  rw [collectRequests_eq]
  refine foldl_scheduleLive ?_ loop.woken
  refine of_ready (if loop.closed then [] else loop.remote) rfl (fun callback member => ?_)
    (fun _ => pledged_congr rfl) (fun _ => Or.inl) (List.nil_subset _)
  split at member
  · cases member
  · exact aloof.remote callback member

/-- The first part of an iteration keeps what waits still. -/
theorem prepare (aloof : loop.Aloof common) (now : Nat) : loop.Still common (loop.prepare now).2 := by
  have collected := collectRequests aloof
  unfold Loop.prepare patience
  split
  · exact collected
  · refine collected.trans (of_eq rfl rfl ?_ (List.Subset.refl _))
    change loop.collectRequests.timers.splitCancelled.2 ⊆ _
    unfold Timers.splitCancelled
    rw [List.span_eq_takeWhile_dropWhile]
    exact (List.dropWhile_suffix _).subset

/-- The second part of an iteration keeps what waits still. -/
theorem gather (aloof : loop.Aloof common) (now : Nat) : loop.Still common (loop.gather now).2 := by
  have due := collectDue aloof now
  exact due.trans (collectRequests (due.aloof aloof))

end own

end Still

/-! ## Futures that are emptied -/

/-- When a future is emptied no reactions are lost but its own. -/
theorem replies_emptied (found : loop.futures.get? id = some future) (about : Reaction → Bool)
    (refs : List Ref) :
    ({ loop with futures := loop.futures.modify id Future.emptied }.drop refs).replies about +
      Multiset.replicate (future.pledges about) id = loop.replies about := by
  have moved := @pledged_modify about loop ({ loop with
    futures := loop.futures.modify id Future.emptied }.drop refs) id _ _ found rfl
  rw [Future.pledges_emptied, Multiset.replicate_zero, add_zero] at moved
  unfold replies
  rw [← moved, add_assoc]
  rfl

/-! ## Reactions that are registered -/

/-- A reaction that is registered waits. -/
theorem replies_whenDone (opened : loop.closed = false) (about : Reaction → Bool)
    (reaction : Reaction) :
    (loop.whenDone id reaction).replies about =
      loop.replies about + if about reaction then {id} else 0 := by
  have one (callbacks : List Callback) :
      ((callbacks ++ [Callback.done id reaction]).filterMap (·.replyTo? about) :
        Multiset FutureId) = (callbacks.filterMap (·.replyTo? about) : Multiset FutureId) +
          if about reaction then {id} else 0 := by
    rw [List.filterMap_append, ← Multiset.coe_add]
    congr 1
    cases holds : about reaction <;> simp [Callback.replyTo?, holds]
  rw [whenDone_eq]
  split
  · rename_i kind reactions timer found
    have moved := @pledged_modify about loop { loop with
      futures := loop.futures.modify id fun _ =>
        ⟨kind, .pending (reactions ++ [reaction]) timer⟩ } id _ _ found rfl
    have more : Multiset.replicate (Future.pledges about
        ⟨kind, .pending (reactions ++ [reaction]) timer⟩) id =
          Multiset.replicate (Future.pledges about ⟨kind, .pending reactions timer⟩) id +
            if about reaction then {id} else 0 := by
      simp only [Future.pledges, List.countP_append, Multiset.replicate_add]
      cases holds : about reaction <;> simp [holds]
    rw [more, ← add_assoc, add_right_comm] at moved
    unfold replies
    rw [add_right_cancel moved, add_assoc]
  · rw [callSoon_eq, opened, replies]
    simp only [Bool.false_eq_true, if_false]
    rw [one, add_right_comm]
    rfl

/-- A callback that becomes ready and is no reaction changes nothing about the replies. -/
theorem replies_callSoon (loop : Loop) {callback : Callback}
    (none : callback.replyTo? about = none) :
    (loop.callSoon callback).replies about = loop.replies about := by
  rw [callSoon_eq]
  unfold replies
  rw [List.filterMap_append]
  have nothing : (if loop.closed then [] else [callback]).filterMap (·.replyTo? about) = [] := by
    split
    · rfl
    · exact List.filterMap_cons_none none
  rw [nothing, List.append_nil]
  rfl

/-- What timers and other threads will call stays the same when a reaction is registered. -/
theorem Aloof.whenDone (aloof : loop.Aloof common) (id : FutureId) (reaction : Reaction) :
    (loop.whenDone id reaction).Aloof common := by
  rw [whenDone_eq]
  split
  · exact ⟨aloof.timers, aloof.remote⟩
  · rw [callSoon_eq]
    exact ⟨aloof.timers, aloof.remote⟩

/-- What timers and other threads will call stays the same when a callback becomes ready. -/
theorem Aloof.callSoon (aloof : loop.Aloof common) (callback : Callback) :
    (loop.callSoon callback).Aloof common := by
  rw [callSoon_eq]
  exact ⟨aloof.timers, aloof.remote⟩

end Loop

end EventLoop

import EventLoop.Proofs.Effect.Exposure
import EventLoop.Proofs.Timers
import Mathlib.Data.List.Nodup

/-!
# The timers of futures

A future that is made with a timeout has a timer until it is done. The timer is its own: its entry waits
until it is collected, it is not cancelled while the future is pending, and once the future is done, no
entry waits that would still be collected. Everything that the loop does apart from collecting entries
keeps it so.
-/
namespace EventLoop

/-- The timer that will cancel a future, while the future is pending. -/
def Future.timer? (future : Future) : Option TimerId :=
  match future.phase with
  | .pending _ timer => timer
  | .cancelled | .finished _ => none

/-- A callback that says that the time of a future is up does nothing else. -/
theorem Callback.expires?_eq_some {callback : Callback} {future : FutureId} :
    callback.expires? = some future ↔ callback = .expire future := by
  cases callback with
  | expire other => exact ⟨fun same => congrArg _ (Option.some.inj same), fun same => by cases same; rfl⟩
  | _ => exact ⟨nofun, nofun⟩

/-- A future that is done has no timer. -/
theorem Future.timer?_of_isDone {future : Future} (done : future.isDone = true) :
    future.timer? = none := by
  obtain ⟨kind, phase⟩ := future
  cases phase with
  | pending => cases done
  | cancelled | finished => rfl

/-- A future is as far as it was and has the timer that it had. -/
structure Future.Holds (future later : Future) : Prop where
  /-- The timer is the same. -/
  timer : later.timer? = future.timer?
  /-- It is done if it was. -/
  done : later.isDone = future.isDone

/-- So is a future whose outcome is moved out. -/
theorem Future.holds_take (future : Future) : future.Holds future.take.2 := by
  obtain ⟨kind, phase⟩ := future
  rcases phase with _ | _ | (_ | _)
  · exact ⟨rfl, rfl⟩
  · exact ⟨rfl, rfl⟩
  · exact ⟨rfl, rfl⟩
  · exact ⟨rfl, rfl⟩

/-- So is a future that is emptied. -/
theorem Future.holds_emptied (future : Future) : future.Holds future.emptied := by
  obtain ⟨kind, phase⟩ := future
  cases phase with
  | pending | cancelled | finished => exact ⟨rfl, rfl⟩

/-- So is a future with which a reaction is registered. -/
theorem Future.holds_registered (kind : FutureKind) (reactions more : List Reaction)
    (timer : Option TimerId) : Future.Holds ⟨kind, .pending reactions timer⟩ ⟨kind, .pending more timer⟩ :=
  ⟨rfl, rfl⟩

namespace Timers

variable {timers : Timers} {id : TimerId}

/-- Of a timer with an entry that waits, no other entry does. -/
theorem Sorted.eq_of_id (sorted : timers.Sorted) {first second : TimerEntry}
    (here : first ∈ timers.entries) (there : second ∈ timers.entries) (same : first.id = second.id) :
    first = second := List.inj_on_of_nodup_map sorted.nodup here there same

/-- The number of an entry is not new. -/
theorem Sorted.lt_size (sorted : timers.Sorted) {entry : TimerEntry} (waits : entry ∈ timers.entries) :
    entry.id < timers.table.size := by
  obtain ⟨timer, found, -⟩ := sorted.known entry waits
  exact Table.lt_size_of_get? found

/-- Whether a timer is cancelled is read off its entry in the table. -/
theorem isCancelled_eq {timer : Timer} (found : timers.table.get? id = some timer) :
    timers.isCancelled id = timer.cancelled := by
  unfold isCancelled
  rw [found]

/-- A timer is cancelled after it was cancelled, and the others are as they were. -/
theorem get?_cancel (timers : Timers) (id other : TimerId) : (timers.cancel id).table.get? other =
    if other = id then (timers.table.get? other).map fun timer => { timer with cancelled := true }
    else timers.table.get? other := Table.get?_modify timers.table id other _

/-- Cancelling a timer leaves the other ones as they are. -/
theorem isCancelled_cancel_of_ne (timers : Timers) {other : TimerId} (differ : other ≠ id) :
    (timers.cancel id).isCancelled other = timers.isCancelled other := by
  unfold isCancelled
  rw [get?_cancel, if_neg differ]

/-- A timer that exists is cancelled when it was cancelled. -/
theorem isCancelled_cancel_self {timer : Timer} (found : timers.table.get? id = some timer) :
    (timers.cancel id).isCancelled id = true := by
  unfold isCancelled
  rw [get?_cancel, if_pos rfl, found]
  rfl

end Timers

namespace Loop

variable {past : FutureId → Prop} {spare : TimerId → Prop} {loop before after : Loop}
variable {future : FutureId} {timer : TimerId}

/-- The timer that will cancel a future, while the future is pending. -/
def timer? (loop : Loop) (future : FutureId) : Option TimerId :=
  (loop.futures.get? future).bind Future.timer?

/-- When the time of a pending future is up. -/
def timeout? (loop : Loop) (future : FutureId) : Option Nat :=
  ((loop.timer? future).bind loop.timers.table.get?).map Timer.deadline

/-- A future that has a timer exists. -/
theorem lt_size_of_timer? (timed : loop.timer? future = some timer) : future < loop.futures.size := by
  obtain ⟨entry, found, -⟩ := Option.bind_eq_some_iff.mp timed
  exact Table.lt_size_of_get? found

/-- A future that is done has no timer. -/
theorem timer?_of_isDone (done : loop.isDone future = true) : loop.timer? future = none := by
  unfold isDone futureState at done
  unfold timer?
  cases found : loop.futures.get? future with
  | none => rfl
  | some entry =>
    rw [found] at done
    exact Future.timer?_of_isDone done

/-- What is stored for a future decides whether it has a timer. -/
theorem timer?_modify {entry : Future} (found : loop.futures.get? future = some entry)
    (change : Future → Future) (other : FutureId) :
    timer? { loop with futures := loop.futures.modify future change } other =
      if other = future then (change entry).timer? else loop.timer? other := by
  unfold timer?
  dsimp only
  rw [Table.get?_modify]
  split
  · rename_i same
    rw [same, found]
    rfl
  · rfl

/-- A future that is added has the timer that it is stored with. -/
theorem timer?_push (loop : Loop) (entry : Future) (other : FutureId) :
    timer? { loop with futures := loop.futures.push entry } other =
      if other = loop.futures.size then entry.timer? else loop.timer? other := by
  unfold timer?
  dsimp only
  rw [Table.get?_push]
  split
  · rfl
  · rfl

/-- The timers of futures are in order. `past` says of which futures the timers were collected, and `spare`
of which timers it is known that they are no future's. -/
structure Timed (past : FutureId → Prop) (spare : TimerId → Prop) (loop : Loop) : Prop where
  /-- The entries are in the order of their turns. -/
  sorted : loop.timers.Sorted
  /-- The timer of a pending future is not cancelled. -/
  live : ∀ {future timer}, loop.timer? future = some timer →
    ∃ entry, loop.timers.table.get? timer = some entry ∧ entry.cancelled = false
  /-- Its entry waits unless it was collected. -/
  waits : ∀ {future timer}, loop.timer? future = some timer → ¬ past future →
    ∃ entry ∈ loop.timers.entries, entry.id = timer ∧ entry.callback = .expire future
  /-- No entry of it waits if it was collected. -/
  gone : ∀ {future timer}, loop.timer? future = some timer → past future →
    ∀ entry ∈ loop.timers.entries, entry.id ≠ timer
  /-- Two pending futures have different timers. -/
  apart : ∀ {future other timer}, loop.timer? future = some timer → loop.timer? other = some timer →
    future = other
  /-- An entry that would say that the time of a future is up is that of its timer, or it is cancelled. -/
  bound : ∀ entry ∈ loop.timers.entries, ∀ future, entry.callback.expires? = some future →
    future < loop.futures.size ∧
      (loop.timers.isCancelled entry.id = false → loop.timer? future = some entry.id)
  /-- Only of futures whose timers were collected it is said that their time is up. -/
  ready : ∀ callback ∈ loop.ready, ∀ future, callback.expires? = some future → past future
  /-- No other thread says so. -/
  remote : ∀ callback ∈ loop.remote, callback.expires? = none
  /-- The futures whose timers were collected exist. -/
  known : ∀ {future}, past future → future < loop.futures.size
  /-- No pending future has a timer that is said to be no future's. -/
  spared : ∀ {timer}, spare timer → timer < loop.timers.table.size ∧
    ∀ future, loop.timer? future ≠ some timer

/-! ## Futures on the way -/

/-- Every future is done on the way from one loop to another, or it is as far as it was and has the timer
that it had. -/
def Settles (before after : Loop) : Prop :=
  ∀ future entry, before.futures.get? future = some entry →
    ∃ later, after.futures.get? future = some later ∧ (entry.Holds later ∨ later.isDone = true)

namespace Settles

/-- The same futures are as far as they were. -/
theorem of_eq (futures : after.futures = before.futures) : before.Settles after :=
  fun _ entry found => ⟨entry, futures ▸ found, Or.inl ⟨rfl, rfl⟩⟩

/-- What settles twice settles. -/
theorem trans {first second third : Loop} (one : first.Settles second) (other : second.Settles third) :
    first.Settles third := by
  intro future entry found
  obtain ⟨middle, here, before⟩ := one future entry found
  obtain ⟨later, there, after⟩ := other future middle here
  refine ⟨later, there, after.elim (fun holds => ?_) Or.inr⟩
  refine before.imp (fun held => ⟨holds.timer.trans held.timer, holds.done.trans held.done⟩) fun done => ?_
  exact holds.done.trans done

/-- A future that is added leaves the others as they are. -/
theorem push (loop : Loop) (entry : Future) :
    loop.Settles { loop with futures := loop.futures.push entry } := by
  intro future old found
  refine ⟨old, ?_, Or.inl ⟨rfl, rfl⟩⟩
  dsimp only
  rw [Table.get?_push, if_neg (Nat.ne_of_lt (Table.lt_size_of_get? found))]
  exact found

/-- Only one future changes. -/
theorem modify {entry : Future} (found : loop.futures.get? future = some entry)
    {change : Future → Future} (settles : entry.Holds (change entry) ∨ (change entry).isDone = true) :
    loop.Settles { loop with futures := loop.futures.modify future change } := by
  intro other old there
  dsimp only
  rw [Table.get?_modify]
  split
  · rename_i same
    subst same
    rw [found] at there ⊢
    cases there
    exact ⟨_, rfl, settles⟩
  · exact ⟨old, there, Or.inl ⟨rfl, rfl⟩⟩

/-- A future that is done stays so. -/
theorem isDone (settles : before.Settles after) (done : before.isDone future = true) :
    after.isDone future = true := by
  unfold Loop.isDone futureState at done ⊢
  cases found : before.futures.get? future with
  | none =>
    rw [found] at done
    cases done
  | some entry =>
    rw [found] at done
    obtain ⟨later, there, holds | finished⟩ := settles future entry found
    · rw [there]
      exact holds.done.trans done
    · rw [there]
      exact finished

/-- A future that has a timer has it until it is done. -/
theorem timer? (settles : before.Settles after) (has : before.timer? future = some timer) :
    after.timer? future = some timer ∨ after.isDone future = true := by
  obtain ⟨entry, found, timed⟩ := Option.bind_eq_some_iff.mp has
  obtain ⟨later, there, holds | finished⟩ := settles future entry found
  · exact Or.inl (Option.bind_eq_some_iff.mpr ⟨later, there, holds.timer.trans timed⟩)
  · refine Or.inr ?_
    unfold Loop.isDone futureState
    rw [there]
    exact finished

/-- A future that was there and has a timer has had it before. -/
theorem had (settles : before.Settles after) (known : future < before.futures.size)
    (has : after.timer? future = some timer) : before.timer? future = some timer := by
  obtain ⟨entry, found⟩ := Table.exists_get?_of_lt_size known
  obtain ⟨later, there, timed⟩ := Option.bind_eq_some_iff.mp has
  obtain ⟨now, here, holds | finished⟩ := settles future entry found
  · cases here.symm.trans there
    exact Option.bind_eq_some_iff.mpr ⟨entry, found, holds.timer.symm.trans timed⟩
  · cases here.symm.trans there
    rw [Future.timer?_of_isDone finished] at timed
    cases timed

end Settles

/-- The timers of futures stay in order on the way from one loop to another. -/
structure Tracks (before after : Loop) : Prop where
  /-- They stay in order. -/
  timed : ∀ (past : FutureId → Prop) (spare : TimerId → Prop), before.Timed past spare →
    after.Timed past spare
  /-- Futures have their timers until they are done. -/
  settles : before.Settles after

namespace Tracks

/-- The timers of futures stay in order when nothing happens. -/
theorem refl (loop : Loop) : loop.Tracks loop := ⟨fun _ _ timed => timed, .of_eq rfl⟩

/-- The timers of futures stay in order through one change after another. -/
theorem trans {first second third : Loop} (one : first.Tracks second) (other : second.Tracks third) :
    first.Tracks third :=
  ⟨fun past spare timed => other.timed past spare (one.timed past spare timed),
    one.settles.trans other.settles⟩

/-- Neither the timers nor which futures have timers changes, and nothing is made ready that says that the
time of a future is up: what other threads ask for does not. -/
theorem of_timers (timers : after.timers = before.timers) (settles : before.Settles after)
    (same : ∀ future, after.timer? future = before.timer? future)
    (size : before.futures.size ≤ after.futures.size)
    (ready : ∀ callback ∈ after.ready,
      callback ∈ before.ready ∨ callback ∈ before.remote ∨ callback.expires? = none)
    (remote : ∀ callback ∈ after.remote, callback ∈ before.remote ∨ callback.expires? = none) :
    before.Tracks after := by
  refine ⟨fun past spare timed => ?_, settles⟩
  refine ⟨timers ▸ timed.sorted, fun {future timer} has => ?_, fun {future timer} has fresh => ?_,
    fun {future timer} has gone => ?_, fun {future other timer} has too => ?_,
    fun entry waits future expires => ?_, fun callback member future expires => ?_,
    fun callback member => ?_, fun gone => Nat.lt_of_lt_of_le (timed.known gone) size,
    fun {timer} spared => ?_⟩
  · rw [same] at has
    rw [timers]
    exact timed.live has
  · rw [same] at has
    rw [timers]
    exact timed.waits has fresh
  · rw [same] at has
    rw [timers]
    exact timed.gone has gone
  · rw [same] at has too
    exact timed.apart has too
  · rw [timers] at waits
    obtain ⟨known, own⟩ := timed.bound entry waits future expires
    rw [timers, same]
    exact ⟨Nat.lt_of_lt_of_le known size, own⟩
  · refine (ready callback member).elim (fun old => timed.ready callback old future expires) fun new => ?_
    have none := new.elim (timed.remote callback) id
    rw [expires] at none
    cases none
  · exact (remote callback member).elim (timed.remote callback) id
  · obtain ⟨known, free⟩ := timed.spared spared
    rw [timers]
    exact ⟨known, fun future => same future ▸ free future⟩

/-- Neither the futures nor the timers change, and nothing becomes ready. -/
theorem of_eq (timers : after.timers = before.timers) (futures : after.futures = before.futures)
    (ready : after.ready = before.ready) (remote : after.remote = before.remote) :
    before.Tracks after := by
  refine of_timers timers (.of_eq futures) (fun future => ?_) (Nat.le_of_eq (by rw [futures]))
    (fun callback member => ?_) fun callback member => ?_
  · unfold timer?
    rw [futures]
  · exact Or.inl (ready ▸ member)
  · exact Or.inl (remote ▸ member)

/-- What else changes before it does not matter. -/
theorem since {middle : Loop} (tracks : middle.Tracks after) (timers : middle.timers = before.timers)
    (futures : middle.futures = before.futures) (ready : middle.ready = before.ready)
    (remote : middle.remote = before.remote) : before.Tracks after :=
  (of_eq timers futures ready remote).trans tracks

/-- A future that is stored has the timer that it had. -/
theorem modify {entry : Future} (found : before.futures.get? future = some entry)
    {change : Future → Future} (same : (change entry).timer? = entry.timer?)
    (settles : entry.Holds (change entry) ∨ (change entry).isDone = true) :
    before.Tracks { before with futures := before.futures.modify future change } := by
  refine of_timers rfl (.modify found settles) (fun other => ?_)
    (Nat.le_of_eq (Table.size_modify _ _ _).symm) (fun _ member => Or.inl member)
    fun _ member => Or.inl member
  rw [timer?_modify found]
  split
  · rename_i here
    unfold timer?
    rw [here, found, same]
    rfl
  · rfl

/-- Making a callback ready keeps the timers of futures in order, if the callback cancels no future. -/
theorem callSoon {callback : Callback} (lasting : callback.expires? = none) :
    loop.Tracks (loop.callSoon callback) := by
  rw [callSoon_eq]
  refine of_timers rfl (.of_eq rfl) (fun _ => rfl) (Nat.le_refl _) (fun other member => ?_)
    fun _ member => Or.inl member
  refine (List.mem_append.mp member).imp_right fun new => Or.inr ?_
  split at new
  · cases new
  · rw [List.mem_singleton.mp new]
    exact lasting

/-- A future that is added without a timer changes nothing. -/
theorem push (entry : Future) (untimed : entry.timer? = none) :
    loop.Tracks { loop with futures := loop.futures.push entry } := by
  refine of_timers rfl (.push loop entry) (fun other => ?_) ?_ (fun _ member => Or.inl member)
    fun _ member => Or.inl member
  · rw [timer?_push]
    split
    · rename_i last
      unfold timer?
      rw [last, Table.get?_eq_none (Nat.le_refl _), untimed]
      rfl
    · rfl
  · rw [Table.size_push]
    exact Nat.le_succ _

end Tracks

/-! ## Timers that are scheduled -/

/-- A timer that is scheduled is live, and the others are as they were. -/
theorem get?_schedule (timers : Timers) (deadline : Nat) (callback : Callback) (id : TimerId) :
    (timers.schedule deadline callback).2.table.get? id =
      if id = timers.table.size then some ⟨deadline, false⟩ else timers.table.get? id :=
  Table.get?_push timers.table _ id

namespace Timed

/-- A timer that is scheduled for something else is no future's. -/
theorem schedule (timed : loop.Timed past spare) (deadline : Nat) {callback : Callback}
    (lasting : callback.expires? = none) :
    Timed past spare { loop with timers := (loop.timers.schedule deadline callback).2 } := by
  have older {id : TimerId} {entry : Timer} (found : loop.timers.table.get? id = some entry) :
      (loop.timers.schedule deadline callback).2.table.get? id = some entry := by
    rw [get?_schedule, if_neg (Nat.ne_of_lt (Table.lt_size_of_get? found))]
    exact found
  refine { timed with
    sorted := timed.sorted.step (@Timers.Step.scheduled True loop.timers deadline callback)
    live := fun has => ?_, waits := fun has fresh => ?_, gone := fun has gone entry waits => ?_
    bound := fun entry waits future expires => ?_, spared := fun {id} spared => ?_ }
  · obtain ⟨entry, found, live⟩ := timed.live has
    exact ⟨entry, older found, live⟩
  · obtain ⟨entry, waits, own⟩ := timed.waits has fresh
    exact ⟨entry, Timers.mem_insertEntry.mpr (Or.inr waits), own⟩
  · rcases Timers.mem_insertEntry.mp waits with rfl | old
    · obtain ⟨known, found, -⟩ := timed.live has
      exact Nat.ne_of_gt (Table.lt_size_of_get? found)
    · exact timed.gone has gone entry old
  · rcases Timers.mem_insertEntry.mp waits with rfl | old
    · rw [lasting] at expires
      cases expires
    · obtain ⟨known, own⟩ := timed.bound entry old future expires
      refine ⟨known, fun uncancelled => own ?_⟩
      obtain ⟨kept, found, -⟩ := timed.sorted.known entry old
      rw [Timers.isCancelled_eq (older found)] at uncancelled
      rw [Timers.isCancelled_eq found, uncancelled]
  · obtain ⟨known, free⟩ := timed.spared spared
    refine ⟨?_, free⟩
    change id < (loop.timers.table.push _).size
    rw [Table.size_push]
    exact Nat.lt_succ_of_lt known

/-- A future that is made with a timeout gets a timer of its own. -/
theorem makeTimed (timed : loop.Timed past spare) (kind : FutureKind) (deadline : Nat) :
    Timed past spare { loop with
      futures := loop.futures.push ⟨kind, .pending [] (some loop.timers.table.size)⟩
      timers := (loop.timers.schedule deadline (.expire loop.futures.size)).2 } := by
  have fresh : ¬ past loop.futures.size := fun gone => Nat.lt_irrefl _ (timed.known gone)
  have last (future : FutureId) : timer? { loop with
      futures := loop.futures.push ⟨kind, .pending [] (some loop.timers.table.size)⟩
      timers := (loop.timers.schedule deadline (.expire loop.futures.size)).2 } future =
        if future = loop.futures.size then some loop.timers.table.size else loop.timer? future :=
    timer?_push loop _ future
  have older {id : TimerId} {entry : Timer} (found : loop.timers.table.get? id = some entry) :
      (loop.timers.schedule deadline (.expire loop.futures.size)).2.table.get? id = some entry := by
    rw [get?_schedule, if_neg (Nat.ne_of_lt (Table.lt_size_of_get? found))]
    exact found
  have below {future : FutureId} {timer : TimerId} (has : loop.timer? future = some timer) :
      timer < loop.timers.table.size := by
    obtain ⟨entry, found, -⟩ := timed.live has
    exact Table.lt_size_of_get? found
  exact {
    sorted := timed.sorted.step (@Timers.Step.scheduled True loop.timers deadline _)
    live := fun {future timer} has => by
      rw [last] at has
      split at has
      · cases has
        exact ⟨⟨deadline, false⟩, by rw [get?_schedule, if_pos rfl], rfl⟩
      · obtain ⟨entry, found, live⟩ := timed.live has
        exact ⟨entry, older found, live⟩
    waits := fun {future timer} has waits => by
      rw [last] at has
      split at has
      · rename_i new
        cases has
        exact ⟨_, Timers.mem_insertEntry.mpr (Or.inl rfl), rfl, new ▸ rfl⟩
      · obtain ⟨entry, here, own⟩ := timed.waits has waits
        exact ⟨entry, Timers.mem_insertEntry.mpr (Or.inr here), own⟩
    gone := fun {future timer} has gone entry waits => by
      rw [last] at has
      split at has
      · rename_i new
        exact absurd (new ▸ gone) fresh
      · rcases Timers.mem_insertEntry.mp waits with rfl | old
        · exact Nat.ne_of_gt (below has)
        · exact timed.gone has gone entry old
    apart := fun {future other timer} has too => by
      rw [last] at has too
      split at has
      · rename_i new
        split at too
        · rename_i same
          exact new.trans same.symm
        · cases has
          exact absurd (below too) (Nat.lt_irrefl _)
      · split at too
        · cases too
          exact absurd (below has) (Nat.lt_irrefl _)
        · exact timed.apart has too
    bound := fun entry waits future expires => by
      rw [last]
      rcases Timers.mem_insertEntry.mp waits with rfl | old
      · obtain rfl := Option.some.inj expires
        refine ⟨?_, fun _ => if_pos rfl⟩
        rw [Table.size_push]
        exact Nat.lt_succ_self _
      · obtain ⟨known, own⟩ := timed.bound entry old future expires
        refine ⟨?_, fun uncancelled => ?_⟩
        · rw [Table.size_push]
          exact Nat.lt_succ_of_lt known
        · rw [if_neg (Nat.ne_of_lt known)]
          obtain ⟨kept, found, -⟩ := timed.sorted.known entry old
          rw [Timers.isCancelled_eq (older found)] at uncancelled
          exact own (by rw [Timers.isCancelled_eq found, uncancelled])
    ready := timed.ready
    remote := timed.remote
    known := fun gone => by
      rw [Table.size_push]
      exact Nat.lt_succ_of_lt (timed.known gone)
    spared := fun {timer} spared => by
      obtain ⟨known, free⟩ := timed.spared spared
      refine ⟨?_, fun future => ?_⟩
      · change timer < (loop.timers.table.push _).size
        rw [Table.size_push]
        exact Nat.lt_succ_of_lt known
      · rw [last]
        split
        · intro same
          exact absurd known (Option.some.inj same ▸ Nat.lt_irrefl _)
        · exact free future
  }

/-- A timer that is no future's may be cancelled. -/
theorem cancelTimer (timed : loop.Timed past spare) (free : spare timer) :
    Timed past spare (loop.cancelTimer timer) := by
  have differ {future : FutureId} {other : TimerId} (has : loop.timer? future = some other) :
      other ≠ timer := by
    rintro rfl
    exact (timed.spared free).2 future has
  refine { timed with
    sorted := timed.sorted.step (@Timers.Step.cancelled True loop.timers timer)
    live := fun {future other} has => ?_, bound := fun entry waits future expires => ?_
    spared := fun {id} spared => ?_ }
  · obtain ⟨entry, found, live⟩ := timed.live has
    refine ⟨entry, ?_, live⟩
    change (loop.timers.cancel timer).table.get? other = _
    rw [Timers.get?_cancel, if_neg (differ has)]
    exact found
  · obtain ⟨known, own⟩ := timed.bound entry waits future expires
    refine ⟨known, fun uncancelled => own ?_⟩
    by_cases same : entry.id = timer
    · obtain ⟨kept, found, -⟩ := timed.sorted.known entry waits
      have gone := Timers.isCancelled_cancel_self found
      rw [same] at gone uncancelled
      exact absurd (gone.symm.trans uncancelled) Bool.noConfusion
    · exact (loop.timers.isCancelled_cancel_of_ne same).symm.trans uncancelled
  · obtain ⟨known, rest⟩ := timed.spared spared
    refine ⟨?_, rest⟩
    change id < (loop.timers.table.modify timer _).size
    rw [Table.size_modify]
    exact known

/-- A future that is resolved no longer has a timer, and the timer that it had is cancelled. -/
theorem settle (timed : loop.Timed past spare) (has : loop.timer? future = some timer) {entry : Future}
    (done : entry.timer? = none) : Timed past spare { loop with
      futures := loop.futures.modify future fun _ => entry, timers := loop.timers.cancel timer } := by
  obtain ⟨old, stored, -⟩ := Option.bind_eq_some_iff.mp has
  have left (other : FutureId) : timer? { loop with
      futures := loop.futures.modify future fun _ => entry, timers := loop.timers.cancel timer } other =
        if other = future then none else loop.timer? other := done ▸ timer?_modify stored _ other
  have keeps {other : FutureId} {id : TimerId} (has' : loop.timer? other = some id)
      (differ : other ≠ future) : id ≠ timer := by
    rintro rfl
    exact differ (timed.apart has' has)
  exact {
    sorted := timed.sorted.step (@Timers.Step.cancelled True loop.timers timer)
    live := fun {other id} has' => by
      rw [left] at has'
      split at has'
      · cases has'
      · rename_i differ
        obtain ⟨kept, found, live⟩ := timed.live has'
        refine ⟨kept, ?_, live⟩
        rw [Timers.get?_cancel, if_neg (keeps has' differ)]
        exact found
    waits := fun {other id} has' waits => by
      rw [left] at has'
      split at has'
      · cases has'
      · exact timed.waits has' waits
    gone := fun {other id} has' gone => by
      rw [left] at has'
      split at has'
      · cases has'
      · exact timed.gone has' gone
    apart := fun {other another id} has' too => by
      rw [left] at has' too
      split at has'
      · cases has'
      · split at too
        · cases too
        · exact timed.apart has' too
    bound := fun entry waits other expires => by
      rw [left, Table.size_modify]
      obtain ⟨known, own⟩ := timed.bound entry waits other expires
      refine ⟨known, fun uncancelled => ?_⟩
      by_cases same : entry.id = timer
      · obtain ⟨kept, found, -⟩ := timed.sorted.known entry waits
        have gone := Timers.isCancelled_cancel_self found
        rw [same] at gone uncancelled
        exact absurd (gone.symm.trans uncancelled) Bool.noConfusion
      · have owned := own ((loop.timers.isCancelled_cancel_of_ne same).symm.trans uncancelled)
        rw [if_neg, owned]
        rintro rfl
        exact same (Option.some.inj (owned.symm.trans has))
    ready := timed.ready
    remote := timed.remote
    known := fun gone => by
      rw [Table.size_modify]
      exact timed.known gone
    spared := fun {id} spared => by
      obtain ⟨known, free⟩ := timed.spared spared
      refine ⟨?_, fun other => ?_⟩
      · change id < (loop.timers.table.modify timer _).size
        rw [Table.size_modify]
        exact known
      · rw [left]
        split
        · exact nofun
        · exact free other
  }

/-- Entries may be removed whose timers were cancelled. -/
theorem passed (timed : loop.Timed past spare) :
    Timed past spare { loop with timers := loop.timers.next.2.2 } := by
  have fewer : loop.timers.next.2.2.entries ⊆ loop.timers.entries := by
    rw [Timers.snd_next]
    exact (List.dropWhile_sublist _).subset
  have same : loop.timers.next.2.2.table = loop.timers.table := by rw [Timers.snd_next]
  have flags (id : TimerId) : loop.timers.next.2.2.isCancelled id = loop.timers.isCancelled id := by
    rw [Timers.snd_next]
    rfl
  refine { timed with
    sorted := timed.sorted.step (@Timers.Step.passed True loop.timers)
    live := fun has => same ▸ timed.live has
    waits := fun {future timer} has fresh => ?_
    gone := fun has gone entry waits => timed.gone has gone entry (fewer waits)
    bound := fun entry waits future expires => flags entry.id ▸ timed.bound entry (fewer waits) future expires
    spared := fun spared => same ▸ timed.spared spared }
  obtain ⟨entry, waits, id, own⟩ := timed.waits has fresh
  obtain ⟨kept, found, live⟩ := timed.live has
  refine ⟨entry, ?_, id, own⟩
  refine (Timers.Bides.of_step (.passed loop.timers)).stays entry waits ?_
  rw [id, flags, Timers.isCancelled_eq found, live]

end Timed

namespace Tracks

/-! ## Transitions of an open loop -/

/-- Scheduling a callback for a time keeps the timers of futures in order, since the new timer is
nobody's. -/
theorem callAt (opened : loop.closed = false) (deadline : Nat) {callback : Callback}
    (lasting : callback.expires? = none) : loop.Tracks (loop.callAt deadline callback).2 := by
  refine ⟨fun past spare timed => ?_, by rw [callAt_eq]; exact .of_eq rfl⟩
  rw [callAt_eq, if_neg (ne_true_of_eq_false opened)]
  have given : Tracks { loop with timers := (loop.timers.schedule deadline callback).2 }
      { loop with
        timers := (loop.timers.schedule deadline callback).2
        dropped := loop.dropped ++ if loop.closed then callback.refs else [] } := of_eq rfl rfl rfl rfl
  exact given.timed past spare (timed.schedule deadline lasting)

/-- Making a future, with a timeout or without, keeps the timers in order: the new timer is that of the
new future. -/
theorem makeTimed (opened : loop.closed = false) (kind : FutureKind) (now : Nat) (timeout : Option Nat) :
    loop.Tracks (loop.makeTimed kind now timeout).2 := by
  rw [makeTimed_eq]
  cases timeout with
  | none => exact push _ rfl
  | some delay =>
    refine ⟨fun past spare timed => ?_, (Settles.push loop _).trans (.of_eq rfl)⟩
    dsimp only
    rw [if_neg (ne_true_of_eq_false opened)]
    exact timed.makeTimed kind (now + delay)

/-- Resolving a future keeps the timers in order: the timer of the future is cancelled with it. -/
theorem resolve (opened : loop.closed = false) (id : FutureId) (resolution : Resolution) :
    loop.Tracks (loop.resolve id resolution).2 := by
  rw [resolve_eq]
  split
  · rename_i kind reactions timer found
    rw [replaceFuture_eq, if_neg (ne_true_of_eq_false opened), if_neg (ne_true_of_eq_false opened)]
    have done : (⟨kind, Future.resolved resolution⟩ : Future).isDone = true := by
      cases resolution with
      | cancel | finish => rfl
    have none := Future.timer?_of_isDone done
    have becomes : Tracks { loop with
          futures := loop.futures.modify id fun _ => ⟨kind, Future.resolved resolution⟩
          timers := timer.elim loop.timers loop.timers.cancel }
        { loop with
          futures := loop.futures.modify id fun _ => ⟨kind, Future.resolved resolution⟩
          timers := timer.elim loop.timers loop.timers.cancel
          ready := loop.ready ++ reactions.map (.done id)
          dropped := loop.dropped ++ [] } := by
      refine of_timers rfl (.of_eq rfl) (fun _ => rfl) (Nat.le_refl _) (fun callback member => ?_)
        fun _ member => Or.inl member
      refine (List.mem_append.mp member).imp_right fun new => Or.inr ?_
      obtain ⟨reaction, -, rfl⟩ := List.mem_map.mp new
      rfl
    refine trans ?_ becomes
    cases timer with
    | none => exact modify found none (Or.inr done)
    | some timer =>
      refine ⟨fun past spare timed => ?_, (Settles.modify found (Or.inr done)).trans (.of_eq rfl)⟩
      exact timed.settle (Option.bind_eq_some_iff.mpr ⟨_, found, rfl⟩) none
  · exact refl loop

/-- Registering a reaction keeps the timers of futures in order. -/
theorem whenDone (loop : Loop) (id : FutureId) (reaction : Reaction) :
    loop.Tracks (loop.whenDone id reaction) := by
  rw [whenDone_eq]
  split
  · rename_i kind reactions timer found
    exact modify found rfl (Or.inl (Future.holds_registered kind reactions _ timer))
  · exact callSoon rfl

/-- Awaiting a future keeps the timers of futures in order. -/
theorem await (loop : Loop) (wait : Wait) (waker : Nat) : loop.Tracks (loop.await wait waker).2 := by
  unfold Loop.await
  split
  · exact refl loop
  · split
    · exact of_eq rfl rfl rfl rfl
    · exact (whenDone _ wait.future (.wake loop.cells.size)).since rfl rfl rfl rfl

/-- Making a poll of a task ready keeps the timers of futures in order. -/
theorem schedule (loop : Loop) (id : TaskId) : loop.Tracks (loop.schedule id) := by
  unfold Loop.schedule
  split
  · exact (callSoon rfl).since rfl rfl rfl rfl
  · exact refl loop

/-- Removing a task from the live ones keeps the timers of futures in order. -/
theorem retire (loop : Loop) (task : Task) : loop.Tracks (loop.retire task) := by
  unfold Loop.retire
  split
  · exact refl loop
  · exact of_eq rfl rfl rfl rfl

/-- Spawning a task keeps the timers of futures in order, since the result has no timeout. -/
theorem spawn (opened : loop.closed = false) (name : String) (body : Script.Body) :
    loop.Tracks (loop.spawn name body).2 := by
  unfold Loop.spawn makeFuture addFuture
  dsimp only
  split
  · rename_i closed
    rw [opened] at closed
    cases closed
  · exact (push (.new .value) rfl).trans ((schedule _ _).since rfl rfl rfl rfl)

/-- Taking the program out of a task keeps the timers of futures in order. -/
theorem beginPoll (loop : Loop) (id : TaskId) : loop.Tracks (loop.beginPoll id).2 := by
  unfold Loop.beginPoll
  split
  · exact of_eq rfl rfl rfl rfl
  · exact refl loop

/-- Putting a program back into its task keeps the timers of futures in order. -/
theorem endPoll (loop : Loop) (id : TaskId) (activity : Script.Activity) :
    loop.Tracks (loop.endPoll id activity).2 := by
  unfold Loop.endPoll
  split
  · exact of_eq rfl rfl rfl rfl
  · exact refl loop

/-- Beginning to cancel a task keeps the timers of futures in order. -/
theorem beginCancel (loop : Loop) (id : TaskId) (task : Task) :
    loop.Tracks (loop.beginCancel id task).2 :=
  (retire (loop.setPhase id .cancelled) task).since rfl rfl rfl rfl

/-- Completing a task keeps the timers of futures in order, since its result is resolved like any
future. -/
theorem complete (opened : loop.closed = false) (id : TaskId) (value : Value) :
    loop.Tracks (loop.complete id value) := by
  unfold Loop.complete
  split
  · rename_i task found
    split
    · have retired : Tracks (loop.setPhase id .completed) ((loop.setPhase id .completed).retire task) :=
        retire _ task
      have still : ((loop.setPhase id .completed).retire task).closed = false := by
        unfold Loop.retire
        split
        · exact opened
        · exact opened
      exact (retired.since rfl rfl rfl rfl : loop.Tracks _).trans (resolve still _ _)
    · exact refl loop
  · exact refl loop

/-- Waking the live task with a number keeps the timers of futures in order. -/
theorem scheduleLive (loop : Loop) (slot : Nat) : loop.Tracks (loop.scheduleLive slot) := by
  unfold Loop.scheduleLive
  split
  · exact schedule loop _
  · exact refl loop

/-- Waking live tasks one after another keeps the timers of futures in order. -/
theorem foldl_scheduleLive (loop : Loop) (slots : List Nat) :
    loop.Tracks (slots.foldl Loop.scheduleLive loop) := by
  induction slots generalizing loop with
  | nil => exact refl loop
  | cons slot rest ih => exact (scheduleLive loop slot).trans (ih (loop.scheduleLive slot))

/-- Taking over what other threads asked for keeps the timers of futures in order. -/
theorem collectRequests (loop : Loop) : loop.Tracks loop.collectRequests := by
  rw [collectRequests_eq]
  have taken : loop.Tracks { loop with
      ready := loop.ready ++ if loop.closed then [] else loop.remote
      dropped := loop.dropped ++ if loop.closed then loop.remote.flatMap Callback.refs else []
      remote := []
      remoteStop := false
      stopping := loop.stopping || loop.remoteStop
      woken := [] } := by
    refine of_timers rfl (.of_eq rfl) (fun _ => rfl) (Nat.le_refl _) (fun callback member => ?_)
      fun _ member => absurd member List.not_mem_nil
    refine (List.mem_append.mp member).imp_right fun new => Or.inl ?_
    split at new
    · cases new
    · exact new
  exact taken.trans (foldl_scheduleLive _ loop.woken)

/-- The first part of an iteration keeps the timers of futures in order. -/
theorem prepare (loop : Loop) (now : Nat) : loop.Tracks (loop.prepare now).2 := by
  have collected := collectRequests loop
  unfold Loop.prepare patience
  split
  · exact collected
  · refine collected.trans ⟨fun past spare timed => ?_, .of_eq rfl⟩
    have given : Tracks { loop.collectRequests with timers := loop.collectRequests.timers.next.2.2 }
        (Loop.drop { loop.collectRequests with timers := loop.collectRequests.timers.next.2.2 }
          (loop.collectRequests.timers.next.2.1.flatMap TimerEntry.refs)) := of_eq rfl rfl rfl rfl
    exact given.timed past spare timed.passed

/-- Taking the next ready callback keeps the timers of futures in order. -/
theorem takeReady (loop : Loop) : loop.Tracks loop.takeReady.2 := by
  unfold Loop.takeReady
  split
  · exact refl loop
  · rename_i first rest ready
    refine of_timers rfl (.of_eq rfl) (fun _ => rfl) (Nat.le_refl _) (fun callback member => ?_)
      fun _ member => Or.inl member
    exact Or.inl (ready ▸ List.mem_cons_of_mem first member)

end Tracks

/-! ## Timers that are collected -/

/-- A timer of a future was collected: its entry is among those that are due at a time. -/
def Lapses (loop : Loop) (now : Nat) (future : FutureId) : Prop :=
  ∃ entry ∈ loop.timers.due now, entry.callback = .expire future

/-- When the entries that are due are collected, the timers of some futures are. -/
theorem Timed.collectDue (timed : loop.Timed past spare) (now : Nat) :
    Timed (fun future => past future ∨ loop.Lapses now future) spare (loop.collectDue now) := by
  have table : (loop.collectDue now).timers.table = loop.timers.table := by
    change (loop.timers.takeDue now).2.2.table = _
    rw [Timers.snd_takeDue]
  have left : (loop.collectDue now).timers.entries =
      loop.timers.entries.dropWhile fun entry => entry.deadline ≤ now := by
    change (loop.timers.takeDue now).2.2.entries = _
    rw [Timers.snd_takeDue]
  have fewer : (loop.collectDue now).timers.entries ⊆ loop.timers.entries := by
    rw [left]
    exact (List.dropWhile_sublist _).subset
  have sorted : (loop.collectDue now).timers.Sorted :=
    timed.sorted.step (@Timers.Step.taken True loop.timers trivial now)
  have late := sorted.lt_deadline left
  have flags (id : TimerId) : (loop.collectDue now).timers.isCancelled id = loop.timers.isCancelled id := by
    unfold Timers.isCancelled
    rw [table]
  have due {entry : TimerEntry} (member : entry ∈ loop.timers.due now) :
      entry ∈ loop.timers.entries ∧ loop.timers.isCancelled entry.id = false ∧ entry.deadline ≤ now := by
    rw [timed.sorted.due_eq, List.mem_filter, Bool.and_eq_true, Bool.not_eq_true', decide_eq_true_iff] at member
    exact member
  have expires {callback : Callback} {future : FutureId} (same : callback = .expire future) :
      callback.expires? = some future := Callback.expires?_eq_some.mpr same
  exact {
    sorted := sorted
    live := fun has => table ▸ timed.live has
    waits := fun {future timer} has fresh => by
      obtain ⟨entry, waits, id, own⟩ := timed.waits has fun gone => fresh (Or.inl gone)
      obtain ⟨kept, found, live⟩ := timed.live has
      refine ⟨entry, ?_, id, own⟩
      have parted : loop.timers.entries.takeWhile (fun entry => entry.deadline ≤ now) ++
          loop.timers.entries.dropWhile (fun entry => entry.deadline ≤ now) = loop.timers.entries :=
        List.takeWhile_append_dropWhile
      rw [left]
      rw [← parted] at waits
      refine (List.mem_append.mp waits).resolve_left fun passed => fresh (Or.inr ⟨entry, ?_, own⟩)
      refine List.mem_filter.mpr ⟨passed, ?_⟩
      rw [id, Timers.isCancelled_eq found, live]
      rfl
    gone := fun {future timer} has gone entry waits => by
      rcases gone with old | ⟨other, member, own⟩
      · exact timed.gone has old entry (fewer waits)
      · obtain ⟨there, live, reached⟩ := due member
        have bound := (timed.bound other there future (expires own)).2 live
        intro same
        have id := Option.some.inj (bound.symm.trans has)
        obtain rfl := timed.sorted.eq_of_id there (fewer waits) (id.trans same.symm)
        exact absurd (late other waits) (Nat.not_lt.mpr reached)
    apart := timed.apart
    bound := fun entry waits future expired => by
      obtain ⟨known, own⟩ := timed.bound entry (fewer waits) future expired
      exact ⟨known, fun uncancelled => own (flags entry.id ▸ uncancelled)⟩
    ready := fun callback member future expired => by
      rw [ready_collectDue] at member
      refine (List.mem_append.mp member).imp (fun old => timed.ready callback old future expired) fun new => ?_
      obtain ⟨entry, due, rfl⟩ := List.mem_map.mp new
      exact ⟨entry, due, Callback.expires?_eq_some.mp expired⟩
    remote := timed.remote
    known := fun {future} gone => by
      rcases gone with old | ⟨other, member, own⟩
      · exact timed.known old
      · exact (timed.bound other (due member).1 future (expires own)).1
    spared := fun spared => table ▸ timed.spared spared
  }

/-- So they are when the callbacks of an iteration are gathered. -/
theorem Timed.gather (timed : loop.Timed past spare) (now : Nat) :
    Timed (fun future => past future ∨ loop.Lapses now future) spare (loop.gather now).2 :=
  (Tracks.collectRequests (loop.collectDue now)).timed _ _ (timed.collectDue now)

/-- Gathering callbacks leaves the futures alone. -/
theorem settles_gather (loop : Loop) (now : Nat) : loop.Settles (loop.gather now).2 :=
  (Settles.of_eq rfl).trans (Tracks.collectRequests (loop.collectDue now)).settles

/-- The timer that lapses is that of a pending future, and it is due. -/
theorem Timed.lapses (timed : loop.Timed past spare) {now : Nat} (lapses : loop.Lapses now future) :
    ∃ entry ∈ loop.timers.due now, entry.callback = .expire future ∧
      loop.timer? future = some entry.id ∧ entry.deadline ≤ now ∧
        loop.timeout? future = some entry.deadline := by
  obtain ⟨entry, due, own⟩ := lapses
  have member := due
  rw [timed.sorted.due_eq, List.mem_filter, Bool.and_eq_true, Bool.not_eq_true', decide_eq_true_iff] at member
  obtain ⟨waits, live, reached⟩ := member
  have has := (timed.bound entry waits future (Callback.expires?_eq_some.mpr own)).2 live
  obtain ⟨timer, found, same⟩ := timed.sorted.known entry waits
  refine ⟨entry, due, own, has, reached, ?_⟩
  unfold timeout?
  rw [has, Option.bind_some, found, Option.map_some, same]

/-! ## When time is up -/

/-- The time at which a future is cancelled is the deadline of its timer. -/
theorem timeout?_eq_some {deadline : Nat} : loop.timeout? future = some deadline ↔
    ∃ timer entry, loop.timer? future = some timer ∧ loop.timers.table.get? timer = some entry ∧
      entry.deadline = deadline := by
  unfold timeout?
  rw [Option.map_eq_some_iff]
  constructor
  · rintro ⟨entry, found, same⟩
    obtain ⟨timer, has, there⟩ := Option.bind_eq_some_iff.mp found
    exact ⟨timer, entry, has, there, same⟩
  · rintro ⟨timer, entry, has, there, same⟩
    exact ⟨entry, Option.bind_eq_some_iff.mpr ⟨timer, has, there⟩, same⟩

/-- As long as a future has its timer, its time is up when it was to be. -/
theorem timeout?_kept (abides : before.timers.Abides after.timers) {deadline : Nat}
    (timed : before.timeout? future = some deadline) (same : after.timer? future = before.timer? future) :
    after.timeout? future = some deadline := by
  obtain ⟨timer, entry, has, found, due⟩ := timeout?_eq_some.mp timed
  obtain ⟨later, there, kept, -⟩ := abides.kept found
  exact timeout?_eq_some.mpr ⟨timer, later, same.trans has, there, kept.trans due⟩

/-- A future that is made with a timeout has its time up after that time. -/
theorem timeout?_makeTimed (loop : Loop) (kind : FutureKind) (now delay : Nat) :
    (loop.makeTimed kind now (some delay)).2.timeout? (loop.makeTimed kind now (some delay)).1 =
      some (now + delay) := by
  rw [makeTimed_eq]
  refine timeout?_eq_some.mpr ⟨loop.timers.table.size, ⟨now + delay, loop.closed⟩, ?_, ?_, rfl⟩
  · exact (timer?_push loop _ _).trans (if_pos rfl)
  · dsimp only
    cases loop.closed with
    | true => exact (Table.get?_push _ _ _).trans (if_pos rfl)
    | false => exact (Table.get?_push _ _ _).trans (if_pos rfl)

/-- Without futures there are no timers of futures. -/
theorem timed_empty (futures : loop.futures = ∅) (timers : loop.timers = {}) (ready : loop.ready = [])
    (remote : loop.remote = []) (none : ∀ timer, ¬ spare timer) :
    loop.Timed (fun _ => False) spare := by
  have untimed (future : FutureId) (timer : TimerId) : loop.timer? future ≠ some timer := by
    intro has
    have known := lt_size_of_timer? has
    rw [futures] at known
    exact Nat.not_lt_zero future known
  have empty : loop.timers.entries = [] := by rw [timers]
  refine ⟨.of_empty empty, fun has => absurd has (untimed _ _), fun has => absurd has (untimed _ _),
    fun has => absurd has (untimed _ _), fun has => absurd has (untimed _ _), fun entry waits => ?_,
    fun callback member => ?_, fun callback member => ?_, False.elim, fun spared => absurd spared (none _)⟩
  · rw [empty] at waits
    cases waits
  · rw [ready] at member
    cases member
  · rw [remote] at member
    cases member

end Loop

end EventLoop

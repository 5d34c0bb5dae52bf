import EventLoop.Proofs.Machine.Deadlines
import EventLoop.Proofs.Machine.Reactions
import EventLoop.Proofs.Sync.Timeouts

/-!
# Timeouts keep time

A future that is made with a timeout is pending until its time is up, unless it is resolved before. In every
state of a run on an open loop the timers of futures are in order, so the timer of a pending future either
waits or its callback is ready; and a callback of a timer whose future was resolved in the meantime does
nothing.
-/
namespace EventLoop

open World (halting)

namespace World

variable {world : World}

/-- To store something under a name does not change when the time of a future is up, and its name is that of
what is stored. -/
theorem timeout?_store (kind : ObjectClass) (name : String) (id : Nat) (world : World) :
    (∀ future, (store kind name id world).2.loop.timeout? future = world.loop.timeout? future) ∧
      (store kind name id world).2.names.lookup (kind, name) = some id := by
  have forgotten (future : FutureId) :
      (forget kind name world).2.loop.timeout? future = world.loop.timeout? future := by
    unfold forget
    rw [StateM.bind_apply, StateM.get_apply]
    dsimp only
    cases world.names.lookup (kind, name) with
    | none => rfl
    | some id =>
      dsimp only
      rw [StateM.bind_apply]
      cases refOf kind id with
      | none | some ref => rfl
  refine ⟨forgotten, ?_⟩
  change List.lookup (kind, name) (((kind, name), id) :: _) = some id
  rw [List.lookup_cons, beq_self_eq_true]

/-- A place that is taken with a timeout has its time up after that time. -/
theorem timeout?_park (gate : Gate) (delay : Nat) (world : World) :
    (park gate (some delay) world).2.loop.timeout? (park gate (some delay) world).1 =
      some (world.host.kernel.now + delay) := by
  rw [loop_park]
  exact Loop.timeout?_makeTimed world.loop .unit world.host.kernel.now delay

end World

namespace Machine

variable {machine after later earlier counted : Machine} {past : FutureId → Prop} {future : FutureId}
variable {deadline : Nat}

/-! ## The timers of futures in a run -/

/-- The timers of futures are in order in a state of a run. -/
structure Clocked (past : FutureId → Prop) (machine : Machine) : Prop where
  /-- They are in order in the world. -/
  timed : machine.world.Timed past
  /-- Once the timer of a future that is still pending was collected, its callback is ready or called. -/
  waits : ∀ {future timer}, machine.world.loop.timer? future = some timer → past future →
    .expire future ∈ machine.world.loop.ready ∨ machine.signal = .call (.expire future)
  /-- Only a timer that was collected has its callback called. -/
  called : ∀ {future}, machine.signal = .call (.expire future) → past future
  /-- Only a timer that was due was collected. -/
  late : ∀ {future deadline}, past future → machine.world.loop.timeout? future = some deadline →
    deadline ≤ machine.world.host.kernel.now

/-- Collecting timers leaves the futures alone. -/
theorem Collects.timer? {point : World} (collects : Collects machine after point) (future : FutureId) :
    after.world.loop.timer? future = point.loop.timer? future := by
  unfold Loop.timer?
  rw [collects.gathered]
  dsimp only
  rw [Loop.futures_gather]

/-- Nor does it change when the time of a future is up. -/
theorem Collects.timeout? {point : World} (collects : Collects machine after point) (future : FutureId) :
    after.world.loop.timeout? future = point.loop.timeout? future := by
  unfold Loop.timeout?
  rw [collects.timer?, collects.timers, Timers.snd_takeDue]

/-- Every future is done after a step on an open loop, or it is as far as it was. -/
theorem Visits.settles (visits : Visits IsOpen machine) (step : Step machine after) (fine : after.IsOpen) :
    machine.world.loop.Settles after.world.loop := by
  rcases visits.reachable.sound.collectsOnce step fine (visits.minds fun _ => id) with
    waits | ⟨point, collects, waits⟩
  · exact waits.tracks.settles fine
  · refine (waits.tracks.settles (collects.opened fine)).trans ?_
    rw [collects.gathered]
    exact point.loop.settles_gather point.host.kernel.now

/-- The same holds of all the steps of a run on an open loop. -/
theorem Onward.settles (onward : Onward IsOpen machine after) (visits : Visits IsOpen machine) :
    machine.world.loop.Settles after.world.loop := by
  induction onward with
  | refl => exact .of_eq rfl
  | tail earlier last ih => exact ih.trans ((visits.onward earlier).settles last.1 last.2)

/-- As long as a future has its timer, its time is up when it was to be. -/
theorem Onward.timeout? (onward : Onward IsOpen machine after) (visits : Visits IsOpen machine)
    (timed : machine.world.loop.timeout? future = some deadline) :
    after.world.loop.isDone future = true ∨ after.world.loop.timeout? future = some deadline := by
  obtain ⟨timer, -, has, -, -⟩ := Loop.timeout?_eq_some.mp timed
  rcases (onward.settles visits).timer? has with same | done
  · exact Or.inr (Loop.timeout?_kept (.of_steps (onward.ages visits).steps) timed (same.trans has.symm))
  · exact Or.inl done

/-- If the time of a future is up, the future is cancelled. -/
theorem Expires.loop (expires : machine.Expires future) (step : Step machine after) :
    after.world.loop = (machine.world.loop.resolve future .cancel).2 := by
  rw [expires.world step]
  rfl

/-- A future that is pending when its time is up is cancelled afterwards. -/
theorem Expires.cancelled (expires : machine.Expires future)
    (known : future < machine.world.loop.futures.size) (pending : machine.world.loop.isDone future = false)
    (step : Step machine after) : after.world.loop.futureState future = .cancelled := by
  obtain ⟨⟨kind, phase⟩, found⟩ := Table.exists_get?_of_lt_size known
  rw [expires.loop step, Loop.resolve_eq, found]
  unfold Loop.isDone Loop.futureState at pending
  rw [found] at pending
  cases phase with
  | cancelled | finished => cases pending
  | pending reactions timer =>
    dsimp only
    rw [Loop.replaceFuture_eq]
    unfold Loop.futureState
    dsimp only
    rw [Table.get?_modify_self, found]
    rfl

/-- A future is done when its time was up. -/
theorem Expires.isDone (expires : machine.Expires future)
    (known : future < machine.world.loop.futures.size) (step : Step machine after) :
    after.world.loop.isDone future = true := by
  have resolved := Loop.isResolved_resolve machine.world.loop future .cancel
  have grows := Loop.Grows.resolve machine.world.loop future .cancel
  obtain ⟨entry, found⟩ := Table.exists_get?_of_lt_size (Nat.lt_of_lt_of_le known grows.futures)
  rw [expires.loop step]
  unfold Loop.isDone Loop.futureState
  rw [found]
  exact resolved entry found

/-- If a future is done already, nothing happens in the loop when its time is up. -/
theorem Expires.unchanged (expires : machine.Expires future)
    (done : machine.world.loop.isDone future = true) (step : Step machine after) :
    after.world.loop = machine.world.loop := by
  rw [expires.loop step]
  unfold Loop.isDone Loop.futureState at done
  cases found : machine.world.loop.futures.get? future with
  | none =>
    rw [found] at done
    cases done
  | some entry =>
    rw [found] at done
    rw [Loop.resolve_done found done]

/-- What is called is called by the next step. -/
theorem Visits.expires {sort : Machine → Prop} (visits : Visits sort machine)
    (called : machine.signal = .call (.expire future)) : machine.Expires future :=
  ⟨(visits.reachable.sound.call _ called).1, called⟩

namespace Clocked

/-- A loop that was just built has no futures with timers. -/
theorem initial (initial : Initial machine) (fine : machine.IsOpen) :
    machine.Clocked fun _ => False := by
  obtain ⟨-, signal, bare, ⟨host, settings, completer, -⟩, settled, course⟩ := initial.course
  have empty : ({ host, settings, completer } : World).Timed fun _ => False :=
    Loop.timed_empty rfl rfl rfl rfl fun timer named => by
      obtain ⟨name, member⟩ := named
      cases member
  have waits := World.Course.uncollected course settled (by decide)
  refine ⟨waits.tracks.timed fine _ empty, fun _ => False.elim, fun called => ?_, False.elim⟩
  rw [signal] at called
  cases called

/-- A future whose callback is ready or called and that is pending after a step has it ready or called
afterwards. -/
theorem goes_on (clocked : machine.Clocked past) (visits : Visits IsOpen machine)
    (step : Step machine after) (fine : after.IsOpen) (gone : past future) {timer : TimerId}
    (has : after.world.loop.timer? future = some timer) :
    .expire future ∈ after.world.loop.ready ∨ after.signal = .call (.expire future) := by
  have known : future < machine.world.loop.futures.size := Loop.Timed.known clocked.timed gone
  have had := (visits.settles step fine).had known has
  rcases clocked.waits had gone with ready | called
  · exact (visits.goes (fun _ => id) step fine).queues.waits ready
  · rw [Loop.timer?_of_isDone ((visits.expires called).isDone known step)] at has
    cases has

/-- Each step keeps the timers in order; timers are collected in it only if their futures are pending
afterwards. -/
theorem step (clocked : machine.Clocked past) (visits : Visits IsOpen machine)
    (step : Step machine after) (fine : after.IsOpen) : ∃ later : FutureId → Prop, after.Clocked later ∧
      (∀ future, past future → later future) ∧
        ∀ future, later future → past future ∨ ∃ timer, after.world.loop.timer? future = some timer := by
  have now := Reachable.now visits.reachable step
  have settles := visits.settles step fine
  have ages := Reachable.ages visits.reachable step
  have queues := (visits.goes (fun _ => id) step fine).queues
  have called {future : FutureId} (called : after.signal = .call (.expire future)) : past future := by
    cases queues with
    | appends new ready idle =>
      rw [hand_of_called called] at idle
      cases idle
    | takes callback ready hand =>
      rw [hand_of_called called] at hand
      cases hand
      exact Loop.Timed.ready clocked.timed _ (ready ▸ List.mem_cons_self) future rfl
  have late {future : FutureId} {deadline : Nat} (gone : past future)
      (timed : after.world.loop.timeout? future = some deadline) :
      deadline ≤ after.world.host.kernel.now := by
    obtain ⟨timer, entry, has, found, due⟩ := Loop.timeout?_eq_some.mp timed
    have had := settles.had (Loop.Timed.known clocked.timed gone) has
    obtain ⟨before, there, -⟩ := Loop.Timed.live clocked.timed had
    obtain ⟨later, here, same, -⟩ := (Timers.Abides.of_steps ages.steps).kept there
    cases here.symm.trans found
    have reached := clocked.late gone (Loop.timeout?_eq_some.mpr ⟨timer, before, had, there, rfl⟩)
    exact Nat.le_trans (due ▸ same ▸ reached) now
  rcases visits.reachable.sound.collectsOnce step fine (visits.minds fun _ => id) with
    waits | ⟨point, collects, waits⟩
  · exact ⟨past, ⟨waits.tracks.timed fine past clocked.timed,
      fun has gone => clocked.goes_on visits step fine gone has, called, late⟩,
      fun _ gone => gone, fun _ => Or.inl⟩
  · have opened := collects.opened fine
    have timed : point.Timed past := waits.tracks.timed opened past clocked.timed
    obtain ⟨early, behind, -, ready⟩ := collects.ready_eq fine
    refine ⟨fun future => past future ∨ point.loop.Lapses point.host.kernel.now future,
      ⟨?_, fun {future timer} has gone => ?_, fun member => Or.inl (called member),
        fun {future deadline} gone due => ?_⟩, fun _ => Or.inl, fun future gone => ?_⟩
    · rw [collects.gathered]
      exact Loop.Timed.gather timed point.host.kernel.now
    · rcases gone with old | ⟨entry, due, own⟩
      · exact clocked.goes_on visits step fine old has
      · refine Or.inl (ready ▸ List.mem_append_left _ (List.mem_append_right _ ?_))
        exact List.mem_map.mpr ⟨entry, due, own⟩
    · rcases gone with old | lapses
      · exact late old due
      · obtain ⟨entry, -, -, -, reached, up⟩ := timed.lapses lapses
        rw [collects.timeout?, up] at due
        cases due
        rw [collects.gathered]
        exact reached
    · refine gone.imp_right fun lapses => ?_
      obtain ⟨entry, -, -, has, -⟩ := timed.lapses lapses
      exact ⟨entry.id, (collects.timer? future).trans has⟩

/-- A future that is done and whose callback neither is ready nor is called is none that time is said to be
up for. -/
theorem disarmed (clocked : machine.Clocked past) (done : machine.world.loop.isDone future = true)
    (absent : .expire future ∉ machine.world.loop.ready) (uncalled : machine.signal ≠ .call (.expire future)) :
    machine.Clocked fun other => past other ∧ other ≠ future := by
  have untimed {timer : TimerId} : machine.world.loop.timer? future ≠ some timer := by
    rw [Loop.timer?_of_isDone done]
    exact nofun
  have timed := clocked.timed
  refine ⟨{ timed with
      waits := fun {other timer} has fresh => ?_, gone := fun has gone => Loop.Timed.gone timed has gone.1
      ready := fun callback ready other expires => ⟨Loop.Timed.ready timed callback ready other expires, ?_⟩
      known := fun gone => Loop.Timed.known timed gone.1 },
    fun has gone => clocked.waits has gone.1, fun called => ⟨clocked.called called, ?_⟩,
    fun gone => clocked.late gone.1⟩
  · refine Loop.Timed.waits timed has fun gone => fresh ⟨gone, ?_⟩
    rintro rfl
    exact untimed has
  · rintro rfl
    exact absent (Callback.expires?_eq_some.mp expires ▸ ready)
  · rintro rfl
    exact uncalled called

/-- What becomes of the timers of futures on the way to a later state. -/
structure Advances (past later : FutureId → Prop) (machine after : Machine) : Prop where
  /-- They are in order. -/
  clocked : after.Clocked later
  /-- The timer of a future that was done is not collected any more. -/
  done : ∀ {future}, machine.world.loop.isDone future = true → later future → past future
  /-- Only a timer that was due was collected. -/
  late : ∀ {future deadline}, machine.world.loop.timeout? future = some deadline → later future →
    deadline ≤ after.world.host.kernel.now

/-- In every run on an open loop the timers of futures stay in order. -/
theorem onward (clocked : machine.Clocked past) (visits : Visits IsOpen machine)
    (onward : Onward IsOpen machine after) :
    ∃ later, Advances past later machine after := by
  induction onward with
  | refl => exact ⟨past, clocked, fun _ gone => gone, fun timed gone => clocked.late gone timed⟩
  | @tail before after earlier last ih =>
    obtain ⟨middle, advances⟩ := ih
    have reached := visits.onward earlier
    have further : Onward IsOpen machine after := earlier.tail last
    obtain ⟨later, clocked, -, fresh⟩ := advances.clocked.step reached last.1 last.2
    refine ⟨later, clocked, fun {future} done gone => ?_, fun {future deadline} timed gone => ?_⟩
    · refine (fresh future gone).elim (advances.done done) fun ⟨timer, has⟩ => ?_
      rw [Loop.timer?_of_isDone ((further.settles visits).isDone done)] at has
      cases has
    · rcases fresh future gone with old | ⟨timer, has⟩
      · exact Nat.le_trans (advances.late timed old) (Reachable.now reached.reachable last.1)
      · refine clocked.late gone ((further.timeout? visits timed).resolve_left fun done => ?_)
        rw [Loop.timer?_of_isDone done] at has
        cases has

end Clocked

/-- In every state of a run on an open loop the timers of futures are in order. -/
theorem Visits.clocked (visits : Visits IsOpen machine) : ∃ past, machine.Clocked past := by
  induction visits with
  | initial initial fine => exact ⟨_, .initial initial fine⟩
  | step earlier step fine ih =>
    obtain ⟨past, clocked⟩ := ih
    obtain ⟨later, clocked, -⟩ := clocked.step earlier step fine
    exact ⟨later, clocked⟩

/-! ## Callbacks that an iteration has started -/

variable {sort : Machine → Prop} {first last before : Machine} {appended started : List Callback}
variable {callback : Callback} {lower : List Frame}

/-- A callback that was started was called on the way. -/
theorem Traces.exists_called (traces : Traces sort first appended started last)
    (member : callback ∈ started) :
    ∃ called, Onward sort first called ∧ called.signal = .call callback ∧ Onward sort called last := by
  induction traces with
  | refl => cases member
  | @step appended started before after earlier step fine ih =>
    rcases List.mem_append.mp member with old | new
    · obtain ⟨called, before, signal, behind⟩ := ih old
      exact ⟨called, before, signal, behind.tail ⟨step, fine⟩⟩
    · refine ⟨after, earlier.onward.tail ⟨step, fine⟩, called_of_hand ?_, .refl⟩
      exact Option.mem_toList.mp new

/-- A state from which a run goes on has a step that it goes on with. -/
theorem Onward.exists_step (onward : Onward sort first before) (step : Step before after)
    (fine : sort after) : ∃ next, Step first next ∧ sort next ∧ Onward sort next after := by
  obtain ⟨next, head, behind⟩ := Relation.TransGen.head'_iff.mp (.tail' onward ⟨step, fine⟩)
  exact ⟨next, head.1, head.2, behind⟩

/-- Unless an iteration is under way that has begun, each callback was run that was ready when it began. -/
theorem Traces.runs_or (traces : Traces IsOpen first appended started last) (visits : Visits IsOpen first)
    (stages : first.stages = .iteration first.world.loop.ready.length :: lower)
    (ready : callback ∈ first.world.loop.ready) :
    Lasts False lower first.world.loop.ready.length started.length last ∨
      ∃ called after, Onward IsOpen first called ∧ called.signal = .call callback ∧
        Step called after ∧ after.IsOpen ∧ Onward IsOpen after last := by
  induction traces with
  | refl => exact Or.inl (lasts_counting False stages)
  | @step appended started before after earlier step fine ih =>
    rcases ih with lasts | ⟨called, next, onward, signal, runs, opened, behind⟩
    · rw [List.length_append]
      have goes := (visits.onward earlier.onward).goes (fun _ => id) step fine
      refine (lasts.step goes fun asked => asked.elim).imp_right fun ends => ?_
      have all := (ends.2.starts (earlier.order visits fun _ => id)).1
      obtain ⟨called, onward, signal, behind⟩ := earlier.exists_called (all.subset ready)
      obtain ⟨next, runs, opened, further⟩ := behind.exists_step step fine
      exact ⟨called, next, onward, signal, runs, opened, further⟩
    · exact Or.inr ⟨called, next, onward, signal, runs, opened, behind.tail ⟨step, fine⟩⟩

/-! ## Timeouts that are kept -/

/-- The timeout of a future that is pending is kept. -/
structure KeepsTimeout (future : FutureId) (deadline : Nat) (machine : Machine) : Prop where
  /-- Until the future is done, its time is up when it was to be. -/
  stays : ∀ {later}, Onward IsOpen machine later →
    later.world.loop.isDone future = true ∨ later.world.loop.timeout? future = some deadline
  /-- Its timer says nothing before that time. -/
  punctual : ∀ {later}, Onward IsOpen machine later → later.Expires future →
    deadline ≤ later.world.host.kernel.now
  /-- If the future is pending when its timer says that its time is up, it is cancelled, and what is to be
  done then becomes ready once. -/
  cancels : ∀ {later after kind reactions timer}, Onward IsOpen machine later → later.Expires future →
    later.world.loop.futures.get? future = some ⟨kind, .pending reactions timer⟩ → Step later after →
      after.IsOpen → after.world.loop.futureState future = .cancelled ∧
        after.world.loop.ready = later.world.loop.ready ++ reactions.map (.done future)
  /-- If it is done already, nothing happens in the loop: the future stays as it is, and no callback becomes
  ready. -/
  settled : ∀ {later after}, Onward IsOpen machine later → later.Expires future →
    later.world.loop.isDone future = true → Step later after → after.world.loop = later.world.loop
  /-- If it was done before its timer was collected, its timer says nothing at all. -/
  disarmed : ∀ {done later}, Onward IsOpen machine done → done.world.loop.isDone future = true →
    .expire future ∉ done.world.loop.ready → done.signal ≠ .call (.expire future) →
      Onward IsOpen done later → ¬ later.Expires future
  /-- If an iteration begins at a time that is not before its time and the future is pending then, its timer
  says so before the iteration is over. The future was done before that and is as far as it was then, or it is
  cancelled. -/
  collects : ∀ {earlier counted later}, Onward IsOpen machine earlier → Step earlier counted →
    counted.IsOpen → BeginsIteration earlier counted → deadline ≤ counted.world.host.kernel.now →
      counted.world.loop.isDone future = false → Onward IsOpen counted later →
        (∃ upper left, later.stages = upper ++ .iteration left :: earlier.stages) ∨
          ∃ called after, Onward IsOpen counted called ∧ called.Expires future ∧ Step called after ∧
            after.IsOpen ∧ Onward IsOpen after later ∧ later.world.loop.isDone future = true ∧
              later.world.loop.futureState future =
                if called.world.loop.isDone future then called.world.loop.futureState future
                else .cancelled

/-- A future that is done is as far as it was in every later state. -/
theorem Onward.futureState_eq (onward : Onward IsOpen machine after) (visits : Visits IsOpen machine)
    (done : machine.world.loop.isDone future = true) :
    after.world.loop.futureState future = machine.world.loop.futureState future := by
  unfold Loop.isDone Loop.futureState at done
  unfold Loop.futureState
  cases found : machine.world.loop.futures.get? future with
  | none =>
    rw [found] at done
    cases done
  | some entry =>
    rw [found] at done
    obtain ⟨later, there, remains⟩ := onward.remains visits found done
    rw [there]
    exact remains.state

/-- If the time of a pending future was up when an iteration began, its callback was ready. -/
theorem Clocked.ready_of_begins (clocked : counted.Clocked past) (visits : Visits IsOpen earlier)
    (step : Step earlier counted) (fine : counted.IsOpen) (begins : BeginsIteration earlier counted)
    (timed : counted.world.loop.timeout? future = some deadline)
    (late : deadline ≤ counted.world.host.kernel.now) : .expire future ∈ counted.world.loop.ready := by
  obtain ⟨timer, entry, has, found, due⟩ := Loop.timeout?_eq_some.mp timed
  have goes := visits.goes (fun _ => id) step fine
  have gone : past future := by
    by_contra fresh
    obtain ⟨waiting, waits, rfl, -⟩ := Loop.Timed.waits clocked.timed has fresh
    have sorted := timers_sorted (Visits.step visits step fine).reachable
    obtain ⟨known, there, same⟩ := sorted.known waiting waits
    cases found.symm.trans there
    exact absurd (goes.lt_deadline begins sorted waiting waits) (by omega)
  refine (clocked.waits has gone).resolve_right fun called => ?_
  have idle := goes.hand_counting begins
  rw [hand_of_called called] at idle
  cases idle

/-- The timeout of every pending future is kept. -/
theorem Visits.keepsTimeout (visits : Visits IsOpen machine)
    (timed : machine.world.loop.timeout? future = some deadline) : machine.KeepsTimeout future deadline := by
  obtain ⟨past, clocked⟩ := visits.clocked
  obtain ⟨timer, -, has, -, -⟩ := Loop.timeout?_eq_some.mp timed
  have known {later : Machine} (onward : Onward IsOpen machine later) :
      future < later.world.loop.futures.size := by
    obtain ⟨entry, found⟩ := Table.exists_get?_of_lt_size (Loop.lt_size_of_timer? has)
    obtain ⟨later, there, -⟩ := onward.settles visits future entry found
    exact Table.lt_size_of_get? there
  refine ⟨fun onward => onward.timeout? visits timed, fun onward expires => ?_,
    fun onward expires found step fine => ⟨?_, ?_⟩, fun _ expires done step => expires.unchanged done step,
    fun before done absent uncalled behind expires => ?_,
    fun {earlier counted later} before step fine begins reached pending onward => ?_⟩
  · obtain ⟨later, advances⟩ := clocked.onward visits onward
    exact advances.late timed (advances.clocked.called expires.called)
  · refine expires.cancelled (known onward) ?_ step
    unfold Loop.isDone Loop.futureState
    rw [found]
    rfl
  · rw [expires.loop step, Loop.resolve_eq, found]
    dsimp only
    rw [Loop.replaceFuture_eq, if_neg (ne_true_of_eq_false (visits.onward onward).fine)]
  · obtain ⟨middle, advances⟩ := clocked.onward visits before
    have fresh := advances.clocked.disarmed done absent uncalled
    obtain ⟨after, further⟩ := fresh.onward (visits.onward before) behind
    exact (further.done done (further.clocked.called expires.called)).2 rfl
  · have way : Onward IsOpen machine counted := before.tail ⟨step, fine⟩
    have there := visits.onward way
    obtain ⟨middle, advances⟩ := clocked.onward visits way
    have still := (way.timeout? visits timed).resolve_left (ne_true_of_eq_false pending)
    have ready := advances.clocked.ready_of_begins (visits.onward before) step fine begins still reached
    obtain ⟨appended, started, traces⟩ := onward.traces
    refine (traces.runs_or there begins ready).imp (fun lasts => ?_) ?_
    · obtain ⟨upper, left, stages, -⟩ := lasts.left
      exact ⟨upper, left, stages⟩
    · rintro ⟨called, after, between, signal, runs, opened, behind⟩
      have here := there.onward between
      have expires := here.expires signal
      have size := known (way.trans between)
      have done := expires.isDone size runs
      have next : Visits IsOpen after := .step here runs opened
      refine ⟨called, after, between, expires, runs, opened, behind, (behind.settles next).isDone done, ?_⟩
      rw [behind.futureState_eq next done]
      split
      · rename_i earlier
        exact Onward.futureState_eq (.single ⟨runs, opened⟩) here earlier
      · rename_i pending
        exact expires.cancelled size (eq_false_of_ne_true pending) runs

/-- A future that is made with a timeout has its time up after that time. -/
theorem Calls.timeout? {name : String} {kind : FutureKind} {delay : Nat}
    (calls : Calls (.future (.make name kind (some delay))) machine after) :
    ∃ future, after.world.names.lookup (.future, name) = some future ∧
      after.world.loop.timeout? future = some (machine.world.host.kernel.now + delay) := by
  obtain ⟨protocol, world, answered⟩ := calls.answered (finishes_future _)
  have made := Loop.timeout?_makeTimed world.loop kind world.host.kernel.now delay
  rw [answered.done, ← answered.now]
  obtain ⟨same, named⟩ := World.timeout?_store .future name
    (world.loop.makeTimed kind world.host.kernel.now (some delay)).1
    { world with loop := (world.loop.makeTimed kind world.host.kernel.now (some delay)).2 }
  exact ⟨_, named, (same _).trans made⟩

/-- Timeouts are kept. -/
structure KeepsTimeouts (machine : Machine) : Prop where
  /-- A future that is made with a timeout has its time up after that time, and its timeout is kept. -/
  made : ∀ {after name kind delay}, Calls (.future (.make name kind (some delay))) machine after →
    after.IsOpen → ∃ future, after.world.names.lookup (.future, name) = some future ∧
      after.world.loop.timeout? future = some (machine.world.host.kernel.now + delay) ∧
        after.KeepsTimeout future (machine.world.host.kernel.now + delay)
  /-- A place that is taken with a timeout has its time up after that time. -/
  parked : ∀ gate delay world, (World.park gate (some delay) world).2.loop.timeout?
    (World.park gate (some delay) world).1 = some (world.host.kernel.now + delay)
  /-- Whatever future is pending and has a timeout, it is kept. -/
  pending : ∀ {future deadline}, machine.world.loop.timeout? future = some deadline →
    machine.KeepsTimeout future deadline

/-- In every state of every run on an open loop, timeouts are kept: no future is cancelled by its timer
before its time, each one that is pending when an iteration collects its timer is done before the iteration
is over, and the timer of one that is done changes nothing. -/
theorem timeoutsAreKept (visits : Visits IsOpen machine) : machine.KeepsTimeouts := by
  refine ⟨fun calls fine => ?_, World.timeout?_park, fun timed => visits.keepsTimeout timed⟩
  obtain ⟨future, named, timed⟩ := calls.timeout?
  exact ⟨future, named, timed, (Visits.step visits calls.step fine).keepsTimeout timed⟩

/-- The time of two futures is up, and an iteration has collected both timers. The second future is pending
until its callback is called; the first one was cancelled before. -/
def lapsing : Machine := scripted.drive openly 9 [.future (.make "f" .unit (some 4)),
  .future (.make "g" .unit (some 3)), .callSoon "early" [.future (.cancel "f")], .loop (.advance 5),
  .runOnce 1]

/-- Either callback is ready, that of the second future first. -/
theorem timeoutsAreKept_lapsing : lapsing.KeepsTimeouts ∧ lapsing.world.loop.timeout? 1 = some 3 ∧
    lapsing.world.loop.isDone 0 = true ∧
      lapsing.world.loop.ready.filterMap Callback.expires? = [1, 0] ∧ lapsing.stages.length = 1 :=
  ⟨timeoutsAreKept (visits_openly 9 _), by decide +kernel, by decide +kernel, by decide +kernel,
    by decide +kernel⟩

end Machine

end EventLoop

import EventLoop.Proofs.Machine.Stages
import EventLoop.Proofs.Machine.Timers

/-!
# The order of callbacks

Callbacks are started in the order in which they became ready, whatever they do and wherever they come
from: each step appends some to those that are ready, or takes the first one. An iteration takes no more
than were ready when it began, and as long as no iteration goes on within it, it takes exactly these.
-/
namespace EventLoop

/-- Whether a frame is an iteration. -/
def Frame.isIteration : Frame → Bool
  | iteration _ => true
  | script .. | program .. | repeated _ | running _ | letGo _ | afterData _ | afterEnd _ | afterLoss _
  | poll _ | holding .. | rounds .. | joining .. | selecting .. | closing _ => false

/-- Each iteration that is under way belongs to a run, and what an iteration sends down goes to one
more. -/
theorem Fits.countP_isIteration {frames : List Frame} {demand : Demand} (fits : Fits demand frames) :
    frames.countP Frame.isIteration + (if Kind.iterated ∈ demand.kinds then 1 else 0) ≤
      frames.countP Frame.isRun := by
  induction frames generalizing demand with
  | nil =>
    have kinds : demand.kinds ⊆ [.answer] := fits.kinds
    rw [if_neg fun iterated => absurd (kinds iterated) (by decide)]
    exact Nat.le_refl 0
  | cons frame below ih =>
    obtain ⟨takes, fits⟩ := fits
    have further := ih fits
    have refuses (only : Kind.iterated ∉ frame.kinds) : Kind.iterated ∉ demand.kinds :=
      fun iterated => only (takes.kinds iterated)
    cases frame with
    | iteration left =>
      have sends : Kind.iterated ∈ (Frame.iteration left).demand.kinds := List.mem_cons_self
      rw [if_pos sends] at further
      rw [if_neg (refuses (by simp [Frame.kinds])), List.countP_cons_of_pos rfl,
        List.countP_cons_of_neg Bool.false_ne_true]
      exact further
    | repeated | running =>
      rw [List.countP_cons_of_neg Bool.false_ne_true, List.countP_cons_of_pos rfl]
      split
      · omega
      · omega
    | script | program | letGo | afterData | afterEnd | afterLoss | poll | holding | rounds | joining
    | selecting | closing =>
      rw [if_neg (refuses (by simp [Frame.kinds])), List.countP_cons_of_neg Bool.false_ne_true,
        List.countP_cons_of_neg Bool.false_ne_true]
      omega

namespace Loop

/-- Waking tasks leaves alone what other threads asked for, which tasks were woken, and the timers. -/
theorem waits_foldl_scheduleLive (slots : List Nat) (loop : Loop) :
    (slots.foldl scheduleLive loop).remote = loop.remote ∧
      (slots.foldl scheduleLive loop).woken = loop.woken ∧
        (slots.foldl scheduleLive loop).timers = loop.timers := by
  induction slots generalizing loop with
  | nil => exact ⟨rfl, rfl, rfl⟩
  | cons slot rest ih =>
    obtain ⟨remote, woken, timers⟩ := ih (loop.scheduleLive slot)
    rw [List.foldl_cons, remote, woken, timers]
    unfold scheduleLive schedule
    split
    · split
      · rw [callSoon_eq]
        exact ⟨rfl, rfl, rfl⟩
      · exact ⟨rfl, rfl, rfl⟩
    · exact ⟨rfl, rfl, rfl⟩

/-- When callbacks were gathered, nothing waits any more that other threads asked for and no number that
was woken, and the timers that are due were taken. -/
theorem waits_gather (loop : Loop) (now : Nat) :
    (loop.gather now).2.remote = [] ∧ (loop.gather now).2.woken = [] ∧
      (loop.gather now).2.timers.entries =
        loop.timers.entries.dropWhile fun entry => entry.deadline ≤ now := by
  have due : (loop.collectDue now).timers = (loop.timers.takeDue now).2.2 := rfl
  unfold gather
  rw [collectRequests_eq]
  obtain ⟨remote, woken, timers⟩ := waits_foldl_scheduleLive (loop.collectDue now).woken _
  refine ⟨remote, woken, ?_⟩
  rw [timers]
  change (loop.collectDue now).timers.entries = _
  rw [due, Timers.snd_takeDue]

end Loop

namespace Machine

variable {sort : Machine → Prop} {machine after first last : Machine}
variable {appended started : List Callback}

/-! ## Histories of callbacks -/

/-- The callbacks that a step makes ready: those behind the ones that were ready before. -/
def newlyReady (before after : Machine) : List Callback :=
  after.world.loop.ready.drop before.world.loop.ready.length

/-- What a run does with callbacks on the way from one state to a later one: the callbacks that become
ready and those that are started, each in their order. -/
inductive Traces (sort : Machine → Prop) (first : Machine) :
    List Callback → List Callback → Machine → Prop
  /-- Nothing has happened yet. -/
  | refl : Traces sort first [] [] first
  /-- One step more. -/
  | step {appended started : List Callback} {before after : Machine}
      (earlier : Traces sort first appended started before) (step : Step before after)
      (fine : sort after) : Traces sort first (appended ++ before.newlyReady after)
        (started ++ after.hand.toList) after

/-- What a run does with callbacks is done on the way to a later state. -/
theorem Traces.onward (traces : Traces sort first appended started last) :
    Onward sort first last := by
  induction traces with
  | refl => exact .refl
  | step _ step fine ih => exact ih.tail ⟨step, fine⟩

/-- What is done through states of one sort is done through states of a wider one. -/
theorem Traces.mono {wider : Machine → Prop} (traces : Traces sort first appended started last)
    (wide : ∀ state, sort state → wider state) : Traces wider first appended started last := by
  induction traces with
  | refl => exact .refl
  | step _ step fine ih => exact ih.step step (wide _ fine)

/-- On the way to a later state something is done with callbacks. -/
theorem Onward.traces (onward : Onward sort first last) :
    ∃ appended started, Traces sort first appended started last := by
  induction onward with
  | refl => exact ⟨[], [], .refl⟩
  | tail _ last ih =>
    obtain ⟨appended, started, traces⟩ := ih
    exact ⟨_, _, traces.step last.1 last.2⟩

/-- A signal that runs no callback has none in hand. -/
theorem hand_of_isCall (quiet : machine.signal.isCall = false) : machine.hand = none :=
  hand_of_uncalled fun callback called => by
    rw [called] at quiet
    cases quiet

/-- What a step does with callbacks: it appends some to those that are ready, or it takes the first. -/
inductive Queues (machine after : Machine) : Prop
  /-- Callbacks are appended, and none is started. -/
  | appends (new : List Callback) (ready : after.world.loop.ready = machine.world.loop.ready ++ new)
      (idle : after.hand = none)
  /-- The first callback is taken and started. -/
  | takes (callback : Callback) (ready : machine.world.loop.ready = callback :: after.world.loop.ready)
      (hand : after.hand = some callback)

/-- The polls and what acts append change which callbacks are ready no further. -/
theorem Queues.of_eq (ready : after.world.loop.ready = machine.world.loop.ready)
    (idle : after.hand = none) : Queues machine after :=
  .appends [] (by rw [ready, List.append_nil]) idle

/-- A loop that goes on appends callbacks. -/
theorem Queues.of_proceeds {cancels : Prop}
    (proceeds : Loop.Proceeds cancels machine.world.loop after.world.loop)
    (quiet : after.signal.isCall = false) : Queues machine after := by
  obtain ⟨new, ready⟩ := proceeds.acts.ready
  exact .appends new ready.symm (hand_of_isCall quiet)

/-- Every step on an open loop appends callbacks or takes the first one. -/
theorem Goes.queues (goes : Goes machine after) : Queues machine after := by
  cases goes with
  | steady proceeds _ quiet | counting proceeds _ quiet | abandoning _ _ quiet _ proceeds =>
    exact .of_proceeds proceeds quiet
  | taking left callback rest lower uncalled called ready loop =>
    refine .takes callback ?_ (hand_of_called called)
    rw [ready, loop]
  | finishing left uncalled ended exhausted loop =>
    exact .of_eq (congrArg Loop.ready loop) (hand_of_isCall (by rw [ended]; rfl))
  | polling task activity called quiet queued loop
  | suspending task activity uncalled quiet running loop =>
    exact .of_eq (by rw [loop]; rfl) (hand_of_isCall quiet)
  | deserting future uncalled quiet deserts refs loop =>
    exact .of_eq (by rw [loop]) (hand_of_isCall quiet)
  | ending task value uncalled ended quiet loop =>
    obtain ⟨new, ready⟩ := Loop.ready_complete machine.world.loop task value
    exact .appends new ((congrArg Loop.ready loop).trans ready.symm) (hand_of_isCall quiet)

/-- A callback that is ready stays ready in a step, unless the step starts it. -/
theorem Queues.waits (queues : Queues machine after) {callback : Callback}
    (ready : callback ∈ machine.world.loop.ready) :
    callback ∈ after.world.loop.ready ∨ after.signal = .call callback := by
  cases queues with
  | appends new grown =>
    rw [grown]
    exact Or.inl (List.mem_append_left _ ready)
  | takes taken rest hand =>
    rw [rest] at ready
    rcases List.mem_cons.mp ready with rfl | waits
    · exact Or.inr (called_of_hand hand)
    · exact Or.inl waits

/-- Callbacks are started in the order in which they became ready: those that were ready at first and
those that became ready since are those that were started and those that still wait. -/
theorem Traces.order (traces : Traces sort first appended started last) (visits : Visits sort first)
    (opens : ∀ state, sort state → state.world.loop.closed = false) :
    first.world.loop.ready ++ appended = started ++ last.world.loop.ready := by
  induction traces with
  | refl => exact List.append_nil _
  | @step appended started before after earlier step fine ih =>
    have reached := visits.onward earlier.onward
    cases (reached.goes opens step fine).queues with
    | appends new ready idle =>
      have newly : before.newlyReady after = new := by
        unfold newlyReady
        rw [ready, List.drop_left]
      rw [newly, idle, ready, ← List.append_assoc, ih]
      simp
    | takes callback ready hand =>
      have newly : before.newlyReady after = [] := by
        unfold newlyReady
        rw [ready]
        simp
      rw [newly, hand, List.append_nil, ih, ready]
      simp

/-! ## Iterations -/

/-- An iteration is under way. -/
def Iterates (machine : Machine) : Prop := ∃ left, .iteration left ∈ machine.frames

/-- An iteration that was to take a number of callbacks is under way above some other stages, since when a
number of callbacks were started. If iterations do not go on within it, these are its own. -/
structure Lasts (strict : Prop) (lower : List Frame) (count started : Nat) (machine : Machine) :
    Prop where
  /-- It may still take some callbacks. -/
  left : ∃ upper left, machine.stages = upper ++ .iteration left :: lower ∧ count ≤ started + left ∧
    (strict → started + left = count)

/-- What becomes of an iteration that ends. -/
structure Ends (strict : Prop) (lower : List Frame) (count started : Nat) (machine after : Machine) :
    Prop where
  /-- The other stages are left. -/
  stages : after.stages = lower
  /-- The iteration succeeds. -/
  signal : after.signal = .iterated (.ok ())
  /-- No callback becomes ready. -/
  ready : after.world.loop.ready = machine.world.loop.ready
  /-- As many callbacks were started as it was to take, unless none was ready any more. -/
  enough : count ≤ started ∨ machine.world.loop.ready = []
  /-- If iterations do not go on within it, no more callbacks were started. -/
  most : strict → started ≤ count

/-- The stage of an iteration is under way. -/
theorem countP_stages (machine : Machine) :
    machine.stages.countP Frame.isIteration = machine.frames.countP Frame.isIteration := by
  unfold stages
  rw [List.countP_filter]
  refine List.countP_congr fun frame _ => ?_
  cases frame with
  | iteration => exact Iff.rfl
  | _ => exact ⟨fun both => by simp [Frame.isIteration] at both, fun none => nomatch none⟩

/-- While no run goes on within another one, at most one iteration is under way. -/
theorem Sound.countP_isIteration {strict : Prop} (sound : machine.Sound strict)
    (single : machine.runs ≤ 1) : machine.stages.countP Frame.isIteration ≤ 1 := by
  have fits := sound.fits.countP_isIteration
  unfold runs at single
  rw [countP_stages]
  omega

/-- Each step goes on with an iteration that is under way, or ends it. -/
theorem Lasts.step {strict : Prop} {lower : List Frame} {count started : Nat}
    (lasts : Lasts strict lower count started machine) (goes : Goes machine after)
    (single : strict → machine.stages.countP Frame.isIteration ≤ 1) :
    Lasts strict lower count (started + after.hand.toList.length) after ∨
      after.hand = none ∧ Ends strict lower count started machine after := by
  obtain ⟨upper, left, stages, most, own⟩ := lasts.left
  have quietly (quiet : after.signal.isCall = false) (upper : List Frame)
      (same : after.stages = upper ++ .iteration left :: lower) :
      Lasts strict lower count (started + after.hand.toList.length) after := by
    rw [hand_of_isCall quiet]
    exact ⟨upper, left, same, most, own⟩
  have pops (task : TaskId) (quiet : after.signal.isCall = false)
      (popped : machine.stages = .poll task :: after.stages) :
      Lasts strict lower count (started + after.hand.toList.length) after := by
    rw [stages] at popped
    cases upper with
    | nil => cases popped
    | cons frame upper => exact quietly quiet upper (List.cons.inj popped).2.symm
  cases goes with
  | steady proceeds stale quiet same | deserting future uncalled quiet deserts refs loop same =>
    exact Or.inl (quietly quiet upper (same.trans stages))
  | counting proceeds uncalled quiet earlier gathered same =>
    refine Or.inl (quietly quiet (.iteration after.world.loop.ready.length :: upper) ?_)
    rw [same, stages]
    rfl
  | polling task activity called quiet queued loop same =>
    refine Or.inl (quietly quiet (.poll task :: upper) ?_)
    rw [same, stages]
    rfl
  | ending task value uncalled ended quiet loop same => exact Or.inl (pops task quiet same)
  | suspending task activity uncalled quiet running loop same => exact Or.inl (pops task quiet same)
  | abandoning task uncalled quiet refused proceeds same => exact Or.inl (pops task quiet same)
  | taking left' callback rest lower' uncalled called ready loop before same =>
    have one : after.hand.toList.length = 1 := by
      rw [hand_of_called called]
      rfl
    left
    rw [one]
    rw [stages] at before
    cases upper with
    | nil =>
      cases before
      refine ⟨[], left', same, by omega, fun asked => ?_⟩
      have exactly := own asked
      omega
    | cons frame upper =>
      obtain ⟨rfl, rfl⟩ := List.cons.inj before
      refine ⟨.iteration left' :: upper, left, same, by omega, fun asked => ?_⟩
      -- The callback would be taken by another iteration.
      have fewer := single asked
      rw [stages, List.cons_append, List.countP_cons_of_pos rfl, List.countP_append,
        List.countP_cons_of_pos rfl] at fewer
      omega
  | finishing left' uncalled ended exhausted loop same =>
    have quiet : after.signal.isCall = false := by
      rw [ended]
      rfl
    rw [stages] at same
    cases upper with
    | nil =>
      obtain ⟨here, rfl⟩ := List.cons.inj same
      cases here
      refine Or.inr ⟨hand_of_isCall quiet, rfl, ended, congrArg Loop.ready loop, ?_, fun asked => ?_⟩
      · refine exhausted.imp_left fun none => ?_
        omega
      · have exactly := own asked
        omega
    | cons frame upper => exact Or.inl (quietly quiet upper (List.cons.inj same).2.symm)

/-- An iteration that begins is to take as many callbacks as are ready then. -/
theorem lasts_counting (strict : Prop) {lower : List Frame} {count : Nat}
    (stages : machine.stages = .iteration count :: lower) : Lasts strict lower count 0 machine :=
  ⟨[], count, stages, by omega, fun _ => Nat.zero_add count⟩

/-- As long as the stages below an iteration are not all that is left, it is under way. -/
theorem Traces.lasts {strict : Prop} {narrow : Machine → Prop} {lower : List Frame}
    (traces : Traces narrow first appended started last) (visits : Visits sort first)
    (wide : ∀ state, narrow state → sort state)
    (opens : ∀ state, sort state → state.world.loop.closed = false)
    (single : strict → ∀ state, sort state → state.runs ≤ 1)
    (above : ∀ state, narrow state → state.stages ≠ lower)
    (stages : first.stages = .iteration first.world.loop.ready.length :: lower) :
    Lasts strict lower first.world.loop.ready.length started.length last := by
  induction traces with
  | refl => exact lasts_counting strict stages
  | @step appended started before after earlier step fine ih =>
    have reached := visits.onward (earlier.mono wide).onward
    rw [List.length_append]
    rcases ih.step (reached.goes opens step (wide _ fine)) (fun asked =>
      reached.reachable.sound.countP_isIteration (single asked before reached.fine)) with lasts | ends
    · exact lasts
    · exact absurd ends.2.stages (above after fine)

/-- An iteration that ends has started all callbacks that were ready when it began, and no others if no
iteration went on within it. -/
theorem Ends.starts {strict : Prop} {lower : List Frame}
    (ends : Ends strict lower first.world.loop.ready.length started.length last after)
    (order : first.world.loop.ready ++ appended = started ++ last.world.loop.ready) :
    first.world.loop.ready <+: started ∧ (strict → started = first.world.loop.ready) := by
  have before : first.world.loop.ready <+: started := by
    rcases ends.enough with enough | none
    · exact List.prefix_of_prefix_length_le ⟨appended, order⟩ (List.prefix_append _ _) enough
    · rw [none, List.append_nil] at order
      exact ⟨appended, order⟩
  exact ⟨before, fun asked => (before.eq_of_length_le (ends.most asked)).symm⟩

/-! ## Iterations of single runs -/

/-- No run goes on within another one, the loop is open, and an iteration is under way. -/
def IsIterating (machine : Machine) : Prop := machine.IsSingle ∧ machine.Iterates

/-- What an iteration does that has just taken its count. -/
structure TakesCounted (counted : Machine) : Prop where
  /-- Nothing waits any more that other threads asked for, and no number of a task that was woken. -/
  collected : counted.world.loop.remote = [] ∧ counted.world.loop.woken = []
  /-- No timer is due any more. -/
  expired : ∀ entry ∈ counted.world.loop.timers.entries,
    counted.world.host.kernel.now < entry.deadline
  /-- The count is the number of callbacks that are ready. -/
  count : .iteration counted.world.loop.ready.length ∈ counted.frames
  /-- While it goes on, it starts those that were ready when it took the count, and what became ready since
  still waits behind them. -/
  during : ∀ {appended started later}, Traces IsIterating counted appended started later →
    ∃ rest, counted.world.loop.ready = started ++ rest ∧ later.world.loop.ready = rest ++ appended
  /-- When it ends, it has started all of these, and whatever became ready since still waits. -/
  ends : ∀ {appended started later last}, Traces IsIterating counted appended started later →
    Step later last → last.IsSingle → ¬ last.Iterates →
      started = counted.world.loop.ready ∧ last.world.loop.ready = appended ∧
        last.signal = .iterated (.ok ())

/-- Callbacks are run in their order. -/
structure RunsInOrder (machine : Machine) : Prop where
  /-- A step appends callbacks to those that are ready and starts none, or it takes and starts the first. -/
  queues : ∀ {after}, Step machine after → after.IsSingle → Queues machine after
  /-- A callback that is started is run by the next step. -/
  runs : ∀ {callback after}, machine.signal = .call callback → Step machine after →
    after = machine.move machine.frames (runCallback callback)
  /-- Callbacks are started in the order in which they became ready. -/
  order : ∀ {appended started later}, Traces IsSingle machine appended started later →
    machine.world.loop.ready ++ appended = started ++ later.world.loop.ready
  /-- An iteration that begins takes what is ready when it takes its count. -/
  iterations : ∀ {counted}, ¬ machine.Iterates → Step machine counted → counted.IsSingle →
    counted.Iterates → counted.TakesCounted

/-- An iteration is under way if and only if it is among the stages. -/
theorem iterates_iff : machine.Iterates ↔ ∃ left, .iteration left ∈ machine.stages := by
  unfold Iterates stages
  simp [List.mem_filter, Frame.isStage]

/-- A step that leads to an iteration, where there was none, takes the count. -/
theorem Goes.counts (goes : Goes machine after) (idle : ¬ machine.Iterates) (iterates : after.Iterates) :
    ∃ earlier : World, after.world = { earlier with
      loop := (earlier.loop.gather earlier.host.kernel.now).2 } ∧
        after.stages = .iteration after.world.loop.ready.length :: machine.stages ∧
          after.signal.isCall = false := by
  rw [iterates_iff] at idle iterates
  obtain ⟨left, member⟩ := iterates
  have before {other : Nat} (here : .iteration other ∈ machine.stages) : False := idle ⟨other, here⟩
  cases goes with
  | counting proceeds uncalled quiet earlier gathered stages => exact ⟨earlier, gathered, stages, quiet⟩
  | steady proceeds stale quiet stages | deserting future uncalled quiet deserts refs loop stages =>
    exact (before (stages ▸ member)).elim
  | polling task activity called quiet queued loop stages =>
    rw [stages] at member
    exact (before ((List.mem_cons.mp member).resolve_left Frame.noConfusion)).elim
  | taking left' callback rest lower uncalled called ready loop stages =>
    exact (before (stages ▸ List.mem_cons_self)).elim
  | finishing left' uncalled ended exhausted loop stages
  | ending task value uncalled ended quiet loop stages
  | suspending task activity uncalled quiet running loop stages
  | abandoning task uncalled quiet refused proceeds stages =>
    exact (before (stages ▸ List.mem_cons_of_mem _ member)).elim

/-- If nothing is iterated below an iteration, states in which it is under way have more stages. -/
theorem Iterates.stages_ne (iterates : after.Iterates) (idle : ¬ machine.Iterates) :
    after.stages ≠ machine.stages := by
  intro same
  rw [iterates_iff] at idle iterates
  exact idle (same ▸ iterates)

/-- An iteration that has just taken its count takes what is ready then. -/
theorem Visits.takesCounted {counted : Machine} (visits : Visits IsSingle machine)
    (idle : ¬ machine.Iterates) (step : Step machine counted) (fine : counted.IsSingle)
    (iterates : counted.Iterates) : counted.TakesCounted := by
  have reached : Visits IsSingle counted := .step visits step fine
  have opens (state : Machine) (single : state.IsSingle) : state.world.loop.closed = false := single.2
  obtain ⟨earlier, gathered, stages, -⟩ := (visits.goes opens step fine).counts idle iterates
  obtain ⟨remote, woken, timers⟩ := earlier.loop.waits_gather earlier.host.kernel.now
  have lasting {appended started : List Callback} {later : Machine}
      (traces : Traces IsIterating counted appended started later) :
      Lasts True machine.stages counted.world.loop.ready.length started.length later ∧
        counted.world.loop.ready ++ appended = started ++ later.world.loop.ready :=
    ⟨traces.lasts reached (fun _ => And.left) opens (fun _ _ single => single.1)
      (fun _ iterating => iterating.2.stages_ne idle) stages,
      (traces.mono fun _ => And.left).order reached opens⟩
  refine ⟨?_, ?_, ?_, fun {appended started later} traces => ?_,
    fun {appended started later last} traces ending single exited => ?_⟩
  · rw [gathered]
    exact ⟨remote, woken⟩
  · have sorted := timers_sorted reached.reachable
    rw [gathered] at sorted ⊢
    exact sorted.lt_deadline timers
  · have member : Frame.iteration counted.world.loop.ready.length ∈ counted.stages :=
      stages ▸ List.mem_cons_self
    exact (List.mem_filter.mp member).1
  · obtain ⟨lasts, order⟩ := lasting traces
    obtain ⟨upper, left, -, -, own⟩ := lasts.left
    have exactly := own trivial
    obtain ⟨rest, ready⟩ : started <+: counted.world.loop.ready :=
      List.prefix_of_prefix_length_le (List.prefix_append _ _) ⟨appended, order⟩ (by omega)
    refine ⟨rest, ready.symm, ?_⟩
    rw [← ready, List.append_assoc] at order
    exact (List.append_cancel_left order).symm
  · obtain ⟨lasts, order⟩ := lasting traces
    have here : Visits IsSingle later := reached.onward (traces.mono fun _ => And.left).onward
    rcases lasts.step (here.goes opens ending single)
        (fun _ => here.reachable.sound.countP_isIteration here.fine.1) with goes_on | ⟨-, ends⟩
    · obtain ⟨upper, left, stages, -⟩ := goes_on.left
      refine absurd (iterates_iff.mpr ⟨left, ?_⟩) exited
      rw [stages]
      exact List.mem_append_right _ List.mem_cons_self
    · have exactly := (ends.starts order).2 trivial
      refine ⟨exactly, ?_, ends.signal⟩
      rw [exactly] at order
      rw [ends.ready]
      exact (List.append_cancel_left order).symm

/-- While no run of an open loop goes on within another one, callbacks are run in their order. -/
theorem runsInOrder (visits : Visits IsSingle machine) : machine.RunsInOrder :=
  have opens (state : Machine) (single : state.IsSingle) : state.world.loop.closed = false := single.2
  ⟨fun step fine => (visits.goes opens step fine).queues, visits.reachable.sound.eq_move_of_called,
    fun traces => traces.order visits opens, visits.takesCounted⟩

/-- Two scripts are to run, and the first one, which is running, has another one run. -/
def growing : Machine := scripted.drive singly 6
  [.callSoon "a" [.callSoon "b" []], .callSoon "c" [], .runOnce 1]

/-- While an iteration goes on that counted two callbacks, a third one has become ready. -/
theorem runsInOrder_growing : growing.RunsInOrder ∧ growing.stages.length = 1 ∧
    growing.world.loop.ready.length = 2 :=
  ⟨runsInOrder (visits_singly 6 _), by decide +kernel, by decide +kernel⟩

end Machine

end EventLoop

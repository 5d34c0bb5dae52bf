import EventLoop.Proofs.Machine.Frames

/-!
# Sound states

In a sound state the frames fit, whatever programs have at stake is settled, and whatever programs wait
for is attended to. Every move leads from a sound state to a sound state: it is made of deeds and may
end in taking a place.
-/
namespace EventLoop

open Script (Station)
open World (Deeds Parking Settled Changes moving trafficking iterating polling openTo shelter)

variable {strict : Prop} {held : List Ref} {aspects : List Aspect} {world : World}

namespace World

variable {stakes : Multiset Stake} {before after : Multiset Stake × World}

/-- What is settled stays settled if other objects are held. -/
theorem Settled.holding (settled : Settled [] stakes world) (held : List Ref) :
    Settled held stakes { world with held } := by
  have orderly := (settled.orderly.changed (.held world held (List.nil_subset _)) Aspect.noConfusion
    Aspect.noConfusion).1
  refine ⟨{ orderly with within := { orderly.within with held := List.Subset.refl _ } }, ?_⟩
  intro stake member
  have stands := settled.stands stake member
  cases stake with
  | place gate future => cases gate <;> exact stands
  | hold guard => cases guard <;> exact stands
  | loan condition => exact stands
  | debt condition lock => exact stands

/-- What is settled stays settled if nothing has to be held. -/
theorem Settled.released (settled : Settled held stakes world) : Settled [] stakes world := by
  have orderly := settled.orderly
  exact ⟨{ orderly with within := { orderly.within with held := List.nil_subset _ } },
    settled.stands⟩

/-- The way from one state to another is made of deeds and may end in taking a place. -/
def Course (held : List Ref) (aspects : List Aspect) (before after : Multiset Stake × World) : Prop :=
  Deeds held aspects before after ∨ ∃ middle, Deeds held aspects before middle ∧
    Parking middle.1 middle.2 after.1 after.2

namespace Course

/-- Whatever is settled stays settled on the way. -/
theorem settled (course : Course held aspects before after)
    (settled : Settled held before.1 before.2) : Settled held after.1 after.2 := by
  rcases course with deeds | ⟨middle, deeds, parking⟩
  · exact deeds.settled settled
  · exact parking.settled (deeds.settled settled)

/-- The way is made of changes. -/
theorem changes (course : Course held aspects before after)
    (settled : Settled held before.1 before.2) (more : moving ⊆ aspects) :
    Changes (openTo held) aspects before.2 after.2 := by
  have syncs : sync ⊆ aspects := List.Subset.trans (by decide) more
  rcases course with deeds | ⟨middle, deeds, parking⟩
  · exact deeds.changes settled (List.Subset.refl _) syncs
  · exact (deeds.changes settled (List.Subset.refl _) syncs).trans
      (parking.changes (deeds.settled settled).orderly syncs)

/-- Whatever aspects it is made of, the way is made of changes of those and of what most moves change. -/
theorem changes_append (course : Course held aspects before after)
    (settled : Settled held before.1 before.2) :
    Changes (openTo held) (aspects ++ moving) before.2 after.2 := by
  have few : aspects ⊆ aspects ++ moving := List.subset_append_left _ _
  have wide : Course held (aspects ++ moving) before after := by
    rcases course with deeds | ⟨middle, deeds, parking⟩
    · exact Or.inl (deeds.mono few)
    · exact Or.inr ⟨middle, deeds.mono few, parking⟩
  exact wide.changes settled (List.subset_append_right _ _)

/-- A loop that is not closed on the way keeps its fittings. -/
theorem fittings (course : Course held aspects before after)
    (settled : Settled held before.1 before.2) (spares : .shutting ∉ aspects) :
    after.2.fittings = before.2.fittings := by
  refine (course.changes_append settled).fittings fun member => ?_
  exact (List.mem_append.mp member).elim spares (by decide)

/-- The way does not depend on what is held. -/
theorem released (course : Course held aspects before after) : Course [] aspects before after := by
  rcases course with deeds | ⟨middle, deeds, parking⟩
  · exact Or.inl (deeds.weaken (List.Subset.refl _) (List.nil_subset _))
  · exact Or.inr ⟨middle, deeds.weaken (List.Subset.refl _) (List.nil_subset _), parking⟩

/-- A deed comes first. -/
theorem head {middle : Multiset Stake × World}
    (deed : World.Deed held aspects before.1 before.2 middle.1 middle.2)
    (course : Course held aspects middle after) : Course held aspects before after := by
  rcases course with deeds | ⟨last, deeds, parking⟩
  · exact Or.inl (.head deed deeds)
  · exact Or.inr ⟨last, .head deed deeds, parking⟩

end Course

/-- Changes convey what is waited for, if it is held. -/
theorem Changes.conveys {scope : Scope} {first last : World} {refs : List Ref} {n : Nat}
    (changes : Changes scope aspects first last) (within : first.Within scope n)
    (listed : refs ⊆ scope.held)
    (carried : strict → last.loop.closed = false ∧ Aspect.taking ∉ aspects ∧
      Aspect.closing ∉ aspects) :
    Loop.Conveys strict refs first.loop last.loop := by
  refine ⟨changes.grows.loop, fun future member => changes.keeps within (listed member),
    fun asked => ?_⟩
  obtain ⟨opened, stays, open_⟩ := carried asked
  exact ⟨opened, fun future member => changes.carries stays open_ within (listed member)⟩

end World

/-- A step that moves makes its way. -/
theorem Moves.course {down : Demand} {owner : Option TaskId} {own rest : Multiset Stake}
    {step : WorldM Move} (moves : Moves held aspects strict down owner own rest world step)
    (settled : Settled held (own + world.loop.stakes) world) :
    ∃ left, World.Course held aspects (own + world.loop.stakes, world)
      (left + (step world).2.loop.stakes, (step world).2) ∧
        Moved held strict down owner rest (step world).1 left (step world).2 := by
  obtain ⟨left, ⟨deeds, moved⟩ | ⟨middle, deeds, parking, moved⟩⟩ := moves settled
  · exact ⟨left, Or.inl deeds, moved⟩
  · exact ⟨left, Or.inr ⟨middle, deeds, parking⟩, moved⟩

namespace Machine

/-- The stations of whatever is under way. -/
def stations (machine : Machine) : List Station :=
  machine.signal.stations ++ machine.frames.flatMap Frame.stations

/-- What programs have at stake. -/
def stakes (machine : Machine) : Multiset Stake :=
  stakesOf machine.stations + machine.world.loop.stakes

/-- A sound state. -/
structure Sound (strict : Prop) (machine : Machine) : Prop where
  /-- What programs have at stake is settled. -/
  settled : Settled [] machine.stakes machine.world
  /-- The frames fit. -/
  fits : Fits machine.signal.demand machine.frames
  /-- What the frames hold is attended to. -/
  frames : ∀ frame ∈ machine.frames, frame.Attended strict machine.world.loop
  /-- What the signal holds is attended to. -/
  signal : machine.signal.Attended strict machine.world.loop (ownerOf machine.frames)
  /-- What the tasks wait for is attended to. -/
  attentive : machine.world.Attentive
  /-- A callback that is about to run resolves no future of a queue. -/
  call : ∀ callback, machine.signal = .call callback → machine.world.loop.dropped = [] ∧
    ∀ future ∈ callback.resolves?,
      machine.world.loop.Knows (shelter [] (placesOf machine.stakes) machine.world).known future

/-- The world in which a machine makes a move. -/
def holding (machine : Machine) : World := { machine.world with held := machine.held }

/-- A machine makes its way to another state. -/
def Passes (aspects : List Aspect) (machine after : Machine) : Prop :=
  World.Course [] aspects (machine.stakes, machine.world) (after.stakes, after.world)

variable {machine : Machine}

/-- Whatever is held while a machine makes a move, it makes its way. -/
theorem passes {after : Machine} (more : moving ⊆ aspects)
    (course : World.Course machine.held aspects (machine.stakes, machine.holding)
      (after.stakes, after.world)) : machine.Passes aspects after := by
  refine World.Course.head ?_ course.released
  exact .changed _ (more (by decide)) Aspect.noConfusion Aspect.noConfusion
    (.held machine.world machine.held (List.nil_subset _))

/-- A frame keeps alive what the machine keeps alive. -/
theorem refs_subset_held {frame : Frame} (member : frame ∈ machine.frames) :
    frame.refs ⊆ machine.held :=
  fun _ ref => List.mem_append_right _ (List.mem_flatMap.mpr ⟨frame, member, ref⟩)

/-- A move in front of frames that stay attended to leads to a sound state. -/
theorem Sound.move (machine : Machine) (down : Demand) {below : List Frame} {step : WorldM Move}
    {own : Multiset Stake}
    (moves : Moves machine.held aspects strict down (ownerOf below) own
      (stakesOf (below.flatMap Frame.stations)) machine.holding step)
    (more : moving ⊆ aspects)
    (settled : Settled [] (own + machine.world.loop.stakes) machine.world)
    (attentive : machine.world.Attentive) (fits : Fits down below)
    (attended : World.Changes (openTo machine.held) aspects machine.holding
      (machine.move below step).world →
        ∀ frame ∈ below, frame.Attended strict (machine.move below step).world.loop) :
    (machine.move below step).Sound strict ∧
      World.Course machine.held aspects (own + machine.world.loop.stakes, machine.holding)
        ((machine.move below step).stakes, (machine.move below step).world) := by
  have begun : Settled machine.held (own + machine.holding.loop.stakes) machine.holding :=
    settled.holding machine.held
  obtain ⟨left, course, moved⟩ := moves.course begun
  have ended := course.settled begun
  have changes := course.changes begun more
  have stakes : (machine.move below step).stakes = left + (step machine.holding).2.loop.stakes := by
    rw [moved.stakes]
    change stakesOf ((step machine.holding).1.2.stations ++
      ((step machine.holding).1.1 ++ below).flatMap Frame.stations) + _ = _
    rw [List.flatMap_append, ← List.append_assoc, stakesOf_append]
    rfl
  refine ⟨⟨?_, moved.leads.fits fits, ?_, ?_, changes.attentive attentive, ?_⟩, ?_⟩
  · rw [stakes]
    exact ended.released
  · intro frame member
    rcases List.mem_append.mp member with above | member
    · exact moved.frames frame above
    · exact attended changes frame member
  · have signal := moved.signal
    rw [← ownerOf_append] at signal
    exact signal
  · intro callback same
    rw [stakes]
    exact moved.call callback same
  · rw [stakes]
    exact course

/-! ## Every move -/

/-- Most moves neither take callbacks nor let go of what waits. -/
theorem moving_steady : Aspect.taking ∉ moving ∧ Aspect.closing ∉ moving := by decide

/-- What has to do with transports neither takes what waits nor closes. -/
theorem trafficking_steady : Aspect.taking ∉ trafficking ∧ Aspect.closing ∉ trafficking := by
  decide

/-- What an iteration does neither takes what waits nor closes. -/
theorem iterating_steady : Aspect.taking ∉ iterating ∧ Aspect.closing ∉ iterating := by decide

/-- What polling does neither takes what waits nor closes. -/
theorem polling_steady : Aspect.taking ∉ polling ∧ Aspect.closing ∉ polling := by decide

/-- What is settled neither takes what waits nor closes. -/
theorem settling_steady (ref : Ref) : Aspect.taking ∉ ref.aspects ∧ Aspect.closing ∉ ref.aspects := by
  cases ref with
  | future =>
    have steady : Aspect.taking ∉ .deserting :: moving ∧ Aspect.closing ∉ .deserting :: moving := by
      decide
    exact steady
  | task | socket | transport | server => exact moving_steady

/-- How many runs of the loop are under way. -/
def runs (machine : Machine) : Nat := machine.frames.countP Frame.isRun

/-- The aspects that the next move changes. -/
def changing (machine : Machine) : List Aspect :=
  match machine.world.loop.dropped, act? machine.signal, machine.frames with
  | [], some _, _ => (machine.signal.aspects machine.world.loop)
  | [], none, frame :: _ => frame.aspects
  | ref :: _, _, _ => ref.aspects
  | [], none, [] => moving

/-- The frames below an iteration hold nothing of a program, if no run goes on within another. -/
theorem task_below_iteration {left : Nat} {below : List Frame} {frame : Frame}
    (fits : Fits (Frame.iteration left).demand below)
    (single : below.countP Frame.isRun ≤ 1) (member : frame ∈ below) : frame.task? = none := by
  cases below with
  | nil => cases member
  | cons run others =>
    have isRun : run.isRun = true := by
      have received := fits.1.kinds List.mem_cons_self
      cases run with
      | repeated | running => rfl
      | _ => exact absurd received (by simp [Frame.kinds])
    rcases List.mem_cons.mp member with rfl | later
    · cases frame with
      | repeated | running => rfl
      | _ => cases isRun
    · by_contra tasked
      obtain ⟨task, same⟩ := Option.ne_none_iff_exists'.mp tasked
      obtain ⟨other, there, another⟩ := fits.2.exists_run_of_task later same
      have positive := List.countP_pos_iff.mpr ⟨other, there, another⟩
      rw [List.countP_cons_of_pos isRun] at single
      omega

/-- Whatever holds nothing of a program stays attended to. -/
theorem attended_of_task {frame : Frame} {loop other : Loop} (attended : frame.Attended strict loop)
    (none : frame.task? = none) (grows : loop.Grows other) : frame.Attended strict other := by
  cases frame with
  | closing => exact grows.closed attended
  | script | repeated | running | iteration | letGo | afterData | afterEnd | afterLoss => trivial
  | program | poll | holding | rounds | joining | selecting => cases none

/-- A sound state is within bounds. -/
theorem Sound.within (sound : machine.Sound strict) : machine.holding.Within (openTo machine.held) 0 :=
  (sound.settled.holding machine.held).orderly.within.widen (fun _ _ => trivial)
    (List.Subset.refl _)

/-- Frames stay attended to. -/
theorem Sound.conveyed (sound : machine.Sound strict) {world : World} {aspects : List Aspect}
    (changes : World.Changes (openTo machine.held) aspects machine.holding world)
    (carried : strict → world.loop.closed = false ∧ Aspect.taking ∉ aspects ∧
      Aspect.closing ∉ aspects) :
    ∀ frame ∈ machine.frames, frame.Attended strict world.loop :=
  fun frame member => (sound.frames frame member).conveyed
    (changes.conveys sound.within (refs_subset_held member) carried)

/-- The task that a frame belongs to exists. -/
theorem exists_of_attended {frame : Frame} {loop : Loop} {task : TaskId}
    (attended : frame.Attended strict loop) (same : frame.task? = some task) :
    task < loop.tasks.size := by
  cases frame with
  | program | poll | holding | rounds =>
    cases same
    exact attended
  | joining | selecting =>
    cases same
    exact attended.1
  | script | repeated | running | iteration | letGo | afterData | afterEnd | afterLoss | closing =>
    cases same

/-- The task of the innermost frame exists. -/
theorem Sound.exists_owner (sound : machine.Sound strict) :
    ∀ task ∈ ownerOf machine.frames, task < machine.world.loop.tasks.size := by
  intro task owner
  obtain ⟨frame, first, same⟩ := Option.bind_eq_some_iff.mp owner
  exact exists_of_attended (sound.frames frame (List.mem_of_head? first)) same

/-- Nothing is called while something that was given up is left to look at. -/
theorem Sound.not_call (sound : machine.Sound strict) {ref : Ref} {refs : List Ref}
    (dropped : machine.world.loop.dropped = ref :: refs) (callback : Callback) :
    machine.signal ≠ .call callback := by
  intro called
  have clean := (sound.call callback called).1
  rw [dropped] at clean
  cases clean

/-- References that were given up are looked at. -/
theorem Sound.settle (sound : machine.Sound strict) {ref : Ref} {refs : List Ref}
    (dropped : machine.world.loop.dropped = ref :: refs)
    (carried : strict → (World.settleDropped ref refs machine.holding).2.loop.closed = false) :
    let after : Machine :=
      { machine with world := (World.settleDropped ref refs machine.holding).2 }
    after.Sound strict ∧ machine.Passes ref.aspects after := by
  intro after
  have begun := sound.settled.holding machine.held
  have performs : World.Performs machine.held ref.aspects (stakesOf machine.stations) machine.holding
      (World.settleDropped ref refs) (World.leaving (stakesOf machine.stations)) :=
    World.Giving.settleDropped ref refs
  obtain ⟨left, deeds, rfl⟩ := performs begun
  have course : World.Course machine.held ref.aspects (machine.stakes, machine.holding)
      (after.stakes, after.world) := Or.inl deeds
  have changes := course.changes begun ref.moving_subset
  have open_ (asked : strict) : after.world.loop.closed = false ∧ Aspect.taking ∉ ref.aspects ∧
      Aspect.closing ∉ ref.aspects := ⟨carried asked, settling_steady ref⟩
  refine ⟨⟨(course.settled begun).released, sound.fits, ?_, ?_, changes.attentive sound.attentive, ?_⟩,
    passes ref.moving_subset course⟩
  · exact sound.conveyed changes open_
  · exact sound.signal.conveyed sound.exists_owner
      (changes.conveys sound.within (List.subset_append_left _ _) open_)
  · exact fun callback called => absurd called (sound.not_call dropped callback)

/-- A signal that asks for something to be done is acted on. -/
theorem Sound.act (sound : machine.Sound strict) {step : WorldM Move}
    (acts : act? machine.signal = some step)
    (carried : strict → (machine.move machine.frames step).world.loop.closed = false) :
    (machine.move machine.frames step).Sound strict ∧
      machine.Passes (machine.signal.aspects machine.world.loop) (machine.move machine.frames step) := by
  have owned (task : TaskId) (about : machine.signal.demand.task = some task) :
      ownerOf machine.frames = some task := sound.fits.ownerOf about
  have call (callback : Callback) (same : machine.signal = .call callback) :
      ∀ future ∈ callback.resolves?, machine.holding.loop.Knows
        (shelter machine.held (placesOf (stakesOf (machine.frames.flatMap Frame.stations) +
          machine.holding.loop.stakes)) machine.holding).known future := by
    intro future resolved
    have known := (sound.call callback same).2 future resolved
    have scope (places : Multiset (Gate × FutureId)) : shelter machine.held places machine.holding =
        shelter machine.held places machine.world :=
      World.shelter_congr (World.queue_congr rfl rfl rfl rfl)
    rw [stakes, stations, same] at known
    rw [scope]
    exact known
  have total : stakesOf machine.stations =
      stakesOf machine.signal.stations + stakesOf (machine.frames.flatMap Frame.stations) :=
    stakesOf_append _ _
  have sound_move := Sound.move machine machine.signal.demand
    (Moves.act acts sound.signal sound.attentive owned call)
    (machine.signal.moving_subset machine.world.loop) (total ▸ sound.settled) sound.attentive sound.fits
    fun changes =>
      sound.conveyed changes fun asked => ⟨carried asked, machine.signal.steady machine.world.loop⟩
  rw [← total] at sound_move
  exact ⟨sound_move.1, passes (machine.signal.moving_subset machine.world.loop) sound_move.2⟩

/-- The innermost frame receives what was just done. -/
theorem Sound.deliver (sound : machine.Sound strict) {frame : Frame} {below : List Frame}
    (clean : machine.world.loop.dropped = []) (done : act? machine.signal = none)
    (split : machine.frames = frame :: below)
    (carried : strict → machine.runs ≤ 1 ∧
      (machine.move below (deliver machine.signal frame)).world.loop.closed = false) :
    (machine.move below (Machine.deliver machine.signal frame)).Sound strict ∧
      machine.Passes frame.aspects (machine.move below (Machine.deliver machine.signal frame)) := by
  have fits := split ▸ sound.fits
  have first : frame ∈ machine.frames := split ▸ List.mem_cons_self
  have owner : ownerOf machine.frames = frame.task? := by
    rw [split]
    rfl
  have owned (task : TaskId) (about : frame.demand.task = some task) :
      ownerOf below = some task := fits.2.ownerOf about
  have total : stakesOf machine.stations = stakesOf machine.signal.stations +
      (stakesOf frame.stations + stakesOf (below.flatMap Frame.stations)) := by
    rw [stations, split, List.flatMap_cons, stakesOf_append, stakesOf_append]
  have sound_move := Sound.move machine frame.demand
    (Moves.deliver machine.signal frame done fits.1 (sound.frames frame first) (owner ▸ sound.signal)
      owned clean) frame.moving_subset (total ▸ sound.settled) sound.attentive fits.2 ?_
  · rw [← total] at sound_move
    exact ⟨sound_move.1, passes frame.moving_subset sound_move.2⟩
  · intro changes other member
    have later : other ∈ machine.frames := split ▸ List.mem_cons_of_mem frame member
    by_cases asked : strict
    · obtain ⟨single, opened⟩ := carried asked
      have fewer : below.countP Frame.isRun ≤ 1 := by
        rw [runs, split, List.countP_cons] at single
        omega
      cases frame with
      | iteration left =>
        exact attended_of_task (sound.frames other later)
          (task_below_iteration fits.2 fewer member) changes.grows.loop
      | closing value =>
        have closed := changes.grows.loop.closed (sound.frames _ first)
        rw [opened] at closed
        cases closed
      | repeated | running =>
        exact sound.conveyed changes (fun _ => ⟨opened, iterating_steady⟩) other later
      | poll => exact sound.conveyed changes (fun _ => ⟨opened, polling_steady⟩) other later
      | afterData | afterEnd | afterLoss =>
        exact sound.conveyed changes (fun _ => ⟨opened, trafficking_steady⟩) other later
      | script | program | letGo | holding | rounds | joining | selecting =>
        exact sound.conveyed changes (fun _ => ⟨opened, moving_steady⟩) other later
    · exact sound.conveyed changes (fun holds => absurd holds asked) other later

/-- Every move of a machine leads from a sound state to a sound state. -/
theorem Sound.next (sound : machine.Sound strict) {after : Machine}
    (moves : machine.next = some after)
    (carried : strict → machine.runs ≤ 1 ∧ after.world.loop.closed = false) :
    after.Sound strict ∧ machine.Passes machine.changing after := by
  unfold Machine.next at moves
  unfold changing
  cases dropped : machine.world.loop.dropped with
  | cons ref refs =>
    rw [dropped] at moves
    cases moves
    exact sound.settle dropped fun asked => (carried asked).2
  | nil =>
    rw [dropped] at moves
    dsimp only at moves ⊢
    cases acts : act? machine.signal with
    | some step =>
      rw [acts] at moves
      cases moves
      exact sound.act acts fun asked => (carried asked).2
    | none =>
      rw [acts] at moves
      dsimp only at moves ⊢
      cases split : machine.frames with
      | nil =>
        rw [split] at moves
        cases moves
      | cons frame below =>
        rw [split] at moves
        cases moves
        exact sound.deliver dropped acts split carried

/-! ## What a sound state is like -/

variable {after : Machine}

/-- A step goes its way by changes. -/
theorem Passes.changes {aspects : List Aspect} (passes : machine.Passes aspects after)
    (sound : machine.Sound strict) (more : moving ⊆ aspects) :
    Changes (openTo []) aspects machine.world after.world :=
  World.Course.changes passes sound.settled more

/-- As long as the loop is open, the innermost frame does not wait for it to be closed. -/
theorem Sound.not_closing (sound : machine.Sound strict) {value : Value} {below : List Frame}
    (split : machine.frames = .closing value :: below)
    (passes : machine.Passes (Frame.closing value).aspects after)
    (opened : after.world.loop.closed = false) : False := by
  have closed := sound.frames (.closing value) (split ▸ List.mem_cons_self)
  have shut := (passes.changes sound (Frame.closing value).moving_subset).grows.loop.closed closed
  rw [opened] at shut
  cases shut

/-- The frames and the loop hold all the stakes while the signal has no stations. -/
theorem Sound.settled_below (sound : machine.Sound strict) (none : machine.signal.stations = []) :
    Settled [] (stakesOf (machine.frames.flatMap Frame.stations) + machine.world.loop.stakes)
      machine.world := by
  have settled := sound.settled
  unfold stakes stations at settled
  rwa [none, List.nil_append] at settled

/-- A run that receives the end of an iteration holds no stakes. -/
theorem Sound.settled_run (sound : machine.Sound strict) {result : Except Error Unit} {frame : Frame}
    {below : List Frame} (signal : machine.signal = .iterated result)
    (split : machine.frames = frame :: below) (run : frame.isRun = true) :
    Settled [] (stakesOf (below.flatMap Frame.stations) + machine.world.loop.stakes) machine.world := by
  have settled := sound.settled_below (by rw [signal]; rfl)
  rwa [split, List.flatMap_cons, Moves.stations_run run] at settled

end Machine

end EventLoop

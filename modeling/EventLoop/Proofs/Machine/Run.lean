import EventLoop.Proofs.Machine.Sound
import EventLoop.Scenario

/-!
# Runs

A run begins with a loop that was just built. The machine moves until it halts, and then the next
instruction from outside is begun. Every state of a run is sound.
-/
namespace EventLoop

open Script (Instruction)
open World (Settled Performs Does Turn.calm Orderly leaving moving halting shelter)

namespace Machine

/-- The machine that begins the next instruction from outside; what was written down was taken. -/
def instructed (machine : Machine) (instruction : Instruction) : Machine :=
  move ⟨(Scenario.takeLog machine.world).2, [], .proceed⟩ [] (beginInstruction .outside instruction)

/-- One step of a run. -/
inductive Step : Machine → Machine → Prop
  /-- The machine moves. -/
  | moved {before after : Machine} (moves : before.next = some after) : Step before after
  /-- The machine has halted, and an instruction from outside is begun. -/
  | begun {before : Machine} (halted : before.next = none) (instruction : Instruction) :
      Step before (before.instructed instruction)

/-- A loop was just built. -/
inductive Initial : Machine → Prop
  /-- Building succeeded. -/
  | built {scenario : Scenario} {world : World} (success : scenario.build = (.ok (), world)) :
      Initial ⟨world, [], .answer .null⟩

/-- As long as something that was given up is left to look at, the machine looks at it. -/
theorem next_of_dropped {machine : Machine} {ref : Ref} {refs : List Ref}
    (dropped : machine.world.loop.dropped = ref :: refs) : machine.next =
      some { machine with world := (World.settleDropped ref refs machine.holding).2 } := by
  unfold Machine.next
  rw [dropped]
  rfl

/-- If nothing that was given up is left to look at, the signal moves the machine. -/
theorem next_of_act {machine : Machine} {step : WorldM Move} (clean : machine.world.loop.dropped = [])
    (acts : act? machine.signal = some step) :
    machine.next = some (machine.move machine.frames step) := by
  unfold Machine.next
  rw [clean, acts]

/-- If the signal asks for nothing to be done, the innermost frame receives it. -/
theorem next_of_done {machine : Machine} {frame : Frame} {below : List Frame}
    (clean : machine.world.loop.dropped = []) (done : act? machine.signal = none)
    (split : machine.frames = frame :: below) :
    machine.next = some (machine.move below (deliver machine.signal frame)) := by
  unfold Machine.next
  rw [clean, done, split]

/-- What a step of a run does. -/
inductive Step.Does (machine : Machine) : Machine → Prop
  /-- A reference that was given up is looked at. -/
  | settled {ref : Ref} {refs : List Ref} (dropped : machine.world.loop.dropped = ref :: refs) :
      Does machine { machine with world := (World.settleDropped ref refs machine.holding).2 }
  /-- The signal is acted on. -/
  | acted {step : WorldM Move} (clean : machine.world.loop.dropped = [])
      (acts : act? machine.signal = some step) : Does machine (machine.move machine.frames step)
  /-- The innermost frame receives what was just done. -/
  | delivered {frame : Frame} {below : List Frame} (clean : machine.world.loop.dropped = [])
      (done : act? machine.signal = none) (split : machine.frames = frame :: below) :
      Does machine (machine.move below (deliver machine.signal frame))
  /-- An instruction from outside is begun. -/
  | begun (halted : machine.next = none) (instruction : Instruction) :
      Does machine (machine.instructed instruction)

/-- A step does one of four things. -/
theorem Step.does {machine after : Machine} (step : Step machine after) : Step.Does machine after := by
  cases step with
  | begun halted instruction => exact .begun halted instruction
  | moved moves =>
    unfold Machine.next at moves
    cases dropped : machine.world.loop.dropped with
    | cons ref refs =>
      rw [dropped] at moves
      cases moves
      exact .settled dropped
    | nil =>
      rw [dropped] at moves
      dsimp only at moves
      cases acts : act? machine.signal with
      | some step =>
        rw [acts] at moves
        cases moves
        exact .acted dropped acts
      | none =>
        rw [acts] at moves
        dsimp only at moves
        cases split : machine.frames with
        | nil =>
          rw [split] at moves
          cases moves
        | cons frame below =>
          rw [split] at moves
          cases moves
          exact .delivered dropped acts split

/-- A machine that moves does so in the next step. -/
theorem Step.eq_of_next {machine after moved : Machine} (step : Step machine after)
    (next : machine.next = some moved) : after = moved := by
  cases step with
  | moved moves => exact Option.some.inj (moves.symm.trans next)
  | begun halted =>
    rw [next] at halted
    cases halted

/-- The states of runs all of whose states are of a certain sort. -/
inductive Visits (sort : Machine → Prop) : Machine → Prop
  /-- The first state of a run. -/
  | initial {start : Machine} (initial : Initial start) (fine : sort start) : Visits sort start
  /-- The state after a step. -/
  | step {before after : Machine} (earlier : Visits sort before) (step : Step before after)
      (fine : sort after) : Visits sort after

/-- The states of all runs. -/
def Reachable (machine : Machine) : Prop := Visits (fun _ => True) machine

variable {strict : Prop} {sort : Machine → Prop} {machine before after : Machine}

/-- A callback that is started is run by the next step. -/
theorem Sound.eq_move_of_called {callback : Callback} (sound : machine.Sound strict)
    (called : machine.signal = .call callback) (step : Step machine after) :
    after = machine.move machine.frames (runCallback callback) := by
  have acts : act? machine.signal = some (runCallback callback) := by rw [called]; rfl
  exact step.eq_of_next (next_of_act (sound.call callback called).1 acts)

/-- Every state of a run is of the sort that all of its states are of. -/
theorem Visits.fine (visits : Visits sort machine) : sort machine := by
  cases visits with
  | initial _ fine => exact fine
  | step _ _ fine => exact fine

/-- Every state of a run of a certain sort is a state of a run. -/
theorem Visits.reachable (visits : Visits sort machine) : machine.Reachable := by
  induction visits with
  | initial initial => exact .initial initial trivial
  | step _ step _ ih => exact .step ih step trivial

/-- The states of a run of one sort are states of a run of a wider one. -/
theorem Visits.mono {wider : Machine → Prop} (visits : Visits sort machine)
    (wide : ∀ state, sort state → wider state) : Visits wider machine := by
  induction visits with
  | initial initial fine => exact .initial initial (wide _ fine)
  | step _ step fine ih => exact .step ih step (wide _ fine)

/-- The states that later steps of a run lead to, if all of them are of a certain sort. -/
def Onward (sort : Machine → Prop) : Machine → Machine → Prop :=
  Relation.ReflTransGen fun before after => Step before after ∧ sort after

/-- What steps to states of one sort lead to is what steps to states of a wider one lead to. -/
theorem Onward.mono {wider : Machine → Prop} (onward : Onward sort before after)
    (wide : ∀ state, sort state → wider state) : Onward wider before after :=
  Relation.ReflTransGen.mono (fun _ _ step => ⟨step.1, wide _ step.2⟩) _ _ onward

/-- What later steps of a run lead to is a state of the run. -/
theorem Visits.onward (visits : Visits sort before) (onward : Onward sort before after) :
    Visits sort after := by
  induction onward with
  | refl => exact visits
  | tail _ last ih => exact .step ih last.1 last.2

/-- The loop is open. -/
def IsOpen (machine : Machine) : Prop := machine.world.loop.closed = false

/-! ## Particular runs -/

/-- Moves until the machine halts or would leave the states of a sort, at most the given number of
times. -/
def runWithin (sort : Machine → Bool) : Nat → Machine → Machine
  | 0, machine => machine
  | moves + 1, machine =>
    match machine.next with
    | none => machine
    | some after => if sort after then runWithin sort moves after else machine

/-- Does instructions from outside one after another and moves on until the machine halts, as long as
its states are of a sort. -/
def drive (sort : Machine → Bool) (moves : Nat) : Machine → List Instruction → Machine
  | machine, [] => machine
  | machine, instruction :: rest =>
    match machine.next with
    | some _ => machine
    | none =>
      match sort (machine.instructed instruction) with
      | true => drive sort moves (runWithin sort moves (machine.instructed instruction)) rest
      | false => machine

/-- A loop that was just built, with the scripted proactor. -/
def scripted : Machine :=
  let scenario : Scenario := ⟨{ completer := .scripted }, {}, []⟩
  ⟨scenario.build.2, [], .answer .null⟩

/-- The machine with a scripted completer is in an initial state. -/
theorem initial_scripted : Initial scripted := .built (Prod.ext rfl rfl)

/-- A machine that runs through states of a sort goes onward through them. -/
theorem onward_runWithin (sort : Machine → Bool) (moves : Nat) (machine : Machine) :
    Onward (sort · = true) machine (machine.runWithin sort moves) := by
  induction moves generalizing machine with
  | zero => exact .refl
  | succ moves ih =>
    unfold runWithin
    split
    · exact .refl
    · rename_i after moved
      split
      · rename_i fine
        exact .head ⟨.moved moved, fine⟩ (ih after)
      · exact .refl

/-- Instructions drive the machine to states that later steps of its run lead to. -/
theorem onward_drive (sort : Machine → Bool) (moves : Nat) (machine : Machine)
    (instructions : List Instruction) :
    Onward (sort · = true) machine (machine.drive sort moves instructions) := by
  induction instructions generalizing machine with
  | nil => exact .refl
  | cons instruction rest ih =>
    unfold drive
    split
    · exact .refl
    · rename_i halted
      split
      · rename_i fine
        exact .head ⟨.begun halted instruction, fine⟩ ((onward_runWithin sort moves _).trans (ih _))
      · exact .refl

/-- The states to which instructions drive the machine are states of a run. -/
theorem Visits.drive {sort : Machine → Bool} (visits : Visits (sort · = true) machine) (moves : Nat)
    (instructions : List Instruction) :
    Visits (sort · = true) (machine.drive sort moves instructions) :=
  visits.onward (onward_drive sort moves machine instructions)

/-- Whatever instructions from outside lead to is a state of a run. -/
theorem reachable_drive (moves : Nat) (instructions : List Instruction) :
    (scripted.drive (fun _ => true) moves instructions).Reachable :=
  Visits.reachable (.drive (.initial initial_scripted rfl) moves instructions)

/-- Whether the loop is open. -/
def openly (machine : Machine) : Bool := !machine.world.loop.closed

/-- The states to which instructions drive the machine openly are states of a run on an open loop. -/
theorem visits_openly (moves : Nat) (instructions : List Instruction) :
    Visits IsOpen (scripted.drive openly moves instructions) := by
  refine Visits.mono (.drive (.initial initial_scripted rfl) moves _) fun machine fine => ?_
  unfold openly at fine
  rw [Bool.not_eq_true'] at fine
  exact fine

/-! ## The first state -/

/-- Nothing is at stake in a world without tasks, primitives and connections. -/
theorem settled_bare (host : Host) (settings : Settings) (completer : Completer)
    (none : completer.futures = []) (keyed : completer.Keyed) :
    Settled [] 0 { host, settings, completer } := by
  have entries (gate : Gate) :
      ({ host, settings, completer } : World).entries gate = [] := by
    cases gate <;> rfl
  have free {future : FutureId} :
      ¬ World.Engaged (placesOf 0) { host, settings, completer } future := by
    rintro (⟨gate, member⟩ | ⟨gate, member⟩)
    · rw [entries] at member
      cases member
    · cases member
  have loop : Loop.Within (shelter [] (placesOf 0) { host, settings, completer }).known 0 {} :=
    ⟨Nat.zero_le _, fun found => (nomatch found), fun _ member => (nomatch member),
      fun _ member => (nomatch member), fun _ member => (nomatch member)⟩
  refine ⟨⟨?_, fun used => absurd used free, fun used => absurd used free,
    fun member => (nomatch member), Multiset.nodup_zero, ?_, ?_⟩, fun _ member => (nomatch member)⟩
  · refine ⟨loop, fun member => (nomatch member), ?_, keyed, fun found => (nomatch found),
      fun found => (nomatch found), fun found => (nomatch found), List.nil_subset _⟩
    intro future member
    rw [none] at member
    cases member
  · intro gate
    rw [entries]
    exact List.nodup_nil
  · intro gate other future here
    rw [entries] at here
    cases here

/-- A completer that was just made has no operations. -/
theorem idle_makeCompleter {choice : CompleterChoice} {settings : Settings} {host after : Host}
    {completer : Completer}
    (made : Scenario.makeCompleter choice settings host = (.ok completer, after)) :
    completer.futures = [] ∧ completer.Keyed := by
  unfold Scenario.makeCompleter at made
  cases choice with
  | scripted =>
    cases made
    exact ⟨rfl, trivial⟩
  | standard | engine limit =>
    simp only [StateM.bind_apply] at made
    generalize Host.silent (·.makePoller) host = opened at made
    rcases opened with ⟨error | poller, reached⟩
    · cases made
    · cases made
      exact ⟨rfl, List.nodup_nil⟩

/-- Building the loop has nothing to do with programs. -/
theorem calm_buildLoop (scope : Scope) (n : Nat) (world : World) :
    Does scope n (.shutting :: World.calm) world Scenario.buildLoop World.anyhow := by
  refine Does.get (Does.bind (World.Calm.shutting (World.Calm.message _ _)) fun _ _ _ => ?_)
  refine Does.bind World.Calm.makePipe fun result _ _ => ?_
  cases result with
  | ok => exact Does.nothing
  | error error =>
    exact Does.bind (World.Calm.shutting World.Calm.closePoller) fun _ _ _ => Does.nothing

/-- A world without tasks, primitives and connections. -/
inductive Bare : World → Prop
  /-- It has a host and a completer without operations. -/
  | intro (host : Host) (settings : Settings) (completer : Completer)
      (none : completer.futures = []) (keyed : completer.Keyed) : Bare { host, settings, completer }

/-- A loop that was just built was a bare world before. -/
theorem Initial.course (initial : Initial machine) : machine.frames = [] ∧
    machine.signal = .answer .null ∧ ∃ bare, Bare bare ∧ Settled [] 0 bare ∧
      World.Course [] halting (0, bare) (machine.stakes, machine.world) := by
  cases initial
  rename_i scenario world success
  refine ⟨rfl, rfl, ?_⟩
  unfold Scenario.build at success
  split at success
  · cases success
  · dsimp only at success
    split at success
    · cases success
    · rename_i settings _ _ completer host made
      obtain ⟨none, keyed⟩ := idle_makeCompleter made
      have settled := settled_bare host settings completer none keyed
      refine ⟨_, .intro host settings completer none keyed, settled, ?_⟩
      have performs : Performs [] halting 0 ({ host, settings, completer } : World)
          Scenario.buildLoop (leaving 0) :=
        (Performs.quietly (by decide) (by decide) fun _ => calm_buildLoop _ _ _).leaves
      obtain ⟨left, deeds, rfl⟩ := performs settled
      have reached : (Scenario.buildLoop { host, settings, completer }).2 = world :=
        congrArg Prod.snd success
      rw [reached] at deeds
      exact Or.inl deeds

/-- A loop that was just built is sound. -/
theorem Initial.sound {machine : Machine} (initial : Initial machine) (strict : Prop) :
    machine.Sound strict := by
  obtain ⟨frames, signal, bare, ⟨host, settings, completer, none, -⟩, settled, course⟩ := initial.course
  have changes := course.changes settled (List.subset_cons_self _ _)
  have attentive : ({ host, settings, completer } : World).Attentive := fun holds => nomatch holds
  refine ⟨course.settled settled, ?_, ?_, ?_, changes.attentive attentive, ?_⟩
  · rw [frames, signal]
    exact Demand.le_refl _
  · rw [frames]
    exact fun _ member => nomatch member
  · rw [signal]
    trivial
  · rw [signal]
    exact fun _ same => nomatch same

/-! ## Instructions from outside -/

/-- A machine that has halted has an answer and nothing else. -/
theorem Sound.answered (sound : machine.Sound strict) (halted : machine.next = none) :
    machine.world.loop.dropped = [] ∧ machine.frames = [] ∧ ∃ value, machine.signal = .answer value := by
  unfold Machine.next at halted
  cases dropped : machine.world.loop.dropped with
  | cons ref refs =>
    rw [dropped] at halted
    cases halted
  | nil =>
    rw [dropped] at halted
    dsimp only at halted
    cases acts : act? machine.signal with
    | some step =>
      rw [acts] at halted
      cases halted
    | none =>
      rw [acts] at halted
      dsimp only at halted
      cases split : machine.frames with
      | cons frame below =>
        rw [split] at halted
        cases halted
      | nil =>
        refine ⟨rfl, rfl, ?_⟩
        have fits := sound.fits
        rw [split] at fits
        have kinds : machine.signal.demand.kinds ⊆ [.answer] := fits.kinds
        cases signal : machine.signal with
        | answer value => exact ⟨value, rfl⟩
        | proceed | iterated | ended | returned | suspended | waiting =>
          rw [signal] at kinds
          exact absurd (kinds List.mem_cons_self) (by decide)
        | call | script | program | resume | retry | join | select =>
          rw [signal] at acts
          cases acts

/-- A machine that has halted holds nothing. -/
theorem Sound.held_of_halted (sound : machine.Sound strict) (halted : machine.next = none) :
    machine.held = [] := by
  obtain ⟨-, empty, value, answer⟩ := sound.answered halted
  unfold held
  rw [empty, answer]
  rfl

/-- The world in which an instruction from outside is begun is within bounds. -/
theorem Sound.within_outside (sound : machine.Sound strict) (halted : machine.next = none) :
    (Machine.holding ⟨(Scenario.takeLog machine.world).2, [], .proceed⟩).Within (World.openTo []) 0 := by
  have before := sound.within
  unfold Machine.holding at before
  rw [sound.held_of_halted halted] at before
  exact (World.Change.surroundings { machine.world with held := [] } _ _ _ _).within before

/-- An instruction from outside that is begun after the machine has halted leads to a sound state. -/
theorem Sound.instructed (sound : machine.Sound strict) (halted : machine.next = none)
    (instruction : Instruction) :
    (machine.instructed instruction).Sound strict ∧
      machine.Passes (instruction.aspects machine.world.loop) (machine.instructed instruction) := by
  obtain ⟨-, empty, value, signal⟩ := sound.answered halted
  let start : Machine := ⟨(Scenario.takeLog machine.world).2, [], .proceed⟩
  have stakes : machine.stakes = 0 + machine.world.loop.stakes := by
    rw [stakes, stations, signal, empty]
    rfl
  have steady := instruction.moving_subset machine.world.loop
  have look : World.Deed [] (instruction.aspects machine.world.loop) machine.stakes machine.world
      machine.stakes start.world :=
    .changed _ (steady (by decide)) Aspect.noConfusion Aspect.noConfusion
      (.surroundings machine.world _ _ _ _)
  have settled : Settled [] (0 + start.world.loop.stakes) start.world := by
    rw [stakes] at look
    have settled := sound.settled
    rw [stakes] at settled
    exact look.settled settled
  have attentive : start.world.Attentive := sound.attentive
  have moves : Moves start.held (instruction.aspects machine.world.loop) strict
      { kinds := [.answer] } (ownerOf []) 0 (stakesOf (([] : List Frame).flatMap Frame.stations)) start.holding
      (beginInstruction .outside instruction) :=
    Moves.beginInstruction instruction List.mem_cons_self
      (Moves.after (World.Doing.doInstruction _ _) fun _ _ _ => Moves.answer _ List.mem_cons_self)
  obtain ⟨ended, course⟩ := Sound.move start { kinds := [.answer] } moves steady settled
    attentive (Demand.le_refl _) fun _ _ member => absurd member List.not_mem_nil
  have rest : start.Passes (instruction.aspects machine.world.loop) (machine.instructed instruction) :=
    passes steady course
  have begun : World.Course [] (instruction.aspects machine.world.loop) (machine.stakes, start.world)
      ((machine.instructed instruction).stakes, (machine.instructed instruction).world) := by
    rw [stakes]
    exact rest
  refine ⟨ended, World.Course.head ?_ begun⟩
  exact look

/-! ## Every state of a run -/

/-- A step of a run leads from a sound state to a sound state. -/
theorem Sound.step (sound : machine.Sound strict) {after : Machine} (step : Step machine after)
    (carried : strict → machine.runs ≤ 1 ∧ after.world.loop.closed = false) :
    after.Sound strict := by
  cases step with
  | moved moves => exact (sound.next moves carried).1
  | begun halted instruction => exact (sound.instructed halted instruction).1

/-- Every state of a run is sound, strictly so if the loop stays open and no run goes on within another
one. -/
theorem Visits.sound (visits : Visits sort machine)
    (carried : strict → ∀ state, sort state → state.runs ≤ 1 ∧ state.world.loop.closed = false) :
    machine.Sound strict := by
  induction visits with
  | initial initial => exact initial.sound strict
  | step earlier step fine ih =>
    exact ih.step step fun asked =>
      ⟨(carried asked _ earlier.fine).1, (carried asked _ fine).2⟩

/-- Every state of every run is sound. -/
theorem Reachable.sound (reachable : machine.Reachable) : machine.Sound False :=
  Visits.sound reachable fun asked => asked.elim

/-- What holds in the beginning of a run and is kept by each of its steps holds in the state that it reaches. -/
theorem Reachable.along {states : Nat → Machine} {count : Nat} (reachable : (states 0).Reachable)
    (holds : Nat → Prop)
    (steps : ∀ number < count, Step (states number) (states (number + 1))) (first : holds 0)
    (keeps : ∀ number, (states number).Reachable → Step (states number) (states (number + 1)) →
      holds number → holds (number + 1)) : (states count).Reachable ∧ holds count := by
  induction count with
  | zero => exact ⟨reachable, first⟩
  | succ count ih =>
    obtain ⟨reached, here⟩ := ih fun number few => steps number (Nat.lt_succ_of_lt few)
    have step := steps count (Nat.lt_succ_self count)
    exact ⟨.step reached step trivial, keeps count reached step here⟩

/-- Every step of a run makes its way. -/
theorem Reachable.passes (reachable : before.Reachable) (step : Step before after) :
    ∃ aspects, before.Passes aspects after := by
  have sound := Reachable.sound reachable
  cases step with
  | moved moves => exact ⟨_, (sound.next moves fun asked => asked.elim).2⟩
  | begun halted instruction => exact ⟨_, (sound.instructed halted instruction).2⟩

/-- A law of the world and of what is at stake in it that deeds and the taking of places keep. -/
structure Persists (law : Multiset Stake → World → Prop) : Prop where
  /-- Deeds keep it. -/
  deed : ∀ {aspects stakes left before after}, World.Deed [] aspects stakes before left after →
    Settled [] stakes before → law stakes before → law left after
  /-- The taking of a place keeps it. -/
  parking : ∀ {stakes left before after}, World.Parking stakes before left after →
    Settled [] stakes before → law stakes before → law left after

namespace Persists

variable {law : Multiset Stake → World → Prop}

/-- A law that persists holds after deeds. -/
theorem deeds (persists : Persists law) {aspects : List Aspect} {before after : Multiset Stake × World}
    (deeds : World.Deeds [] aspects before after) (settled : Settled [] before.1 before.2)
    (holds : law before.1 before.2) : law after.1 after.2 := by
  induction deeds with
  | refl => exact holds
  | tail earlier last ih => exact persists.deed last (World.Deeds.settled earlier settled) ih

/-- A law that persists holds on the way from one state to another. -/
theorem course (persists : Persists law) {aspects : List Aspect} {before after : Multiset Stake × World}
    (course : World.Course [] aspects before after) (settled : Settled [] before.1 before.2)
    (holds : law before.1 before.2) : law after.1 after.2 := by
  rcases course with deeds | ⟨middle, deeds, parking⟩
  · exact persists.deeds deeds settled holds
  · exact persists.parking parking (deeds.settled settled) (persists.deeds deeds settled holds)

/-- A law that persists holds after a step of a run if it held before. -/
theorem step (persists : Persists law) (reachable : before.Reachable) (step : Step before after)
    (holds : law before.stakes before.world) : law after.stakes after.world := by
  obtain ⟨aspects, passes⟩ := reachable.passes step
  exact persists.course passes (Reachable.sound reachable).settled holds

/-- A law that persists holds from the moment on at which it holds first. -/
theorem onward (persists : Persists law) (visits : Visits sort before)
    (onward : Onward sort before after) (holds : law before.stakes before.world) :
    law after.stakes after.world := by
  induction onward with
  | refl => exact holds
  | tail earlier last ih => exact persists.step (visits.onward earlier).reachable last.1 ih

end Persists

/-- A law that persists and holds in the beginning. -/
structure Upheld (law : Multiset Stake → World → Prop) : Prop extends Persists law where
  /-- It holds of a bare world, in which nothing is at stake. -/
  bare : ∀ {world : World}, Bare world → law 0 world

namespace Upheld

variable {law : Multiset Stake → World → Prop}

/-- A law that is upheld holds in every state of every run. -/
theorem reachable (upheld : Upheld law) (reachable : machine.Reachable) :
    law machine.stakes machine.world := by
  induction reachable with
  | initial initial =>
    obtain ⟨-, -, bare, isBare, settled, course⟩ := initial.course
    exact upheld.course course settled (upheld.bare isBare)
  | step earlier step _ ih => exact upheld.step earlier step ih

end Upheld

/-- A law of the world that deeds and the taking of places keep. -/
structure Lasting (law : World → Prop) : Prop where
  /-- It holds of a bare world. -/
  bare : ∀ {world : World}, Bare world → law world
  /-- Deeds keep it. -/
  deed : ∀ {aspects stakes left before after}, World.Deed [] aspects stakes before left after →
    Settled [] stakes before → law before → law after
  /-- The taking of a place keeps it. -/
  parking : ∀ {stakes left before after}, World.Parking stakes before left after →
    Settled [] stakes before → law before → law after

namespace Lasting

variable {law : World → Prop}

/-- A law that lasts is upheld, whatever is at stake. -/
theorem upheld (lasting : Lasting law) : Upheld fun _ => law :=
  ⟨⟨lasting.deed, lasting.parking⟩, lasting.bare⟩

/-- A law that lasts holds in every state of every run. -/
theorem reachable (lasting : Lasting law) (reachable : machine.Reachable) : law machine.world :=
  lasting.upheld.reachable reachable

end Lasting

end Machine

end EventLoop

import EventLoop.Machine.Step

/-!
# The discipline of frames

Each frame can receive certain signals only, and sends certain signals down when it is done. `Fits`
says that every frame receives what it can from the frame above it, all the way down. The frames of
one poll belong to one task, and a poll goes on only within an iteration of a run.
-/
namespace EventLoop

/-- The kinds of signals that say what was just done. -/
inductive Kind
  /-- The innermost frame goes on. -/
  | proceed
  /-- An instruction has a value. -/
  | answer
  /-- An iteration or a run has ended. -/
  | iterated
  /-- A program has ended. -/
  | ended
  /-- A program was told to end. -/
  | returned
  /-- A program has to wait. -/
  | suspended
  /-- An instruction has to wait. -/
  | waiting
  deriving DecidableEq

/-- What may be sent down to a frame. -/
structure Demand where
  /-- The kinds of signals. -/
  kinds : List Kind
  /-- The task that the signals are about, if they are about one. -/
  task : Option TaskId := none
  /-- Whether this is from within an iteration of a run. -/
  looping : Bool := false
  deriving DecidableEq

namespace Demand

/-- The end of a program of a task. -/
def ending (task : TaskId) : Demand := { kinds := [.ended, .returned, .suspended], task := some task }

/-- The end of an instruction of a task that may tell the program to end. -/
def leaving (task : TaskId) : Demand := { kinds := [.answer, .returned, .waiting], task := some task }

/-- The end of an instruction of a task. -/
def answering (task : TaskId) : Demand := { kinds := [.answer, .waiting], task := some task }

/-- No more may be sent down than otherwise. -/
structure Le (demand other : Demand) : Prop where
  kinds : demand.kinds ⊆ other.kinds
  task : ∀ task, demand.task = some task → other.task = some task
  looping : demand.looping = true → other.looping = true

instance : LE Demand := ⟨Le⟩

/-- A demand is as strong as itself. -/
theorem le_refl (demand : Demand) : demand ≤ demand :=
  ⟨List.Subset.refl _, fun _ => id, id⟩

/-- Demands that grow stronger twice are stronger. -/
theorem le_trans {first second third : Demand} (less : first ≤ second) (more : second ≤ third) :
    first ≤ third :=
  ⟨List.Subset.trans less.kinds more.kinds, fun task same => more.task task (less.task task same),
    fun looping => more.looping (less.looping looping)⟩

/-- One kind of signals is no more than all that may be sent down. -/
theorem single_le {demand : Demand} {kind : Kind} (member : kind ∈ demand.kinds) :
    ({ kinds := [kind] } : Demand) ≤ demand :=
  ⟨fun _ here => List.mem_singleton.mp here ▸ member, fun _ same => (nomatch same),
    fun looping => (nomatch looping)⟩

/-- Who leaves a task waiting may be told that it waits. -/
theorem waiting_mem_leaving (task : TaskId) : Kind.waiting ∈ (leaving task).kinds := by
  simp [leaving]

/-- Whatever an instruction may send down, one that may tell the program to end may send down too. -/
theorem answering_le_leaving (task : TaskId) : answering task ≤ leaving task := by
  refine ⟨?_, fun _ => id, id⟩
  simp [answering, leaving]

end Demand

/-- What a signal leads to. -/
def Signal.demand : Signal → Demand
  | proceed => { kinds := [.proceed] }
  | answer _ => { kinds := [.answer] }
  | iterated _ => { kinds := [.iterated] }
  | call _ => { kinds := [.proceed], looping := true }
  | script .. => { kinds := [.proceed] }
  | program task .. | resume task _ => .ending task
  | retry task _ => .leaving task
  | join task .. | select task .. => .answering task
  | ended _ => { kinds := [.ended] }
  | returned _ => { kinds := [.returned] }
  | suspended _ => { kinds := [.suspended] }
  | waiting _ => { kinds := [.waiting] }

namespace Frame

/-- What a frame sends down. -/
def demand : Frame → Demand
  | script .. => { kinds := [.proceed] }
  | program task .. => .ending task
  | repeated _ | running _ | closing _ => { kinds := [.answer] }
  | iteration _ => { kinds := [.iterated] }
  | letGo _ | poll _ => { kinds := [.proceed], looping := true }
  | afterData _ | afterEnd _ | afterLoss _ => { kinds := [.proceed] }
  | holding task _ | rounds task .. => .leaving task
  | joining task .. | selecting task .. => .answering task

/-- The kinds of signals that a frame can receive. -/
def kinds : Frame → List Kind
  | script .. => [.answer]
  | program .. => [.answer, .returned, .waiting]
  | repeated _ | running _ => [.iterated]
  | iteration _ | letGo _ | afterData _ | afterEnd _ | afterLoss _ | closing _ => [.proceed]
  | poll _ | holding .. | rounds .. | joining .. | selecting .. => [.ended, .returned, .suspended]

/-- The task that a frame belongs to. -/
def task? : Frame → Option TaskId
  | program task .. | poll task | holding task _ | rounds task .. | joining task ..
  | selecting task .. => some task
  | script .. | repeated _ | running _ | iteration _ | letGo _ | afterData _ | afterEnd _
  | afterLoss _ | closing _ => none

/-- Whether a frame is one of an iteration itself. -/
def isOfIteration : Frame → Bool
  | iteration _ | letGo _ => true
  | script .. | program .. | repeated _ | running _ | afterData _ | afterEnd _ | afterLoss _
  | poll _ | holding .. | rounds .. | joining .. | selecting .. | closing _ => false

/-- Whether a frame is a run of the loop. -/
def isRun : Frame → Bool
  | repeated _ | running _ => true
  | script .. | program .. | iteration _ | letGo _ | afterData _ | afterEnd _ | afterLoss _
  | poll _ | holding .. | rounds .. | joining .. | selecting .. | closing _ => false

/-- A frame can receive whatever is sent down. -/
structure Takes (frame : Frame) (demand : Demand) : Prop where
  kinds : demand.kinds ⊆ frame.kinds
  task : ∀ task, demand.task = some task → frame.task? = some task
  looping : demand.looping = true → frame.isOfIteration = true

/-- A frame that can receive a kind of signals can receive a signal of that kind. -/
theorem Takes.single {frame : Frame} {kind : Kind} (member : kind ∈ frame.kinds) :
    frame.Takes { kinds := [kind] } :=
  ⟨fun _ here => List.mem_singleton.mp here ▸ member, fun _ same => (nomatch same),
    fun looping => (nomatch looping)⟩

/-- A frame that can receive something can receive less. -/
theorem Takes.mono {frame : Frame} {less more : Demand} (takes : frame.Takes more)
    (le : less ≤ more) : frame.Takes less :=
  ⟨List.Subset.trans le.kinds takes.kinds, fun task same => takes.task task (le.task task same),
    fun looping => takes.looping (le.looping looping)⟩

/-- A frame that goes on by itself receives nothing else. -/
theorem Takes.eq_proceed {frame : Frame} {signal : Signal} (takes : frame.Takes signal.demand)
    (only : frame.kinds = [.proceed]) (done : Machine.act? signal = none) : signal = .proceed := by
  have kinds := takes.kinds
  rw [only] at kinds
  cases signal with
  | proceed => rfl
  | answer | iterated | ended | returned | suspended | waiting =>
    exact absurd (kinds List.mem_cons_self) (by decide)
  | call | script | program | resume | retry | join | select => cases done

/-- A run receives the end of an iteration and nothing else. -/
theorem Takes.eq_iterated {frame : Frame} {signal : Signal} (takes : frame.Takes signal.demand)
    (only : frame.kinds = [.iterated]) (done : Machine.act? signal = none) :
    ∃ result, signal = .iterated result := by
  have kinds := takes.kinds
  rw [only] at kinds
  cases signal with
  | iterated result => exact ⟨result, rfl⟩
  | proceed | answer | ended | returned | suspended | waiting =>
    exact absurd (kinds List.mem_cons_self) (by decide)
  | call | script | program | resume | retry | join | select => cases done

end Frame

/-- Every frame can receive what is sent down to it; the last one answers. -/
def Fits : Demand → List Frame → Prop
  | demand, [] => demand ≤ { kinds := [.answer] }
  | demand, frame :: below => frame.Takes demand ∧ Fits frame.demand below

/-- Frames receive what is sent down to them and send down no more than a demand. -/
def Leads : Demand → List Frame → Demand → Prop
  | demand, [], down => demand ≤ down
  | demand, frame :: below, down => frame.Takes demand ∧ Leads frame.demand below down

/-- Frames on which something can be sent down can receive less. -/
theorem Fits.mono {frames : List Frame} {less more : Demand} (fits : Fits more frames)
    (le : less ≤ more) : Fits less frames := by
  cases frames with
  | nil => exact Demand.le_trans le fits
  | cons frame below => exact ⟨fits.1.mono le, fits.2⟩

/-- Frames that lead down to what others can receive can be put on top of them. -/
theorem Leads.fits {frames below : List Frame} {demand down : Demand}
    (leads : Leads demand frames down) (fits : Fits down below) : Fits demand (frames ++ below) := by
  induction frames generalizing demand with
  | nil => exact fits.mono leads
  | cons frame rest ih => exact ⟨leads.1, ih leads.2⟩

/-- Frames that receive less lead down as well. -/
theorem Leads.mono {frames : List Frame} {less more down : Demand} (leads : Leads more frames down)
    (le : less ≤ more) : Leads less frames down := by
  cases frames with
  | nil => exact Demand.le_trans le leads
  | cons frame below => exact ⟨leads.1.mono le, leads.2⟩

/-- Frames that lead down to what others can receive lead down on top of them. -/
theorem Leads.append {frames below : List Frame} {demand middle down : Demand}
    (leads : Leads demand frames middle) (further : Leads middle below down) :
    Leads demand (frames ++ below) down := by
  induction frames generalizing demand with
  | nil => exact further.mono leads
  | cons frame rest ih => exact ⟨leads.1, ih leads.2⟩

/-- The task of the innermost frame. -/
def ownerOf (frames : List Frame) : Option TaskId := frames.head?.bind Frame.task?

/-- The task of the innermost frame, when frames are put on top of others. -/
def ownerOver (frames : List Frame) (owner : Option TaskId) : Option TaskId :=
  match frames with
  | [] => owner
  | frame :: _ => frame.task?

/-- The owner of frames on top of others is found over the owner of those. -/
theorem ownerOf_append (frames below : List Frame) :
    ownerOf (frames ++ below) = ownerOver frames (ownerOf below) := by
  cases frames with
  | nil => rfl
  | cons frame rest => rfl

/-- What is sent down about a task is received by a frame of that task. -/
theorem Fits.ownerOf {frames : List Frame} {demand : Demand} {task : TaskId}
    (fits : Fits demand frames) (about : demand.task = some task) : ownerOf frames = some task := by
  cases frames with
  | nil => exact nomatch fits.task task about
  | cons frame below => exact fits.1.task task about

/-- Whatever is within an iteration of a run, or is about a task. -/
def Demand.isInside (demand : Demand) : Prop :=
  demand.looping = true ∨ Kind.iterated ∈ demand.kinds ∨ ∃ task, demand.task = some task

/-- A frame of a task goes on within an iteration. -/
theorem Frame.isInside_demand {frame : Frame} {task : TaskId} (same : frame.task? = some task) :
    frame.demand.isInside := by
  cases frame with
  | poll => exact Or.inl rfl
  | program | holding | rounds | joining | selecting => exact Or.inr (Or.inr ⟨_, rfl⟩)
  | script | repeated | running | iteration | letGo | afterData | afterEnd | afterLoss | closing =>
    cases same

/-- Within an iteration of a run there is a run. -/
theorem Fits.exists_run {frames : List Frame} {demand : Demand} (fits : Fits demand frames)
    (inside : demand.isInside) : ∃ frame ∈ frames, frame.isRun = true := by
  induction frames generalizing demand with
  | nil =>
    rcases inside with looping | iterated | ⟨task, about⟩
    · exact nomatch fits.looping looping
    · exact absurd (fits.kinds iterated) (by decide)
    · exact nomatch fits.task task about
  | cons frame below ih =>
    obtain ⟨takes, fits⟩ := fits
    have within (inside : frame.demand.isInside) :
        ∃ other ∈ frame :: below, other.isRun = true := by
      obtain ⟨other, member, run⟩ := ih fits inside
      exact ⟨other, List.mem_cons_of_mem frame member, run⟩
    rcases inside with looping | iterated | ⟨task, about⟩
    · have ofIteration := takes.looping looping
      cases frame with
      | letGo => exact within (Or.inl rfl)
      | iteration => exact within (Or.inr (Or.inl List.mem_cons_self))
      | _ => cases ofIteration
    · have received := takes.kinds iterated
      cases frame with
      | repeated | running => exact ⟨_, List.mem_cons_self, rfl⟩
      | _ => exact absurd received (by simp [Frame.kinds])
    · exact within (Frame.isInside_demand (takes.task task about))

/-- A frame of a task goes on within a run. -/
theorem Fits.exists_run_of_task {frames : List Frame} {demand : Demand} {frame : Frame}
    {task : TaskId} (fits : Fits demand frames) (member : frame ∈ frames)
    (same : frame.task? = some task) : ∃ other ∈ frames, other.isRun = true := by
  induction frames generalizing demand with
  | nil => cases member
  | cons first below ih =>
    have further : ∃ other ∈ below, other.isRun = true := by
      rcases List.mem_cons.mp member with rfl | later
      · exact fits.2.exists_run (Frame.isInside_demand same)
      · exact ih fits.2 later
    obtain ⟨other, member, run⟩ := further
    exact ⟨other, List.mem_cons_of_mem first member, run⟩

end EventLoop

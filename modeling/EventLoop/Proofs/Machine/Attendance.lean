import EventLoop.Proofs.Effect.Waits
import EventLoop.Proofs.Machine.Stack

/-!
# Attendance

While a task is polled, its program is spread over the signal and the frames. Whatever waits there is
tied to the task; what was polled already is to be woken as well, if that is asked for: it is `strict`
then.
-/
namespace EventLoop

open Script (Station Branch Activity)

variable {strict : Prop} {loop other : Loop} {id : TaskId} {stations : List Station}

namespace Loop

/-- The wakeup of whatever is waited for at some stations is still to come. -/
def Arms (loop : Loop) (id : TaskId) (stations : List Station) : Prop :=
  ∀ station ∈ stations, ∀ wait ∈ station.waits, loop.Armed (loop.wakerOf id) wait

/-- Whatever is waited for at some stations that were polled is tied to a task, and is to be woken if
that is asked for. -/
structure Polls (strict : Prop) (loop : Loop) (id : TaskId) (stations : List Station) : Prop where
  /-- It is tied to the task. -/
  ties : loop.Ties id stations
  /-- It is to be woken. -/
  arms : strict → loop.Arms id stations

/-- Nothing is waited for at no station. -/
theorem Ties.nil : loop.Ties id [] := fun _ member => nomatch member

/-- Stations may be put together if what is waited for at each of them is tied. -/
theorem Ties.append {more : List Station} (first : loop.Ties id stations)
    (second : loop.Ties id more) : loop.Ties id (stations ++ more) := by
  intro station member
  rcases List.mem_append.mp member with here | there
  · exact first station here
  · exact second station there

/-- What is waited for at fewer stations is tied as well. -/
theorem Ties.subset {fewer : List Station} (ties : loop.Ties id stations)
    (subset : fewer ⊆ stations) : loop.Ties id fewer :=
  fun station member => ties station (subset member)

/-- What is to be woken is tied. -/
theorem Arms.ties (arms : loop.Arms id stations) : loop.Ties id stations :=
  fun station member wait waits => (arms station member wait waits).toTied

/-- What is to be woken was polled. -/
theorem Arms.polls (arms : loop.Arms id stations) : loop.Polls strict id stations :=
  ⟨arms.ties, fun _ => arms⟩

namespace Polls

/-- No station was left unpolled if there is none. -/
theorem nil : loop.Polls strict id [] := ⟨.nil, fun _ _ member => nomatch member⟩

/-- Stations that were polled may be put together. -/
theorem append {more : List Station} (first : loop.Polls strict id stations)
    (second : loop.Polls strict id more) : loop.Polls strict id (stations ++ more) := by
  refine ⟨first.ties.append second.ties, fun asked station member => ?_⟩
  rcases List.mem_append.mp member with here | there
  · exact first.arms asked station here
  · exact second.arms asked station there

/-- Fewer stations were polled as well. -/
theorem subset {fewer : List Station} (polls : loop.Polls strict id stations)
    (subset : fewer ⊆ stations) : loop.Polls strict id fewer :=
  ⟨polls.ties.subset subset, fun asked station member => polls.arms asked station (subset member)⟩

/-- A guard waits for nothing. -/
theorem guarded (polls : loop.Polls strict id stations) (guard : Guard) :
    loop.Polls strict id (stations ++ [.guard guard]) := by
  refine polls.append ⟨fun station member wait waits => ?_, fun _ station member wait waits => ?_⟩
  · rw [List.mem_singleton.mp member] at waits
    cases waits
  · rw [List.mem_singleton.mp member] at waits
    cases waits

end Polls

/-- What the stations wait for is carried from one loop to another. -/
structure Conveys (strict : Prop) (refs : List Ref) (loop other : Loop) : Prop where
  /-- Nothing ceases to exist. -/
  grows : loop.Grows other
  /-- The futures are kept. -/
  keeps : ∀ future, .future future ∈ refs → Keeps future loop other
  /-- The futures are carried, and the loop is open, if that is asked for. -/
  carries : strict → other.closed = false ∧
    ∀ future, .future future ∈ refs → Carries future loop other

namespace Conveys

variable {refs : List Ref}

/-- What conveys some futures conveys fewer. -/
theorem subset {fewer : List Ref} (conveys : Conveys strict refs loop other)
    (subset : fewer ⊆ refs) : Conveys strict fewer loop other :=
  ⟨conveys.grows, fun future member => conveys.keeps future (subset member),
    fun asked => ⟨(conveys.carries asked).1,
      fun future member => (conveys.carries asked).2 future (subset member)⟩⟩

/-- What some stations wait for is among the objects that they keep alive. -/
theorem ref_mem {station : Station} {wait : Wait} (member : station ∈ stations)
    (waits : wait ∈ station.waits) :
    Ref.future wait.future ∈ (stations.flatMap Station.parts).filterMap World.partRef? := by
  obtain ⟨part, owned, same⟩ := List.mem_filterMap.mp (World.ref_of_wait waits)
  exact List.mem_filterMap.mpr ⟨part, List.mem_flatMap.mpr ⟨station, member, owned⟩, same⟩

/-- No task ceases to exist. -/
theorem exists_ (conveys : Conveys strict refs loop other) (exists_ : id < loop.tasks.size) :
    id < other.tasks.size :=
  Nat.lt_of_lt_of_le exists_ conveys.grows.size_tasks

/-- What is waited for at the stations stays tied to the task. -/
theorem ties
    (conveys : Conveys strict ((stations.flatMap Station.parts).filterMap World.partRef?) loop other)
    (exists_ : id < loop.tasks.size) (ties : loop.Ties id stations) : other.Ties id stations :=
  ties.keeps conveys.grows exists_ fun _ member _ waits =>
    conveys.keeps _ (ref_mem member waits)

/-- The stations stay polled. -/
theorem polls
    (conveys : Conveys strict ((stations.flatMap Station.parts).filterMap World.partRef?) loop other)
    (exists_ : id < loop.tasks.size) (polls : loop.Polls strict id stations) :
    other.Polls strict id stations := by
  refine ⟨conveys.ties exists_ polls.ties, fun asked station member wait waits => ?_⟩
  rw [conveys.grows.wakerOf exists_]
  have carried := conveys.carries asked
  exact (polls.arms asked station member wait waits).carries
    (carried.2 _ (ref_mem member waits)) carried.1

end Conveys

end Loop

/-- Whatever a frame holds of a program is attended to by the task of the frame; a loop that is being
closed takes no callbacks any more. -/
def Frame.Attended (strict : Prop) (loop : Loop) : Frame → Prop
  | program task .. | poll task | holding task _ | rounds task .. => task < loop.tasks.size
  | joining task before after => task < loop.tasks.size ∧
    loop.Polls strict task (Script.branchStations before) ∧
      loop.Ties task (Script.branchStations after)
  | selecting task before after => task < loop.tasks.size ∧
    loop.Polls strict task (Script.activityStations before) ∧
      loop.Ties task (Script.activityStations after)
  | closing _ => loop.closed = true
  | script .. | repeated _ | running _ | iteration _ | letGo _ | afterData _ | afterEnd _
  | afterLoss _ => True

/-- Whatever a signal holds of a program is attended to by its task; a program that has to wait belongs
to the task of the innermost frame. -/
def Signal.Attended (strict : Prop) (loop : Loop) (owner : Option TaskId) : Signal → Prop
  | program task .. => task < loop.tasks.size
  | resume task activity => task < loop.tasks.size ∧ loop.Ties task activity.stations
  | retry task pending => task < loop.tasks.size ∧ loop.Ties task pending.stations
  | join task before after => task < loop.tasks.size ∧
    loop.Polls strict task (Script.branchStations before) ∧
      loop.Ties task (Script.branchStations after)
  | select task before after => task < loop.tasks.size ∧
    loop.Polls strict task (Script.activityStations before) ∧
      loop.Ties task (Script.activityStations after)
  | suspended activity => ∀ task ∈ owner, loop.Polls strict task activity.stations
  | waiting pending => ∀ task ∈ owner, loop.Polls strict task pending.stations
  | proceed | answer _ | iterated _ | call _ | script .. | ended _ | returned _ => True

/-- The frames of branches keep alive what the stations of the branches own. -/
theorem branchRefs_eq (branches : List Branch) : branchRefs branches =
    ((Script.branchStations branches).flatMap Station.parts).filterMap World.partRef? := by
  rw [branchRefs, Script.branchParts_eq]

/-- The frames of programs keep alive what the stations of the programs own. -/
theorem activitiesRefs_eq (activities : List Activity) : activitiesRefs activities =
    ((Script.activityStations activities).flatMap Station.parts).filterMap World.partRef? := by
  rw [activitiesRefs, Script.activityParts_eq]

/-- A program keeps alive what its stations own. -/
theorem activityRefs_eq (activity : Activity) : World.activityRefs activity =
    (activity.stations.flatMap Station.parts).filterMap World.partRef? := by
  rw [World.activityRefs, activity.parts_eq]

/-- What a frame holds stays attended to while its futures are carried. -/
theorem Frame.Attended.conveyed {frame : Frame} (attended : frame.Attended strict loop)
    (conveys : Loop.Conveys strict frame.refs loop other) : frame.Attended strict other := by
  cases frame with
  | program | poll | holding | rounds => exact conveys.exists_ attended
  | joining task before after =>
    simp only [Frame.refs, branchRefs_eq] at conveys
    exact ⟨conveys.exists_ attended.1,
      (conveys.subset (List.subset_append_left _ _)).polls attended.1 attended.2.1,
      (conveys.subset (List.subset_append_right _ _)).ties attended.1 attended.2.2⟩
  | selecting task before after =>
    simp only [Frame.refs, activitiesRefs_eq] at conveys
    exact ⟨conveys.exists_ attended.1,
      (conveys.subset (List.subset_append_left _ _)).polls attended.1 attended.2.1,
      (conveys.subset (List.subset_append_right _ _)).ties attended.1 attended.2.2⟩
  | closing => exact conveys.grows.closed attended
  | script | repeated | running | iteration | letGo | afterData | afterEnd | afterLoss => trivial

/-- What a signal holds stays attended to while its futures are carried. -/
theorem Signal.Attended.conveyed {signal : Signal} {owner : Option TaskId}
    (attended : signal.Attended strict loop owner) (exists_ : ∀ task ∈ owner, task < loop.tasks.size)
    (conveys : Loop.Conveys strict signal.refs loop other) :
    signal.Attended strict other owner := by
  cases signal with
  | program => exact conveys.exists_ attended
  | resume task activity =>
    simp only [Signal.refs, activityRefs_eq] at conveys
    exact ⟨conveys.exists_ attended.1, conveys.ties attended.1 attended.2⟩
  | retry task pending =>
    simp only [Signal.refs, pending.parts_eq] at conveys
    exact ⟨conveys.exists_ attended.1, conveys.ties attended.1 attended.2⟩
  | join task before after =>
    simp only [Signal.refs, branchRefs_eq] at conveys
    exact ⟨conveys.exists_ attended.1,
      (conveys.subset (List.subset_append_left _ _)).polls attended.1 attended.2.1,
      (conveys.subset (List.subset_append_right _ _)).ties attended.1 attended.2.2⟩
  | select task before after =>
    simp only [Signal.refs, activitiesRefs_eq] at conveys
    exact ⟨conveys.exists_ attended.1,
      (conveys.subset (List.subset_append_left _ _)).polls attended.1 attended.2.1,
      (conveys.subset (List.subset_append_right _ _)).ties attended.1 attended.2.2⟩
  | suspended activity =>
    simp only [Signal.refs, activityRefs_eq] at conveys
    exact fun task member => conveys.polls (exists_ task member) (attended task member)
  | waiting pending =>
    simp only [Signal.refs, pending.parts_eq] at conveys
    exact fun task member => conveys.polls (exists_ task member) (attended task member)
  | proceed | answer | iterated | call | script | ended | returned => trivial

end EventLoop

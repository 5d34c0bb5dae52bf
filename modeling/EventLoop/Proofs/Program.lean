import EventLoop.Machine.Basic
import Mathlib.Data.List.Basic

/-!
# Stations of suspended programs

A suspended program waits at leaves, waits to enter guarded bodies and holds guards. These are its
stations, listed in the order in which they are given up. What a program owns and which futures it
waits for can be read off its stations.
-/
namespace EventLoop.Script

/-- A place within a suspended program at which something is waited for or held. -/
inductive Station
  /-- An instruction that waits. -/
  | leaf (leaf : Leaf)
  /-- An instruction that waits for what it will hold. -/
  | entry (guard : Guard) (wait : Wait)
  /-- Something that is held. -/
  | guard (guard : Guard)

/-- The waits for futures of an instruction that waits. -/
def Leaf.waits : Leaf → List Wait
  | nextPoll => []
  | result wait | turn _ wait | notice _ wait _ | relock _ _ wait _ _ | connecting _ wait _ _ _
  | establishing _ wait _ => [wait]

namespace Station

/-- What a station owns. -/
def parts : Station → List Part
  | leaf instruction => instruction.parts
  | entry asked wait => [.place asked.gate wait.future]
  | guard held => [.guard held]

/-- The waits for futures of a station. -/
def waits : Station → List Wait
  | leaf instruction => instruction.waits
  | entry _ wait => [wait]
  | guard _ => []

end Station

mutual

/-- The stations of a program. -/
def Activity.stations : Activity → List Station
  | .fresh _ => []
  | .paused pending _ _ => pending.stations

/-- The stations of an instruction that waits. -/
def Pending.stations : Pending → List Station
  | .leaf leaf => [.leaf leaf]
  | .entering guard wait _ => [.entry guard wait]
  | .holding guard inner => inner.stations ++ [.guard guard]
  | .repeating _ _ inner => inner.stations
  | .joining branches => branchStations branches
  | .selecting branches => activityStations branches

/-- The stations of a branch. -/
def Branch.stations : Branch → List Station
  | .active activity => activity.stations
  | .ended _ => []

/-- The stations of branches, branch by branch. -/
def branchStations : List Branch → List Station
  | [] => []
  | branch :: rest => branch.stations ++ branchStations rest

/-- The stations of programs, program by program. -/
def activityStations : List Activity → List Station
  | [] => []
  | activity :: rest => activity.stations ++ activityStations rest

end

mutual

/-- What a program owns, its stations own. -/
theorem Activity.parts_eq : ∀ activity : Activity,
    activity.parts = activity.stations.flatMap Station.parts
  | .fresh _ => rfl
  | .paused pending _ _ => pending.parts_eq

/-- What an instruction that waits owns, its stations own. -/
theorem Pending.parts_eq : ∀ pending : Pending,
    pending.parts = pending.stations.flatMap Station.parts
  | .leaf instruction => (List.append_nil instruction.parts).symm
  | .entering _ _ _ => rfl
  | .holding guard inner => by
    rw [Pending.parts, Pending.stations, List.flatMap_append, inner.parts_eq]
    rfl
  | .repeating _ _ inner => inner.parts_eq
  | .joining branches => branchParts_eq branches
  | .selecting branches => activityParts_eq branches

/-- What a branch owns, its stations own. -/
theorem Branch.parts_eq : ∀ branch : Branch,
    branch.parts = branch.stations.flatMap Station.parts
  | .active activity => activity.parts_eq
  | .ended _ => rfl

/-- What branches own, their stations own. -/
theorem branchParts_eq : ∀ branches : List Branch,
    branchParts branches = (branchStations branches).flatMap Station.parts
  | [] => rfl
  | branch :: rest => by
    rw [branchParts, branchStations, List.flatMap_append, branch.parts_eq, branchParts_eq rest]

/-- What programs own, their stations own. -/
theorem activityParts_eq : ∀ activities : List Activity,
    activityParts activities = (activityStations activities).flatMap Station.parts
  | [] => rfl
  | activity :: rest => by
    rw [activityParts, activityStations, List.flatMap_append, activity.parts_eq,
      activityParts_eq rest]

end

/-- The stations of branches are put together from their parts. -/
@[simp] theorem branchStations_append (first second : List Branch) :
    branchStations (first ++ second) = branchStations first ++ branchStations second := by
  induction first with
  | nil => rfl
  | cons branch rest ih =>
    rw [List.cons_append, branchStations, branchStations, ih, List.append_assoc]

/-- The stations of suspended programs are put together from their parts. -/
@[simp] theorem activityStations_append (first second : List Activity) :
    activityStations (first ++ second) = activityStations first ++ activityStations second := by
  induction first with
  | nil => rfl
  | cons activity rest ih =>
    rw [List.cons_append, activityStations, activityStations, ih, List.append_assoc]

/-- Branches in reverse order have the same stations. -/
theorem branchStations_reverse_perm (branches : List Branch) :
    (branchStations branches.reverse).Perm (branchStations branches) := by
  induction branches with
  | nil => exact List.Perm.refl _
  | cons branch rest ih =>
    have single : branchStations [branch] = branch.stations := List.append_nil _
    rw [List.reverse_cons, branchStations_append, single, branchStations]
    exact (List.Perm.append_right _ ih).trans List.perm_append_comm

/-- Programs in reverse order have the same stations. -/
theorem activityStations_reverse_perm (activities : List Activity) :
    (activityStations activities.reverse).Perm (activityStations activities) := by
  induction activities with
  | nil => exact List.Perm.refl _
  | cons activity rest ih =>
    have single : activityStations [activity] = activity.stations := List.append_nil _
    rw [List.reverse_cons, activityStations_append, single, activityStations]
    exact (List.Perm.append_right _ ih).trans List.perm_append_comm

/-- Branches that have not begun have no stations. -/
theorem branchStations_fresh (bodies : List Body) :
    branchStations (bodies.map fun body => .active (.fresh body)) = [] := by
  induction bodies with
  | nil => rfl
  | cons body rest ih => exact ih

/-- Programs that have not begun have no stations. -/
theorem activityStations_fresh (bodies : List Body) :
    activityStations (bodies.map .fresh) = [] := by
  induction bodies with
  | nil => rfl
  | cons body rest ih => exact ih

end EventLoop.Script

namespace EventLoop

open Script (Station)

/-- The stations of what goes on afterwards. -/
def Frame.stations : Frame → List Station
  | holding _ guard => [.guard guard]
  | joining _ before after => Script.branchStations before ++ Script.branchStations after
  | selecting _ before after => Script.activityStations before ++ Script.activityStations after
  | script .. | program .. | repeated _ | running _ | iteration _ | letGo _ | afterData _
  | afterEnd _ | afterLoss _ | poll _ | rounds .. | closing _ => []

/-- The stations of what is to be done or was just done. -/
def Signal.stations : Signal → List Station
  | resume _ activity | suspended activity => activity.stations
  | retry _ pending | waiting pending => pending.stations
  | join _ before after => Script.branchStations before ++ Script.branchStations after
  | select _ before after => Script.activityStations before ++ Script.activityStations after
  | proceed | answer _ | iterated _ | call _ | script .. | program .. | ended _ | returned _ => []

end EventLoop

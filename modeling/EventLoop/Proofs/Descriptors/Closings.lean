import EventLoop.Proofs.Descriptors.Owners

/-!
# The closings of a run

A run comes with the close calls that its steps make. An owner keeps its descriptor until one of these calls
closes it, and never owns one again: as many of them are about the owner as it has given descriptors up.
-/
namespace EventLoop

open World (Deal Deals)

/-- The descriptor that a closing takes from an owner, if it is about that one. -/
def Closing.from? (owner : Owner) : Closing → Option Fd
  | socket id fd => if owner = .socket id then some fd else none
  | poller fd => if owner = .engine then some fd else none
  | returned _ => none

/-- The descriptors that closings take from an owner. -/
def Owner.losses (owner : Owner) (closings : List Closing) : List Fd :=
  closings.filterMap (Closing.from? owner)

/-- What an owner loses by closings is put together from its parts. -/
theorem Owner.losses_append (owner : Owner) (closings more : List Closing) :
    owner.losses (closings ++ more) = owner.losses closings ++ owner.losses more :=
  List.filterMap_append

/-- The closing of a socket takes its descriptor from that socket and from nobody else. -/
theorem Owner.losses_socket (id socket : SocketId) (fd : Fd) :
    Owner.losses (.socket id) [.socket socket fd] = if id = socket then [fd] else [] := by
  by_cases same : id = socket
  · have taken : Closing.from? (.socket id) (.socket socket fd) = some fd := if_pos (congrArg _ same)
    rw [losses, List.filterMap_cons_some taken, if_pos same, List.filterMap_nil]
  · have kept : Closing.from? (.socket id) (.socket socket fd) = none :=
      if_neg fun here => same (Owner.socket.inj here)
    rw [losses, List.filterMap_cons_none kept, if_neg same, List.filterMap_nil]

/-- How an owner fares: what it has before some closings and after them. It keeps what it has, or one closing
takes its descriptor for good. -/
inductive Owner.Fares : Option Fd → List Fd → Option Fd → Prop
  /-- Nothing is taken from it. -/
  | keeps (fd? : Option Fd) : Fares fd? [] fd?
  /-- One closing takes its descriptor. -/
  | taken (fd : Fd) : Fares (some fd) [fd] none

namespace Owner.Fares

variable {first middle last : Option Fd} {losses more : List Fd}

/-- How an owner fares is put together from its parts. -/
theorem trans (before : Fares first losses middle) (after : Fares middle more last) :
    Fares first (losses ++ more) last := by
  cases before with
  | keeps => exact after
  | taken fd =>
    cases after
    exact .taken fd

/-- Who has nothing left lost what it had. -/
theorem lost {fd : Fd} (fares : Fares (some fd) losses none) : losses = [fd] := by
  cases fares
  rfl

/-- Who has nothing in the beginning loses nothing and gets nothing. -/
theorem of_none (fares : Fares none losses last) : losses = [] ∧ last = none := by
  cases fares
  exact ⟨rfl, rfl⟩

end Owner.Fares

namespace World

/-- The descriptor of an owner, if it has one. -/
def owned? (world : World) : Owner → Option Fd
  | .socket id => if world.isOpen id then some (world.fdOf id) else none
  | .engine => world.poller?

/-- An open socket owns its descriptor. -/
theorem owned?_of_isOpen {world : World} {id : SocketId} (opened : world.isOpen id = true) :
    world.owned? (.socket id) = some (world.fdOf id) := if_pos opened

/-- A closed socket owns nothing. -/
theorem owned?_of_closed {world : World} {id : SocketId} (closed : world.isOpen id = false) :
    world.owned? (.socket id) = none := if_neg (Bool.eq_false_iff.mp closed)

/-- A socket that owns nothing is closed. -/
theorem isOpen_of_owned? {world : World} {id : SocketId} (none : world.owned? (.socket id) = none) :
    world.isOpen id = false := by
  by_contra opened
  rw [Bool.not_eq_false] at opened
  rw [owned?_of_isOpen opened] at none
  cases none

/-- Whoever has a descriptor owns it. -/
theorem owns_of_owned? {world : World} {owner : Owner} {fd : Fd} (found : world.owned? owner = some fd) :
    world.Owns owner fd := by
  cases owner with
  | engine => exact found
  | socket id =>
    by_cases opened : world.isOpen id = true
    · rw [owned?_of_isOpen opened] at found
      exact ⟨opened, Option.some.inj found⟩
    · rw [owned?_of_closed (Bool.eq_false_iff.mpr opened)] at found
      cases found

/-- A socket that was made exists; the engine always does. -/
def Has (world : World) : Owner → Prop
  | .socket id => id < world.sockets.size
  | .engine => True

/-- A socket that is open exists. -/
theorem has_of_isOpen {world : World} {id : SocketId} (opened : world.isOpen id = true) :
    world.Has (.socket id) := Table.lt_size_of_get? (get?_of_isOpen opened).2

/-- Whoever owns a descriptor exists. -/
theorem Owns.has {world : World} {owner : Owner} {fd : Fd} (owns : world.Owns owner fd) :
    world.Has owner := by
  cases owner with
  | engine => trivial
  | socket id => exact has_of_isOpen owns.1

/-- What is owned depends on the sockets and the poller alone. -/
theorem owned?_congr {world other : World} (sockets : other.sockets = world.sockets)
    (poller : other.poller? = world.poller?) : other.owned? = world.owned? := by
  funext owner
  cases owner with
  | engine => exact poller
  | socket id =>
    unfold owned? isOpen fdOf
    rw [sockets]

/-- The closing of a socket takes the descriptor of that socket and of no other. -/
theorem fares_close {world : World} {socket : SocketId} (opened : world.isOpen socket = true)
    (id : SocketId) : Owner.Fares (world.owned? (.socket id))
      (Owner.losses (.socket id) [.socket socket (world.fdOf socket)])
      (owned? { world with sockets := world.sockets.modify socket fun _ => Kernel.closedFd }
        (.socket id)) := by
  rw [Owner.losses_socket]
  by_cases same : id = socket
  · subst same
    have after : isOpen { world with sockets := world.sockets.modify id fun _ => Kernel.closedFd } id =
        false := by
      unfold isOpen fdOf
      rw [Table.get?_modify_self, (get?_of_isOpen opened).2]
      rfl
    rw [if_pos rfl, owned?_of_isOpen opened, owned?_of_closed after]
    exact .taken _
  · have kept : owned? { world with sockets := world.sockets.modify socket fun _ => Kernel.closedFd }
        (.socket id) = world.owned? (.socket id) := by
      unfold owned? isOpen fdOf
      dsimp only
      rw [Table.get?_modify_of_ne _ _ same]
    rw [if_neg same, kept]
    exact .keeps _

/-- Whatever is about an owner in a deal takes its descriptor for good. -/
theorem Deal.fares {closes : Prop} {first last : Multiset Fd × World} {closings : List Closing}
    (deal : Deal closes first closings last) {owner : Owner} (has : first.2.Has owner) :
    last.2.Has owner ∧
      Owner.Fares (first.2.owned? owner) (owner.losses closings) (last.2.owned? owner) := by
  cases deal with
  | still loose stays =>
    rw [owned?_congr stays.sockets stays.poller]
    refine ⟨?_, .keeps _⟩
    cases owner with
    | engine => trivial
    | socket id =>
      have has : id < _ := has
      rw [← stays.sockets] at has
      exact has
  | obtained loose world opens => exact ⟨has, .keeps _⟩
  | adopted loose world fd =>
    cases owner with
    | engine => exact ⟨trivial, .keeps _⟩
    | socket id =>
      have has : id < world.sockets.size := has
      have same : owned? { world with sockets := world.sockets.push fd } (.socket id) =
          world.owned? (.socket id) := by
        unfold owned? isOpen fdOf
        dsimp only
        rw [Table.get?_push, if_neg (Nat.ne_of_lt has)]
      refine ⟨?_, ?_⟩
      · change id < (world.sockets.push fd).size
        rw [Table.size_push]
        exact Nat.lt_succ_of_lt has
      · rw [same]
        exact .keeps _
  | returned loose world fd => exact ⟨has, .keeps _⟩
  | closed loose world socket opened =>
    cases owner with
    | engine => exact ⟨trivial, .keeps _⟩
    | socket id =>
      refine ⟨?_, ?_⟩
      · change id < (world.sockets.modify socket _).size
        rw [Table.size_modify]
        exact has
      · exact fares_close opened id
  | dismissed loose world engine poller found there may =>
    cases owner with
    | socket id => exact ⟨has, .keeps _⟩
    | engine =>
      have before : world.owned? .engine = some poller := (Trades.poller?_of_engine found).trans there
      refine ⟨trivial, ?_⟩
      rw [before]
      exact .taken poller

/-- The same holds of deals one after another. -/
theorem Deals.fares {closes : Prop} {first last : Multiset Fd × World} {closings : List Closing}
    (deals : Deals closes first closings last) {owner : Owner} (has : first.2.Has owner) :
    last.2.Has owner ∧
      Owner.Fares (first.2.owned? owner) (owner.losses closings) (last.2.owned? owner) := by
  induction deals with
  | refl => exact ⟨has, .keeps _⟩
  | tail _ deal ih =>
    obtain ⟨there, fares⟩ := deal.fares ih.1
    rw [Owner.losses_append]
    exact ⟨there, ih.2.trans fares⟩

end World

namespace Machine

/-- A run from one state to another, with the closings that come of its steps. -/
inductive History (start : Machine) : List Closing → Machine → Prop
  /-- No step was made yet. -/
  | refl : History start [] start
  /-- One step more. -/
  | tail {closings more : List Closing} {before after : Machine}
      (earlier : History start closings before) (step : Step before after)
      (deals : Deals True (0, before.outset) more (0, after.world)) :
      History start (closings ++ more) after

variable {start machine after : Machine} {closings more : List Closing}

/-- What is owned at the outset of a step is what the state owns. -/
theorem owned?_outset (machine : Machine) : machine.outset.owned? = machine.world.owned? := by
  rw [outset_eq]
  exact World.owned?_congr rfl rfl

namespace History

/-- Later steps of a run have a history. -/
theorem exists_of_onward (onward : Onward (fun _ => True) start machine) :
    ∃ closings, History start closings machine := by
  induction onward with
  | refl => exact ⟨[], .refl⟩
  | tail _ last ih =>
    obtain ⟨closings, earlier⟩ := ih
    obtain ⟨more, deals⟩ := last.1.deals
    exact ⟨closings ++ more, earlier.tail last.1 deals⟩

/-- A history is one of later steps of a run. -/
theorem onward (history : History start closings machine) : Onward (fun _ => True) start machine := by
  induction history with
  | refl => exact .refl
  | tail _ step _ ih => exact .tail ih ⟨step, trivial⟩

/-- An owner keeps its descriptor until one closing takes it, and never owns one again. -/
theorem fares (history : History start closings machine) {owner : Owner} (has : start.world.Has owner) :
    machine.world.Has owner ∧
      Owner.Fares (start.world.owned? owner) (owner.losses closings) (machine.world.owned? owner) := by
  induction history with
  | refl => exact ⟨has, .keeps _⟩
  | @tail _ _ before after _ step deals ih =>
    have has : before.outset.Has owner := by
      rw [outset_eq]
      cases owner with
      | engine => trivial
      | socket id => exact ih.1
    obtain ⟨there, fares⟩ := World.Deals.fares deals has
    rw [owned?_outset before] at fares
    rw [Owner.losses_append]
    exact ⟨there, ih.2.trans fares⟩

end History

end Machine

end EventLoop

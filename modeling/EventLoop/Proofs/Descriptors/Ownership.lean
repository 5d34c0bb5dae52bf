import EventLoop.Proofs.Descriptors.Moves

/-!
# Ownership of descriptors

Every open descriptor is loose in the hands of the step under way, is that of exactly one open socket, or
is the poller. Every deal keeps this balance. So whoever closes a descriptor owns it: the call succeeds,
and it sets free the number of no other socket.
-/
namespace EventLoop

open World (Trades Deal Deals)

/-- The entries before and after one that a table has. -/
theorem Table.toList_of_get? {α : Type} {table : Table α} {id : Nat} {entry : α}
    (found : table.get? id = some entry) :
    ∃ front back, table.toList = front ++ entry :: back ∧
      ∀ change : α → α, (table.modify id change).toList = front ++ change entry :: back := by
  have listed : table.toList[id]? = some entry := by
    rw [← found]
    exact Array.getElem?_toList
  obtain ⟨below, rfl⟩ := List.getElem?_eq_some_iff.mp listed
  refine ⟨table.toList.take id, table.toList.drop (id + 1), ?_, fun change => ?_⟩
  · rw [List.getElem_cons_drop, List.take_append_drop]
  · unfold Table.toList Table.modify
    rw [Array.toList_modify]
    exact List.modify_eq_take_cons_drop below

/-- The open descriptors. -/
def Kernel.fds (kernel : Kernel) : Multiset Fd :=
  (kernel.descriptors : Multiset Nat).map fun number : Nat => (number : Fd)

namespace World

/-- The descriptors of the open sockets. -/
def openFds (world : World) : Multiset Fd := world.sockets.toList.filter (0 ≤ ·)

/-- The descriptors that have owners. -/
def ownedFds (world : World) : Multiset Fd := world.openFds + world.poller?.elim 0 fun fd => {fd}

/-- The open descriptors are those that are loose and those that have owners. -/
structure Balanced (loose : Multiset Fd) (world : World) : Prop where
  /-- They are in ascending order. -/
  ascending : world.host.kernel.descriptors.Pairwise (· < ·)
  /-- Each of them is accounted for once. -/
  balance : world.host.kernel.fds = loose + world.ownedFds

/-! ## The sockets -/

/-- A socket is added to those that are open. -/
theorem openFds_push (world : World) {fd : Fd} (valid : 0 ≤ fd) :
    openFds { world with sockets := world.sockets.push fd } = fd ::ₘ world.openFds := by
  unfold openFds Table.toList Table.push
  rw [Array.toList_push, List.filter_append, List.filter_singleton, decide_eq_true valid]
  rw [← Multiset.coe_add, Multiset.add_comm]
  rfl

/-- A socket that is open has a descriptor. -/
theorem get?_of_isOpen {world : World} {socket : SocketId} (opened : world.isOpen socket = true) :
    0 ≤ world.fdOf socket ∧ world.sockets.get? socket = some (world.fdOf socket) := by
  have valid : 0 ≤ world.fdOf socket := of_decide_eq_true opened
  refine ⟨valid, ?_⟩
  unfold fdOf at valid ⊢
  cases found : world.sockets.get? socket with
  | none =>
    rw [found] at valid
    exact absurd valid (by decide)
  | some fd => rfl

/-- A socket that is closed is missing from those that are open. -/
theorem openFds_modify {world : World} {socket : SocketId} (opened : world.isOpen socket = true) :
    world.fdOf socket ::ₘ openFds { world with
      sockets := world.sockets.modify socket fun _ => Kernel.closedFd } = world.openFds := by
  obtain ⟨valid, found⟩ := get?_of_isOpen opened
  obtain ⟨front, back, before, after⟩ := Table.toList_of_get? found
  unfold openFds
  have kept : (world.fdOf socket :: back).filter (0 ≤ ·) =
      world.fdOf socket :: back.filter (0 ≤ ·) :=
    List.filter_cons_of_pos (decide_eq_true valid)
  rw [after fun _ => Kernel.closedFd, before, List.filter_append, List.filter_append, kept,
    List.filter_cons_of_neg (by decide), ← Multiset.coe_add, ← Multiset.coe_add,
    ← Multiset.cons_coe, Multiset.add_cons]

/-! ## What deals keep -/

variable {loose : Multiset Fd} {world before after : World}

namespace Balanced

/-- A descriptor that is accounted for is the number of an open one. -/
theorem exists_of_mem (balanced : Balanced loose world) {fd : Fd}
    (member : fd ∈ loose + world.ownedFds) :
    ∃ number ∈ world.host.kernel.descriptors, fd = (number : Nat) := by
  rw [← balanced.balance, Kernel.fds, Multiset.mem_map] at member
  obtain ⟨number, listed, rfl⟩ := member
  exact ⟨number, listed, rfl⟩

/-- A descriptor that is accounted for is no longer open after it was closed, and the others are. -/
theorem close {rest : Multiset Fd} {fd : Fd} (balanced : Balanced loose world)
    (split : loose + world.ownedFds = fd ::ₘ rest) :
    (Host.close fd world.host).2.kernel.descriptors.Pairwise (· < ·) ∧
      (Host.close fd world.host).2.kernel.fds = rest := by
  obtain ⟨number, member, rfl⟩ :=
    balanced.exists_of_mem (split ▸ Multiset.mem_cons_self fd rest)
  obtain ⟨kept, -⟩ := @Host.close_of_mem world.host number member
  refine ⟨kept ▸ balanced.ascending.filter _, ?_⟩
  have distinct : world.host.kernel.descriptors.Nodup :=
    balanced.ascending.imp fun below => Nat.ne_of_lt below
  have balance := balanced.balance
  rw [split, Kernel.fds] at balance
  have injective : Function.Injective fun number : Nat => (number : Fd) :=
    fun _ _ same => Int.ofNat.inj same
  rw [Kernel.fds, kept, ← distinct.erase_eq_filter, ← Multiset.coe_erase,
    Multiset.map_erase _ injective, balance, Multiset.erase_cons_head]

/-- A step that opens and closes nothing keeps the balance. -/
theorem stays (balanced : Balanced loose before) (stays : before.Stays after) :
    Balanced loose after := by
  have descriptors := stays.host.kernel.descriptors
  have owned : after.ownedFds = before.ownedFds := by
    unfold ownedFds openFds
    rw [stays.sockets, stays.poller]
  refine ⟨descriptors ▸ balanced.ascending, ?_⟩
  rw [Kernel.fds, descriptors, owned, ← balanced.balance, Kernel.fds]

/-- A descriptor that is obtained is loose. -/
theorem opens {fd : Fd} {host : Host} (balanced : Balanced loose world)
    (opens : world.host.Opens fd host) : Balanced (fd ::ₘ loose) { world with host } := by
  have free := Kernel.lowestFree_not_mem Kernel.firstFd balanced.ascending
  refine ⟨?_, ?_⟩
  · rw [opens.kernel.descriptors]
    exact Kernel.pairwise_orderedInsert balanced.ascending free
  · have inserted := Multiset.coe_eq_coe.mpr (List.perm_orderedInsert (· < ·)
      (Kernel.lowestFree Kernel.firstFd world.host.kernel.descriptors) world.host.kernel.descriptors)
    change host.kernel.fds = fd ::ₘ loose + world.ownedFds
    rw [Multiset.cons_add, ← balanced.balance, Kernel.fds, opens.kernel.descriptors, inserted,
      ← Multiset.cons_coe, Multiset.map_cons, ← opens.kernel.lowest]
    rfl

/-- A loose descriptor that a new socket owns is loose no more. -/
theorem adopts {fd : Fd} (balanced : Balanced (fd ::ₘ loose) world) :
    Balanced loose { world with sockets := world.sockets.push fd } := by
  obtain ⟨number, -, rfl⟩ := balanced.exists_of_mem
    (Multiset.mem_add.mpr (Or.inl (Multiset.mem_cons_self fd loose)))
  refine ⟨balanced.ascending, balanced.balance.trans ?_⟩
  have owned : ownedFds { world with sockets := world.sockets.push (number : Fd) } =
      (number : Fd) ::ₘ world.ownedFds := by
    unfold ownedFds
    rw [openFds_push world (Int.natCast_nonneg number), Multiset.cons_add]
    rfl
  rw [owned, Multiset.add_cons, Multiset.cons_add]

/-- Every deal keeps the balance. -/
theorem deal {closes : Prop} {first last : Multiset Fd × World} {closings : List Closing}
    (balanced : Balanced first.1 first.2) (deal : Deal closes first closings last) :
    Balanced last.1 last.2 := by
  cases deal with
  | still loose stays => exact balanced.stays stays
  | obtained loose world opens => exact balanced.opens opens
  | adopted loose world fd => exact balanced.adopts
  | returned loose world fd =>
    obtain ⟨ascending, balance⟩ := balanced.close (Multiset.cons_add fd loose world.ownedFds)
    exact ⟨ascending, balance⟩
  | closed loose world socket opened =>
    have split : loose + world.ownedFds = world.fdOf socket ::ₘ (loose +
        ownedFds { world with sockets := world.sockets.modify socket fun _ => Kernel.closedFd }) := by
      unfold ownedFds
      rw [← openFds_modify opened, Multiset.cons_add, Multiset.add_cons]
      rfl
    obtain ⟨ascending, balance⟩ := balanced.close split
    exact ⟨ascending, balance⟩
  | dismissed loose world engine poller found there may =>
    have split : loose + world.ownedFds = poller ::ₘ (loose +
        ownedFds { world with completer := .engine { engine with poller := none } }) := by
      have poller? := (Trades.poller?_of_engine found).trans there
      unfold ownedFds
      rw [poller?]
      change loose + (world.openFds + {poller}) = poller ::ₘ (loose + (world.openFds + 0))
      rw [add_zero, ← Multiset.add_assoc, Multiset.add_comm _ {poller}, Multiset.singleton_add]
    obtain ⟨ascending, balance⟩ := balanced.close split
    exact ⟨ascending, balance⟩

/-- So do deals one after another. -/
theorem deals {closes : Prop} {first last : Multiset Fd × World} {closings : List Closing}
    (balanced : Balanced first.1 first.2) (deals : Deals closes first closings last) :
    Balanced last.1 last.2 := by
  induction deals with
  | refl => exact balanced
  | tail _ deal ih => exact ih.deal deal

/-- The descriptor of a closing is accounted for just before. -/
theorem mem_of_deal {closes : Prop} {first last : Multiset Fd × World} {closings : List Closing}
    (deal : Deal closes first closings last) {closing : Closing} (member : closing ∈ closings) :
    closing.fd ∈ first.1 + first.2.ownedFds := by
  cases deal with
  | still | obtained | adopted => cases member
  | returned loose world fd =>
    rw [List.mem_singleton.mp member]
    exact Multiset.mem_add.mpr (Or.inl (Multiset.mem_cons_self fd loose))
  | closed loose world socket opened =>
    rw [List.mem_singleton.mp member]
    refine Multiset.mem_add.mpr (Or.inr (Multiset.mem_add.mpr (Or.inl ?_)))
    rw [← openFds_modify opened]
    exact Multiset.mem_cons_self _ _
  | dismissed loose world engine poller found there may =>
    rw [List.mem_singleton.mp member]
    refine Multiset.mem_add.mpr (Or.inr (Multiset.mem_add.mpr (Or.inr ?_)))
    rw [(Trades.poller?_of_engine found).trans there]
    exact Multiset.mem_singleton_self poller

end Balanced

end World

/-! ## What is written down -/

/-- The entry of a close call that succeeded. -/
def Closing.entry (closing : Closing) : Value × Value := (Host.fdValue closing.fd, .nat 0)

/-- The close calls that are written down in addition are those of some closings, all of which
succeeded. -/
structure Journal.Closes (before : Journal) (closings : List Closing) (after : Journal) : Prop where
  /-- What is to be written down. -/
  settings : after.settings = before.settings
  /-- The close calls, the latest first. -/
  closes : after.closes =
    (if before.settings.calls then closings.reverse.map Closing.entry else []) ++ before.closes

namespace Journal.Closes

variable {before middle after : Journal} {closings more : List Closing}

/-- A journal that stays has no more closings. -/
theorem of_stays (stays : before.Stays after) : before.Closes [] after := by
  refine ⟨stays.settings, stays.closes.trans ?_⟩
  split
  · rfl
  · rfl

/-- The closings of a journal follow each other. -/
theorem trans (first : before.Closes closings middle) (second : middle.Closes more after) :
    before.Closes (closings ++ more) after := by
  refine ⟨second.settings.trans first.settings, ?_⟩
  rw [second.closes, first.closes, first.settings]
  split
  · rw [List.reverse_append, List.map_append, List.append_assoc]
  · rfl

end Journal.Closes

namespace World.Balanced

variable {closes : Prop} {first last : Multiset Fd × World} {closings : List Closing}

/-- The closings of a deal are written down, and all of them succeed. -/
theorem journal_deal (balanced : Balanced first.1 first.2) (deal : Deal closes first closings last) :
    first.2.host.journal.Closes closings last.2.host.journal := by
  have closed {world : World} {closing : Closing}
      (owned : ∃ number ∈ world.host.kernel.descriptors, closing.fd = (number : Nat)) :
      world.host.journal.Closes [closing] (Host.close closing.fd world.host).2.journal := by
    obtain ⟨number, member, same⟩ := owned
    obtain ⟨-, -, settings, entries⟩ := @Host.close_of_mem world.host number member
    rw [← same] at settings entries
    exact ⟨settings, entries⟩
  have owned {closing : Closing} (same : closings = [closing]) :=
    balanced.exists_of_mem (mem_of_deal deal (same ▸ List.mem_singleton_self closing))
  cases deal with
  | still loose stays => exact .of_stays stays.host.journal
  | obtained loose world opens => exact .of_stays opens.journal
  | adopted loose world fd => exact .of_stays (.refl _)
  | returned | closed | dismissed => exact closed (owned rfl)

/-- So are those of deals one after another. -/
theorem journal (balanced : Balanced first.1 first.2) (deals : Deals closes first closings last) :
    first.2.host.journal.Closes closings last.2.host.journal := by
  induction deals with
  | refl => exact .of_stays (.refl _)
  | tail before deal ih => exact ih.trans ((balanced.deals before).journal_deal deal)

end World.Balanced

/-- Time does not run backwards. -/
theorem World.Balanced.now {closes : Prop} {first last : Multiset Fd × World}
    {closings : List Closing} (balanced : Balanced first.1 first.2)
    (deals : Deals closes first closings last) :
    first.2.host.kernel.now ≤ last.2.host.kernel.now := by
  induction deals with
  | refl => exact Nat.le_refl _
  | tail before deal ih =>
    refine Nat.le_trans ih ?_
    have owned {closing : Closing} (member : closing ∈ _) :=
      (balanced.deals before).exists_of_mem (mem_of_deal deal member)
    cases deal with
    | still loose stays => exact stays.host.kernel.now
    | obtained loose world opens => exact opens.kernel.now
    | adopted loose world fd => exact Nat.le_refl _
    | returned | closed | dismissed =>
      obtain ⟨number, member, same⟩ := owned (List.mem_singleton_self _)
      have now := (Host.close_of_mem member).2.1
      rw [← same] at now
      exact now

/-! ## Owners -/

/-- Who may own a descriptor between two steps. -/
inductive Owner
  /-- A socket. -/
  | socket (id : SocketId)
  /-- The engine, whose poller it is. -/
  | engine
  deriving DecidableEq, Repr, Inhabited

namespace World

variable {world : World}

/-- Whether a descriptor is that of a socket that is open, or that of the poller. -/
def Owns (world : World) : Owner → Fd → Prop
  | .socket id, fd => world.isOpen id = true ∧ world.fdOf id = fd
  | .engine, fd => world.poller? = some fd

/-- An open descriptor belongs to a socket. -/
theorem mem_openFds {fd : Fd} : fd ∈ world.openFds ↔ ∃ id, world.Owns (.socket id) fd := by
  constructor
  · intro member
    obtain ⟨listed, valid⟩ := List.mem_filter.mp (Multiset.mem_coe.mp member)
    obtain ⟨id, found⟩ := List.mem_iff_getElem?.mp listed
    have here : world.fdOf id = fd := by
      unfold fdOf Table.get?
      rw [← Array.getElem?_toList]
      exact congrArg (Option.getD · Kernel.closedFd) found
    refine ⟨id, ?_, here⟩
    unfold isOpen
    rw [here]
    exact valid
  · rintro ⟨id, opened, rfl⟩
    rw [← openFds_modify opened]
    exact Multiset.mem_cons_self _ _

/-- A descriptor that is owned has an owner. -/
theorem mem_ownedFds {fd : Fd} : fd ∈ world.ownedFds ↔ ∃ owner, world.Owns owner fd := by
  have poller : fd ∈ world.poller?.elim (0 : Multiset Fd) (fun fd => {fd}) ↔ world.Owns .engine fd := by
    unfold Owns
    cases world.poller? with
    | none => exact ⟨fun member => absurd member (Multiset.notMem_zero fd), fun same => nomatch same⟩
    | some other =>
      exact ⟨fun member => congrArg some (Multiset.mem_singleton.mp member).symm,
        fun same => Multiset.mem_singleton.mpr (Option.some.inj same).symm⟩
  rw [ownedFds, Multiset.mem_add, mem_openFds, poller]
  constructor
  · rintro (⟨id, owns⟩ | owns)
    · exact ⟨.socket id, owns⟩
    · exact ⟨.engine, owns⟩
  · rintro ⟨owner, owns⟩
    cases owner with
    | socket id => exact Or.inl ⟨id, owns⟩
    | engine => exact Or.inr owns

namespace Balanced

/-- No descriptor is accounted for twice. -/
theorem nodup {loose : Multiset Fd} (balanced : Balanced loose world) :
    (loose + world.ownedFds).Nodup := by
  have distinct : world.host.kernel.descriptors.Nodup :=
    balanced.ascending.imp fun below => Nat.ne_of_lt below
  rw [← balanced.balance]
  exact (Multiset.coe_nodup.mpr distinct).map fun _ _ same => Int.ofNat.inj same

/-- If nothing is loose, the open descriptors are those that have owners. -/
theorem open_iff (balanced : Balanced 0 world) {number : Nat} :
    number ∈ world.host.kernel.descriptors ↔ ∃ owner, world.Owns owner number := by
  rw [← mem_ownedFds, ← zero_add world.ownedFds, ← balanced.balance, Kernel.fds, Multiset.mem_map]
  constructor
  · exact fun member => ⟨number, member, rfl⟩
  · rintro ⟨other, member, same⟩
    rw [← Int.ofNat.inj same]
    exact member

/-- What has an owner has the number of an open descriptor. -/
theorem valid (balanced : Balanced 0 world) {owner : Owner} {fd : Fd} (owns : world.Owns owner fd) :
    ∃ number ∈ world.host.kernel.descriptors, fd = (number : Nat) :=
  balanced.exists_of_mem ((zero_add world.ownedFds).symm ▸ mem_ownedFds.mpr ⟨owner, owns⟩)

/-- No descriptor has two owners. -/
theorem owner_unique {loose : Multiset Fd} (balanced : Balanced loose world) {owner other : Owner}
    {fd : Fd} (owns : world.Owns owner fd) (also : world.Owns other fd) : owner = other := by
  have once := (Multiset.nodup_add.mp balanced.nodup).2.1
  obtain ⟨sockets, -, apart⟩ := Multiset.nodup_add.mp once
  have aside {id : SocketId} (owns : world.Owns (.socket id) fd) (also : world.Owns .engine fd) :
      False := by
    refine Multiset.disjoint_left.mp apart (mem_openFds.mpr ⟨id, owns⟩) ?_
    rw [show world.poller? = some fd from also]
    exact Multiset.mem_singleton_self fd
  cases owner with
  | engine =>
    cases other with
    | engine => rfl
    | socket id => exact (aside also owns).elim
  | socket id =>
    cases other with
    | engine => exact (aside owns also).elim
    | socket other =>
      by_contra differ
      have apart : other ≠ id := fun same => differ (congrArg Owner.socket same.symm)
      obtain ⟨opened, rfl⟩ := owns
      rw [← openFds_modify opened] at sockets
      -- The other socket is still open when the first one is closed.
      refine (Multiset.nodup_cons.mp sockets).1 (mem_openFds.mpr ⟨other, ?_⟩)
      have same : fdOf { world with
          sockets := world.sockets.modify id fun _ => Kernel.closedFd } other = world.fdOf other := by
        unfold fdOf
        rw [Table.get?_modify_of_ne _ _ apart]
      refine ⟨?_, same.trans also.2⟩
      unfold isOpen
      rw [same]
      exact also.1

end Balanced

end World

end EventLoop

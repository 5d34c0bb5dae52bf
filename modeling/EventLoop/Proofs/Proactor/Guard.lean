import EventLoop.Proofs.Proactor.Roster

/-!
# Who is watched

A descriptor is watched only for the open socket that has it, and a pending operation of an open socket
waits at a descriptor that is watched for it. `Guarded` says so of all operations but those that are
exempt: while the engine is at work, the ones whose report has come or that were only just submitted.
-/
namespace EventLoop.Proactor

open Kernel (Flags closedFd)

variable {sockets : Sockets} {watches : Watches} {roster : Roster} {commission : Commission}
variable {exempt others : Commission → Prop} {fd : Fd} {future : FutureId} {direction : Direction}

/-! ## Watches -/

namespace Watches

/-- A watch counts for the descriptor that it was set for. -/
theorem set_of_ne {one : Fd} (differ : one ≠ fd) (interest : Option Flags) :
    watches.set fd interest one = watches one := Function.update_of_ne differ _ _

/-- A descriptor is watched for what was set. -/
theorem set_self (interest : Option Flags) : watches.set fd interest fd = interest :=
  Function.update_self ..

/-- What a descriptor is watched for is all that counts. -/
theorem armed_congr {others : Watches} (same : others fd = watches fd) :
    others.Armed fd direction ↔ watches.Armed fd direction := by
  unfold Armed
  rw [same]

/-- What the reports leave of the watches. -/
theorem collect_eq (reports : List (Nat × Flags)) (watches : Watches) :
    (∀ fd, (collect reports watches).2 fd = none ↔ watches fd = none) ∧
      (∀ report ∈ (collect reports watches).1, watches report.1 ≠ none) ∧
      ∀ fd, (∀ report ∈ (collect reports watches).1, (report.1 : Fd) ≠ fd) →
        (collect reports watches).2 fd = watches fd := by
  induction reports generalizing watches with
  | nil => exact ⟨fun _ => Iff.rfl, fun _ member => (nomatch member), fun _ _ => rfl⟩
  | cons report rest ih =>
    obtain ⟨number, flags⟩ := report
    cases watched : watches number with
    | none =>
      simp only [collect, watched]
      exact ih watches
    | some interest =>
      by_cases silent : interest.isEmpty = true
      · simp only [collect, watched, silent, if_true]
        exact ih watches
      · simp only [collect, watched, silent]
        let left := watches.set number (some (if interest.once then .none else interest))
        obtain ⟨known, watching, same⟩ := ih left
        have elsewhere {fd : Fd} (differ : fd ≠ number) : left fd = watches fd := set_of_ne differ _
        have there (fd : Fd) : left fd = none ↔ watches fd = none := by
          by_cases here : fd = number
          · simp [left, here, set_self, watched]
          · rw [elsewhere here]
        refine ⟨fun fd => (known fd).trans (there fd), ?_, ?_⟩
        · intro report member
          rcases List.mem_cons.mp member with rfl | member
          · simp [watched]
          · exact fun gone => watching report member ((there _).mpr gone)
        · intro fd apart
          have differ : fd ≠ number := fun here => apart (number, flags) List.mem_cons_self here.symm
          have kept := same fd fun report member => apart report (List.mem_cons_of_mem _ member)
          exact kept.trans (elsewhere differ)

end Watches

/-! ## Guards -/

/-- The open sockets have descriptors of their own, nothing but these is watched, and each one for the
operations that are pending on its socket, but for some that are exempt. -/
structure Guarded (exempt : Commission → Prop) (sockets : Sockets) (watches : Watches)
    (roster : Roster) : Prop where
  /-- The open sockets were opened. -/
  counted : ∀ socket fd, sockets.fd? socket = some fd → socket < sockets.count
  /-- No two open sockets have one descriptor. -/
  apart : ∀ {socket other fd}, sockets.fd? socket = some fd → sockets.fd? other = some fd →
    socket = other
  /-- Every open socket has a descriptor. -/
  valid : ∀ {socket fd}, sockets.fd? socket = some fd → fd ≠ closedFd
  /-- Operations were submitted on sockets that were opened. -/
  member : ∀ commission ∈ roster.commissions, commission.socket < sockets.count
  /-- An open socket keeps its descriptor. -/
  stable : ∀ commission ∈ roster.commissions, ∀ fd, sockets.fd? commission.socket = some fd →
    commission.fd = fd
  /-- What is no descriptor is not watched. -/
  unwatched : watches closedFd = none
  /-- A watched descriptor at which an operation waits is that of its socket, and so is the one of an
  operation that is exempt. -/
  owned : ∀ commission ∈ roster.commissions, roster.pending commission.future = true →
    watches commission.fd ≠ none ∨ exempt commission → commission.fd ≠ closedFd →
      sockets.fd? commission.socket = some commission.fd
  /-- The descriptor of an open socket is watched for the operations that wait there. -/
  armed : ∀ commission ∈ roster.commissions, roster.pending commission.future = true →
    ¬ exempt commission → sockets.fd? commission.socket ≠ none →
      watches.Armed commission.fd commission.direction

/-- Those who wait at a descriptor need not be exempt any more. -/
structure Relieved (fd : Fd) (exempt others : Commission → Prop) : Prop where
  /-- Whoever is exempt was exempt. -/
  fewer : ∀ commission, others commission → exempt commission
  /-- Whoever was exempt elsewhere is exempt. -/
  elsewhere : ∀ commission, exempt commission → commission.fd ≠ fd → others commission

namespace Guarded

/-- Which operations are exempt counts only while they are pending. -/
theorem exempting (guarded : Guarded exempt sockets watches roster)
    (same : ∀ commission ∈ roster.commissions, roster.pending commission.future = true →
      (others commission ↔ exempt commission)) : Guarded others sockets watches roster :=
  { guarded with
    owned := fun commission member waits watched =>
      guarded.owned commission member waits (watched.imp_right (same commission member waits).mp)
    armed := fun commission member waits bound =>
      guarded.armed commission member waits fun free =>
        bound ((same commission member waits).mpr free) }

/-- An operation of an open socket was submitted with the descriptor of the socket. -/
theorem fd_of_open (guarded : Guarded exempt sockets watches roster)
    (member : commission ∈ roster.commissions) (opened : sockets.fd? commission.socket ≠ none) :
    sockets.fd? commission.socket = some commission.fd := by
  obtain ⟨fd, found⟩ := Option.ne_none_iff_exists'.mp opened
  rw [guarded.stable commission member fd found]
  exact found

/-- An operation ends. -/
theorem concluded (guarded : Guarded exempt sockets watches roster) (future : FutureId)
    (ending : Ending) : Guarded exempt sockets watches (roster.conclude future ending) where
  counted := guarded.counted
  apart := guarded.apart
  valid := guarded.valid
  member := by
    rw [Roster.commissions_conclude]
    exact guarded.member
  stable := by
    rw [Roster.commissions_conclude]
    exact guarded.stable
  unwatched := guarded.unwatched
  owned commission member waits := by
    rw [Roster.commissions_conclude] at member
    exact guarded.owned commission member (Roster.pending_of_conclude waits)
  armed commission member waits := by
    rw [Roster.commissions_conclude] at member
    exact guarded.armed commission member (Roster.pending_of_conclude waits)

/-- An operation is submitted on a socket; it is exempt. -/
theorem enlisted (guarded : Guarded (fun _ => False) sockets watches roster)
    (known : commission.socket < sockets.count)
    (place : commission.fd = sockets.fdOf commission.socket) :
    Guarded (· = commission) sockets watches (roster.enlist commission) where
  counted := guarded.counted
  apart := guarded.apart
  valid := guarded.valid
  member one listed := by
    rcases List.mem_append.mp listed with old | new
    · exact guarded.member one old
    · rw [List.mem_singleton.mp new]
      exact known
  stable one listed fd found := by
    rcases List.mem_append.mp listed with old | new
    · exact guarded.stable one old fd found
    · rw [List.mem_singleton.mp new] at found ⊢
      simp [place, Sockets.fdOf, found]
  unwatched := guarded.unwatched
  owned one listed waits watched valid := by
    by_cases here : one = commission
    · rw [here, place] at valid
      rw [here, place]
      cases found : sockets.fd? commission.socket with
      | none => exact absurd (by simp [Sockets.fdOf, found]) valid
      | some fd => simp [Sockets.fdOf, found]
    · rcases List.mem_append.mp listed with old | new
      · exact guarded.owned one old waits (watched.imp_right here) valid
      · exact absurd (List.mem_singleton.mp new) here
  armed one listed waits bound := by
    rcases List.mem_append.mp listed with old | new
    · exact guarded.armed one old waits id
    · exact absurd (List.mem_singleton.mp new) bound

/-- With an operation all that wait at its spot may be exempt. -/
theorem widened (guarded : Guarded (· = commission) sockets watches roster)
    (member : commission ∈ roster.commissions) (waits : roster.pending commission.future = true) :
    Guarded (·.spot = commission.spot) sockets watches roster :=
  { guarded with
    owned := fun one listed pending watched valid => by
      rcases watched with watched | close
      · exact guarded.owned one listed pending (Or.inl watched) valid
      · obtain ⟨socket, fd, -⟩ := Spot.mk.inj close
        rw [fd] at valid
        rw [socket, fd]
        exact guarded.owned commission member waits (Or.inr rfl) valid
    armed := fun one listed pending away =>
      guarded.armed one listed pending fun same => away (congrArg Commission.spot same) }

/-- A descriptor is watched for all operations that wait there. -/
theorem watched (guarded : Guarded exempt sockets watches roster) (relieved : Relieved fd exempt others)
    (interest : Flags)
    (own : ∀ commission ∈ roster.commissions, roster.pending commission.future = true →
      commission.fd = fd → sockets.fd? commission.socket = some fd ∧
        (watches.set fd (some interest)).Armed fd commission.direction)
    (valid : fd ≠ closedFd) : Guarded others sockets (watches.set fd (some interest)) roster :=
  { guarded with
    unwatched := by
      rw [Watches.set_of_ne (Ne.symm valid)]
      exact guarded.unwatched
    owned := fun commission member waits watched => by
      by_cases here : commission.fd = fd
      · rw [here]
        exact fun _ => (own commission member waits here).1
      · rw [Watches.set_of_ne here] at watched
        exact guarded.owned commission member waits (watched.imp_right (relieved.fewer commission))
    armed := fun commission member waits bound opened => by
      by_cases here : commission.fd = fd
      · rw [here]
        exact (own commission member waits here).2
      · rw [Watches.armed_congr (Watches.set_of_ne here _)]
        exact guarded.armed commission member waits
          (fun free => bound (relieved.elsewhere commission free here)) opened }

/-- A descriptor at which nobody waits need not be watched. -/
theorem relieve (guarded : Guarded exempt sockets watches roster) (relieved : Relieved fd exempt others)
    (finished : ∀ commission ∈ roster.commissions, roster.pending commission.future = true →
      commission.fd ≠ fd) : Guarded others sockets watches roster :=
  guarded.exempting fun commission member waits =>
    ⟨relieved.fewer commission,
      fun free => relieved.elsewhere commission free (finished commission member waits)⟩

/-- A descriptor is not watched any more; whoever waits there is exempt. -/
theorem forgotten (guarded : Guarded exempt sockets watches roster) (fd : Fd) :
    Guarded (fun commission => exempt commission ∨
        commission.fd = fd ∧ sockets.fd? commission.socket = some fd) sockets
      (watches.set fd none) roster :=
  { guarded with
    unwatched := by
      by_cases here : closedFd = fd
      · rw [here, Watches.set_self]
      · rw [Watches.set_of_ne here]
        exact guarded.unwatched
    owned := fun commission member waits watched => by
      rcases watched with watched | free | ⟨here, own⟩
      · by_cases here : commission.fd = fd
        · rw [here, Watches.set_self] at watched
          exact absurd rfl watched
        · rw [Watches.set_of_ne here] at watched
          exact guarded.owned commission member waits (Or.inl watched)
      · exact guarded.owned commission member waits (Or.inr free)
      · exact fun _ => own.trans (congrArg some here.symm)
    armed := fun commission member waits bound opened => by
      obtain ⟨bound, away⟩ := not_or.mp bound
      have elsewhere : commission.fd ≠ fd := fun here =>
        away ⟨here, here ▸ guarded.fd_of_open member opened⟩
      rw [Watches.armed_congr (Watches.set_of_ne elsewhere _)]
      exact guarded.armed commission member waits bound opened }

/-- Reports use up watches; whoever waits at their descriptors is exempt. -/
theorem collected (guarded : Guarded (fun _ => False) sockets watches roster)
    (reports : List (Nat × Flags)) :
    Guarded (fun commission => ∃ report ∈ (Watches.collect reports watches).1,
      (report.1 : Fd) = commission.fd) sockets (Watches.collect reports watches).2 roster := by
  obtain ⟨known, watching, same⟩ := Watches.collect_eq reports watches
  exact { guarded with
    unwatched := (known closedFd).mpr guarded.unwatched
    owned := fun commission member waits watched => by
      refine guarded.owned commission member waits (Or.inl ?_)
      rcases watched with watched | ⟨report, due, here⟩
      · exact fun gone => watched ((known _).mpr gone)
      · rw [← here]
        exact watching report due
    armed := fun commission member waits bound opened => by
      have kept := same commission.fd fun report due here => bound ⟨report, due, here⟩
      rw [Watches.armed_congr kept]
      exact guarded.armed commission member waits id opened }

/-- A socket is opened with a descriptor that no open socket has. -/
theorem opened (guarded : Guarded exempt sockets watches roster) (valid : fd ≠ closedFd)
    (free : ∀ socket, sockets.fd? socket ≠ some fd) :
    Guarded exempt (sockets.push fd) watches roster := by
  have fresh {socket : SocketId} (known : socket < sockets.count) :
      (sockets.push fd).fd? socket = sockets.fd? socket :=
    Function.update_of_ne (Nat.ne_of_lt known) _ _
  have new : (sockets.push fd).fd? sockets.count = some fd := Function.update_self ..
  have cases {socket : SocketId} {place : Fd} (found : (sockets.push fd).fd? socket = some place) :
      socket = sockets.count ∧ place = fd ∨ sockets.fd? socket = some place := by
    by_cases last : socket = sockets.count
    · rw [last, new] at found
      exact Or.inl ⟨last, (Option.some.inj found).symm⟩
    · exact Or.inr ((Function.update_of_ne last _ _).symm.trans found)
  exact {
    counted := fun socket place found => by
      rcases cases found with ⟨rfl, -⟩ | old
      · exact Nat.lt_succ_self _
      · exact Nat.lt_succ_of_lt (guarded.counted socket place old)
    apart := fun {socket other place} left right => by
      rcases cases left with ⟨rfl, rfl⟩ | left <;> rcases cases right with ⟨rfl, same⟩ | right
      · rfl
      · exact absurd right (free other)
      · exact absurd (same ▸ left) (free socket)
      · exact guarded.apart left right
    valid := fun found => by
      rcases cases found with ⟨-, rfl⟩ | old
      · exact valid
      · exact guarded.valid old
    member := fun commission member => Nat.lt_succ_of_lt (guarded.member commission member)
    stable := fun commission member place found => by
      rw [fresh (guarded.member commission member)] at found
      exact guarded.stable commission member place found
    unwatched := guarded.unwatched
    owned := fun commission member waits watched => by
      rw [fresh (guarded.member commission member)]
      exact guarded.owned commission member waits watched
    armed := fun commission member waits bound opened => by
      rw [fresh (guarded.member commission member)] at opened
      exact guarded.armed commission member waits bound opened }

/-- A socket is closed, and its descriptor is not watched any more. -/
theorem closed (guarded : Guarded (fun _ => False) sockets watches roster) (socket : SocketId) :
    Guarded (fun _ => False) (sockets.close socket)
      (fun fd => if sockets.fd? socket = some fd then none else watches fd) roster := by
  have left {one : SocketId} {place : Fd} (found : (sockets.close socket).fd? one = some place) :
      one ≠ socket ∧ sockets.fd? one = some place := by
    by_cases here : one = socket
    · rw [here] at found
      change Function.update sockets.fd? socket none socket = some place at found
      rw [Function.update_self] at found
      cases found
    · exact ⟨here, (Function.update_of_ne here _ _).symm.trans found⟩
  have others {one : SocketId} (differ : one ≠ socket) :
      (sockets.close socket).fd? one = sockets.fd? one := Function.update_of_ne differ _ _
  exact {
    counted := fun one place found => guarded.counted one place (left found).2
    apart := fun first second => guarded.apart (left first).2 (left second).2
    valid := fun found => guarded.valid (left found).2
    member := guarded.member
    stable := fun commission member place found =>
      guarded.stable commission member place (left found).2
    unwatched := by
      split
      · rfl
      · exact guarded.unwatched
    owned := fun commission member waits watched valid => by
      have watched := watched.resolve_right id
      split at watched
      · exact absurd rfl watched
      · rename_i elsewhere
        have own := guarded.owned commission member waits (Or.inl watched) valid
        have differ : commission.socket ≠ socket := fun same => elsewhere (same ▸ own)
        rw [others differ]
        exact own
    armed := fun commission member waits bound opened => by
      obtain ⟨place, found⟩ := Option.ne_none_iff_exists'.mp opened
      obtain ⟨differ, found⟩ := left found
      have own := guarded.stable commission member place found
      have armed := guarded.armed commission member waits bound (by simp [found])
      have elsewhere : sockets.fd? socket ≠ some commission.fd := fun same =>
        differ (guarded.apart found (own ▸ same))
      exact (Watches.armed_congr (if_neg elsewhere)).mpr armed }

/-- All descriptors are left alone when nobody waits. -/
theorem unattended (guarded : Guarded exempt sockets watches roster)
    (finished : ∀ commission ∈ roster.commissions, roster.pending commission.future = false) :
    Guarded (fun _ => False) sockets (fun _ => none) roster :=
  { guarded with
    unwatched := rfl
    owned := fun _ _ _ watched => absurd rfl (watched.resolve_right id)
    armed := fun commission member waits => by
      rw [finished commission member] at waits
      cases waits }

end Guarded

end EventLoop.Proactor

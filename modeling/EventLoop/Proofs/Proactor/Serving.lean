import EventLoop.Proofs.Proactor.Attempts

/-!
# Serving

Whatever the engine does in service keeps the lines, the watches and the calls as they should be: when
one of its methods returns, nobody is exempt any more, so each pending operation of an open socket is in
line at a descriptor that is watched for it.
-/
namespace EventLoop.Proactor

open Kernel (Flags Control closedFd)

variable {σ : Type} {kernel : System σ} {site : Site σ} {engine : Engine} {fd : Fd}
variable {exempt others : Commission → Prop} {due : List (FutureId × Completion)}
variable {registration : Registration} {commission : Commission}

/-! ## Guests -/

/-- Lines with more operations at their ends. -/
def Lines.join (lines guests : Lines) : Lines := fun spot => lines spot ++ guests spot

/-- Nobody is in line but one operation. -/
def Commission.alone (commission : Commission) : Lines :=
  fun spot => if spot = commission.spot then [commission.operation] else []

namespace Lines

variable {lines : Lines}

/-- Nobody joins the lines when nothing was submitted. -/
theorem join_nobody : lines.join (fun _ => []) = lines := by
  funext spot
  exact List.append_nil _

/-- A commission alone joins the end of its line. -/
theorem join_alone : lines.join commission.alone =
    Function.update lines commission.spot (lines commission.spot ++ [commission.operation]) := by
  funext spot
  unfold join Commission.alone
  by_cases here : spot = commission.spot
  · simp [here]
  · simp [here]

end Lines

namespace Engine

/-- The lines after the queue was replaced in which an operation of the owner waits. -/
theorem lines_queued (found : engine.registration? commission.fd = some registration)
    (own : registration.owner = commission.socket) (queue : List Operation) :
    (engine.setRegistration commission.fd (registration.setQueue commission.direction queue)).lines =
      Function.update engine.lines commission.spot queue := by
  rw [lines_setQueue found, own]
  rfl

/-- An operation of the owner is a guest at the end of its queue. -/
theorem join_alone_of_found (found : engine.registration? commission.fd = some registration)
    (own : registration.owner = commission.socket) :
    engine.lines.join commission.alone = Function.update engine.lines commission.spot
      (registration.queue commission.direction ++ [commission.operation]) := by
  rw [Lines.join_alone, ← lines_of_some found, own]
  rfl

end Engine

/-! ## Descriptors at which nobody waits -/

namespace Sound

variable {lines guests : Lines}

/-- A descriptor is forgotten at which everybody is over, but for guests. -/
theorem erased_join (sound : Sound (engine.lines.join guests) exempt due site)
    (found : engine.registration? fd = some registration)
    (finished : ∀ operation ∈ registration.operations, site.roster.pending operation.future = false) :
    Sound ((engine.eraseRegistration fd).lines.join guests) exempt due site := by
  refine { sound with orderly := sound.orderly.relined fun spot => ?_ }
  unfold Lines.join
  rw [Roster.waiting_append, Roster.waiting_append, Engine.lines_eraseRegistration]
  split
  · rename_i here
    have nobody : site.roster.waiting (engine.lines spot) = [] := by
      refine Roster.waiting_eq_nil fun operation member => ?_
      obtain ⟨stored, there, -, inside⟩ := Engine.registration_of_mem_lines member
      rw [here, found] at there
      obtain rfl := Option.some.inj there
      exact finished operation (Registration.mem_operations inside)
    rw [nobody]
    rfl
  · rfl

/-- A descriptor is forgotten at which everybody is over. -/
theorem erased (sound : Sound engine.lines exempt due site)
    (found : engine.registration? fd = some registration)
    (finished : ∀ operation ∈ registration.operations, site.roster.pending operation.future = false) :
    Sound (engine.eraseRegistration fd).lines exempt due site := by
  have joined : Sound (engine.lines.join fun _ => []) exempt due site := by rwa [Lines.join_nobody]
  have left := joined.erased_join found finished
  rwa [Lines.join_nobody] at left

/-- Nobody is exempt any more at a descriptor at which nobody is in line. -/
theorem vacant (sound : Sound lines exempt due site) (relieved : Relieved fd exempt others)
    (nobody : ∀ spot, spot.fd = fd → lines spot = []) : Sound lines others due site := by
  refine { sound with guarded := sound.guarded.relieve relieved fun commission member waits here => ?_ }
  obtain ⟨operation, inside, -⟩ := sound.orderly.in_line member waits
  rw [nobody commission.spot here] at inside
  cases inside

end Sound

/-- Nobody is in line at a descriptor at which nobody is registered. -/
theorem Engine.lines_vacant (missing : engine.registration? fd = none) (spot : Spot)
    (here : spot.fd = fd) : engine.lines spot = [] :=
  lines_of_none (here ▸ missing)

namespace Site

variable {guests : Lines}

/-! ## Changes of watches -/

/-- A change either fails and changes nothing, or is made. -/
theorem control_eq (step : StateM σ (Except Errno Unit)) (poller : Fd) (action : Control) (fd : Fd)
    (interest : Flags) (site : Site σ) :
    (∃ kernel error, control step poller action fd interest site = (.error error, { site with kernel })) ∨
    ∃ kernel, control step poller action fd interest site = (.ok (), { site with
      kernel, watches := site.watches.set fd (if action = .delete then none else some interest) }) := by
  unfold control
  rcases step site.kernel with ⟨error | -, after⟩
  · exact Or.inl ⟨after, error, rfl⟩
  · dsimp only
    split
    · exact Or.inl ⟨after, _, rfl⟩
    · unfold Watches.change
      cases action <;> cases site.watches fd
      all_goals first | exact Or.inl ⟨after, _, rfl⟩ | exact Or.inr ⟨after, rfl⟩

/-- What a site is after a descriptor was to be watched. -/
def rewatched (site : Site σ) (fd : Fd) (interest : Flags) (after : σ) : Except Errno Unit → Site σ
  | .error _ => { site with kernel := after }
  | .ok () => { site with kernel := after, watches := site.watches.set fd (some interest) }

/-- A descriptor is watched, or else nothing has changed. -/
theorem ensures_watch (kernel : System σ) (engine : Engine) (fd : Fd) (interest : Flags) (site : Site σ) :
    Ensures (· = site) (engine.watch (system kernel) fd interest) fun answer reached =>
      ∃ after, reached = site.rewatched fd interest after answer := by
  have changed (action : Control) (differ : action ≠ .delete) (state : σ) :
      let (answer, reached) :=
        (system kernel).control engine.pollerFd action fd interest { site with kernel := state }
      ∃ after, reached = site.rewatched fd interest after answer := by
    rcases control_eq (kernel.control engine.pollerFd action fd interest) engine.pollerFd action fd
      interest { site with kernel := state } with ⟨after, error, same⟩ | ⟨after, same⟩
    · exact ⟨after, by simp [system, same, rewatched]⟩
    · exact ⟨after, by simp [system, same, rewatched, differ]⟩
  unfold Engine.watch
  refine Ensures.bind (fun answer reached => ∃ after, reached = site.rewatched fd interest after answer)
    ?_ fun answer => ?_
  · rintro now rfl
    exact changed .modify (by simp) now.kernel
  · split
    · split
      · rintro reached ⟨after, rfl⟩
        exact changed .add (by simp) after
      · exact fun _ holds => holds
    · exact fun _ holds => holds

/-! ## Forgetting and arming -/

/-- The operations of a registration are in the lines of its owner. -/
theorem loyal_of_found (found : engine.registration? fd = some registration) {verdict : Verdict}
    {sockets : Sockets} (loyal : sockets.fd? registration.owner = none → verdict = .cancelled) :
    ∀ operation ∈ registration.operations, ∃ spot, operation ∈ engine.lines spot ∧
      (spot.fd ≠ closedFd → sockets.fd? spot.socket = none → verdict = .cancelled) := by
  intro operation member
  obtain ⟨direction, inside⟩ := Engine.mem_lines found member
  exact ⟨_, inside, fun _ => loyal⟩

/-- A descriptor is forgotten; those who wait there are cancelled, but for guests who are exempt. -/
theorem ensures_unregister_join (fd : Fd)
    (free : ∀ commission : Commission, commission.fd = fd → guests commission.spot ≠ [] →
      exempt commission) :
    Ensures (Sound (engine.lines.join guests) exempt []) (engine.unregister (system kernel) fd)
      fun left reached => Sound (left.lines.join guests) exempt [] reached ∧
        left.registration? fd = none := by
  unfold Engine.unregister
  cases found : engine.registration? fd with
  | none => exact Ensures.pure fun site sound => ⟨sound, found⟩
  | some registration =>
    intro site sound
    let away := fun commission : Commission => exempt commission ∨
      commission.fd = fd ∧ site.sockets.fd? commission.socket = some fd
    -- Whether or not the watch was removed, those who wait at the descriptor are exempt.
    have removed : Ensures (· = site)
        ((system kernel).control engine.pollerFd .delete fd .none) fun _ reached =>
          Sound (engine.lines.join guests) exempt [] reached ∨
            Sound (engine.lines.join guests) away [] reached ∧ reached.sockets = site.sockets := by
      rintro now rfl
      rcases control_eq (kernel.control engine.pollerFd .delete fd .none) engine.pollerFd .delete fd
        .none now with ⟨after, error, same⟩ | ⟨after, same⟩
      · left
        change Sound _ _ _ (control _ _ _ _ _ now).2
        rw [same]
        exact sound.called after
      · right
        change Sound _ _ _ (control _ _ _ _ _ now).2 ∧ (control _ _ _ _ _ now).2.sockets = _
        rw [same]
        exact ⟨⟨sound.orderly, sound.guarded.forgotten fd, sound.ledger⟩, rfl⟩
    have settled {free : Commission → Prop} (now : Site σ)
        (sound : Sound (engine.lines.join guests) free [] now) :
        Sound ((engine.eraseRegistration fd).lines.join guests) free []
          (Engine.settleAll (system kernel) .cancelled registration.operations now).2 ∧
        (Engine.settleAll (system kernel) .cancelled registration.operations now).2.sockets =
          now.sockets := by
      obtain ⟨sound, same, finished⟩ := ensures_settleAll kernel registration.operations rfl
        (fun operation member => by
          obtain ⟨spot, inside, loyal⟩ := loyal_of_found found (fun _ => rfl) operation member
          exact ⟨spot, List.mem_append_left _ inside, loyal⟩) now ⟨sound, rfl⟩
      exact ⟨sound.erased_join found finished, same⟩
    have gone : (engine.eraseRegistration fd).registration? fd = none := by
      rw [Engine.registration?_eraseRegistration, if_pos rfl]
    refine ⟨?_, gone⟩
    rcases removed site rfl with sound | ⟨sound, sockets⟩
    · exact (settled _ sound).1
    · obtain ⟨sound, -⟩ := settled _ sound
      refine { sound with guarded := sound.guarded.exempting fun commission member waits => ?_ }
      refine ⟨Or.inl, fun freed => freed.elim id fun here => free commission here.1 fun nobody => ?_⟩
      obtain ⟨operation, inside, -⟩ := sound.orderly.in_line member waits
      unfold Lines.join at inside
      rw [nobody, Engine.lines_vacant gone _ here.1] at inside
      cases inside

/-- A descriptor is forgotten, and those who wait there are cancelled. -/
theorem ensures_unregister (fd : Fd) :
    Ensures (Sound engine.lines exempt []) (engine.unregister (system kernel) fd)
      fun left reached => Sound left.lines exempt [] reached ∧ left.registration? fd = none := by
  have forgotten : Ensures (Sound (engine.lines.join fun _ => []) exempt [])
      (engine.unregister (system kernel) fd) fun left reached =>
        Sound (left.lines.join fun _ => []) exempt [] reached ∧ left.registration? fd = none :=
    ensures_unregister_join fd fun _ _ some => absurd rfl some
  simp only [Lines.join_nobody] at forgotten
  exact forgotten

/-- At a closed socket arming a descriptor forgets it. -/
theorem arm_closed (found : engine.registration? fd = some registration)
    (closed : site.sockets.fd? registration.owner = none) :
    engine.arm (system kernel) fd site = engine.unregister (system kernel) fd site := by
  have isOpen : (system kernel).isOpen site registration.owner = false := by simp [system, closed]
  unfold Engine.arm
  rw [found]
  simp only [bind, StateT.bind, get, getThe, MonadStateOf.get, StateT.get, pure, isOpen,
    Bool.not_false, if_true]

/-- The operations of a registration that are not over. -/
def live (site : Site σ) (registration : Registration) : Registration :=
  { registration with
    readers := registration.readers.filter (site.roster.pending ·.future)
    writers := registration.writers.filter (site.roster.pending ·.future) }

/-- At an open socket a descriptor is watched for all who are not over. -/
theorem arm_open (found : engine.registration? fd = some registration)
    (opened : site.sockets.fd? registration.owner ≠ none) :
    engine.arm (system kernel) fd site =
      (let live := site.live registration
      let stored := engine.setRegistration fd live
      if live.interest.isEmpty then pure stored
      else do
        match ← stored.watch (system kernel) fd { live.interest with once := true } with
        | .ok () => return stored
        | .error error =>
          Engine.settleAll (system kernel) (.over (.error (Engine.watchFailure error))) live.operations
          return stored.eraseRegistration fd : StateM (Site σ) Engine) site := by
  have isOpen : (system kernel).isOpen site registration.owner = true := by
    simpa [system, Option.isSome_iff_ne_none] using opened
  unfold Engine.arm
  rw [found]
  simp only [bind, StateT.bind, get, getThe, MonadStateOf.get, StateT.get, pure, isOpen,
    Bool.not_true, Bool.false_eq_true, if_false, passOver_eq]
  rfl

end Site

/-- What a descriptor is watched for includes the direction of whoever waits there. -/
theorem Watches.armed_interest {operation : Operation} {direction : Direction} {watches : Watches}
    (member : operation ∈ registration.queue direction) :
    (watches.set fd (some { registration.interest with once := true })).Armed fd direction := by
  refine ⟨_, Watches.set_self _, ?_⟩
  cases direction with
  | reading =>
    have some : registration.readers ≠ [] := List.ne_nil_of_mem member
    simp [Registration.interest, some]
  | writing =>
    have some : registration.writers ≠ [] := List.ne_nil_of_mem member
    simp [Registration.interest, some]

/-- Nobody waits at a descriptor that need not be watched. -/
theorem Registration.queue_of_interest (silent : registration.interest.isEmpty = true)
    (direction : Direction) : registration.queue direction = [] := by
  have nothing : registration.interest = Flags.none := by
    simpa [Flags.isEmpty] using silent
  cases direction with
  | reading =>
    have readers : registration.readers = [] := by
      simpa [Registration.interest, Flags.none] using congrArg Flags.input nothing
    exact readers
  | writing =>
    have writers : registration.writers = [] := by
      simpa [Registration.interest, Flags.none] using congrArg Flags.output nothing
    exact writers

/-- Somebody waits at a descriptor that has to be watched. -/
theorem Registration.exists_of_interest (loud : ¬ registration.interest.isEmpty = true) :
    ∃ direction operation, operation ∈ registration.queue direction := by
  by_contra nobody
  have empty (direction : Direction) : registration.queue direction = [] :=
    List.eq_nil_iff_forall_not_mem.mpr fun operation member => nobody ⟨direction, operation, member⟩
  have readers : registration.readers = [] := empty .reading
  have writers : registration.writers = [] := empty .writing
  refine loud ?_
  unfold Registration.interest
  rw [readers, writers]
  rfl

namespace Sound

variable {lines : Lines}

/-- Those who are over leave the queues of a descriptor. -/
theorem lively (sound : Sound engine.lines exempt due site)
    (found : engine.registration? fd = some registration) :
    Sound (engine.setRegistration fd (site.live registration)).lines exempt due site := by
  refine { sound with orderly := ?_ }
  have own : (site.live registration).owner = registration.owner := rfl
  rw [Engine.lines_setRegistration found own]
  refine (sound.orderly.updated ?_).updated ?_
  · rw [Engine.lines_of_some found]
    exact Roster.waiting_filter _
  · rw [Function.update_of_ne (by simp), Engine.lines_of_some found]
    exact Roster.waiting_filter _

/-- Whoever waits at a descriptor waits in the queues of its socket. -/
theorem waits_here (sound : Sound engine.lines exempt due site)
    (found : engine.registration? fd = some registration)
    (member : commission ∈ site.roster.commissions)
    (waits : site.roster.pending commission.future = true) (here : commission.fd = fd) :
    registration.owner = commission.socket ∧
      ∃ operation ∈ registration.queue commission.direction, operation.future = commission.future := by
  obtain ⟨operation, inside, same⟩ := sound.orderly.in_line member waits
  obtain ⟨stored, there, own, queued⟩ := Engine.registration_of_mem_lines inside
  rw [Commission.fd_spot, here, found] at there
  obtain rfl := Option.some.inj there
  exact ⟨own, operation, queued, (Commission.future_eq_of_kind same.symm).symm⟩

end Sound

namespace Site

/-- A descriptor is watched for those who wait there, or nobody waits there any more. -/
theorem ensures_arm (relieved : Relieved fd exempt others) :
    Ensures (Sound engine.lines exempt []) (engine.arm (system kernel) fd)
      fun left reached => Sound left.lines others [] reached := by
  intro site sound
  cases found : engine.registration? fd with
  | none =>
    have idle : engine.arm (system kernel) fd site = (engine, site) := by
      unfold Engine.arm
      rw [found]
      rfl
    rw [idle]
    exact sound.vacant relieved (Engine.lines_vacant found)
  | some registration =>
    by_cases opened : site.sockets.fd? registration.owner = none
    · rw [arm_closed found opened]
      obtain ⟨left, gone⟩ := ensures_unregister fd site sound
      exact left.vacant relieved (Engine.lines_vacant gone)
    rw [arm_open found opened]
    have stored : (engine.setRegistration fd (site.live registration)).registration? fd =
        some (site.live registration) := by
      rw [Engine.registration?_setRegistration, if_pos rfl]
    have lively := sound.lively found
    dsimp only
    split
    · rename_i silent
      refine lively.vacant relieved fun spot here => ?_
      obtain ⟨socket, place, direction⟩ := spot
      obtain rfl : place = fd := here
      by_cases own : (site.live registration).owner = socket
      · rw [← own, Engine.lines_of_some stored]
        exact Registration.queue_of_interest silent direction
      · exact Engine.lines_of_ne stored own
    · rename_i loud
      suffices held : Ensures (· = site) _ fun (left : Engine) reached =>
        Sound left.lines others [] reached from held site rfl
      refine Ensures.bind _ (ensures_watch kernel _ fd _ site) ?_
      rintro (error | -) reached ⟨after, rfl⟩
      · -- Everybody who waits at the descriptor fails, so nobody waits there any more.
        have failed : (Verdict.over (.error (Engine.watchFailure error))).completion? = none := rfl
        obtain ⟨left, -, finished⟩ := ensures_settleAll kernel (site.live registration).operations failed
          (loyal_of_found stored fun gone => absurd gone opened) _ ⟨lively.called after, rfl⟩
        refine (left.erased stored finished).vacant relieved (Engine.lines_vacant ?_)
        rw [Engine.registration?_eraseRegistration, if_pos rfl]
      · -- Somebody waits, so the descriptor is that of the open socket.
        have own {commission : Commission} (member : commission ∈ site.roster.commissions)
            (waits : site.roster.pending commission.future = true) (here : commission.fd = fd) :
            site.sockets.fd? commission.socket = some fd := by
          obtain ⟨same, -⟩ := lively.waits_here stored member waits here
          rw [← here]
          exact lively.guarded.fd_of_open member (same ▸ opened)
        obtain ⟨direction, operation, inside⟩ := Registration.exists_of_interest loud
        have waits : site.roster.pending operation.future = true := by
          cases direction with
          | reading => exact (List.mem_filter.mp inside).2
          | writing => exact (List.mem_filter.mp inside).2
        rw [← Engine.lines_of_some stored] at inside
        obtain ⟨commission, member, there, same⟩ := lively.orderly.commissioned inside waits
        rw [← Commission.future_eq_of_kind same] at waits
        have valid : fd ≠ closedFd :=
          lively.guarded.valid (own member waits (congrArg Spot.fd there))
        refine ⟨lively.orderly, lively.guarded.watched relieved _ ?_ valid, lively.ledger⟩
        intro commission member waits here
        obtain ⟨-, operation, queued, -⟩ := lively.waits_here stored member waits here
        exact ⟨own member waits here, Watches.armed_interest queued⟩

/-! ## Submitting -/

/-- Those who are exempt while an operation is submitted. -/
def near (new : Commission) : Commission → Prop := fun commission => commission.spot = new.spot

/-- A descriptor is relieved next to a new commission. -/
theorem relieved_near (new : Commission) : Relieved new.fd (near new) fun _ => False where
  fewer _ none := none.elim
  elsewhere _ close away := away (congrArg Spot.fd close)

/-- A socket claims its descriptor for a new operation. -/
theorem ensures_claim (new : Commission) :
    Ensures (Sound (engine.lines.join new.alone) (near new) [])
      (engine.claim (system kernel) new.socket new.fd) fun claimed reached =>
        Sound (claimed.2.lines.join new.alone) (near new) [] reached ∧
          claimed.2.registration? new.fd = some claimed.1 ∧ claimed.1.owner = new.socket := by
  have stored (engine : Engine) : (engine.setRegistration new.fd { owner := new.socket }).registration?
      new.fd = some { owner := new.socket } := by
    rw [Engine.registration?_setRegistration, if_pos rfl]
  unfold Engine.claim
  cases found : engine.registration? new.fd with
  | none =>
    refine Ensures.pure fun site sound => ⟨?_, stored engine, rfl⟩
    rwa [Engine.lines_registered found]
  | some registration =>
    dsimp only
    split
    · rename_i own
      exact Ensures.pure fun site sound => ⟨sound, found, own⟩
    · refine Ensures.bind (fun _ => Sound (engine.lines.join new.alone) (near new) [])
        (fun site sound => sound.called _) fun _ => ?_
      refine Ensures.bind _ (ensures_unregister_join new.fd fun commission _ guest => ?_) fun left => ?_
      · by_contra away
        exact guest (if_neg away)
      · refine Ensures.pure fun site ⟨sound, gone⟩ => ⟨?_, stored left, rfl⟩
        rwa [Engine.lines_registered gone]

/-- A new operation is tried, or waits behind others. -/
theorem ensures_enqueue (new : Commission)
    (found : engine.registration? new.fd = some registration) (own : registration.owner = new.socket) :
    Ensures (Sound (engine.lines.join new.alone) (near new) [])
      (engine.enqueue (system kernel) new.fd registration new.direction new.operation)
      fun left reached => Sound left.lines (fun _ => False) [] reached := by
  rw [Engine.join_alone_of_found found own]
  -- Whatever is left of the queue is put in place, and then the descriptor is watched.
  have rest (queue : List Operation) : Ensures
      (Sound (Function.update engine.lines new.spot queue) (near new) [])
      (let engine := engine.setRegistration new.fd (registration.setQueue new.direction queue)
      if queue.isEmpty then Pure.pure engine else engine.arm (system kernel) new.fd)
      fun left reached => Sound left.lines (fun _ => False) [] reached := by
    have put := Engine.lines_queued found own queue
    rw [← put]
    dsimp only
    split
    · rename_i empty
      refine Ensures.pure fun site sound => { sound with
        guarded := sound.guarded.exempting fun commission member waits => ?_ }
      refine ⟨False.elim, fun close : commission.spot = new.spot => ?_⟩
      obtain ⟨operation, inside, -⟩ := sound.orderly.in_line member waits
      rw [put, close, Function.update_self, List.isEmpty_iff.mp empty] at inside
      cases inside
    · exact ensures_arm (relieved_near new)
  unfold Engine.enqueue
  dsimp only
  split
  · rename_i empty
    rw [List.isEmpty_iff.mp empty]
    exact Ensures.bind _ (ensures_retry (fun _ close => close) [new.operation]) rest
  · exact Ensures.bind _ (Ensures.pure fun site sound => sound) rest

end Site

/-- A new operation is in line and not over. -/
structure Fresh (lines : Lines) (new : Commission) (site : Site σ) : Prop where
  /-- All is as it should be, but for the new operation. -/
  sound : Sound (lines.join new.alone) (· = new) [] site
  /-- The operation was submitted. -/
  member : new ∈ site.roster.commissions
  /-- The operation is pending. -/
  waits : site.roster.pending new.future = true

namespace Fresh

variable {lines : Lines} {new : Commission}

/-- All that wait with the new operation may be exempt. -/
theorem near (fresh : Fresh lines new site) : Sound (lines.join new.alone) (Site.near new) [] site :=
  { fresh.sound with guarded := fresh.sound.guarded.widened fresh.member fresh.waits }

/-- The socket has the descriptor. -/
theorem own (fresh : Fresh lines new site) (valid : new.fd ≠ closedFd) :
    site.sockets.fd? new.socket = some new.fd :=
  fresh.sound.guarded.owned new fresh.member fresh.waits (Or.inr rfl) valid

end Fresh

/-- Once a new operation is over it may leave the line, and nobody is exempt. -/
theorem Sound.without {lines : Lines} {new : Commission}
    (sound : Sound (lines.join new.alone) (· = new) due site)
    (finished : site.roster.pending new.future = false) : Sound lines (fun _ => False) due site where
  orderly := by
    refine sound.orderly.relined fun spot => ?_
    unfold Lines.join Commission.alone
    rw [Roster.waiting_append]
    split
    · rw [Roster.waiting_cons_of_over finished]
      exact (List.append_nil _).symm
    · exact (List.append_nil _).symm
  guarded := sound.guarded.exempting fun commission _ waits => by
    refine ⟨False.elim, ?_⟩
    rintro rfl
    rw [finished] at waits
    cases waits
  ledger := sound.ledger

namespace Fresh

variable {lines : Lines} {new : Commission}

/-- A system call for a new operation that reads nothing. -/
theorem asked (fresh : Fresh lines new site) (after : σ) :
    Fresh lines new { site with
      kernel := after
      calls := site.calls ++ [⟨new.future, new.fd, none, site.sockets, site.roster.endings⟩] } :=
  ⟨fresh.sound.asked fresh.member fresh.waits fresh.own none (fun some => absurd rfl some) after,
    fresh.member, fresh.waits⟩

/-- The socket of a new operation is open. -/
theorem opened (fresh : Fresh lines new site) (valid : new.fd ≠ closedFd) :
    site.sockets.fd? new.socket ≠ none := by
  simp [fresh.own valid]

/-- A new operation fails. -/
theorem failed (fresh : Fresh lines new site) (error : Error) :
    Sound lines (fun _ => False) [] (site.conclude new.future (.over (.error error))) := by
  refine (fresh.sound.ended_ill fresh.member rfl fun valid gone => ?_).without ?_
  · exact absurd gone (fresh.opened valid)
  · simp

/-- A new operation that reads nothing succeeds. -/
theorem succeeded (fresh : Fresh lines new site) (writes : new.direction = .writing)
    {completion : Completion} (fits : new.request.Admits completion) :
    Sound lines (fun _ => False) [] (site.conclude new.future (.over (.ok completion))) := by
  refine (fresh.sound.ended_well fresh.member fresh.waits fits fresh.opened ?_ ?_).without ?_
  · simp [dueTo, writes]
  · intro reads
    rw [writes] at reads
    cases reads
  · simp

end Fresh

namespace Site

/-- An operation is submitted. -/
theorem ensures_submit (new : Commission) :
    Ensures (Fresh engine.lines new)
      (engine.submit (system kernel) new.socket new.fd new.direction new.operation)
      fun left reached => Sound left.lines (fun _ => False) [] reached := by
  refine Ensures.bind _ ((ensures_claim new).weaken fun site fresh => fresh.near) ?_
  rintro ⟨registration, left⟩ site ⟨sound, found, own⟩
  exact ensures_enqueue new found own site sound

/-- A socket begins to connect. -/
theorem ensures_connect (new : Commission) (connects : new.request = .connect) (target : Address) :
    Ensures (Fresh engine.lines new)
      (engine.connect (system kernel) new.socket new.fd target new.future)
      fun left reached => Sound left.lines (fun _ => False) [] reached := by
  have operation : new.operation = ⟨.connect, new.future⟩ := by
    rw [← connects]
    rfl
  have writes : new.direction = .writing := by
    unfold Commission.direction
    rw [connects]
    rfl
  unfold Engine.connect
  refine Ensures.bind (fun _ => Fresh engine.lines new) ?_ fun answer => ?_
  · intro site fresh
    obtain ⟨answer, after, answered, -⟩ := ask_eq (kernel.connect new.future new.fd target)
      .badDescriptor (fun _ => none) new.future new.fd site
    have nothing : (answer.toOption.bind fun _ => none : Option Completion) = none := by
      cases answer <;> rfl
    rw [nothing] at answered
    change Fresh engine.lines new (ask _ _ _ _ _ site).2
    rw [answered]
    exact fresh.asked after
  rcases answer with error | -
  · dsimp only
    split
    · -- The attempt is under way, so the operation stands in line like any other.
      refine Ensures.bind _ ((ensures_claim new).weaken fun site fresh => fresh.near) ?_
      rintro ⟨registration, left⟩
      refine fun site ⟨sound, found, own⟩ => ensures_arm (relieved_near new) site ?_
      rw [Engine.join_alone_of_found found own, ← Engine.lines_queued found own, writes, operation]
        at sound
      exact sound
    · exact Ensures.bind (fun _ => Sound engine.lines (fun _ => False) [])
        (fun site fresh => fresh.failed _) fun _ => Ensures.pure fun site sound => sound
  · refine Ensures.bind (fun _ => Sound engine.lines (fun _ => False) [])
      (fun site fresh => fresh.succeeded writes ?_) fun _ => Ensures.pure fun site sound => sound
    rw [connects]
    trivial

/-! ## Polling -/

/-- The operations of a descriptor are tried that a report is about. -/
theorem ensures_dispatch (relieved : Relieved fd exempt others)
    (free : ∀ commission : Commission, commission.fd = fd → exempt commission)
    (readable writable : Bool) :
    Ensures (Sound engine.lines exempt [])
      (engine.dispatch (system kernel) fd readable writable)
      fun left reached => Sound left.lines others [] reached := by
  unfold Engine.dispatch
  cases found : engine.registration? fd with
  | none => exact Ensures.pure fun site sound => sound.vacant relieved (Engine.lines_vacant found)
  | some registration =>
    -- Each queue is tried if the descriptor is ready for it.
    have tried (lines : Lines) (spot : Spot) (here : spot.fd = fd) (queue : List Operation)
        (ready : Bool) :
        Ensures (Sound (Function.update lines spot queue) exempt [])
          (if ready then Engine.retry (system kernel) fd queue else Pure.pure queue)
          fun left reached => Sound (Function.update lines spot left) exempt [] reached := by
      split
      · rw [← here]
        exact ensures_retry (fun commission there =>
          free commission ((congrArg Spot.fd there).trans here)) queue
      · exact Ensures.pure fun site sound => sound
    let reading : Spot := ⟨registration.owner, fd, .reading⟩
    let writing : Spot := ⟨registration.owner, fd, .writing⟩
    have readers : Function.update engine.lines reading registration.readers = engine.lines := by
      rw [← show engine.lines reading = registration.readers from Engine.lines_of_some found .reading,
        Function.update_eq_self]
    have writers (queue : List Operation) : Function.update (Function.update engine.lines reading queue)
        writing registration.writers = Function.update engine.lines reading queue := by
      rw [← show engine.lines writing = registration.writers from Engine.lines_of_some found .writing,
        Function.update_comm (by simp [reading, writing]), Function.update_eq_self]
    have reads := tried engine.lines reading rfl registration.readers readable
    rw [readers] at reads
    refine Ensures.choose reads fun left => ?_
    have writes :=
      tried (Function.update engine.lines reading left) writing rfl registration.writers writable
    rw [writers] at writes
    refine Ensures.choose writes fun more => ?_
    have put : (engine.setRegistration fd { registration with readers := left, writers := more }).lines =
        Function.update (Function.update engine.lines reading left) writing more :=
      Engine.lines_setRegistration found rfl
    rw [← put]
    exact ensures_arm relieved

/-- Those who wait where reports are about are exempt. -/
def reported (reports : List (Nat × Flags)) : Commission → Prop := fun commission =>
  ∃ report ∈ reports, (report.1 : Fd) = commission.fd

/-- Reports are handled one after another. -/
theorem ensures_handle (reports : List (Nat × Flags)) :
    Ensures (Sound engine.lines (reported reports) [])
      (engine.handle (system kernel) reports)
      fun left reached => Sound left.lines (fun _ => False) [] reached := by
  induction reports generalizing engine with
  | nil =>
    refine fun site sound => { sound with guarded := sound.guarded.exempting fun _ _ _ => ?_ }
    simp [reported]
  | cons report rest ih =>
    have relieved : Relieved (report.1 : Fd) (reported (report :: rest)) (reported rest) := by
      refine ⟨fun commission ⟨other, later, here⟩ => ⟨other, List.mem_cons_of_mem _ later, here⟩, ?_⟩
      rintro commission ⟨other, member, here⟩ away
      rcases List.mem_cons.mp member with rfl | later
      · exact absurd here.symm away
      · exact ⟨other, later, here⟩
    refine Ensures.bind (fun _ => Sound engine.lines (reported (report :: rest)) [])
      (fun site sound => sound.called _) fun _ => ?_
    refine Ensures.bind _ (ensures_dispatch relieved (fun commission here => ?_) _ _) fun left => ih
    exact ⟨report, List.mem_cons_self, here.symm⟩

/-- Those who wait where the answer to a wait has reports about are exempt. -/
def answered : Except Errno (List (Nat × Flags)) → Commission → Prop
  | .ok reports => reported reports
  | .error _ => fun _ => False

/-- A wait uses up the watches that it has reports about. -/
theorem ensures_wait {lines : Lines} (step : StateM σ (Except Errno (List (Nat × Flags)))) :
    Ensures (Sound lines (fun _ => False) []) (wait step)
      fun answer reached => Sound lines (answered answer) [] reached := by
  intro site sound
  unfold wait
  rcases step site.kernel with ⟨error | reports, after⟩
  · exact sound.called after
  · exact ⟨sound.orderly, sound.guarded.collected reports, sound.ledger⟩

/-- The engine is polled. -/
theorem ensures_poll (timeout : Option Nat) :
    Ensures (Sound engine.lines (fun _ => False) []) (engine.poll (system kernel) timeout)
      fun polled reached => Sound polled.2.lines (fun _ => False) [] reached := by
  unfold Engine.poll
  split
  · exact Ensures.pure fun site sound => sound
  · refine Ensures.bind _ (ensures_wait _) fun answer => ?_
    cases answer with
    | error error =>
      dsimp only
      split <;> exact Ensures.pure fun site sound => sound
    | ok reports =>
      exact Ensures.bind _ (ensures_handle reports) fun engine => Ensures.pure fun site sound => sound

end Site

end EventLoop.Proactor

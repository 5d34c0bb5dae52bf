import EventLoop.Proofs.Proactor.Registrations
import EventLoop.Proofs.Proactor.Turns

/-!
# Sends are made in order

Every session keeps the law of the line, so the kernel takes the data of the sends on a socket in the
order in which they were submitted: a first part of the data of each, and all of it if the send ended
well. Nothing of a later send is offered before every earlier one is over, and nothing of a send that is
over.
-/
namespace EventLoop.Proactor

variable {σ : Type} {kernel : System σ} {trial : Trial σ} {engine : Engine} {fd descriptor : Fd}
variable {socket other : SocketId} {sends : List Sending} {operation : Operation}
variable {direction : Direction} {registration : Registration}

/-! ## Whom a descriptor belongs to -/

namespace Engine

/-- Whatever is registered at a descriptor belongs to a socket. -/
def OwnedBy (engine : Engine) (socket : SocketId) (fd : Fd) : Prop :=
  ∀ registration, engine.registration? fd = some registration → registration.owner = socket

/-- A descriptor still belongs to a socket after a registration of that socket, or elsewhere. -/
theorem OwnedBy.setRegistration (owned : engine.OwnedBy socket fd)
    (owner : descriptor = fd → registration.owner = socket) :
    (engine.setRegistration descriptor registration).OwnedBy socket fd := by
  intro stored found
  rw [registration?_setRegistration] at found
  split at found
  · rename_i here
    obtain rfl := Option.some.inj found
    exact owner here.symm
  · exact owned stored found

end Engine

/-! ## What the engine does -/

/-- The sends on the descriptor of a socket wait in a line. -/
structure InLine (socket : SocketId) (fd : Fd) (sends : List Sending) (engine : Engine)
    (trial : Trial σ) : Prop where
  /-- The law holds for the queues of the engine. -/
  law : Law fd sends engine.queues trial
  /-- Nobody else has operations at the descriptor. -/
  owned : engine.OwnedBy socket fd

namespace InLine

/-- A call of the kernel that offers nothing. -/
theorem called (inLine : InLine socket fd sends engine trial) (kernel : σ) :
    InLine socket fd sends engine { trial with kernel } :=
  ⟨inLine.law.called kernel, inLine.owned⟩

/-- Other operations of the owner are put in place. -/
theorem setRegistration (inLine : InLine socket fd sends engine trial) {reached : Trial σ}
    (law : Law fd sends ((engine.queues.set descriptor .reading registration.readers).set descriptor
      .writing registration.writers) reached)
    (owner : descriptor = fd → registration.owner = socket) :
    InLine socket fd sends (engine.setRegistration descriptor registration) reached :=
  ⟨by rwa [Engine.queues_setRegistration], inLine.owned.setRegistration owner⟩

/-- The operations that wait at a descriptor are its queues. -/
theorem law_set (inLine : InLine socket fd sends engine trial)
    (found : engine.registration? descriptor = some registration) :
    Law fd sends ((engine.queues.set descriptor .reading registration.readers).set descriptor
      .writing registration.writers) trial := by
  have readers : engine.queues descriptor .reading = registration.readers :=
    Engine.queues_of_some found .reading
  have writers : (engine.queues.set descriptor .reading registration.readers) descriptor .writing =
      registration.writers := by
    rw [Queues.set_of_ne (by simp)]
    exact Engine.queues_of_some found .writing
  rw [← writers, Queues.set_get, ← readers, Queues.set_get]
  exact inLine.law

/-- The owner of the descriptor. -/
theorem owner (inLine : InLine socket fd sends engine trial)
    (found : engine.registration? descriptor = some registration) (here : descriptor = fd) :
    registration.owner = socket := inLine.owned registration (here ▸ found)

end InLine

/-- The operations that wait have futures that were made. -/
theorem Law.made_of_mem {queues : Queues} (law : Law fd sends queues trial)
    (member : operation ∈ queues descriptor direction) : operation.future < trial.made := by
  have line := law.line
  by_cases plain : descriptor = fd → operation.request.isSend = false
  · exact (law.foreign descriptor direction operation member plain).1
  · obtain ⟨rfl, sending⟩ := Classical.not_imp.mp plain
    cases direction with
    | reading => exact absurd (law.plain operation member) sending
    | writing =>
      have waits (sends : List Sending) (queue : List Operation) (line : Line trial sends queue)
          (inside : operation ∈ queue) : ∃ send ∈ sends, send.future = operation.future := by
        induction line with
        | nil => cases inside
        | ended _ _ ih =>
          obtain ⟨send, listed, same⟩ := ih inside
          exact ⟨send, List.mem_cons_of_mem _ listed, same⟩
        | @waits send _ _ _ ih =>
          rcases List.mem_cons.mp inside with rfl | inside
          · exact ⟨send, List.mem_cons_self, rfl⟩
          · obtain ⟨send, listed, same⟩ := ih inside
            exact ⟨send, List.mem_cons_of_mem _ listed, same⟩
        | other other _ ih =>
          rcases List.mem_cons.mp inside with rfl | inside
          · exact absurd other sending
          · exact ih inside
      obtain ⟨send, listed, same⟩ := waits sends _ line member
      rw [← same]
      exact law.account.made send listed

/-- A descriptor is forgotten after all who waited there are over. -/
theorem InLine.erased (inLine : InLine socket fd sends engine trial) {reached : Trial σ}
    (found : engine.registration? descriptor = some registration)
    (law : Law fd sends engine.queues reached)
    (finished : ∀ operation ∈ registration.operations, reached.isOver operation.future = true) :
    InLine socket fd sends (engine.eraseRegistration descriptor) reached := by
  constructor
  · rw [Engine.queues_eraseRegistration]
    refine Law.cleared (Law.cleared law fun operation member => ?_) fun operation member => ?_
    · rw [Engine.queues_of_some found] at member
      exact finished operation (List.mem_append_left _ member)
    · rw [Queues.set_of_ne (by simp), Engine.queues_of_some found] at member
      exact finished operation (List.mem_append_right _ member)
  · intro stored left
    rw [Engine.registration?_eraseRegistration] at left
    split at left
    · cases left
    · exact inLine.owned stored left

/-- The operations that wait at a descriptor end in one way, but not well. -/
theorem ensures_settleOperations {verdict : Verdict}
    (found : engine.registration? descriptor = some registration)
    (ill : ∀ completion, verdict ≠ .over (.ok completion)) :
    Ensures (InLine socket fd sends engine)
      (Engine.settleAll (Trial.system kernel) verdict registration.operations) fun _ reached =>
        InLine socket fd sends (engine.eraseRegistration descriptor) reached := by
  intro trial inLine
  have waiting : ∀ operation ∈ registration.operations, operation.future < trial.made := by
    intro operation member
    rcases List.mem_append.mp member with reader | writer
    · rw [show registration.readers = engine.queues descriptor .reading from
        (Engine.queues_of_some found .reading).symm] at reader
      exact inLine.law.made_of_mem reader
    · rw [show registration.writers = engine.queues descriptor .writing from
        (Engine.queues_of_some found .writing).symm] at writer
      exact inLine.law.made_of_mem writer
  obtain ⟨law, finished⟩ := ensures_settleAll registration.operations ill trial ⟨inLine.law, waiting⟩
  exact inLine.erased found law finished

/-- A descriptor is forgotten. -/
theorem ensures_unregister (descriptor : Fd) :
    Ensures (InLine socket fd sends engine) (engine.unregister (Trial.system kernel) descriptor)
      fun left reached => InLine socket fd sends left reached ∧ left.registration? descriptor = none := by
  unfold Engine.unregister
  cases found : engine.registration? descriptor with
  | none => exact Ensures.pure fun trial inLine => ⟨inLine, found⟩
  | some registration =>
    refine Ensures.bind (fun _ => InLine socket fd sends engine) (fun trial inLine => inLine.called _)
      fun _ => ?_
    refine Ensures.bind _ (ensures_settleOperations found fun _ same => nomatch same) fun _ => ?_
    refine Ensures.pure fun trial inLine => ⟨inLine, ?_⟩
    rw [Engine.registration?_eraseRegistration, if_pos rfl]

/-- A descriptor is watched. -/
theorem ensures_watch (descriptor : Fd) (interest : Kernel.Flags) :
    Ensures (InLine socket fd sends engine)
      (engine.watch (Trial.system kernel) descriptor interest)
      fun _ reached => InLine socket fd sends engine reached := by
  unfold Engine.watch
  refine Ensures.bind (fun _ => InLine socket fd sends engine) (fun trial inLine => inLine.called _)
    fun answer => ?_
  split
  · split
    · exact fun trial inLine => inLine.called _
    · exact Ensures.pure fun trial inLine => inLine
  · exact Ensures.pure fun trial inLine => inLine

/-- A descriptor is watched for those who still wait at it. -/
theorem ensures_arm (descriptor : Fd) :
    Ensures (InLine socket fd sends engine) (engine.arm (Trial.system kernel) descriptor)
      (InLine socket fd sends) := by
  unfold Engine.arm
  cases found : engine.registration? descriptor with
  | none => exact Ensures.pure fun trial inLine => inLine
  | some registration =>
    refine Ensures.get fun trial => ?_
    split
    · have forgotten : Ensures (InLine socket fd sends engine)
          (engine.unregister (Trial.system kernel) descriptor) (InLine socket fd sends) :=
        fun trial inLine => (ensures_unregister descriptor trial inLine).1
      exact forgotten.weaken fun _ holds => holds.2
    · let waits := fun operation : Operation => !trial.isOver operation.future
      refine Ensures.bind (fun readers now => readers = registration.readers.filter waits ∧ now = trial ∧
        InLine socket fd sends engine now) ?_ fun readers => ?_
      · rintro _ ⟨rfl, inLine⟩
        rw [passOver_eq]
        exact ⟨rfl, rfl, inLine⟩
      refine Ensures.bind (fun writers now => InLine socket fd sends
        (engine.setRegistration descriptor { registration with readers, writers }) now) ?_
          fun writers => ?_
      · rintro _ ⟨rfl, rfl, inLine⟩
        have owner : descriptor = fd → registration.owner = socket := inLine.owner found
        rw [passOver_eq]
        refine inLine.setRegistration ?_ owner
        have law := (inLine.law_set found).filter
        rw [Queues.set_comm (by decide)] at law ⊢
        exact law.filter
      dsimp only
      split
      · exact Ensures.pure fun trial inLine => inLine
      · refine Ensures.bind _ (ensures_watch descriptor _) fun answer => ?_
        cases answer with
        | ok => exact Ensures.pure fun trial inLine => inLine
        | error error =>
          have stored : (engine.setRegistration descriptor
              { registration with readers, writers }).registration? descriptor =
                some { registration with readers, writers } := by
            rw [Engine.registration?_setRegistration, if_pos rfl]
          refine Ensures.bind _ (ensures_settleOperations stored ?_) fun _ =>
            Ensures.pure fun trial inLine => inLine
          intro completion same
          cases same

/-- An operation comes last in a queue of a descriptor. -/
theorem ensures_enqueue (found : engine.registration? descriptor = some registration)
    (owner : descriptor = fd → registration.owner = socket) (owned : engine.OwnedBy socket fd) :
    Ensures (fun trial => Law fd sends (engine.queues.set descriptor direction
        (registration.queue direction ++ [operation])) trial)
      (engine.enqueue (Trial.system kernel) descriptor registration direction operation)
      (InLine socket fd sends) := by
  -- Whatever is left of the queue is put in place, and then the descriptor is watched.
  have rest (queue : List Operation) : Ensures
      (fun trial => Law fd sends (engine.queues.set descriptor direction queue) trial)
      (let engine := engine.setRegistration descriptor (registration.setQueue direction queue)
      if queue.isEmpty then Pure.pure engine else engine.arm (Trial.system kernel) descriptor)
      (InLine socket fd sends) := by
    have stored (trial : Trial σ)
        (law : Law fd sends (engine.queues.set descriptor direction queue) trial) :
        InLine socket fd sends
          (engine.setRegistration descriptor (registration.setQueue direction queue)) trial := by
      refine ⟨by rwa [Engine.queues_setQueue found], owned.setRegistration ?_⟩
      cases direction <;> exact owner
    dsimp only
    split
    · exact Ensures.pure stored
    · exact (ensures_arm descriptor).weaken stored
  unfold Engine.enqueue
  dsimp only
  split
  · rename_i empty
    rw [List.isEmpty_iff.mp empty]
    exact Ensures.bind _ (ensures_retry [operation]) rest
  · exact Ensures.bind _ (Ensures.pure fun trial law => law) rest

/-! ### Claiming a descriptor -/

/-- Nobody waits at a descriptor that nobody registered. -/
theorem queues_registered (missing : engine.registration? descriptor = none) (owner : SocketId) :
    (engine.setRegistration descriptor { owner }).queues = engine.queues := by
  rw [Engine.queues_setRegistration]
  change (engine.queues.set descriptor .reading []).set descriptor .writing [] = engine.queues
  have readers : engine.queues descriptor .reading = [] := Engine.queues_of_none missing .reading
  have writers : engine.queues descriptor .writing = [] := Engine.queues_of_none missing .writing
  have first : engine.queues.set descriptor .reading [] = engine.queues := by
    conv => lhs; rw [← readers]
    exact Queues.set_get
  rw [first]
  conv => lhs; rw [← writers]
  exact Queues.set_get

/-- No operation is made when operations are settled. -/
theorem made_settleAll (verdict : Verdict) (operations : List Operation) (trial : Trial σ) :
    (Engine.settleAll (Trial.system kernel) verdict operations trial).2.made = trial.made := by
  induction operations generalizing trial with
  | nil => rfl
  | cons first rest ih => exact (ih _).trans (Trial.made_conclude ..)

/-- No operation is made when a registration is removed. -/
theorem made_unregister (engine : Engine) (descriptor : Fd) (trial : Trial σ) :
    (engine.unregister (Trial.system kernel) descriptor trial).2.made = trial.made := by
  unfold Engine.unregister
  cases engine.registration? descriptor with
  | none => rfl
  | some registration => exact made_settleAll .cancelled registration.operations _

/-- A socket registers at a descriptor at which nobody is registered. -/
theorem InLine.registered (inLine : InLine socket fd sends engine trial)
    (missing : engine.registration? descriptor = none) (owner : descriptor = fd → other = socket) :
    InLine socket fd sends (engine.setRegistration descriptor { owner := other }) trial :=
  ⟨by rw [queues_registered missing]; exact inLine.law, inLine.owned.setRegistration owner⟩

/-- A socket claims its descriptor. -/
theorem ensures_claim (owner : descriptor = fd → other = socket) (made : Nat) :
    Ensures (fun trial => InLine socket fd sends engine trial ∧ trial.made = made)
      (engine.claim (Trial.system kernel) other descriptor) fun claimed reached =>
        InLine socket fd sends claimed.2 reached ∧ reached.made = made ∧
          claimed.2.registration? descriptor = some claimed.1 ∧ claimed.1.owner = other := by
  have stored (engine : Engine) : (engine.setRegistration descriptor
      { owner := other }).registration? descriptor = some { owner := other } := by
    rw [Engine.registration?_setRegistration, if_pos rfl]
  unfold Engine.claim
  cases found : engine.registration? descriptor with
  | none =>
    exact Ensures.pure fun trial holds =>
      ⟨holds.1.registered found owner, holds.2, stored engine, rfl⟩
  | some registration =>
    dsimp only
    split
    · rename_i own
      exact Ensures.pure fun trial holds => ⟨holds.1, holds.2, found, own⟩
    · refine Ensures.bind (fun _ trial => InLine socket fd sends engine trial ∧ trial.made = made)
        (fun trial holds => ⟨holds.1.called _, holds.2⟩) fun _ => ?_
      refine Ensures.bind (fun left trial => (InLine socket fd sends left trial ∧
        left.registration? descriptor = none) ∧ trial.made = made) ?_ fun left => ?_
      · intro trial holds
        exact ⟨ensures_unregister descriptor trial holds.1, (made_unregister ..).trans holds.2⟩
      · exact Ensures.pure fun trial holds =>
          ⟨holds.1.1.registered holds.1.2 owner, holds.2, stored left, rfl⟩

/-! ### Submitting and polling -/

/-- Something is submitted that is not a send on the descriptor. -/
theorem ensures_submit (owner : descriptor = fd → other = socket) :
    Ensures (fun trial => InLine socket fd sends engine trial ∧
        Foreign fd sends trial descriptor operation)
      (engine.submit (Trial.system kernel) other descriptor direction operation)
      (InLine socket fd sends) := by
  intro trial ⟨inLine, foreign⟩
  refine Ensures.bind _ (ensures_claim owner trial.made) ?_ trial ⟨inLine, rfl⟩
  intro (registration, left) reached ⟨inLine, same, found, own⟩
  refine ensures_enqueue found (fun here => own.trans (owner here)) inLine.owned reached ?_
  rw [← Engine.queues_of_some found]
  exact inLine.law.concat ⟨foreign.plain, same ▸ foreign.made, foreign.apart⟩

/-- A socket begins to connect. -/
theorem ensures_connect (owner : descriptor = fd → other = socket) (target : Address)
    (future : FutureId) :
    Ensures (fun trial => InLine socket fd sends engine trial ∧
        Foreign fd sends trial descriptor ⟨.connect, future⟩)
      (engine.connect (Trial.system kernel) other descriptor target future)
      (InLine socket fd sends) := by
  have settled (verdict : Verdict) : Ensures (fun trial => InLine socket fd sends engine trial ∧
      Foreign fd sends trial descriptor ⟨.connect, future⟩)
      ((Trial.system kernel).settle future verdict) fun _ => InLine socket fd sends engine := by
    intro trial ⟨inLine, foreign⟩
    exact ⟨inLine.law.concluded foreign.made verdict
      fun send member own => absurd own (foreign.apart send member), inLine.owned⟩
  unfold Engine.connect
  refine Ensures.bind (fun _ trial => InLine socket fd sends engine trial ∧
    Foreign fd sends trial descriptor ⟨.connect, future⟩)
    (fun trial holds => ⟨holds.1.called _, ⟨holds.2.plain, holds.2.made, holds.2.apart⟩⟩) fun answer => ?_
  split
  · exact Ensures.bind _ (settled _) fun _ => Ensures.pure fun trial inLine => inLine
  · split
    · intro trial ⟨inLine, foreign⟩
      refine Ensures.bind _ (ensures_claim owner trial.made) ?_ trial ⟨inLine, rfl⟩
      intro (registration, left) reached ⟨inLine, same, found, own⟩
      refine ensures_arm descriptor reached ?_
      have law : Law fd sends (left.queues.set descriptor .writing
          (left.queues descriptor .writing ++ [⟨.connect, future⟩])) reached :=
        inLine.law.concat ⟨foreign.plain, same ▸ foreign.made, foreign.apart⟩
      rw [Engine.queues_of_some found, ← Engine.queues_setQueue found] at law
      exact ⟨law, inLine.owned.setRegistration fun here => own.trans (owner here)⟩
    · exact Ensures.bind _ (settled _) fun _ => Ensures.pure fun trial inLine => inLine

/-- The operations of a descriptor that is ready are tried. -/
theorem ensures_dispatch (descriptor : Fd) (readable writable : Bool) :
    Ensures (InLine socket fd sends engine)
      (engine.dispatch (Trial.system kernel) descriptor readable writable) (InLine socket fd sends) := by
  unfold Engine.dispatch
  cases found : engine.registration? descriptor with
  | none => exact Ensures.pure fun trial inLine => inLine
  | some registration =>
    refine Ensures.assuming (fun trial inLine => inLine.owned) fun owned => ?_
    have owner : descriptor = fd → registration.owner = socket := fun here =>
      owned registration (here ▸ found)
    have law (readers : List Operation) (queues : Queues) (writers : List Operation) (trial : Trial σ) :
        Law fd sends ((queues.set descriptor .reading readers).set descriptor .writing writers) trial ↔
          Law fd sends ((queues.set descriptor .writing writers).set descriptor .reading readers)
            trial := by
      rw [Queues.set_comm (by decide)]
    have armed (readers writers : List Operation) : Ensures
        (fun trial => Law fd sends ((engine.queues.set descriptor .reading readers).set descriptor
          .writing writers) trial)
        ((engine.setRegistration descriptor { registration with readers, writers }).arm
          (Trial.system kernel) descriptor) (InLine socket fd sends) := by
      refine (ensures_arm descriptor).weaken fun trial law => ?_
      exact ⟨by rwa [Engine.queues_setRegistration], owned.setRegistration owner⟩
    have written (readers : List Operation) : Ensures
        (fun trial => Law fd sends ((engine.queues.set descriptor .reading readers).set descriptor
          .writing registration.writers) trial)
        (do
          let writers ← if writable then Engine.retry (Trial.system kernel) descriptor registration.writers
            else Pure.pure registration.writers
          (engine.setRegistration descriptor { registration with readers, writers }).arm
            (Trial.system kernel) descriptor) (InLine socket fd sends) := by
      dsimp only
      split
      · exact Ensures.bind _ (ensures_retry registration.writers) fun writers => armed readers writers
      · exact armed readers registration.writers
    have start (trial : Trial σ) (inLine : InLine socket fd sends engine trial) : Law fd sends
        ((engine.queues.set descriptor .reading registration.readers).set descriptor .writing
          registration.writers) trial := inLine.law_set found
    dsimp only
    split
    · refine Ensures.bind (fun readers trial => Law fd sends ((engine.queues.set descriptor .writing
        registration.writers).set descriptor .reading readers) trial)
        ((ensures_retry registration.readers).weaken fun trial inLine => ?_) fun readers => ?_
      · exact (law ..).mp (start trial inLine)
      · exact (written readers).weaken fun trial => (law ..).mpr
    · exact (written registration.readers).weaken start

/-- Reports are handled one after another. -/
theorem ensures_handle (reports : List (Nat × Kernel.Flags)) :
    Ensures (InLine socket fd sends engine) (engine.handle (Trial.system kernel) reports)
      (InLine socket fd sends) := by
  induction reports generalizing engine with
  | nil => exact Ensures.pure fun trial inLine => inLine
  | cons report rest ih =>
    refine Ensures.bind (fun _ => InLine socket fd sends engine) (fun trial inLine => inLine.called _)
      fun _ => ?_
    exact Ensures.bind _ (ensures_dispatch _ _ _) fun engine => ih

/-- The engine is polled. -/
theorem ensures_poll (timeout : Option Nat) :
    Ensures (InLine socket fd sends engine) (engine.poll (Trial.system kernel) timeout)
      fun polled => InLine socket fd sends polled.2 := by
  unfold Engine.poll
  split
  · exact Ensures.pure fun trial inLine => inLine
  · refine Ensures.bind (fun _ => InLine socket fd sends engine) (fun trial inLine => inLine.called _)
      fun answer => ?_
    split
    · split <;> exact Ensures.pure fun trial inLine => inLine
    · exact Ensures.bind _ (ensures_handle _) fun engine => Ensures.pure fun trial inLine => inLine

/-! ## Sessions -/

/-- Nothing is on record, and the operations from a future on are pending. -/
structure Blank (made : Nat) (trial : Trial σ) : Prop where
  /-- Nothing was offered. -/
  unoffered : trial.offers = []
  /-- The future is the last one that was made. -/
  last : trial.made = made + 1
  /-- Nothing from it on is over. -/
  pending : ∀ future, made ≤ future → trial.isOver future = false

/-- Operations with earlier futures end. -/
theorem ensures_settleAll_blank {made : Nat} (verdict : Verdict) (operations : List Operation)
    (earlier : ∀ operation ∈ operations, operation.future < made) :
    Ensures (Blank made) (Engine.settleAll (Trial.system kernel) verdict operations)
      fun _ => Blank (σ := σ) made := by
  induction operations with
  | nil => exact Ensures.pure fun trial blank => blank
  | cons first rest ih =>
    refine Ensures.bind (fun _ => Blank made) ?_ fun _ => ih fun operation member =>
      earlier operation (List.mem_cons_of_mem _ member)
    intro trial ⟨unoffered, last, pending⟩
    change Blank made (trial.conclude first.future verdict)
    refine ⟨by simpa using unoffered, by simpa using last, fun future above => ?_⟩
    have differ : future ≠ first.future := fun same =>
      Nat.not_lt_of_le above (same ▸ earlier first List.mem_cons_self)
    simp [Trial.isOver_conclude, pending future above, differ]

/-- A descriptor is forgotten at which operations with earlier futures wait. -/
theorem ensures_unregister_blank {made : Nat} (found : engine.registration? fd = some registration)
    (earlier : ∀ operation ∈ registration.operations, operation.future < made) :
    Ensures (Blank made) (engine.unregister (Trial.system kernel) fd) fun left trial =>
      Blank (σ := σ) made trial ∧ left = engine.eraseRegistration fd := by
  unfold Engine.unregister
  rw [found]
  refine Ensures.bind (fun _ => Blank made)
    (fun trial blank => ⟨blank.unoffered, blank.last, blank.pending⟩) fun _ => ?_
  exact Ensures.bind _ (ensures_settleAll_blank .cancelled registration.operations earlier) fun _ =>
    Ensures.pure fun trial blank => ⟨blank, rfl⟩

/-- A socket that has sent nothing claims its descriptor for its first send. -/
theorem ensures_claim_first {session : Session σ} (fresh : session.Fresh socket fd) :
    Ensures (Blank session.trial.made) (session.engine.claim (Trial.system kernel) socket fd)
      fun claimed reached => Blank session.trial.made reached ∧
        claimed.2.registration? fd = some claimed.1 ∧ claimed.1.owner = socket ∧
          (∀ direction, ∀ operation ∈ claimed.2.queues fd direction,
            operation.request.isSend = false) ∧
          ∀ descriptor direction, ∀ operation ∈ claimed.2.queues descriptor direction,
            operation.future < session.trial.made := by
  have made {descriptor : Fd} {direction : Direction} {operation : Operation}
      (member : operation ∈ session.engine.queues descriptor direction) :
      operation.future < session.trial.made := fresh.made operation (Engine.mem_operations member)
  have stored (engine : Engine) :
      (engine.setRegistration fd { owner := socket }).registration? fd = some { owner := socket } := by
    rw [Engine.registration?_setRegistration, if_pos rfl]
  unfold Engine.claim
  cases found : session.engine.registration? fd with
  | none =>
    refine Ensures.pure fun trial blank => ⟨blank, stored _, rfl, ?_, ?_⟩
    · intro direction operation member
      rw [queues_registered found, Engine.queues_of_none found] at member
      cases member
    · intro descriptor direction operation member
      rw [queues_registered found] at member
      exact made member
  | some registration =>
    dsimp only
    split
    · rename_i own
      refine Ensures.pure fun trial blank => ⟨blank, found, own, ?_, fun _ _ _ => made⟩
      intro direction operation member
      rw [Engine.queues_of_some found] at member
      exact fresh.unsent found own operation (Registration.mem_operations member)
    · refine Ensures.bind (fun _ => Blank session.trial.made)
        (fun trial blank => ⟨blank.unoffered, blank.last, blank.pending⟩) fun _ => ?_
      -- Whoever was registered before is forgotten, so the queues of the descriptor are empty.
      refine Ensures.bind _ (ensures_unregister_blank found fun operation member =>
        fresh.made operation (Engine.mem_operations_of_found found member)) fun left =>
          Ensures.pure ?_
      rintro trial ⟨blank, rfl⟩
      refine ⟨blank, stored _, rfl, ?_, ?_⟩
      · intro direction operation member
        rw [Engine.queues_of_some (stored _)] at member
        cases direction <;> cases member
      · intro descriptor direction operation member
        have missing : (session.engine.eraseRegistration fd).registration? fd = none := by
          rw [Engine.registration?_eraseRegistration, if_pos rfl]
        rw [queues_registered missing] at member
        exact made (Engine.of_mem_queues_eraseRegistration member)

/-- The owner of a descriptor claims it, and nothing else happens. -/
theorem claim_own (kernel : System σ) (owned : engine.OwnedBy socket fd) (trial : Trial σ) :
    ∃ claimed, engine.claim (Trial.system kernel) socket fd trial = (claimed, trial) ∧
      claimed.2.queues = engine.queues ∧ claimed.2.registration? fd = some claimed.1 ∧
        claimed.1.owner = socket ∧ claimed.2.OwnedBy socket fd := by
  unfold Engine.claim
  cases found : engine.registration? fd with
  | none =>
    refine ⟨_, rfl, queues_registered found socket, ?_, rfl, owned.setRegistration fun _ => rfl⟩
    rw [Engine.registration?_setRegistration, if_pos rfl]
  | some registration =>
    have own := owned registration found
    dsimp only
    rw [if_pos own]
    exact ⟨_, rfl, rfl, found, own, owned⟩

namespace Session

variable {session before after : Session σ}

/-- The first send on a socket. -/
theorem Fresh.send (fresh : session.Fresh socket fd) (data : Bytes) :
    InLine socket fd (session.send kernel socket fd data).sends
      (session.send kernel socket fd data).engine (session.send kernel socket fd data).trial := by
  have listed : (session.send kernel socket fd data).sends = [⟨session.trial.made, data⟩] := by
    change session.sends ++ [Sending.mk session.trial.made data] = _
    rw [fresh.empty, List.nil_append]
  rw [listed]
  have sent : Ensures (Blank session.trial.made)
      (session.engine.submit (Trial.system kernel) socket fd .writing ⟨.send data, session.trial.made⟩)
      (InLine socket fd [⟨session.trial.made, data⟩]) := by
    refine Ensures.bind _ (ensures_claim_first fresh) ?_
    intro (registration, left) reached ⟨blank, found, own, plain, earlier⟩
    have owned : left.OwnedBy socket fd := by
      intro stored there
      rw [found] at there
      exact Option.some.inj there ▸ own
    refine ensures_enqueue found (fun _ => own) owned reached ?_
    let past : Trial σ := { reached with made := session.trial.made }
    have same : { past with made := past.made + 1 } = reached := by
      change { reached with made := session.trial.made + 1 } = reached
      rw [← blank.last]
    have law : Law fd [] left.queues past := by
      refine ⟨.nil blank.pending blank.unoffered, .of_plain (plain .writing), plain .reading, ?_⟩
      intro descriptor direction operation member _
      exact ⟨earlier descriptor direction operation member, fun _ member => nomatch member⟩
    have submitted := law.submitted data
    rw [same, Engine.queues_of_some found] at submitted
    exact submitted
  exact sent _ ⟨fresh.unoffered, rfl, fresh.pending⟩

/-- The sends of a session are in line. -/
def Tidy (socket : SocketId) (fd : Fd) (session : Session σ) : Prop :=
  InLine socket fd session.sends session.engine session.trial

/-- A further send on the socket. -/
theorem Tidy.send (tidy : session.Tidy socket fd) (data : Bytes) :
    (session.send kernel socket fd data).Tidy socket fd := by
  let made : Trial σ := { session.trial with made := session.trial.made + 1 }
  obtain ⟨⟨registration, left⟩, claims, queues, found, own, owned⟩ :=
    claim_own kernel tidy.owned made
  have submits : session.engine.submit (Trial.system kernel) socket fd .writing
      ⟨.send data, session.trial.made⟩ made =
        left.enqueue (Trial.system kernel) fd registration .writing
          ⟨.send data, session.trial.made⟩ made := by
    unfold Engine.submit
    change (fun claimed : (Registration × Engine) × Trial σ =>
      claimed.1.2.enqueue (Trial.system kernel) fd claimed.1.1 .writing
        ⟨.send data, session.trial.made⟩ claimed.2)
        (session.engine.claim (Trial.system kernel) socket fd made) = _
    rw [claims]
  have law := tidy.law.submitted data
  rw [← queues, Engine.queues_of_some found] at law
  have ended : Ensures _ (left.enqueue (Trial.system kernel) fd registration .writing
      ⟨.send data, session.trial.made⟩)
      (InLine socket fd (session.sends ++ [Sending.mk session.trial.made data])) :=
    ensures_enqueue found (fun _ => own) owned
  have reached := ended made law
  rw [← submits] at reached
  exact reached

/-- A step keeps the sends in line. -/
theorem Step.tidy (step : Step kernel socket fd before after) (tidy : before.Tidy socket fd) :
    after.Tidy socket fd := by
  have made : InLine socket fd before.sends before.engine before.make.trial :=
    ⟨tidy.law.madeOther, tidy.owned⟩
  -- An operation with a new future is not one of the sends.
  have foreign (descriptor : Fd) (request : Request)
      (plain : descriptor = fd → request.isSend = false) :
      Foreign fd before.sends before.make.trial descriptor ⟨request, before.trial.made⟩ :=
    ⟨plain, Nat.lt_succ_self _, fun send member => Nat.ne_of_lt (tidy.law.account.made send member)⟩
  cases step with
  | sent data => exact tidy.send data
  | submitted other descriptor request owned =>
    exact ensures_submit (fun here => (owned here).1) _
      ⟨made, foreign descriptor request fun here => (owned here).2⟩
  | connected other descriptor target owned =>
    exact ensures_connect owned target before.trial.made _
      ⟨made, foreign descriptor .connect fun _ => rfl⟩
  | polled timeout => exact ensures_poll timeout _ tidy
  | forgotten descriptor => exact (ensures_unregister descriptor _ tidy).1
  | cancelled future created =>
    exact ⟨tidy.law.concluded created .cancelled fun _ _ _ _ same => (nomatch same), tidy.owned⟩
  | elapsed after => exact tidy.called after

/-- The sends of every session are in line. -/
theorem Reached.tidy (reached : Reached kernel socket fd session) : session.Tidy socket fd := by
  induction reached with
  | begun fresh data => exact fresh.send data
  | step _ step ih => exact step.tidy ih

/-- In every session the kernel takes the data of the sends on a socket in the order in which they were
submitted: a first part of the data of each one, and all of it if the send ended well. Whenever data is
offered, it is for a send that is not over, and all sends before it are. -/
theorem sends_in_order (reached : Reached kernel socket fd session) :
    session.trial.taken fd =
        (session.sends.map fun send => session.trial.sent send.future).flatten ∧
      (∀ send ∈ session.sends, session.trial.sent send.future <+: send.data ∧
        ∀ completion, session.trial.verdicts send.future = some (.over (.ok completion)) →
          session.trial.sent send.future = send.data) ∧
      ∀ offer ∈ session.trial.offers, offer.fd = fd → ∃ earlier send later,
        session.sends = earlier ++ send :: later ∧ offer.future = send.future ∧
          (∀ other ∈ earlier, offer.wasOver other.future) ∧ ¬ offer.wasOver send.future := by
  have account := reached.tidy.law.account
  refine ⟨account.ordered, fun send member => ?_, account.turns⟩
  exact ⟨account.partly send member, account.wholly send member⟩

/-- A kernel that answers sends as it is told, and with a refusal to wait when it was told nothing more;
every poll reports that descriptor 4 can be written. -/
def told : System (List (Except Errno Nat)) where
  receive _ _ _ := return .error .wouldBlock
  send _ _ _ := fun answers => (answers.headD (.error .wouldBlock), answers.tail)
  connect _ _ _ := return .ok ()
  accept _ _ := return .error (.os .wouldBlock)
  takeError _ _ := return .ok none
  control _ _ _ _ := return .ok ()
  wait _ _ _ := return .ok [(4, { output := true })]
  trace _ := return ()
  interruptions answers := answers.countP (· == .error .interrupted)
  isDone _ _ := false
  isOpen _ _ := true
  settle _ _ := return ()

/-- Two sends on a socket, of which the kernel takes the first one in two parts. -/
def halting : Session (List (Except Errno Nat)) :=
  let start : Session (List (Except Errno Nat)) :=
    ⟨.new 3 8, ⟨[.ok 2, .error .wouldBlock, .error .interrupted, .ok 1], 0, fun _ => none, []⟩, []⟩
  ((start.send told 0 4 [1, 2, 3]).send told 0 4 [4, 5]).act fun engine =>
    Prod.snd <$> engine.poll (Trial.system told) none

/-- The first send has ended well, so the kernel took all its data. -/
theorem sends_in_order_halting : halting.trial.sent 0 = [1, 2, 3] := by
  have fresh : Fresh 0 4 (⟨.new 3 8, ⟨[.ok 2, .error .wouldBlock, .error .interrupted, .ok 1], 0,
      fun _ => none, []⟩, []⟩ : Session (List (Except Errno Nat))) :=
    ⟨fun _ member => (nomatch member), fun _ _ => rfl, fun found => (nomatch found), rfl, rfl⟩
  have reached : Reached told 0 4 halting :=
    .step (.step (.begun fresh [1, 2, 3]) (.sent [4, 5])) (.polled none)
  have ended : halting.trial.verdicts 0 = some (.over (.ok .sent)) := rfl
  exact ((sends_in_order reached).2.1 ⟨0, [1, 2, 3]⟩ List.mem_cons_self).2 _ ended

end Session

end EventLoop.Proactor

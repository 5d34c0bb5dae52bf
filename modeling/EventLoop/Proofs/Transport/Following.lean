import EventLoop.Proofs.Transport.Traffic

/-!
# Following transports

A transport is followed through the steps of a world: what holds of it at one point and at a later one is
put together from what each change does to it. A manner says what is followed, and of which kind the steps
are that may be done to the transport in between. All changes that do not deal with transports leave a
transport as it is, and so do those that deal with another one.
-/
namespace EventLoop

namespace Net

/-- A manner of following transports. -/
structure Manner (σ : Type) where
  /-- What holds of a transport at two points if a step of some kind was done to it in between, or none. -/
  leads : Option σ → Transport → Transport → Prop
  /-- What holds of a transport that was opened in between. -/
  fresh : Transport → Prop
  /-- A transport may stay as it is. -/
  refl : ∀ transport, leads none transport transport
  /-- No step is done later. -/
  trans : ∀ {step? first middle last}, leads step? first middle → leads none middle last →
    leads step? first last
  /-- No step is done earlier. -/
  since : ∀ {step? first middle last}, leads none first middle → leads step? middle last →
    leads step? first last
  /-- How a transport is opened. -/
  opened : ∀ socket peer protocol, fresh { socket, peer, protocol := some protocol }
  /-- A transport that was opened in between may go on. -/
  lasts : ∀ {first last}, fresh first → leads none first last → fresh last

/-- What becomes of a transport when an effect is brought about, given the future of the operation if one is
submitted. -/
def Effect.applied (future : FutureId) : Effect → Transport → Transport
  | .receive, transport => { transport.note .receiving with reading := some future }
  | .send data, transport => { transport.note (.submitted data) with writing := some future }
  | .announce error, transport => transport.note (.announced error)
  | .cancel _, transport | .warnLostWrites, transport | .reportFatal .., transport => transport

end Net

namespace World

open Net (Transport Effect Manner)

variable {α β σ : Type} {manner : Manner σ} {held : List Ref} {id other : TransportId}
variable {step? : Option σ} {before middle after world : World} {transport : Transport}

/-- What becomes of a transport on the way from one world to a later one. -/
structure Follows (manner : Manner σ) (step? : Option σ) (id : TransportId) (before after : World) :
    Prop where
  /-- No transport is forgotten. -/
  size : before.transports.size ≤ after.transports.size
  /-- A step is done only to a transport that was there. -/
  known : ∀ step, step? = some step → id < before.transports.size
  /-- A transport that is there afterwards was there before, or it was opened. -/
  leads : ∀ {later}, after.transports.get? id = some (some later) →
    (∃ transport, before.transports.get? id = some (some transport) ∧
      manner.leads step? transport later) ∨ before.transports.size ≤ id ∧ manner.fresh later

namespace Follows

/-- No step is done. -/
theorem of_kept (size : before.transports.size ≤ after.transports.size)
    (kept : ∀ {later}, after.transports.get? id = some (some later) →
      (∃ transport, before.transports.get? id = some (some transport) ∧
        manner.leads none transport later) ∨ before.transports.size ≤ id ∧ manner.fresh later) :
    Follows manner none id before after := ⟨size, nofun, kept⟩

/-- The transport is the same. -/
theorem of_eq (size : before.transports.size ≤ after.transports.size)
    (same : after.transports.get? id = before.transports.get? id) : Follows manner none id before after :=
  of_kept size fun found => Or.inl ⟨_, same ▸ found, manner.refl _⟩

/-- Nothing happens. -/
theorem refl (world : World) : Follows manner none id world world := of_eq (Nat.le_refl _) rfl

/-- No step is done later. -/
theorem trans (first : Follows manner step? id before middle)
    (second : Follows manner none id middle after) : Follows manner step? id before after := by
  refine ⟨Nat.le_trans first.size second.size, first.known, fun {later} found => ?_⟩
  rcases second.leads found with ⟨transport, there, leads⟩ | ⟨beyond, fresh⟩
  · refine (first.leads there).imp ?_ fun ⟨beyond, fresh⟩ => ⟨beyond, manner.lasts fresh leads⟩
    rintro ⟨earlier, here, before⟩
    exact ⟨earlier, here, manner.trans before leads⟩
  · exact Or.inr ⟨Nat.le_trans first.size beyond, fresh⟩

/-- No step is done earlier. -/
theorem since (first : Follows manner none id before middle)
    (second : Follows manner step? id middle after)
    (known : ∀ step, step? = some step → id < before.transports.size) :
    Follows manner step? id before after := by
  refine ⟨Nat.le_trans first.size second.size, known, fun {later} found => ?_⟩
  rcases second.leads found with ⟨transport, there, leads⟩ | ⟨beyond, fresh⟩
  · rcases first.leads there with ⟨earlier, here, before⟩ | ⟨beyond, fresh⟩
    · exact Or.inl ⟨earlier, here, manner.since before leads⟩
    · cases step? with
      | none => exact Or.inr ⟨beyond, manner.lasts fresh leads⟩
      | some step => exact absurd (known step rfl) (Nat.not_lt.mpr beyond)
  · exact Or.inr ⟨Nat.le_trans first.size beyond, fresh⟩

/-- Only the transports that are there before matter. -/
theorem of_transports (same : middle.transports = before.transports)
    (follows : Follows manner step? id middle after) : Follows manner step? id before after :=
  ⟨same ▸ follows.size, same ▸ follows.known, fun found => same ▸ follows.leads found⟩

/-- One transport is changed. -/
theorem turned (found : before.transports.get? id = some (some transport)) {later : Transport}
    (leads : manner.leads step? transport later) : Follows manner step? id before
      { before with transports := before.transports.modify id fun _ => some later } := by
  refine ⟨Nat.le_of_eq (Table.size_modify _ _ _).symm, fun _ _ => Table.lt_size_of_get? found, ?_⟩
  intro last there
  dsimp only at there
  rw [Table.get?_modify_self, found] at there
  cases there
  exact Or.inl ⟨transport, found, leads⟩

/-- Another transport is changed. -/
theorem turned_of_ne (differ : id ≠ other) (change : Option Transport → Option Transport) :
    Follows manner none id before { before with transports := before.transports.modify other change } :=
  of_eq (Nat.le_of_eq (Table.size_modify _ _ _).symm) (Table.get?_modify_of_ne _ _ differ)

end Follows

/-- Every change that does not deal with transports leaves them as they are. -/
theorem Change.follows {scope : Scope} {aspect : Aspect} (change : Change scope aspect before after)
    (apart : aspect ≠ .traffic) : Follows manner none id before after := by
  cases change with
  | turned | announced | bound => exact absurd rfl apart
  | connected _ socket peer protocol reads =>
    rw [addTransport_eq]
    refine .of_kept (Nat.le_of_lt (Nat.lt_of_lt_of_eq (Nat.lt_succ_self _) (Table.size_push _ _).symm))
      fun {later} found => ?_
    dsimp only at found
    rw [Table.get?_push] at found
    split at found
    · rename_i last
      cases found
      exact Or.inr ⟨Nat.le_of_eq last.symm, manner.opened socket peer protocol⟩
    · exact Or.inl ⟨later, found, manner.refl later⟩
  | released _ gone =>
    refine .of_kept (Nat.le_of_eq (Table.size_modify _ _ _).symm) fun {later} found => ?_
    rw [Table.get?_modify] at found
    split at found
    · obtain ⟨_, -, same⟩ := Option.map_eq_some_iff.mp found
      cases same
    · exact Or.inl ⟨later, found, manner.refl later⟩
  | _ => exact .of_eq (Nat.le_refl _) rfl

/-- So do changes of such aspects. -/
theorem Changes.follows {scope : Scope} {aspects : List Aspect} (changes : Changes scope aspects before after)
    (apart : .traffic ∉ aspects) : Follows manner none id before after := by
  induction changes with
  | refl => exact .refl _
  | tail _ last ih =>
    obtain ⟨aspect, member, change⟩ := last
    exact ih.trans (change.follows fun same => apart (same ▸ member))

/-! ## Steps of the world -/

/-- What becomes of a transport in a step from a world within bounds. -/
def Following (manner : Manner σ) (held : List Ref) (step? : Option σ) (id : TransportId) (world : World)
    (step : WorldM α) : Prop :=
  world.Within (openTo held) 0 → Changes (openTo held) (.serving :: dealing) world (step world).2 ∧
    Follows manner step? id world (step world).2

namespace Following

variable {step : WorldM α} {next : α → WorldM β} {holds : α → World → Prop}

/-- Steps that have to do with a server at most. -/
theorem aside (does : Does (openTo held) 0 tending world step holds) :
    Following manner held none id world step := fun within =>
  ⟨(does within).1.mono (by decide), (does within).1.follows (by decide)⟩

/-- Calm steps. -/
theorem calmly (does : Does (openTo held) 0 calm world step holds) :
    Following manner held none id world step := aside does.tending

/-- Nothing is done. -/
theorem pure {value : α} : Following manner held none id world (pure value) := fun _ => ⟨.refl, .refl _⟩

/-- No step is done to the transport at first. -/
theorem since (first : Following manner held none id world step)
    (known : ∀ step, step? = some step → id < world.transports.size)
    (second : ∀ value reached, world.transports.size ≤ reached.transports.size →
      Following manner held step? id reached (next value)) :
    Following manner held step? id world (step >>= next) := fun within => by
  obtain ⟨begun, idle⟩ := first within
  obtain ⟨ended, follows⟩ := second _ _ idle.size (begun.within within)
  exact ⟨begun.trans ended, idle.since follows known⟩

/-- One after another, and no step is done to the transport. -/
theorem bind (first : Following manner held none id world step)
    (second : ∀ value reached, Following manner held none id reached (next value)) :
    Following manner held none id world (step >>= next) :=
  since first nofun fun value reached _ => second value reached

/-- No step is done to the transport by what follows. -/
theorem andThere (first : Following manner held step? id world step)
    (second : Following manner held none id (step world).2 (next (step world).1)) :
    Following manner held step? id world (step >>= next) := fun within => by
  obtain ⟨begun, follows⟩ := first within
  obtain ⟨ended, idle⟩ := second (begun.within within)
  exact ⟨begun.trans ended, follows.trans idle⟩

/-- No step is done to the transport afterwards. -/
theorem andThen (first : Following manner held step? id world step)
    (second : ∀ value reached, Following manner held none id reached (next value)) :
    Following manner held step? id world (step >>= next) := first.andThere (second _ _)

/-- A calm step first, after which something holds. -/
theorem following (first : Does (openTo held) 0 calm world step holds)
    (known : ∀ step, step? = some step → id < world.transports.size)
    (second : ∀ value reached, holds value reached → world.transports.size ≤ reached.transports.size →
      Following manner held step? id reached (next value)) :
    Following manner held step? id world (step >>= next) := fun within => by
  obtain ⟨begun, idle⟩ := @calmly _ _ manner held id world step holds first within
  obtain ⟨ended, follows⟩ := second _ _ (first within).2 idle.size (begun.within within)
  exact ⟨begun.trans ended, idle.since follows known⟩

/-- Only what a step does to the world matters. -/
theorem of_snd {step : WorldM α} {same : WorldM β} (equal : (step world).2 = (same world).2)
    (follows : Following manner held step? id world same) : Following manner held step? id world step := by
  unfold Following at follows ⊢
  rw [equal]
  exact follows

/-- Only what a step does in this world matters. -/
theorem congr {same : WorldM α} (equal : step world = same world)
    (follows : Following manner held step? id world same) : Following manner held step? id world step :=
  of_snd (congrArg Prod.snd equal) follows

/-- Something is read off the world. -/
theorem read (same : (step world).2 = world)
    (rest : Following manner held step? id world (next (step world).1)) :
    Following manner held step? id world (step >>= next) := by
  refine congr ?_ rest
  change next (step world).1 (step world).2 = _
  rw [same]

/-! ### Transports that change -/

/-- A transport is changed. -/
theorem turned {later : Transport} (found : world.transports.get? other = some (some transport))
    (fewer : later.futures ⊆ transport.futures) (line : later.line = transport.line)
    (leads : id = other → manner.leads step? transport later) (apart : id ≠ other → step? = none) :
    Following manner held step? id world (setTransport other later) := fun within => by
  have known (future : FutureId) (member : future ∈ later.futures) :=
    within.transports found future (fewer member)
  refine ⟨(Calm.setTransport found line known within).1.mono (List.subset_cons_self _ _), ?_⟩
  by_cases same : id = other
  · subst same
    exact .turned found (leads rfl)
  · rw [apart same]
    exact .turned_of_ne same _

/-- A transport is changed if it is still there. -/
theorem changed {change : Transport → Transport} {transition : Loop → Loop}
    (does : Does (openTo held) 0 dealing world (do
      changeTransport other change
      changeLoop transition) anyhow)
    (known : ∀ step, step? = some step → id < world.transports.size)
    (leads : id = other → ∀ transport : Transport, manner.leads step? transport (change transport))
    (apart : id ≠ other → step? = none) :
    Following manner held step? id world (do
      changeTransport other change
      changeLoop transition) := fun within => by
  refine ⟨(does within).1.mono (List.subset_cons_self _ _), ?_⟩
  change Follows manner step? id world { (changeTransport other change world).2 with loop := _ }
  rw [Minds.changeTransport_eq]
  cases found : (world.transports.get? other).join with
  | none =>
    refine ⟨Nat.le_refl _, known, fun {later} there => ?_⟩
    by_cases same : id = other
    · rw [← same, show world.transports.get? id = some (some later) from there] at found
      cases found
    · rw [apart same]
      exact Or.inl ⟨later, there, manner.refl later⟩
  | some transport =>
    have there := Option.join_eq_some_iff.mp found
    by_cases same : id = other
    · subst same
      have turned : Follows manner step? id world _ := .turned there (leads rfl transport)
      exact ⟨turned.size, turned.known, turned.leads⟩
    · rw [apart same]
      exact .of_eq (Nat.le_of_eq (Table.size_modify _ _ _).symm) (Table.get?_modify_of_ne _ _ same)

/-- An operation is submitted, and a transport takes it down. -/
theorem submits {change : FutureId → Transport → Transport} {reaction : Reaction} {socket : SocketId}
    {subject : Proactor.Subject} (aside : reaction.server? = none)
    (futures : ∀ future transport, (change future transport).futures ⊆ [future] ++ transport.futures)
    (line : ∀ future transport, (change future transport).line = transport.line)
    (known : ∀ step, step? = some step → id < world.transports.size)
    (leads : id = other → ∀ future (transport : Transport),
      manner.leads step? transport (change future transport))
    (apart : id ≠ other → step? = none) :
    Following manner held step? id world (do
      let future ← submit socket subject
      changeTransport other (change future)
      changeLoop (·.whenDone future reaction)) := by
  have fresh : (openTo held).Fresh 0 := fun _ _ => trivial
  refine following (Calm.submit fresh _ _) known fun future reached new size => ?_
  refine changed ?_ (fun step same => Nat.lt_of_lt_of_le (known step same) size)
    (fun same transport => leads same future transport) apart
  refine Does.bind (Calm.changeTransport (fun known member => ?_) (futures future) (line future) other)
    fun _ _ _ => Calm.bind _ aside
  exact List.mem_singleton.mp member ▸ new

/-- A transport receives. -/
theorem receive (known : ∀ step, step? = some step → id < world.transports.size)
    (leads : id = other → ∀ future (before : Transport),
      manner.leads step? before (Effect.receive.applied future before))
    (apart : id ≠ other → step? = none) :
    Following manner held step? id world (World.perform other transport .receive) := by
  refine read rfl (submits rfl (fun future transport => ?_) (fun _ _ => rfl) known leads apart)
  exact List.append_subset.mpr ⟨List.subset_append_left _ _, List.Subset.trans
    (List.subset_append_right _ _) (List.subset_append_right _ _)⟩

/-- An effect is brought about. -/
theorem perform (transport : Transport) {effect : Effect}
    (leads : id = other → ∀ future (before : Transport),
      manner.leads none before (effect.applied future before)) :
    Following manner held none id world (World.perform other transport effect) := by
  cases effect with
  | receive => exact receive nofun leads fun _ => rfl
  | send data =>
    refine submits rfl (fun future transport => ?_) (fun _ _ => rfl) nofun leads fun _ => rfl
    exact List.append_subset.mpr ⟨List.Subset.trans (List.subset_append_left _ _)
      (List.subset_append_right _ _), List.subset_append_left _ _⟩
  | cancel future => exact calmly (Calm.cancelAll fun _ _ => trivial)
  | announce error =>
    refine changed (Does.bind (Calm.changeTransport (List.forall_mem_nil _) (fun transport => ?_)
      (fun _ => by rfl) other) fun _ reached _ =>
        Does.changeLoop (by decide) (.announced reached other error) trivial) nofun
      (fun same transport => leads same 0 transport) fun _ => rfl
    exact List.Subset.refl transport.futures
  | warnLostWrites => exact calmly (Does.bind (Calm.transportText _ _) fun _ _ _ => Calm.message _ _)
  | reportFatal status error =>
    exact calmly (Does.bind (Calm.transportText _ _) fun _ _ _ => Calm.message _ _)

/-- All that a transition asked for is brought about. -/
theorem performAll (transport : Transport) {effects : List Effect}
    (leads : id = other → ∀ effect ∈ effects, ∀ future (before : Transport),
      manner.leads none before (effect.applied future before)) :
    Following manner held none id world (effects.forM (World.perform other transport)) := by
  induction effects generalizing world with
  | nil => exact pure
  | cons effect rest ih =>
    refine bind (perform transport fun same => leads same effect List.mem_cons_self) fun _ reached => ?_
    exact ih fun same effect member => leads same effect (List.mem_cons_of_mem _ member)

/-! ### Transitions -/

/-- Nothing is done to a transport that is not there. -/
theorem gone {value : α} (none : (world.transports.get? other).join = none)
    (known : ∀ step, step? = some step → id < world.transports.size)
    (apart : id ≠ other → step? = Option.none) :
    Following manner held step? id world (Pure.pure value) := by
  refine fun _ => ⟨.refl, Nat.le_refl _, known, fun {later} there => ?_⟩
  by_cases same : id = other
  · rw [← same, show world.transports.get? id = some (some later) from there] at none
    cases none
  · rw [apart same]
    exact Or.inl ⟨later, there, manner.refl later⟩

/-- A transport is looked up, and the step goes on with it if it is there. -/
theorem lookUp {next : Option Transport → WorldM α}
    (absent : (world.transports.get? other).join = none →
      Following manner held step? id world (next none))
    (present : ∀ transport, world.transports.get? other = some (some transport) →
      Following manner held step? id world (next (some transport))) :
    Following manner held step? id world (transport? other >>= next) := by
  refine read rfl ?_
  rw [transport?_apply]
  cases found : (world.transports.get? other).join with
  | none => exact absent found
  | some transport => exact present transport (Option.join_eq_some_iff.mp found)

/-- A transition is applied to a transport, and what it asks for is brought about. -/
theorem transition {otherwise : α} {step : Transport → α × List Effect × Transport}
    (yields : ∀ transport : Transport, transport.Yields (step transport).2.1 (step transport).2.2)
    (known : ∀ step, step? = some step → id < world.transports.size)
    (leads : id = other → ∀ transport, world.transports.get? id = some (some transport) →
      manner.leads step? transport (step transport).2.2)
    (asks : id = other → ∀ transport, world.transports.get? id = some (some transport) →
      ∀ effect ∈ (step transport).2.1, ∀ future (before : Transport),
        manner.leads none before (effect.applied future before))
    (apart : id ≠ other → step? = none) :
    Following manner held step? id world (World.transition other otherwise step) := by
  refine lookUp (fun absent => gone absent known apart) fun transport there => ?_
  refine andThen (turned there (yields transport).futures (yields transport).line (fun same => ?_) apart)
    fun _ _ => bind (performAll _ fun same => ?_) fun _ _ => pure
  · subst same
    exact leads rfl transport there
  · subst same
    exact asks rfl transport there

/-- A transition without a result is applied to a transport, and no step is done. -/
theorem advance {step : Transport → List Effect × Transport}
    (yields : ∀ transport : Transport, transport.Yields (step transport).1 (step transport).2)
    (leads : id = other → ∀ transport, world.transports.get? id = some (some transport) →
      manner.leads none transport (step transport).2)
    (asks : id = other → ∀ transport, world.transports.get? id = some (some transport) →
      ∀ effect ∈ (step transport).1, ∀ future (before : Transport),
        manner.leads none before (effect.applied future before)) :
    Following manner held none id world (World.advance other step) :=
  transition yields nofun leads asks fun _ => rfl

/-- The protocol is told something. -/
theorem tellProtocol {notice : Net.Notice}
    (leads : id = other → ∀ transport, world.transports.get? id = some (some transport) →
      manner.leads none transport (transport.tell notice)) :
    Following manner held none id world (World.tellProtocol other notice) := by
  refine lookUp (fun _ => pure) fun transport there => ?_
  refine bind (turned there ?_ (transport.line_tell notice) (fun same => ?_) fun _ => rfl) fun _ _ => pure
  · rw [Transport.futures_tell]
    exact List.Subset.refl _
  · subst same
    exact leads rfl transport there

/-- The protocol of a transport whose connection is lost is taken. -/
theorem takeProtocol {error : Option Error}
    (leads : id = other → ∀ transport, world.transports.get? id = some (some transport) →
      manner.leads none transport (transport.connectionLost error)) :
    Following manner held none id world (World.takeProtocol other error) := by
  refine lookUp (fun _ => pure) fun transport there => ?_
  refine bind (turned there ?_ (transport.line_connectionLost error) (fun same => ?_) fun _ => rfl)
    fun _ _ => ?_
  · rw [Transport.futures_connectionLost]
    exact List.Subset.refl _
  · subst same
    exact leads rfl transport there
  · refine following (Calm.transportText _ _) nofun fun _ _ _ _ => ?_
    exact following (Calm.message _ _) nofun fun _ _ _ _ => pure

/-- The socket of a transport is closed. -/
theorem closeTransportSocket
    (leads : id = other → ∀ transport : Transport, manner.leads none transport (transport.note .shut)) :
    Following manner held none id world (World.closeTransportSocket other) := by
  refine lookUp (fun _ => pure) fun transport there => ?_
  refine bind (turned there (List.Subset.refl _) rfl (fun same => leads same transport) fun _ => rfl)
    fun _ _ => ?_
  exact calmly (Does.bind (Calm.forgetSocket _) fun _ _ _ => Calm.closeSocket _)

/-- A receive has brought something, and the protocol is told of it. -/
theorem told {notice : Net.Notice} {arrival : Net.Arrival} {future : FutureId}
    (there : world.transports.get? other = some (some transport))
    (ended : transport.receiveEnded (dataOf (world.loop.resultOf future)) =
      (arrival, [], { transport with reading := none }))
    (told : arrival.told = fun transport => transport.tell notice)
    (leads : id = other → manner.leads step? transport (arrival.told { transport with reading := none }))
    (apart : id ≠ other → step? = none) :
    Following manner held step? id world
      (receiveEnded other future >>= fun _ => World.tellProtocol other notice) := by
  have same : (receiveEnded other future >>= fun _ => World.tellProtocol other notice) world =
      (setTransport other (arrival.told { transport with reading := none }) >>= fun _ =>
        Pure.pure transport.protocol) world :=
    receiveEnded_tellProtocol there ended told
  have fewer : (arrival.told { transport with reading := none }).futures ⊆ transport.futures := by
    rw [told, Transport.futures_tell]
    exact List.subset_append_right _ _
  have line : (arrival.told { transport with reading := none }).line = transport.line := by
    rw [told, Transport.line_tell]
    rfl
  exact congr same (andThen (turned there fewer line leads apart) fun _ _ => pure)

/-- Something is done with a transport that a script refers to. -/
theorem onTransport {protocol : Option String} {reference : Script.TransportRef}
    {action : Nat → WorldM Value}
    (each : ∀ other, World.onTransport protocol reference action world = action other world →
      Following manner held none id world (action other)) :
    Following manner held none id world (World.onTransport protocol reference action) := by
  cases named : referenced? protocol reference with
  | none =>
    have same : World.onTransport protocol reference action world = (Value.null, world) := by
      unfold World.onTransport
      rw [named]
      rfl
    exact congr same pure
  | some name =>
    cases there : world.names.lookup (.transport, name) with
    | none =>
      have same : World.onTransport protocol reference action world = (Value.null, world) := by
        unfold World.onTransport World.onNamed World.named?
        rw [named]
        simp only [StateM.bind_apply, StateM.get_apply, there]
        rfl
      exact congr same pure
    | some other =>
      have same : World.onTransport protocol reference action world = action other world := by
        unfold World.onTransport World.onNamed World.named?
        rw [named]
        simp only [StateM.bind_apply, StateM.get_apply, there]
        rfl
      exact congr same (each other same)

end Following

end World

end EventLoop

import EventLoop.Proofs.Effect.Instructions
import EventLoop.Proofs.Server.Attended
import EventLoop.Proofs.Server.Listeners
import EventLoop.Proofs.Sync.Deed

/-!
# Tending servers

A step of the world tends servers if it keeps them attended to while the errands change in a certain way,
and closes the sockets of those that stop. Each of the few things that are done to a server takes it to the
next stage; everything in between is calm.
-/
namespace EventLoop.World

open Net (Server ServerEvent Prospect)

variable {α β : Type} {gave : FutureId → Outcome → Prop} {held : List Ref} {world : World}
variable {errands others : ServerId → Prospect} {aspects : List Aspect}

/-- Aspects that neither deal with servers nor take what waits. -/
def IsAside (aspects : List Aspect) : Prop :=
  Aspect.serving ∉ aspects ∧ Aspect.taking ∉ aspects ∧ Aspect.closing ∉ aspects

/-- Calm steps have nothing to do with servers. -/
theorem isAside_calm : IsAside calm := by
  unfold IsAside
  decide

namespace Attended

/-- Changes of such aspects keep servers attended to as long as the loop is open. -/
theorem changes {scope : Scope} {after : World} (attended : Attended gave errands world)
    (changes : Changes scope aspects world after) (aside : IsAside aspects)
    (opened : after.loop.closed = false) : Attended gave errands after := by
  have kept {aspect : Aspect} {before after : World} (member : aspect ∈ aspects)
      (changed : Change scope aspect before after)
      (holds : before.loop.closed = false → Attended gave errands before)
      (opened : after.loop.closed = false) : Attended gave errands after := by
    have different {other : Aspect} (absent : other ∉ aspects) : aspect ≠ other :=
      fun same => absent (same ▸ member)
    exact (holds (changed.grows.loop.opened opened)).change changed (different aside.1)
      (different aside.2.1) (different aside.2.2) opened
  exact changes.preserves kept (fun _ => attended) opened

variable {id : ServerId} {errand done : Prospect} {server later : Server}

/-- What is to come for a server is put in another way. -/
theorem put (attended : Attended gave (Function.update errands id errand) world)
    (puts : ∀ {server}, world.servers.get? id = some (some server) →
      server.Kept (errand.over world.loop id) → server.Kept (done.over world.loop id)) :
    Attended gave (Function.update errands id done) world := by
  refine { attended with kept := fun {other server} found => ?_ }
  have kept := attended.kept found
  by_cases same : other = id
  · subst same
    rw [Function.update_self] at kept ⊢
    exact puts found kept
  · rw [Function.update_of_ne same] at kept ⊢
    exact kept

/-- A server changes, and the loop with it; the other servers do not notice. -/
theorem tend (attended : Attended gave (Function.update errands id errand) world)
    (found : world.servers.get? id = some (some server)) {loop : Loop} (grows : world.loop.Grows loop)
    (alike : ∀ other (errand : Prospect), other ≠ id →
      errand.over loop other = errand.over world.loop other)
    (carries : ∀ {future}, world.loop.Retains future →
      Loop.Carries future world.loop loop ∧ loop.Retains future)
    (kept : server.Kept (errand.over world.loop id) → later.Kept (done.over loop id))
    (awaits : ∀ future ∈ loop.replies (Reaction.isHearing id), Awaits loop id later future)
    (vouches : ∀ event ∈ later.history,
      event ∈ server.history ∨ Vouches gave { world with loop } event)
    (aloof : loop.Aloof Callback.Aside) : Attended gave (Function.update errands id done)
      { world with servers := world.servers.modify id fun _ => some later, loop } := by
  have elsewhere {other : ServerId} {server : Server} (differ : other ≠ id)
      (there : (world.servers.modify id fun _ => some later).get? other = some (some server)) :
      world.servers.get? other = some (some server) := by
    rw [Table.get?_modify_of_ne _ _ differ] at there
    exact there
  have here {server : Server}
      (there : (world.servers.modify id fun _ => some later).get? id = some (some server)) :
      server = later := by
    rw [Table.get?_modify_self, found] at there
    cases there
    rfl
  refine ⟨fun {other} _ there => ?_, fun {other} _ there future hears => ?_,
    fun {other} _ there event member => ?_, fun {other} none => ?_, aloof⟩
  · by_cases same : other = id
    · subst same
      rw [here there, Function.update_self]
      have before := attended.kept found
      rw [Function.update_self] at before
      exact kept before
    · have before := attended.kept (elsewhere same there)
      rw [Function.update_of_ne same] at before ⊢
      exact alike other _ same ▸ before
  · by_cases same : other = id
    · subst same
      rw [here there]
      exact awaits future hears
    · have before : future ∈ world.loop.replies (Reaction.isHearing other) := by
        have waits := congrArg Prospect.hearings (alike other {} same)
        change 0 + _ = 0 + _ at waits
        rw [zero_add, zero_add] at waits
        exact waits ▸ hears
      have awaits := attended.awaits (elsewhere same there) future before
      obtain ⟨carries, retains⟩ := carries awaits.retains
      exact awaits.carried carries retains
  · by_cases same : other = id
    · subst same
      rw [here there] at member
      rcases vouches event member with old | new
      · exact (attended.vouches found event old).mono grows.futures (fun opened => opened) fun gives => gives
      · exact new.mono (Nat.le_refl _) (fun opened => opened) fun gives => gives
    · exact (attended.vouches (elsewhere same there) event member).mono grows.futures
        (fun opened => opened) fun gives => gives
  · have differ : other ≠ id := by
      rintro rfl
      rw [Table.get?_modify_self, found] at none
      cases none
    rw [Table.get?_modify_of_ne _ _ differ] at none
    rw [alike other {} differ]
    exact attended.absent none

/-- A server changes and goes on to keep its accept alive, if it is to hear of it. -/
theorem set (attended : Attended gave (Function.update errands id errand) world)
    (found : world.servers.get? id = some (some server))
    (kept : server.Kept (errand.over world.loop id) → later.Kept (done.over world.loop id))
    (accepting : ∀ future ∈ world.loop.replies (Reaction.isHearing id),
      world.loop.isDone future = false → server.accepting = some future → later.accepting = some future)
    (vouches : ∀ event ∈ later.history, event ∈ server.history ∨ Vouches gave world event) :
    Attended gave (Function.update errands id done)
      { world with servers := world.servers.modify id fun _ => some later } := by
  refine attended.tend found (.refl _) (fun _ _ _ => rfl) (fun retains => ⟨.refl, retains⟩) kept
    (fun future hears => ?_) vouches attended.aloof
  have awaits := attended.awaits found future hears
  exact ⟨awaits.retains, awaits.reacts, fun pending =>
    accepting future hears pending (awaits.accepting pending)⟩

end Attended

/-! ## Steps that tend servers -/

/-- A server is there. -/
def HasServer (world : World) (id : ServerId) : Prop :=
  ∃ server, world.servers.get? id = some (some server)

/-- A server that changes is there, and so are the others. -/
theorem HasServer.modify {after : World} {id other : ServerId} {server : Server}
    (has : world.HasServer other)
    (servers : after.servers = world.servers.modify id fun _ => some server) : after.HasServer other := by
  obtain ⟨before, found⟩ := has
  unfold HasServer
  rw [servers]
  by_cases same : other = id
  · subst same
    rw [Table.get?_modify_self, found]
    exact ⟨server, rfl⟩
  · rw [Table.get?_modify_of_ne _ _ same]
    exact ⟨before, found⟩

/-- A server that is kept alive stays there while nothing deals with servers. -/
theorem Changes.hasServer {scope : Scope} {n : Nat} {after : World} {id : ServerId}
    (changes : Changes scope aspects world after) (within : world.Within scope n)
    (held : .server id ∈ scope.held) (apart : .serving ∉ aspects) (has : world.HasServer id) :
    after.HasServer id := by
  obtain ⟨server, found⟩ := has
  exact ⟨server, (changes.server within held apart).trans found⟩

/-- What a step leaves that tends servers. -/
structure Tended (gave : FutureId → Outcome → Prop) (held : List Ref) (errands : ServerId → Prospect)
    (before after : World) (later : ServerId → Prospect) : Prop where
  /-- It changes nothing but what has to do with servers. -/
  changes : Changes (openTo held) tending before after
  /-- The sockets of servers that stopped are closed. -/
  listens : Listens before after
  /-- The servers that are kept alive are still there. -/
  stays : ∀ id, .server id ∈ held → before.HasServer id → after.HasServer id
  /-- The servers stay attended to as long as the loop is open. -/
  attended : after.loop.closed = false → before.Attended gave errands → after.Attended gave later

/-- A step from a world within bounds tends servers, and afterwards there are certain errands. -/
def Tends (gave : FutureId → Outcome → Prop) (held : List Ref) (errands : ServerId → Prospect)
    (world : World) (step : WorldM α) (after : α → ServerId → Prospect) : Prop :=
  world.Within (openTo held) 0 →
    Tended gave held errands world (step world).2 (after (step world).1)

namespace Tends

variable {step : WorldM α} {next : α → WorldM β} {after : α → ServerId → Prospect}

/-- A calm step tends the servers, with the same errands afterwards. -/
theorem calmly {holds : α → World → Prop} (does : Does (openTo held) 0 calm world step holds) :
    Tends gave held errands world step fun _ => errands := fun within => by
  have changes := (does within).1
  exact ⟨(does.tending within).1, .of_changes changes isAside_calm.1,
    fun id alive has => changes.hasServer within alive isAside_calm.1 has,
    fun opened attended => attended.changes changes isAside_calm opened⟩

/-- Nothing more is done, and the errands are put in another way. -/
theorem finish {value : α}
    (puts : world.Attended gave errands → world.Attended gave (after value)) :
    Tends gave held errands world (pure value) after := fun _ =>
  ⟨.refl, .refl _, fun _ _ has => has, fun _ => puts⟩

/-- Doing nothing tends the servers. -/
theorem pure {value : α} : Tends gave held errands world (pure value) fun _ => errands := finish id

/-- One step after another. -/
theorem bind {last : β → ServerId → Prospect} (first : Tends gave held errands world step after)
    (second : ∀ value reached, Tends gave held (after value) reached (next value) last) :
    Tends gave held errands world (step >>= next) last := fun within => by
  have begun := first within
  have ended := second (step world).1 (step world).2 (begun.changes.within within)
  refine ⟨begun.changes.trans ended.changes, begun.listens.trans ended.listens,
    fun id alive has => ended.stays id alive (begun.stays id alive has),
    fun opened attended => ended.attended opened (begun.attended ?_ attended)⟩
  exact ended.changes.grows.loop.opened opened

/-- A calm step first. -/
theorem following {holds : α → World → Prop} {last : β → ServerId → Prospect}
    (first : Does (openTo held) 0 calm world step holds)
    (second : ∀ value reached, Tends gave held errands reached (next value) last) :
    Tends gave held errands world (step >>= next) last := bind (calmly first) second

/-- Something is read. -/
theorem read {last : β → ServerId → Prospect} (same : (step world).2 = world)
    (rest : Tends gave held errands world (next (step world).1) last) :
    Tends gave held errands world (step >>= next) last := by
  have reads : (step >>= next) world = next (step world).1 world := by
    rw [StateM.bind_apply, same]
  unfold Tends at rest ⊢
  rw [reads]
  exact rest

/-- The same is done for each element. -/
theorem forM {elements : List α} {action : α → WorldM PUnit}
    (each : ∀ element reached, Tends gave held errands reached (action element) fun _ => errands) :
    Tends gave held errands world (elements.forM action) fun _ => errands := by
  induction elements generalizing world with
  | nil => exact pure
  | cons element rest ih => exact bind (each element world) fun _ _ => ih

end Tends

/-! ## What is done to servers -/

/-- What becomes of a world whose server changes. -/
theorem changeServer_eq {id : ServerId} {server : Server}
    (found : world.servers.get? id = some (some server)) (change : Server → Server) :
    (changeServer id change world).2 =
      { world with servers := world.servers.modify id fun _ => some (change server) } := by
  have there : (world.servers.get? id).join = some server := Option.join_eq_some_iff.mpr found
  unfold changeServer
  rw [StateM.bind_apply, server?_apply, there]
  rfl

/-- A server that is gone does not change. -/
theorem changeServer_of_gone {id : ServerId} (gone : (world.servers.get? id).join = none)
    (change : Server → Server) : (changeServer id change world).2 = world := by
  unfold changeServer
  rw [StateM.bind_apply, server?_apply, gone]
  rfl

namespace Tends

variable {id : ServerId} {errand done : Prospect} {server later : Server} {future : FutureId}

/-- What is done to one server depends on whether it is there. -/
theorem lookup {next : Option Server → WorldM β} {last : β → ServerId → Prospect}
    (gone : (world.servers.get? id).join = none → Tends gave held errands world (next none) last)
    (found : ∀ server, world.servers.get? id = some (some server) →
      Tends gave held errands world (next (some server)) last) :
    Tends gave held errands world (server? id >>= next) last := by
  refine read rfl ?_
  rw [server?_apply]
  cases there : (world.servers.get? id).join with
  | none => exact gone there
  | some server => exact found server (Option.join_eq_some_iff.mp there)

/-- A server is set that goes on to serve if it did, and to keep its accept alive if it is to hear of it. -/
theorem setServer (found : world.servers.get? id = some (some server))
    (kept : server.Kept (errand.over world.loop id) → later.Kept (done.over world.loop id))
    (accepting : later.accepting = server.accepting ∨
      later.accepting = none ∧ (server.Kept (errand.over world.loop id) →
        world.loop.replies (Reaction.isHearing id) = 0))
    (vouches : ∀ event ∈ later.history, event ∈ server.history ∨ Vouches gave world event)
    (continues : server.Continues later) (serving : later.serving = server.serving) :
    Tends gave held (Function.update errands id errand) world (World.setServer id later)
      fun _ => Function.update errands id done := fun within => by
  refine ⟨(Calm.setServer (fun future member => ?_) id within).1,
    .of_set found rfl (lasts_refl _) continues (Or.inl serving), fun _ _ has => has.modify rfl,
    fun _ attended => ?_⟩
  · rcases accepting with same | ⟨none, -⟩
    · exact within.servers found future (same ▸ member)
    · rw [none] at member
      cases member
  · refine attended.set found kept (fun future hears _ accepted => ?_) vouches
    rcases accepting with same | ⟨-, none⟩
    · exact same.trans accepted
    · have before := attended.kept found
      rw [Function.update_self] at before
      rw [none before] at hears
      cases hears

/-- An accept of a server has ended with a connection, and a protocol is made for it. -/
theorem connect (found : world.servers.get? id = some (some server)) (socket : SocketId)
    (peer : Address) (given : gave future (.ok (.connection socket peer))) :
    Tends gave held (Function.update errands id { hearings := {future} }) world
      (World.setServer id (server.endAccept future (.ok (.connection socket peer))).makeProtocol.2)
      fun _ => Function.update errands id
        { starts := 1, owed := some (server.protocolName server.made, socket, peer) } := by
  refine setServer found (fun kept => ?_) (Or.inr ⟨rfl, fun kept => kept.hears.choose_spec.2.2⟩)
    (fun event member => ?_) (.of_append rfl (List.append_assoc _ _ _)) rfl
  · have ended := kept.connect socket peer
    simpa only [Prospect.over, zero_add] using ended
  · rcases List.mem_append.mp member with earlier | last
    · refine (List.mem_append.mp earlier).imp_right fun last => ?_
      rw [List.mem_singleton.mp last]
      exact given
    · rw [List.mem_singleton.mp last]
      exact Or.inr trivial

/-- An accept of a server has ended without a connection. -/
theorem fail (found : world.servers.get? id = some (some server)) {outcome : Outcome}
    (none : Net.connection? outcome = none) (given : gave future outcome) (failing : Bool)
    (failed : ∀ error, outcome = .error error → failing = true) :
    Tends gave held (Function.update errands id { hearings := {future} }) world
      (World.setServer id (server.endAccept future outcome))
      fun _ => Function.update errands id { failing } := by
  refine setServer found (fun kept => ?_) (Or.inr ⟨rfl, fun kept => kept.hears.choose_spec.2.2⟩)
    (fun event member => ?_) (.of_append rfl rfl) rfl
  · have ended := kept.fail none failing failed
    simpa only [Prospect.over, zero_add] using ended
  · refine (List.mem_append.mp member).imp_right fun last => ?_
    rw [List.mem_singleton.mp last]
    exact given

/-- A transport is opened for the protocol that was made, and the server takes note of it. -/
theorem noteOpened (name : String) (script : Script.Protocol) (socket : SocketId) (peer : Address) :
    Tends gave held (Function.update errands id { starts := 1, owed := some (name, socket, peer) }) world
      (do
        let transport ← openTransport socket ⟨name, script⟩ (some peer) none false
        changeServer id (·.note (.opened transport name socket peer))
        return transport)
      fun _ => Function.update errands id { starts := 1 } := fun within => by
  let step : WorldM TransportId := do
    let transport ← openTransport socket ⟨name, script⟩ (some peer) none false
    changeServer id (·.note (.opened transport name socket peer))
    return transport
  change Tended gave held _ world (step world).2 _
  let opened : World := (addTransport
    { socket, peer := some peer, protocol := some ⟨name, script⟩ } true world).2
  have changes : Changes (openTo held) calm world opened := .single (by decide : Aspect.connections ∈ calm)
    (.connected world socket (some peer) ⟨name, script⟩ true)
  have steps : step world = (world.transports.size,
      (changeServer id (·.note (.opened world.transports.size name socket peer)) opened).2) := rfl
  have does : Changes (openTo held) tending world (step world).2 := by
    refine (Does.bind (Calm.openTransport _ _ _ (fun other member => absurd member List.not_mem_nil)
      _).tending fun _ _ _ => ?_ : Does (openTo held) 0 tending world step anyhow) within |>.1
    exact Does.bind (Calm.changeServer (fun _ => by rfl) id) fun _ _ _ => Does.pure trivial
  have listens : Listens world opened := .of_changes changes isAside_calm.1
  have servers : opened.servers = world.servers := rfl
  have made : opened.Opened world.transports.size (socket, some peer) := by
    refine ⟨Nat.lt_of_lt_of_eq (Nat.lt_succ_self _) (Table.size_push _ _).symm, fun transport found => ?_⟩
    change (world.transports.push _).get? world.transports.size = _ at found
    rw [Table.get?_push, if_pos rfl] at found
    cases found
    rfl
  cases there : (world.servers.get? id).join with
  | none =>
    have same : (step world).2 = opened := by
      rw [steps]
      have gone : (opened.servers.get? id).join = none := there
      exact changeServer_of_gone gone _
    rw [same] at does ⊢
    refine ⟨does, listens, fun _ _ has => has, fun closed attended => ?_⟩
    refine (attended.changes changes isAside_calm closed).put fun found => ?_
    exact absurd (there.symm.trans (Option.join_eq_some_iff.mpr found)) nofun
  | some server =>
    have found : opened.servers.get? id = some (some server) := Option.join_eq_some_iff.mp there
    have noted := changeServer_eq found fun server =>
      server.note (.opened world.transports.size name socket peer)
    rw [steps, noted] at does ⊢
    refine ⟨does, listens.trans (.of_set found rfl (lasts_refl _) (.of_append rfl rfl) (Or.inl rfl)),
      fun _ _ has => has.modify (congrArg (Table.modify · _ _) servers), fun closed attended => ?_⟩
    have fresh {other : TransportId} {protocol : String} {socket : SocketId} {peer : Address}
        (member : .opened other protocol socket peer ∈ server.history) : other < world.transports.size := by
      have vouched : world.Opened other (socket, some peer) := attended.vouches found _ member
      exact vouched.1
    refine (attended.changes changes isAside_calm closed).set found
      (fun kept => kept.complete fresh) (fun _ _ _ accepted => accepted) fun event member => ?_
    refine (List.mem_append.mp member).imp_right fun last => ?_
    rw [List.mem_singleton.mp last]
    exact made

/-- The server goes on once its transport is open. -/
theorem complete (name : String) (script : Script.Protocol) (socket : SocketId) (peer : Address)
    {rest : TransportId → WorldM β} {last : β → ServerId → Prospect}
    (goesOn : ∀ transport reached, Tends gave held
      (Function.update errands id { starts := 1 }) reached (rest transport) last) :
    Tends gave held (Function.update errands id { starts := 1, owed := some (name, socket, peer) }) world
      (do
        let transport ← openTransport socket ⟨name, script⟩ (some peer) none false
        changeServer id (·.note (.opened transport name socket peer))
        rest transport) last := fun within => by
  have tended := bind (noteOpened name script socket peer) goesOn within
  exact tended

end Tends

end EventLoop.World

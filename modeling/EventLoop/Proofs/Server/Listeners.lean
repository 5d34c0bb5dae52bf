import EventLoop.Proofs.Effect.Connections
import EventLoop.Proofs.Proactor.Registrations
import EventLoop.Proofs.Sync.Queue

/-!
# Listening sockets

A server keeps its listening socket. It may stop serving but never begins again, and when it has stopped the
socket is closed and stays closed. Until it is closed, the operations on it are forgotten.
-/
namespace EventLoop

/-- A server later on: it has the same socket, and more may have happened to it. -/
structure Net.Server.Continues (server later : Server) : Prop where
  /-- It keeps its listening socket. -/
  socket : later.socket = server.socket
  /-- Nothing of what happened to it is forgotten. -/
  history : server.history <+: later.history

namespace Net.Server.Continues

variable {first second third : Server}

/-- A server continues when nothing happens to it. -/
theorem refl (server : Server) : server.Continues server := ⟨rfl, List.prefix_refl _⟩

/-- A server that continues twice continues. -/
theorem trans (before : first.Continues second) (after : second.Continues third) : first.Continues third :=
  ⟨after.socket.trans before.socket, before.history.trans after.history⟩

/-- More has happened to the server. -/
theorem of_append (socket : second.socket = first.socket) {more : List ServerEvent}
    (history : second.history = first.history ++ more) : first.Continues second :=
  ⟨socket, history ▸ List.prefix_append _ _⟩

end Net.Server.Continues

namespace World

open Net (Server)

variable {scope : Scope} {aspect : Aspect} {aspects : List Aspect} {world before middle after : World}
variable {id : ServerId} {server later : Server}

/-! ## Sockets that last -/

/-- A socket that was closed is closed later. -/
theorem Lasts.closed (lasts : Lasts before.sockets after.sockets) {socket : SocketId}
    (exists_ : socket < before.sockets.size) (closed : before.isOpen socket = false) :
    after.isOpen socket = false := by
  obtain ⟨fd, found⟩ := Table.exists_get?_of_lt_size exists_
  obtain ⟨now, here, shut⟩ := lasts _ _ found
  unfold isOpen fdOf at closed ⊢
  rw [found] at closed
  rw [here]
  exact decide_eq_false (Int.not_le.mpr (shut (Int.not_le.mp (of_decide_eq_false closed))))

/-- There are at least as many sockets later on. -/
theorem Lasts.size (lasts : Lasts before.sockets after.sockets) :
    before.sockets.size ≤ after.sockets.size := by
  by_contra fewer
  obtain ⟨fd, found⟩ := Table.exists_get?_of_lt_size (Nat.not_le.mp fewer)
  obtain ⟨now, here, -⟩ := lasts _ _ found
  exact absurd (Table.lt_size_of_get? here) (Nat.lt_irrefl _)

/-- Sockets that last twice last. -/
theorem Lasts.trans (first : Lasts before.sockets middle.sockets)
    (second : Lasts middle.sockets after.sockets) : Lasts before.sockets after.sockets := by
  intro socket fd found
  obtain ⟨between, there, shut⟩ := first socket fd found
  obtain ⟨now, here, still⟩ := second socket between there
  exact ⟨now, here, fun closed => still (shut closed)⟩

/-- Every change keeps the sockets, and the closed ones closed. -/
theorem Change.lasts (change : Change scope aspect before after) :
    Lasts before.sockets after.sockets := by
  cases change with
  | devices _ _ _ _ _ _ lasts => exact lasts
  | connected =>
    rw [addTransport_eq]
    exact lasts_refl _
  | _ => exact lasts_refl _

/-! ## Servers and their sockets -/

/-- What becomes of servers and their listening sockets on the way from one world to another. -/
structure Listens (before after : World) : Prop where
  /-- Sockets are kept, and closed ones stay closed. -/
  sockets : Lasts before.sockets after.sockets
  /-- No server is forgotten. -/
  size : before.servers.size ≤ after.servers.size
  /-- A server goes on, and when it stops serving its socket is closed. -/
  servers : ∀ {id later}, id < before.servers.size → after.servers.get? id = some (some later) →
    ∃ server, before.servers.get? id = some (some server) ∧ server.Continues later ∧
      (later.serving = server.serving ∨ server.serving = true ∧ later.serving = false ∧
        (server.socket < before.sockets.size → after.isOpen server.socket = false))

namespace Listens

/-- The servers are the same, or some of them are gone. -/
theorem of_servers (sockets : Lasts before.sockets after.sockets)
    (size : before.servers.size ≤ after.servers.size)
    (servers : ∀ {id server}, id < before.servers.size → after.servers.get? id = some (some server) →
      before.servers.get? id = some (some server)) : Listens before after :=
  ⟨sockets, size, fun below found => ⟨_, servers below found, .refl _, Or.inl rfl⟩⟩

/-- Servers listen as before when nothing happens. -/
theorem refl (world : World) : Listens world world :=
  of_servers (lasts_refl _) (Nat.le_refl _) fun _ found => found

/-- What becomes of servers is put together from its parts. -/
theorem trans (first : Listens before middle) (second : Listens middle after) :
    Listens before after := by
  refine ⟨first.sockets.trans second.sockets, Nat.le_trans first.size second.size,
    fun {id later} below found => ?_⟩
  obtain ⟨between, there, continues, ends⟩ := second.servers (Nat.lt_of_lt_of_le below first.size) found
  obtain ⟨server, start, continued, begins⟩ := first.servers below there
  refine ⟨server, start, continued.trans continues, ?_⟩
  rcases ends with still | ⟨serves, stopped, shuts⟩
  · refine begins.imp still.trans fun ⟨serves, stopped, shuts⟩ => ⟨serves, still.trans stopped, ?_⟩
    exact fun exists_ =>
      second.sockets.closed (Nat.lt_of_lt_of_le exists_ first.sockets.size) (shuts exists_)
  · rcases begins with steady | ⟨-, before, -⟩
    · refine Or.inr ⟨steady.symm.trans serves, stopped, fun exists_ => ?_⟩
      rw [← continued.socket] at exists_ ⊢
      exact shuts (Nat.lt_of_lt_of_le exists_ first.sockets.size)
    · rw [serves] at before
      cases before

/-- Changes that do not deal with servers. -/
theorem of_changes (changes : Changes scope aspects before after) (apart : Aspect.serving ∉ aspects) :
    Listens before after := by
  induction changes with
  | refl => exact refl _
  | @tail reached last _ step ih =>
    refine ih.trans ?_
    obtain ⟨aspect, member, change⟩ := step
    have lasts : Lasts reached.sockets last.sockets := change.lasts
    cases change with
    | retired _ gone free =>
      refine of_servers lasts (Nat.le_of_eq (Table.size_modify _ _ _).symm) fun {id server} _ found => ?_
      rw [Table.get?_modify] at found
      split at found
      · obtain ⟨_, -, absurd⟩ := Option.map_eq_some_iff.mp found
        cases absurd
      · exact found
    | servers => exact absurd member apart
    | connected =>
      rw [addTransport_eq] at lasts ⊢
      exact of_servers lasts (Nat.le_refl _) fun _ found => found
    | _ => exact of_servers lasts (Nat.le_refl _) fun _ found => found

/-- One server changes. -/
theorem of_set (found : world.servers.get? id = some (some server))
    (servers : after.servers = world.servers.modify id fun _ => some later)
    (sockets : Lasts world.sockets after.sockets) (continues : server.Continues later)
    (serving : later.serving = server.serving ∨ server.serving = true ∧ later.serving = false ∧
      (server.socket < world.sockets.size → after.isOpen server.socket = false)) :
    Listens world after := by
  refine ⟨sockets, Nat.le_of_eq (by rw [servers, Table.size_modify]), fun {other now} below here => ?_⟩
  by_cases same : other = id
  · subst same
    rw [servers, Table.get?_modify_self, found] at here
    cases here
    exact ⟨server, found, continues, serving⟩
  · rw [servers, Table.get?_modify_of_ne _ _ same] at here
    exact ⟨now, here, .refl now, Or.inl rfl⟩

end Listens

/-! ## Closing a server -/

/-- A server is looked up without changing the world. -/
theorem server?_apply (id : ServerId) (world : World) :
    server? id world = ((world.servers.get? id).join, world) := rfl

/-- A server does not serve any more, and its accept is cancelled. -/
def stopped (world : World) (id : ServerId) (server : Server) : World :=
  { world with
    servers := world.servers.modify id fun _ => some server.stop
    host := (Host.message .debug ("stop serving " ++ (socketText server.socket world).1) world.host).2
    loop := world.loop.resolveAll server.accepting.toList .cancel }

/-- A server that serves stops serving; then the operations on its socket are forgotten, and the socket is
closed. -/
theorem closeServer_eq (found : world.servers.get? id = some (some server))
    (serving : server.serving = true) : closeServer id world = (do
      forgetSocket server.socket
      closeSocket server.socket : WorldM Unit) (world.stopped id server) := by
  have there : (world.servers.get? id).join = some server := by rw [found]; rfl
  have step : closeServer id world = (do
      setServer id server.stop
      message .debug ("stop serving " ++ (← socketText server.socket))
      cancelAll server.accepting.toList
      forgetSocket server.socket
      closeSocket server.socket : WorldM Unit) world := by
    unfold closeServer
    rw [StateM.bind_apply, server?_apply, there]
    dsimp only
    rw [if_pos serving]
  rw [step]
  simp only [StateM.bind_apply, cancelAll_eq]
  rfl

/-- Nothing is done to a server that does not serve any more. -/
theorem closeServer_of_stopped (found : world.servers.get? id = some (some server))
    (stopped : server.serving = false) : closeServer id world = ((), world) := by
  have there : (world.servers.get? id).join = some server := by rw [found]; rfl
  unfold closeServer
  rw [StateM.bind_apply, server?_apply, there]
  dsimp only
  rw [if_neg (by rw [stopped]; exact Bool.false_ne_true)]
  rfl

/-- Nothing is done to a server that is gone. -/
theorem closeServer_of_gone (gone : (world.servers.get? id).join = none) :
    closeServer id world = ((), world) := by
  unfold closeServer
  rw [StateM.bind_apply, server?_apply, gone]
  rfl

/-- A server that was closed has stopped serving, and its socket is closed. -/
theorem listens_closeServer (found : world.servers.get? id = some (some server))
    (serving : server.serving = true)
    (changes : Changes scope aspects (world.stopped id server) (closeServer id world).2)
    (apart : Aspect.serving ∉ aspects) : Listens world (closeServer id world).2 := by
  have closed : (closeServer id world).2.isOpen server.socket = false := by
    rw [closeServer_eq found serving]
    exact isOpen_closeSocket server.socket _
  have rest := Listens.of_changes changes apart
  have size : (world.stopped id server).servers.size = world.servers.size := Table.size_modify _ _ _
  refine ⟨rest.sockets, size ▸ rest.size, fun {other later} below here => ?_⟩
  obtain ⟨between, there, continues, ends⟩ := rest.servers (size.symm ▸ below) here
  change (world.servers.modify id fun _ => some server.stop).get? other = _ at there
  by_cases own : other = id
  · subst own
    rw [Table.get?_modify_self, found] at there
    cases there
    have stops : server.Continues server.stop := .of_append rfl rfl
    refine ⟨server, found, stops.trans continues, Or.inr ⟨serving, ?_, fun _ => closed⟩⟩
    rcases ends with still | ⟨serves, -⟩
    · exact still
    · cases serves
  · rw [Table.get?_modify_of_ne _ _ own] at there
    exact ⟨between, there, continues, ends⟩

/-- A server that was closed does not serve any more. -/
theorem stops_closeServer (found : world.servers.get? id = some (some server))
    (changes : Changes scope aspects (world.stopped id server) (closeServer id world).2)
    (apart : Aspect.serving ∉ aspects)
    (here : (closeServer id world).2.servers.get? id = some (some later)) : later.serving = false := by
  have size : (world.stopped id server).servers.size = world.servers.size := Table.size_modify _ _ _
  have below : id < (world.stopped id server).servers.size := size ▸ Table.lt_size_of_get? found
  obtain ⟨between, there, -, ends⟩ := (Listens.of_changes changes apart).servers below here
  change (world.servers.modify id fun _ => some server.stop).get? id = _ at there
  rw [Table.get?_modify_self, found] at there
  cases there
  rcases ends with still | ⟨serves, -⟩
  · exact still
  · cases serves

/-! ## Operations that are forgotten -/

/-- No operation waits at a descriptor. -/
def Idle (world : World) (fd : Fd) : Prop :=
  match world.completer with
  | .engine engine => engine.registration? fd = none
  | .scripted scripted => ∀ future ∈ scripted.futuresOf fd, world.loop.isDone future = true

/-- No operation waits at the descriptor of a socket after the operations on it were forgotten. -/
theorem idle_forgetSocket (submitting : world.submitting = true)
    (exist : ∀ future ∈ world.completer.futures, future < world.loop.futures.size)
    (socket : SocketId) : (forgetSocket socket world).2.Idle (world.fdOf socket) := by
  have step : forgetSocket socket world = (match world.completer with
      | .engine engine => do
        setEngine (← engine.unregister engineSystem (world.fdOf socket))
      | .scripted scripted => do
        record "io" "unregister" (Host.fdValue (world.fdOf socket))
        cancelAll (scripted.futuresOf (world.fdOf socket)) : WorldM Unit) world :=
    congrFun (if_pos submitting) world
  rw [step]
  cases completer : world.completer with
  | engine engine =>
    change (engine.unregister engineSystem (world.fdOf socket) world).1.registration? _ = none
    cases found : engine.registration? (world.fdOf socket) with
    | none =>
      have same : engine.unregister engineSystem (world.fdOf socket) world = (engine, world) := by
        unfold Proactor.Engine.unregister
        rw [found]
        rfl
      rw [same]
      exact found
    | some registration =>
      have erased : (engine.unregister engineSystem (world.fdOf socket) world).1 =
          engine.eraseRegistration (world.fdOf socket) := by
        unfold Proactor.Engine.unregister
        rw [found]
        rfl
      rw [erased, Proactor.Engine.registration?_eraseRegistration, if_pos rfl]
  | scripted scripted =>
    have cancelled : ((do
        record "io" "unregister" (Host.fdValue (world.fdOf socket))
        cancelAll (scripted.futuresOf (world.fdOf socket)) : WorldM Unit) world).2 = { world with
          host := (Host.record "io" "unregister" (Host.fdValue (world.fdOf socket)) world.host).2
          loop := world.loop.resolveAll (scripted.futuresOf (world.fdOf socket)) .cancel } := by
      rw [StateM.bind_apply, cancelAll_eq]
      rfl
    have listed (future : FutureId) (member : future ∈ scripted.futuresOf (world.fdOf socket)) :
        future < world.loop.futures.size := by
      obtain ⟨submission, here, rfl⟩ := List.mem_map.mp member
      refine exist _ ?_
      rw [completer]
      exact List.mem_map.mpr ⟨submission, (List.mem_filter.mp here).1, rfl⟩
    unfold Idle
    rw [cancelled]
    dsimp only
    rw [completer]
    intro future member
    refine Loop.isDone_iff.mpr ?_
    rw [Loop.fate_resolveAll _ _ _ (by decide) listed]
    split
    · exact nofun
    · rename_i settled
      exact fun pending => settled ⟨member, pending⟩

/-- No operation waits at the listening socket of a server that was closed. -/
theorem idle_closeServer (found : world.servers.get? id = some (some server))
    (serving : server.serving = true) (submitting : world.submitting = true)
    (exist : ∀ future ∈ world.completer.futures, future < world.loop.futures.size) :
    (closeServer id world).2.Idle (world.fdOf server.socket) := by
  let stops := world.stopped id server
  have bound : ∀ future ∈ stops.completer.futures, future < stops.loop.futures.size := by
    intro future member
    have same : stops.loop.futures.size = world.loop.futures.size := Loop.size_futures_resolveAll _ _ _
    exact same ▸ exist future member
  have stays (world : World) (fd : Fd) (idle : world.Idle fd) :
      (closeSocket server.socket world).2.Idle fd := by
    rw [snd_closeSocket]
    split
    · exact idle
    · exact idle
  have asks : stops.submitting = true := submitting
  have idle : (forgetSocket server.socket stops).2.Idle (stops.fdOf server.socket) :=
    idle_forgetSocket asks bound server.socket
  rw [closeServer_eq found serving]
  exact stays _ _ idle

end World

end EventLoop

import EventLoop.Net.Server
import Mathlib.Algebra.Order.Group.Multiset

/-!
# The rounds of a server

Apart from the point at which a server stopped serving, its history is one round after another: an accept
is submitted, it ends with a connection, a protocol is made for the connection, and a transport is opened
for the protocol. At the end of the history there may be a part of a round. Which part that is says what
is to come for the server: the stage that the server is in.
-/
namespace EventLoop.Net

/-- A connection that was served. -/
structure Round where
  /-- The accept that ended with the connection. -/
  future : FutureId
  /-- The socket of the connection. -/
  socket : SocketId
  /-- The address at the other side. -/
  peer : Address
  /-- The transport that was opened. -/
  transport : TransportId

/-- The connection that an accept ended with. -/
def connection? : Outcome → Option (SocketId × Address)
  | .ok (.connection socket peer) => some (socket, peer)
  | .ok .unit | .ok (.bytes _) | .ok (.value _) | .error _ => none

/-- What a server is up to, besides the rounds that are complete. -/
inductive Stage
  /-- Nothing. -/
  | idle
  /-- An accept is to be submitted. -/
  | due
  /-- An accept is under way. -/
  | waiting (future : FutureId)
  /-- An accept has ended without a connection. -/
  | ended (future : FutureId) (outcome : Outcome) (none : connection? outcome = none)
  /-- A transport is to be opened. -/
  | opening (future : FutureId) (socket : SocketId) (peer : Address)

/-- What is to come for a server, and whether there is something to be made up for. -/
structure Prospect where
  /-- How often it is to begin to accept. -/
  starts : Nat := 0
  /-- The accepts of whose ends it is still to hear. -/
  hearings : Multiset FutureId := 0
  /-- A transport that is to be opened: its protocol, its socket and the peer's address. -/
  owed : Option (String × SocketId × Address) := none
  /-- Whether it is to be closed because an accept failed. -/
  failing : Bool := false

/-- Whether a server stopped serving by an event. -/
def ServerEvent.isStop : ServerEvent → Bool
  | .stopped => true
  | .accepting _ | .ended .. | .made _ | .opened .. => false

/-- What happens in a round. -/
def Round.events (round : Round) (protocol : String) : List ServerEvent :=
  [.accepting round.future, .ended round.future (.ok (.connection round.socket round.peer)),
    .made protocol, .opened round.transport protocol round.socket round.peer]

/-- What happened in a round that is not complete. -/
def Stage.events (stage : Stage) (protocol : String) : List ServerEvent :=
  match stage with
  | idle | due => []
  | waiting future => [.accepting future]
  | ended future outcome _ => [.accepting future, .ended future outcome]
  | opening future socket peer =>
    [.accepting future, .ended future (.ok (.connection socket peer)), .made protocol]

/-- The accept of a round that is not complete. -/
def Stage.futures : Stage → List FutureId
  | idle | due => []
  | waiting future | ended future .. | opening future .. => [future]

/-- How many protocols were made in a round that is not complete. -/
def Stage.made : Stage → Nat
  | opening .. => 1
  | idle | due | waiting _ | ended .. => 0

/-- Whether an accept has failed. -/
def Stage.isFailure : Stage → Bool
  | ended _ (.error _) _ => true
  | ended _ (.ok _) _ | idle | due | waiting _ | opening .. => false

/-- What is to come at a stage. -/
def Stage.prospect (stage : Stage) (protocol : String) : Prospect :=
  match stage with
  | idle | ended .. => {}
  | due => { starts := 1 }
  | waiting future => { hearings := {future} }
  | opening _ socket peer => { starts := 1, owed := some (protocol, socket, peer) }

namespace Server

/-- What happened in the rounds of a server, whose protocols are numbered. -/
def course (server : Server) (rounds : List Round) : List ServerEvent :=
  (rounds.mapIdx fun number round => round.events (server.protocolName number)).flatten

/-- The rounds of a server and the stage that it is in. -/
structure Serves (server : Server) (rounds : List Round) (stage : Stage) : Prop where
  /-- Apart from the point at which it stopped serving, the history of the server is that of its rounds. -/
  history : (server.history.filter fun event => !event.isStop) =
    server.course rounds ++ stage.events (server.protocolName rounds.length)
  /-- One protocol was made for each connection. -/
  made : server.made = rounds.length + stage.made
  /-- Each accept is submitted once. -/
  futures : (rounds.map Round.future ++ stage.futures).Nodup
  /-- Each transport is opened for one connection, in the order of the connections. -/
  transports : (rounds.map Round.transport).Pairwise (· < ·)
  /-- The server stops serving once. -/
  stops : server.history.countP ServerEvent.isStop = if server.serving then 0 else 1
  /-- No accept is submitted after the server stopped serving. -/
  ceased : ∀ future, .accepting future ∉ server.history.dropWhile fun event => !event.isStop
  /-- No accept is kept alive after the server stopped serving. -/
  rests : server.serving = false → server.accepting = none

/-- A server is in a stage that agrees with what is to come for it. -/
def Kept (server : Server) (prospect : Prospect) : Prop :=
  ∃ rounds stage, server.Serves rounds stage ∧
    { prospect with failing := false } = stage.prospect (server.protocolName rounds.length) ∧
    (stage.isFailure = true → server.serving = false ∨ prospect.failing = true)

variable {server : Server} {rounds : List Round} {stage : Stage} {prospect : Prospect}
variable {future : FutureId} {socket : SocketId} {peer : Address}

/-- The rounds go on with one more. -/
theorem course_append (server : Server) (rounds : List Round) (round : Round) :
    server.course (rounds ++ [round]) =
      server.course rounds ++ round.events (server.protocolName rounds.length) := by
  unfold course
  rw [List.mapIdx_concat, List.flatten_append, List.flatten_singleton]

namespace Serves

/-- What happened in a round is in the history. -/
theorem mem_of_round {round : Round} (serves : server.Serves rounds stage) (member : round ∈ rounds) :
    ∃ protocol, ∀ event ∈ round.events protocol, event ∈ server.history := by
  obtain ⟨number, below, rfl⟩ := List.mem_iff_getElem.mp member
  refine ⟨server.protocolName number, fun event happened => ?_⟩
  have listed : event ∈ server.course rounds := by
    refine List.mem_flatten.mpr ⟨_, ?_, happened⟩
    exact List.mem_mapIdx.mpr ⟨number, below, rfl⟩
  have plain : event ∈ server.history.filter fun event => !event.isStop := by
    rw [serves.history]
    exact List.mem_append_left _ listed
  exact (List.mem_filter.mp plain).1

/-- What happened in a round that is not complete is in the history. -/
theorem mem_of_stage {event : ServerEvent} (serves : server.Serves rounds stage)
    (happened : event ∈ stage.events (server.protocolName rounds.length)) : event ∈ server.history := by
  have plain : event ∈ server.history.filter fun event => !event.isStop := by
    rw [serves.history]
    exact List.mem_append_right _ happened
  exact (List.mem_filter.mp plain).1

/-- Each accept of a round was submitted. -/
theorem accepting_mem (serves : server.Serves rounds stage)
    (member : future ∈ rounds.map Round.future ++ stage.futures) :
    .accepting future ∈ server.history := by
  rcases List.mem_append.mp member with complete | last
  · obtain ⟨round, listed, rfl⟩ := List.mem_map.mp complete
    obtain ⟨protocol, happened⟩ := serves.mem_of_round listed
    exact happened _ List.mem_cons_self
  · refine serves.mem_of_stage ?_
    cases stage with
    | idle | due => cases last
    | waiting | ended | opening =>
      rw [List.mem_singleton.mp last]
      exact List.mem_cons_self

/-- An accept that was submitted is that of a complete round, or that of the stage. -/
theorem of_accepting (serves : server.Serves rounds stage) (submitted : .accepting future ∈ server.history) :
    (∃ round ∈ rounds, round.future = future) ∨ stage = .waiting future ∨
      (∃ outcome none, stage = .ended future outcome none) ∨
      ∃ socket peer, stage = .opening future socket peer := by
  have plain : .accepting future ∈ server.history.filter fun event => !event.isStop :=
    List.mem_filter.mpr ⟨submitted, rfl⟩
  rw [serves.history] at plain
  rcases List.mem_append.mp plain with complete | last
  · refine Or.inl ?_
    obtain ⟨events, listed, happened⟩ := List.mem_flatten.mp complete
    obtain ⟨number, below, rfl⟩ := List.mem_mapIdx.mp listed
    have same : future = rounds[number].future := by simpa [Round.events] using happened
    exact ⟨rounds[number], List.getElem_mem below, same.symm⟩
  · refine Or.inr ?_
    cases stage with
    | idle | due => cases last
    | waiting other =>
      have same : future = other := by simpa [Stage.events] using last
      exact Or.inl (same ▸ rfl)
    | ended other outcome none =>
      have same : future = other := by simpa [Stage.events] using last
      exact Or.inr (Or.inl ⟨outcome, none, same ▸ rfl⟩)
    | opening other socket peer =>
      have same : future = other := by simpa [Stage.events] using last
      exact Or.inr (Or.inr ⟨socket, peer, same ▸ rfl⟩)

/-- A server that serves has not stopped. -/
theorem not_isStop (serves : server.Serves rounds stage) (serving : server.serving = true) :
    ∀ event ∈ server.history, event.isStop = false := by
  have none := serves.stops
  rw [serving, if_pos rfl, List.countP_eq_zero] at none
  exact fun event member => Bool.not_eq_true _ ▸ none event member

/-- Nothing is accepted after the server stopped if that goes on with events that are no accepts. -/
theorem ceased_append (serves : server.Serves rounds stage) {more : List ServerEvent}
    (other : ∀ future, .accepting future ∉ more) (future : FutureId) :
    .accepting future ∉ (server.history ++ more).dropWhile fun event => !event.isStop := by
  intro member
  rw [List.dropWhile_append] at member
  split at member
  · exact other future ((List.dropWhile_suffix _).subset member)
  · exact (List.mem_append.mp member).elim (serves.ceased future) (other future)

/-- A server that was just made. -/
theorem new (name : String) (socket : SocketId) (script : Script.Protocol) :
    ({ name, socket, script } : Server).Serves [] .due where
  history := rfl
  made := rfl
  futures := List.nodup_nil
  transports := .nil
  stops := rfl
  ceased _ member := nomatch member
  rests stopped := nomatch stopped

/-- An accept is submitted. -/
theorem accept (serves : server.Serves rounds .due) (serving : server.serving = true)
    (fresh : .accepting future ∉ server.history) :
    (server.beginAccept future).Serves rounds (.waiting future) where
  history := by
    change (server.history ++ [_]).filter _ = _
    rw [List.filter_append, serves.history]
    exact congrArg (· ++ [ServerEvent.accepting future]) (List.append_nil _)
  made := serves.made
  futures := by
    have before := serves.futures
    rw [show Stage.futures .due = [] from rfl, List.append_nil] at before
    have absent : future ∉ rounds.map Round.future := fun listed =>
      fresh (serves.accepting_mem (List.mem_append_left _ listed))
    have added := before.concat absent
    rw [List.concat_eq_append] at added
    exact added
  transports := serves.transports
  stops := by
    change (server.history ++ [_]).countP _ = _
    rw [List.countP_append, serves.stops]
    rfl
  ceased other member := by
    have plain : ∀ event ∈ server.history ++ [.accepting future], (!event.isStop) = true := by
      intro event listed
      rw [Bool.not_eq_true']
      rcases List.mem_append.mp listed with old | last
      · exact serves.not_isStop serving event old
      · rw [List.mem_singleton.mp last]
        rfl
    change _ ∈ (server.history ++ [_]).dropWhile _ at member
    rw [← List.append_nil (server.history ++ _), List.dropWhile_append_of_pos plain] at member
    cases member
  rests stopped := absurd (serving.symm.trans stopped) nofun

/-- A server goes on from one stage to the next with something that is neither an accept nor a stop. -/
theorem goesOn {later : Server} {next : Stage} {more : List ServerEvent}
    (serves : server.Serves rounds stage) (name : later.name = server.name)
    (serving : later.serving = server.serving)
    (accepting : server.accepting = none → later.accepting = none)
    (history : later.history = server.history ++ more)
    (plain : ∀ event ∈ more, event.isStop = false) (other : ∀ future, .accepting future ∉ more)
    (events : stage.events (server.protocolName rounds.length) ++ more =
      next.events (server.protocolName rounds.length))
    (made : later.made + stage.made = server.made + next.made) (futures : next.futures = stage.futures) :
    later.Serves rounds next where
  history := by
    have all : (more.filter fun event => !event.isStop) = more := by
      refine List.filter_eq_self.mpr fun event member => ?_
      rw [plain event member]
      rfl
    have named (number : Nat) : later.protocolName number = server.protocolName number := by
      unfold protocolName
      rw [name]
    have course : later.course rounds = server.course rounds := by
      unfold course
      simp only [named]
    rw [history, List.filter_append, serves.history, all, List.append_assoc, events, course, named]
  made := by
    have before := serves.made
    omega
  futures := futures ▸ serves.futures
  transports := serves.transports
  stops := by
    have none : more.countP ServerEvent.isStop = 0 := by
      refine List.countP_eq_zero.mpr fun event member => ?_
      rw [plain event member]
      exact Bool.false_ne_true
    rw [history, List.countP_append, serves.stops, none, serving]
    rfl
  ceased := history ▸ serves.ceased_append other
  rests stopped := accepting (serves.rests (serving.symm.trans stopped))

/-- An accept has ended with a connection, and a protocol is made for it. -/
theorem connect (serves : server.Serves rounds (.waiting future)) (socket : SocketId) (peer : Address) :
    (server.endAccept future (.ok (.connection socket peer))).makeProtocol.2.Serves rounds
      (.opening future socket peer) := by
  have number : server.made = rounds.length := serves.made
  have name : server.protocolName server.made = server.protocolName rounds.length := by rw [number]
  refine serves.goesOn rfl rfl (fun _ => rfl) (List.append_assoc _ _ _) (fun event member => ?_)
    (fun other member => ?_) ?_ rfl rfl
  · rcases List.mem_pair.mp member with rfl | rfl
    · rfl
    · rfl
  · rcases List.mem_pair.mp member with same | same
    · cases same
    · cases same
  · exact congrArg (fun name => [ServerEvent.accepting future,
      .ended future (.ok (.connection socket peer)), .made name]) name

/-- An accept has ended without a connection. -/
theorem fail (serves : server.Serves rounds (.waiting future)) {outcome : Outcome}
    (none : connection? outcome = none) :
    (server.endAccept future outcome).Serves rounds (.ended future outcome none) := by
  refine serves.goesOn rfl rfl (fun _ => rfl) rfl (fun event member => ?_) (fun other member => ?_)
    rfl rfl rfl
  · rw [List.mem_singleton.mp member]
    rfl
  · cases List.mem_singleton.mp member

/-- A transport is opened, by which a round is complete. -/
theorem complete (serves : server.Serves rounds (.opening future socket peer)) {transport : TransportId}
    (fresh : ∀ round ∈ rounds, round.transport < transport) :
    (server.note (.opened transport (server.protocolName rounds.length) socket peer)).Serves
      (rounds ++ [⟨future, socket, peer, transport⟩]) .due where
  history := by
    change (server.history ++ [_]).filter _ = server.course _ ++ _
    rw [List.filter_append, serves.history, course_append, List.append_assoc]
    exact (List.append_nil _).symm
  made := by
    have before : server.made = rounds.length + 1 := serves.made
    rw [List.length_append]
    exact before
  futures := by
    have before := serves.futures
    rw [List.map_append, show Stage.futures .due = [] from rfl, List.append_nil]
    exact before
  transports := by
    rw [List.map_append, List.pairwise_append]
    refine ⟨serves.transports, List.pairwise_singleton _ _, fun other listed last here => ?_⟩
    obtain ⟨round, member, rfl⟩ := List.mem_map.mp listed
    rw [List.mem_singleton.mp here]
    exact fresh round member
  stops := by
    change (server.history ++ [_]).countP _ = _
    rw [List.countP_append, serves.stops]
    rfl
  ceased := serves.ceased_append fun other member => by cases List.mem_singleton.mp member
  rests := serves.rests

/-- The server stops serving. -/
theorem stop (serves : server.Serves rounds stage) (serving : server.serving = true) :
    server.stop.Serves rounds stage where
  history := by
    change (server.history ++ [_]).filter _ = _
    rw [List.filter_append, serves.history]
    exact List.append_nil _
  made := serves.made
  futures := serves.futures
  transports := serves.transports
  stops := by
    change (server.history ++ [_]).countP _ = _
    rw [List.countP_append, serves.stops, serving]
    rfl
  ceased := serves.ceased_append fun other member => by cases List.mem_singleton.mp member
  rests _ := rfl

/-- An accept that was to be submitted is not submitted. -/
theorem rest (serves : server.Serves rounds .due) : server.Serves rounds .idle :=
  serves.goesOn rfl rfl id (List.append_nil _).symm (fun _ member => nomatch member)
    (fun _ member => nomatch member) rfl rfl rfl

end Serves

/-! ## What is to come for a server -/

namespace Kept

variable {starts : Nat} {hearings : Multiset FutureId} {failing : Bool}

/-- A server that is to begin to accept has nothing else to come. -/
theorem begins (kept : server.Kept { starts := 1 + starts, hearings }) :
    ∃ rounds, server.Serves rounds .due ∧ starts = 0 ∧ hearings = 0 := by
  obtain ⟨rounds, stage, serves, same, -⟩ := kept
  obtain ⟨begins, hears, owes, -⟩ := Prospect.mk.inj same
  cases stage with
  | idle | waiting | ended => simp at begins
  | opening => cases owes
  | due =>
    change 1 + starts = 1 at begins
    exact ⟨rounds, serves, by omega, hears⟩

/-- A server begins to accept. -/
theorem accept (kept : server.Kept { starts := 1 + starts, hearings }) (serving : server.serving = true)
    (fresh : .accepting future ∉ server.history) :
    (server.beginAccept future).Kept { starts, hearings := hearings + {future} } := by
  obtain ⟨rounds, serves, rfl, rfl⟩ := kept.begins
  refine ⟨rounds, .waiting future, serves.accept serving fresh, ?_, fun failed => nomatch failed⟩
  rw [zero_add]
  rfl

/-- A server that does not serve any more does not begin to accept. -/
theorem rest (kept : server.Kept { starts := 1 + starts, hearings }) :
    server.Kept { starts, hearings } := by
  obtain ⟨rounds, serves, rfl, rfl⟩ := kept.begins
  exact ⟨rounds, .idle, serves.rest, rfl, fun failed => nomatch failed⟩

/-- A server that hears of the end of an accept waits for that accept, and for nothing else. -/
theorem hears (kept : server.Kept { starts, hearings := {future} + hearings }) :
    ∃ rounds, server.Serves rounds (.waiting future) ∧ starts = 0 ∧ hearings = 0 := by
  obtain ⟨rounds, stage, serves, same, -⟩ := kept
  obtain ⟨begins, hears, -, -⟩ := Prospect.mk.inj same
  cases stage with
  | idle | due | ended | opening => simp at hears
  | waiting other =>
    change {future} + hearings = {other} at hears
    rw [Multiset.singleton_add, eq_comm, Multiset.singleton_eq_cons_iff] at hears
    obtain ⟨rfl, rfl⟩ := hears
    exact ⟨rounds, serves, begins, rfl⟩

/-- An accept has ended with a connection, and a protocol is made for it. -/
theorem connect (kept : server.Kept { starts, hearings := {future} + hearings }) (socket : SocketId)
    (peer : Address) :
    (server.endAccept future (.ok (.connection socket peer))).makeProtocol.2.Kept
      { starts := 1 + starts, hearings, owed := some (server.protocolName server.made, socket, peer) } := by
  obtain ⟨rounds, serves, rfl, rfl⟩ := kept.hears
  have number : server.made = rounds.length := serves.made
  refine ⟨rounds, .opening future socket peer, serves.connect socket peer, ?_, fun failed => nomatch failed⟩
  rw [number]
  rfl

/-- An accept has ended without a connection; after a failure the server is to be closed. -/
theorem fail (kept : server.Kept { starts, hearings := {future} + hearings }) {outcome : Outcome}
    (none : connection? outcome = none) (failing : Bool)
    (failed : ∀ error, outcome = .error error → failing = true) :
    (server.endAccept future outcome).Kept { starts, hearings, failing } := by
  obtain ⟨rounds, serves, rfl, rfl⟩ := kept.hears
  refine ⟨rounds, .ended future outcome none, serves.fail none, rfl, fun failure => Or.inr ?_⟩
  cases outcome with
  | ok => cases failure
  | error error => exact failed error rfl

/-- A transport is opened. -/
theorem complete {protocol : String}
    (kept : server.Kept { starts, hearings, owed := some (protocol, socket, peer) })
    {transport : TransportId} (fresh : ∀ {other protocol socket peer},
      .opened other protocol socket peer ∈ server.history → other < transport) :
    (server.note (.opened transport protocol socket peer)).Kept { starts, hearings } := by
  obtain ⟨rounds, stage, serves, same, -⟩ := kept
  obtain ⟨begins, hears, owes, -⟩ := Prospect.mk.inj same
  cases stage with
  | idle | due | waiting | ended => cases owes
  | opening future =>
    cases owes
    obtain rfl : starts = 1 := begins
    obtain rfl : hearings = 0 := hears
    refine ⟨_, .due, serves.complete fun round member => ?_, rfl, fun failed => nomatch failed⟩
    obtain ⟨protocol, happened⟩ := serves.mem_of_round member
    have opened : .opened round.transport protocol round.socket round.peer ∈ round.events protocol := by
      simp [Round.events]
    exact fresh (happened _ opened)

/-- The server stops serving, by which a failure is made up for. -/
theorem stop (kept : server.Kept prospect) (serving : server.serving = true) (failing : Bool) :
    server.stop.Kept { prospect with failing } := by
  obtain ⟨rounds, stage, serves, same, -⟩ := kept
  exact ⟨rounds, stage, serves.stop serving, same, fun _ => Or.inl rfl⟩

/-- Nothing is to be made up for at a server that does not serve any more. -/
theorem stopped (kept : server.Kept prospect) (stopped : server.serving = false) (failing : Bool) :
    server.Kept { prospect with failing } := by
  obtain ⟨rounds, stage, serves, same, -⟩ := kept
  exact ⟨rounds, stage, serves, same, fun _ => Or.inl stopped⟩

/-- Which servers are closed on the occasion of a connection does not matter. -/
theorem setCloses (kept : server.Kept prospect) (closes : List String) :
    { server with closes }.Kept prospect := by
  obtain ⟨rounds, stage, serves, same, failed⟩ := kept
  exact ⟨rounds, stage, { serves with }, same, failed⟩

end Kept

end Server

end EventLoop.Net

import EventLoop.Proofs.Server.Tending
import EventLoop.Proofs.Sync.Queue

/-!
# Accepting and closing

What the callbacks and the instructions about servers do tends them: a server that is closed makes up for
a failure, one that accepts waits for the accept, and one that hears of the end of an accept serves the
connection and accepts again.
-/
namespace EventLoop.World

open Net (Server ServerEvent Prospect)

variable {α β : Type} {gave : FutureId → Outcome → Prop} {held : List Ref} {world : World}
variable {errands : ServerId → Prospect}

namespace Tends

variable {id : ServerId} {errand : Prospect} {server : Server} {future : FutureId}

/-! ## Closing -/

/-- A server stops serving, by which a failure of its accept is made up for. -/
theorem stopped (found : world.servers.get? id = some (some server)) (serving : server.serving = true)
    (within : world.Within (openTo held) 0) :
    Changes (openTo held) tending world (world.stopped id server) ∧
      ∀ (gave : FutureId → Outcome → Prop) (errands : ServerId → Prospect) (errand : Prospect),
        (world.stopped id server).loop.closed = false →
          world.Attended gave (Function.update errands id errand) →
            (world.stopped id server).Attended gave
              (Function.update errands id { errand with failing := false }) := by
  let cancelled : World := { world with
    host := (Host.message .debug ("stop serving " ++ (socketText server.socket world).1) world.host).2
    loop := world.loop.resolveAll server.accepting.toList .cancel }
  have cancels : Changes (openTo held) calm world cancelled := by
    have does : Does (openTo held) 0 calm world (do
        message .debug ("stop serving " ++ (socketText server.socket world).1)
        cancelAll server.accepting.toList) anyhow :=
      Does.bind (Calm.message _ _) fun _ _ _ => Calm.cancelAll fun _ _ => trivial
    have changes := (does within).1
    rw [StateM.bind_apply, cancelAll_eq] at changes
    exact changes
  have done {future : FutureId} (accepting : server.accepting = some future) :
      cancelled.loop.isDone future = true := by
    have listed {other : FutureId} (member : other ∈ server.accepting.toList) :
        other < world.loop.futures.size :=
      (within.servers found other (Option.mem_toList.mp member)).2
    refine Loop.isDone_iff.mpr ?_
    change (world.loop.resolveAll _ _).fate future ≠ .pending
    rw [Loop.fate_resolveAll _ _ _ (by decide) fun other => listed]
    split
    · exact nofun
    · rename_i settled
      exact fun pending => settled ⟨Option.mem_toList.mpr accepting, pending⟩
  have stops : Changes (openTo held) tending cancelled (world.stopped id server) := by
    have sets : Does (openTo held) 0 tending cancelled (World.setServer id server.stop) anyhow :=
      Calm.setServer (fun other member => absurd member (Option.not_mem_none other)) id
    exact (sets (cancels.within within)).1
  refine ⟨(cancels.mono (List.subset_cons_self _ _)).trans stops,
    fun gave errands errand opened attended => ?_⟩
  have calmed := attended.changes cancels isAside_calm opened
  have still : cancelled.servers.get? id = some (some server) := found
  refine calmed.set still (fun kept => kept.stop serving false)
    (fun future _ pending accepting => ?_) fun event member => ?_
  · rw [done accepting] at pending
    cases pending
  · refine (List.mem_append.mp member).imp_right fun last => ?_
    rw [List.mem_singleton.mp last]
    trivial

/-- After a server stopped serving, its socket is closed. -/
theorem shuts (found : world.servers.get? id = some (some server)) (serving : server.serving = true)
    (within : world.Within (openTo held) 0) :
    Changes (openTo held) calm (world.stopped id server) (World.closeServer id world).2 := by
  have stops := (stopped found serving within).1
  rw [closeServer_eq found serving]
  exact (Does.bind (Calm.forgetSocket _) (fun _ _ _ => Calm.closeSocket _) (stops.within within)).1

/-- A server is closed, by which a failure of its accept is made up for. -/
theorem closeServer (id : ServerId) (errand : Prospect) :
    Tends gave held (Function.update errands id errand) world (World.closeServer id)
      fun _ => Function.update errands id { errand with failing := false } := fun within => by
  cases there : (world.servers.get? id).join with
  | none =>
    rw [closeServer_of_gone there]
    refine ⟨.refl, .refl _, fun _ _ has => has, fun _ attended => attended.put fun found => ?_⟩
    rw [found] at there
    cases there
  | some server =>
    have found : world.servers.get? id = some (some server) := Option.join_eq_some_iff.mp there
    by_cases serving : server.serving = true
    · obtain ⟨stops, tended⟩ := stopped found serving within
      have shuts := shuts found serving within
      refine ⟨(Calm.closeServer id within).1, listens_closeServer found serving shuts isAside_calm.1,
        fun other alive has => ?_, fun opened attended => ?_⟩
      · have still : (world.stopped id server).HasServer other := has.modify rfl
        exact shuts.hasServer (stops.within within) alive isAside_calm.1 still
      · have stopped := tended gave errands errand (shuts.grows.loop.opened opened) attended
        exact stopped.changes shuts isAside_calm opened
    · have stopped : server.serving = false := Bool.eq_false_iff.mpr serving
      rw [closeServer_of_stopped found stopped]
      refine ⟨.refl, .refl _, fun _ _ has => has, fun _ attended => attended.put fun here kept => ?_⟩
      rw [found] at here
      cases here
      exact kept.stopped stopped false

/-- Servers are closed by their names when no accept has failed. -/
theorem closeServers (sound : ∀ id, (errands id).failing = false) (names : List String) :
    Tends gave held errands world (World.closeServers names) fun _ => errands := by
  refine forM fun name reached => ?_
  refine following (Calm.named? _ _) fun id? reached => ?_
  cases id? with
  | none => exact pure
  | some id =>
    have closes : Tends gave held (Function.update errands id (errands id)) reached
        (World.closeServer id) _ := closeServer id (errands id)
    have same : { errands id with failing := false } = errands id := by rw [← sound id]
    rw [same, Function.update_eq_self] at closes
    exact closes

/-! ## Accepting -/

/-- An accept was submitted, and the server will hear of it. -/
theorem accepting {submitted : World} {future : FutureId}
    (attended : Attended gave (Function.update errands id { starts := 1 }) submitted)
    (found : submitted.servers.get? id = some (some server)) (serving : server.serving = true)
    (retains : submitted.loop.Retains future) (fresh : .accepting future ∉ server.history)
    (opened : submitted.loop.closed = false) :
    Attended gave (Function.update errands id {}) { submitted with
      servers := submitted.servers.modify id fun _ => some (server.beginAccept future)
      loop := submitted.loop.whenDone future (.accepted id) } := by
  have replies (other : ServerId) : (submitted.loop.whenDone future (.accepted id)).replies
      (Reaction.isHearing other) = submitted.loop.replies (Reaction.isHearing other) +
        if Reaction.isHearing other (.accepted id) then {future} else 0 :=
    Loop.replies_whenDone opened _ _
  have own : Reaction.isHearing id (.accepted id) = true := Reaction.isHearing_iff.mpr rfl
  have waits {other : FutureId} (retains : submitted.loop.Retains other) :
      Loop.Carries other submitted.loop (submitted.loop.whenDone future (.accepted id)) ∧
        (submitted.loop.whenDone future (.accepted id)).Retains other :=
    ⟨.whenDone _ _, retains.grows (.whenDone _ _ _) (retains.holds.whenDone _ _)⟩
  refine attended.tend found (.whenDone _ _ _) (fun other errand differ => ?_) waits
    (fun kept => ?_) (fun other hears => ?_) (fun event member => ?_) (attended.aloof.whenDone _ _)
  · have apart : Reaction.isHearing other (.accepted id) = false := beq_false_of_ne differ.symm
    unfold Prospect.over
    rw [Loop.starts_whenDone, replies, apart, if_neg Bool.false_ne_true, add_zero]
  · have begun := Server.Kept.accept kept serving fresh
    unfold Prospect.over
    rw [Loop.starts_whenDone, replies, own, if_pos rfl, Nat.zero_add, ← add_assoc]
    exact begun
  · -- The server was to hear of no other accept.
    have before := attended.kept found
    rw [Function.update_self] at before
    obtain ⟨rounds, -, -, none⟩ := Server.Kept.begins before
    rw [zero_add] at none
    rw [replies, own, if_pos rfl, none, zero_add, Multiset.mem_singleton] at hears
    subst hears
    obtain ⟨carries, later⟩ := waits retains
    refine ⟨later, fun pending => Loop.reacts_whenDone retains.bound ?_, fun _ => rfl⟩
    by_contra done
    rw [carries.done (Bool.not_eq_false _ ▸ done)] at pending
    cases pending
  · refine (List.mem_append.mp member).imp_right fun last => ?_
    rw [List.mem_singleton.mp last]
    exact (waits retains).2.bound

/-- A server that is to accept submits an accept, unless it does not serve any more. -/
theorem acceptNext (alive : .server id ∈ held) :
    Tends gave held (Function.update errands id { starts := 1 }) world (World.acceptNext id)
      fun _ => Function.update errands id {} := fun within => by
  have fresh : (openTo held).Fresh 0 := fun _ _ => trivial
  have does := (Calm.acceptNext fresh id within).1
  cases there : (world.servers.get? id).join with
  | none =>
    have same : World.acceptNext id world = ((), world) := by
      unfold World.acceptNext
      rw [StateM.bind_apply, server?_apply, there]
      rfl
    rw [same]
    refine ⟨.refl, .refl _, fun _ _ has => has, fun _ attended => attended.put fun found => ?_⟩
    rw [found] at there
    cases there
  | some server =>
    have found : world.servers.get? id = some (some server) := Option.join_eq_some_iff.mp there
    by_cases serving : server.serving = true
    · have submits := (Calm.submit fresh server.socket .accept within).1
      have here := (submits.server within alive isAside_calm.1).trans found
      obtain ⟨next, retains⟩ := retains_submit fresh within server.socket .accept
      generalize submitted : submit server.socket .accept world = result at submits here next retains
      obtain ⟨future, reached⟩ := result
      obtain rfl : future = world.loop.futures.size := next
      have step : (World.acceptNext id world).2 = { reached with
          servers := reached.servers.modify id fun _ =>
            some (server.beginAccept world.loop.futures.size)
          loop := reached.loop.whenDone world.loop.futures.size (.accepted id) } := by
        unfold World.acceptNext
        rw [StateM.bind_apply, server?_apply, there]
        dsimp only
        rw [if_pos serving, StateM.bind_apply, submitted]
        rfl
      rw [step] at does ⊢
      have listens : Listens world reached := .of_changes submits isAside_calm.1
      refine ⟨does, listens.trans (.of_set here rfl (lasts_refl _) (.of_append rfl rfl) (Or.inl rfl)),
        fun other alive has => (submits.hasServer within alive isAside_calm.1 has).modify rfl,
        fun opened attended => ?_⟩
      have stays : reached.loop.closed = false := (Loop.Grows.whenDone _ _ _).opened opened
      refine accepting (attended.changes submits isAside_calm stays) here serving retains
        (fun member => ?_) stays
      exact absurd (attended.vouches found _ member) (Nat.lt_irrefl _)
    · have same : World.acceptNext id world = ((), world) := by
        unfold World.acceptNext
        rw [StateM.bind_apply, server?_apply, there]
        dsimp only
        rw [if_neg serving]
        rfl
      rw [same]
      refine ⟨.refl, .refl _, fun _ _ has => has, fun _ attended => attended.put fun _ kept => ?_⟩
      have rests := Server.Kept.rest kept
      unfold Prospect.over
      rw [Nat.zero_add]
      exact rests

/-- A server hears of the end of an accept. -/
theorem acceptEnded (alive : .server id ∈ held) (sound : ∀ other, (errands other).failing = false)
    (given : gave future (world.loop.resultOf future)) :
    Tends gave held (Function.update errands id { hearings := {future} }) world
      (World.acceptEnded id future) fun _ => Function.update errands id {} := by
  refine lookup (fun gone => finish fun attended => attended.put fun found => ?_) fun server found => ?_
  · rw [found] at gone
    cases gone
  refine read rfl ?_
  rw [StateM.get_apply]
  dsimp only
  generalize world.loop.resultOf future = outcome at given
  have silent (errand : Prospect) (plain : errand.failing = false) (other : ServerId) :
      (Function.update errands id errand other).failing = false := by
    by_cases same : other = id
    · rw [same, Function.update_self]
      exact plain
    · rw [Function.update_of_ne same]
      exact sound other
  cases outcome with
  | ok payload =>
    cases payload with
    | connection socket peer =>
      refine bind (connect found socket peer given) fun _ made => ?_
      refine bind (closeServers (silent _ rfl) _) fun _ shut => ?_
      refine complete _ _ socket peer fun transport opened => ?_
      exact following (Calm.drop _) fun _ _ => acceptNext alive
    | unit | bytes data | value value =>
      exact fail found rfl given false fun _ failed => nomatch failed
  | error error =>
    have closes (reached : World) : Tends gave held (Function.update errands id { failing := true })
        reached (World.closeServer id) fun _ => Function.update errands id {} :=
      closeServer id { failing := true }
    refine bind (fail found rfl given true fun _ _ => rfl) fun _ noted => ?_
    split
    · refine following (Calm.socketText _) fun text _ => ?_
      exact following (Calm.message _ _) fun _ reached => closes reached
    · exact closes noted

/-! ## Beginning to serve -/

/-- A server was added, and it is to begin to accept. -/
theorem summoned (attended : Attended gave (fun _ => {}) world) (opened : world.loop.closed = false)
    (name : String) (socket : SocketId) (script : Script.Protocol) :
    Attended gave (fun _ => {}) { world with
      servers := world.servers.push (some { name, socket, script })
      loop := world.loop.callSoon (.startAccepting world.servers.size) } := by
  let new := world.servers.size
  let loop := world.loop.callSoon (.startAccepting new)
  have vacant : Prospect.over {} world.loop new = {} :=
    attended.absent (by rw [Table.get?_eq_none (Nat.le_refl _)]; rfl)
  have replies (id : ServerId) :
      loop.replies (Reaction.isHearing id) = world.loop.replies (Reaction.isHearing id) :=
    Loop.replies_callSoon world.loop rfl
  have same {id : ServerId} (differ : id ≠ new) :
      Prospect.over {} loop id = Prospect.over {} world.loop id := by
    unfold Prospect.over
    have apart : (Callback.startAccepting new).starts id = false := beq_false_of_ne differ.symm
    rw [Loop.starts_callSoon apart, replies]
  have begins : Prospect.over {} loop new = { starts := 1 } := by
    obtain ⟨none, hears, -⟩ := Prospect.mk.inj vacant
    have starts : loop.starts new = world.loop.starts new + 1 := by
      change (world.loop.callSoon _).starts new = _
      rw [Loop.callSoon_eq, opened]
      unfold Loop.starts
      simp [Callback.starts]
    unfold Prospect.over
    rw [starts, replies, hears, ← Nat.add_assoc, none]
  have elsewhere {id : ServerId} {server : Server} (differ : id ≠ new)
      (found : (world.servers.push (some { name, socket, script })).get? id = some (some server)) :
      world.servers.get? id = some (some server) := by
    rw [Table.get?_push, if_neg differ] at found
    exact found
  have here {server : Server}
      (found : (world.servers.push (some { name, socket, script })).get? new = some (some server)) :
      server = { name, socket, script } := by
    rw [Table.get?_push, if_pos rfl] at found
    cases found
    rfl
  refine ⟨fun {id server} found => ?_, fun {id server} found future hears => ?_,
    fun {id server} found event member => ?_, fun {id} none => ?_, attended.aloof.callSoon _⟩
  · by_cases own : id = new
    · subst own
      rw [here found]
      change Server.Kept _ (Prospect.over {} loop new)
      rw [begins]
      exact ⟨[], .due, .new name socket script, rfl, fun failed => nomatch failed⟩
    · change Server.Kept _ (Prospect.over {} loop id)
      rw [same own]
      exact attended.kept (elsewhere own found)
  · have waits : future ∈ world.loop.replies (Reaction.isHearing id) := replies id ▸ hears
    by_cases own : id = new
    · subst own
      have none := congrArg Prospect.hearings vacant
      change 0 + _ = 0 at none
      rw [zero_add] at none
      rw [none] at waits
      cases waits
    · have awaits := attended.awaits (elsewhere own found) future waits
      exact awaits.carried (.callSoon _) (awaits.retains.grows (.callSoon _ _)
        (awaits.retains.holds.congr (Loop.futures_callSoon _ _)))
  · by_cases own : id = new
    · subst own
      rw [here found] at member
      cases member
    · exact (attended.vouches (elsewhere own found) event member).mono
        (Loop.Grows.callSoon world.loop _).futures (fun line => line) fun gives => gives
  · have own : id ≠ new := by
      rintro rfl
      rw [Table.get?_push, if_pos rfl] at none
      cases none
    rw [Table.get?_push, if_neg own] at none
    change Prospect.over {} loop id = {}
    rw [same own]
    exact attended.absent none

/-- A server is added, which is to begin to accept. -/
theorem startServing (name : String) (socket : SocketId) (script : Script.Protocol) :
    Tends gave held (fun _ => {}) world (World.startServing name socket script) fun _ _ => {} := by
  intro within
  let told : World := (message .debug ("start serving " ++ (socketText socket world).1) world).2
  have tells : Changes (openTo held) calm world told := (Calm.message _ _ within).1
  have opened : (World.startServing name socket script world).2 = { told with
      servers := told.servers.push (some { name, socket, script })
      loop := told.loop.callSoon (.startAccepting told.servers.size) } := rfl
  have does := (Calm.startServing name socket script within).1
  rw [opened] at does ⊢
  refine ⟨does, ⟨lasts_refl _, ?_, fun {id later} below found => ?_⟩, fun id _ has => ?_,
    fun stays attended => ?_⟩
  · exact Nat.le_of_lt (Nat.lt_of_lt_of_eq (Nat.lt_succ_self _) (Table.size_push _ _).symm)
  · have differ : id ≠ told.servers.size := Nat.ne_of_lt below
    rw [Table.get?_push, if_neg differ] at found
    exact ⟨later, found, .refl later, Or.inl rfl⟩
  · obtain ⟨server, found⟩ := has
    have differ : id ≠ told.servers.size := Nat.ne_of_lt (Table.lt_size_of_get? found)
    exact ⟨server, (Table.get?_push _ _ _).trans ((if_neg differ).trans found)⟩
  · have still : told.loop.closed = false := (Loop.Grows.callSoon _ _).opened stays
    exact summoned (attended.changes tells isAside_calm still) still name socket script

/-! ## Instructions -/

/-- Something is done with a named object. -/
theorem onNamed {kind : ObjectClass} {name : String} {action : Nat → WorldM Value}
    (does : ∀ id reached, Tends gave held errands reached (action id) fun _ => errands) :
    Tends gave held errands world (World.onNamed kind name action) fun _ => errands := by
  refine following (Calm.named? kind name) fun id? reached => ?_
  cases id? with
  | none => exact pure
  | some id => exact does id reached

/-- Opening a server tends the servers: a new one is to begin to accept. -/
theorem doOpenServer (name : String) (source : Script.ListenerSource) (script : Script.Protocol) :
    Tends gave held (fun _ => {}) world (World.doOpenServer name source script) fun _ _ => {} := by
  have opens (socket : SocketId) (reached : World) : Tends gave held (fun _ => {}) reached (do
      store .server name (← World.startServing name socket script)
      return Value.ok .null) fun _ _ => {} := by
    refine bind (startServing name socket script) fun _ _ => ?_
    exact following (Calm.store .server name trivial nofun) fun _ _ => pure
  cases source with
  | socket socket => exact onNamed opens
  | address text =>
    refine following (Calm.bindListener _) fun bound reached => ?_
    cases bound with
    | error error => exact pure
    | ok socket => exact opens socket reached

/-- A server is told which servers it closes. -/
theorem setCloses (id : ServerId) (closes : List String) :
    Tends gave held errands world (World.changeServer id fun server => { server with closes })
      fun _ => errands := by
  refine lookup (fun _ => pure) fun server found => ?_
  have sets : Tends gave held (Function.update errands id (errands id)) world
      (World.setServer id { server with closes }) fun _ => Function.update errands id (errands id) :=
    setServer found (fun kept => kept.setCloses closes) (Or.inl rfl) (fun event member => Or.inl member)
      ⟨rfl, List.prefix_refl _⟩ rfl
  rw [Function.update_eq_self] at sets
  exact sets

/-- An instruction on a transport or a server that serves tends the servers. -/
theorem doTransport (protocol : Option String) {instruction : Script.TransportInstruction}
    (serves : instruction.serves = true) :
    Tends gave held (fun _ => {}) world (World.doTransport protocol instruction) fun _ _ => {} := by
  cases instruction with
  | closeServer name =>
    refine onNamed fun id reached => ?_
    have closes : Tends gave held (Function.update (fun _ => {}) id {}) reached (World.closeServer id)
        fun _ => Function.update (fun _ => {}) id {} := closeServer id {}
    rw [Function.update_eq_self] at closes
    exact bind closes fun _ _ => pure
  | closeOnConnection name closes =>
    exact onNamed fun id reached => bind (setCloses id closes) fun _ _ => pure
  | write | close | abort | state | socket | serverState => cases serves

end Tends

/-! ## What closing a server does -/

/-- A server is closed once. -/
structure ClosesServer (world : World) (id : ServerId) (server : Server) : Prop where
  /-- A server that serves stops doing so. -/
  stops : server.serving = true → ∀ later,
    (closeServer id world).2.servers.get? id = some (some later) → later.serving = false
  /-- No operation waits at its socket any more. -/
  idle : server.serving = true → (closeServer id world).2.Idle (world.fdOf server.socket)
  /-- Its socket is closed. -/
  shut : server.serving = true → (closeServer id world).2.isOpen server.socket = false
  /-- A server that stopped before is left alone. -/
  again : server.serving = false → closeServer id world = ((), world)

/-- Servers are closed once in any world within bounds in which operations are submitted. -/
theorem closesServer {id : ServerId} {server : Server} (within : world.Within (openTo held) 0)
    (submitting : world.submitting = true) (found : world.servers.get? id = some (some server)) :
    world.ClosesServer id server := by
  have exist : ∀ future ∈ world.completer.futures, future < world.loop.futures.size :=
    fun future member => (within.completer future member).2
  refine ⟨fun serving later here => ?_, fun serving => idle_closeServer found serving submitting exist,
    fun serving => ?_, closeServer_of_stopped found⟩
  · exact stops_closeServer found (Tends.shuts found serving within) isAside_calm.1 here
  · rw [closeServer_eq found serving]
    exact isOpen_closeSocket server.socket _

end EventLoop.World

import EventLoop.Proofs.Descriptors.Ownership
import EventLoop.Proofs.Machine.Stages
import EventLoop.Proofs.Transport.Traffic

/-!
# Owners of descriptors

In every state of a run each open descriptor has exactly one owner, and whoever closes one owns it. What
makes sockets, servers or the loop itself and fails closes whatever it opened.
-/
namespace EventLoop

open World (Trades Deals Balanced cleared)
open World.Trades (nothing first bind pure returned makeSocket storeSocket store startServing hostPair
  hostSocket)

/-! ## What fails -/

namespace World

variable {α : Type} {takes : Multiset Fd} {world : World}

/-- A step leaves nothing loose and, unless its value shows a success, makes and closes no socket. -/
def clean (world : World) : Value → Multiset Fd → World → Prop := fun value owed reached =>
  owed = 0 ∧ ((∀ shown, value ≠ .ok shown) → reached.sockets = world.sockets)

/-- A step that fails closes what it opened. -/
theorem Balanced.unchanged {step : WorldM Value} (balanced : Balanced 0 world)
    (trades : Trades 0 world step (clean world)) (fails : ∀ shown, (step world).1 ≠ .ok shown) :
    (step world).2.host.kernel.descriptors = world.host.kernel.descriptors := by
  obtain ⟨closings, _, deals, rfl, sockets⟩ := trades 0
  rw [zero_add] at deals
  have after := balanced.deals deals
  have owned : (step world).2.ownedFds = world.ownedFds := by
    unfold ownedFds openFds
    rw [sockets fails, deals.poller?]
  have fds : (step world).2.host.kernel.fds = world.host.kernel.fds := by
    rw [after.balance, balanced.balance, owned]
  have numbers := Multiset.map_injective (fun _ _ same => Int.ofNat.inj same) fds
  exact List.Perm.eq_of_pairwise (fun _ _ _ _ below above => absurd above (Nat.lt_asymm below))
    after.ascending balanced.ascending (Multiset.coe_eq_coe.mp numbers)

namespace Trades

/-- A value that shows a success. -/
theorem clean_ok {shown : Value} {reached : World} : clean world (.ok shown) 0 reached :=
  ⟨rfl, fun fails => absurd rfl (fails shown)⟩

/-- Storing a socket that was made leaves nothing loose, and its world is as clean as before. -/
theorem clean_storeSocket (name : String) (socket : SocketId) {reached : World} :
    Trades 0 reached (World.storeSocket name (.ok socket)) (clean world) :=
  get (first (store _ _ _) fun _ _ => pure clean_ok)

/-- Two connected sockets are made, or nothing is left open. -/
theorem clean_pair (left right : String) :
    Trades 0 world (World.doSocket (.pair left right)) (clean world) := by
  refine bind hostPair.hosts ?_
  rintro result _ reached ⟨rfl, sockets⟩
  cases result with
  | error error => exact pure ⟨rfl, fun _ => sockets⟩
  | ok pair =>
    refine bind (makeSocket pair.1 {pair.2}) ?_
    rintro _ _ _ rfl
    refine bind (makeSocket pair.2 0) ?_
    rintro _ _ _ rfl
    exact first (store _ _ _) fun _ _ => first (store _ _ _) fun _ _ => pure clean_ok

/-- A stream socket is made, or nothing is left open. -/
theorem clean_stream (name : String) (address : Address) :
    Trades 0 world (World.doSocket (.stream name address)) (clean world) := by
  refine bind (hostSocket _).hosts ?_
  rintro result _ reached ⟨rfl, sockets⟩
  cases result with
  | error error => exact pure ⟨rfl, fun _ => sockets⟩
  | ok fd =>
    refine bind (makeSocket fd 0) ?_
    rintro socket _ _ rfl
    exact clean_storeSocket name socket

/-- A listening socket is made, or nothing is left open. -/
theorem clean_listener (name address : String) :
    Trades 0 world (World.doSocket (.listener name address)) (clean world) := by
  refine bind (listenerOrNone _) ?_
  rintro result _ reached ⟨rfl, refused⟩
  cases result with
  | error error => exact pure ⟨rfl, fun _ => refused error rfl⟩
  | ok socket => exact clean_storeSocket name socket

/-- A server is made at an address, or nothing is left open. -/
theorem clean_openServer (name address : String) (script : Script.Protocol) :
    Trades 0 world (World.doOpenServer name (.address address) script) (clean world) := by
  refine bind (listenerOrNone _) ?_
  rintro result _ reached ⟨rfl, refused⟩
  cases result with
  | error error => exact pure ⟨rfl, fun _ => refused error rfl⟩
  | ok socket =>
    exact first (startServing _ _ _) fun _ _ => first (store _ _ _) fun _ _ => pure clean_ok

end Trades

end World

/-! ## Building -/

/-- An engine has a poller. -/
def Completer.HasPoller : Completer → Prop
  | .engine known => ∃ poller, known.poller = some poller
  | .scripted _ => True

namespace Scenario

/-- The loop's own pipe is made, or the poller is closed. -/
theorem buildLoop_eq (world : World) : buildLoop world =
    match World.onHost Host.makePair
      (World.message .debug ("Using proactor: " ++ world.completer.name) world).2 with
    | (.error error, reached) =>
      (.error (.refused (.ofErrno error)), (World.closePoller reached).2)
    | (.ok (readerFd, writerFd), reached) => (.ok (), { reached with
        sockets := (reached.sockets.push readerFd).push writerFd
        pipe := some
          { reader := reached.sockets.size, writer := (reached.sockets.push readerFd).size }
        wakeup := writerFd
        loop := reached.loop.callSoon .readPipe }) := by
  unfold buildLoop World.makePipe
  simp only [StateM.bind_apply, StateM.get_apply]
  generalize World.onHost Host.makePair _ = made
  obtain ⟨error | pair, reached⟩ := made
  · rfl
  · rfl

/-- After the poller was closed nothing but sockets owns a descriptor. -/
theorem closePoller_gone (world : World) : (World.closePoller world).2.poller? = none ∧
    (World.closePoller world).2.sockets = world.sockets ∧
      (World.closePoller world).2.loop = world.loop := by
  rcases world with ⟨host, settings, loop, completer, _⟩
  cases completer with
  | scripted scripted => exact ⟨rfl, rfl, rfl⟩
  | engine engine =>
    obtain ⟨poller?, registrations, limit⟩ := engine
    cases poller? with
    | none => exact ⟨rfl, rfl, rfl⟩
    | some poller => exact ⟨rfl, rfl, rfl⟩

/-- A loop is open, both ends of its own pipe are open, and its engine has a poller. -/
structure Fitted (world : World) : Prop where
  /-- The loop is open. -/
  opened : world.loop.closed = false
  /-- It has a pipe of its own. -/
  pipe : ∃ pipe, world.pipe = some pipe ∧ pipe.reader ≠ pipe.writer ∧
    world.isOpen pipe.reader = true ∧ world.isOpen pipe.writer = true
  /-- Its engine has a poller. -/
  poller : world.completer.HasPoller

/-- Building keeps the balance and closes only what is open. If it succeeds, the loop is fitted; if it
fails, there is no poller and no new socket. -/
theorem balanced_buildLoop {world : World} (balanced : Balanced 0 world)
    (opened : world.loop.closed = false) (polls : world.completer.HasPoller) :
    Balanced 0 (buildLoop world).2 ∧
      (∃ closings, world.host.journal.Closes closings (buildLoop world).2.host.journal) ∧
        match (buildLoop world).1 with
        | .ok _ => Fitted (buildLoop world).2
        | .error _ =>
          (buildLoop world).2.poller? = none ∧ (buildLoop world).2.sockets = world.sockets := by
  rw [buildLoop_eq]
  have tells : Trades 0 world (World.message .debug ("Using proactor: " ++ world.completer.name))
      cleared := World.Trades.message _ _
  obtain ⟨_, _, deals, rfl⟩ := tells 0
  have told := balanced.deals deals
  have journal := balanced.journal deals
  have kept : (World.message .debug ("Using proactor: " ++ world.completer.name) world).2.sockets =
      world.sockets := rfl
  have loop : (World.message .debug ("Using proactor: " ++ world.completer.name) world).2.loop =
      world.loop := rfl
  have completer : (World.message .debug ("Using proactor: " ++ world.completer.name) world).2.completer =
      world.completer := rfl
  generalize (World.message .debug ("Using proactor: " ++ world.completer.name) world).2 = start
    at told kept journal loop completer ⊢
  obtain ⟨_, owed, deals, rfl, same⟩ := (@hostPair start).hosts 0
  have started : Balanced (0 + 0) start := told
  have paired := started.deals deals
  have journal := journal.trans (started.journal deals)
  replace loop : (World.onHost Host.makePair start).2.loop = world.loop := loop
  replace completer : (World.onHost Host.makePair start).2.completer = world.completer := completer
  generalize World.onHost Host.makePair start = made at paired journal same loop completer ⊢
  obtain ⟨error | ⟨reader, writer⟩, reached⟩ := made
  · obtain ⟨none, sockets, -⟩ := closePoller_gone reached
    obtain ⟨_, deals⟩ := Machine.deals_closePoller reached
    have reached : Balanced 0 reached := paired
    exact ⟨reached.deals deals, ⟨_, journal.trans (reached.journal deals)⟩,
      none, (sockets.trans same).trans kept⟩
  · have first : Balanced (reader ::ₘ {writer}) reached := paired
    have adopted : Balanced 0 _ := first.adopts.adopts
    have valid {fd : Fd} (member : fd ∈ reader ::ₘ ({writer} : Multiset Fd)) : 0 ≤ fd := by
      obtain ⟨number, -, rfl⟩ := first.exists_of_mem (Multiset.mem_add.mpr (Or.inl member))
      exact Int.natCast_nonneg number
    refine ⟨⟨adopted.ascending, adopted.balance⟩, ⟨_, journal⟩, ?_, ⟨_, rfl, ?_, ?_, ?_⟩, ?_⟩
    · change (reached.loop.callSoon .readPipe).closed = false
      rw [Loop.callSoon_eq]
      exact (congrArg Loop.closed loop).trans opened
    · rw [Table.size_push]
      exact Nat.ne_of_lt (Nat.lt_succ_self _)
    · change decide (0 ≤ (Table.get? ((reached.sockets.push reader).push writer) reached.sockets.size).getD
        Kernel.closedFd) = true
      rw [Table.get?_push, Table.size_push, if_neg (Nat.ne_of_lt (Nat.lt_succ_self _)), Table.get?_push,
        if_pos rfl]
      exact decide_eq_true (valid (Multiset.mem_cons_self _ _))
    · change decide (0 ≤ (Table.get? ((reached.sockets.push reader).push writer)
        (reached.sockets.push reader).size).getD Kernel.closedFd) = true
      rw [Table.get?_push, if_pos rfl]
      exact decide_eq_true (valid (Multiset.mem_cons_of_mem (Multiset.mem_singleton_self writer)))
    · exact completer ▸ polls

/-- Nothing is open in the beginning. -/
theorem balanced_bare {host : Host} (closed : host.kernel.descriptors = []) (settings : Settings)
    (completer : Completer) (poller : ({ host, settings, completer } : World).poller? = none) :
    Balanced 0 { host, settings, completer } := by
  refine ⟨?_, ?_⟩
  · change host.kernel.descriptors.Pairwise (· < ·)
    rw [closed]
    exact List.Pairwise.nil
  · change host.kernel.fds = _
    rw [Kernel.fds, closed, World.ownedFds, poller]
    rfl

/-- How making what completes operations may go: nothing is open, or a loop owns the poller, if any. -/
def CompleterMade (settings : Settings) (host : Host) : Except BuildError Completer × Host → Prop
  | (.error _, reached) => reached.journal = host.journal ∧ reached.kernel.descriptors = []
  | (.ok completer, reached) => reached.journal = host.journal ∧
    Balanced 0 { host := reached, settings, completer } ∧ completer.HasPoller

/-- A poller is made for the engine, or nothing is open. -/
theorem completerMade (choice : CompleterChoice) (settings : Settings) {host : Host}
    (closed : host.kernel.descriptors = []) :
    CompleterMade settings host (makeCompleter choice settings host) := by
  have engine (limit : Nat) :
      CompleterMade settings host (makeCompleter (.engine limit) settings host) := by
    simp only [makeCompleter, StateM.bind_apply, Host.silent]
    have obtains := Kernel.obtains_makePoller
    cases called : host.kernel.makePoller with
    | mk result kernel =>
      cases result with
      | error error => exact ⟨rfl, (obtains.stays called).descriptors.trans closed⟩
      | ok poller =>
        have bare := balanced_bare closed settings (.scripted {}) rfl
        have opens : host.Opens poller { host with kernel } := ⟨obtains.opens called, .refl _⟩
        have opened := bare.opens opens
        exact ⟨rfl, ⟨opened.ascending, opened.balance⟩, poller, rfl⟩
  cases choice with
  | standard => exact engine settings.maxEvents
  | engine limit => exact engine limit
  | scripted => exact ⟨rfl, balanced_bare closed settings _ rfl, trivial⟩

/-- A loop that was built is fitted and owns the open descriptors, and one that was not built leaves none
open. -/
theorem balanced_build (scenario : Scenario) :
    match scenario.build with
    | (.error _, world) => world.host.kernel.descriptors = [] ∧
      ∃ closings, (Journal.empty scenario.stage.journal).Closes closings world.host.journal
    | (.ok _, world) => Balanced 0 world ∧ Fitted world := by
  unfold build
  cases scenario.configuration.settings with
  | error error => exact ⟨rfl, [], .of_stays (.refl _)⟩
  | ok settings =>
    have made : CompleterMade settings scenario.stage.host _ :=
      completerMade scenario.configuration.completer settings rfl
    dsimp only
    generalize makeCompleter scenario.configuration.completer settings scenario.stage.host = completed
      at made ⊢
    obtain ⟨error | completer, host⟩ := completed
    · obtain ⟨journal, closed⟩ := made
      refine ⟨closed, [], ?_⟩
      rw [show host.journal = Journal.empty scenario.stage.journal from journal]
      exact .of_stays (.refl _)
    · obtain ⟨journal, made, polls⟩ := made
      obtain ⟨balanced, ⟨closings, closes⟩, ends⟩ := balanced_buildLoop made rfl polls
      dsimp only at closes ⊢
      rw [show host.journal = Journal.empty scenario.stage.journal from journal] at closes
      generalize buildLoop { host, settings, completer } = built at balanced closes ends ⊢
      obtain ⟨error | _, world⟩ := built
      · obtain ⟨poller, sockets⟩ := ends
        have none := balanced.balance
        rw [World.ownedFds, World.openFds, poller, sockets] at none
        exact ⟨(Multiset.coe_eq_zero _).mp (Multiset.map_eq_zero.mp none), closings, closes⟩
      · exact ⟨balanced, ends⟩

/-- The builder leaves no descriptor open when it fails, and its close calls succeed. -/
def FailsClosed (scenario : Scenario) : Prop :=
  ∀ {error world}, scenario.build = (.error error, world) →
    world.host.kernel.descriptors = [] ∧
      ∃ closings, (Journal.empty scenario.stage.journal).Closes closings world.host.journal

end Scenario

namespace Machine

variable {machine after : Machine}

/-- What is balanced in a state is balanced at the outset of its step. -/
theorem balanced_outset (balanced : Balanced 0 machine.world) : Balanced 0 machine.outset := by
  rw [outset_eq]
  exact ⟨balanced.ascending, balanced.balance⟩

/-- A loop that was just built is fitted and owns the open descriptors. -/
theorem Initial.fitted (initial : Initial machine) :
    Balanced 0 machine.world ∧ Scenario.Fitted machine.world := by
  obtain ⟨success⟩ := initial
  rename_i scenario world
  have built := scenario.balanced_build
  rw [success] at built
  exact built

/-- In every state of a run the open descriptors are those that have owners. -/
theorem Reachable.balanced (reachable : machine.Reachable) : Balanced 0 machine.world := by
  induction reachable with
  | initial start => exact start.fitted.1
  | step _ step _ ih =>
    obtain ⟨closings, deals⟩ := step.deals
    exact (balanced_outset ih).deals deals

/-- A socket that was given up and that nothing mentions is closed. -/
theorem isOpen_of_released {id : SocketId} {rest : List Ref}
    (dropped : machine.world.loop.dropped = .socket id :: rest)
    (free : World.isMentioned { machine.world with
      held := machine.held, loop := { machine.world.loop with dropped := rest } } (.socket id) = false)
    (moves : machine.next = some after) : after.world.isOpen id = false := by
  unfold next at moves
  rw [dropped] at moves
  cases moves
  let bare : World := { machine.world with
    held := machine.held, loop := { machine.world.loop with dropped := rest } }
  have sockets : (machine.inWorld (World.settleDropped (.socket id) rest)).2.sockets =
      (World.releaseUnmentioned (.socket id) bare).2.sockets := rfl
  change decide (0 ≤ Option.getD (Table.get? (World.sockets _) id) Kernel.closedFd) = false
  rw [sockets]
  by_cases missed : bare.isOpen id = true
  · have both : (bare.isMissed (.socket id) && !bare.isMentioned (.socket id)) = true := by
      rw [free, Bool.not_false, Bool.and_true]
      exact missed
    rw [World.releaseUnmentioned_of_free both rfl]
    exact World.isOpen_closeSocket id _
  · have kept : ¬ (bare.isMissed (.socket id) && !bare.isMentioned (.socket id)) = true :=
      fun both => missed (Bool.and_eq_true_iff.mp both).1
    rw [World.releaseUnmentioned_of_kept kept]
    exact Bool.eq_false_iff.mpr missed

/-! ## Every open descriptor has one owner -/

/-- A step that fails leaves open what was open, and nothing else. -/
def FailsClean (machine : Machine) (step : WorldM Value) : Prop :=
  (∀ shown, (step machine.world).1 ≠ .ok shown) →
    (step machine.world).2.host.kernel.descriptors = machine.world.host.kernel.descriptors

/-- The open descriptors have owners, and only owners close them. -/
structure OwnsDescriptors (machine : Machine) : Prop where
  /-- An open descriptor belongs to exactly one open socket, or to the engine alone. -/
  owned : ∀ number ∈ machine.world.host.kernel.descriptors,
    ∃! owner, machine.world.Owns owner (number : Nat)
  /-- Whatever belongs to a socket or to the engine is open. -/
  opened : ∀ {owner fd}, machine.world.Owns owner fd →
    ∃ number ∈ machine.world.host.kernel.descriptors, fd = (number : Nat)
  /-- A step makes deals in which only owners close, and the close calls that it writes down are those:
  none of them fails. -/
  closes : ∀ {after}, Step machine after → ∃ closings,
    Deals True (0, machine.outset) closings (0, after.world) ∧
      machine.outset.host.journal.Closes closings after.world.host.journal
  /-- A socket that was given up and that nothing mentions any more is closed. -/
  released : ∀ {id rest after}, machine.world.loop.dropped = .socket id :: rest →
    World.isMentioned { machine.world with
      held := machine.held, loop := { machine.world.loop with dropped := rest } } (.socket id) = false →
    machine.next = some after → after.world.isOpen id = false
  /-- Two connected sockets are made, or nothing is left open. -/
  pair : ∀ left right, machine.FailsClean (World.doSocket (.pair left right))
  /-- So it is with a stream socket. -/
  stream : ∀ name address, machine.FailsClean (World.doSocket (.stream name address))
  /-- So it is with a listening socket. -/
  listener : ∀ name address, machine.FailsClean (World.doSocket (.listener name address))
  /-- So it is with a server. -/
  server : ∀ name address script,
    machine.FailsClean (World.doOpenServer name (.address address) script)

/-- In every state of a run each open descriptor has one owner, and a loop that cannot be built leaves no
descriptor open. -/
theorem ownsDescriptors : (∀ {machine : Machine}, machine.Reachable → machine.OwnsDescriptors) ∧
    ∀ scenario : Scenario, scenario.FailsClosed := by
  refine ⟨fun {machine} reachable => ?_, fun scenario error world failed => ?_⟩
  · have balanced := reachable.balanced
    refine ⟨fun number listed => ?_, fun owns => balanced.valid owns, fun step => ?_,
      isOpen_of_released, fun _ _ => balanced.unchanged (.clean_pair _ _),
      fun _ _ => balanced.unchanged (.clean_stream _ _),
      fun _ _ => balanced.unchanged (.clean_listener _ _),
      fun _ _ _ => balanced.unchanged (.clean_openServer _ _ _)⟩
    · obtain ⟨owner, owns⟩ := balanced.open_iff.mp listed
      exact ⟨owner, owns, fun other also => balanced.owner_unique also owns⟩
    · obtain ⟨closings, deals⟩ := step.deals
      exact ⟨closings, deals, (balanced_outset balanced).journal deals⟩
  · have built := scenario.balanced_build
    rw [failed] at built
    exact built

/-- A loop with the engine, on a host where system calls are written down. -/
def traced : Machine :=
  let scenario : Scenario := ⟨{}, { journal := { calls := true } }, []⟩
  ⟨scenario.build.2, [], .answer .null⟩

/-- Of two sockets one was closed, and a third one could not be made because its mode could not be set. -/
def strained : Machine := traced.drive (fun _ => true) 40
  [.socket (.pair "a" "b"), .socket (.close "a"), .system (.fault .mode .badDescriptor 1 none),
    .socket (.stream "c" default)]

/-- Building fails when the second call on the loop's own pipe fails. -/
def refused : Scenario := ⟨{}, { faults := [⟨.mode, .badDescriptor, 1, none⟩] }, []⟩

/-- The poller, the loop's own pipe and the socket that is left are open, and the descriptor that could not
be used was closed. Where building fails nothing is open. -/
theorem ownsDescriptors_strained : (strained.OwnsDescriptors ∧
    strained.world.host.kernel.descriptors = [100, 101, 102, 104] ∧
      strained.world.host.journal.closes.length = 1) ∧
    refused.FailsClosed ∧ refused.build.1.toBool = false :=
  have built : Initial traced := .built (Prod.ext rfl rfl)
  have reachable : strained.Reachable := Visits.reachable (.drive (.initial built rfl) 40 _)
  ⟨⟨ownsDescriptors.1 reachable, by decide +kernel, by decide +kernel⟩, ownsDescriptors.2 refused,
    by decide +kernel⟩

end Machine

end EventLoop

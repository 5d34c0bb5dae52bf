import EventLoop.Proofs.Effect.Step

/-!
# Calm steps

A step is calm if it leaves the primitives, the tasks and the progress of the loop alone, and lets no
time run out. Storing a name, writing something down and releasing an object that is not a task are
calm.
-/
namespace EventLoop.World

variable {α β : Type} {scope : Scope} {n : Nat} {world : World}

/-- The aspects that calm steps change. -/
def calm : List Aspect :=
  [.surroundings, .names, .devices, .futures, .connections, .wakes, .stops]

/-- The aspects that steps change which deal with a transport. -/
def dealing : List Aspect := .traffic :: calm

/-- The aspects that steps change which have to do with a server. -/
def tending : List Aspect := .serving :: calm

/-- The aspects that steps change which ask for something on behalf of another thread. -/
def requiring : List Aspect := .requests :: calm

/-- What is calm may be a part of what asks for something on behalf of another thread. -/
theorem Does.requiring {step : WorldM α} {after : α → World → Prop}
    (does : Does scope n calm world step after) : Does scope n requiring world step after :=
  does.mono (List.subset_cons_self _ _)

/-- What is calm may be a part of what has to do with a server. -/
theorem Does.tending {step : WorldM α} {after : α → World → Prop}
    (does : Does scope n calm world step after) : Does scope n tending world step after :=
  does.mono (List.subset_cons_self _ _)

/-- What is calm may be a part of dealing with a transport. -/
theorem Does.dealing {step : WorldM α} {after : α → World → Prop}
    (does : Does scope n calm world step after) : Does scope n dealing world step after :=
  does.mono (List.subset_cons_self _ _)

/-- What a name stands for goes on to exist. -/
theorem Changes.means {aspects : List Aspect} {before after : World}
    (changes : Changes scope aspects before after) (kind : ObjectClass) {id : Nat}
    (means : before.Means scope kind id) :
    after.Means scope kind id := by
  have kept {aspect : Aspect} {first second : World} (_ : aspect ∈ aspects)
      (change : Change scope aspect first second) (holds : first.Means scope kind id) :
      second.Means scope kind id := change.grows.means holds
  exact changes.preserves kept means

/-- A step keeps what is known about futures. -/
theorem Does.knows {aspects : List Aspect} {step : WorldM α} {after : α → World → Prop}
    {futures : List FutureId} (does : Does scope n aspects world step after)
    (known : ∀ future ∈ futures, world.loop.Knows scope.known future) :
    Does scope n aspects world step fun value reached =>
      after value reached ∧ ∀ future ∈ futures, reached.loop.Knows scope.known future :=
  fun within => ⟨(does within).1, (does within).2, fun future member =>
    (does within).1.means .future (known future member)⟩

/-- A step keeps what a name stands for. -/
theorem Does.means {aspects : List Aspect} {step : WorldM α} {after : α → World → Prop}
    (does : Does scope n aspects world step after) (kind : ObjectClass) {id : Nat}
    (means : world.Means scope kind id) :
    Does scope n aspects world step fun value reached =>
      after value reached ∧ reached.Means scope kind id :=
  fun within => ⟨(does within).1, (does within).2, (does within).1.means kind means⟩

/-! ## Closed sockets -/

/-- What closing a socket does. -/
theorem snd_closeSocket (socket : SocketId) (world : World) : (closeSocket socket world).2 =
    if 0 ≤ world.fdOf socket then { world with
      sockets := world.sockets.modify socket fun _ => Kernel.closedFd
      host := (Host.close (world.fdOf socket) world.host).2 }
    else world := by
  by_cases opened : 0 ≤ world.fdOf socket
  · have step : closeSocket socket world = (do
        modify fun world =>
          { world with sockets := world.sockets.modify socket fun _ => Kernel.closedFd }
        onHost (Host.close (world.fdOf socket)) : WorldM Unit) world :=
      congrFun (if_pos opened) world
    rw [if_pos opened, step]
    rfl
  · have same : closeSocket socket world = ((), world) := congrFun (if_neg opened) world
    rw [if_neg opened, same]

/-- A socket is closed after it was closed. -/
theorem isOpen_closeSocket (socket : SocketId) (world : World) :
    (closeSocket socket world).2.isOpen socket = false := by
  rw [snd_closeSocket]
  split
  · unfold isOpen fdOf
    rw [Table.get?_modify_self]
    cases world.sockets.get? socket with
    | none => rfl
    | some fd => rfl
  · rename_i shut
    exact decide_eq_false shut

namespace Calm

/-! ## The surroundings -/

/-- A step of the host is calm. -/
theorem onHost (step : HostM α) : Does scope n calm world (onHost step) anyhow :=
  fun _ => ⟨.single (by decide) (.surroundings world (step world.host).2 _ _ _), trivial⟩

/-- Writing a line into the journal is calm. -/
theorem record (who what : String) (value : Value) :
    Does scope n calm world (record who what value) anyhow := onHost _

/-- Writing a message is calm. -/
theorem message (level : Level) (text : String) :
    Does scope n calm world (message level text) anyhow := onHost _

/-- Giving references up is calm. -/
theorem drop (ref : Ref) : Does scope n calm world (drop ref) anyhow :=
  Does.changeLoop (by decide) (.dropped world _) trivial

/-- References are given up. -/
theorem dropAll (refs : List Ref) : Does scope n calm world (changeLoop (·.drop refs)) anyhow :=
  Does.changeLoop (by decide) (.dropped world _) trivial

/-- The waker in a cell is woken, if there is one. -/
theorem wakeCell (cell : CellId) :
    Does scope n calm world (changeLoop (·.wakeCell cell)) anyhow := by
  intro within
  refine ⟨?_, trivial⟩
  change Changes scope calm world { world with loop := world.loop.wakeCell cell }
  unfold Loop.wakeCell
  split
  · rename_i waker _
    exact .single (by decide) (.woken world waker)
  · exact .refl

/-- Making a callback ready is calm, if it is about no transport and no server and resolves a known
future at most. -/
theorem callSoon {callback : Callback} (apart : callback.transport? = none)
    (known : ∀ future ∈ callback.resolves?, world.loop.Knows scope.known future)
    (asked : callback.isAsked = true) (aside : callback.server? = none)
    (own : callback.isRemote = false) (lasting : callback.expires? = none) :
    Does scope n calm world (callSoon callback) anyhow :=
  Does.changeLoop (by decide) (.called world callback apart known asked aside own lasting) trivial

/-- Registering a reaction is calm, if it is about no transport and no server. -/
theorem whenDone (future : FutureId) {reaction : Reaction} (apart : reaction.transport? = none)
    (aside : reaction.server? = none) :
    Does scope n calm world (changeLoop (·.whenDone future reaction)) anyhow :=
  Does.changeLoop (by decide) (.registered world future reaction apart aside) trivial

/-! ## Names -/

/-- What is stored under a name exists. -/
theorem named? (kind : ObjectClass) (name : String) :
    Does scope n calm world (named? kind name) fun id? reached =>
      ∀ id ∈ id?, reached.Means scope kind id := by
  refine Does.assuming fun within => Does.get (Does.pure ?_)
  intro id found
  exact within.names (mem_names found)

/-- Forgetting a name is calm. -/
theorem forget (kind : ObjectClass) (name : String) :
    Does scope n calm world (forget kind name) anyhow := by
  unfold World.forget
  refine Does.get ?_
  split
  · exact Does.pure trivial
  · refine Does.through anyhow (Does.set (by decide : Aspect.names ∈ calm) ?_ trivial) ?_
    · refine .names world _ fun member => Or.inl ?_
      exact (List.mem_filter.mp member).1
    · intro _ reached _
      dsimp only
      split
      · exact Does.bind (drop _) fun _ _ _ => Does.pure trivial
      · exact Does.pure trivial

/-- Forgetting a name leaves the timers alone, and neither opens nor closes the loop. -/
theorem timers_forget (kind : ObjectClass) (name : String) (world : World) :
    (World.forget kind name world).2.loop.timers = world.loop.timers ∧
      (World.forget kind name world).2.loop.closed = world.loop.closed := by
  unfold World.forget
  rw [StateM.bind_apply, StateM.get_apply]
  dsimp only
  cases world.names.lookup (kind, name) with
  | none => exact ⟨rfl, rfl⟩
  | some id =>
    dsimp only
    rw [StateM.bind_apply]
    cases refOf kind id with
    | none => exact ⟨rfl, rfl⟩
    | some ref => exact ⟨rfl, rfl⟩

/-- What is stored exists, and a timer that gets a name is not that of a future. -/
theorem store (kind : ObjectClass) {id : Nat} (name : String)
    (means : world.Means scope kind id) (unbound : kind = .timer → world.loop.Unbound id) :
    Does scope n calm world (store kind name id) anyhow := by
  have forgotten : Does scope n calm world (World.forget kind name) fun _ reached =>
      (True ∧ reached.Means scope kind id) ∧ reached.loop.timers = world.loop.timers ∧
        reached.loop.closed = world.loop.closed :=
    ((forget kind name).means kind means).also (timers_forget kind name world)
  refine Does.bind forgotten ?_
  rintro _ reached ⟨⟨-, here⟩, timers, closed⟩
  refine Does.modify (by decide) (.names reached _ ?_) trivial
  intro other name' id' member
  rcases List.mem_cons.mp member with same | old
  · cases same
    refine Or.inr ⟨here, fun timed => ?_⟩
    unfold Loop.Unbound
    rw [timers, closed]
    exact unbound timed
  · exact Or.inl old

/-! ## Sockets -/

/-- Making a socket of a descriptor is calm. -/
theorem makeSocket (fd : Fd) : Does scope n calm world (makeSocket fd) anyhow :=
  Does.assuming fun within => Does.get <| Does.through anyhow
    (Does.set (by decide)
      (.devices world _ _ _ within.completer within.keyed (lasts_push _ fd)) trivial)
    fun _ _ _ => Does.pure trivial

/-- Closing a socket is calm. -/
theorem closeSocket (socket : SocketId) :
    Does scope n calm world (closeSocket socket) anyhow := by
  unfold World.closeSocket
  refine Does.assuming fun within => Does.get ?_
  dsimp only
  split
  · refine Does.through anyhow (Does.modify (by decide)
      (.devices world _ _ _ within.completer within.keyed (lasts_close _ socket)) trivial) ?_
    exact fun _ _ _ => onHost _
  · exact Does.pure trivial

/-! ## Futures -/

/-- Whoever resolves a future, it is resolved afterwards. -/
theorem resolve {future : FutureId} (resolution : Resolution) (known : scope.known future) :
    Does scope n calm world (resolve future resolution) fun _ reached =>
      reached.loop.IsResolved future :=
  Does.onLoop (by decide) (.resolved world future resolution known)
    (Loop.isResolved_resolve world.loop future resolution)

/-- Cancelling futures is calm, if they are known. -/
theorem cancelAll {futures : List FutureId} (known : ∀ future ∈ futures, scope.known future) :
    Does scope n calm world (cancelAll futures) anyhow := by
  refine Does.forM fun future member world => ?_
  exact Does.bind (resolve .cancel (known future member)) fun _ _ _ => Does.pure trivial

/-- Granting callers is calm, if their futures are known. -/
theorem grant {futures : List FutureId} (known : ∀ future ∈ futures, scope.known future) :
    Does scope n calm world (grant futures) anyhow := by
  refine Does.forM fun future member world => ?_
  exact Does.bind (resolve _ (known future member)) fun _ _ _ => Does.pure trivial

/-- A future that is made is the next one, and is pending. -/
theorem makeTimed (kind : FutureKind) (now : Nat) (timeout : Option Nat) :
    Does scope n calm world (onLoop (·.makeTimed kind now timeout)) fun future reached =>
      future = world.loop.futures.size ∧ reached.loop.futures.size = future + 1 ∧
        reached.loop.isDone future = false := by
  have pushed (timer : Option TimerId) : (world.loop.futures.push
      ⟨kind, .pending [] timer⟩).get? world.loop.futures.size = some ⟨kind, .pending [] timer⟩ := by
    rw [Table.get?_push, if_pos rfl]
  refine Does.onLoop (by decide) (.made world kind now timeout) ?_
  dsimp only
  rw [Loop.makeTimed_eq]
  cases timeout with
  | none =>
    refine ⟨rfl, Table.size_push _ _, ?_⟩
    simp only [Loop.isDone, Loop.futureState, pushed]
    rfl
  | some delay =>
    refine ⟨rfl, Table.size_push _ _, ?_⟩
    simp only [Loop.isDone, Loop.futureState, pushed]
    rfl

/-- Making a future is calm, and the future is the next one. -/
theorem makeFuture (kind : FutureKind) :
    Does scope n calm world (onLoop (·.makeFuture kind)) fun future reached =>
      future = world.loop.futures.size ∧ reached.loop.futures.size = future + 1 ∧
        reached.loop.isDone future = false :=
  makeTimed kind 0 none

/-- A future that is awaited is done, or it will wake the task that awaits it. -/
theorem await {waiter : Waiter} {wait : Wait} (tied : world.loop.Tied waiter.waker wait) :
    Does scope n calm world (await waiter wait) fun result reached =>
      (∀ outcome, result = .ok outcome → reached = world ∧
        world.loop.isDone wait.future = true ∧ outcome = world.loop.resultOf wait.future) ∧
      ∀ after, result = .error after →
        after.future = wait.future ∧ reached.loop.Armed waiter.waker after := by
  refine Does.onLoop (by decide) (.awaited world wait waiter.waker tied) ⟨?_, ?_⟩
  · intro outcome finished
    by_cases done : world.loop.isDone wait.future = true
    · unfold Loop.await at finished ⊢
      rw [if_pos done] at finished ⊢
      cases finished
      exact ⟨rfl, done, rfl⟩
    · rw [Bool.not_eq_true] at done
      rw [Loop.await_eq tied done] at finished
      cases given : wait.cell with
      | none => simp only [given] at finished; cases finished
      | some cell => simp only [given] at finished; cases finished
  · exact fun _ goes => Loop.armed_await tied goes

/-! ## Releasing objects -/

/-- What a future keeps alive are sockets, transports and servers. -/
theorem isDevice_of_mem_refs {future : Future} {ref : Ref} (member : ref ∈ future.refs) :
    ref.isDevice = true := by
  have reaction (reaction : Reaction) (listed : ref ∈ reaction.refs) : ref.isDevice = true := by
    cases reaction with
    | script | wake | stopLoop | pipeRead => cases listed
    | received | sent | accepted =>
      rw [List.mem_singleton.mp listed]
      rfl
  unfold Future.refs at member
  split at member
  · obtain ⟨other, -, listed⟩ := List.mem_flatMap.mp member
    exact reaction other listed
  · cases member
  · cases member
  · cases member
  · rename_i payload _
    cases payload with
    | connection =>
      rw [List.mem_singleton.mp member]
      rfl
    | _ => cases member

/-- An object that nothing mentions is not mentioned either when the references that were given up are
disregarded. -/
theorem isMentioned_without_dropped {ref : Ref} (free : world.isMentioned ref = false) :
    ({ world with loop := { world.loop with dropped := [] } } : World).isMentioned ref = false := by
  simp only [isMentioned, isAwaited, Bool.or_eq_false_iff] at free ⊢
  exact ⟨⟨free.1.1, ⟨⟨⟨rfl, free.1.2.1.1.2⟩, free.1.2.1.2⟩, free.1.2.2⟩⟩, free.2⟩

/-- What would be missed would be missed too when the references that were given up are
disregarded. -/
theorem isMissed_without_dropped {ref : Ref} (missed : world.isMissed ref = true) :
    ({ world with loop := { world.loop with dropped := [] } } : World).isMissed ref = true := by
  cases ref <;> exact missed

/-- A future is released; it gives up sockets, transports and servers. -/
theorem releaseFuture {aspects : List Aspect} {future : FutureId}
    (missed : world.isMissed (.future future) = true)
    (free : world.isMentioned (.future future) = false) (empty : world.loop.dropped = [])
    (more : .futures ∈ aspects)
    (deserts : world.loop.IsResolved future ∨ .deserting ∈ aspects) :
    Does scope n aspects world (release (.future future)) fun _ reached =>
      ∀ ref ∈ reached.loop.dropped, ref.isDevice = true := by
  refine Does.get ?_
  split
  · rename_i entry found
    simp only [isMissed, found, Option.any_some] at missed
    have given : ∀ ref ∈ world.loop.dropped ++ entry.refs, ref.isDevice = true := by
      rw [empty]
      exact fun ref listed => isDevice_of_mem_refs listed
    cases done : entry.isDone with
    | true => exact Does.changeLoop more (.emptied world future entry found missed free done) given
    | false =>
      have pending : ¬ world.loop.IsResolved future := fun resolved => by
        rw [resolved entry found] at done
        cases done
      exact Does.changeLoop (deserts.resolve_left pending)
        (.deserted world future entry found missed free done) given
  · refine Does.pure fun ref listed => ?_
    rw [empty] at listed
    cases listed

/-- A socket, a transport or a server is released that nothing mentions. -/
theorem releaseDevice {ref : Ref} (device : ref.isDevice = true)
    (free : world.isMentioned ref = false) : Does scope n calm world (release ref) anyhow := by
  cases ref with
  | socket socket => exact closeSocket socket
  | future | task => cases device
  | transport transport =>
    refine Does.get ?_
    split
    · refine Does.through anyhow (Does.modify (by decide) (.released world transport) trivial) ?_
      exact fun _ reached _ => Does.changeLoop (by decide) (.dropped reached _) trivial
    · exact Does.pure trivial
  | server server =>
    refine Does.get ?_
    split
    · refine Does.through anyhow (Does.modify (by decide) (.retired world server free) trivial) ?_
      exact fun _ reached _ => Does.changeLoop (by decide) (.dropped reached _) trivial
    · exact Does.pure trivial

/-- An object that nothing mentions is released while no other references are given up. -/
theorem releaseUnmentioned {aspects : List Aspect} {ref : Ref} (given : List Ref → Prop)
    (member : .surroundings ∈ aspects) (none : given [])
    (does : ∀ {bare : World},
      bare = { world with loop := { world.loop with dropped := [] } } →
      bare.isMissed ref = true → bare.isMentioned ref = false →
        Does scope n aspects bare (release ref) fun _ reached => given reached.loop.dropped) :
    Does scope n aspects world (releaseUnmentioned ref) fun refs _ => given refs := by
  refine Does.get ?_
  split
  · rename_i free
    rw [Bool.and_eq_true, Bool.not_eq_true'] at free
    refine Does.through (fun _ reached =>
        reached = { world with loop := { world.loop with dropped := [] } })
      (Does.changeLoop member (.dropped world []) rfl) ?_
    rintro _ _ rfl
    refine Does.bind (does rfl (isMissed_without_dropped free.1)
      (isMentioned_without_dropped free.2)) ?_
    intro _ released given
    refine Does.get (Does.through anyhow
      (Does.changeLoop member (.dropped released _) trivial) ?_)
    exact fun _ _ _ => Does.pure given
  · exact Does.pure none

/-- A socket, a transport or a server is released if nothing mentions it. -/
theorem releaseUnmentionedDevice {ref : Ref} (device : ref.isDevice = true) :
    Does scope n calm world (World.releaseUnmentioned ref) anyhow :=
  releaseUnmentioned (fun _ => True) (by decide) trivial fun _ _ free => releaseDevice device free

/-- Something is done while an object is kept alive. -/
theorem keeping {ref : Ref} {action : WorldM α} {after : α → World → Prop}
    (does : Does scope n calm { world with held := ref :: world.held } action after)
    (stable : ∀ value world held, after value world → after value { world with held }) :
    Does scope n calm world (keeping ref action) after := by
  refine Does.assuming fun within => Does.get ?_
  dsimp only
  refine Does.through (fun _ kept => kept = { world with held := ref :: world.held })
    (Does.modify (by decide)
      (.held world _ (List.subset_cons_of_subset ref within.held)) rfl) ?_
  rintro _ _ rfl
  refine Does.bind does fun value reached holds => ?_
  refine Does.through (fun _ => after value) (Does.modify (by decide)
    (.held reached world.held within.held) (stable value reached world.held holds)) ?_
  exact fun _ _ holds => Does.pure holds

/-- An operation lets go of its future, which is resolved. -/
theorem letGo {future : FutureId} (resolved : world.loop.IsResolved future) :
    Does scope n calm world (letGo future) anyhow := by
  refine Does.assuming fun within => ?_
  refine Does.through (fun _ reached => reached.loop = world.loop) (Does.modify (by decide)
    (.devices world _ _ _ within.completer within.keyed (lasts_refl _)) rfl) fun _ forgotten same => ?_
  refine Does.through (fun given _ => ∀ ref ∈ given, ref.isDevice = true)
    (releaseUnmentioned (fun given => ∀ ref ∈ given, ref.isDevice = true) (by decide) ?_ ?_)
    fun given _ devices => ?_
  · exact fun _ listed => nomatch listed
  · rintro _ rfl missed free
    exact releaseFuture missed free rfl (by decide) (Or.inl fun entry found =>
      resolved entry (same ▸ found))
  · exact Does.forM fun ref member world =>
      Does.bind (releaseUnmentionedDevice (devices ref member)) fun refs _ _ => dropAll refs

end Calm

end EventLoop.World

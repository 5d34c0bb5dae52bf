import EventLoop.Proofs.Effect.Waiting
import EventLoop.World.Instructions

/-!
# Instructions that finish at once

An instruction that finishes at once is calm, unless it is about tasks or primitives.
-/
namespace EventLoop

namespace Proactor.Scripted

/-- An operation that is found by its number was submitted. -/
theorem mem_futures_of_byIndex? (scripted : Scripted) {index : Nat} {future : FutureId}
    (found : scripted.byIndex? index = some future) : future ∈ scripted.futures := by
  obtain ⟨submission, present, rfl⟩ := Option.map_eq_some_iff.mp found
  exact List.mem_map.mpr ⟨submission, List.mem_of_getElem? present, rfl⟩

/-- The latest operation of a kind was submitted. -/
theorem mem_futures_of_latest? (scripted : Scripted) {kind : OperationKind} {future : FutureId}
    (found : scripted.latest? kind = some future) : future ∈ scripted.futures := by
  unfold latest? at found
  split at found
  · rename_i submission present
    cases found
    exact List.mem_map.mpr ⟨submission, List.mem_reverse.mp (List.mem_of_find?_eq_some present), rfl⟩
  · exact scripted.mem_futures_of_byIndex? found

end Proactor.Scripted

/-- Whether an instruction writes data to a transport or closes one. -/
def Script.TransportInstruction.deals : Script.TransportInstruction → Bool
  | write .. | close _ | abort _ => true
  | state _ | socket .. | closeServer _ | serverState _ | closeOnConnection .. => false

/-- Whether an instruction closes a server or says what it closes. -/
def Script.TransportInstruction.serves : Script.TransportInstruction → Bool
  | closeServer _ | closeOnConnection .. => true
  | write .. | close _ | abort _ | state _ | socket .. | serverState _ => false

/-- The aspects that change when an instruction on a transport or a server is done. -/
def Script.TransportInstruction.effects (instruction : Script.TransportInstruction) : List Aspect :=
  if instruction.deals then World.dealing
  else if instruction.serves then World.tending else World.calm

/-- Whether an instruction on the loop asks for something on behalf of another thread. -/
def Script.LoopInstruction.requests : Script.LoopInstruction → Bool
  | remoteStop => true
  | stop | stopByHandle | close | giveUp | state | handleState | now | advance _ | cancelTimer _
  | timerState _ | failPoll _ => false

/-- The aspects that change when an instruction on the loop is done. -/
def Script.LoopInstruction.effects (instruction : Script.LoopInstruction) : List Aspect :=
  if instruction.requests then World.requiring else World.calm

namespace World

open Script

variable {α : Type} {scope : Scope} {n : Nat} {world : World}

namespace Instructions

/-- What is done with a named object may rely on the object. -/
theorem withNamed {aspects : List Aspect} (more : calm ⊆ aspects) {kind : ObjectClass}
    {name : String} {action : Nat → WorldM Value}
    (does : ∀ id reached, reached.Means scope kind id →
      Does scope n aspects reached (action id) anyhow) :
    Does scope n aspects world (onNamed kind name action) anyhow := by
  refine Does.bind ((Calm.named? kind name).mono more) fun found reached means => ?_
  split
  · rename_i id
    exact does id reached (means id rfl)
  · exact Does.pure trivial

/-- What is done calmly with a named object may rely on the object. -/
theorem onNamed {kind : ObjectClass} {name : String} {action : Nat → WorldM Value}
    (does : ∀ id reached, reached.Means scope kind id →
      Does scope n calm reached (action id) anyhow) :
    Does scope n calm world (onNamed kind name action) anyhow :=
  withNamed (List.Subset.refl _) does

/-- Showing a timer is calm. -/
theorem timerValue (id : TimerId) : Does scope n calm world (timerValue id) anyhow := by
  refine Does.get ?_
  split
  · exact Does.pure trivial
  · exact Does.pure trivial

/-- An instruction on the loop changes what its effects say. -/
theorem doLoop (instruction : LoopInstruction) :
    Does scope n instruction.effects world (doLoop instruction) anyhow := by
  cases instruction with
  | stop | stopByHandle =>
    exact Does.through anyhow (Does.changeLoop (by decide) (.stopped world) trivial)
      fun _ _ _ => Does.pure trivial
  | close | giveUp => exact Does.pure trivial
  | state | handleState | now => exact Does.get (Does.pure trivial)
  | advance time =>
    exact Does.bind (Calm.onHost _) fun _ _ _ => Does.get (Does.pure trivial)
  | cancelTimer name =>
    change Does scope n calm world _ anyhow
    refine Does.through (fun found reached => ∀ id, found = some id → ((.timer, name), id) ∈ reached.names)
      (Does.get (Does.pure fun _ found => mem_names found)) fun found reached named => ?_
    split
    · rename_i id
      exact Does.through anyhow (Does.changeLoop (by decide)
        (.disarmed reached id ⟨name, named id rfl⟩) trivial) fun _ _ _ => Does.pure trivial
    · exact Does.pure trivial
  | timerState name => exact onNamed fun id _ _ => timerValue id
  | remoteStop =>
    refine Does.through anyhow (Does.changeLoop (by decide)
      (.stopAsked world) trivial) fun _ _ _ => ?_
    exact Does.bind Calm.interrupt.requiring fun _ _ _ => Does.pure trivial
  | failPoll error =>
    refine Does.through anyhow (Does.assuming fun within => Does.modifies ?_ trivial)
      fun _ _ _ => Does.pure trivial
    split
    · rename_i scripted found
      refine .single (by decide : Aspect.devices ∈ calm) (.devices world _ (.scripted { scripted with
        failure := some error }) _ ?_ trivial (lasts_refl _))
      exact fun future member => Calm.known_submissions within found future member
    · exact .refl

/-- Looking up what is supplied for a future is calm. -/
theorem suppliedPayload (kind : FutureKind) (supply : Supply) :
    Does scope n calm world (suppliedPayload kind supply) anyhow := by
  cases kind with
  | unit | bytes | value => exact Does.pure trivial
  | connection => exact Does.bind (Calm.named? _ _) fun _ _ _ => Does.pure trivial

/-- Showing a future is calm. -/
theorem futureValue (id : FutureId) : Does scope n calm world (futureValue id) anyhow := by
  refine Does.get ?_
  dsimp only
  split
  · exact Does.pure trivial
  · exact Does.pure trivial

/-- An instruction on a future is calm. -/
theorem doFuture (fresh : scope.Fresh n) (instruction : FutureInstruction) :
    Does scope n calm world (doFuture instruction) anyhow := by
  cases instruction with
  | make name kind timeout =>
    refine Does.assuming fun within => Does.get (Does.bind (Calm.makeTimed _ _ _) ?_)
    rintro future reached ⟨same, size, -⟩
    refine Does.bind (Calm.store .future name ⟨fresh _ ?_, ?_⟩ nofun) fun _ _ _ => Does.pure trivial
    · rw [same]
      exact within.loop.base
    · rw [size]
      exact Nat.lt_succ_self _
  | sleep name delay =>
    refine Does.get (Does.bind (Calm.makeSleep fresh _ _) fun future reached known => ?_)
    exact Does.bind (Calm.store .future name known nofun) fun _ _ _ => Does.pure trivial
  | setResult name supply =>
    refine onNamed fun id reached means => Does.get ?_
    refine Does.bind (suppliedPayload _ _) fun _ _ _ => ?_
    exact Does.bind (Calm.resolve _ means.1) fun _ _ _ => Does.pure trivial
  | setError name error =>
    refine onNamed fun id reached means => ?_
    exact Does.bind (Calm.resolve _ means.1) fun _ _ _ => Does.pure trivial
  | cancel name =>
    refine onNamed fun id reached means => ?_
    exact Does.bind (Calm.resolve _ means.1) fun _ _ _ => Does.pure trivial
  | state name => exact onNamed fun id _ _ => futureValue id
  | result name =>
    exact onNamed fun id _ _ => Does.get (Does.pure trivial)
  | clone name copy =>
    refine onNamed fun id reached means => ?_
    exact Does.bind (Calm.store .future copy means nofun) fun _ _ _ => Does.pure trivial
  | same name other =>
    refine onNamed fun first _ _ => ?_
    exact onNamed fun second _ _ => Does.pure trivial

/-! ## Devices and connections -/

/-- Storing a socket that was made is calm. -/
theorem storeSocket (name : String) (result : Except IoError SocketId) :
    Does scope n calm world (storeSocket name result) anyhow := by
  cases result with
  | error error => exact Does.pure trivial
  | ok socket =>
    exact Does.get (Does.bind (Calm.store .socket name trivial nofun) fun _ _ _ =>
      Does.pure trivial)

/-- Submitting an operation on a named socket is calm. -/
theorem submitNamed (fresh : scope.Fresh n) (name : String) (subject : Proactor.Subject)
    (future : String) : Does scope n calm world (submitNamed name subject future) anyhow := by
  refine onNamed fun socket _ _ => ?_
  refine Does.bind (Calm.submit fresh _ _) fun id reached known => ?_
  exact Does.bind (Calm.store .future future known nofun) fun _ _ _ => Does.pure trivial

/-- An instruction on a socket is calm. -/
theorem doSocket (fresh : scope.Fresh n) (instruction : SocketInstruction) :
    Does scope n calm world (doSocket instruction) anyhow := by
  cases instruction with
  | pair first second =>
    refine Does.bind (Calm.onHost _) fun _ _ _ => ?_
    split
    · exact Does.pure trivial
    · refine Does.bind (Calm.makeSocket _) fun _ _ _ => ?_
      refine Does.bind (Calm.makeSocket _) fun _ _ _ => ?_
      refine Does.bind (Calm.store .socket _ trivial nofun) fun _ _ _ => ?_
      exact Does.bind (Calm.store .socket _ trivial nofun) fun _ _ _ => Does.pure trivial
  | stream name address =>
    refine Does.bind (Calm.onHost _) fun _ _ _ => ?_
    split
    · exact Does.pure trivial
    · exact Does.bind (Calm.makeSocket _) fun _ _ _ => storeSocket _ _
  | listener name address =>
    exact Does.bind (Calm.bindListener _) fun _ _ _ => storeSocket _ _
  | state name =>
    refine onNamed fun socket _ _ => Does.get ?_
    refine Does.bind (Calm.onHost _) fun _ _ _ => ?_
    refine Does.bind (Calm.onHost _) fun _ _ _ => ?_
    exact Does.bind (Calm.socketText _) fun _ _ _ => Does.pure trivial
  | close name =>
    refine onNamed fun socket _ _ => ?_
    exact Does.bind (Calm.closeSocket _) fun _ _ _ => Does.pure trivial
  | clone name copy =>
    refine onNamed fun socket _ _ => ?_
    exact Does.bind (Calm.store .socket _ trivial nofun) fun _ _ _ => Does.pure trivial
  | receive name limit future => exact submitNamed fresh name _ future
  | send name data future => exact submitNamed fresh name _ future
  | connect name target future =>
    refine Does.bind (Waiting.targetAddress target) fun _ _ _ => ?_
    split
    · exact Does.pure trivial
    · exact submitNamed fresh name _ future
  | accept name future => exact submitNamed fresh name _ future
  | accepted future name =>
    refine onNamed fun id _ _ => Does.get ?_
    split
    · exact storeSocket _ _
    · exact Does.pure trivial
    · exact Does.pure trivial

/-- Doing something with the transport that a script refers to changes what that does for any transport.
-/
theorem onTransport {aspects : List Aspect} (more : calm ⊆ aspects) (protocol : Option String)
    (reference : TransportRef) {action : TransportId → WorldM Value}
    (does : ∀ id reached, Does scope n aspects reached (action id) anyhow) :
    Does scope n aspects world (onTransport protocol reference action) anyhow := by
  unfold World.onTransport
  split
  · exact withNamed more fun id reached _ => does id reached
  · exact Does.pure trivial

/-- Showing a transport is calm. -/
theorem transportValue (id : TransportId) :
    Does scope n calm world (transportValue id) anyhow := by
  refine Does.bind (Calm.transport? id) fun _ _ _ => ?_
  split
  · exact Does.pure trivial
  · exact Does.get (Does.bind (Calm.transportText _ _) fun _ _ _ => Does.pure trivial)

/-- An instruction on a transport or a server changes what its effects say. -/
theorem doTransport (fresh : scope.Fresh n) (protocol : Option String)
    (instruction : TransportInstruction) :
    Does scope n instruction.effects world (doTransport protocol instruction) anyhow := by
  have more : calm ⊆ dealing := List.subset_cons_self _ _
  cases instruction with
  | write reference data =>
    refine onTransport more protocol reference fun id _ => ?_
    exact Does.bind (Calm.write fresh id data) fun _ _ _ => Does.pure trivial
  | close reference =>
    refine onTransport more protocol reference fun id _ => ?_
    exact Does.bind (Calm.advance fresh id fun _ => .close) fun _ _ _ => Does.pure trivial
  | abort reference =>
    refine onTransport more protocol reference fun id _ => ?_
    exact Does.bind (Calm.advance fresh id fun _ => .forceClose none) fun _ _ _ =>
      Does.pure trivial
  | state reference =>
    exact onTransport (List.Subset.refl _) protocol reference fun id _ => transportValue id
  | socket reference name =>
    refine onTransport (List.Subset.refl _) protocol reference fun id _ => ?_
    refine Does.bind (Calm.transport? id) fun _ _ _ => ?_
    split
    · exact Does.bind (Calm.store .socket _ trivial nofun) fun _ _ _ => Does.pure trivial
    · exact Does.pure trivial
  | closeServer name =>
    refine withNamed (List.subset_cons_self _ _) fun id _ _ => ?_
    exact Does.bind (Calm.closeServer id) fun _ _ _ => Does.pure trivial
  | closeOnConnection name closes =>
    refine withNamed (List.subset_cons_self _ _) fun id _ _ => ?_
    exact Does.bind (Calm.changeServer (fun _ => by rfl) id) fun _ _ _ => Does.pure trivial
  | serverState name =>
    refine onNamed fun id _ _ => ?_
    refine Does.bind (Calm.server? id) fun _ _ _ => ?_
    split
    · exact Does.pure trivial
    · exact Does.get (Does.bind (Calm.onHost _) fun _ _ _ => Does.pure trivial)

/-- A call of the kernel past the completer is calm. -/
theorem callKernel {α : Type} (name : String) (shown : α → Value)
    (call : Fd → Kernel → Except Errno α × Kernel) :
    Does scope n calm world (callKernel name shown call) anyhow :=
  onNamed fun _ _ _ =>
    Does.get (Does.bind (Calm.onHost _) fun _ _ _ => Does.pure trivial)

/-- An instruction on what lies below the loop is calm. -/
theorem doSystem (instruction : SystemInstruction) :
    Does scope n calm world (doSystem instruction) anyhow := by
  cases instruction with
  | operations =>
    refine Does.get ?_
    split
    · exact Does.pure trivial
    · exact Does.pure trivial
  | operation choice name =>
    refine Does.assuming fun within => Does.get ?_
    split
    · exact Does.pure trivial
    · rename_i scripted found
      dsimp only
      split
      · rename_i future chosen
        refine Does.bind (Calm.store .future name ?_ nofun) fun _ _ _ => Does.pure trivial
        refine Calm.known_submissions within found future ?_
        cases choice with
        | index index => exact scripted.mem_futures_of_byIndex? chosen
        | latest kind => exact scripted.mem_futures_of_latest? chosen
      · exact Does.pure trivial
  | fault call error times socket =>
    cases socket with
    | none =>
      refine Does.bind (Does.nothing) fun _ _ _ => ?_
      exact Does.bind (Calm.onHost _) fun _ _ _ => Does.pure trivial
    | some name =>
      refine Does.get (Does.bind (Calm.named? _ _) fun _ _ _ => ?_)
      refine Does.bind (Does.nothing) fun _ _ _ => ?_
      exact Does.bind (Calm.onHost _) fun _ _ _ => Does.pure trivial
  | send name data => exact callKernel name _ _
  | receive name limit => exact callKernel name _ _
  | fail name error => exact callKernel name _ _

/-- Forgetting a name or a variable is calm. -/
theorem doDrop (kind : ObjectClass) (name : String) :
    Does scope n calm world (doDrop kind name) anyhow := by
  unfold World.doDrop
  split
  · refine Does.get (Does.through anyhow (Does.modify (by decide)
      (.surroundings world _ _ _ _) trivial) fun _ _ _ => Does.pure trivial)
  · exact Does.bind (Calm.forget _ _) fun _ _ _ => Does.pure trivial

/-- Scheduling a callback for a time is calm. -/
theorem callAt (name : String) (deadline : Nat) (body : Body) :
    Does scope n calm world (callAt name deadline body) anyhow := by
  refine Does.through (fun id reached => reached.loop.Unbound id) (Does.onLoop (by decide)
    (.scheduled world deadline _ rfl (fun future resolved => nomatch resolved) rfl rfl rfl rfl)
      (world.loop.unbound_callAt deadline rfl)) fun _ _ unbound => ?_
  exact Does.bind (Calm.store .timer _ trivial fun _ => unbound) fun _ _ _ => timerValue _

/-- Opening a transport on a named socket is calm. -/
theorem doOpenTransport (name socket : String) (options : TransportOptions) (script : Protocol) :
    Does scope n calm world (doOpenTransport name socket options script) anyhow := by
  refine onNamed fun socket reached _ => ?_
  have opened (waiter : Option FutureId) (reached : World)
      (known : ∀ future ∈ waiter, reached.Means scope .future future) :
      Does scope n calm reached
        (do
          let id ← openTransport socket ⟨name, script⟩ options.peer waiter options.writeOnly
          store .transport name id
          return Value.null) anyhow := by
    refine Does.bind (Calm.openTransport _ _ _ ?_ _) fun id _ _ => ?_
    · exact fun future member => known future (Option.mem_toList.mp member)
    · exact Does.bind (Calm.store .transport _ trivial nofun) fun _ _ _ => Does.pure trivial
  dsimp only
  split
  · exact Does.bind (Calm.named? _ _) fun waiter reached known => opened waiter reached known
  · refine Does.through (fun waiter reached => ∀ future ∈ waiter,
        reached.Means scope .future future) (Does.pure ?_) fun waiter reached known =>
      opened waiter reached known
    exact fun _ member => absurd member (Option.not_mem_none _)

/-- Opening a server changes nothing but the server's part. -/
theorem doOpenServer (name : String) (source : ListenerSource) (script : Protocol) :
    Does scope n tending world (doOpenServer name source script) anyhow := by
  cases source with
  | socket socket =>
    refine withNamed (List.subset_cons_self _ _) fun id _ _ => ?_
    refine Does.bind (Calm.startServing _ _ _) fun _ _ _ => ?_
    exact Does.bind (Calm.store .server _ trivial nofun).tending fun _ _ _ => Does.pure trivial
  | address text =>
    refine Does.bind (Calm.bindListener _).tending fun _ _ _ => ?_
    split
    · exact Does.pure trivial
    · refine Does.bind (Calm.startServing _ _ _) fun _ _ _ => ?_
      exact Does.bind (Calm.store .server _ trivial nofun).tending fun _ _ _ => Does.pure trivial

/-! ## Callbacks -/

/-- Making a callback ready is calm. -/
theorem callSoon (name : String) (body : Body) : Does scope n calm world
    (do World.callSoon (.script (.callback name) body); return Value.null) anyhow :=
  Does.bind (Calm.callSoon rfl (fun _ resolved => nomatch resolved) rfl rfl rfl rfl) fun _ _ _ =>
    Does.pure trivial

/-- Asking for a callback on behalf of another thread is a request. -/
theorem callRemote (name : String) (body : Body) : Does scope n requiring world
    (do
      changeLoop fun loop =>
        { loop with remote := loop.remote ++ [.script (.remote name) body] }
      interrupt
      return Value.null) anyhow := by
  refine Does.through anyhow (Does.changeLoop (by decide)
    (.asked world _ rfl (fun future resolved => nomatch resolved) rfl rfl rfl rfl) trivial) fun _ _ _ => ?_
  exact Does.bind Calm.interrupt.requiring fun _ _ _ => Does.pure trivial

/-- Registering a script with a future is calm. -/
theorem onDone (future name : String) (body : Body) : Does scope n calm world
    (World.onNamed .future future fun id => do
      changeLoop (·.whenDone id (.script name body))
      return .null) anyhow :=
  onNamed fun _ _ _ => Does.bind (Calm.whenDone _ rfl rfl) fun _ _ _ => Does.pure trivial

/-- Registering a script with the result of a task is calm. -/
theorem onTaskDone (task name : String) (body : Body) : Does scope n calm world
    (World.onNamed .task task fun id => do
      if let some entry := (← get).loop.tasks.get? id then
        changeLoop (·.whenDone entry.result (.script name body))
      return .null) anyhow := by
  refine onNamed fun id _ _ => Does.get ?_
  split
  · exact Does.bind (Calm.whenDone _ rfl rfl) fun _ _ _ => Does.pure trivial
  · exact Does.pure trivial

end Instructions

end World

end EventLoop

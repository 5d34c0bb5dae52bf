import EventLoop.Proofs.Descriptors.Deal
import EventLoop.World.Instructions

/-!
# Steps that leave nothing loose

A step that obtains a descriptor gives it to a socket or gives it back, whatever fails. So what a step of
the world does about descriptors is a sequence of deals that begins and ends without loose descriptors.
This is shown here for the host, the primitives and whatever is let go of.
-/
namespace EventLoop

open Proactor (Completion Verdict)

namespace World.Trades

variable {α β : Type} {takes : Multiset Fd} {world : World}

/-! ## The host -/

/-- A step of the host that leaves the descriptors alone. -/
theorem hosted {step : HostM α} (stays : ∀ host : Host, host.Stays (step host).2) :
    Trades 0 world (onHost step) cleared :=
  .still ⟨stays world.host, rfl, rfl, Or.inl rfl, fun still => still⟩ rfl

/-- A step of the host that obtains a descriptor. -/
theorem obtained {step : HostM α} {fd : Fd} {after : α → Multiset Fd → World → Prop}
    (opens : world.host.Opens fd (step world.host).2)
    (holds : after (step world.host).1 (fd ::ₘ takes) { world with host := (step world.host).2 }) :
    Trades takes world (onHost step) after := by
  intro loose
  refine ⟨[], fd ::ₘ takes, .single ?_, holds⟩
  rw [Multiset.cons_add]
  exact .obtained (takes + loose) world opens

/-- A descriptor is given back. -/
theorem returned (fd : Fd) (takes : Multiset Fd) :
    Trades (fd ::ₘ takes) world (onHost (Host.close fd)) fun _ owed _ => owed = takes := by
  intro loose
  refine ⟨[.returned fd], takes, .single ?_, rfl⟩
  rw [Multiset.cons_add]
  exact .returned (takes + loose) world fd

/-- A descriptor is given to a new socket. -/
theorem makeSocket (fd : Fd) (takes : Multiset Fd) :
    Trades (fd ::ₘ takes) world (makeSocket fd) fun _ owed _ => owed = takes := by
  intro loose
  refine ⟨[], takes, .single ?_, rfl⟩
  rw [Multiset.cons_add]
  exact .adopted (takes + loose) world fd

/-- A step of the host leaves the sockets alone. -/
theorem hosts {step : HostM α} {after : α → Multiset Fd → World → Prop}
    (trades : Trades takes world (onHost step) after) :
    Trades takes world (onHost step) fun value owed reached =>
      after value owed reached ∧ reached.sockets = world.sockets := by
  intro loose
  obtain ⟨closings, owed, deals, holds⟩ := trades loose
  exact ⟨closings, owed, deals, holds, rfl⟩

/-- A step of the host that is made of two. -/
theorem ofHost {step : HostM α} {next : α → HostM β} {after : β → Multiset Fd → World → Prop}
    (both : Trades takes world (onHost step >>= fun value => onHost (next value)) after) :
    Trades takes world (onHost (step >>= next)) after := both

/-- Writing a line into the journal leaves no descriptor loose. -/
theorem record (who what : String) (value : Value) :
    Trades 0 world (World.record who what value) cleared :=
  hosted fun host => ⟨.refl _, .record host.journal _ _ _ _⟩

/-- Writing a message leaves no descriptor loose. -/
theorem message (level : Level) (text : String) :
    Trades 0 world (World.message level text) cleared :=
  hosted fun host => ⟨.refl _, .message host.journal _ _ _⟩

/-- The descriptors that a call obtains, unless it fails. -/
def gained {ε : Type} (pick : α → Multiset Fd) : Except ε α → Multiset Fd
  | .ok value => pick value
  | .error _ => 0

/-- A call that obtains a descriptor, unless it fails. -/
theorem obtains {call : Kernel → Except Errno α × Kernel} {pick : α → Fd}
    {step : HostM (Except Errno α)} (obtains : Kernel.Obtains pick call)
    (result : (step world.host).1 = (call world.host.kernel).1)
    (kernel : (step world.host).2.kernel = (call world.host.kernel).2)
    (journal : world.host.journal.Stays (step world.host).2.journal) :
    Trades 0 world (onHost step) fun result owed _ => owed = gained (fun value => {pick value}) result := by
  cases called : call world.host.kernel with
  | mk made after =>
    rw [called] at result kernel
    cases made with
    | error error =>
      have stays : world.host.Stays (step world.host).2 := ⟨kernel ▸ obtains.stays called, journal⟩
      refine still ⟨stays, rfl, rfl, Or.inl rfl, fun still => still⟩ ?_
      change 0 = gained _ (step world.host).1
      rw [result]
      rfl
    | ok value =>
      have opens : world.host.Opens (pick value) (step world.host).2 := by
        refine ⟨?_, journal⟩
        rw [kernel]
        exact obtains.opens called
      refine Trades.obtained opens ?_
      rw [result]
      rfl

/-- Making a descriptor non-blocking leaves no descriptor loose. -/
theorem setNonblocking (fd : Fd) : Trades 0 world (onHost (Host.setNonblocking fd)) cleared := by
  refine ofHost (first (hosted (Host.stays_silent (Kernel.stays_setMode · fd))) fun result _ => ?_)
  cases result with
  | error error => exact aside rfl
  | ok => exact hosted (Host.stays_silent (Kernel.stays_setMode · fd))

/-- A socket is made, or what was obtained is given back. -/
theorem hostSocket (ip : Ip) : Trades 0 world (onHost (Host.makeSocket ip)) fun result owed _ =>
    owed = gained (fun fd => {fd}) result := by
  refine ofHost (bind (obtains (Kernel.obtains_makeSocket ip) rfl rfl (.refl _)) ?_)
  rintro result _ reached rfl
  cases result with
  | error error => exact pure rfl
  | ok fd =>
    refine ofHost (first (setNonblocking fd) fun ready reached => ?_)
    cases ready with
    | ok => exact pure rfl
    | error error => exact ofHost (bind (returned fd 0) fun _ _ _ none => pure none)

/-- Two connected sockets are made, or what was obtained is given back. -/
theorem hostPair : Trades 0 world (onHost Host.makePair) fun result owed _ =>
    owed = gained (fun pair => pair.1 ::ₘ {pair.2}) result := by
  have twice : Trades 0 world (onHost (Host.silent (·.makePair))) fun result owed _ =>
      owed = gained (fun pair => pair.1 ::ₘ {pair.2}) result := by
    intro loose
    cases called : world.host.kernel.makePair with
    | mk made kernel =>
      have run : onHost (Host.silent (·.makePair)) world =
          (made, { world with host := { world.host with kernel } }) := by
        change (world.host.kernel.makePair.1, _) = _
        rw [called]
        change (made, { world with host := { world.host with kernel := world.host.kernel.makePair.2 } }) = _
        rw [called]
      have opens := Kernel.opens_makePair called
      rw [run]
      cases made with
      | error error =>
        exact ⟨[], 0, .single (.still _ ⟨⟨opens, .refl _⟩, rfl, rfl, Or.inl rfl, id⟩), rfl⟩
      | ok pair =>
        obtain ⟨left, right⟩ := pair
        obtain ⟨middle, first, second⟩ := opens
        have one : world.host.Opens left { world.host with kernel := middle } := ⟨first, .refl _⟩
        have other : Host.Opens { world.host with kernel := middle } right
          { world.host with kernel } := ⟨second, .refl _⟩
        have deals : Deals False (loose, world) ([] ++ []) (right ::ₘ left ::ₘ loose,
            { world with host := { world.host with kernel } }) :=
          .tail (.single (.obtained loose world one)) (.obtained (left ::ₘ loose) _ other)
        rw [Multiset.cons_swap] at deals
        refine ⟨[] ++ [], left ::ₘ {right}, ?_, rfl⟩
        rw [zero_add, Multiset.cons_add, Multiset.singleton_add]
        exact deals
  refine ofHost (bind twice ?_)
  rintro result _ reached rfl
  cases result with
  | error error => exact pure rfl
  | ok pair =>
    obtain ⟨left, right⟩ := pair
    have close (error : Errno) (world : World) : Trades (left ::ₘ {right}) world
        (onHost (do Host.close left; Host.close right; return Except.error error))
          fun result owed _ => owed = gained (fun pair : Fd × Fd => pair.1 ::ₘ {pair.2}) result := by
      refine ofHost (bind (returned left _) ?_)
      rintro _ _ _ rfl
      exact ofHost (bind (returned right 0) fun _ _ _ none => pure none)
    refine ofHost (first (setNonblocking left) fun ready reached => ?_)
    cases ready with
    | error error => exact close error reached
    | ok =>
      refine ofHost (first (setNonblocking right) fun ready reached => ?_)
      cases ready with
      | error error => exact close error reached
      | ok => exact pure rfl

/-- A connection is accepted; one without an internet address is closed again. -/
theorem hostAccept (fd : Fd) : Trades 0 world (onHost (Host.accept fd)) fun result owed _ =>
    owed = gained (fun accepted => {accepted.1}) result := by
  refine ofHost (bind (obtains (Kernel.obtains_accept fd) rfl rfl (.call _ _ _ _ (by decide))) ?_)
  rintro result _ reached rfl
  cases result with
  | error error => exact pure rfl
  | ok accepted =>
    obtain ⟨connection, address?⟩ := accepted
    cases address? with
    | some address => exact pure rfl
    | none => exact ofHost (bind (returned connection 0) fun _ _ _ none => pure none)

/-! ## What waits in the loop, names and sockets -/

/-- A transition of the loop. -/
theorem onLoop (transition : Loop → α × Loop) : Trades 0 world (World.onLoop transition) cleared :=
  aside rfl

/-- A transition of the loop has nothing to do with descriptors. -/
theorem changeLoop (transition : Loop → Loop) :
    Trades 0 world (World.changeLoop transition) cleared := aside rfl

/-- Resolving a future leaves no descriptor loose. -/
theorem resolve (future : FutureId) (resolution : Resolution) :
    Trades 0 world (World.resolve future resolution) cleared := aside rfl

/-- Granting callers leaves no descriptor loose. -/
theorem grant (futures : List FutureId) : Trades 0 world (World.grant futures) cleared :=
  forM fun future _ => first (resolve future _) fun _ _ => nothing

/-- Cancelling futures leaves no descriptor loose. -/
theorem cancelAll (futures : List FutureId) : Trades 0 world (World.cancelAll futures) cleared :=
  forM fun future _ => first (resolve future _) fun _ _ => nothing

/-- Looking a name up leaves no descriptor loose. -/
theorem named? (kind : ObjectClass) (name : String) :
    Trades 0 world (World.named? kind name) cleared := aside rfl

/-- Forgetting a name leaves no descriptor loose. -/
theorem forget (kind : ObjectClass) (name : String) :
    Trades 0 world (World.forget kind name) cleared := by
  unfold World.forget
  refine get ?_
  split
  · exact nothing
  · refine first (aside rfl) fun _ reached => ?_
    split
    · exact first (changeLoop _) fun _ _ => nothing
    · exact nothing

/-- Storing an object under a name leaves no descriptor loose. -/
theorem store (kind : ObjectClass) (name : String) (id : Nat) :
    Trades 0 world (World.store kind name id) cleared :=
  first (forget kind name) fun _ _ => aside rfl

/-- A socket that is open is closed. -/
theorem closeSocket (socket : SocketId) : Trades 0 world (World.closeSocket socket) cleared := by
  unfold World.closeSocket
  refine get ?_
  dsimp only
  split
  · rename_i opened
    intro loose
    refine ⟨_, 0, .single (.closed _ world socket (decide_eq_true opened)), rfl⟩
  · exact nothing

/-! ## Primitives -/

/-- Releasing a lock leaves no descriptor loose. -/
theorem releaseLock (id : LockId) : Trades 0 world (World.releaseLock id) cleared := by
  refine first (aside rfl) fun lock _ => get ?_
  split
  · exact nothing
  · exact first (aside rfl) fun _ _ => first (grant _) fun _ _ => nothing

/-- Giving a permit back leaves no descriptor loose. -/
theorem releaseSemaphore (id : SemaphoreId) :
    Trades 0 world (World.releaseSemaphore id) cleared := by
  refine first (aside rfl) fun semaphore _ => get ?_
  split
  · exact nothing
  · exact first (aside rfl) fun _ _ => first (grant _) fun _ _ => nothing

/-- Setting an event leaves no descriptor loose. -/
theorem raiseEvent (id : EventId) : Trades 0 world (World.raiseEvent id) cleared :=
  first (aside rfl) fun _ _ => get (first (aside rfl) fun _ _ => grant _)

/-- Notifying callers leaves no descriptor loose, whether or not it is refused. -/
theorem notify (id : ConditionId) (count : Option Nat) :
    Trades 0 world (World.notify id count) cleared := by
  refine first (aside rfl) fun condition _ => first (aside rfl) fun locked _ => get ?_
  dsimp only
  split
  · exact nothing
  · exact first (aside rfl) fun _ _ => first (grant _) fun _ _ => nothing

/-- Giving up what a guard holds leaves no descriptor loose. -/
theorem releaseGuard (guard : Guard) : Trades 0 world (World.releaseGuard guard) cleared := by
  cases guard with
  | lock id => exact first (releaseLock id) fun _ _ => nothing
  | semaphore id => exact first (releaseSemaphore id) fun _ _ => nothing

/-- Reading the queue of a gate leaves no descriptor loose. -/
theorem queueAt (gate : Gate) : Trades 0 world (World.queueAt gate) cleared := by
  cases gate with
  | lock | semaphore | event | condition => exact aside rfl

/-- Changing the queue of a gate leaves no descriptor loose. -/
theorem setQueue (gate : Gate) (waiters : Sync.WaiterQueue) :
    Trades 0 world (World.setQueue gate waiters) cleared := by
  cases gate with
  | lock | semaphore | event | condition => exact aside rfl

/-- Parking a caller leaves no descriptor loose. -/
theorem park (gate : Gate) (timeout : Option Nat) : Trades 0 world (World.park gate timeout) cleared :=
  first (aside rfl) fun _ _ => first (onLoop _) fun _ _ => first (queueAt gate) fun _ _ =>
    first (setQueue gate _) fun _ _ => nothing

/-- Removing a caller from its queue leaves no descriptor loose. -/
theorem settlePlace (gate : Gate) (future : FutureId) :
    Trades 0 world (World.settlePlace gate future) cleared :=
  first (queueAt gate) fun _ _ => setQueue gate _

/-- Giving up the place of a caller that is gone leaves no descriptor loose. -/
theorem abandonPlace (gate : Gate) (future : FutureId) :
    Trades 0 world (World.abandonPlace gate future) cleared := by
  refine first (queueAt gate) fun queue _ => get (first (setQueue gate _) fun _ _ => ?_)
  split
  · exact grant _
  · exact cancelAll _

/-- Taking a turn leaves no descriptor loose. -/
theorem takeTurn (gate : Gate) : Trades 0 world (World.takeTurn gate) cleared := by
  cases gate with
  | lock | semaphore | event | condition => exact aside rfl

/-- Asking whether a gate is open leaves no descriptor loose. -/
theorem isOpenGate (gate : Gate) : Trades 0 world (World.isOpenGate gate) cleared := by
  cases gate with
  | lock | semaphore | event | condition => exact aside rfl

/-- Giving up a part of a program leaves no descriptor loose: a socket among the parts is given up as a
reference only. -/
theorem abandonPart (part : Script.Part) : Trades 0 world (World.abandonPart part) cleared := by
  cases part with
  | place gate future => exact first (abandonPlace gate future) fun _ _ => changeLoop _
  | guard guard => exact releaseGuard guard
  | future | socket | transport => exact changeLoop _

/-- Giving up a suspended program leaves no descriptor loose. -/
theorem abandon (activity : Script.Activity) : Trades 0 world (World.abandon activity) cleared :=
  forM fun part _ => abandonPart part

/-- Writing down that a task has ended leaves no descriptor loose. -/
theorem recordEnd (task : String) : Trades 0 world (World.recordEnd task) cleared := by
  unfold World.recordEnd
  refine get ?_
  split
  · exact record _ _ _
  · exact nothing

/-- Giving up the program of a task leaves no descriptor loose. -/
theorem abandonProgram (task : String) (activity : Script.Activity) :
    Trades 0 world (World.abandonProgram task activity) cleared :=
  first (recordEnd task) fun _ _ => abandon activity

/-! ## Letting go -/

/-- Releasing an object leaves no descriptor loose; the descriptor of a socket is closed with it. -/
theorem release (ref : Ref) : Trades 0 world (World.release ref) cleared := by
  cases ref with
  | socket id => exact closeSocket id
  | future id =>
    refine get ?_
    split
    · exact changeLoop _
    · exact nothing
  | task id =>
    refine get ?_
    split
    · refine first (changeLoop _) fun _ _ => ?_
      split
      · exact first (abandonProgram _ _) fun _ _ => changeLoop _
      · exact changeLoop _
    · exact nothing
  | transport id | server id =>
    refine get ?_
    split
    · exact first (aside rfl) fun _ _ => changeLoop _
    · exact nothing

/-- Releasing an object that nothing mentions leaves no descriptor loose, and neither does keeping it
because it is mentioned. -/
theorem releaseUnmentioned (ref : Ref) :
    Trades 0 world (World.releaseUnmentioned ref) cleared := by
  refine get ?_
  split
  · exact first (changeLoop _) fun _ _ => first (release ref) fun _ _ =>
      get (first (changeLoop _) fun _ _ => nothing)
  · exact nothing

/-- Settling a reference that was given up leaves no descriptor loose, since the object gives up
references and not descriptors. -/
theorem settleDropped (ref : Ref) (rest : List Ref) :
    Trades 0 world (World.settleDropped ref rest) cleared :=
  first (changeLoop _) fun _ _ => first (releaseUnmentioned ref) fun _ _ => changeLoop _

/-- What leaves nothing loose does so while an object is kept alive, too. -/
theorem keeping {ref : Ref} {action : WorldM α}
    (trades : Trades 0 { world with held := ref :: world.held } action cleared) :
    Trades 0 world (World.keeping ref action) cleared :=
  get (thence (aside rfl) (first trades fun _ _ => first (aside rfl) fun _ _ => nothing))

/-- Letting go of a future leaves no descriptor loose. -/
theorem letGo (future : FutureId) : Trades 0 world (World.letGo future) cleared :=
  first (aside rfl) fun _ _ => first (releaseUnmentioned _) fun _ _ =>
    forM fun ref _ => first (releaseUnmentioned ref) fun _ _ => changeLoop _

/-! ## The engine's system -/

/-- The descriptor that an operation obtained. -/
def completed : Completion → Multiset Fd
  | .accepted fd _ => {fd}
  | .received _ | .sent | .connected => 0

/-- The descriptor that comes with the end of an operation. -/
def ended : Verdict → Multiset Fd
  | .over outcome => gained completed outcome
  | .cancelled | .abandoned => 0

/-- A completion that brings a descriptor has its payload made of a socket for it. -/
theorem payloadOf (completion : Completion) :
    Trades (completed completion) world (World.payloadOf completion) cleared := by
  cases completion with
  | received | sent | connected => exact nothing
  | accepted fd peer => exact bind (makeSocket fd 0) fun _ _ _ none => pure none

/-- A connection that was accepted gets a socket. -/
theorem settle (future : FutureId) (verdict : Verdict) :
    Trades (ended verdict) world (World.settle future verdict) cleared := by
  rcases verdict with outcome | _ | _
  · cases outcome with
    | ok completion =>
      refine bind (payloadOf completion) ?_
      rintro payload _ reached rfl
      exact first (resolve future _) fun _ _ => letGo future
    | error error => exact first (resolve future _) fun _ _ => letGo future
  · exact first (cancelAll _) fun _ _ => letGo future
  · exact letGo future

end World.Trades

end EventLoop

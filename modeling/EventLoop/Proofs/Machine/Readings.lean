import EventLoop.Proofs.Machine.Dealings
import EventLoop.Proofs.Transport.Intake

/-!
# Transports that read

What an active transport is about to do to read can be told from a state: a callback is called that begins
to read or that says that a receive has ended, or the protocol has just been handed data. In each step of a
run a transport reads just that. So what its protocol is told of what arrived are the results of its
receives, and it submits the next one as soon as its protocol was handed data.
-/
namespace EventLoop

open Net (Transport ReadStep Arrival)
open World (Receives Following calm)

namespace Machine

variable {machine after : Machine} {id other : TransportId} {transport : Transport}
variable {future : FutureId}

/-! ## What is about to be read -/

/-- What the state asks a transport to do to read. -/
def asks? (machine : Machine) (id : TransportId) : Option ReadStep :=
  match machine.world.loop.dropped, machine.signal, machine.frames with
  | [], .call (.startReading other), _ => if other = id then some .begins else none
  | [], .call (.done future (.received other)), _ =>
    if other = id then some (.ends future (World.dataOf (machine.world.loop.resultOf future))) else none
  | [], .proceed, .afterData other :: _ => if other = id then some .resumes else none
  | _, _, _ => none

/-- What an active transport is about to do to read. -/
def readStep? (machine : Machine) (id : TransportId) : Option ReadStep :=
  (machine.world.transports.get? id).join.bind fun transport =>
    if transport.isActive then machine.asks? id else none

/-- How often the protocol of a transport is being handed data. -/
def handing (machine : Machine) (id : TransportId) : Nat := machine.frames.countP (·.isAfterData id)

/-- Only an active transport reads. -/
theorem readStep?_eq_some {step : ReadStep} : machine.readStep? id = some step ↔
    ∃ transport, machine.world.transports.get? id = some (some transport) ∧
      transport.isActive = true ∧ machine.asks? id = some step := by
  unfold readStep?
  rw [Option.bind_eq_some_iff]
  refine exists_congr fun transport => and_congr Option.join_eq_some_iff ?_
  cases transport.isActive with
  | true => exact ⟨fun asks => ⟨rfl, asks⟩, And.right⟩
  | false => exact ⟨nofun, fun both => (nomatch both.1)⟩

/-- What an active transport is asked to read is read, and nothing otherwise. -/
theorem readStep?_of_found (found : machine.world.transports.get? id = some (some transport)) :
    machine.readStep? id = if transport.isActive then machine.asks? id else none := by
  have joined : (machine.world.transports.get? id).join = some transport := by rw [found]; rfl
  unfold readStep?
  rw [joined]
  rfl

/-- A transport that reads in the next step exists. -/
theorem lt_size_of_readStep? : ∀ step, machine.readStep? id = some step →
    id < machine.world.transports.size := fun _ reads => by
  obtain ⟨transport, found, -⟩ := readStep?_eq_some.mp reads
  exact Table.lt_size_of_get? found

/-- A transport that is asked for nothing reads nothing. -/
theorem readStep?_of_idle (idle : machine.asks? id = none) : machine.readStep? id = none := by
  refine Option.eq_none_iff_forall_ne_some.mpr fun step reads => ?_
  obtain ⟨-, -, -, asks⟩ := readStep?_eq_some.mp reads
  rw [idle] at asks
  cases asks

/-- Whoever begins to read is asked to. -/
theorem asks?_startReading (clean : machine.world.loop.dropped = [])
    (called : machine.signal = .call (.startReading other)) :
    machine.asks? id = if other = id then some .begins else none := by
  unfold asks?
  rw [clean, called]

/-- A receive has ended. -/
theorem asks?_received (clean : machine.world.loop.dropped = [])
    (called : machine.signal = .call (.done future (.received other))) :
    machine.asks? id = if other = id then
      some (.ends future (World.dataOf (machine.world.loop.resultOf future))) else none := by
  unfold asks?
  rw [clean, called]

/-- A protocol was handed data. -/
theorem asks?_afterData {below : List Frame} (clean : machine.world.loop.dropped = [])
    (proceeds : machine.signal = .proceed) (split : machine.frames = .afterData other :: below) :
    machine.asks? id = if other = id then some .resumes else none := by
  unfold asks?
  rw [clean, proceeds, split]

/-- When a transport is asked to read. -/
theorem asks?_eq_some {now : ReadStep} (asks : machine.asks? id = some now) :
    now = .begins ∧ machine.signal = .call (.startReading id) ∨
    (∃ future, now = .ends future (World.dataOf (machine.world.loop.resultOf future)) ∧
      machine.signal = .call (.done future (.received id))) ∨
    now = .resumes ∧ machine.signal = .proceed ∧ ∃ below, machine.frames = .afterData id :: below := by
  unfold asks? at asks
  split at asks
  · rename_i other _ called
    split at asks
    · rename_i same
      cases asks
      exact Or.inl ⟨rfl, same ▸ called⟩
    · cases asks
  · rename_i future other _ called
    split at asks
    · rename_i same
      cases asks
      exact Or.inr (Or.inl ⟨future, rfl, same ▸ called⟩)
    · cases asks
  · rename_i other below _ proceeds split
    split at asks
    · rename_i same
      cases asks
      exact Or.inr (Or.inr ⟨rfl, proceeds, below, same ▸ split⟩)
    · cases asks
  · cases asks

/-- A state that asks nothing of any transport has none read. -/
theorem asks?_of_detached (aside : machine.IsDetached) : machine.asks? id = none := by
  refine Option.eq_none_iff_forall_ne_some.mpr fun now asks => ?_
  cases dropped : machine.world.loop.dropped with
  | cons =>
    unfold asks? at asks
    rw [dropped] at asks
    cases asks
  | nil =>
    obtain ⟨apart, handed⟩ := aside dropped
    rcases asks?_eq_some asks with ⟨-, called⟩ | ⟨future, -, called⟩ | ⟨-, proceeds, below, split⟩
    · cases apart _ called
    · cases apart _ called
    · exact handed proceeds _ _ split

end Machine

/-! ## What is read when a receive has ended -/

namespace World

variable {world : World} {held : List Ref} {id other : TransportId} {future : FutureId}
variable {transport : Transport} {step? : Option ReadStep}

/-- No receive is submitted when one has ended. -/
theorem receiveEnded_aside (transport : Transport) (outcome : Except Error Bytes) :
    ∀ effect ∈ (transport.receiveEnded outcome).2.1, effect.isReceive = false := by
  rcases Transport.Drifts.receiveEnded transport outcome with
    ⟨effects, after, ended, drifts⟩ | ⟨-, arrival, -, ended⟩
  · rw [ended]
    exact fun effect member => eq_false_of_ne_true (List.countP_eq_zero.mp drifts.receives effect member)
  · rw [ended]
    exact fun _ member => absurd member List.not_mem_nil

/-- There is nothing to tell the protocol when a receive has ended. -/
theorem Receives.endedQuietly (nothing : (World.receiveEnded other future world).1 = .nothing)
    (known : ∀ step, step? = some step → id < world.transports.size)
    (reads : id = other → ∀ transport, world.transports.get? id = some (some transport) →
      transport.Reads step? (transport.receiveEnded (dataOf (world.loop.resultOf future))).2.2)
    (apart : id ≠ other → step? = none) :
    Receives held step? id world (Machine.react future (.received other)) := by
  have ended : Receives held step? id world (World.receiveEnded other future) :=
    .read rfl (.transition (fun _ => .receiveEnded _) known reads
      (fun _ transport _ effect member => .applied (receiveEnded_aside transport _ effect member)) apart)
  exact Following.congr (Machine.react_of_nothing nothing) (.andThen ended fun _ _ => .pure)

/-- A protocol that is handed a notice reads nothing. -/
theorem Receives.handTo (notice : Net.Notice) (listener? : Option Net.Listener) :
    Receives held none id world (Machine.handTo other notice listener?) := by
  cases listener? with
  | none => exact .pure
  | some listener =>
    refine .bind ?_ fun _ _ => .pure
    cases heeds : listener.heeds notice with
    | false =>
      rw [listener.heed_of_not_heeds heeds]
      exact .pure
    | true =>
      rw [listener.heed_of_heeds heeds]
      refine .bind (.calmly (Calm.record _ _ _)) fun _ _ => ?_
      cases notice with
      | made => exact .calmly (Calm.store .transport _ trivial ObjectClass.noConfusion)
      | data bytes =>
        unfold Net.Listener.prepare
        dsimp only
        split
        · exact echo listener.name bytes
        · exact .pure
      | endOfStream | lost => exact .pure

/-- A receive has brought something, and the protocol is told of it. -/
theorem Receives.receivedTold {arrival : Arrival} {notice : Net.Notice}
    (there : world.transports.get? other = some (some transport))
    (ended : transport.receiveEnded (dataOf (world.loop.resultOf future)) =
      (arrival, [], { transport with reading := none })) (tells : arrival.notice? = some notice)
    (result : (World.receiveEnded other future world).1 = arrival)
    (reads : id = other → transport.Reads step? (arrival.told { transport with reading := none }))
    (apart : id ≠ other → step? = none) :
    Receives held step? id world (Machine.react future (.received other)) :=
  Following.congr (Machine.react_of_notice (result ▸ tells))
    (.andThen (.told there ended (Arrival.told_of_notice tells) reads apart) fun listener? _ =>
      handTo notice listener?)

/-- A receive has ended, and the protocol of an active transport is told of what arrived. -/
theorem Receives.received
    (listens : ∀ transport, world.transports.get? other = some (some transport) →
      transport.isActive = true → transport.protocol.isSome = true)
    (known : ∀ step, step? = some step → id < world.transports.size)
    (active : id = other → ∀ transport, world.transports.get? id = some (some transport) →
      step? = if transport.isActive then some (.ends future (dataOf (world.loop.resultOf future)))
        else none) (apart : id ≠ other → step? = none) :
    Receives held step? id world (Machine.react future (.received other)) := by
  have result := fst_receiveEnded other future world
  cases found : (world.transports.get? other).join with
  | none =>
    rw [found] at result
    refine endedQuietly result known (fun same transport there => ?_) apart
    rw [← same, there] at found
    cases found
  | some transport =>
    have there := Option.join_eq_some_iff.mp found
    rw [found, Option.elim_some] at result
    cases reading : transport.isActive with
    | false =>
      obtain ⟨nothing, reads⟩ :=
        Transport.Reads.receiveEnded_inactive reading (dataOf (world.loop.resultOf future))
      refine endedQuietly (result.trans nothing) known (fun same other here => ?_) apart
      subst same
      cases there.symm.trans here
      rw [active rfl transport there, reading]
      exact reads
    | true =>
      have reads := Transport.Reads.receiveEnded_active reading (listens transport there reading) future
        (dataOf (world.loop.resultOf future))
      have own (same : id = other) : step? = some (.ends future (dataOf (world.loop.resultOf future))) := by
        subst same
        rw [active rfl transport there, reading]
        rfl
      rcases Transport.Drifts.receiveEnded transport (dataOf (world.loop.resultOf future)) with
        ⟨effects, after, ended, -⟩ | ⟨-, arrival, some, ended⟩
      · rw [ended] at result reads
        refine endedQuietly result known (fun same other here => ?_) apart
        subst same
        cases there.symm.trans here
        rw [own rfl, ended]
        exact reads
      · rw [ended] at result reads
        have reads (same : id = other) := own same ▸ reads
        cases arrival with
        | nothing => cases some
        | data | endOfStream => exact receivedTold there ended rfl result reads apart

end World

namespace Machine

variable {machine after : Machine} {id other : TransportId} {transport : Transport} {strict : Prop}
variable {future : FutureId} {step? : Option ReadStep} {below : List Frame}

/-! ## What is read in a step -/

/-- A callback about a transport reads what it is called for. -/
theorem receives_callback {callback : Callback} (clean : machine.world.loop.dropped = [])
    (signal : machine.signal = .call callback) (owner : callback.transport? = some other)
    (listens : ∀ transport, machine.world.transports.get? other = some (some transport) →
      transport.isActive = true → transport.protocol.isSome = true) :
    Receives machine.held (machine.readStep? id) id machine.holding (runCallback callback) := by
  have idle (silent : machine.asks? id = none)
      (receives : Receives machine.held none id machine.holding (runCallback callback)) :
      Receives machine.held (machine.readStep? id) id machine.holding (runCallback callback) := by
    rw [readStep?_of_idle silent]
    exact receives
  cases callback with
  | script | step | readPipe | resolve | expire | startAccepting => cases owner
  | connectionMade other =>
    refine idle (by unfold asks?; rw [clean, signal]) (.congr (congrFun (tellMade_eq other) _) ?_)
    exact .bind (Receives.tellProtocol rfl) fun listener? _ => Receives.handTo _ listener?
  | startReading reader =>
    have asks := @asks?_startReading machine id reader clean signal
    refine .andThen (Receives.receiveNext (rfl : ReadStep.begins.receives = true) lt_size_of_readStep?
      (fun same transport found => ?_) fun differ => readStep?_of_idle (asks.trans (if_neg differ.symm)))
        fun _ _ => .pure
    rw [readStep?_of_found found, asks, if_pos same.symm]
  | connectionLost other error =>
    refine idle (by unfold asks?; rw [clean, signal]) (.congr (congrFun (tellLost_eq other error) _) ?_)
    exact .bind (Receives.takeProtocol error) fun listener? _ => Receives.handTo _ listener?
  | done future reaction =>
    cases reaction with
    | script | wake | stopLoop | pipeRead | accepted => cases owner
    | received reader =>
      cases owner
      have asks := @asks?_received machine id other future clean signal
      refine Receives.received listens lt_size_of_readStep? (fun same transport found => ?_)
        fun differ => readStep?_of_idle (asks.trans (if_neg differ.symm))
      rw [readStep?_of_found found, asks, if_pos same.symm]
      rfl
    | sent other =>
      exact idle (by unfold asks?; rw [clean, signal]) (.bind (Receives.sendEnded future) fun _ _ => .pure)

/-- Each step of a run reads what the state asks for. -/
theorem Sound.reads (sound : machine.Sound False) (step : Step machine after)
    (listens : ∀ {id transport}, machine.world.transports.get? id = some (some transport) →
      transport.isActive = true → transport.protocol.isSome = true) :
    World.Reads (machine.readStep? id) id machine.world after.world := by
  cases sound.handles step with
  | aside passes apart quiet =>
    rw [readStep?_of_idle (asks?_of_detached quiet)]
    exact passes.follows sound apart
  | called clean signal owner =>
    exact sound.follows (receives_callback clean signal owner fun _ found => listens found)
  | resumes clean proceeds split =>
    have asks := @asks?_afterData machine id _ _ clean proceeds split
    refine sound.follows (.andThen (Receives.receiveNext (rfl : ReadStep.resumes.receives = true)
      lt_size_of_readStep? (fun same transport found => ?_)
        fun differ => readStep?_of_idle (asks.trans (if_neg differ.symm))) fun _ _ => .pure)
    rw [readStep?_of_found found, asks, if_pos same.symm]
  | closes quiet =>
    rw [readStep?_of_idle (asks?_of_detached quiet)]
    exact sound.follows (.bind (Receives.advance (fun _ => .close) (fun _ => .close) fun transport =>
      .close transport) fun _ _ => .pure)
  | shuts quiet =>
    rw [readStep?_of_idle (asks?_of_detached quiet)]
    exact sound.follows (.bind Receives.closeTransportSocket fun _ _ => .pure)
  | @instructed _ _ held protocol what amid transports within reached quiet =>
    rw [readStep?_of_idle (asks?_of_detached quiet), reached]
    exact .of_transports transports (Receives.doTransport protocol what within).2

end Machine

end EventLoop

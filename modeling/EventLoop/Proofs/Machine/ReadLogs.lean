import EventLoop.Proofs.Machine.Readings
import EventLoop.Proofs.Machine.Transports
import EventLoop.Proofs.Machine.Iterations
import Mathlib.Data.List.Chain

/-!
# Logs of what transports read

From the state on in which a transport was opened to read, the log of a run has all that the transport did
to read, step by step. A protocol is being handed data exactly if that was the last thing that an active
transport did, and a receive is under way only if it was submitted last. So the log is in order: the
transport begins once, it hears once of the end of each receive, it goes on once after each piece of data,
and after anything else it reads no more.
-/
namespace EventLoop

open Net (Transport ReadStep)

/-- How often the protocol is being handed data less often after a step. -/
def Net.ReadStep.takes : ReadStep → Nat
  | resumes => 1
  | begins | ends .. => 0

/-- How often the protocol is being handed data more often after a step. -/
def Net.ReadStep.gives (step : ReadStep) : Nat := step.hands.toNat

/-- The protocol is being handed data after a step exactly if the next one takes that away. -/
theorem Net.ReadStep.Precedes.takes {last next : ReadStep} (precedes : last.Precedes next) :
    next.takes = last.hands.toNat := by
  cases next with
  | begins => cases precedes
  | ends =>
    cases last with
    | begins | resumes => rfl
    | ends => cases precedes
  | resumes =>
    have hands : last.hands = true := precedes
    rw [hands]
    rfl

namespace Machine

variable {machine after : Machine} {id other : TransportId} {transport : Transport} {strict : Prop}
variable {future : FutureId} {below : List Frame} {steps : List ReadStep}

/-! ## Protocols that are being handed data -/

/-- A step of the machine hands data to the protocol of a transport a number of times. -/
def Hands (id : TransportId) (count : Nat) (world : World) (step : WorldM Move) : Prop :=
  (step world).1.1.countP (·.isAfterData id) = count

namespace Hands

variable {α : Type} {world : World} {count : Nat}

/-- Something is done first. -/
theorem bind {step : WorldM α} {next : α → WorldM Move}
    (each : ∀ value reached, Hands id count reached (next value)) : Hands id count world (step >>= next) :=
  each (step world).1 (step world).2

/-- Giving a signal hands no data over. -/
theorem give {signal : Signal} : Hands id 0 world (Machine.give signal) := rfl

/-- A quiet step hands no data. -/
theorem of_quiet {step : WorldM Move} (quiet : MovesQuietly step) : Hands id 0 world step := by
  refine List.countP_eq_zero.mpr fun frame member => ?_
  have idle := (quiet world).frames frame member
  cases frame with
  | afterData => cases idle
  | _ => exact Bool.false_ne_true

/-- A protocol is handed data only with a notice of data. -/
theorem handTo (notice : Net.Notice) (listener? : Option Net.Listener) :
    Hands id ((notice.frames other).countP (·.isAfterData id)) world
      (Machine.handTo other notice listener?) := by
  obtain ⟨signal, result, -⟩ := Machine.fst_handTo other notice listener? world
  exact congrArg (fun move : Move => move.1.countP (·.isAfterData id)) result

/-- Telling a protocol that the connection is lost hands no data over. -/
theorem tellLost (error : Option Error) : Hands id 0 world (Machine.tellLost other error) := by
  rw [Machine.tellLost_eq]
  exact bind fun listener? _ => handTo _ listener?

/-- Telling a protocol that the connection is made hands no data over. -/
theorem tellMade : Hands id 0 world (Machine.tellMade other) := by
  rw [Machine.tellMade_eq]
  exact bind fun listener? _ => handTo _ listener?

/-- A receive has brought something that the protocol is told of. -/
theorem received_of_notice {notice : Net.Notice}
    (tells : (World.receiveEnded other future world).1.notice? = some notice) :
    Hands id ((notice.frames other).countP (·.isAfterData id)) world
      (Machine.react future (.received other)) := by
  unfold Hands
  rw [Machine.react_of_notice tells]
  exact bind fun listener? _ => handTo _ listener?

/-- A receive of another transport has ended. -/
theorem received_of_ne (differ : other ≠ id) :
    Hands id 0 world (Machine.react future (.received other)) := by
  have none : [Frame.afterData other].countP (·.isAfterData id) = 0 :=
    List.countP_cons_of_neg fun same => differ (beq_iff_eq.mp same)
  cases result : (World.receiveEnded other future world).1 with
  | nothing =>
    unfold Hands
    rw [Machine.react_of_nothing result]
    exact bind fun _ _ => give
  | data bytes => exact (received_of_notice (congrArg Net.Arrival.notice? result)).trans none
  | endOfStream => exact received_of_notice (congrArg Net.Arrival.notice? result)

/-- A receive of an active transport has ended. -/
theorem received (found : world.transports.get? id = some (some transport))
    (active : transport.isActive = true) :
    Hands id (ReadStep.gives (.ends future (World.dataOf (world.loop.resultOf future)))) world
      (Machine.react future (.received id)) := by
  have result := World.fst_receiveEnded id future world
  have still : Transport.isActive { transport with reading := none } = true := active
  rw [found, Option.join_some, Option.elim_some] at result
  unfold Transport.receiveEnded at result
  cases outcome : World.dataOf (world.loop.resultOf future) with
  | error error =>
    rw [outcome] at result
    unfold Hands
    rw [Machine.react_of_nothing result]
    exact bind fun _ _ => give
  | ok bytes =>
    rw [outcome] at result
    dsimp only at result
    rw [still] at result
    cases bytes with
    | nil => exact received_of_notice (congrArg Net.Arrival.notice? result)
    | cons byte bytes =>
      have handed : [Frame.afterData id].countP (·.isAfterData id) = 1 :=
        List.countP_cons_of_pos (beq_self_eq_true id)
      exact (received_of_notice (congrArg Net.Arrival.notice? result)).trans handed

/-- The next callback is taken. -/
theorem stepIteration (left : Nat) : Hands id 0 world (Machine.stepIteration left) := by
  cases left with
  | zero => exact give
  | succ left =>
    refine bind fun callback? _ => ?_
    cases callback? with
    | none => exact give
    | some callback => rfl

/-- A callback about a transport hands data only if a receive has brought some. -/
theorem runCallback {callback : Callback} (clean : machine.world.loop.dropped = [])
    (called : machine.signal = .call callback) (owner : callback.transport? = some other)
    (found : machine.world.transports.get? id = some (some transport)) (active : transport.isActive = true) :
    Hands id ((machine.readStep? id).elim 0 ReadStep.gives) machine.holding (Machine.runCallback callback) ∧
      (machine.readStep? id).elim 0 ReadStep.takes = 0 := by
  have reads := readStep?_of_found found
  rw [if_pos active] at reads
  have silent : machine.asks? id = none → ∀ {step}, Hands id 0 machine.holding step →
      Hands id ((machine.readStep? id).elim 0 ReadStep.gives) machine.holding step ∧
        (machine.readStep? id).elim 0 ReadStep.takes = 0 := fun asks _ hands => by
    rw [reads, asks]
    exact ⟨hands, rfl⟩
  cases callback with
  | script | step | readPipe | resolve | expire | startAccepting => cases owner
  | connectionMade =>
    exact silent (by unfold asks?; rw [clean, called]) tellMade
  | connectionLost =>
    exact silent (by unfold asks?; rw [clean, called]) (tellLost _)
  | startReading reader =>
    rw [reads, asks?_startReading clean called]
    split
    · exact ⟨bind fun _ _ => give, rfl⟩
    · exact ⟨bind fun _ _ => give, rfl⟩
  | done future reaction =>
    cases reaction with
    | script | wake | stopLoop | pipeRead | accepted => cases owner
    | sent =>
      exact silent (by unfold asks?; rw [clean, called]) (bind fun _ _ => give)
    | received reader =>
      rw [reads, asks?_received clean called]
      split
      · rename_i same
        subst same
        exact ⟨received found active, rfl⟩
      · rename_i differ
        exact ⟨received_of_ne differ, rfl⟩

end Hands

/-! ## How often protocols are being handed data -/

/-- A move hands data over as often as its step does, on top of the frames below. -/
theorem handing_move {step : WorldM Move} {count : Nat} (hands : Hands id count machine.holding step) :
    (machine.move below step).handing id = count + below.countP (·.isAfterData id) := by
  change ((step machine.holding).1.1 ++ below).countP _ = _
  rw [List.countP_append]
  exact congrArg (· + _) hands

/-- A frame that goes on hands no data. -/
theorem Sound.hands_deliver (sound : machine.Sound strict) {frame : Frame} (done : act? machine.signal = none)
    (split : machine.frames = frame :: below) :
    Hands id 0 machine.holding (Machine.deliver machine.signal frame) := by
  cases frame with
  | iteration left =>
    have proceeds : machine.signal = .proceed := (split ▸ sound.fits).1.eq_proceed rfl done
    rw [proceeds]
    exact .stepIteration left
  | _ => exact .of_quiet (.of_sedate (.deliver done (fun _ => Frame.noConfusion) fun _ => trivial))

/-- Between the step that hands data to the protocol of an active transport and the one with which the
transport goes on to read, the protocol is being handed data. -/
def AccountsFor (id : TransportId) (machine after : Machine) : Prop :=
  after.handing id + (machine.readStep? id).elim 0 ReadStep.takes =
    machine.handing id + (machine.readStep? id).elim 0 ReadStep.gives

/-- A step in which nothing is read leaves it alone. -/
theorem AccountsFor.of_idle (asks : machine.asks? id = none) (same : after.handing id = machine.handing id) :
    AccountsFor id machine after := by
  unfold AccountsFor
  rw [readStep?_of_idle asks]
  exact same

/-- A signal that is acted on accounts for what it hands. -/
theorem accounts_act {step : WorldM Move} (clean : machine.world.loop.dropped = [])
    (acts : act? machine.signal = some step)
    (found : machine.world.transports.get? id = some (some transport)) (active : transport.isActive = true) :
    AccountsFor id machine (machine.move machine.frames step) := by
  by_cases apart : ∀ callback, machine.signal = .call callback → callback.transport? = none
  · refine .of_idle (asks?_of_detached (.of_act acts apart)) ?_
    rw [handing_move (.of_quiet (.act acts apart)), Nat.zero_add]
    rfl
  · obtain ⟨callback, deals⟩ := not_forall.mp apart
    obtain ⟨called, owner⟩ := Classical.not_imp.mp deals
    obtain ⟨other, owner⟩ := Option.ne_none_iff_exists'.mp owner
    rw [called] at acts
    cases acts
    obtain ⟨gives, takes⟩ := Hands.runCallback clean called owner found active
    unfold AccountsFor
    rw [handing_move gives, takes, Nat.add_zero, Nat.add_comm]
    rfl

/-- A frame that goes on accounts for what the transport takes up. -/
theorem Sound.accounts_deliver (sound : machine.Sound strict) {frame : Frame}
    (clean : machine.world.loop.dropped = []) (done : act? machine.signal = none)
    (split : machine.frames = frame :: below)
    (found : machine.world.transports.get? id = some (some transport)) (active : transport.isActive = true) :
    AccountsFor id machine (machine.move below (Machine.deliver machine.signal frame)) := by
  have reads := readStep?_of_found found
  rw [if_pos active] at reads
  have before : machine.handing id =
      [frame].countP (·.isAfterData id) + below.countP (·.isAfterData id) := by
    unfold Machine.handing
    rw [split]
    exact @List.countP_append _ (·.isAfterData id) [frame] below
  unfold AccountsFor
  rw [handing_move (sound.hands_deliver done split), before, Nat.zero_add]
  cases frame with
  | afterData other =>
    have proceeds : machine.signal = .proceed := (split ▸ sound.fits).1.eq_proceed rfl done
    rw [reads, asks?_afterData clean proceeds split]
    by_cases same : other = id
    · have one : [Frame.afterData other].countP (·.isAfterData id) = 1 :=
        List.countP_cons_of_pos (beq_iff_eq.mpr same)
      rw [if_pos same, one]
      exact Nat.add_comm _ _
    · have none : [Frame.afterData other].countP (·.isAfterData id) = 0 :=
        List.countP_cons_of_neg fun equal => same (beq_iff_eq.mp equal)
      rw [if_neg same, none, Nat.zero_add]
      rfl
  | _ =>
    rw [reads, asks?_of_detached (.of_done done split fun _ => Frame.noConfusion)]
    exact (Nat.zero_add _).symm

/-- Every step accounts for the data that the protocol of an active transport is handed. -/
theorem Sound.accounts (sound : machine.Sound False) (step : Step machine after)
    (found : machine.world.transports.get? id = some (some transport)) (active : transport.isActive = true) :
    AccountsFor id machine after := by
  cases step.does with
  | settled dropped => exact .of_idle (asks?_of_detached (.of_dropped dropped)) rfl
  | acted clean acts => exact accounts_act clean acts found active
  | delivered clean done split => exact sound.accounts_deliver clean done split found active
  | begun halted instruction =>
    obtain ⟨-, empty, -⟩ := sound.answered halted
    refine .of_idle (asks?_of_detached (sound.isDetached halted)) ?_
    unfold Machine.instructed
    rw [handing_move (.of_quiet (.beginInstruction .outside instruction))]
    unfold Machine.handing
    rw [empty]
    rfl

/-! ## Logs -/

/-- What a transport did to read since it was opened to read: it was opened in a step after which it is to be
called to begin, and each step of the run since then adds what the state asks the transport for. -/
inductive ReadLog (id : TransportId) : List ReadStep → Machine → Prop
  /-- The transport was just opened, and it is to begin to read. -/
  | opened {before after : Machine} (visits : Visits IsOpen before) (step : Step before after)
      (fine : after.IsOpen) (new : before.world.transports.size ≤ id)
      (reads : .startReading id ∈ after.world.loop.ready) : ReadLog id [] after
  /-- One step more. -/
  | step {steps : List ReadStep} {before after : Machine} (earlier : ReadLog id steps before)
      (step : Step before after) (fine : after.IsOpen) :
      ReadLog id (steps ++ (before.readStep? id).toList) after

/-- Whether an active transport is still to begin to read. -/
def IsToRead (machine : Machine) (id : TransportId) : Prop :=
  .startReading id ∈ machine.world.loop.ready ∨ machine.signal = .call (.startReading id)

/-- What a log says about a transport. -/
structure Reading (machine : Machine) (id : TransportId) (transport : Transport) (steps : List ReadStep) :
    Prop where
  /-- The log has all that happened. -/
  intake : Net.intake transport.history = steps.flatMap ReadStep.events
  /-- The transport begins before it does anything else. -/
  first : ∀ step ∈ steps.head?, step = .begins
  /-- Each step follows one after which it may come. -/
  order : steps.IsChain ReadStep.Precedes
  /-- Until it begins, an active transport is to begin to read. -/
  begins : transport.isActive = true → steps = [] → machine.IsToRead id
  /-- A receive is under way only if it was submitted last. -/
  receives : transport.isActive = true → transport.reading.isSome = true →
    steps.getLast?.any ReadStep.receives = true
  /-- The protocol is being handed data exactly if that was the last thing that happened. -/
  hands : transport.isActive = true → machine.handing id = (steps.getLast?.any ReadStep.hands).toNat

/-- A transport that is to begin to read will be called for it. -/
theorem IsToRead.mem_stirs (toRead : machine.IsToRead id) :
    .startReading id ∈ (machine.outlook id).stirs := by
  have owns : Callback.stirs id (.startReading id) = true := beq_self_eq_true id
  unfold outlook Net.Outlook.over
  refine List.mem_append.mpr (toRead.symm.imp (fun called => ?_) fun ready => ?_)
  · unfold errands
    rw [called]
    exact List.mem_filter.mpr ⟨List.mem_cons_self, owns⟩
  · exact List.mem_filter.mpr ⟨ready, owns⟩

/-- A transport that is to begin to read is known. -/
theorem Visits.lt_size_of_isToRead (visits : Visits IsOpen machine) (toRead : machine.IsToRead id) :
    id < machine.world.transports.size := by
  by_contra beyond
  have overseen : World.Overseen machine.errands machine.world :=
    visits.overseen fun _ fine => fine
  have stirs := toRead.mem_stirs
  unfold outlook at stirs
  rw [overseen.fresh (Nat.le_of_not_lt beyond)] at stirs
  cases stirs

/-- What is to be read is one thing at a time. -/
theorem Visits.reads_le (visits : Visits IsOpen machine)
    (found : machine.world.transports.get? id = some (some transport)) :
    (machine.outlook id).stirs.countP Callback.isStart + (machine.outlook id).receipts.card +
      machine.handing id ≤ 1 := by
  have reads := (visits.attained found).telling.reads
  unfold Net.Outlook.reads at reads
  exact Nat.le_trans (Nat.le_add_right _ _) reads

/-- Each step of a run on an open loop reads what the state asks for. -/
theorem Visits.reads (visits : Visits IsOpen machine) (step : Step machine after) (id : TransportId) :
    World.Reads (machine.readStep? id) id machine.world after.world := by
  refine visits.reachable.sound.reads step fun {other transport} found active => ?_
  refine (visits.attained found).standing.listens.mpr fun closed => ?_
  have still : transport.status = .active := beq_iff_eq.mp active
  cases still.symm.trans closed

/-- An active transport hears only of the end of the receive that it submitted last. -/
theorem Visits.reading_of_called (visits : Visits IsOpen machine)
    (found : machine.world.transports.get? id = some (some transport)) (active : transport.isActive = true)
    (called : machine.signal = .call (.done future (.received id))) : transport.reading = some future := by
  refine (visits.attained found).awaiting.awaits (beq_iff_eq.mp active) future ?_
  unfold outlook Net.Outlook.over errands
  rw [called]
  refine Multiset.mem_add.mpr (Or.inl ?_)
  change future ∈ ((Callback.done future (.received id)).errand id).receipts
  rw [MovesMinding.errand_received]
  exact Multiset.mem_singleton_self future

namespace Reading

/-- Nothing was read when a transport was just opened. -/
theorem opened (visits : Visits IsOpen machine)
    (found : machine.world.transports.get? id = some (some transport))
    (reads : .startReading id ∈ machine.world.loop.ready) (fresh : Net.intake transport.history = [])
    (idle : transport.reading = none) : machine.Reading id transport [] := by
  have toRead : machine.IsToRead id := Or.inl reads
  have starts : 0 < (machine.outlook id).stirs.countP Callback.isStart :=
    List.countP_pos_iff.mpr ⟨_, toRead.mem_stirs, rfl⟩
  have single := visits.reads_le found
  refine ⟨fresh, nofun, .nil, fun _ _ => toRead, fun _ some => ?_, fun _ => ?_⟩
  · rw [idle] at some
    cases some
  · change machine.handing id = 0
    omega

/-- What an active transport does to read may come next. -/
theorem follows (reading : machine.Reading id transport steps) (visits : Visits IsOpen machine)
    (found : machine.world.transports.get? id = some (some transport)) (active : transport.isActive = true)
    {now : ReadStep} (asks : machine.asks? id = some now) :
    now = .begins ∧ steps = [] ∨ ∃ last ∈ steps.getLast?, last.Precedes now := by
  have awaiting := (visits.attained found).awaiting
  rcases asks?_eq_some asks with ⟨begins, called⟩ | ⟨future, ends, called⟩ | ⟨resumes, -, below, split⟩
  · have toRead : machine.IsToRead id := Or.inr called
    have nothing := awaiting.begins (List.countP_pos_iff.mpr ⟨_, toRead.mem_stirs, rfl⟩)
    dsimp only at nothing
    rw [reading.intake] at nothing
    refine Or.inl ⟨begins, ?_⟩
    cases steps with
    | nil => rfl
    | cons first rest =>
      rw [reading.first first rfl] at nothing
      cases nothing
  · have under : transport.reading.isSome = true := by
      rw [visits.reading_of_called found active called]
      rfl
    obtain ⟨last, member, receives⟩ := (Option.any_eq_true _ _).mp (reading.receives active under)
    rw [ends]
    exact Or.inr ⟨last, member, receives⟩
  · have waits : 0 < machine.handing id :=
      List.countP_pos_iff.mpr ⟨.afterData id, split ▸ List.mem_cons_self, beq_self_eq_true id⟩
    rw [reading.hands active] at waits
    cases handed : steps.getLast?.any ReadStep.hands with
    | false =>
      rw [handed] at waits
      cases waits
    | true =>
      obtain ⟨last, member, hands⟩ := (Option.any_eq_true _ _).mp handed
      rw [resumes]
      exact Or.inr ⟨last, member, hands⟩

/-- An active transport that reads nothing in a step is where it was. -/
theorem idle (reading : machine.Reading id transport steps) (visits : Visits IsOpen machine)
    (found : machine.world.transports.get? id = some (some transport)) (step : Step machine after)
    (fine : after.IsOpen) {later : Transport} (nothing : machine.readStep? id = none)
    (reads : transport.Reads none later) : after.Reading id later steps := by
  have sound := visits.reachable.sound
  exact {
    intake := by
      rw [reads.intake, reading.intake]
      exact List.append_nil _
    first := reading.first
    order := reading.order
    begins := fun active empty => by
      rcases reading.begins (reads.wasActive active) empty with ready | called
      · exact (visits.goes (fun _ fine => fine) step fine).queues.waits ready
      · -- An active transport would begin to read now.
        have asks := @asks?_startReading machine id id (sound.call _ called).1 called
        rw [readStep?_of_found found, if_pos (reads.wasActive active), asks, if_pos rfl] at nothing
        cases nothing
    receives := fun active some => by
      refine reading.receives (reads.wasActive active) ?_
      rcases reads.kept rfl with same | ⟨-, inactive⟩
      · rw [← same]
        exact some
      · exact absurd (beq_iff_eq.mp active) inactive
    hands := fun active => by
      have accounts := sound.accounts step found (reads.wasActive active)
      unfold AccountsFor at accounts
      rw [nothing] at accounts
      exact accounts.trans (reading.hands (reads.wasActive active))
  }

/-- An active transport does what may come next. -/
theorem next (reading : machine.Reading id transport steps) (visits : Visits IsOpen machine)
    (found : machine.world.transports.get? id = some (some transport)) (step : Step machine after)
    {now : ReadStep} {later : Transport} (does : machine.readStep? id = some now)
    (reads : transport.Reads (some now) later) : after.Reading id later (steps ++ [now]) := by
  obtain ⟨same, here, active, asks⟩ := readStep?_eq_some.mp does
  cases found.symm.trans here
  have follows := reading.follows visits found active asks
  have accounts := visits.reachable.sound.accounts step found active
  unfold AccountsFor at accounts
  rw [does, reading.hands active] at accounts
  have takes : now.takes = (steps.getLast?.any ReadStep.hands).toNat := by
    rcases follows with ⟨rfl, rfl⟩ | ⟨last, member, precedes⟩
    · rfl
    · rw [Option.mem_def.mp member, Option.any_some]
      exact precedes.takes
  exact {
    intake := by
      rw [reads.intake, reading.intake, List.flatMap_append]
      exact congrArg (_ ++ ·) (List.append_nil _).symm
    first := fun first head => by
      rcases follows with ⟨begins, rfl⟩ | ⟨last, member, -⟩
      · cases head
        exact begins
      · cases steps with
        | nil => cases member
        | cons => exact reading.first first head
    order := by
      refine reading.order.append (.singleton now) fun last member other head => ?_
      cases head
      rcases follows with ⟨-, rfl⟩ | ⟨_, here, precedes⟩
      · cases member
      · cases here.symm.trans member
        exact precedes
    begins := fun _ none => absurd none (List.append_ne_nil_of_right_ne_nil _ (List.cons_ne_nil _ _))
    receives := fun _ some => by
      rw [List.getLast?_concat, Option.any_some]
      cases now with
      | begins | resumes => rfl
      | ends future outcome =>
        rw [reads.ended future outcome rfl] at some
        cases some
    hands := fun _ => by
      rw [List.getLast?_concat, Option.any_some]
      change after.handing id + now.takes = _ + now.hands.toNat at accounts
      omega
  }

/-- A log goes on. -/
theorem step (reading : machine.Reading id transport steps) (visits : Visits IsOpen machine)
    (found : machine.world.transports.get? id = some (some transport)) (step : Step machine after)
    (fine : after.IsOpen) {later : Transport} (reads : transport.Reads (machine.readStep? id) later) :
    after.Reading id later (steps ++ (machine.readStep? id).toList) := by
  cases does : machine.readStep? id with
  | none =>
    rw [Option.toList_none, List.append_nil]
    exact reading.idle visits found step fine does (does ▸ reads)
  | some now => exact reading.next visits found step does (does ▸ reads)

end Reading

namespace ReadLog

/-- What a log says was done in a run on an open loop. -/
theorem visits (log : ReadLog id steps machine) : Visits IsOpen machine := by
  induction log with
  | opened visits step fine => exact .step visits step fine
  | step _ step fine ih => exact .step ih step fine

/-- The transport of a log is known. -/
theorem lt_size (log : ReadLog id steps machine) : id < machine.world.transports.size := by
  induction log with
  | opened visits step fine new reads => exact (visits.step step fine).lt_size_of_isToRead (Or.inl reads)
  | step earlier step fine ih => exact Nat.lt_of_lt_of_le ih (earlier.visits.reads step id).size

/-- A transport that is there after a step was there before, unless it was just opened. -/
theorem earlier (log : ReadLog id steps machine) (step : Step machine after)
    (found : after.world.transports.get? id = some (some transport)) :
    ∃ before, machine.world.transports.get? id = some (some before) ∧
      before.Reads (machine.readStep? id) transport :=
  ((log.visits.reads step id).reads found).resolve_right fun ⟨beyond, _⟩ =>
    absurd log.lt_size (Nat.not_lt.mpr beyond)

/-- A log says in order what a transport did to read. -/
theorem reading (log : ReadLog id steps machine)
    (found : machine.world.transports.get? id = some (some transport)) :
    machine.Reading id transport steps := by
  induction log generalizing transport with
  | opened visits step fine new ready =>
    rcases (visits.reads step id).reads found with ⟨before, there, -⟩ | ⟨-, fresh, idle⟩
    · exact absurd (Table.lt_size_of_get? there) (Nat.not_lt.mpr new)
    · exact .opened (visits.step step fine) found ready fresh idle
  | step log step fine ih =>
    obtain ⟨before, there, reads⟩ := log.earlier step found
    exact (ih there).step log.visits there step fine reads

/-- A log goes on with a run. -/
theorem onward (log : ReadLog id steps machine) {last : Machine} (onward : Onward IsOpen machine last) :
    ∃ more, ReadLog id (steps ++ more) last := by
  induction onward with
  | refl => exact ⟨[], (List.append_nil steps).symm ▸ log⟩
  | tail _ next ih =>
    obtain ⟨more, log⟩ := ih
    exact ⟨_, List.append_assoc .. ▸ log.step next.1 next.2⟩

/-- Once a transport is not active, its log is complete. -/
theorem ceases (log : ReadLog id steps machine)
    (found : machine.world.transports.get? id = some (some transport)) (inactive : transport.isActive = false)
    {last : Machine} (onward : Onward IsOpen machine last) {later : Transport}
    (there : last.world.transports.get? id = some (some later)) :
    ReadLog id steps last ∧ later.isActive = false := by
  induction onward generalizing later with
  | refl =>
    cases found.symm.trans there
    exact ⟨log, inactive⟩
  | @tail middle last earlier next ih =>
    obtain ⟨more, log⟩ := log.onward earlier
    obtain ⟨before, here, reads⟩ := log.earlier next.1 there
    obtain ⟨same, passive⟩ := ih here
    have nothing : middle.readStep? id = none := by
      rw [readStep?_of_found here, passive]
      rfl
    refine ⟨?_, ?_⟩
    · have longer := same.step next.1 next.2
      rw [nothing] at longer
      exact List.append_nil steps ▸ longer
    · exact eq_false_of_ne_true fun active => ne_true_of_eq_false passive (reads.wasActive active)

end ReadLog

/-- How a transport that was opened to read does so, given the log of its run. -/
structure ReadsInOrder (machine : Machine) (id : TransportId) (transport : Transport)
    (steps : List ReadStep) : Prop extends machine.Reading id transport steps where
  /-- Nothing follows a receive that failed or brought the end of the stream. -/
  stops : ∀ earlier future outcome later, steps = earlier ++ .ends future outcome :: later →
    ReadStep.hands (.ends future outcome) = false → later = []
  /-- An active transport hears only of the end of the receive that it submitted last. -/
  hears : transport.isActive = true → ∀ future, machine.signal = .call (.done future (.received id)) →
    transport.reading = some future
  /-- After an active transport has handed data to its protocol, it waits to read on. -/
  resumes : transport.isActive = true → ∀ last ∈ steps.getLast?, last.hands = true →
    .afterData id ∈ machine.frames
  /-- Once the transport is not active, it reads nothing, whatever still arrives. -/
  ceases : transport.isActive = false → ∀ {last}, Onward IsOpen machine last → ∀ {later},
    last.world.transports.get? id = some (some later) →
      Net.intake later.history = Net.intake transport.history
  /-- The receives were really submitted, and the protocol was really handed the data. -/
  recounts : machine.Recounts id

/-- As long as the loop is open, every transport that was opened to read does so in order. -/
theorem transports_read_in_order (log : ReadLog id steps machine)
    (found : machine.world.transports.get? id = some (some transport)) :
    machine.ReadsInOrder id transport steps := by
  have reading := log.reading found
  exact {
    toReading := reading
    stops := fun earlier future outcome later same idle => by
      cases later with
      | nil => rfl
      | cons next later =>
        have precedes : ReadStep.Precedes (.ends future outcome) next :=
          ((List.isChain_append.mp (same ▸ reading.order)).2.1).rel
        cases next with
        | begins | ends => cases precedes
        | resumes => cases idle.symm.trans precedes
    hears := fun active future => log.visits.reading_of_called found active
    resumes := fun active last member hands => by
      have count := reading.hands active
      rw [Option.mem_def.mp member, Option.any_some, hands] at count
      obtain ⟨frame, waits, own⟩ :=
        List.countP_pos_iff.mp (Nat.lt_of_lt_of_eq Nat.zero_lt_one count.symm)
      cases frame with
      | afterData other => exact beq_iff_eq.mp own ▸ waits
      | _ => cases own
    ceases := fun inactive last onward later there => by
      have complete := (log.ceases found inactive onward there).1
      rw [(complete.reading there).intake, reading.intake]
    recounts := log.visits.reachable.sound.recounts id
  }

/-- A transport is about to be opened. -/
def dialing : Machine := scripted.drive openly 60 [.socket (.pair "a" "b")]

/-- A transport was just opened to read. -/
def dialed : Machine := dialing.instructed
  (.openTransport "t" "a" ⟨none, none, false⟩ ⟨[], [], [], [], false, false⟩)

/-- The transport has received data, and then the end of the stream. -/
def drained : Machine := (dialed.runWithin openly 60).drive openly 60 [.runOnce 1,
  .system (.operation (.latest .receive) "r"), .future (.setResult "r" ⟨.null, [7], "", none⟩),
  .runOnce 1, .system (.operation (.latest .receive) "s"),
  .future (.setResult "s" ⟨.null, [], "", none⟩), .runOnce 1]

/-- The transport began to read, went on after the data and stopped at the end of the stream. -/
theorem drained_reads_in_order : ∃ steps transport, ReadLog 0 steps drained ∧
    drained.world.transports.get? 0 = some (some transport) ∧ drained.ReadsInOrder 0 transport steps ∧
      Net.intake transport.history =
        [.receiving, .told (.data [7]), .receiving, .told .endOfStream] := by
  have openly_iff (machine : Machine) (fine : machine.openly = true) : machine.IsOpen := by
    unfold openly at fine
    exact (Bool.not_eq_true' _).mp fine
  have halted : dialing.next = none := Option.isNone_iff_eq_none.mp (by decide +kernel)
  have waits : dialed.world.loop.ready.any (fun callback => callback.isStart && callback.stirs 0) = true := by
    decide +kernel
  have reads : .startReading 0 ∈ dialed.world.loop.ready := by
    obtain ⟨callback, ready, both⟩ := List.any_eq_true.mp waits
    obtain ⟨starts, own⟩ := (Bool.and_eq_true _ _).mp both
    cases callback with
    | startReading other => exact beq_iff_eq.mp own ▸ ready
    | _ => cases starts
  have log : ReadLog 0 [] dialed := .opened (visits_openly 60 _) (.begun halted _)
    (openly_iff dialed (by decide +kernel)) (by decide +kernel) reads
  have onward : Onward IsOpen dialed drained :=
    Onward.mono ((onward_runWithin openly 60 dialed).trans (onward_drive openly 60 _ _)) openly_iff
  obtain ⟨steps, log⟩ := log.onward onward
  have state : (drained.world.transports.get? 0).join.map (fun transport =>
      Net.intake transport.history) =
        some [.receiving, .told (.data [7]), .receiving, .told .endOfStream] := by decide +kernel
  obtain ⟨transport, joined, intake⟩ := Option.map_eq_some_iff.mp state
  have found := Option.join_eq_some_iff.mp joined
  exact ⟨_, transport, log, found, transports_read_in_order log found, intake⟩

end Machine

end EventLoop

import EventLoop.Proofs.Transport.Telling

/-!
# How a transport reads

An active transport begins to read, hears of the end of the receive that is under way, and goes on to read
once its protocol was handed data. Everything else leaves alone what it reads, and as long as it is active
it hears only of the receive that it submitted last.
-/
namespace EventLoop.Net

/-- Whether an event is a receive that was submitted, or tells the protocol of something that arrived. -/
def Event.isOfRead : Event → Bool
  | .receiving | .told (.data _) | .told .endOfStream => true
  | .told .made | .told (.lost _) | .written .. | .submitted _ | .sent _ | .closing | .discarded
  | .announced _ | .shut => false

/-- The receives that were submitted and what the protocol was told of what arrived, in order. -/
def intake (events : List Event) : List Event := events.filter Event.isOfRead

/-- What an active transport does to read. -/
inductive ReadStep
  /-- It begins to read. -/
  | begins
  /-- It hears of the end of a receive. -/
  | ends (future : FutureId) (outcome : Except Error Bytes)
  /-- It goes on to read once its protocol was handed data. -/
  | resumes

namespace ReadStep

/-- What happens in a step: whenever a transport reads on, it submits a receive; its protocol is told of
what arrived, and a failure is not told. -/
def events : ReadStep → List Event
  | begins | resumes => [.receiving]
  | ends _ (.ok []) => [.told .endOfStream]
  | ends _ (.ok (byte :: bytes)) => [.told (.data (byte :: bytes))]
  | ends _ (.error _) => []

/-- Whether a receive is submitted in a step. -/
def receives : ReadStep → Bool
  | begins | resumes => true
  | ends .. => false

/-- Whether the protocol is handed data in a step. -/
def hands : ReadStep → Bool
  | ends _ (.ok (_ :: _)) => true
  | ends _ (.ok []) | ends _ (.error _) | begins | resumes => false

/-- Whether a step may directly follow another one: a receive ends once after it was submitted, the
transport goes on to read once after its protocol was handed data, and it begins only once. -/
def Precedes (first : ReadStep) : ReadStep → Prop
  | begins => False
  | ends .. => first.receives = true
  | resumes => first.hands = true

end ReadStep

/-- What happened to reading in a history is put together from its parts. -/
theorem intake_append (events more : List Event) :
    intake (events ++ more) = intake events ++ intake more := List.filter_append _ _

namespace Transport

variable {transport middle after : Transport} {step? : Option ReadStep}

/-- What a transport reads from one point to a later one. -/
structure Reads (step? : Option ReadStep) (before after : Transport) : Prop where
  /-- What happens is taken down. -/
  intake : Net.intake after.history = Net.intake before.history ++ step?.elim [] ReadStep.events
  /-- An active transport was active before. -/
  active : after.status = .active → before.status = .active
  /-- If nothing is read, the receive under way is the same, or the transport has let go of it and is not
  active. -/
  kept : step? = none → after.reading = before.reading ∨ after.reading = none ∧ after.status ≠ .active
  /-- A receive that has ended is not under way. -/
  ended : ∀ future outcome, step? = some (.ends future outcome) → after.reading = none

namespace Reads

/-- Nothing is read. -/
theorem of_eq (intake : Net.intake after.history = Net.intake transport.history)
    (status : after.status = .active → transport.status = .active)
    (reading : after.reading = transport.reading ∨ after.reading = none ∧ after.status ≠ .active) :
    transport.Reads none after :=
  ⟨intake.trans (List.append_nil _).symm, status, fun _ => reading, nofun⟩

/-- Nothing is read when nothing happens. -/
theorem refl (transport : Transport) : transport.Reads none transport := of_eq rfl id (Or.inl rfl)

/-- An active transport was active before. -/
theorem wasActive (reads : transport.Reads step? after) (active : after.isActive = true) :
    transport.isActive = true := beq_iff_eq.mpr (reads.active (beq_iff_eq.mp active))

/-- Nothing more is read. -/
theorem trans (first : transport.Reads step? middle) (second : middle.Reads none after) :
    transport.Reads step? after := by
  have none_of (gone : middle.reading = none) : after.reading = none :=
    (second.kept rfl).elim (fun same => same.trans gone) And.left
  refine ⟨?_, fun active => first.active (second.active active), fun quiet => ?_, fun future outcome same => ?_⟩
  · rw [second.intake, first.intake]
    exact List.append_nil _
  · rcases first.kept quiet with same | ⟨gone, inactive⟩
    · exact (second.kept rfl).imp_left fun later => later.trans same
    · exact Or.inr ⟨none_of gone, fun active => inactive (second.active active)⟩
  · exact none_of (first.ended future outcome same)

/-- Nothing was read before. -/
theorem since (first : transport.Reads none middle) (second : middle.Reads step? after) :
    transport.Reads step? after := by
  refine ⟨?_, fun active => first.active (second.active active), fun quiet => ?_, second.ended⟩
  · rw [second.intake, first.intake]
    exact congrArg (· ++ _) (List.append_nil _)
  · exact ((first.trans (quiet ▸ second)).kept rfl)

/-- An event that is not about what is read is taken down. -/
theorem noted {event : Event} (history : after.history = transport.history ++ [event])
    (aside : event.isOfRead = false) (status : after.status = .active → transport.status = .active)
    (reading : after.reading = transport.reading) : transport.Reads none after := by
  have nothing : Net.intake [event] = [] := List.filter_cons_of_neg (ne_true_of_eq_false aside)
  refine of_eq ?_ status (Or.inl reading)
  rw [history, intake_append, nothing, List.append_nil]

/-- What is asked of a transport has nothing to do with what it reads. -/
theorem of_drifts {effects : List Effect} (drifts : Drifts transport effects after)
    (reading : after.reading = transport.reading ∨ after.reading = none ∧ after.status ≠ .active) :
    transport.Reads none after := by
  obtain ⟨more, history, quiet, -⟩ := drifts.history
  have nothing : Net.intake more = [] := List.filter_eq_nil_iff.mpr fun event member => by
    have silent := quiet event member
    cases event with
    | told | submitted | receiving | announced | shut => cases silent
    | written | sent | closing | discarded => exact Bool.false_ne_true
  refine of_eq ?_ (fun active => ?_) reading
  · rw [history, intake_append, nothing, List.append_nil]
  · rcases drifts.status with same | ⟨before, -⟩
    · exact same ▸ active
    · exact before

/-- Sending what waits reads nothing. -/
theorem sendNext (transport : Transport) : transport.Reads none transport.sendNext.2 := by
  refine of_drifts .sendNext (Or.inl ?_)
  unfold Transport.sendNext Transport.announceLoss
  split
  · split
    · split
      · rfl
      · rfl
    · rfl
  · rfl

/-- Writing to a transport reads nothing. -/
theorem write (transport : Transport) (data : Bytes) (threshold : Nat) :
    transport.Reads none (transport.write data threshold).2 := by
  refine of_drifts (.write data threshold) (Or.inl ?_)
  unfold Transport.write
  dsimp only
  split
  · rfl
  · split
    · rfl
    · split
      · rfl
      · unfold Transport.sendNext Transport.announceLoss
        split
        · split
          · split
            · rfl
            · rfl
          · rfl
        · rfl

/-- Closing reads nothing. -/
theorem close (transport : Transport) : transport.Reads none transport.close.2 := by
  refine of_drifts .close (Or.inl ?_)
  unfold Transport.close Transport.announceLoss
  split
  · dsimp only
    split
    · split
      · rfl
      · rfl
    · rfl
  · rfl

/-- Closing by force reads nothing. -/
theorem forceClose (transport : Transport) (error : Option Error) :
    transport.Reads none (transport.forceClose error).2 := by
  refine of_drifts (.forceClose error) ?_
  cases announced : transport.announced with
  | true =>
    rw [forceClose_announced announced]
    exact Or.inl rfl
  | false =>
    rw [forceClose_eq announced]
    exact Or.inr ⟨rfl, Drifts.status_beginClosing.1⟩

/-- A failure reads nothing. -/
theorem fail (transport : Transport) (error : Error) : transport.Reads none (transport.fail error).2 :=
  forceClose transport (some error)

/-- A receive that fails reads nothing. -/
theorem receiveFailed (transport : Transport) (error : Error) :
    transport.Reads none (transport.receiveFailed error).2 := by
  unfold Transport.receiveFailed
  split
  · exact refl transport
  · split
    · exact refl transport
    · split
      · exact forceClose transport (some error)
      · exact fail transport error

/-- A send that fails reads nothing. -/
theorem sendFailed (transport : Transport) (error : Error) :
    transport.Reads none (transport.sendFailed error).2 := by
  unfold Transport.sendFailed
  split
  · exact refl transport
  · split
    · exact forceClose transport none
    · split
      · exact forceClose transport (some error)
      · exact fail transport error

/-- The end of a send reads nothing. -/
theorem sendEnded (transport : Transport) (error : Option Error) :
    transport.Reads none (transport.sendEnded error).2 := by
  have begun : transport.Reads none { transport.note (.sent error) with writing := none } :=
    noted rfl rfl id rfl
  cases error with
  | none => exact begun.trans (sendNext _)
  | some error => exact begun.trans (sendFailed _ error)

/-- What the protocol is told of a connection has nothing to do with what is read. -/
theorem tell (transport : Transport) {notice : Notice} (aside : (Event.told notice).isOfRead = false) :
    transport.Reads none (transport.tell notice) := by
  unfold Transport.tell
  split
  · exact noted rfl aside id rfl
  · exact refl transport

/-- The loss of the connection reads nothing. -/
theorem connectionLost (transport : Transport) (error : Option Error) :
    transport.Reads none (transport.connectionLost error) := by
  refine (tell transport rfl).trans (of_eq rfl nofun (Or.inl rfl) :
    (transport.tell (.lost error)).Reads none (transport.connectionLost error))

/-- A receive is submitted. -/
theorem submits (transport : Transport) {step : ReadStep} (receives : step.receives = true)
    (future : FutureId) :
    transport.Reads (some step) { transport.note .receiving with reading := some future } := by
  refine ⟨?_, id, nofun, fun other outcome same => ?_⟩
  · cases step with
    | begins | resumes => exact intake_append _ _
    | ends => cases receives
  · cases same
    cases receives

/-- A transport that is not active is told nothing when a receive has ended. -/
theorem receiveEnded_inactive (inactive : transport.isActive = false) (outcome : Except Error Bytes) :
    (transport.receiveEnded outcome).1 = .nothing ∧
      transport.Reads none (transport.receiveEnded outcome).2.2 := by
  have passive : transport.status ≠ .active := fun active => by
    unfold isActive at inactive
    rw [active] at inactive
    cases inactive
  have emptied : transport.Reads none { transport with reading := none } :=
    of_eq rfl id (Or.inr ⟨rfl, passive⟩)
  unfold Transport.receiveEnded
  cases outcome with
  | error error => exact ⟨rfl, emptied.trans (receiveFailed _ error)⟩
  | ok bytes =>
    have still : Transport.isActive { transport with reading := none } = false := inactive
    dsimp only
    rw [still]
    exact ⟨rfl, emptied⟩

/-- The protocol of an active transport is told of what arrived when a receive has ended. -/
theorem receiveEnded_active (active : transport.isActive = true)
    (listens : transport.protocol.isSome = true) (future : FutureId) (outcome : Except Error Bytes) :
    transport.Reads (some (.ends future outcome))
      ((transport.receiveEnded outcome).1.told (transport.receiveEnded outcome).2.2) := by
  have reads {later : Transport} (intake : Net.intake later.history =
      Net.intake transport.history ++ (ReadStep.ends future outcome).events)
      (status : later.status = .active → transport.status = .active) (none : later.reading = none) :
      transport.Reads (some (.ends future outcome)) later :=
    ⟨intake, status, nofun, fun _ _ _ => none⟩
  have still : Transport.isActive { transport with reading := none } = true := active
  have told (notice : Notice) := @tell_of_listens { transport with reading := none } listens notice
  unfold Transport.receiveEnded
  cases outcome with
  | error error =>
    have failed := receiveFailed { transport with reading := none } error
    refine reads (failed.intake.trans rfl) failed.active ?_
    exact (failed.kept rfl).elim id And.left
  | ok bytes =>
    dsimp only
    rw [still]
    cases bytes with
    | nil =>
      change transport.Reads _ (Transport.tell { transport with reading := none } .endOfStream)
      rw [told]
      exact reads (intake_append _ _) id rfl
    | cons byte bytes =>
      change transport.Reads _ (Transport.tell { transport with reading := none } (.data (byte :: bytes)))
      rw [told]
      exact reads (intake_append _ _) id rfl

end Reads

end Transport

/-! ## What a transport hears of -/

/-- What a transport will hear of its receives. -/
structure Awaiting (situation : Situation) : Prop where
  /-- Nothing is read before the transport begins to read. -/
  begins : 0 < situation.outlook.stirs.countP Callback.isStart → intake situation.transport.history = []
  /-- An active transport hears only of the end of the receive that is under way. -/
  awaits : situation.transport.status = .active → ∀ future ∈ situation.outlook.receipts,
    situation.transport.reading = some future

namespace Awaiting

variable {id : TransportId} {transport after : Transport} {outlook ahead : Outlook}

/-- Nothing is read and nothing more is to be heard of. -/
theorem quiet (awaiting : Awaiting ⟨transport, outlook⟩) (reads : transport.Reads none after)
    (starts : ahead.stirs.countP Callback.isStart ≤ outlook.stirs.countP Callback.isStart)
    (receipts : ahead.receipts ≤ outlook.receipts) : Awaiting ⟨after, ahead⟩ := by
  refine ⟨fun some => ?_, fun active future member => ?_⟩
  · exact reads.intake.trans (congrArg (· ++ _) (awaiting.begins (Nat.lt_of_lt_of_le some starts)))
  · have same := (reads.kept rfl).resolve_right fun gone => gone.2 active
    exact same.trans (awaiting.awaits (reads.active active) future (Multiset.mem_of_le receipts member))

/-- A receive has ended, and nothing else was to be heard of. -/
theorem received (telling : Telling id ⟨transport, outlook⟩) {future : FutureId}
    (due : future ∈ outlook.receipts) (after : Transport) (handing : Nat) (air : List Effect) :
    Awaiting ⟨after, { outlook with receipts := outlook.receipts.erase future, handing, air }⟩ := by
  have fewer := Multiset.card_erase_add_one due
  have reads := telling.reads
  unfold Outlook.reads at reads
  dsimp only at reads
  refine ⟨fun starts => ?_, fun _ other member => ?_⟩
  · dsimp only at starts
    omega
  · have some := Multiset.card_pos_iff_exists_mem.mpr ⟨other, member⟩
    dsimp only at some
    omega

/-- A receive is submitted, and nothing else was to be heard of. -/
theorem receives (telling : Telling id ⟨transport, outlook⟩) (future : FutureId) {rest : List Effect}
    (next : outlook.air = .receive :: rest) :
    Awaiting ⟨{ transport.note .receiving with reading := some future },
      { outlook with receipts := outlook.receipts + {future}, air := rest }⟩ := by
  have asked : outlook.air.countP Effect.isReceive = rest.countP Effect.isReceive + 1 := by
    rw [next]
    exact List.countP_cons_of_pos rfl
  have reads := telling.reads
  unfold Outlook.reads at reads
  dsimp only at reads
  have none : outlook.receipts = 0 := Multiset.card_eq_zero.mp (by omega)
  refine ⟨fun starts => ?_, fun _ other member => ?_⟩
  · dsimp only at starts
    omega
  · rw [none, zero_add, Multiset.mem_singleton] at member
    exact congrArg some member.symm

/-- Whatever happens, an active transport hears only of the receive that is under way. -/
theorem plays {before after : Situation} (plays : Plays id before after)
    (telling : Telling id before) (awaiting : Awaiting before) : Awaiting after := by
  cases plays with
  | lapse transport outlook receives => exact awaiting.quiet (.refl transport) (Nat.le_refl _) receives
  | made transport outlook settled next =>
    have starts : _ ≤ outlook.stirs.countP Callback.isStart :=
      List.Sublist.countP_le (next ▸ List.sublist_cons_self _ _)
    exact awaiting.quiet (.tell transport rfl) starts le_rfl
  | started transport outlook settled next =>
    have starts : _ ≤ outlook.stirs.countP Callback.isStart :=
      List.Sublist.countP_le (next ▸ List.sublist_cons_self _ _)
    rw [Transport.snd_receiveNext]
    exact awaiting.quiet (.refl transport) starts le_rfl
  | @lost transport outlook error rest settled next =>
    have starts : _ ≤ outlook.stirs.countP Callback.isStart :=
      List.Sublist.countP_le (next ▸ List.sublist_cons_self _ _)
    exact awaiting.quiet (.connectionLost transport error) starts le_rfl
  | received transport outlook outcome settled due => exact received telling due _ _ _
  | sent transport outlook error => exact awaiting.quiet (.sendEnded transport error) (Nat.le_refl _) le_rfl
  | written transport outlook data threshold =>
    exact awaiting.quiet (.write transport data threshold) (Nat.le_refl _) le_rfl
  | closed transport => exact awaiting.quiet (.close transport) (Nat.le_refl _) le_rfl
  | aborted transport => exact awaiting.quiet (.forceClose transport none) (Nat.le_refl _) le_rfl
  | handed transport =>
    rw [Transport.snd_receiveNext]
    exact awaiting.quiet (.refl transport) (Nat.le_refl _) le_rfl
  | shut transport => exact awaiting.quiet (.noted rfl rfl (fun active => active) rfl) (Nat.le_refl _) le_rfl
  | passed transport => exact awaiting.quiet (.refl transport) (Nat.le_refl _) le_rfl
  | announced transport outlook next =>
    refine awaiting.quiet (.noted rfl rfl (fun active => active) rfl) (Nat.le_of_eq ?_) le_rfl
    exact List.countP_append
  | receives transport outlook future next => exact receives telling future next
  | sends transport => exact awaiting.quiet (.noted rfl rfl (fun active => active) rfl) (Nat.le_refl _) le_rfl

end Awaiting

/-- Whatever is attained, an active transport hears only of the receive that is under way. -/
theorem Attained.awaiting {id : TransportId} {situation : Situation}
    (attained : Attained id situation) : Awaiting situation := by
  induction attained with
  | opened socket peer protocol reads =>
    exact ⟨fun _ => rfl, fun _ _ member => absurd member (Multiset.notMem_zero _)⟩
  | plays earlier plays ih => exact Awaiting.plays plays earlier.telling ih

end EventLoop.Net

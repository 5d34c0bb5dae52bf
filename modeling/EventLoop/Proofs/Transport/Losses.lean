import EventLoop.Proofs.Transport.Standing

/-!
# Lost writes

Data that is written to a transport that is not active any more is lost. Such writes are counted, and the
count begins with one when the transport leaves the active state. So the write that is warned about is the
one before which the threshold less two others were lost. There is one such write at most, and for a
threshold of one there is none.
-/
namespace EventLoop.Net

/-- Whether an event is a write that was lost. No data is no write. -/
def Event.isLostWrite : Event → Bool
  | .written data false => !data.isEmpty
  | .written _ true | .told _ | .submitted _ | .sent _ | .receiving | .closing | .discarded
  | .announced _ | .shut => false

/-- How many writes were lost. -/
def lostWrites (events : List Event) : Nat := events.countP Event.isLostWrite

/-- A lost write with which the count reaches the threshold. -/
structure Warned (threshold : Nat) (before : List Event) (event : Event) : Prop where
  /-- The write was lost. -/
  loses : event.isLostWrite = true
  /-- The count stood at one more than the writes that were lost before. -/
  reaches : lostWrites before + 2 = threshold

variable {events before after others rest : List Event} {event other : Event} {threshold : Nat}

/-- A history that gets one more event has one more lost write if the event is one. -/
theorem lostWrites_snoc : lostWrites (events ++ [event]) =
    lostWrites events + if event.isLostWrite then 1 else 0 := by
  unfold lostWrites
  rw [List.countP_append, List.countP_singleton]

/-- A lost write counts for all that comes later. -/
theorem lostWrites_lt (loses : event.isLostWrite = true) :
    lostWrites before < lostWrites (before ++ event :: after) := by
  unfold lostWrites
  rw [List.countP_append, List.countP_cons_of_pos loses]
  omega

namespace Warned

/-- One write of a history is warned about at most. -/
theorem unique (same : before ++ event :: after = others ++ other :: rest)
    (warned : Warned threshold before event) (again : Warned threshold others other) :
    before = others := by
  have level : lostWrites before = lostWrites others := by
    have first := warned.reaches
    have second := again.reaches
    omega
  rcases List.append_eq_append_iff.mp same with ⟨between, later, split⟩ | ⟨between, earlier, split⟩
  · cases between with
    | nil => exact (later.trans (List.append_nil _)).symm
    | cons first between =>
      cases split
      exact absurd level (Nat.ne_of_lt (later ▸ lostWrites_lt warned.loses))
  · cases between with
    | nil => exact earlier.trans (List.append_nil _)
    | cons first between =>
      cases split
      exact absurd level (Nat.ne_of_gt (earlier ▸ lostWrites_lt again.loses))

end Warned

/-- A write of a history is warned about once as many writes were lost as the threshold less one, but never
for a threshold of less than two. -/
theorem exists_warned_iff :
    (∃ before event after, events = before ++ event :: after ∧ Warned threshold before event) ↔
      2 ≤ threshold ∧ threshold ≤ lostWrites events + 1 := by
  constructor
  · rintro ⟨before, event, after, rfl, warned⟩
    have counts : lostWrites before < lostWrites (before ++ event :: after) := lostWrites_lt warned.loses
    have reaches := warned.reaches
    omega
  · rintro ⟨least, most⟩
    induction events using List.reverseRecOn with
    | nil =>
      have none : lostWrites [] = 0 := rfl
      omega
    | append_singleton events event ih =>
      by_cases earlier : threshold ≤ lostWrites events + 1
      · obtain ⟨before, first, after, rfl, warned⟩ := ih earlier
        exact ⟨before, first, after ++ [event], by rw [List.append_assoc, List.cons_append], warned⟩
      · rw [lostWrites_snoc] at most
        split at most
        · rename_i loses
          exact ⟨events, event, [], rfl, loses, by omega⟩
        · omega

/-! ## The count of a transport -/

namespace Transport

variable {transport other : Transport}

/-- The count is zero as long as the transport is active, and one more than the lost writes afterwards. -/
def Tallied (transport : Transport) : Prop :=
  transport.lost = (if transport.status = .active then 0 else 1) + lostWrites transport.history

namespace Tallied

/-- Whether the losses are tallied depends on the status, the count and the history alone. -/
theorem congr (tallied : Tallied transport) (status : other.status = transport.status)
    (lost : other.lost = transport.lost) (history : other.history = transport.history) :
    Tallied other := by
  unfold Tallied
  rw [status, lost, history]
  exact tallied

/-- Other events do not count. -/
theorem note (tallied : Tallied transport) {event : Event} (other : event.isLostWrite = false) :
    Tallied (transport.note event) := by
  unfold Tallied
  rw [history_note, lostWrites_snoc, other]
  exact tallied

/-- Telling a protocol something keeps the tally. -/
theorem tell (tallied : Tallied transport) (notice : Notice) : Tallied (transport.tell notice) := by
  unfold Transport.tell
  split
  · exact tallied.note rfl
  · exact tallied

/-- Announcing the loss of the connection keeps the tally. -/
theorem announceLoss (tallied : Tallied transport) (error : Option Error) :
    Tallied (transport.announceLoss error).2 := by
  unfold Transport.announceLoss
  split
  · exact tallied
  · exact tallied.congr rfl rfl rfl

/-- Sending what waits keeps the tally, since no write is lost by it. -/
theorem sendNext (tallied : Tallied transport) : Tallied transport.sendNext.2 := by
  unfold Transport.sendNext
  split
  · split
    · exact tallied.announceLoss none
    · exact tallied
  · exact tallied.congr rfl rfl rfl

/-- A transport that leaves the active state begins to count. -/
theorem begins (tallied : Tallied transport) (active : transport.status = .active) :
    Tallied { transport with status := .closing, lost := transport.lost + 1 } := by
  unfold Tallied at tallied ⊢
  rw [if_pos active, Nat.zero_add] at tallied
  rw [if_neg Status.noConfusion, tallied, Nat.add_comm]

/-- Closing keeps the tally: the count begins with one. -/
theorem close (tallied : Tallied transport) : Tallied transport.close.2 := by
  unfold Transport.close
  split
  · rename_i active
    have begun : Tallied { transport.note .closing with status := .closing, lost := transport.lost + 1 } :=
      (tallied.note rfl).begins active
    dsimp only
    split
    · exact begun.announceLoss none
    · exact begun
  · exact tallied

/-- Closing by force keeps the tally: the count begins with one unless it had begun. -/
theorem forceClose (tallied : Tallied transport) (error : Option Error) :
    Tallied (transport.forceClose error).2 := by
  cases announced : transport.announced with
  | true =>
    rw [forceClose_announced announced]
    exact tallied
  | false =>
    have begun : Tallied transport.beginClosing := by
      unfold beginClosing
      split
      · rename_i active
        exact tallied.begins active
      · exact tallied
    rw [forceClose_eq announced]
    have discards : Event.isLostWrite .discarded = false := rfl
    exact (begun.note discards).congr rfl rfl rfl

/-- A failure keeps the tally. -/
theorem fail (tallied : Tallied transport) (error : Error) : Tallied (transport.fail error).2 :=
  tallied.forceClose (some error)

/-- A receive that fails keeps the tally. -/
theorem receiveFailed (tallied : Tallied transport) (error : Error) :
    Tallied (transport.receiveFailed error).2 := by
  unfold Transport.receiveFailed
  split
  · exact tallied
  · split
    · exact tallied
    · split
      · exact tallied.forceClose (some error)
      · exact tallied.fail error

/-- A send that fails keeps the tally. -/
theorem sendFailed (tallied : Tallied transport) (error : Error) :
    Tallied (transport.sendFailed error).2 := by
  unfold Transport.sendFailed
  split
  · exact tallied
  · split
    · exact tallied.forceClose none
    · split
      · exact tallied.forceClose (some error)
      · exact tallied.fail error

/-- The end of a send keeps the tally. -/
theorem sendEnded (tallied : Tallied transport) (error : Option Error) :
    Tallied (transport.sendEnded error).2 := by
  have noted : Tallied { transport.note (.sent error) with writing := none } :=
    (tallied.note rfl).congr rfl rfl rfl
  cases error with
  | none => exact noted.sendNext
  | some error => exact noted.sendFailed error

/-- The end of a receive keeps the tally. -/
theorem receiveEnded (tallied : Tallied transport) (outcome : Except Error Bytes) :
    Tallied (transport.receiveEnded outcome).2.2 := by
  have idle : Tallied { transport with reading := none } := tallied.congr rfl rfl rfl
  unfold Transport.receiveEnded
  cases outcome with
  | error error => exact idle.receiveFailed error
  | ok data =>
    dsimp only
    split
    · exact idle
    · split
      · exact idle
      · exact idle

/-- Telling a protocol of what arrived keeps the tally. -/
theorem told (tallied : Tallied transport) (arrival : Arrival) : Tallied (arrival.told transport) := by
  cases arrival with
  | nothing => exact tallied
  | data bytes => exact tallied.tell (.data bytes)
  | endOfStream => exact tallied.tell .endOfStream

/-- A transport that is closed was not active before. -/
theorem connectionLost (tallied : Tallied transport) (inactive : transport.status ≠ .active)
    (error : Option Error) : Tallied (transport.connectionLost error) := by
  have told := tallied.tell (.lost error)
  have same : (transport.tell (.lost error)).status = transport.status := by
    unfold Transport.tell
    split
    · rfl
    · rfl
  unfold Tallied at told ⊢
  rw [same, if_neg inactive] at told
  exact told

end Tallied

/-- A transport to which data was written in vain: only the count has changed. -/
def dropped (transport : Transport) (data : Bytes) : Transport :=
  { transport.note (.written data false) with lost := lostWrites transport.history + 2 }

/-- Data that is written to a transport that is not active changes its count and nothing else, and the
write is warned about if the count reaches the threshold. -/
theorem write_of_inactive (tallied : Tallied transport) (inactive : transport.status ≠ .active)
    {data : Bytes} (some : data ≠ []) (threshold : Nat) : transport.write data threshold =
      (if lostWrites transport.history + 2 = threshold then [.warnLostWrites] else [],
        transport.dropped data) := by
  have counts : transport.lost = 1 + lostWrites transport.history := by
    unfold Tallied at tallied
    rwa [if_neg inactive] at tallied
  have passive : transport.isActive = false := beq_false_of_ne inactive
  have full : data.isEmpty = false := by simpa using some
  have next : transport.lost + 1 = lostWrites transport.history + 2 := by omega
  have positive : 0 < transport.lost := by omega
  unfold write
  dsimp only
  rw [passive, full, lost_note, next, if_neg Bool.false_ne_true, if_pos positive]
  rfl

/-- No data is no write. -/
theorem write_nil (transport : Transport) (threshold : Nat) :
    transport.write [] threshold = ([], transport.note (.written [] transport.isActive)) := rfl

/-- To send what waits calls for no warning. -/
theorem not_mem_sendNext (transport : Transport) : .warnLostWrites ∉ transport.sendNext.1 := by
  unfold sendNext announceLoss
  split
  · split
    · split
      · exact List.not_mem_nil
      · simp
    · exact List.not_mem_nil
  · simp

/-- A write to an active transport is not lost, and it is not warned about. -/
theorem write_of_active (tallied : Tallied transport)
    (counted : transport.lost = 0 ↔ transport.status = .active) (active : transport.status = .active)
    (data : Bytes) (threshold : Nat) :
    Tallied (transport.write data threshold).2 ∧
      .warnLostWrites ∉ (transport.write data threshold).1 := by
  have here : transport.isActive = true := beq_iff_eq.mpr active
  have none : transport.lost = 0 := counted.mpr active
  have idle : ¬ 0 < (transport.note (.written data true)).lost := by
    rw [lost_note, none]
    exact Nat.lt_irrefl 0
  have noted : Tallied (transport.note (.written data true)) := tallied.note rfl
  unfold write
  dsimp only
  rw [here, if_neg idle]
  split
  · exact ⟨noted, List.not_mem_nil⟩
  · have waits : Tallied { transport.note (.written data true) with
        buffer := (transport.note (.written data true)).buffer ++ data } := noted.congr rfl rfl rfl
    split
    · exact ⟨waits, List.not_mem_nil⟩
    · exact ⟨waits.sendNext, not_mem_sendNext _⟩

/-- A write keeps the tally: it is counted if it is lost. -/
theorem Tallied.write (tallied : Tallied transport)
    (counted : transport.lost = 0 ↔ transport.status = .active) (data : Bytes) (threshold : Nat) :
    Tallied (transport.write data threshold).2 := by
  by_cases active : transport.status = .active
  · exact (write_of_active tallied counted active data threshold).1
  · by_cases empty : data = []
    · subst empty
      rw [write_nil]
      refine tallied.note ?_
      cases transport.isActive with
      | true => rfl
      | false => rfl
    · rw [write_of_inactive tallied active empty]
      have loses : (Event.written data false).isLostWrite = true := by simp [Event.isLostWrite, empty]
      unfold Tallied dropped
      dsimp only
      rw [status_note, if_neg active, history_note, lostWrites_snoc, if_pos loses]
      omega

/-- The writes that are warned about are those with which the count reaches the threshold. -/
theorem mem_write_iff (tallied : Tallied transport)
    (counted : transport.lost = 0 ↔ transport.status = .active) (data : Bytes) (threshold : Nat) :
    .warnLostWrites ∈ (transport.write data threshold).1 ↔
      Warned threshold transport.history (.written data transport.isActive) := by
  by_cases active : transport.status = .active
  · have here : transport.isActive = true := beq_iff_eq.mpr active
    refine ⟨fun member => absurd member (write_of_active tallied counted active data threshold).2,
      fun warned => absurd warned.loses ?_⟩
    rw [here]
    exact Bool.false_ne_true
  · have passive : transport.isActive = false := beq_false_of_ne active
    rw [passive]
    by_cases empty : data = []
    · subst empty
      exact ⟨fun member => absurd member List.not_mem_nil, fun warned => absurd warned.loses Bool.false_ne_true⟩
    · have loses : (Event.written data false).isLostWrite = true := by simp [Event.isLostWrite, empty]
      rw [write_of_inactive tallied active empty]
      dsimp only
      split
      · rename_i reaches
        exact ⟨fun _ => ⟨loses, reaches⟩, fun _ => List.mem_singleton_self _⟩
      · rename_i misses
        exact ⟨fun member => absurd member List.not_mem_nil, fun warned => absurd warned.reaches misses⟩

end Transport

/-- Whatever happens to a transport, its count stays right. -/
theorem Transport.Tallied.plays {id : TransportId} {before after : Situation}
    (plays : Plays id before after)
    (standing : Standing before.transport before.outlook.stirs before.outlook.losing before.outlook.air)
    (tallied : before.transport.Tallied) : after.transport.Tallied := by
  cases plays with
  | lapse | passed => exact tallied
  | made => exact tallied.tell .made
  | started transport | handed transport =>
    rw [Transport.snd_receiveNext]
    exact tallied
  | lost transport outlook settled next =>
    -- The loss that is told was announced, which is never done while the transport is active.
    rename_i error rest
    have waits : 0 < outlook.stirs.countP Callback.isLoss := by
      rw [next]
      exact List.countP_pos_iff.mpr ⟨_, List.mem_cons_self, rfl⟩
    have announced := (standing.open_of_loss waits).1
    refine tallied.connectionLost (fun active => ?_) error
    exact Bool.false_ne_true ((standing.silent active).symm.trans announced)
  | received transport outlook outcome => exact (tallied.receiveEnded outcome).told _
  | sent transport outlook error => exact tallied.sendEnded error
  | written transport outlook data threshold => exact tallied.write standing.counted data threshold
  | closed => exact tallied.close
  | aborted => exact tallied.forceClose none
  | shut | announced => exact tallied.note rfl
  | receives transport outlook future | sends transport outlook future =>
    exact (tallied.note rfl).congr rfl rfl rfl

/-- The count of a transport is right whatever it has attained. -/
theorem Attained.tallied {id : TransportId} {situation : Situation}
    (attained : Attained id situation) : situation.transport.Tallied := by
  induction attained with
  | opened => rfl
  | plays attained plays ih => exact Transport.Tallied.plays plays attained.standing ih

end EventLoop.Net

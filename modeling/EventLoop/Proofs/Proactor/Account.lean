import EventLoop.Proofs.Proactor.Trial

/-!
# The account of the sends

The record of a trial adds up for a socket: the kernel took a first part of the data of each send, in the
order in which the sends were submitted, and an offer is made only for the first send that is not over.
-/
namespace EventLoop.Proactor

variable {σ : Type} {trial : Trial σ} {fd other : Fd} {future : FutureId} {sends later : List Sending}
variable {send : Sending}

namespace Trial

/-! ## The record -/

/-- The operation that ends is the only one that is over besides. -/
theorem isOver_conclude (trial : Trial σ) (future other : FutureId) (verdict : Verdict) :
    (trial.conclude future verdict).isOver other = (trial.isOver other || other == future) := by
  unfold conclude
  split
  · rename_i finished
    by_cases same : other = future
    · simp [same, finished]
    · simp [same]
  · by_cases same : other = future
    · subst same
      simp [isOver]
    · simp [isOver, same]

/-- A verdict that is found after an operation has ended is its own or was there before. -/
theorem verdicts_conclude {trial : Trial σ} {future other : FutureId} {verdict ended : Verdict}
    (found : (trial.conclude future verdict).verdicts other = some ended) :
    trial.verdicts other = some ended ∨ other = future ∧ ended = verdict := by
  unfold conclude at found
  split at found
  · exact Or.inl found
  · by_cases same : other = future
    · subst same
      simp only [Function.update_self, Option.some.injEq] at found
      exact Or.inr ⟨rfl, found.symm⟩
    · simp only [Function.update_of_ne same] at found
      exact Or.inl found

/-- No operation is made when one ends. -/
@[simp] theorem made_conclude (trial : Trial σ) (future : FutureId) (verdict : Verdict) :
    (trial.conclude future verdict).made = trial.made := by
  unfold conclude
  split <;> rfl

/-- Nothing is offered when an operation ends. -/
@[simp] theorem offers_conclude (trial : Trial σ) (future : FutureId) (verdict : Verdict) :
    (trial.conclude future verdict).offers = trial.offers := by
  unfold conclude
  split <;> rfl

/-- What was sent for an operation stays the same when one ends. -/
@[simp] theorem sent_conclude (trial : Trial σ) (future other : FutureId) (verdict : Verdict) :
    (trial.conclude future verdict).sent other = trial.sent other := by
  simp [sent]

/-- What was taken on a descriptor stays the same when an operation ends. -/
@[simp] theorem taken_conclude (trial : Trial σ) (future : FutureId) (verdict : Verdict) :
    (trial.conclude future verdict).taken fd = trial.taken fd := by
  simp [taken]

variable {kernel : σ} {data : Bytes} {answer : Except Errno Nat}

/-- The bytes that the kernel takes with one answer. -/
def portion (data : Bytes) : Except Errno Nat → Bytes
  | .ok count => data.take count
  | .error _ => []

/-- Whatever is on record after an offer was on record before, or is that offer. -/
theorem of_mem_offers_offer {offer : Offer}
    (member : offer ∈ (trial.offer kernel future fd data answer).offers) :
    offer ∈ trial.offers ∨ offer = ⟨future, fd, data, answer, trial.verdicts⟩ := by
  simpa [Trial.offer] using member

/-- The kernel takes the first bytes of what it is offered. -/
theorem portion_prefix (data : Bytes) (answer : Except Errno Nat) : portion data answer <+: data := by
  cases answer with
  | ok count => exact List.take_prefix _ _
  | error error => exact List.nil_prefix

/-- What the kernel takes of an offer is added to what was sent for the operation. -/
theorem sent_offer_self : (trial.offer kernel future fd data answer).sent future =
    trial.sent future ++ portion data answer := by
  cases answer <;> simp [sent, offer, portion, Offer.taken, List.filter_append]

/-- An offer for an operation adds nothing to what was sent for another one. -/
theorem sent_offer_of_ne {other : FutureId} (differ : future ≠ other) :
    (trial.offer kernel future fd data answer).sent other = trial.sent other := by
  simp [sent, offer, List.filter_append, differ]

/-- What the kernel takes of an offer is added to what was taken on the descriptor. -/
theorem taken_offer_self : (trial.offer kernel future fd data answer).taken fd =
    trial.taken fd ++ portion data answer := by
  cases answer <;> simp [taken, offer, portion, Offer.taken, List.filter_append]

/-- An offer on a descriptor adds nothing to what was taken on another one. -/
theorem taken_offer_of_ne (differ : fd ≠ other) :
    (trial.offer kernel future fd data answer).taken other = trial.taken other := by
  simp [taken, offer, List.filter_append, differ]

end Trial

/-! ## The account of the sends -/

/-- What the record of a trial says about the sends on a descriptor. -/
structure Account (fd : Fd) (sends : List Sending) (trial : Trial σ) : Prop where
  /-- The sends have futures that were made. -/
  made : ∀ send ∈ sends, send.future < trial.made
  /-- No two sends have one future. -/
  distinct : (sends.map Sending.future).Nodup
  /-- No operation is over whose future was not made. -/
  pending : ∀ future, trial.made ≤ future → trial.isOver future = false
  /-- No offer was made for a future that was not made. -/
  recorded : ∀ offer ∈ trial.offers, offer.future < trial.made
  /-- What was over when an offer was made is still over. -/
  past : ∀ offer ∈ trial.offers, ∀ future, offer.wasOver future → trial.isOver future = true
  /-- No send makes offers on another descriptor. -/
  astray : ∀ offer ∈ trial.offers, offer.fd ≠ fd → ∀ send ∈ sends, send.future ≠ offer.future
  /-- An offer on the descriptor is made for a send that is not over, when all earlier ones are. -/
  turns : ∀ offer ∈ trial.offers, offer.fd = fd → ∃ earlier send later,
    sends = earlier ++ send :: later ∧ offer.future = send.future ∧
      (∀ other ∈ earlier, offer.wasOver other.future) ∧ ¬ offer.wasOver send.future
  /-- The kernel took a first part of the data of each send. -/
  partly : ∀ send ∈ sends, trial.sent send.future <+: send.data
  /-- It took all the data of a send that ended well. -/
  wholly : ∀ send ∈ sends, ∀ completion,
    trial.verdicts send.future = some (.over (.ok completion)) → trial.sent send.future = send.data
  /-- It took the parts in the order of the sends. -/
  ordered : trial.taken fd = (sends.map fun send => trial.sent send.future).flatten

namespace Account

/-- Nothing was sent. -/
theorem nil (pending : ∀ future, trial.made ≤ future → trial.isOver future = false)
    (unoffered : trial.offers = []) : Account fd [] trial := by
  refine ⟨?_, List.nodup_nil, pending, ?_, ?_, ?_, ?_, ?_, ?_, ?_⟩ <;>
    simp [unoffered, Trial.taken]

/-- Calls that offer nothing leave the account alone. -/
theorem called (account : Account fd sends trial) (kernel : σ) :
    Account fd sends { trial with kernel } :=
  ⟨account.made, account.distinct, account.pending, account.recorded, account.past, account.astray,
    account.turns, account.partly, account.wholly, account.ordered⟩

/-- A future is made for something that is not a send on the descriptor. -/
theorem madeOther (account : Account fd sends trial) :
    Account fd sends { trial with made := trial.made + 1 } where
  made send member := Nat.lt_succ_of_lt (account.made send member)
  distinct := account.distinct
  pending future above := account.pending future (Nat.le_of_succ_le above)
  recorded offer member := Nat.lt_succ_of_lt (account.recorded offer member)
  past := account.past
  astray := account.astray
  turns := account.turns
  partly := account.partly
  wholly := account.wholly
  ordered := account.ordered

/-- Nothing was taken for a future without offers. -/
theorem sent_of_unmade (account : Account fd sends trial) (above : trial.made ≤ future) :
    trial.sent future = [] := by
  have none : trial.offers.filter (·.future == future) = [] := by
    apply List.filter_eq_nil_iff.mpr
    intro offer member same
    have below := account.recorded offer member
    rw [beq_iff_eq.mp same] at below
    exact Nat.not_lt_of_le above below
  simp [Trial.sent, none]

/-- A send is submitted. -/
theorem submitted (account : Account fd sends trial) (data : Bytes) :
    Account fd (sends ++ [⟨trial.made, data⟩]) { trial with made := trial.made + 1 } := by
  have unsent : trial.sent trial.made = [] := account.sent_of_unmade (Nat.le_refl _)
  refine ⟨?_, ?_, fun future above => account.pending future (Nat.le_of_succ_le above),
    fun offer member => Nat.lt_succ_of_lt (account.recorded offer member), account.past,
    ?_, ?_, ?_, ?_, ?_⟩
  · intro send member
    rcases List.mem_append.mp member with old | new
    · exact Nat.lt_succ_of_lt (account.made send old)
    · rw [List.mem_singleton.mp new]
      exact Nat.lt_succ_self _
  · rw [List.map_append]
    refine List.nodup_append.mpr ⟨account.distinct, List.nodup_singleton _, ?_⟩
    intro future old other new same
    obtain ⟨send, member, rfl⟩ := List.mem_map.mp old
    have below := account.made send member
    rw [same, List.mem_singleton.mp new] at below
    exact Nat.lt_irrefl _ below
  · intro offer member elsewhere send listed same
    rcases List.mem_append.mp listed with old | new
    · exact account.astray offer member elsewhere send old same
    · have below := account.recorded offer member
      rw [← same, List.mem_singleton.mp new] at below
      exact Nat.lt_irrefl _ below
  · intro offer member here
    obtain ⟨earlier, send, later, rfl, rest⟩ := account.turns offer member here
    exact ⟨earlier, send, later ++ [⟨trial.made, data⟩], by simp, rest⟩
  · intro send member
    rcases List.mem_append.mp member with old | new
    · exact account.partly send old
    · rw [List.mem_singleton.mp new]
      change trial.sent trial.made <+: data
      rw [unsent]
      exact List.nil_prefix
  · intro send member completion well
    rcases List.mem_append.mp member with old | new
    · exact account.wholly send old completion well
    · rw [List.mem_singleton.mp new] at well
      have pending := account.pending trial.made (Nat.le_refl _)
      change trial.verdicts trial.made = some _ at well
      rw [Trial.isOver, well] at pending
      cases pending
  · have same : trial.taken fd = (sends.map fun send => trial.sent send.future).flatten :=
      account.ordered
    have last : ((sends ++ [Sending.mk trial.made data]).map fun send => trial.sent send.future).flatten =
        (sends.map fun send => trial.sent send.future).flatten := by simp [unsent]
    exact same.trans last.symm

/-- An operation is over; if it is a send that ended well, all its data was taken. -/
theorem concluded (account : Account fd sends trial) (made : future < trial.made) (verdict : Verdict)
    (fulfilled : ∀ send ∈ sends, send.future = future → ∀ completion,
      verdict = .over (.ok completion) → trial.sent future = send.data) :
    Account fd sends (trial.conclude future verdict) := by
  refine ⟨?_, account.distinct, ?_, ?_, ?_, ?_, ?_, ?_, ?_, ?_⟩
  · simpa using account.made
  · intro other above
    rw [Trial.made_conclude] at above
    have pending := account.pending other above
    have differ : other ≠ future := fun same => Nat.not_lt_of_le above (same ▸ made)
    simp [Trial.isOver_conclude, pending, differ]
  · simpa using account.recorded
  · intro offer member other finished
    rw [Trial.offers_conclude] at member
    rw [Trial.isOver_conclude, account.past offer member other finished]
    rfl
  · simpa using account.astray
  · simpa using account.turns
  · simpa using account.partly
  · intro send member completion well
    rw [Trial.sent_conclude]
    rcases Trial.verdicts_conclude well with old | ⟨same, ended⟩
    · exact account.wholly send member completion old
    · rw [same]
      exact fulfilled send member same completion ended.symm
  · simpa using account.ordered

/-- An offer on another descriptor is none of the sends'. -/
theorem offeredElsewhere (account : Account fd sends trial) (made : future < trial.made)
    (foreign : ∀ send ∈ sends, send.future ≠ future) (elsewhere : other ≠ fd) (kernel : σ)
    (data : Bytes) (answer : Except Errno Nat) :
    Account fd sends (trial.offer kernel future other data answer) where
  made := account.made
  distinct := account.distinct
  pending := account.pending
  recorded offer member := by
    rcases Trial.of_mem_offers_offer member with old | rfl
    · exact account.recorded offer old
    · exact made
  past offer member future finished := by
    rcases Trial.of_mem_offers_offer member with old | rfl
    · exact account.past offer old future finished
    · exact finished
  astray offer member away := by
    rcases Trial.of_mem_offers_offer member with old | rfl
    · exact account.astray offer old away
    · exact foreign
  turns offer member here := by
    rcases Trial.of_mem_offers_offer member with old | rfl
    · exact account.turns offer old here
    · exact absurd here elsewhere
  partly send member := by
    rw [Trial.sent_offer_of_ne (foreign send member).symm]
    exact account.partly send member
  wholly send member completion well := by
    rw [Trial.sent_offer_of_ne (foreign send member).symm]
    exact account.wholly send member completion well
  ordered := by
    rw [Trial.taken_offer_of_ne elsewhere, account.ordered]
    congr 1
    exact List.map_congr_left fun send member =>
      (Trial.sent_offer_of_ne (foreign send member).symm).symm

/-- In a list without repetitions, what stands before an entry also stands before a later one. -/
theorem mem_of_later {α : Type} {entry last : α} {earlier later before rest : List α}
    (distinct : (earlier ++ entry :: later).Nodup)
    (split : earlier ++ entry :: later = before ++ last :: rest) (member : last ∈ later) :
    entry ∈ before := by
  induction earlier generalizing before with
  | nil =>
    cases before with
    | nil =>
      obtain ⟨rfl, -⟩ := List.cons.inj split
      exact absurd member (List.nodup_cons.mp distinct).1
    | cons first before =>
      obtain ⟨rfl, -⟩ := List.cons.inj split
      exact List.mem_cons_self
  | cons head earlier ih =>
    obtain ⟨apart, distinct⟩ := List.nodup_cons.mp distinct
    cases before with
    | nil =>
      obtain ⟨rfl, -⟩ := List.cons.inj split
      exact absurd (List.mem_append_right _ (List.mem_cons_of_mem _ member)) apart
    | cons first before =>
      obtain ⟨-, split⟩ := List.cons.inj split
      exact List.mem_cons_of_mem _ (ih distinct split)

/-- Nothing was taken for a send before which another one waits. -/
theorem sent_of_later {earlier : List Sending} (account : Account fd (earlier ++ send :: later) trial)
    (waits : trial.isOver send.future = false) (last : Sending) (member : last ∈ later) :
    trial.sent last.future = [] := by
  have none : trial.offers.filter (·.future == last.future) = [] := by
    apply List.filter_eq_nil_iff.mpr
    intro offer recorded same
    have own : offer.future = last.future := beq_iff_eq.mp same
    have listed : last ∈ earlier ++ send :: later := by simp [member]
    have here : offer.fd = fd := by
      by_contra away
      exact account.astray offer recorded away last listed own.symm
    obtain ⟨before, served, rest, split, turn, finished, -⟩ := account.turns offer recorded here
    have equal : served = last :=
      List.inj_on_of_nodup_map account.distinct (split ▸ by simp) listed (turn.symm.trans own)
    have placed : send ∈ before :=
      mem_of_later (List.Nodup.of_map _ account.distinct) (equal ▸ split) member
    have gone := account.past offer recorded send.future (finished send placed)
    rw [waits] at gone
    cases gone
  simp [Trial.sent, none]

/-- What a send has left. -/
theorem rest_of_partly {whole first : Bytes} (partly : first <+: whole) :
    whole = first ++ whole.drop first.length := by
  obtain ⟨rest, rfl⟩ := partly
  simp

/-- A send and those around it. -/
theorem around {earlier : List Sending} {one : Sending} (listed : one ∈ earlier ++ send :: later) :
    one = send ∨ one ∈ earlier ∨ one ∈ later := by
  rcases List.mem_append.mp listed with before | behind
  · exact Or.inr (Or.inl before)
  · exact (List.mem_cons.mp behind).imp_right Or.inr

/-- An offer of one send leaves alone what was taken for those around it. -/
theorem sent_offer_around {earlier : List Sending} {one : Sending}
    (account : Account fd (earlier ++ send :: later) trial) (member : one ∈ earlier ∨ one ∈ later)
    (kernel : σ) (data : Bytes) (answer : Except Errno Nat) :
    (trial.offer kernel send.future other data answer).sent one.future = trial.sent one.future := by
  have distinct := account.distinct
  simp only [List.map_append, List.map_cons] at distinct
  obtain ⟨-, fresh, apart⟩ := List.nodup_append.mp distinct
  refine Trial.sent_offer_of_ne fun same => ?_
  rcases member with before | behind
  · exact apart _ (List.mem_map_of_mem before) _ List.mem_cons_self same.symm
  · refine (List.nodup_cons.mp fresh).1 ?_
    rw [same]
    exact List.mem_map_of_mem behind

/-- Nothing was taken for sends of which nothing was sent. -/
theorem flatten_unsent (unsent : ∀ one ∈ later, trial.sent one.future = []) :
    (later.map fun one => trial.sent one.future).flatten = [] := by
  simpa using unsent

/-- While a send waits, everything that was taken is of the earlier ones and of its own. -/
theorem taken_of_waits {earlier : List Sending}
    (account : Account fd (earlier ++ send :: later) trial)
    (waits : trial.isOver send.future = false) :
    trial.taken fd =
      (earlier.map fun one => trial.sent one.future).flatten ++ trial.sent send.future := by
  have behind := flatten_unsent (account.sent_of_later waits)
  rw [account.ordered]
  simp only [List.map_append, List.map_cons, List.flatten_append, List.flatten_cons, behind,
    List.append_nil]

/-- A send whose turn it is offers what is left of its data. -/
theorem offered {earlier : List Sending} (account : Account fd (earlier ++ send :: later) trial)
    (finished : ∀ other ∈ earlier, trial.isOver other.future = true)
    (waits : trial.isOver send.future = false) (kernel : σ) (answer : Except Errno Nat) :
    Account fd (earlier ++ send :: later)
      (trial.offer kernel send.future fd (send.data.drop (trial.sent send.future).length)
        answer) where
  made := account.made
  distinct := account.distinct
  pending := account.pending
  recorded offer member := by
    rcases Trial.of_mem_offers_offer member with old | rfl
    · exact account.recorded offer old
    · exact account.made send (by simp)
  past offer member future gone := by
    rcases Trial.of_mem_offers_offer member with old | rfl
    · exact account.past offer old future gone
    · exact gone
  astray offer member away := by
    rcases Trial.of_mem_offers_offer member with old | rfl
    · exact account.astray offer old away
    · exact absurd rfl away
  turns offer member here := by
    rcases Trial.of_mem_offers_offer member with old | rfl
    · exact account.turns offer old here
    · refine ⟨earlier, send, later, rfl, rfl, finished, fun gone => ?_⟩
      have isOver : trial.isOver send.future = true := gone
      rw [waits] at isOver
      cases isOver
  partly one member := by
    rcases around member with rfl | apart
    · rw [Trial.sent_offer_self]
      conv => rhs; rw [rest_of_partly (account.partly one member)]
      exact (List.prefix_append_right_inj _).mpr (Trial.portion_prefix _ answer)
    · rw [account.sent_offer_around apart]
      exact account.partly one member
  wholly one member completion well := by
    rcases around member with rfl | apart
    · have ended : trial.verdicts one.future = some (.over (.ok completion)) := well
      rw [Trial.isOver, ended] at waits
      cases waits
    · rw [account.sent_offer_around apart]
      exact account.wholly one member completion well
  ordered := by
    have before : (earlier.map fun one => (trial.offer kernel send.future fd
        (send.data.drop (trial.sent send.future).length) answer).sent one.future) =
          earlier.map fun one => trial.sent one.future :=
      List.map_congr_left fun one member => account.sent_offer_around (Or.inl member) ..
    have behind : (later.map fun one => (trial.offer kernel send.future fd
        (send.data.drop (trial.sent send.future).length) answer).sent one.future).flatten = [] := by
      refine flatten_unsent fun one member => ?_
      rw [account.sent_offer_around (Or.inr member)]
      exact account.sent_of_later waits one member
    simp only [List.map_append, List.map_cons, List.flatten_append, List.flatten_cons, before, behind,
      Trial.sent_offer_self, List.append_nil]
    rw [Trial.taken_offer_self, account.taken_of_waits waits, List.append_assoc]

end Account

end EventLoop.Proactor

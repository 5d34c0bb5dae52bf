import EventLoop.Proofs.Proactor.Line

/-!
# Turns

Whatever the engine does on trial keeps the law of the line: each system call of an attempt, each turn of
a queue, and so each submission and each poll.
-/
namespace EventLoop.Proactor

variable {σ : Type} {kernel : System σ} {trial : Trial σ} {fd descriptor : Fd} {future : FutureId}
variable {sends : List Sending} {operation : Operation} {queue : List Operation} {queues : Queues}
variable {direction : Direction} {request : Request}

/-! ## Attempts -/

/-- What is left of a request after a call. -/
def Progress.rest (request : Request) : Progress → Request
  | done _ => request
  | again rest | blocked rest => rest

/-- An operation is first in a queue, and not over. -/
structure Serves (fd : Fd) (sends : List Sending) (queues : Queues) (descriptor : Fd)
    (direction : Direction) (queue : List Operation) (future : FutureId) (request : Request)
    (trial : Trial σ) : Prop where
  /-- The law holds. -/
  law : Law fd sends (queues.set descriptor direction (⟨request, future⟩ :: queue)) trial
  /-- The operation is not over. -/
  waits : trial.isOver future = false

/-- All data of a send was taken. -/
def Fulfilled (sends : List Sending) (future : FutureId) (trial : Trial σ) : Prop :=
  ∀ send ∈ sends, send.future = future → trial.sent future = send.data

namespace Serves

/-- What is not a send has nothing to fulfil. -/
theorem fulfilled (serves : Serves fd sends queues descriptor direction queue future request trial)
    (plain : request.isSend = false) : Fulfilled sends future trial := by
  rcases serves.law.head with ⟨-, -, earlier, send, later, -, same, -, -⟩ | ⟨foreign, -⟩
  · have sending : (⟨request, future⟩ : Operation).request.isSend = true := by rw [same]; rfl
    simp only [plain] at sending
    cases sending
  · intro send member own
    exact absurd own (foreign.apart send member)

/-- A send that has no data left is fulfilled. -/
theorem fulfilled_of_empty
    (serves : Serves fd sends queues descriptor direction queue future (.send []) trial) :
    Fulfilled sends future trial := by
  intro send member own
  rcases serves.law.head with ⟨-, -, earlier, turn, later, split, same, -, -⟩ | ⟨foreign, -⟩
  · obtain ⟨left, own'⟩ := Operation.mk.inj same
    have listed : turn ∈ sends := by rw [split]; simp
    have equal : send = turn :=
      List.inj_on_of_nodup_map serves.law.account.distinct member listed (own.trans own')
    subst equal
    have whole := Account.rest_of_partly (serves.law.account.partly send member)
    rw [← Request.send.inj left, List.append_nil] at whole
    rw [own']
    exact whole.symm
  · exact absurd own (foreign.apart send member)

/-- A call of the kernel that offers nothing. -/
theorem called (serves : Serves fd sends queues descriptor direction queue future request trial)
    (kernel : σ) :
    Serves fd sends queues descriptor direction queue future request { trial with kernel } :=
  ⟨serves.law.called kernel, serves.waits⟩

/-- The kernel is offered what is left. -/
theorem offered {data : Bytes}
    (serves : Serves fd sends queues descriptor direction queue future (.send data) trial)
    (after : σ) (answer : Except Errno Nat) :
    Serves fd sends queues descriptor direction queue future
      (.send (data.drop (Trial.portion data answer).length))
      (trial.offer after future descriptor data answer) := by
  refine ⟨?_, serves.waits⟩
  rcases serves.law.head with
    ⟨rfl, rfl, earlier, send, later, rfl, same, finished, rest⟩ | ⟨foreign, left⟩
  · obtain ⟨left, rfl⟩ := Operation.mk.inj same
    obtain rfl := Request.send.inj left
    have account := serves.law.account.offered finished serves.waits after answer
    set reached := trial.offer after send.future descriptor
      (send.data.drop (trial.sent send.future).length) answer with reachedEq
    have sent (one : Sending) (member : one ∈ later) :
        reached.sent one.future = trial.sent one.future :=
      serves.law.account.sent_offer_around (Or.inr member) ..
    have first : (⟨.send ((send.data.drop (trial.sent send.future).length).drop
        (Trial.portion (send.data.drop (trial.sent send.future).length) answer).length),
          send.future⟩ : Operation) = reached.operationOf send := by
      rw [Trial.operationOf, Trial.sent_offer_self, List.length_append, List.drop_drop]
    rw [first]
    refine ⟨account, ?_, ?_, ?_⟩
    · have behind : Line reached later queue := rest.congr (fun _ gone => gone) sent
      rw [Queues.set_self]
      exact behind.waits.append finished
    · intro one member
      rw [Queues.set_of_ne (by simp)] at member
      refine serves.law.plain one ?_
      rwa [Queues.set_of_ne (by simp)]
    · intro place way one member plain
      have old := serves.law.foreign place way one
      by_cases here : place = descriptor ∧ way = .writing
      · obtain ⟨rfl, rfl⟩ := here
        rw [Queues.set_self] at member old
        rcases List.mem_cons.mp member with rfl | before
        · exact absurd (plain rfl) (by simp [Trial.operationOf, Request.isSend])
        · exact old (List.mem_cons_of_mem _ before) plain
      · rw [Queues.set_of_ne here] at member old
        exact old member plain
  · have elsewhere : descriptor ≠ fd := fun here => Bool.noConfusion (foreign.plain here)
    have account := serves.law.account.offeredElsewhere foreign.made foreign.apart
      elsewhere after data answer
    have kept : Law fd sends (queues.set descriptor direction queue)
        (trial.offer after future descriptor data answer) :=
      left.of_account account rfl (fun _ gone => gone) fun send member =>
        Trial.sent_offer_of_ne (foreign.apart send member).symm
    exact kept.cons ⟨fun here => absurd here elsewhere, foreign.made, foreign.apart⟩

end Serves

/-- One call of an attempt. -/
theorem ensures_call (request : Request) :
    Ensures (Serves fd sends queues descriptor direction queue future request)
      (request.call (Trial.system kernel) descriptor future) fun progress reached =>
        Serves fd sends queues descriptor direction queue future (progress.rest request) reached ∧
          ∀ completion, progress = .done (.ok completion) → Fulfilled sends future reached := by
  -- A failure leaves the request as it is, and the operation did not end well.
  have failed (error : IoError) (request : Request) {reached : Trial σ}
      (serves : Serves fd sends queues descriptor direction queue future request reached) :
      Serves fd sends queues descriptor direction queue future
        ((Progress.ofFailure error request).rest request) reached ∧
          ∀ completion, Progress.ofFailure error request = .done (.ok completion) →
            Fulfilled sends future reached := by
    unfold Progress.ofFailure
    split
    · exact ⟨serves, fun _ same => by cases same⟩
    · exact ⟨serves, fun _ same => by cases same⟩
    · refine ⟨serves, fun completion same => ?_⟩
      cases same
  cases request with
  | receive limit =>
    refine Ensures.bind (fun _ => Serves fd sends queues descriptor direction queue future
      (.receive limit)) (fun trial serves => serves.called _) fun answer trial serves => ?_
    cases answer with
    | ok data => exact ⟨serves, fun _ _ => serves.fulfilled rfl⟩
    | error error => exact failed _ _ serves
  | send data =>
    simp only [Request.call]
    split
    · rename_i empty
      rw [List.isEmpty_iff.mp empty]
      exact fun trial serves => ⟨serves, fun _ _ => serves.fulfilled_of_empty⟩
    · refine Ensures.bind (fun answer => Serves fd sends queues descriptor direction queue
        future (.send (data.drop (Trial.portion data answer).length)))
        (fun trial serves => serves.offered _ _) fun answer trial serves => ?_
      cases answer with
      | ok count =>
        have same : data.drop (Trial.portion data (.ok count)).length = data.drop count := by
          rw [Trial.portion, List.length_take]
          rcases Nat.le_total count data.length with within | beyond
          · rw [Nat.min_eq_left within]
          · rw [Nat.min_eq_right beyond, List.drop_length, List.drop_eq_nil_of_le beyond]
        rw [same] at serves
        exact ⟨serves, fun _ same => by cases same⟩
      | error error => exact failed _ _ serves
  | connect =>
    refine Ensures.bind (fun _ => Serves fd sends queues descriptor direction queue future
      .connect) (fun trial serves => serves.called _) fun answer trial serves => ?_
    have fulfilled := serves.fulfilled rfl
    split <;> exact ⟨serves, fun _ _ => fulfilled⟩
  | accept =>
    refine Ensures.bind (fun _ => Serves fd sends queues descriptor direction queue future
      .accept) (fun trial serves => serves.called _) fun answer trial serves => ?_
    split
    · exact ⟨serves, fun _ _ => serves.fulfilled rfl⟩
    · exact failed _ _ serves

/-- The calls of an attempt. -/
theorem ensures_attemptWithin (calls : Nat) (request : Request) :
    Ensures (Serves fd sends queues descriptor direction queue future request)
      (Request.attemptWithin (Trial.system kernel) descriptor future calls request)
      fun result reached => match result with
        | .error left => Serves fd sends queues descriptor direction queue future left reached
        | .ok outcome => (∃ left, Serves fd sends queues descriptor direction queue future left reached) ∧
            ∀ completion, outcome = .ok completion → Fulfilled sends future reached := by
  induction calls generalizing request with
  | zero => exact fun trial serves => serves
  | succ calls ih =>
    refine Ensures.bind _ (ensures_call request) fun progress trial ⟨serves, fulfilled⟩ => ?_
    cases progress with
    | done outcome => exact ⟨⟨_, serves⟩, fun completion same => fulfilled completion (congrArg _ same)⟩
    | again left => exact ih left trial serves
    | blocked left => exact serves

/-- An attempt. -/
theorem ensures_attempt (request : Request) :
    Ensures (Serves fd sends queues descriptor direction queue future request)
      (request.attempt (Trial.system kernel) descriptor future)
      fun result reached => match result with
        | .error left => Serves fd sends queues descriptor direction queue future left reached
        | .ok outcome => (∃ left, Serves fd sends queues descriptor direction queue future left reached) ∧
            ∀ completion, outcome = .ok completion → Fulfilled sends future reached :=
  fun trial serves => ensures_attemptWithin _ request trial serves

/-! ## The turns of a queue -/

/-- An operation that is over does not end again. -/
theorem Trial.conclude_of_over {verdict : Verdict} (finished : trial.isOver future = true) :
    trial.conclude future verdict = trial := by simp [Trial.conclude, finished]

/-- The operations of a queue are tried in their order. -/
theorem ensures_retry (queue : List Operation) :
    Ensures (fun trial => Law fd sends (queues.set descriptor direction queue) trial)
      (Engine.retry (Trial.system kernel) descriptor queue)
      fun left reached => Law fd sends (queues.set descriptor direction left) reached := by
  induction queue with
  | nil => exact fun trial law => law
  | cons operation rest ih =>
    refine Ensures.get fun trial => ?_
    split
    · rename_i finished
      refine Ensures.bind (fun _ => Law fd sends (queues.set descriptor direction rest)) ?_ fun _ => ih
      rintro _ ⟨rfl, law⟩
      change Law fd sends _ (Trial.conclude _ operation.future .abandoned)
      rw [Trial.conclude_of_over finished]
      exact law.tail finished
    · rename_i waits
      have tried : Ensures (Serves fd sends queues descriptor direction rest operation.future
          operation.request) (operation.request.attempt (Trial.system kernel) descriptor operation.future)
          _ := ensures_attempt _
      refine Ensures.bind _ (tried.weaken ?_) fun result => ?_
      · rintro _ ⟨rfl, law⟩
        exact ⟨law, Bool.not_eq_true _ ▸ waits⟩
      · cases result with
        | error left => exact fun _ serves => serves.law
        | ok outcome =>
          refine Ensures.bind (fun _ => Law fd sends (queues.set descriptor direction rest)) ?_
            fun _ => ih
          rintro reached ⟨⟨left, serves⟩, fulfilled⟩
          have ended := serves.law.concluded serves.law.made_head (.over outcome)
            fun send member own completion well =>
              fulfilled completion (Verdict.over.inj well) send member own
          refine ended.tail ?_
          rw [Trial.isOver_conclude]
          simp

/-- Those who are over are passed over, and nothing else happens. -/
theorem passOver_eq (queue : List Operation) (trial : Trial σ) :
    Engine.passOver (Trial.system kernel) queue trial =
      (queue.filter fun operation => !trial.isOver operation.future, trial) := by
  induction queue with
  | nil => rfl
  | cons operation rest ih =>
    by_cases finished : trial.isOver operation.future = true
    · have isDone : (Trial.system kernel).isDone trial operation.future = true := finished
      have passed : trial.conclude operation.future .abandoned = trial := Trial.conclude_of_over finished
      have goesOn : Engine.passOver (Trial.system kernel) (operation :: rest) trial =
          Engine.passOver (Trial.system kernel) rest (trial.conclude operation.future .abandoned) := by
        change (if (Trial.system kernel).isDone trial operation.future = true then _ else _ :
          StateM (Trial σ) _) trial = _
        rw [if_pos isDone]
        rfl
      rw [goesOn, passed, ih, List.filter_cons_of_neg (by simp [finished])]
    · have isDone : ¬ (Trial.system kernel).isDone trial operation.future = true := finished
      have goesOn : Engine.passOver (Trial.system kernel) (operation :: rest) trial =
          (operation :: (Engine.passOver (Trial.system kernel) rest trial).1,
            (Engine.passOver (Trial.system kernel) rest trial).2) := by
        change (if (Trial.system kernel).isDone trial operation.future = true then _ else _ :
          StateM (Trial σ) _) trial = _
        rw [if_neg isDone]
        rfl
      rw [goesOn, ih, List.filter_cons_of_pos (by simp [finished])]

/-- Operations end in one way, but not well. -/
theorem ensures_settleAll {verdict : Verdict} (operations : List Operation)
    (ill : ∀ completion, verdict ≠ .over (.ok completion)) :
    Ensures (fun trial => Law fd sends queues trial ∧ ∀ operation ∈ operations,
        operation.future < trial.made)
      (Engine.settleAll (Trial.system kernel) verdict operations) fun _ reached =>
        Law fd sends queues reached ∧ ∀ operation ∈ operations,
          reached.isOver operation.future = true := by
  -- Nobody becomes pending again, so the induction is on any set of futures that are over already.
  have all (operations : List Operation) (trial : Trial σ) (law : Law fd sends queues trial)
      (made : ∀ operation ∈ operations, operation.future < trial.made) :
      let reached := (Engine.settleAll (Trial.system kernel) verdict operations trial).2
      Law fd sends queues reached ∧
        (∀ future, trial.isOver future = true → reached.isOver future = true) ∧
          ∀ operation ∈ operations, reached.isOver operation.future = true := by
    induction operations generalizing trial with
    | nil => exact ⟨law, fun _ finished => finished, fun _ member => nomatch member⟩
    | cons first rest ih =>
      have ended : Law fd sends queues (trial.conclude first.future verdict) :=
        law.concluded (made first List.mem_cons_self) verdict fun _ _ _ completion well =>
          absurd well (ill completion)
      obtain ⟨law, kept, finished⟩ := ih (trial.conclude first.future verdict) ended
          fun operation member => by
        rw [Trial.made_conclude]
        exact made operation (List.mem_cons_of_mem _ member)
      refine ⟨law, ?_, ?_⟩
      · intro future gone
        refine kept future ?_
        rw [Trial.isOver_conclude, gone]
        rfl
      · intro operation member
        rcases List.mem_cons.mp member with rfl | member
        · refine kept operation.future ?_
          rw [Trial.isOver_conclude]
          simp
        · exact finished operation member
  intro trial ⟨law, made⟩
  obtain ⟨law, -, finished⟩ := all operations trial law made
  exact ⟨law, finished⟩

end EventLoop.Proactor

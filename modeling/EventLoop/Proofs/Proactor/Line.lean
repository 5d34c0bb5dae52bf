import EventLoop.Proofs.Proactor.Account

/-!
# The line of sends

The sends on a socket form a line. Those that are not over wait in the writing queue of its descriptor in
the order in which they were submitted, each with the rest of its data. `Law` says so of all queues of
the engine, and each thing that the engine does to a queue keeps it.
-/
namespace EventLoop.Proactor

variable {σ : Type} {trial after : Trial σ} {fd descriptor : Fd} {future : FutureId}
variable {sends : List Sending} {send : Sending} {operation : Operation} {queue : List Operation}
variable {direction : Direction}

/-! ## The line -/

/-- The operation of a send with what is left of its data. -/
def Trial.operationOf (trial : Trial σ) (send : Sending) : Operation :=
  ⟨.send (send.data.drop (trial.sent send.future).length), send.future⟩

/-- The sends that are not over wait in a queue in their order. -/
inductive Line (trial : Trial σ) : List Sending → List Operation → Prop
  /-- Nobody waits. -/
  | nil : Line trial [] []
  /-- A send that is over need not wait. -/
  | ended {send : Sending} {sends : List Sending} {queue : List Operation}
      (finished : trial.isOver send.future = true) (rest : Line trial sends queue) :
      Line trial (send :: sends) queue
  /-- A send waits. -/
  | waits {send : Sending} {sends : List Sending} {queue : List Operation}
      (rest : Line trial sends queue) : Line trial (send :: sends) (trial.operationOf send :: queue)
  /-- Something else waits. -/
  | other {operation : Operation} {sends : List Sending} {queue : List Operation}
      (plain : operation.request.isSend = false) (rest : Line trial sends queue) :
      Line trial sends (operation :: queue)

namespace Line

/-- A line depends on which sends are over and on what was taken for each of them. -/
theorem congr (line : Line trial sends queue)
    (finished : ∀ future, trial.isOver future = true → after.isOver future = true)
    (sent : ∀ send ∈ sends, after.sent send.future = trial.sent send.future) :
    Line after sends queue := by
  induction line with
  | nil => exact .nil
  | ended gone _ ih =>
    exact .ended (finished _ gone) (ih fun send member => sent send (List.mem_cons_of_mem _ member))
  | @waits send sends queue _ ih =>
    have same : trial.operationOf send = after.operationOf send := by
      simp [Trial.operationOf, sent send List.mem_cons_self]
    rw [same]
    exact .waits (ih fun send member => sent send (List.mem_cons_of_mem _ member))
  | other plain _ ih => exact .other plain (ih sent)

/-- Whoever is over may leave the line. -/
theorem filter (line : Line trial sends queue) :
    Line trial sends (queue.filter fun operation => !trial.isOver operation.future) := by
  induction line with
  | nil => exact .nil
  | ended gone _ ih => exact .ended gone ih
  | @waits send sends queue _ ih =>
    by_cases gone : trial.isOver send.future = true
    · rw [List.filter_cons_of_neg (by simp [Trial.operationOf, gone])]
      exact .ended gone ih
    · rw [List.filter_cons_of_pos (by simp [Trial.operationOf, gone])]
      exact .waits ih
  | @other operation sends queue plain _ ih =>
    by_cases gone : trial.isOver operation.future = true
    · rw [List.filter_cons_of_neg (by simp [gone])]
      exact ih
    · rw [List.filter_cons_of_pos (by simp [gone])]
      exact .other plain ih

/-- The first one in the line is a send before which all are over, or something else. -/
theorem head (line : Line trial sends (operation :: queue)) :
    (∃ earlier send later, sends = earlier ++ send :: later ∧ operation = trial.operationOf send ∧
      (∀ one ∈ earlier, trial.isOver one.future = true) ∧ Line trial later queue) ∨
    operation.request.isSend = false ∧ Line trial sends queue := by
  generalize waiting : operation :: queue = whole at line
  induction line with
  | nil => cases waiting
  | @ended gone sends whole finished _ ih =>
    rcases ih waiting with ⟨earlier, send, later, rfl, same, before, rest⟩ | ⟨plain, rest⟩
    · refine Or.inl ⟨gone :: earlier, send, later, rfl, same, ?_, rest⟩
      intro one member
      rcases List.mem_cons.mp member with rfl | member
      · exact finished
      · exact before one member
    · exact Or.inr ⟨plain, .ended finished rest⟩
  | @waits send sends whole rest =>
    obtain ⟨rfl, rfl⟩ := List.cons.inj waiting
    exact Or.inl ⟨[], send, sends, rfl, rfl, fun _ member => (nomatch member), rest⟩
  | other plain rest =>
    obtain ⟨rfl, rfl⟩ := List.cons.inj waiting
    exact Or.inr ⟨plain, rest⟩

/-- Sends that are over may precede a line. -/
theorem append {earlier : List Sending} (line : Line trial sends queue)
    (finished : ∀ one ∈ earlier, trial.isOver one.future = true) :
    Line trial (earlier ++ sends) queue := by
  induction earlier with
  | nil => exact line
  | cons first earlier ih =>
    exact .ended (finished first List.mem_cons_self)
      (ih fun one member => finished one (List.mem_cons_of_mem _ member))

/-- Where no send was submitted, anything else may wait. -/
theorem of_plain (plain : ∀ operation ∈ queue, operation.request.isSend = false) :
    Line trial [] queue := by
  induction queue with
  | nil => exact .nil
  | cons operation queue ih =>
    exact .other (plain operation List.mem_cons_self)
      (ih fun one member => plain one (List.mem_cons_of_mem _ member))

/-- Someone comes at the end of the line. -/
theorem concat_other (line : Line trial sends queue) (plain : operation.request.isSend = false) :
    Line trial sends (queue ++ [operation]) := by
  induction line with
  | nil => exact .other plain .nil
  | ended gone _ ih => exact .ended gone ih
  | waits _ ih => exact .waits ih
  | other plain _ ih => exact .other plain ih

/-- A send comes at the end of the line. -/
theorem concat (line : Line trial sends queue) (send : Sending) :
    Line trial (sends ++ [send]) (queue ++ [trial.operationOf send]) := by
  induction line with
  | nil => exact .waits .nil
  | ended gone _ ih => exact .ended gone ih
  | waits _ ih => exact .waits ih
  | other plain _ ih => exact .other plain ih

end Line

/-! ## The queues of the engine -/

/-- The operations that wait, by descriptor and direction. -/
abbrev Queues := Fd → Direction → List Operation

/-- Replaces one queue. -/
def Queues.set (queues : Queues) (fd : Fd) (direction : Direction) (queue : List Operation) : Queues :=
  fun one way => if one = fd ∧ way = direction then queue else queues one way

namespace Queues

variable {queues : Queues}

/-- The queue that was set is found in its place. -/
@[simp] theorem set_self : queues.set fd direction queue fd direction = queue := by simp [set]

/-- The other queues are found as they were. -/
theorem set_of_ne {one : Fd} {way : Direction} (differ : ¬ (one = fd ∧ way = direction)) :
    queues.set fd direction queue one way = queues one way := by simp [set, differ]

/-- Replacements of different queues may be made in any order. -/
theorem set_comm {other : Direction} {second : List Operation} (differ : direction ≠ other) :
    (queues.set fd direction queue).set fd other second =
      (queues.set fd other second).set fd direction queue := by
  funext one way
  simp only [set]
  split <;> split <;> simp_all

/-- Setting a queue to what it is changes nothing. -/
theorem set_get : queues.set fd direction (queues fd direction) = queues := by
  funext one way
  simp only [set]
  split
  · rename_i same
    rw [same.1, same.2]
  · rfl

end Queues

/-- The operations that wait at a descriptor in one direction. -/
def Engine.queues (engine : Engine) : Queues := fun fd direction =>
  match engine.registration? fd with
  | some registration => registration.queue direction
  | none => []

/-! ## The law -/

/-- The sends on a descriptor form a line, and all other operations have futures of their own. -/
structure Law (fd : Fd) (sends : List Sending) (queues : Queues) (trial : Trial σ) : Prop where
  /-- The account of the sends. -/
  account : Account fd sends trial
  /-- The sends wait in their order. -/
  line : Line trial sends (queues fd .writing)
  /-- No send waits among those who read. -/
  plain : ∀ operation ∈ queues fd .reading, operation.request.isSend = false
  /-- Operations that are not sends on the descriptor have other futures. -/
  foreign : ∀ descriptor direction, ∀ operation ∈ queues descriptor direction,
    (descriptor = fd → operation.request.isSend = false) →
      operation.future < trial.made ∧ ∀ send ∈ sends, send.future ≠ operation.future

/-- What an operation that is not a send on the descriptor owns. -/
structure Foreign (fd : Fd) (sends : List Sending) (trial : Trial σ) (descriptor : Fd)
    (operation : Operation) : Prop where
  /-- On the descriptor it is not a send. -/
  plain : descriptor = fd → operation.request.isSend = false
  /-- Its future was made. -/
  made : operation.future < trial.made
  /-- No send has its future. -/
  apart : ∀ send ∈ sends, send.future ≠ operation.future

namespace Law

variable {queues : Queues}

/-- Nobody leaves the line and the futures stay what they are. -/
theorem of_account (law : Law fd sends queues trial) (account : Account fd sends after)
    (made : after.made = trial.made)
    (finished : ∀ future, trial.isOver future = true → after.isOver future = true)
    (sent : ∀ send ∈ sends, after.sent send.future = trial.sent send.future) :
    Law fd sends queues after where
  account := account
  line := law.line.congr finished sent
  plain := law.plain
  foreign := made ▸ law.foreign

/-- A call that offers nothing keeps the law. -/
theorem called (law : Law fd sends queues trial) (kernel : σ) :
    Law fd sends queues { trial with kernel } :=
  law.of_account (law.account.called kernel) rfl (fun _ finished => finished) fun _ _ => rfl

/-- An operation ends; a send that ends well has sent all its data. -/
theorem concluded (law : Law fd sends queues trial) (made : future < trial.made) (verdict : Verdict)
    (fulfilled : ∀ send ∈ sends, send.future = future → ∀ completion,
      verdict = .over (.ok completion) → trial.sent future = send.data) :
    Law fd sends queues (trial.conclude future verdict) := by
  refine law.of_account (law.account.concluded made verdict fulfilled) (Trial.made_conclude ..) ?_ ?_
  · intro other finished
    rw [Trial.isOver_conclude, finished]
    rfl
  · intro send _
    rw [Trial.sent_conclude]

/-- A queue gets shorter because some who wait there are over. -/
theorem shortened (law : Law fd sends (queues.set descriptor direction queue) trial)
    {shorter : List Operation} (fewer : shorter.Sublist queue)
    (line : descriptor = fd → direction = .writing → Line trial sends shorter) :
    Law fd sends (queues.set descriptor direction shorter) trial := by
  obtain ⟨account, waiting, plain, foreign⟩ := law
  have inside {one : Fd} {way : Direction} {operation : Operation}
      (member : operation ∈ queues.set descriptor direction shorter one way) :
      operation ∈ queues.set descriptor direction queue one way := by
    unfold Queues.set at member ⊢
    split
    · rename_i same
      rw [if_pos same] at member
      exact fewer.subset member
    · rename_i differ
      rwa [if_neg differ] at member
  refine ⟨account, ?_, fun operation member => plain operation (inside member),
    fun one way operation member => foreign one way operation (inside member)⟩
  by_cases here : fd = descriptor ∧ Direction.writing = direction
  · obtain ⟨rfl, rfl⟩ := here
    rw [Queues.set_self]
    exact line rfl rfl
  · rw [Queues.set_of_ne here] at waiting ⊢
    exact waiting

/-- Those who are over leave a queue. -/
theorem filter (law : Law fd sends (queues.set descriptor direction queue) trial) :
    Law fd sends (queues.set descriptor direction
      (queue.filter fun operation => !trial.isOver operation.future)) trial := by
  refine law.shortened List.filter_sublist ?_
  rintro rfl rfl
  have line := law.line
  rw [Queues.set_self] at line
  exact line.filter

/-- Everybody leaves a queue in which all are over. -/
theorem cleared (law : Law fd sends queues trial)
    (finished : ∀ operation ∈ queues descriptor direction, trial.isOver operation.future = true) :
    Law fd sends (queues.set descriptor direction []) trial := by
  have none : (queues descriptor direction).filter (fun operation => !trial.isOver operation.future) =
      [] := by
    apply List.filter_eq_nil_iff.mpr
    intro operation member
    simp [finished operation member]
  have same : queues.set descriptor direction (queues descriptor direction) = queues :=
    Queues.set_get
  rw [← same] at law
  have filtered := law.filter
  rwa [none] at filtered

/-- The first one in a queue is a send whose turn it is, or something else. -/
theorem head (law : Law fd sends (queues.set descriptor direction (operation :: queue)) trial) :
    (descriptor = fd ∧ direction = .writing ∧ ∃ earlier send later, sends = earlier ++ send :: later ∧
      operation = trial.operationOf send ∧ (∀ one ∈ earlier, trial.isOver one.future = true) ∧
        Line trial later queue) ∨
    Foreign fd sends trial descriptor operation ∧
      Law fd sends (queues.set descriptor direction queue) trial := by
  have member : operation ∈ queues.set descriptor direction (operation :: queue) descriptor direction := by
    simp
  have other (plain : descriptor = fd → operation.request.isSend = false)
      (line : descriptor = fd → direction = .writing → Line trial sends queue) :
      Foreign fd sends trial descriptor operation ∧
        Law fd sends (queues.set descriptor direction queue) trial := by
    obtain ⟨made, apart⟩ := law.foreign descriptor direction operation member plain
    exact ⟨⟨plain, made, apart⟩, law.shortened (List.sublist_cons_self _ _) line⟩
  by_cases here : descriptor = fd
  · subst here
    cases direction with
    | reading => exact Or.inr (other (fun _ => law.plain operation member) fun _ way => nomatch way)
    | writing =>
      have line := law.line
      rw [Queues.set_self] at line
      rcases line.head with turn | ⟨plain, rest⟩
      · exact Or.inl ⟨rfl, rfl, turn⟩
      · exact Or.inr (other (fun _ => plain) fun _ _ => rest)
  · exact Or.inr (other (fun same => absurd same here) fun same => absurd same here)

/-- Something that is not a send on the descriptor stands first in a queue. -/
theorem cons (law : Law fd sends (queues.set descriptor direction queue) trial)
    (foreign : Foreign fd sends trial descriptor operation) :
    Law fd sends (queues.set descriptor direction (operation :: queue)) trial := by
  refine ⟨law.account, ?_, ?_, ?_⟩
  · have line := law.line
    by_cases here : fd = descriptor ∧ Direction.writing = direction
    · obtain ⟨rfl, rfl⟩ := here
      rw [Queues.set_self] at line ⊢
      exact .other (foreign.plain rfl) line
    · rw [Queues.set_of_ne here] at line ⊢
      exact line
  · intro one member
    have plain := law.plain one
    by_cases here : fd = descriptor ∧ Direction.reading = direction
    · obtain ⟨rfl, rfl⟩ := here
      rw [Queues.set_self] at member plain
      rcases List.mem_cons.mp member with rfl | old
      · exact foreign.plain rfl
      · exact plain old
    · rw [Queues.set_of_ne here] at member plain
      exact plain member
  · intro place way one member
    have old := law.foreign place way one
    by_cases here : place = descriptor ∧ way = direction
    · obtain ⟨rfl, rfl⟩ := here
      rw [Queues.set_self] at member old
      rcases List.mem_cons.mp member with rfl | before
      · exact fun _ => ⟨foreign.made, foreign.apart⟩
      · exact old before
    · rw [Queues.set_of_ne here] at member old
      exact old member

/-- Something that is not a send on the descriptor comes last in a queue. -/
theorem concat (law : Law fd sends queues trial)
    (foreign : Foreign fd sends trial descriptor operation) :
    Law fd sends (queues.set descriptor direction (queues descriptor direction ++ [operation])) trial := by
  refine ⟨law.account, ?_, ?_, ?_⟩
  · by_cases here : fd = descriptor ∧ Direction.writing = direction
    · obtain ⟨rfl, rfl⟩ := here
      rw [Queues.set_self]
      exact law.line.concat_other (foreign.plain rfl)
    · rw [Queues.set_of_ne here]
      exact law.line
  · intro one member
    by_cases here : fd = descriptor ∧ Direction.reading = direction
    · obtain ⟨rfl, rfl⟩ := here
      rw [Queues.set_self] at member
      rcases List.mem_append.mp member with old | new
      · exact law.plain one old
      · rw [List.mem_singleton.mp new]
        exact foreign.plain rfl
    · rw [Queues.set_of_ne here] at member
      exact law.plain one member
  · intro place way one member
    by_cases here : place = descriptor ∧ way = direction
    · obtain ⟨rfl, rfl⟩ := here
      rw [Queues.set_self] at member
      rcases List.mem_append.mp member with old | new
      · exact law.foreign place way one old
      · rw [List.mem_singleton.mp new]
        exact fun _ => ⟨foreign.made, foreign.apart⟩
    · rw [Queues.set_of_ne here] at member
      exact law.foreign place way one member

/-- A send is submitted and comes last in the queue. -/
theorem submitted (law : Law fd sends queues trial) (data : Bytes) :
    Law fd (sends ++ [⟨trial.made, data⟩])
      (queues.set fd .writing (queues fd .writing ++ [⟨.send data, trial.made⟩]))
      { trial with made := trial.made + 1 } := by
  have unsent : trial.sent trial.made = [] := law.account.sent_of_unmade (Nat.le_refl _)
  have first : trial.operationOf ⟨trial.made, data⟩ = ⟨.send data, trial.made⟩ := by
    simp [Trial.operationOf, unsent]
  refine ⟨law.account.submitted data, ?_, ?_, ?_⟩
  · rw [Queues.set_self, ← first]
    have line := law.line.concat ⟨trial.made, data⟩
    exact line.congr (fun _ finished => finished) fun _ _ => rfl
  · intro one member
    rw [Queues.set_of_ne (by simp)] at member
    exact law.plain one member
  · intro place way one member plain
    have old (member : one ∈ queues place way) :
        one.future < trial.made + 1 ∧
          ∀ send ∈ sends ++ [⟨trial.made, data⟩], send.future ≠ one.future := by
      obtain ⟨below, apart⟩ := law.foreign place way one member plain
      refine ⟨Nat.lt_succ_of_lt below, ?_⟩
      intro send listed
      rcases List.mem_append.mp listed with before | new
      · exact apart send before
      · rw [List.mem_singleton.mp new]
        exact Nat.ne_of_gt below
    by_cases here : place = fd ∧ way = .writing
    · obtain ⟨rfl, rfl⟩ := here
      rw [Queues.set_self] at member
      rcases List.mem_append.mp member with before | new
      · exact old before
      · rw [List.mem_singleton.mp new] at plain
        exact absurd (plain rfl) (by simp [Request.isSend])
    · rw [Queues.set_of_ne here] at member
      exact old member

/-- A future is made for something else. -/
theorem madeOther (law : Law fd sends queues trial) :
    Law fd sends queues { trial with made := trial.made + 1 } where
  account := law.account.madeOther
  line := law.line.congr (fun _ finished => finished) fun _ _ => rfl
  plain := law.plain
  foreign place way one member plain := by
    obtain ⟨below, apart⟩ := law.foreign place way one member plain
    exact ⟨Nat.lt_succ_of_lt below, apart⟩

/-- The future of whoever is first in a queue was made. -/
theorem made_head (law : Law fd sends (queues.set descriptor direction (operation :: queue)) trial) :
    operation.future < trial.made := by
  rcases law.head with ⟨-, -, earlier, send, later, split, same, -, -⟩ | ⟨foreign, -⟩
  · rw [same]
    exact law.account.made send (by rw [split]; simp)
  · exact foreign.made

/-- Whoever is over and first in a queue leaves it. -/
theorem tail (law : Law fd sends (queues.set descriptor direction (operation :: queue)) trial)
    (finished : trial.isOver operation.future = true) :
    Law fd sends (queues.set descriptor direction queue) trial := by
  rcases law.head with ⟨rfl, rfl, earlier, send, later, split, same, before, rest⟩ | ⟨-, rest⟩
  · refine law.shortened (List.sublist_cons_self _ _) fun _ _ => ?_
    rw [same] at finished
    rw [split]
    exact (Line.ended finished rest).append before
  · exact rest

end Law

end EventLoop.Proactor

import EventLoop.Proofs.Effect.Waits

/-!
# The fates of waiting callers

A caller that waits in a queue is pending, cancelled or granted. A future that finished in any other
way cannot be one of a queue. Nothing changes the fate of a future that only queues may resolve, apart
from the primitives and timeouts.
-/
namespace EventLoop

/-- What became of the future of a caller. -/
inductive Fate
  /-- It is not resolved. -/
  | pending
  /-- It was cancelled. -/
  | cancelled
  /-- It was granted. -/
  | granted
  /-- It finished in another way. -/
  | failed
  deriving DecidableEq

/-- How far a future of a fate is. -/
def Fate.state : Fate → FutureState
  | pending => .pending
  | cancelled => .cancelled
  | granted | failed => .finished

/-- The fate of a future. -/
def Future.fate (future : Future) : Fate :=
  match future.phase with
  | .pending .. => .pending
  | .cancelled => .cancelled
  | .finished (some (.ok .unit)) => .granted
  | .finished _ => .failed

/-- The fate that a resolution brings about. -/
def Resolution.fate : Resolution → Fate
  | cancel => .cancelled
  | finish (.ok .unit) => .granted
  | finish _ => .failed

namespace Future

/-- A future of a fate is as far as that. -/
theorem state_eq (future : Future) : future.state = future.fate.state := by
  rcases future with ⟨kind, phase⟩
  unfold state fate
  cases phase with
  | pending reactions timer => rfl
  | cancelled => rfl
  | finished outcome =>
    rcases outcome with _ | error | payload
    · rfl
    · rfl
    · cases payload with
      | unit => rfl
      | bytes data => rfl
      | value value => rfl
      | connection socket peer => rfl

/-- A future that was granted has a result. -/
theorem result_of_granted {future : Future} (granted : future.fate = .granted) :
    future.result = .ok .unit := by
  rcases future with ⟨kind, phase⟩
  unfold fate at granted
  split at granted
  · cases granted
  · cases granted
  · rename_i same
    cases same
    rfl
  · cases granted

/-- A future that was cancelled has no result. -/
theorem result_of_cancelled {future : Future} (cancelled : future.fate = .cancelled) :
    future.result = .error .cancelled := by
  rcases future with ⟨kind, phase⟩
  unfold fate at cancelled
  split at cancelled
  · cases cancelled
  · rename_i same
    cases same
    rfl
  · cases cancelled
  · cases cancelled

/-- A future that would be missed keeps its fate when it is emptied. -/
theorem fate_emptied {future : Future} (missed : future.isMissed = true) :
    future.emptied.fate = future.fate := by
  rcases future with ⟨kind, phase⟩
  cases phase with
  | pending reactions timer => rfl
  | cancelled => rfl
  | finished outcome =>
    rcases outcome with _ | error | payload
    · rfl
    · rfl
    · cases payload with
      | unit => simp [isMissed, refs, Payload.refs] at missed
      | bytes data => rfl
      | value value => rfl
      | connection socket peer => rfl

/-- The fate of a future that was resolved is the one that the resolution gives it. -/
theorem fate_resolved (kind : FutureKind) (resolution : Resolution) :
    (⟨kind, resolved resolution⟩ : Future).fate = resolution.fate := by
  cases resolution with
  | cancel => rfl
  | finish outcome =>
    rcases outcome with error | payload
    · rfl
    · cases payload with
      | unit => rfl
      | bytes data => rfl
      | value value => rfl
      | connection socket peer => rfl

end Future

namespace Loop

variable {loop other : Loop} {future id : FutureId}

/-- The fate of a future; one that does not exist is pending. -/
def fate (loop : Loop) (id : FutureId) : Fate := (loop.futures.get? id).elim .pending Future.fate

/-- How far a future is can be told from its fate. -/
theorem futureState_eq (loop : Loop) (id : FutureId) :
    loop.futureState id = (loop.fate id).state := by
  unfold futureState fate
  cases loop.futures.get? id with
  | none => rfl
  | some future => exact future.state_eq

/-- A future is pending exactly if its fate is. -/
theorem pending_iff : loop.futureState id = .pending ↔ loop.fate id = .pending := by
  rw [futureState_eq]
  cases loop.fate id <;> simp [Fate.state]

/-- A future is cancelled exactly if its fate says so. -/
theorem cancelled_iff : loop.futureState id = .cancelled ↔ loop.fate id = .cancelled := by
  rw [futureState_eq]
  cases loop.fate id <;> simp [Fate.state]

/-- A future is done exactly if its fate is not pending. -/
theorem isDone_iff : loop.isDone id = true ↔ loop.fate id ≠ .pending := by
  rw [isDone, bne_iff_ne, ne_eq, pending_iff]

/-- A future that was granted has a result. -/
theorem resultOf_of_granted (granted : loop.fate id = .granted) : loop.resultOf id = .ok .unit := by
  unfold fate at granted
  unfold resultOf
  cases found : loop.futures.get? id with
  | none =>
    rw [found] at granted
    cases granted
  | some future =>
    rw [found] at granted
    exact Future.result_of_granted granted

/-- A future that was cancelled has none. -/
theorem resultOf_of_cancelled (cancelled : loop.fate id = .cancelled) :
    loop.resultOf id = .error .cancelled := by
  unfold fate at cancelled
  unfold resultOf
  cases found : loop.futures.get? id with
  | none =>
    rw [found] at cancelled
    cases cancelled
  | some future =>
    rw [found] at cancelled
    exact Future.result_of_cancelled cancelled

/-- The fates of futures are those of the table of futures. -/
theorem fate_congr (same : other.futures = loop.futures) : other.fate = loop.fate := by
  funext id
  unfold fate
  rw [same]

/-- A future that is added leaves the fates of the others alone. -/
theorem fate_push {entry : Future} (same : other.futures = loop.futures.push entry)
    (bound : id < loop.futures.size) : other.fate id = loop.fate id := by
  unfold fate
  rw [same, Table.get?_push, if_neg (Nat.ne_of_lt bound)]

/-- A future that is changed may change its own fate only. -/
theorem fate_modify {change : Future → Future} (same : other.futures = loop.futures.modify id change)
    (future : FutureId) : other.fate future =
      if future = id then (loop.futures.get? id).elim .pending fun entry => (change entry).fate
      else loop.fate future := by
  unfold fate
  rw [same, Table.get?_modify]
  by_cases here : future = id
  · subst here
    rw [if_pos rfl, if_pos rfl]
    cases loop.futures.get? future with
    | none => rfl
    | some entry => rfl
  · rw [if_neg here, if_neg here]

/-- A resolution decides the fate of a future that is pending. -/
theorem fate_resolve (loop : Loop) (id : FutureId) (resolution : Resolution) (future : FutureId) :
    (loop.resolve id resolution).2.fate future =
      if future = id ∧ loop.fate id = .pending ∧ id < loop.futures.size then resolution.fate
      else loop.fate future := by
  rw [resolve_eq]
  split
  · rename_i kind reactions timer found
    have pending : loop.fate id = .pending := by
      simp only [fate, found, Option.elim_some, Future.fate]
    have same : (loop.replaceFuture id ⟨kind, Future.resolved resolution⟩
        ⟨reactions, timer⟩).futures =
          loop.futures.modify id fun _ => ⟨kind, Future.resolved resolution⟩ := by
      rw [replaceFuture_eq]
    rw [fate_modify same, found, pending]
    have bound := Table.lt_size_of_get? found
    by_cases here : future = id
    · simp only [here, if_true, Option.elim_some, Future.fate_resolved, bound, and_self]
    · simp only [here, if_false, false_and]
  · rename_i settled
    have unmoved : ¬ (future = id ∧ loop.fate id = .pending ∧ id < loop.futures.size) := by
      rintro ⟨-, pending, bound⟩
      obtain ⟨⟨kind, phase⟩, found⟩ := Table.exists_get?_of_lt_size bound
      simp only [fate, found, Option.elim_some, Future.fate] at pending
      cases phase with
      | pending reactions timer => exact settled kind reactions timer found
      | cancelled => cases pending
      | finished outcome =>
        split at pending
        · rename_i same
          cases same
        · cases pending
        · cases pending
        · cases pending
    rw [if_neg unmoved]

/-- Resolving a future adds none. -/
theorem size_futures_resolve (loop : Loop) (id : FutureId) (resolution : Resolution) :
    (loop.resolve id resolution).2.futures.size = loop.futures.size := by
  rw [resolve_eq]
  split
  · rw [replaceFuture_eq]
    exact Table.size_modify _ _ _
  · rfl

/-- A future that is made is given the next number. -/
theorem id_makeTimed (loop : Loop) (kind : FutureKind) (now : Nat) (timeout : Option Nat) :
    (loop.makeTimed kind now timeout).1 = loop.futures.size := by
  rw [makeTimed_eq]
  cases timeout with
  | none | some => rfl

/-- A future that is made is one more, with a timeout or without. -/
theorem size_makeTimed (loop : Loop) (kind : FutureKind) (now : Nat) (timeout : Option Nat) :
    (loop.makeTimed kind now timeout).2.futures.size = loop.futures.size + 1 := by
  rw [makeTimed_eq]
  cases timeout with
  | none => exact Table.size_push _ _
  | some delay => exact Table.size_push _ _

/-- A future that is made leaves the fates of the others alone. -/
theorem fate_makeTimed (kind : FutureKind) (now : Nat) (timeout : Option Nat)
    (bound : id < loop.futures.size) :
    (loop.makeTimed kind now timeout).2.fate id = loop.fate id := by
  rw [makeTimed_eq]
  cases timeout with
  | none => exact fate_push rfl bound
  | some delay => exact fate_push rfl bound

/-- A future that is made is pending. -/
theorem fate_makeTimed_new (loop : Loop) (kind : FutureKind) (now : Nat) (timeout : Option Nat) :
    (loop.makeTimed kind now timeout).2.fate loop.futures.size = .pending := by
  have pushed (timer : Option TimerId) :
      (loop.futures.push ⟨kind, .pending [] timer⟩).get? loop.futures.size =
        some ⟨kind, .pending [] timer⟩ := by
    rw [Table.get?_push, if_pos rfl]
  rw [makeTimed_eq]
  cases timeout with
  | none => simp only [fate, pushed, Option.elim_some, Future.fate]
  | some delay => simp only [fate, pushed, Option.elim_some, Future.fate]

/-- A reaction that is registered changes no fate. -/
theorem fate_whenDone (loop : Loop) (id : FutureId) (reaction : Reaction) :
    (loop.whenDone id reaction).fate = loop.fate := by
  rw [whenDone_eq]
  split
  · rename_i kind reactions timer found
    funext future
    rw [fate_modify rfl]
    by_cases here : future = id
    · subst here
      rw [if_pos rfl]
      simp only [fate, found, Option.elim_some, Future.fate]
    · rw [if_neg here]
  · refine fate_congr ?_
    rw [callSoon_eq]

/-- Awaiting a future changes no fate. -/
theorem fate_await (loop : Loop) (wait : Wait) (waker : Nat) :
    (loop.await wait waker).2.fate = loop.fate := by
  unfold await
  split
  · rfl
  · split
    · rfl
    · exact fate_whenDone _ _ _

end Loop

namespace World

variable {scope : Scope} {n : Nat} {aspect : Aspect} {before after : World} {future : FutureId}

/-- A change that is neither one of primitives nor a timeout leaves the fates alone of the futures that
only queues may resolve. -/
theorem Change.fate (change : Change scope aspect before after) (within : before.Within scope n)
    (calm : aspect ≠ .primitives) (early : aspect ≠ .timeouts) (hidden : ¬ scope.known future)
    (bound : future < before.loop.futures.size) : after.loop.fate future = before.loop.fate future := by
  have apart (other : FutureId) (known : scope.known other) : future ≠ other := by
    rintro rfl
    exact hidden known
  cases change with
  | surroundings | held | dropped | names | devices | fitted | disarmed | asked | released | turned
  | retired | servers | woken | stopAsked | stopped | flags | shut | cleared | abandoned => rfl
  | connected =>
    refine addTransport_loop (·.fate future = before.loop.fate future) rfl fun loop callback same => ?_
    exact (congrFun (Loop.fate_congr (Loop.futures_callSoon loop callback)) future).trans same
  | made _ kind now timeout => exact Loop.fate_makeTimed kind now timeout bound
  | resolved _ other resolution known =>
    rw [Loop.fate_resolve, if_neg fun here => apart other known here.1]
  | registered | bound | enlisted => rw [Loop.fate_whenDone]
  | awaited => rw [Loop.fate_await]
  | taken _ other entry known found =>
    rw [Loop.fate_modify rfl, if_neg (apart other known)]
  | emptied _ other entry found missed free | deserted _ other entry found missed free =>
    have emptied := @Loop.fate_modify before.loop { before.loop with
      futures := before.loop.futures.modify other Future.emptied } other _ rfl future
    refine emptied.trans ?_
    by_cases here : future = other
    · subst here
      rw [if_pos rfl, found, Option.elim_some, Future.fate_emptied missed]
      simp only [Loop.fate, found, Option.elim_some]
    · rw [if_neg here]
  | called | announced | summoned => rw [Loop.fate_congr (Loop.futures_callSoon _ _)]
  | scheduled => rw [Loop.fate_congr (Loop.futures_callAt _ _ _)]
  | primitives | granted => exact absurd rfl calm
  | expired => exact absurd rfl early
  | spawned _ name body =>
    unfold Loop.spawn Loop.makeFuture Loop.addFuture
    dsimp only
    split
    · rw [Loop.fate_resolve, if_neg fun here => Nat.ne_of_lt bound here.1]
      exact Loop.fate_push rfl bound
    · rw [Loop.fate_congr (Loop.futures_schedule _ _)]
      exact Loop.fate_push rfl bound
  | pollBegun => rw [Loop.fate_congr (Loop.futures_beginPoll _ _)]
  | pollEnded => rw [Loop.fate_congr (Loop.futures_endPoll _ _ _)]
  | completed _ id value =>
    unfold Loop.complete
    split
    · rename_i task found
      split
      · have known := (within.loop.result found).1
        rw [Loop.fate_resolve, if_neg fun here => apart task.result known here.1,
          Loop.fate_congr (Loop.futures_retire _ _)]
        rfl
      · rfl
    · rfl
  | cancelled _ id task =>
    unfold Loop.beginCancel
    rw [Loop.fate_congr (Loop.futures_retire _ _)]
    rfl
  | prepared => rw [Loop.fate_congr (Loop.futures_prepare _ _)]
  | gathered => rw [Loop.fate_congr (Loop.futures_gather _ _)]
  | readyTaken => rw [Loop.fate_congr (Loop.futures_takeReady _)]

end World

end EventLoop

import EventLoop.Proofs.Proactor.Ledger

/-!
# Attempts

What an attempt of the engine does to the operations of a site: each call is made for the first one that is
pending in its line, which gets what the call hands out. `Sound` gathers what is kept of the lines, the
watches and the calls; the lemmas of this module show that trying and ending operations keeps it.
-/
namespace EventLoop.Proactor

open Kernel (closedFd)

variable {σ : Type} {kernel : System σ} {site : Site σ} {lines : Lines} {spot : Spot}
variable {exempt : Commission → Prop} {due : List (FutureId × Completion)} {future : FutureId}
variable {operation : Operation} {queue : List Operation} {commission : Commission}
variable {verdict : Verdict} {request : Request}

/-- The lines, the watches and the calls of a site are as they should be. -/
structure Sound (lines : Lines) (exempt : Commission → Prop) (due : List (FutureId × Completion))
    (site : Site σ) : Prop where
  /-- Whoever is pending is in line. -/
  orderly : Orderly lines site.roster
  /-- Whoever is in line is watched. -/
  guarded : Guarded exempt site.sockets site.watches site.roster
  /-- The calls brought what the operations have. -/
  ledger : Ledger due site.calls site.roster

/-- An operation that is over stays what it is. -/
theorem Site.conclude_of_over (finished : site.roster.pending future = false) :
    site.conclude future verdict = site := by
  unfold Site.conclude
  rw [Roster.conclude_of_over finished]

/-- The operation that ends is the only one that is not pending any more. -/
@[simp] theorem Site.pending_conclude {other : FutureId} :
    (site.conclude future verdict).roster.pending other =
      (site.roster.pending other && other != future) :=
  Roster.pending_conclude

/-- What is due to an operation that reads, once it is over. -/
def dueTo (direction : Direction) (future : FutureId) :
    Except Error Completion → List (FutureId × Completion)
  | .ok completion => if direction = .reading then [(future, completion)] else []
  | .error _ => []

namespace Sound

/-- A call that is not made for an operation. -/
theorem called (sound : Sound lines exempt due site) (kernel : σ) :
    Sound lines exempt due { site with kernel } := ⟨sound.orderly, sound.guarded, sound.ledger⟩

/-- Those who wait in one line stay the same. -/
theorem replaced {first : List Operation}
    (sound : Sound (Function.update lines spot first) exempt due site)
    (same : site.roster.waiting queue = site.roster.waiting first) :
    Sound (Function.update lines spot queue) exempt due site := by
  have updated : Orderly (Function.update (Function.update lines spot first) spot queue) site.roster :=
    sound.orderly.updated (by rwa [Function.update_self])
  rw [Function.update_idem] at updated
  exact { sound with orderly := updated }

/-- A call is made for an operation that is pending, on its descriptor. -/
theorem asked (sound : Sound lines exempt [] site) (member : commission ∈ site.roster.commissions)
    (waits : site.roster.pending commission.future = true)
    (own : commission.fd ≠ closedFd → site.sockets.fd? commission.socket = some commission.fd)
    (handed : Option Completion) (reads : handed ≠ none → commission.direction = .reading)
    (after : σ) :
    Sound lines exempt (handed.map (commission.future, ·)).toList
      { site with
        kernel := after
        calls := site.calls ++
          [⟨commission.future, commission.fd, handed, site.sockets, site.roster.endings⟩] } := by
  refine ⟨sound.orderly, sound.guarded, ?_⟩
  let call : Call := ⟨commission.future, commission.fd, handed, site.sockets, site.roster.endings⟩
  have makes : commission.Makes call := by
    refine ⟨rfl, reads, fun valid => ⟨rfl, fun socket => ⟨fun found => ?_, ?_⟩⟩⟩
    · exact sound.guarded.apart found (own valid)
    · rintro rfl
      exact own valid
  have brought : Call.answers [call] = (handed.map (commission.future, ·)).toList := by
    cases handed <;> rfl
  have punctual : call.endings call.future = none := Option.isNone_iff_eq_none.mp waits
  have asked := sound.ledger.asked punctual member makes
  rwa [brought] at asked

/-- An operation ends, but not well. -/
theorem ended_ill (sound : Sound lines exempt [] site)
    (member : commission ∈ site.roster.commissions) (ill : verdict.completion? = none)
    (loyal : commission.fd ≠ closedFd → site.sockets.fd? commission.socket = none →
      verdict = .cancelled) :
    Sound lines exempt [] (site.conclude commission.future verdict) := by
  refine ⟨sound.orderly.concluded (sound.orderly.made _ member) _, sound.guarded.concluded _ _, ?_⟩
  refine sound.ledger.concluded_ill ill fun one listed same => ?_
  obtain rfl := sound.orderly.eq_of_future listed member same
  exact loyal

/-- An operation ends well, with what is due to it. -/
theorem ended_well {completion : Completion} (sound : Sound lines exempt due site)
    (member : commission ∈ site.roster.commissions)
    (waits : site.roster.pending commission.future = true)
    (fits : commission.request.Admits completion)
    (opened : commission.fd ≠ closedFd → site.sockets.fd? commission.socket ≠ none)
    (handed : due = dueTo commission.direction commission.future (.ok completion))
    (first : commission.direction = .reading →
      site.roster.IsFirst (site.roster.readings commission.socket) commission.future) :
    Sound lines exempt [] (site.conclude commission.future (.over (.ok completion))) :=
  ⟨sound.orderly.concluded (sound.orderly.made _ member) _, sound.guarded.concluded _ _,
    Ledger.concluded_well sound.orderly sound.ledger waits member rfl fits opened handed first⟩

/-- An operation that is in line ends, but not well. -/
theorem dropped (sound : Sound lines exempt [] site) (member : operation ∈ lines spot)
    (ill : verdict.completion? = none)
    (loyal : spot.fd ≠ closedFd → site.sockets.fd? spot.socket = none → verdict = .cancelled) :
    Sound lines exempt [] (site.conclude operation.future verdict) := by
  by_cases waits : site.roster.pending operation.future = true
  · obtain ⟨commission, known, rfl, same⟩ := sound.orderly.commissioned member waits
    rw [← Commission.future_eq_of_kind same]
    exact sound.ended_ill known ill loyal
  · have finished : site.roster.pending operation.future = false := Bool.not_eq_true _ ▸ waits
    rwa [Site.conclude_of_over finished]

/-- The operations that read on an open socket are those of one spot. -/
theorem readings_eq (sound : Sound lines exempt due site) {fd : Fd} {socket : SocketId}
    (opened : site.sockets.fd? socket = some fd) : site.roster.readings socket =
      (site.roster.submitted ⟨socket, fd, .reading⟩).map Operation.future := by
  unfold Roster.readings Roster.submitted
  rw [List.map_map]
  refine congrArg _ (List.filter_congr fun commission member => ?_)
  have place (own : commission.socket = socket) : commission.fd = fd :=
    sound.guarded.stable commission member fd (own ▸ opened)
  by_cases own : commission.socket = socket
  · simp [Commission.spot, own, place own]
  · simp [Commission.spot, own]

end Sound

/-! ## Calls -/

/-- An operation is pending and first in its line, where all are exempt. -/
structure Foremost (lines : Lines) (exempt : Commission → Prop) (spot : Spot) (queue : List Operation)
    (future : FutureId) (request : Request) (due : List (FutureId × Completion)) (site : Site σ) :
    Prop where
  /-- All is as it should be. -/
  sound : Sound (Function.update lines spot (⟨request, future⟩ :: queue)) exempt due site
  /-- The operation is not over. -/
  waits : site.roster.pending future = true

namespace Foremost

/-- The operation was submitted. -/
theorem commissioned (foremost : Foremost lines exempt spot queue future request due site) :
    ∃ commission ∈ site.roster.commissions, commission.spot = spot ∧ commission.future = future ∧
      commission.request.kind = request.kind := by
  have member : (⟨request, future⟩ : Operation) ∈
      Function.update lines spot (⟨request, future⟩ :: queue) spot := by simp
  obtain ⟨commission, known, there, same⟩ := foremost.sound.orderly.commissioned member foremost.waits
  obtain ⟨kind, own⟩ := Operation.mk.inj same
  exact ⟨commission, known, there, own, kind⟩

/-- The request is one for the spot. -/
theorem direction (foremost : Foremost lines exempt spot queue future request due site) :
    request.direction = spot.direction := by
  obtain ⟨commission, -, there, -, kind⟩ := foremost.commissioned
  rw [← there, ← Request.direction_kind request, ← kind, Request.direction_kind]
  rfl

/-- The socket has the descriptor. -/
theorem own (foremost : Foremost lines exempt spot queue future request due site)
    (free : ∀ commission : Commission, commission.spot = spot → exempt commission)
    (valid : spot.fd ≠ closedFd) : site.sockets.fd? spot.socket = some spot.fd := by
  obtain ⟨commission, known, rfl, rfl, -⟩ := foremost.commissioned
  exact foremost.sound.guarded.owned commission known foremost.waits (Or.inr (free _ rfl)) valid

/-- Part of the request is done. -/
theorem progressed (foremost : Foremost lines exempt spot queue future request due site)
    {left : Request} (kind : left.kind = request.kind) :
    Foremost lines exempt spot queue future left due site := by
  refine ⟨foremost.sound.replaced ?_, foremost.waits⟩
  have first (request : Request) : site.roster.waiting (⟨request, future⟩ :: queue) =
      ⟨request.kind, future⟩ :: site.roster.waiting queue :=
    Roster.waiting_cons_of_pending foremost.waits queue
  rw [first, first, kind]

end Foremost

/-- An operation that was first in its line is over. -/
structure Finished (lines : Lines) (exempt : Commission → Prop) (spot : Spot) (queue : List Operation)
    (future : FutureId) (request : Request) (outcome : Except Error Completion) (site : Site σ) :
    Prop where
  /-- Until it is told, it is first in line. -/
  foremost : Foremost lines exempt spot queue future request (dueTo spot.direction future outcome) site
  /-- It brings what was asked for. -/
  fits : ∀ completion, outcome = .ok completion → request.Admits completion
  /-- Nothing is read from no descriptor. -/
  valid : ∀ completion, outcome = .ok completion → spot.direction = .reading → spot.fd ≠ closedFd

namespace Finished

variable {outcome : Except Error Completion}

/-- An operation that failed. -/
theorem failed {error : Error} (foremost : Foremost lines exempt spot queue future request [] site) :
    Finished lines exempt spot queue future request (.error error) site :=
  ⟨foremost, fun _ same => (nomatch same), fun _ same => (nomatch same)⟩

/-- An operation that brings what was asked for. -/
theorem fulfilled {completion : Completion}
    (foremost : Foremost lines exempt spot queue future request
      (dueTo request.direction future (.ok completion)) site)
    (fits : request.Admits completion) (valid : request.direction = .reading → spot.fd ≠ closedFd) :
    Finished lines exempt spot queue future request (.ok completion) site := by
  have way := foremost.direction
  refine ⟨?_, ?_, fun _ _ reads => valid (way.trans reads)⟩
  · rw [← way]
    exact foremost
  · rintro _ ⟨⟩
    exact fits

/-- The operation is told, and leaves the line. -/
theorem settled (finished : Finished lines exempt spot queue future request outcome site)
    (free : ∀ commission : Commission, commission.spot = spot → exempt commission) :
    Sound (Function.update lines spot queue) exempt [] (site.conclude future (.over outcome)) := by
  obtain ⟨foremost, fits, valid⟩ := finished
  have own := foremost.own free
  have way := foremost.direction
  obtain ⟨commission, known, rfl, rfl, kind⟩ := foremost.commissioned
  -- Whoever is told is over, so it may leave the line.
  have finished : (site.conclude commission.future (.over outcome)).roster.pending commission.future =
      false := by simp
  have leaves : (site.conclude commission.future (.over outcome)).roster.waiting
      (⟨request, commission.future⟩ :: queue) =
        (site.conclude commission.future (.over outcome)).roster.waiting queue := by
    refine Roster.waiting_cons_of_over ?_ queue
    exact finished
  refine Sound.replaced ?_ leaves.symm
  cases outcome with
  | error error =>
    exact foremost.sound.ended_ill known rfl fun valid gone => by
      have found := own valid
      simp [gone] at found
  | ok completion =>
    refine foremost.sound.ended_well known foremost.waits ?_ ?_ rfl ?_
    · rw [← Request.admits_kind, kind, Request.admits_kind]
      exact fits completion rfl
    · intro valid
      have found := own valid
      simp only [Commission.socket_spot] at found
      simp [found]
    · intro reads
      have first := foremost.sound.orderly.first (Function.update_self ..) foremost.waits
      have opened : site.sockets.fd? commission.socket = some commission.fd :=
        own (valid completion rfl reads)
      rw [foremost.sound.readings_eq opened]
      refine List.pairwise_map.mpr ?_
      have here : commission.spot = ⟨commission.socket, commission.fd, .reading⟩ := by
        rw [← reads]
        rfl
      rwa [here] at first

end Finished

/-- The answer to a call is on record, and nothing is asked of no descriptor. -/
theorem Site.ask_eq {α ε : Type} (step : StateM σ (Except ε α)) (refusal : ε)
    (handed : α → Option Completion) (future : FutureId) (fd : Fd) (site : Site σ) :
    ∃ answer after, Site.ask step refusal handed future fd site = (answer, { site with
        kernel := after
        calls := site.calls ++
          [⟨future, fd, answer.toOption.bind handed, site.sockets, site.roster.endings⟩] }) ∧
      ∀ result, answer = .ok result → fd ≠ closedFd ∧ ∃ state, (step state).1 = .ok result := by
  unfold Site.ask
  by_cases closed : fd = closedFd
  · rw [if_pos closed]
    exact ⟨.error refusal, site.kernel, rfl, fun _ same => (nomatch same)⟩
  · rw [if_neg closed]
    exact ⟨_, _, rfl, fun result same => ⟨closed, site.kernel, same⟩⟩

/-- A call for an operation that is first in its line. -/
theorem Site.ensures_ask {α ε : Type}
    (free : ∀ commission : Commission, commission.spot = spot → exempt commission)
    (step : StateM σ (Except ε α)) (refusal : ε) (handed : α → Option Completion)
    (reads : ∀ result, handed result ≠ none → request.direction = .reading) :
    Ensures (Foremost lines exempt spot queue future request [])
      (Site.ask step refusal handed future spot.fd) fun answer reached =>
        Foremost lines exempt spot queue future request
          ((answer.toOption.bind handed).map (future, ·)).toList reached ∧
        ∀ result, answer = .ok result → spot.fd ≠ closedFd ∧ ∃ state, (step state).1 = .ok result := by
  intro site foremost
  have own := foremost.own free
  have way := foremost.direction
  obtain ⟨commission, known, rfl, rfl, -⟩ := foremost.commissioned
  obtain ⟨answer, after, answered, given⟩ :=
    Site.ask_eq step refusal handed commission.future commission.spot.fd site
  rw [answered]
  refine ⟨⟨foremost.sound.asked known foremost.waits own _ (fun some => ?_) after, foremost.waits⟩, given⟩
  cases answer with
  | error error => exact absurd rfl some
  | ok result => exact way.symm.trans (reads result some)

/-- What a call leaves of an operation. -/
def Served (lines : Lines) (exempt : Commission → Prop) (spot : Spot) (queue : List Operation)
    (future : FutureId) (site : Site σ) : Progress → Prop
  | .again left | .blocked left => Foremost lines exempt spot queue future left [] site
  | .done outcome => ∃ left, Finished lines exempt spot queue future left outcome site

/-- A failure leaves the request as it is, or ends the operation. -/
theorem Served.ofFailure (foremost : Foremost lines exempt spot queue future request [] site)
    (error : IoError) :
    Served lines exempt spot queue future site (Progress.ofFailure error request) := by
  unfold Progress.ofFailure
  split
  · exact foremost
  · exact foremost
  · exact ⟨request, .failed foremost⟩

/-- One call of an attempt. -/
theorem Site.ensures_call (free : ∀ commission : Commission, commission.spot = spot → exempt commission)
    (request : Request) :
    Ensures (Foremost lines exempt spot queue future request [])
      (request.call (Site.system kernel) spot.fd future) fun progress reached =>
        Served lines exempt spot queue future reached progress := by
  cases request with
  | receive limit =>
    refine Ensures.bind _ (Site.ensures_ask free _ _ _ fun _ _ => rfl)
      fun answer site ⟨foremost, given⟩ => ?_
    cases answer with
    | ok data =>
      obtain ⟨valid, state, answered⟩ := given data rfl
      refine ⟨.receive limit, .fulfilled foremost ?_ fun _ => valid⟩
      change data.length ≤ limit
      change Except.map (·.take limit) (kernel.receive future spot.fd limit state).1 = _ at answered
      cases found : (kernel.receive future spot.fd limit state).1 with
      | error error =>
        rw [found] at answered
        cases answered
      | ok given =>
        rw [found] at answered
        rw [← Except.ok.inj answered, List.length_take]
        exact Nat.min_le_left _ _
    | error error => exact .ofFailure foremost _
  | send data =>
    simp only [Request.call]
    split
    · exact fun site foremost => ⟨.send data, .fulfilled foremost trivial fun reads => nomatch reads⟩
    · refine Ensures.bind _ (Site.ensures_ask free _ _ _ fun _ none => absurd rfl none)
        fun answer site ⟨foremost, _⟩ => ?_
      cases answer with
      | ok count => exact foremost.progressed rfl
      | error error => exact .ofFailure foremost _
  | connect =>
    refine Ensures.bind _ (Site.ensures_ask free _ _ _ fun _ none => absurd rfl none)
      fun answer site ⟨foremost, _⟩ => ?_
    rcases answer with error | (- | error)
    · exact ⟨.connect, .failed foremost⟩
    · exact ⟨.connect, .fulfilled foremost trivial fun reads => nomatch reads⟩
    · exact ⟨.connect, .failed foremost⟩
  | accept =>
    refine Ensures.bind _ (Site.ensures_ask free _ _ _ fun _ _ => rfl)
      fun answer site ⟨foremost, given⟩ => ?_
    rcases answer with error | ⟨connection, peer⟩
    · exact .ofFailure foremost _
    · exact ⟨.accept, .fulfilled foremost trivial fun _ => (given _ rfl).1⟩

/-! ## The turns of a line -/

/-- The calls of an attempt. -/
theorem Site.ensures_attemptWithin
    (free : ∀ commission : Commission, commission.spot = spot → exempt commission)
    (calls : Nat) (request : Request) :
    Ensures (Foremost lines exempt spot queue future request [])
      (Request.attemptWithin (Site.system kernel) spot.fd future calls request)
      fun result reached => match result with
        | .error left => Foremost lines exempt spot queue future left [] reached
        | .ok outcome => ∃ left, Finished lines exempt spot queue future left outcome reached := by
  induction calls generalizing request with
  | zero => exact fun site foremost => foremost
  | succ calls ih =>
    refine Ensures.bind _ (Site.ensures_call free request) fun progress site served => ?_
    cases progress with
    | done outcome => exact served
    | again left => exact ih left site served
    | blocked left => exact served

/-- An attempt. -/
theorem Site.ensures_attempt
    (free : ∀ commission : Commission, commission.spot = spot → exempt commission)
    (request : Request) :
    Ensures (Foremost lines exempt spot queue future request [])
      (request.attempt (Site.system kernel) spot.fd future)
      fun result reached => match result with
        | .error left => Foremost lines exempt spot queue future left [] reached
        | .ok outcome => ∃ left, Finished lines exempt spot queue future left outcome reached :=
  fun site foremost => Site.ensures_attemptWithin free _ request site foremost

/-- The operations of a line are tried in their order. -/
theorem Site.ensures_retry (free : ∀ commission : Commission, commission.spot = spot → exempt commission)
    (queue : List Operation) :
    Ensures (Sound (Function.update lines spot queue) exempt [])
      (Engine.retry (Site.system kernel) spot.fd queue)
      fun left reached => Sound (Function.update lines spot left) exempt [] reached := by
  induction queue with
  | nil => exact fun site sound => sound
  | cons operation rest ih =>
    refine Ensures.get fun site => ?_
    split
    · rename_i done
      have finished : site.roster.pending operation.future = false := by simpa [Site.system] using done
      refine Ensures.bind (fun _ => Sound (Function.update lines spot rest) exempt []) ?_ fun _ => ih
      rintro _ ⟨rfl, sound⟩
      change Sound _ _ _ (Site.conclude _ operation.future .abandoned)
      rw [Site.conclude_of_over finished]
      exact sound.replaced (Roster.waiting_cons_of_over finished rest).symm
    · rename_i undone
      have waits : site.roster.pending operation.future = true := by simpa [Site.system] using undone
      have tried : Ensures (Foremost lines exempt spot rest operation.future operation.request [])
          (operation.request.attempt (Site.system kernel) spot.fd operation.future) _ :=
        Site.ensures_attempt free operation.request
      refine Ensures.bind _ (tried.weaken ?_) fun result => ?_
      · rintro _ ⟨rfl, sound⟩
        exact ⟨sound, waits⟩
      · cases result with
        | error left => exact fun _ foremost => foremost.sound
        | ok outcome =>
          refine Ensures.bind (fun _ => Sound (Function.update lines spot rest) exempt []) ?_ fun _ => ih
          rintro reached ⟨left, finished⟩
          exact finished.settled free

/-! ## Ending operations -/

/-- Those who are over are passed over, and nothing else happens. -/
theorem Site.passOver_eq (queue : List Operation) (site : Site σ) :
    Engine.passOver (Site.system kernel) queue site =
      (queue.filter fun operation => site.roster.pending operation.future, site) := by
  induction queue with
  | nil => rfl
  | cons operation rest ih =>
    by_cases waits : site.roster.pending operation.future = true
    · have undone : ¬ (Site.system kernel).isDone site operation.future = true := by
        simp [Site.system, waits]
      have goesOn : Engine.passOver (Site.system kernel) (operation :: rest) site =
          (operation :: (Engine.passOver (Site.system kernel) rest site).1,
            (Engine.passOver (Site.system kernel) rest site).2) := by
        change (if (Site.system kernel).isDone site operation.future = true then _ else _ :
          StateM (Site σ) _) site = _
        rw [if_neg undone]
        rfl
      rw [goesOn, ih, List.filter_cons_of_pos (by simp [waits])]
    · have finished : site.roster.pending operation.future = false := Bool.not_eq_true _ ▸ waits
      have done : (Site.system kernel).isDone site operation.future = true := by
        simp [Site.system, finished]
      have goesOn : Engine.passOver (Site.system kernel) (operation :: rest) site =
          Engine.passOver (Site.system kernel) rest (site.conclude operation.future .abandoned) := by
        change (if (Site.system kernel).isDone site operation.future = true then _ else _ :
          StateM (Site σ) _) site = _
        rw [if_pos done]
        rfl
      rw [goesOn, Site.conclude_of_over finished, ih, List.filter_cons_of_neg (by simp [finished])]

/-- Operations that are in line end in one way, but not well. -/
theorem Site.ensures_settleAll (kernel : System σ) {sockets : Sockets} (operations : List Operation)
    (ill : verdict.completion? = none)
    (loyal : ∀ operation ∈ operations, ∃ spot, operation ∈ lines spot ∧
      (spot.fd ≠ closedFd → sockets.fd? spot.socket = none → verdict = .cancelled)) :
    Ensures (fun site => Sound lines exempt [] site ∧ site.sockets = sockets)
      (Engine.settleAll (Site.system kernel) verdict operations) fun _ reached =>
        Sound lines exempt [] reached ∧ reached.sockets = sockets ∧
          ∀ operation ∈ operations, reached.roster.pending operation.future = false := by
  -- Nobody becomes pending again, so the induction is on any set of futures that are over already.
  have all (operations : List Operation) (site : Site σ) (sound : Sound lines exempt [] site)
      (same : site.sockets = sockets)
      (loyal : ∀ operation ∈ operations, ∃ spot, operation ∈ lines spot ∧
        (spot.fd ≠ closedFd → sockets.fd? spot.socket = none → verdict = .cancelled)) :
      let reached := (Engine.settleAll (Site.system kernel) verdict operations site).2
      Sound lines exempt [] reached ∧ reached.sockets = sockets ∧
        (∀ future, site.roster.pending future = false → reached.roster.pending future = false) ∧
          ∀ operation ∈ operations, reached.roster.pending operation.future = false := by
    induction operations generalizing site with
    | nil => exact ⟨sound, same, fun _ finished => finished, fun _ member => (nomatch member)⟩
    | cons first rest ih =>
      obtain ⟨spot, member, faithful⟩ := loyal first List.mem_cons_self
      have ended := sound.dropped member ill (same ▸ faithful)
      obtain ⟨sound, sockets, kept, finished⟩ := ih (site.conclude first.future verdict) ended same
        fun operation member => loyal operation (List.mem_cons_of_mem _ member)
      refine ⟨sound, sockets, fun future gone => kept future ?_, fun operation member => ?_⟩
      · rw [Site.pending_conclude, gone, Bool.false_and]
      · rcases List.mem_cons.mp member with rfl | member
        · exact kept operation.future (by simp)
        · exact finished operation member
  intro site ⟨sound, same⟩
  obtain ⟨sound, same, -, finished⟩ := all operations site sound same loyal
  exact ⟨sound, same, finished⟩

end EventLoop.Proactor

import EventLoop.Proofs.Machine.Errands
import EventLoop.Proofs.Machine.Stages
import EventLoop.Proofs.Machine.Wakeups
import EventLoop.Proofs.Server.Accepting

/-!
# The machine hosts servers

A callback about a server that is about to run is an errand for that server. Most moves of the machine have
nothing to do with servers; a callback about a server and an instruction that serves tend the servers, and
an iteration hands over to the machine what waited in the loop. So every step of a run on an open loop tends
the servers or takes a callback.
-/
namespace EventLoop

open Net (Prospect)
open World (Attended HasServer IsAside Listens Tends openTo moving expiring trafficking hosting revoking
  requesting halting iterating notifying polling turning)
open Script (Instruction)

variable {gave : FutureId → Outcome → Prop} {held : List Ref} {world : World}

/-! ## Errands of callbacks -/

/-- What a callback that is about to run is to bring to a server. -/
def Callback.prospect (callback : Callback) (id : ServerId) : Prospect where
  starts := [callback].countP (·.starts id)
  hearings := [callback].filterMap (·.replyTo? (Reaction.isHearing id))

/-- What a signal is to bring to a server. -/
def Signal.prospect (signal : Signal) (id : ServerId) : Prospect :=
  match signal with
  | call callback => callback.prospect id
  | _ => {}

/-- A callback that is about no server brings nothing to any. -/
theorem Callback.prospect_of_aside {callback : Callback} (aside : callback.server? = none) :
    callback.prospect = fun _ => {} := by
  funext id
  unfold prospect
  rw [List.filterMap_cons_none (replyTo?_of_common (Reaction.concerns_isHearing id) aside),
    List.countP_cons_of_neg (ne_true_of_eq_false ((Callback.rare_starts id).common aside))]
  rfl

/-- A signal that runs no callback brings nothing to servers. -/
theorem Signal.prospect_of_uncalled {signal : Signal} (quiet : signal.isCall = false) :
    signal.prospect = fun _ => {} := by
  cases signal with
  | call => cases quiet
  | _ => rfl

/-- A server that is to begin to accept has a start ahead, and the other ones have nothing. -/
theorem Callback.prospect_startAccepting (id : ServerId) :
    (Callback.startAccepting id).prospect = Function.update (fun _ => {}) id { starts := 1 } := by
  funext other
  by_cases same : other = id
  · subst same
    rw [Function.update_self]
    simp [prospect, starts, replyTo?]
  · rw [Function.update_of_ne same]
    simp [prospect, starts, replyTo?, beq_false_of_ne (Ne.symm same)]

/-- A server that is to hear of an accept has that ahead, and the other ones have nothing. -/
theorem Callback.prospect_accepted (future : FutureId) (id : ServerId) :
    (Callback.done future (.accepted id)).prospect =
      Function.update (fun _ => {}) id { hearings := {future} } := by
  funext other
  by_cases same : other = id
  · subst same
    rw [Function.update_self]
    simp [prospect, starts, replyTo?, Reaction.isHearing]
  · rw [Function.update_of_ne same]
    simp [prospect, starts, replyTo?, Reaction.isHearing, beq_false_of_ne (Ne.symm same)]

/-! ## Moves that tend servers -/

/-- A step of the machine tends the servers, and the errands afterwards are those of the signal that it
leaves. -/
def MovesTending (gave : FutureId → Outcome → Prop) (held : List Ref) (errands : ServerId → Prospect)
    (world : World) (step : WorldM Move) : Prop :=
  Tends gave held errands world step fun move => move.2.prospect

namespace MovesTending

/-- Giving a signal tends the servers, unless a callback is to run. -/
theorem give {signal : Signal} (quiet : signal.isCall = false) :
    MovesTending gave held (fun _ => {}) world (Machine.give signal) :=
  Tends.finish fun attended => by
    rw [Signal.prospect_of_uncalled quiet]
    exact attended

/-- A frame goes below what a step leaves. -/
theorem onto {errands : ServerId → Prospect} {step : WorldM Move} {frame : Frame}
    (first : MovesTending gave held errands world step) :
    MovesTending gave held errands world (do
      let (frames, signal) ← step
      return (frames ++ [frame], signal)) :=
  Tends.bind first fun _ _ => Tends.finish fun attended => attended

/-- A callback about a server runs. -/
theorem runCallback {callback : Callback} {id : ServerId} (owner : callback.server? = some id)
    (alive : .server id ∈ held) (given : ∀ {future}, callback = .done future (.accepted id) →
      gave future (world.loop.resultOf future)) :
    MovesTending gave held callback.prospect world (Machine.runCallback callback) := by
  cases callback with
  | script | step | readPipe | resolve | expire | connectionMade | startReading | connectionLost =>
    cases owner
  | startAccepting =>
    cases owner
    rw [Callback.prospect_startAccepting]
    have begins : Tends gave held (Function.update (fun _ => {}) id { starts := 1 }) world
        (World.acceptNext id) fun _ => Function.update (fun _ => {}) id {} := .acceptNext alive
    refine Tends.bind begins fun _ _ => ?_
    rw [Function.update_eq_self]
    exact give rfl
  | done future reaction =>
    cases reaction with
    | script | wake | stopLoop | pipeRead | received | sent => cases owner
    | accepted =>
      cases owner
      rw [Callback.prospect_accepted]
      have hears : Tends gave held (Function.update (fun _ => {}) id { hearings := {future} }) world
          (World.acceptEnded id future) fun _ => Function.update (fun _ => {}) id {} :=
        .acceptEnded alive (fun _ => rfl) (given rfl)
      refine Tends.bind hears fun _ _ => ?_
      rw [Function.update_eq_self]
      exact give rfl

/-- An instruction from anyone serves. -/
theorem beginInstruction {instruction : Instruction} (serves : instruction.serves = true)
    (runner : Runner) : MovesTending gave held (fun _ => {}) world
      (Machine.beginInstruction runner instruction) := by
  have does (protocol : Option String) : MovesTending gave held (fun _ => {}) world (do
      Machine.give (.answer (← World.doInstruction protocol instruction))) := by
    cases instruction with
    | transport what => exact Tends.bind (Tends.doTransport protocol serves) fun _ _ => give rfl
    | openServer name source script =>
      exact Tends.bind (Tends.doOpenServer name source script) fun _ _ => give rfl
    | _ => cases serves
  cases instruction with
  | transport what =>
    cases runner with
    | outside | script | program => exact does _
  | openServer name source script =>
    cases runner with
    | outside | script | program => exact does _
  | _ => cases serves

end MovesTending

/-! ## Moves that have nothing to do with servers -/

/-- Moving is apart from the servers. -/
theorem isAside_moving : IsAside moving := by
  unfold IsAside
  decide

/-- What is done when a time is up is apart from the servers. -/
theorem isAside_expiring : IsAside expiring := by
  unfold IsAside
  decide

/-- What has to do with transports is apart from the servers. -/
theorem isAside_trafficking : IsAside trafficking := by
  unfold IsAside
  decide

/-- What is settled is apart from the servers. -/
theorem isAside_settling (ref : Ref) : IsAside ref.aspects := by
  cases ref with
  | future =>
    have aside : IsAside (.deserting :: moving) := by
      unfold IsAside
      decide
    exact aside
  | task | socket | transport | server => exact isAside_moving

/-- What is done when the loop is to return is apart from the servers. -/
theorem isAside_halting : IsAside halting := by
  unfold IsAside
  decide

/-- What an iteration does is apart from the servers. -/
theorem isAside_iterating : IsAside iterating := by
  unfold IsAside
  decide

/-- What polling does is apart from the servers. -/
theorem isAside_polling : IsAside polling := by
  unfold IsAside
  decide

/-- What is revoked is apart from the servers. -/
theorem isAside_revoking : IsAside revoking := by
  unfold IsAside
  decide

/-- What is asked on behalf of another thread is apart from the servers. -/
theorem isAside_requesting : IsAside requesting := by
  unfold IsAside
  decide

/-- What notifications do is apart from the servers. -/
theorem isAside_notifying : IsAside notifying := by
  unfold IsAside
  decide

/-- What callers do is apart from the servers. -/
theorem isAside_turning : IsAside turning := by
  unfold IsAside
  decide

/-- An instruction that does not serve has nothing to do with servers. -/
theorem Script.Instruction.isAside {instruction : Instruction} (other : instruction.serves = false)
    (loop : Loop) : IsAside (instruction.aspects loop) := by
  have base : IsAside instruction.base := by
    unfold base
    rw [other, if_neg Bool.false_ne_true]
    split
    · exact isAside_trafficking
    · split
      · exact isAside_revoking
      · split
        · exact isAside_requesting
        · split
          · exact isAside_notifying
          · exact isAside_moving
  unfold aspects
  split
  · exact isAside_iterating
  · split
    · exact isAside_halting
    · exact base

/-- A callback that is about no server has nothing to do with any. -/
theorem Callback.isAside {callback : Callback} (aside : callback.server? = none) :
    IsAside callback.aspects := by
  cases callback with
  | startAccepting => cases aside
  | connectionMade | startReading | connectionLost => exact isAside_trafficking
  | step => exact isAside_polling
  | expire => exact isAside_expiring
  | script | readPipe | resolve => exact isAside_moving
  | done future reaction =>
    cases reaction with
    | accepted => cases aside
    | received | sent => exact isAside_trafficking
    | script | wake | stopLoop | pipeRead => exact isAside_moving

/-- A callback about a server keeps it alive. -/
theorem Callback.server_mem_refs {callback : Callback} {id : ServerId}
    (owner : callback.server? = some id) : .server id ∈ callback.refs := by
  cases callback with
  | startAccepting =>
    cases owner
    exact List.mem_cons_self
  | done future reaction =>
    cases reaction with
    | accepted =>
      cases owner
      exact List.mem_cons_self
    | script | wake | stopLoop | pipeRead | received | sent => cases owner
  | script | step | readPipe | resolve | expire | connectionMade | startReading | connectionLost =>
    cases owner

/-- A callback that was taken from the loop is to bring what it would have brought. -/
theorem Callback.prospect_over {loop : Loop} {callback : Callback} {rest : List Callback}
    (ready : loop.ready = callback :: rest) (id : ServerId) :
    (callback.prospect id).over { loop with ready := rest } id = Prospect.over {} loop id := by
  have starts : [callback].countP (·.starts id) + rest.countP (·.starts id) =
      loop.ready.countP (·.starts id) := by
    rw [ready, ← List.countP_append]
    rfl
  have hearings : ([callback].filterMap (·.replyTo? (Reaction.isHearing id)) : Multiset FutureId) +
      Loop.replies (Reaction.isHearing id) { loop with ready := rest } =
        loop.replies (Reaction.isHearing id) := by
    unfold Loop.replies
    rw [ready, ← add_assoc, Multiset.coe_add, ← List.filterMap_append]
    rfl
  have none : (0 : Multiset FutureId) + loop.replies (Reaction.isHearing id) =
      loop.replies (Reaction.isHearing id) := zero_add _
  unfold Prospect.over prospect Loop.starts
  rw [starts, hearings, Nat.zero_add, none]

namespace Machine

variable {strict : Prop} {machine after : Machine}

/-- What a step does about servers. -/
inductive Hosted (gave : FutureId → Outcome → Prop) (machine after : Machine) : Prop
  /-- It keeps them attended to, and a server stays whose callback runs. -/
  | tends (quiet : after.signal.isCall = false) (listens : Listens machine.world after.world)
      (stays : ∀ {callback id}, machine.signal = .call callback → callback.server? = some id →
        machine.world.HasServer id → after.world.HasServer id)
      (attended : Attended gave machine.signal.prospect machine.world →
        Attended gave after.signal.prospect after.world)
  /-- It takes a callback from the loop. -/
  | takes (callback : Callback) (rest : List Callback) (uncalled : machine.signal.isCall = false)
      (called : after.signal = .call callback) (ready : machine.world.loop.ready = callback :: rest)
      (world : after.world = { machine.holding with loop := { machine.world.loop with ready := rest } })

/-- A move that has nothing to do with servers. -/
theorem Sound.hosted_aside (sound : machine.Sound strict) {aspects : List Aspect}
    (passes : machine.Passes aspects after) (more : moving ⊆ aspects) (aside : IsAside aspects)
    (opened : after.world.loop.closed = false) (quiet : after.signal.isCall = false)
    (apart : ∀ callback, machine.signal = .call callback → callback.server? = none) :
    Hosted gave machine after := by
  have changes := World.Course.changes passes sound.settled more
  have nothing : machine.signal.prospect = fun _ => {} := by
    cases signal : machine.signal with
    | call callback => exact Callback.prospect_of_aside (apart callback signal)
    | _ => rfl
  refine .tends quiet (.of_changes changes aside.1) (fun called owner _ => ?_) fun attended => ?_
  · rw [apart _ called] at owner
    cases owner
  · rw [Signal.prospect_of_uncalled quiet, ← nothing]
    exact attended.changes changes aside opened

/-- A move that tends servers. -/
theorem Sound.hosted_tend (sound : machine.Sound strict) {below : List Frame} {step : WorldM Move}
    (tends : MovesTending gave machine.held machine.signal.prospect machine.holding step)
    (opened : (machine.move below step).world.loop.closed = false)
    (quiet : (machine.move below step).signal.isCall = false) :
    Hosted gave machine (machine.move below step) := by
  have tended := tends sound.within
  have listens : Listens machine.world machine.holding :=
    .of_servers (World.lasts_refl _) (Nat.le_refl _) fun _ found => found
  refine .tends quiet (listens.trans tended.listens) (fun called owner has => ?_) fun attended => ?_
  · refine tended.stays _ (List.mem_append_left _ ?_) has
    rw [called]
    exact Callback.server_mem_refs owner
  · exact tended.attended opened { attended with }

/-- An instruction that someone goes on with. -/
theorem Sound.hosted_body (sound : machine.Sound strict) (runner : Runner) (frame : Frame)
    {instruction : Instruction} {step : WorldM Move} (uncalled : machine.signal.isCall = false)
    (does : instruction.serves = true → step = do
      let (frames, signal) ← beginInstruction runner instruction
      return (frames ++ [frame], signal))
    (aside : IsAside (instruction.aspects machine.world.loop) →
      Hosted gave machine (machine.move machine.frames step))
    (opened : (machine.move machine.frames step).world.loop.closed = false)
    (quiet : (machine.move machine.frames step).signal.isCall = false) :
    Hosted gave machine (machine.move machine.frames step) := by
  cases serves : instruction.serves with
  | false => exact aside (Instruction.isAside serves _)
  | true =>
    refine sound.hosted_tend ?_ opened quiet
    rw [Signal.prospect_of_uncalled uncalled, does serves]
    exact MovesTending.onto (MovesTending.beginInstruction serves runner)

/-- A signal is acted on. -/
theorem Sound.hosted_act (sound : machine.Sound False) {step : WorldM Move}
    (acts : act? machine.signal = some step)
    (opened : (machine.move machine.frames step).world.loop.closed = false)
    (given : ∀ {future id}, machine.signal = .call (.done future (.accepted id)) →
      gave future (machine.world.loop.resultOf future)) :
    Hosted gave machine (machine.move machine.frames step) := by
  have passes := (sound.act acts fun asked => asked.elim).2
  have more := machine.signal.moving_subset machine.world.loop
  have aside (base : IsAside (machine.signal.base machine.world.loop))
      (quiet : (machine.move machine.frames step).signal.isCall = false)
      (apart : ∀ callback, machine.signal = .call callback → callback.server? = none) :
      Hosted gave machine (machine.move machine.frames step) :=
    sound.hosted_aside passes more (Signal.of_base isAside_turning base) opened quiet apart
  cases signal : machine.signal with
  | proceed | answer | iterated | ended | returned | suspended | waiting =>
    rw [signal] at acts
    cases acts
  | resume | retry | join | select =>
    have quiet := (MovesQuietly.of_sedate (.act trivial acts (by rw [signal]; rfl)) machine.holding).signal
    rw [signal] at aside
    exact aside isAside_moving quiet fun _ same => nomatch same
  | call callback =>
    rw [signal] at acts
    cases acts
    have quiet : (machine.move machine.frames (runCallback callback)).signal.isCall = false := by
      by_cases polls : ∃ task, callback = .step task
      · obtain ⟨task, rfl⟩ := polls
        exact isCall_beginPoll task machine.holding
      · exact (MovesAside.runCallback (fun task same => polls ⟨task, same⟩) machine.holding).2
    cases owner : callback.server? with
    | none =>
      rw [signal] at aside
      refine aside (Callback.isAside owner) quiet ?_
      rintro _ ⟨⟩
      exact owner
    | some id =>
      have alive : .server id ∈ machine.held := by
        refine List.mem_append_left _ ?_
        rw [signal]
        exact Callback.server_mem_refs owner
      refine sound.hosted_tend ?_ opened quiet
      rw [signal]
      refine MovesTending.runCallback owner alive fun {future} accepted => ?_
      exact given (signal.trans (congrArg Signal.call accepted))
  | script actor rest =>
    have uncalled : machine.signal.isCall = false := by rw [signal]; rfl
    have quiet := (MovesQuietly.of_sedate (.act trivial acts uncalled) machine.holding).signal
    rw [signal] at acts aside
    cases rest with
    | nil => exact aside isAside_moving quiet fun _ same => nomatch same
    | cons instruction rest =>
      cases acts
      exact sound.hosted_body (.script actor) (.script actor instruction.label rest) uncalled
        (fun _ => rfl) (fun base => aside base quiet fun _ same => nomatch same) opened quiet
  | program task last rest =>
    have uncalled : machine.signal.isCall = false := by rw [signal]; rfl
    have quiet := (MovesQuietly.of_sedate (.act trivial acts uncalled) machine.holding).signal
    rw [signal] at acts aside
    cases rest with
    | nil => exact aside isAside_moving quiet fun _ same => nomatch same
    | cons instruction rest =>
      cases acts
      refine sound.hosted_body (.program task) (.program task instruction.label rest) uncalled
        (fun serves => ?_) (fun base => aside base quiet fun _ same => nomatch same) opened quiet
      cases instruction with
      | transport | openServer => rfl
      | _ => cases serves

/-- An iteration goes on. -/
theorem hosted_iteration {left : Nat} {below : List Frame} (signal : machine.signal = .proceed) :
    Hosted gave machine (machine.move below (stepIteration left)) := by
  have uncalled : machine.signal.isCall = false := by rw [signal]; rfl
  have idle (made : stepIteration left machine.holding = (([], .iterated (.ok ())), machine.holding)) :
      Hosted gave machine (machine.move below (stepIteration left)) := by
    rw [move_eq made]
    refine .tends rfl (.of_servers (World.lasts_refl _) (Nat.le_refl _) fun _ found => found)
      (fun called => ?_) fun attended => ?_
    · rw [signal] at called
      cases called
    · rw [signal] at attended
      exact { attended with }
  cases left with
  | zero => exact idle rfl
  | succ left =>
    cases ready : machine.world.loop.ready with
    | nil => exact idle (stepIteration_of_idle ready)
    | cons callback rest =>
      have made : stepIteration (left + 1) machine.holding = _ := stepIteration_of_ready ready
      rw [move_eq made]
      exact .takes callback rest uncalled rfl ready rfl

/-- A frame goes on. -/
theorem Sound.hosted_deliver (sound : machine.Sound False) {frame : Frame} {below : List Frame}
    (clean : machine.world.loop.dropped = []) (done : act? machine.signal = none)
    (split : machine.frames = frame :: below)
    (opened : (machine.move below (Machine.deliver machine.signal frame)).world.loop.closed = false) :
    Hosted gave machine (machine.move below (Machine.deliver machine.signal frame)) := by
  have passes := (sound.deliver clean done split fun asked => asked.elim).2
  have aside (apart : IsAside frame.aspects) :
      Hosted gave machine (machine.move below (Machine.deliver machine.signal frame)) := by
    have sedate : MovesSedately True (Machine.deliver machine.signal frame) := by
      refine .deliver done (fun left same => ?_) fun _ => trivial
      rw [same] at apart
      exact apart.2.1 List.mem_cons_self
    refine sound.hosted_aside passes frame.moving_subset apart opened
      (MovesQuietly.of_sedate sedate machine.holding).signal fun callback called => ?_
    rw [called] at done
    cases done
  cases frame with
  | iteration left =>
    have signal : machine.signal = .proceed := (split ▸ sound.fits).1.eq_proceed rfl done
    rw [signal]
    exact hosted_iteration signal
  | closing => exact (sound.not_closing split passes opened).elim
  | afterData | afterEnd | afterLoss => exact aside isAside_trafficking
  | repeated | running => exact aside isAside_iterating
  | poll => exact aside isAside_polling
  | script | program | letGo | holding | rounds | joining | selecting => exact aside isAside_moving

/-- An instruction from outside is begun. -/
theorem Sound.hosted_instructed (sound : machine.Sound False) (halted : machine.next = none)
    (instruction : Instruction)
    (opened : (machine.instructed instruction).world.loop.closed = false) :
    Hosted gave machine (machine.instructed instruction) := by
  obtain ⟨-, empty, value, answer⟩ := sound.answered halted
  have quiet := (MovesQuietly.beginInstruction .outside instruction
    (Machine.holding ⟨(Scenario.takeLog machine.world).2, [], .proceed⟩)).signal
  cases serves : instruction.serves with
  | false =>
    refine sound.hosted_aside (sound.instructed halted instruction).2 (instruction.moving_subset _)
      (Instruction.isAside serves _) opened quiet fun callback called => ?_
    rw [answer] at called
    cases called
  | true =>
    let start : Machine := ⟨(Scenario.takeLog machine.world).2, [], .proceed⟩
    have tends : MovesTending gave start.held (fun _ => {}) start.holding
        (beginInstruction .outside instruction) := .beginInstruction serves .outside
    have tended := tends (sound.within_outside halted)
    have listens : Listens machine.world start.holding :=
      .of_servers (World.lasts_refl _) (Nat.le_refl _) fun _ found => found
    refine .tends quiet (listens.trans tended.listens) (fun called => ?_) fun attended => ?_
    · rw [answer] at called
      cases called
    · rw [answer] at attended
      exact tended.attended opened { attended with }

/-- Every step of a run tends servers or takes a callback, as long as the loop is open. -/
theorem Sound.hosted (sound : machine.Sound False) (step : Step machine after)
    (opened : after.world.loop.closed = false)
    (given : ∀ {future id}, machine.signal = .call (.done future (.accepted id)) →
      gave future (machine.world.loop.resultOf future)) : Hosted gave machine after := by
  cases step.does with
  | settled dropped =>
    exact sound.hosted_aside (sound.settle dropped fun asked => asked.elim).2 (Ref.moving_subset _)
      (isAside_settling _) opened (Signal.isCall_eq_false (sound.not_call dropped))
        fun callback called => absurd called (sound.not_call dropped callback)
  | acted clean acts => exact sound.hosted_act acts opened given
  | delivered clean done split => exact sound.hosted_deliver clean done split opened
  | begun halted instruction => exact sound.hosted_instructed halted instruction opened

end Machine

end EventLoop

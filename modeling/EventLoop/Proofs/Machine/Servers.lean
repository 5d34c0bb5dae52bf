import EventLoop.Proofs.Machine.Closing
import EventLoop.Proofs.Machine.Hosting
import EventLoop.Proofs.Machine.Iterations
import EventLoop.Proofs.Machine.Reactions

/-!
# Servers in runs

In every state of a run of a loop that stays open the servers are attended to. So each connection that a
server accepted waits to be served or was served once, in the order in which the accepts ended, whatever
else happens: a server is let go only when nothing is to come for it, and a server that stopped serving
has closed its socket, once.
-/
namespace EventLoop

open Net (Server Round Stage Prospect)
open World (Attended HasServer Listens openTo)

variable {gave more : FutureId → Outcome → Prop} {world : World}

/-! ## What is in hand -/

/-- A callback starts a server exactly if the server is to begin to accept by it. -/
theorem Callback.starts_iff {callback : Callback} {id : ServerId} :
    callback.starts id = true ↔ callback = .startAccepting id := by
  cases callback with
  | startAccepting server => simp [starts]
  | _ => simp [starts]

/-- A callback about one server brings nothing to the others. -/
theorem Callback.prospect_of_other {callback : Callback} {id : ServerId}
    (other : callback.server? ≠ some id) : callback.prospect id = {} := by
  cases owner : callback.server? with
  | none => rw [prospect_of_aside owner]
  | some server =>
    have differ : id ≠ server := fun same => other (same ▸ owner)
    cases callback with
    | startAccepting =>
      cases owner
      rw [prospect_startAccepting, Function.update_of_ne differ]
    | done future reaction =>
      cases reaction with
      | accepted =>
        cases owner
        rw [prospect_accepted, Function.update_of_ne differ]
      | script | wake | stopLoop | pipeRead | received | sent => cases owner
    | script | step | readPipe | resolve | expire | connectionMade | startReading | connectionLost =>
      cases owner

/-- A callback about a server brings something to it. -/
theorem Callback.prospect_ne {callback : Callback} {id : ServerId} (owner : callback.server? = some id)
    (loop : Loop) : (callback.prospect id).over loop id ≠ {} := by
  intro nothing
  obtain ⟨starts, hearings, -⟩ := Prospect.mk.inj nothing
  cases callback with
  | startAccepting =>
    cases owner
    rw [prospect_startAccepting, Function.update_self] at starts
    change 1 + _ = 0 at starts
    omega
  | done future reaction =>
    cases reaction with
    | accepted =>
      cases owner
      rw [prospect_accepted, Function.update_self] at hearings
      have some : future ∈ ({future} : Multiset FutureId) + loop.replies (Reaction.isHearing id) :=
        Multiset.mem_add.mpr (Or.inl (Multiset.mem_singleton_self _))
      rw [hearings] at some
      cases some
    | script | wake | stopLoop | pipeRead | received | sent => cases owner
  | script | step | readPipe | resolve | expire | connectionMade | startReading | connectionLost =>
    cases owner

/-- A server is about to hear of an accept from the callback that tells it. -/
theorem Callback.mem_hearings {callback : Callback} {id : ServerId} {future : FutureId} :
    future ∈ (callback.prospect id).hearings ↔ callback = .done future (.accepted id) := by
  change future ∈ [callback].filterMap (·.replyTo? (Reaction.isHearing id)) ↔ _
  rw [List.mem_filterMap]
  constructor
  · rintro ⟨_, same, replies⟩
    rw [List.mem_singleton.mp same] at replies
    cases callback with
    | done other reaction =>
      change (if reaction.isHearing id then some other else none) = _ at replies
      split at replies
      · rename_i hearing
        cases replies
        rw [Reaction.isHearing_iff.mp hearing]
      · cases replies
    | _ => cases replies
  · rintro rfl
    exact ⟨_, List.mem_singleton_self _, if_pos (Reaction.isHearing_iff.mpr rfl)⟩

/-- Servers stay attended to when a callback is taken from the loop. -/
theorem World.Attended.take {callback : Callback} {rest : List Callback}
    (attended : Attended gave (fun _ => {}) world) (ready : world.loop.ready = callback :: rest) :
    Attended gave callback.prospect { world with loop := { world.loop with ready := rest } } := by
  have takes (id : ServerId) := Callback.prospect_over ready id
  refine ⟨fun {id server} found => ?_, fun {id server} found future hears => ?_,
    fun found event member => attended.vouches found event member, fun {id} none => ?_,
    ⟨attended.aloof.timers, attended.aloof.remote⟩⟩
  · dsimp only
    rw [takes]
    exact attended.kept found
  · have waits : future ∈ world.loop.replies (Reaction.isHearing id) := by
      have hearings := congrArg Prospect.hearings (takes id)
      change _ + _ = 0 + _ at hearings
      rw [zero_add] at hearings
      rw [← hearings]
      exact Multiset.mem_add.mpr (Or.inr hears)
    have awaits := attended.awaits found future waits
    exact ⟨⟨awaits.retains.holds, awaits.retains.free⟩, awaits.reacts, awaits.accepting⟩
  · have empty := (takes id).trans (attended.absent none)
    obtain ⟨starts, hearings, -⟩ := Prospect.mk.inj empty
    have begins := (Nat.add_eq_zero_iff.mp starts).2
    have hears := ((add_eq_zero_iff_of_nonneg (Multiset.zero_le _) (Multiset.zero_le _)).mp hearings).2
    unfold Prospect.over
    rw [begins, hears]
    rfl

namespace Machine

variable {machine after first last : Machine} {id : ServerId} {future : FutureId}

/-- The servers of a machine are attended to, and so is the callback that is about to run. -/
structure Hosts (gave : FutureId → Outcome → Prop) (machine : Machine) : Prop where
  /-- The servers are attended to. -/
  attended : Attended gave machine.signal.prospect machine.world
  /-- A server whose callback is about to run is there. -/
  there : ∀ {callback id}, machine.signal = .call callback → callback.server? = some id →
    machine.world.HasServer id
  /-- An accept of whose end a server is about to hear has ended, and it keeps its outcome. -/
  ended : ∀ {future id}, machine.signal = .call (.done future (.accepted id)) →
    machine.world.loop.Retains future ∧ machine.world.loop.isDone future = true

/-- What is to come for a server. -/
def prospect (machine : Machine) (id : ServerId) : Prospect :=
  (machine.signal.prospect id).over machine.world.loop id

namespace Hosts

/-- Servers for which something is to come are there. -/
theorem hasServer (hosts : Hosts gave machine) (comes : machine.prospect id ≠ {}) :
    machine.world.HasServer id := by
  cases there : (machine.world.servers.get? id).join with
  | some server => exact ⟨server, Option.join_eq_some_iff.mp there⟩
  | none =>
    by_contra gone
    have aside : machine.signal.prospect id = {} := by
      cases signal : machine.signal with
      | call callback =>
        exact Callback.prospect_of_other fun owner => gone (hosts.there signal owner)
      | _ => rfl
    refine comes ?_
    unfold Machine.prospect
    rw [aside]
    exact hosts.attended.absent there

/-- A server that is to begin to accept is there. -/
theorem hasServer_of_ready (hosts : Hosts gave machine)
    (ready : .startAccepting id ∈ machine.world.loop.ready) : machine.world.HasServer id := by
  refine hosts.hasServer fun nothing => ?_
  have positive : 0 < machine.world.loop.starts id :=
    List.countP_pos_iff.mpr ⟨_, ready, Callback.starts_iff.mpr rfl⟩
  have begins := congrArg Prospect.starts nothing
  change _ + machine.world.loop.starts id = 0 at begins
  omega

/-- A server that is to hear of the end of an accept is there. -/
theorem hasServer_of_hears (hosts : Hosts gave machine)
    (hears : future ∈ machine.world.loop.replies (Reaction.isHearing id)) :
    machine.world.HasServer id := by
  refine hosts.hasServer fun nothing => ?_
  have listed : future ∈ (machine.prospect id).hearings := Multiset.mem_add.mpr (Or.inr hears)
  rw [nothing] at listed
  cases listed

/-- The servers of a machine stay attended to. -/
theorem step (hosts : Hosts gave machine) (hosted : Hosted gave machine after) : Hosts gave after := by
  cases hosted with
  | tends quiet listens stays attended =>
    refine ⟨attended hosts.attended, fun called => ?_, fun called => ?_⟩
    · rw [called] at quiet
      cases quiet
    · rw [called] at quiet
      cases quiet
  | takes callback rest uncalled called ready world =>
    have before : Attended gave (fun _ => {}) machine.holding := by
      have attended := hosts.attended
      rw [Signal.prospect_of_uncalled uncalled] at attended
      exact { attended with }
    have attended : Attended gave callback.prospect after.world := by
      rw [world]
      exact before.take ready
    have there {id : ServerId} (owner : callback.server? = some id) : machine.world.HasServer id := by
      refine hosts.hasServer ?_
      have comes := Callback.prospect_ne owner { machine.world.loop with ready := rest }
      rw [Callback.prospect_over ready] at comes
      unfold Machine.prospect
      rw [Signal.prospect_of_uncalled uncalled]
      exact comes
    have servers : after.world.servers = machine.world.servers := by rw [world]; rfl
    refine ⟨?_, fun {other id} taken owner => ?_, fun {future id} taken => ?_⟩
    · rw [called]
      exact attended
    · rw [called] at taken
      cases taken
      obtain ⟨server, found⟩ := there owner
      exact ⟨server, servers ▸ found⟩
    · rw [called] at taken
      cases taken
      have has : machine.world.HasServer id := there rfl
      obtain ⟨server, found⟩ := has
      have waits : future ∈ machine.world.loop.replies (Reaction.isHearing id) :=
        Loop.mem_hearings.mpr (Or.inl (ready ▸ List.mem_cons_self))
      have awaits := hosts.attended.awaits found future waits
      have retains : after.world.loop.Retains future := by
        rw [world]
        exact ⟨awaits.retains.holds, awaits.retains.free⟩
      have done : machine.world.loop.isDone future = true := by
        -- Otherwise the server would hear of the accept once more.
        by_contra pending
        have reacts := awaits.reacts (Bool.not_eq_true _ ▸ pending)
        have kept := attended.kept (servers ▸ found)
        rw [Callback.prospect_accepted, Function.update_self] at kept
        obtain ⟨rounds, -, -, none⟩ := Server.Kept.hears kept
        have again : future ∈ after.world.loop.replies (Reaction.isHearing id) := by
          refine Loop.mem_hearings.mpr (Or.inr ?_)
          rw [world]
          exact reacts
        rw [none] at again
        cases again
      refine ⟨retains, ?_⟩
      rw [world]
      exact done

/-- Futures may have had more outcomes. -/
theorem mono (hosts : Hosts gave machine)
    (gives : ∀ {future outcome}, gave future outcome → more future outcome) : Hosts more machine :=
  { hosts with attended := hosts.attended.mono gives }

end Hosts

/-! ## Outcomes -/

/-- A future is done in a state of a run, with the outcome that it had in an earlier state if it was done
there and the outcome was not moved out. -/
def Gives (first machine : Machine) (future : FutureId) (outcome : Outcome) : Prop :=
  machine.world.loop.isDone future = true ∧
    ∀ other, first.world.loop.EndedWith future other → other = outcome

/-- A future that is done exists. -/
theorem exists_of_isDone {loop : Loop} (done : loop.isDone future = true) :
    ∃ entry, loop.futures.get? future = some entry ∧ entry.isDone = true := by
  unfold Loop.isDone Loop.futureState at done
  cases found : loop.futures.get? future with
  | none =>
    rw [found] at done
    cases done
  | some entry =>
    rw [found] at done
    exact ⟨entry, rfl, done⟩

/-- A future that is done stays done. -/
theorem Onward.isDone (onward : Onward IsOpen first machine) (visits : Visits IsOpen first)
    (done : first.world.loop.isDone future = true) : machine.world.loop.isDone future = true := by
  obtain ⟨entry, found, ended⟩ := exists_of_isDone done
  obtain ⟨later, here, remains⟩ := onward.remains visits found ended
  unfold Loop.isDone Loop.futureState
  rw [here]
  exact remains.isDone ended

/-- Nothing changes about a future that is done and keeps its outcome. -/
theorem Onward.same (onward : Onward IsOpen first machine) (visits : Visits IsOpen first)
    {entry later : Future} (found : first.world.loop.futures.get? future = some entry)
    (done : entry.isDone = true) (here : machine.world.loop.futures.get? future = some later)
    (kept : later.isMoved = false) : later = entry := by
  obtain ⟨reached, there, remains⟩ := onward.remains visits found done
  cases here.symm.trans there
  cases remains with
  | same => rfl
  | moved => cases kept

/-- A future that keeps its outcome has the outcome with which it ended. -/
theorem Onward.endedWith (onward : Onward IsOpen first machine) (visits : Visits IsOpen first)
    {outcome : Outcome} (ended : first.world.loop.EndedWith future outcome)
    (holds : machine.world.loop.Holds future) : machine.world.loop.EndedWith future outcome := by
  obtain ⟨entry, found, done, unmoved, rfl⟩ := ended
  obtain ⟨later, here, kept⟩ := holds
  cases onward.same visits found done here kept
  exact ⟨entry, here, done, unmoved, rfl⟩

/-- A future that was done already had ended with the outcome that it has. -/
theorem Onward.endedBefore (onward : Onward IsOpen first machine) (visits : Visits IsOpen first)
    (done : first.world.loop.isDone future = true) {outcome : Outcome}
    (ended : machine.world.loop.EndedWith future outcome) :
    first.world.loop.EndedWith future outcome := by
  obtain ⟨entry, found, finished⟩ := exists_of_isDone done
  obtain ⟨later, here, -, kept, rfl⟩ := ended
  cases onward.same visits found finished here kept
  exact ⟨entry, found, finished, kept, rfl⟩

/-! ## Every state of a run -/

/-- When a loop was just built, there are no servers. -/
theorem Initial.hosts (initial : Initial machine) (opened : machine.world.loop.closed = false) :
    Hosts gave machine := by
  obtain ⟨-, signal, bare, isBare, settled, course⟩ := initial.course
  have uncalled {callback : Callback} : machine.signal ≠ .call callback := by
    rw [signal]
    exact nofun
  refine ⟨?_, fun called => absurd called uncalled, fun called => absurd called uncalled⟩
  rw [signal]
  refine Attended.changes ?_ (course.changes settled (List.subset_cons_self _ _)) isAside_halting opened
  cases isBare with
  | intro host settings completer =>
    exact ⟨fun found => (nomatch found), fun found => (nomatch found), fun found => (nomatch found),
      fun _ => rfl, ⟨fun _ member => (nomatch member), fun _ member => (nomatch member)⟩⟩

/-- In every state of a run the servers are attended to, and what they took down is the case. -/
theorem Visits.hosts (visits : Visits IsOpen machine) : Hosts (machine.Gives machine) machine := by
  induction visits with
  | initial initial fine => exact initial.hosts fine
  | @step before after earlier step fine ih =>
    have hosted : Hosted (before.Gives before) before after :=
      earlier.reachable.sound.hosted step fine fun called => by
        obtain ⟨retains, done⟩ := ih.ended called
        exact ⟨done, fun other ended => ended.unique (.of_holds retains.holds done)⟩
    have onward : Onward IsOpen before after := .single ⟨step, fine⟩
    refine (ih.step hosted).mono fun {future outcome} gives => ?_
    exact ⟨onward.isDone earlier gives.1, fun other ended =>
      gives.2 other (onward.endedBefore earlier gives.1 ended)⟩

/-- So they are with regard to the outcomes in an earlier state. -/
theorem Onward.hosts (onward : Onward IsOpen first machine) (visits : Visits IsOpen first) :
    Hosts (first.Gives machine) machine := by
  induction onward with
  | refl => exact visits.hosts
  | @tail before after earlier last ih =>
    have reached := visits.onward earlier
    have hosted : Hosted (first.Gives before) before after :=
      reached.reachable.sound.hosted last.1 last.2 fun called => by
        obtain ⟨retains, done⟩ := ih.ended called
        refine ⟨done, fun other ended => ?_⟩
        exact (Onward.endedWith earlier visits ended retains.holds).unique (.of_holds retains.holds done)
    have onward : Onward IsOpen before after := .single last
    exact (ih.step hosted).mono fun gives => ⟨onward.isDone reached gives.1, gives.2⟩

/-- A step tells what becomes of servers and their listening sockets. -/
theorem Hosted.listens (hosted : Hosted gave machine after) : Listens machine.world after.world := by
  cases hosted with
  | tends quiet listens => exact listens
  | takes callback rest uncalled called ready world =>
    rw [world]
    exact .of_servers (World.lasts_refl _) (Nat.le_refl _) fun _ found => found

/-- Servers listen on the way to a later state. -/
theorem Onward.listens (onward : Onward IsOpen first machine) (visits : Visits IsOpen first) :
    Listens first.world machine.world := by
  induction onward with
  | refl => exact .refl _
  | tail earlier last ih =>
    have hosted : Hosted (fun _ _ => True) _ _ :=
      (visits.onward earlier).reachable.sound.hosted last.1 last.2 fun _ => trivial
    exact ih.trans hosted.listens

/-! ## Servers that are let go -/

/-- A reaction of a future is due if it is ready or the future keeps it. -/
theorem mem_due {reaction : Reaction} : reaction ∈ machine.due future ↔
    .done future reaction ∈ machine.world.loop.ready ∨ machine.world.loop.Reacts future reaction := by
  have kept : reaction ∈ machine.world.loop.agenda.kept future ↔
      machine.world.loop.Reacts future reaction := by
    unfold Agenda.kept Loop.agenda
    constructor
    · intro member
      cases found : machine.world.loop.futures.get? future with
      | none =>
        rw [found] at member
        cases member
      | some entry =>
        rw [found] at member
        obtain ⟨kind, phase⟩ := entry
        cases phase with
        | pending reactions timer => exact ⟨kind, reactions, timer, found, member⟩
        | cancelled | finished => cases member
    · rintro ⟨kind, reactions, timer, found, member⟩
      rw [found]
      exact member
  unfold due Agenda.due
  rw [List.mem_append, List.mem_filterMap, kept]
  refine or_congr_left ⟨?_, fun ready => ⟨_, ready, if_pos rfl⟩⟩
  rintro ⟨callback, ready, same⟩
  rw [← Callback.reaction?_eq_some.mp same]
  exact ready

/-- The accepts that a server is still to hear of are those whose reactions are due. -/
theorem accepted_mem_due : .accepted id ∈ machine.due future ↔
    future ∈ machine.world.loop.replies (Reaction.isHearing id) :=
  mem_due.trans Loop.mem_hearings.symm

/-- An accept of which a server is to hear loses no reaction. -/
theorem Hosts.keeps (hosts : Hosts gave machine) {server : Server}
    (found : machine.world.servers.get? id = some (some server))
    (hears : future ∈ machine.world.loop.replies (Reaction.isHearing id)) : machine.Keeps future := by
  intro deserts
  let looking : World := { machine.holding with loop :=
    { machine.world.loop with dropped := machine.world.loop.dropped.tail } }
  have mentioned : looking.isMentioned (.future future) = true := by
    rcases Loop.mem_hearings.mp hears with ready | reacts
    · have due : .done future (.accepted id) ∈ looking.loop.ready := ready
      exact World.isMentioned_of_ready due (List.mem_append_right _ List.mem_cons_self)
    · have accepting := (hosts.attended.awaits found future hears).accepting reacts.pending
      have serves : looking.servers.get? id = some (some server) := found
      exact World.isMentioned_of_accepting serves accepting
  exact absurd (mentioned.symm.trans deserts.free) nofun

/-- A server is let go only when nothing is to come for it. -/
theorem Visits.prospect_of_gone (visits : Visits IsOpen machine) (step : Step machine after)
    (fine : after.IsOpen) (has : machine.world.HasServer id) (gone : ¬ after.world.HasServer id) :
    machine.prospect id = {} := by
  have hosts := visits.hosts
  have later : Hosts (after.Gives after) after := Visits.hosts (.step visits step fine)
  have goes := visits.goes (fun _ fine => fine) step fine
  have aside : machine.signal.prospect id = {} := by
    cases signal : machine.signal with
    | call callback =>
      refine Callback.prospect_of_other fun owner => ?_
      have hosted : Hosted (fun _ _ => True) machine after :=
        visits.reachable.sound.hosted step fine fun _ => trivial
      cases hosted with
      | tends quiet listens stays => exact gone (stays signal owner has)
      | takes other rest uncalled =>
        rw [signal] at uncalled
        cases uncalled
    | _ => rfl
  have starts : machine.world.loop.starts id = 0 := by
    refine List.countP_eq_zero.mpr fun callback ready starts => gone ?_
    obtain rfl : callback = .startAccepting id := Callback.starts_iff.mp starts
    rcases goes.queues.waits ready with waits | called
    · exact later.hasServer_of_ready waits
    · exact later.there called rfl
  have hearings : machine.world.loop.replies (Reaction.isHearing id) = 0 := by
    refine Multiset.eq_zero_of_forall_notMem fun future hears => gone ?_
    obtain ⟨server, found⟩ := has
    have reacts := goes.reacts (hosts.keeps found hears) (visits.minds fun _ fine => fine) visits.fine
    rcases reacts.waits (accepted_mem_due.mpr hears) with waits | called
    · exact later.hasServer_of_hears (accepted_mem_due.mp waits)
    · exact later.there called rfl
  unfold Machine.prospect Prospect.over
  rw [aside, starts, hearings]
  rfl

/-- On the way to a state there is a last one in which a server is there. If it is let go after that, then
nothing is to come for it. -/
theorem Onward.last_hasServer (onward : Onward IsOpen first machine) (visits : Visits IsOpen first)
    (has : first.world.HasServer id) : ∃ last, Onward IsOpen first last ∧ Onward IsOpen last machine ∧
      last.world.HasServer id ∧
        (last = machine ∨ last.prospect id = {} ∧ ¬ machine.world.HasServer id) := by
  induction onward with
  | refl => exact ⟨first, .refl, .refl, has, Or.inl rfl⟩
  | @tail before after earlier step ih =>
    have reached := visits.onward earlier
    have single : Onward IsOpen before after := .single step
    obtain ⟨last, until_, since, there, rest⟩ := ih
    rcases rest with rfl | ⟨nothing, gone⟩
    · by_cases still : after.world.HasServer id
      · exact ⟨after, until_.trans single, .refl, still, Or.inl rfl⟩
      · have nothing := reached.prospect_of_gone step.1 step.2 there still
        exact ⟨last, until_, single, there, Or.inr ⟨nothing, still⟩⟩
    · refine ⟨last, until_, since.trans single, there, Or.inr ⟨nothing, fun ⟨server, found⟩ => gone ?_⟩⟩
      -- The number of a server is given to no other.
      obtain ⟨known, earlier_⟩ := there
      have below := Nat.lt_of_lt_of_le (Table.lt_size_of_get? earlier_)
        (Onward.listens since (visits.onward until_)).size
      obtain ⟨same, here, -⟩ := (single.listens reached).servers below found
      exact ⟨same, here⟩

/-! ## Operations are submitted -/

/-- When a loop was just built, operations are submitted. -/
theorem Initial.submitting (initial : Initial machine) : machine.world.submitting = true := by
  cases initial with
  | built success =>
    unfold Scenario.build at success
    split at success
    · cases success
    · dsimp only at success
      split at success
      · cases success
      · rename_i settings _ _ completer host made
        rw [Scenario.buildLoop_eq] at success
        let start : World := (World.message .debug ("Using proactor: " ++ completer.name)
          { host, settings, completer }).2
        have same : (World.onHost Host.makePair start).2.submitting = true := rfl
        split at success
        · cases success
        · rename_i paired
          cases success
          exact (congrArg (·.2.submitting) paired).symm.trans same

/-- As long as the loop is open, operations are submitted. -/
theorem Visits.submitting (visits : Visits IsOpen machine) : machine.world.submitting = true := by
  induction visits with
  | initial initial => exact initial.submitting
  | step earlier step fine ih =>
    rcases earlier.reachable.sound.closesAtMost step with kept | begins
    · exact (congrArg Fittings.submitting kept).trans ih
    · have closed : _ = true := congrArg Fittings.closed begins.gone
      exact absurd (fine.symm.trans closed) nofun

/-! ## Connections are served -/

/-- What a server has done in a run that begins when the server is there. -/
structure ServesConnections (first machine : Machine) (id : ServerId) (earlier server : Server)
    (rounds : List Round) (stage : Net.Stage) : Prop where
  /-- The server is there. -/
  found : machine.world.servers.get? id = some (some server)
  /-- It is the one that was there in the beginning. -/
  continues : earlier.Continues server
  /-- All that it did it did in rounds, one after another. -/
  serves : server.Serves rounds stage
  /-- What is to come for it is what comes next in a round. -/
  comes : machine.prospect id = stage.prospect (server.protocolName rounds.length)
  /-- There is one protocol for each round. -/
  made : server.made = rounds.length
  /-- In each round an accept has ended, and a transport was opened on the socket of its connection. -/
  connects : ∀ round ∈ rounds, machine.world.loop.isDone round.future = true ∧
    machine.world.Opened round.transport (round.socket, some round.peer)
  /-- A connection that was accepted is served in a round, unless the server is still to hear of it. -/
  answers : ∀ {future socket peer}, .accepting future ∈ server.history →
    first.world.loop.EndedWith future (.ok (.connection socket peer)) →
      stage = .waiting future ∨ ∃ transport, ⟨future, socket, peer, transport⟩ ∈ rounds
  /-- After an accept that failed the server does not serve, unless it is still to hear of it. -/
  fails : ∀ {future error}, .accepting future ∈ server.history →
    first.world.loop.EndedWith future (.error error) →
      stage = .waiting future ∨ server.serving = false
  /-- When the accept has ended that the server waits for, the callback is ready or starts that tells it. -/
  hears : ∀ {future}, stage = .waiting future → machine.world.loop.isDone future = true →
    .done future (.accepted id) ∈ machine.world.loop.ready ∨
      machine.signal = .call (.done future (.accepted id))
  /-- No accept is under way but the one that the server waits for. -/
  single : ∀ {future}, .accepting future ∈ server.history →
    machine.world.loop.isDone future = false → stage = .waiting future
  /-- No accept is under way when the server does not serve. -/
  ceases : server.serving = false → ∀ {future}, .accepting future ∈ server.history →
    machine.world.loop.isDone future = true
  /-- A server that does not serve never serves again. -/
  rests : earlier.serving = false → server.serving = false
  /-- The run comes with its close calls. -/
  history : ∃ closings, History first closings machine
  /-- When the server stops serving, its socket is closed, and one call closes it. -/
  shut : earlier.serving = true → first.world.isOpen earlier.socket = true → server.serving = false →
    machine.world.isOpen earlier.socket = false ∧ ∀ {closings}, History first closings machine →
      Owner.losses (.socket earlier.socket) closings = [first.world.fdOf earlier.socket]
  /-- Whenever it is closed in the next move, no operation waits at its socket any more. -/
  closes : ∀ {world now}, World.Changes (openTo machine.held) World.tending machine.holding world →
    world.servers.get? id = some (some now) → world.ClosesServer id now

/-- Between two moves no transport is owed, and no failure is to be made up for. -/
theorem prospect_bare (machine : Machine) (id : ServerId) :
    (machine.prospect id).owed = none ∧ (machine.prospect id).failing = false := by
  unfold Machine.prospect Prospect.over Signal.prospect
  split
  · exact ⟨rfl, rfl⟩
  · exact ⟨rfl, rfl⟩

/-- If a server waits for an accept, then its reaction is due or starts. -/
theorem due_of_waiting {protocol : String}
    (comes : machine.prospect id = (Net.Stage.waiting future).prospect protocol) :
    future ∈ machine.world.loop.replies (Reaction.isHearing id) ∨
      machine.signal = .call (.done future (.accepted id)) := by
  have listed : future ∈ (machine.prospect id).hearings := by
    rw [comes]
    exact Multiset.mem_singleton_self _
  rcases Multiset.mem_add.mp listed with hand | waits
  · refine Or.inr ?_
    cases signal : machine.signal with
    | call callback =>
      rw [signal] at hand
      rw [Callback.mem_hearings.mp hand]
    | _ =>
      rw [signal] at hand
      cases hand
  · exact Or.inl waits

namespace Hosts

variable {server : Server} {rounds : List Round} {stage : Net.Stage}

/-- Between two moves a server is in a stage that says what is to come for it. -/
theorem exists_stage (hosts : Hosts gave machine)
    (found : machine.world.servers.get? id = some (some server)) :
    ∃ rounds stage, server.Serves rounds stage ∧
      machine.prospect id = stage.prospect (server.protocolName rounds.length) ∧
        (stage.isFailure = true → server.serving = false) := by
  have bare : (machine.prospect id).failing = false := (machine.prospect_bare id).2
  obtain ⟨rounds, stage, serves, same, failed⟩ := hosts.attended.kept found
  refine ⟨rounds, stage, serves, ?_, fun failure => (failed failure).resolve_right fun failing => ?_⟩
  · rw [← same]
    change _ = { machine.prospect id with failing := false }
    rw [← bare]
  · exact absurd (bare.symm.trans failing) nofun

/-- An accept that was submitted is the one that the server waits for, or it ended and the server took note
of its outcome. -/
theorem waits_or_ended (hosts : Hosts gave machine)
    (found : machine.world.servers.get? id = some (some server)) (serves : server.Serves rounds stage)
    (comes : machine.prospect id = stage.prospect (server.protocolName rounds.length))
    (submitted : .accepting future ∈ server.history) :
    stage = .waiting future ∨ ∃ outcome, gave future outcome ∧
      ((∃ round ∈ rounds, round.future = future ∧ outcome = .ok (.connection round.socket round.peer)) ∨
        ∃ none, stage = .ended future outcome none) := by
  rcases serves.of_accepting submitted with ⟨round, member, rfl⟩ | waits | ⟨outcome, none, rfl⟩ |
    ⟨socket, peer, rfl⟩
  · obtain ⟨protocol, happened⟩ := serves.mem_of_round member
    have ended := hosts.attended.vouches found _ (happened _ (List.mem_cons_of_mem _ List.mem_cons_self))
    exact Or.inr ⟨_, ended, Or.inl ⟨round, member, rfl, rfl⟩⟩
  · exact Or.inl waits
  · have noted : .ended future outcome ∈ server.history :=
      serves.mem_of_stage (List.mem_cons_of_mem _ List.mem_cons_self)
    exact Or.inr ⟨outcome, hosts.attended.vouches found _ noted, Or.inr ⟨none, rfl⟩⟩
  · have owed := congrArg Prospect.owed comes
    rw [(machine.prospect_bare id).1] at owed
    cases owed

/-- No accept is under way when the server does not serve. -/
theorem isDone_of_stopped (hosts : Hosts gave machine)
    (found : machine.world.servers.get? id = some (some server)) (serves : server.Serves rounds stage)
    (comes : machine.prospect id = stage.prospect (server.protocolName rounds.length))
    (stopped : server.serving = false) (waits : stage = .waiting future) :
    machine.world.loop.isDone future = true := by
  subst waits
  rcases due_of_waiting comes with hears | called
  · by_contra pending
    have accepting := (hosts.attended.awaits found future hears).accepting (Bool.not_eq_true _ ▸ pending)
    rw [serves.rests stopped] at accepting
    cases accepting
  · exact (hosts.ended called).2

end Hosts

/-- A server that is there in the end has served its connections. -/
theorem Onward.serves_of_found (onward : Onward IsOpen first machine) (visits : Visits IsOpen first)
    {earlier server : Server} (start : first.world.servers.get? id = some (some earlier))
    (found : machine.world.servers.get? id = some (some server)) :
    ∃ rounds stage, first.ServesConnections machine id earlier server rounds stage := by
  have reached := visits.onward onward
  have hosts := onward.hosts visits
  obtain ⟨same, here, continues, serving⟩ :=
    (onward.listens visits).servers (Table.lt_size_of_get? start) found
  cases start.symm.trans here
  obtain ⟨rounds, stage, serves, comes, failed⟩ := hosts.exists_stage found
  have ends {future : FutureId} (submitted : .accepting future ∈ server.history) :=
    hosts.waits_or_ended found serves comes submitted
  have single {future : FutureId} (submitted : .accepting future ∈ server.history)
      (pending : machine.world.loop.isDone future = false) : stage = .waiting future := by
    refine (ends submitted).resolve_right fun ⟨outcome, gives, _⟩ => ?_
    exact absurd (pending.symm.trans gives.1) nofun
  have unfinished : stage.made = 0 := by
    cases stage with
    | opening =>
      have owed := congrArg Prospect.owed comes
      rw [(machine.prospect_bare id).1] at owed
      cases owed
    | idle | due | waiting | ended => rfl
  have exists_history := History.exists_of_onward (onward.mono fun _ _ => trivial)
  refine ⟨rounds, stage, found, continues, serves, comes, ?_, fun round member => ?_,
    fun {future socket peer} submitted ended => ?_, fun {future error} submitted ended => ?_,
    fun {future} waits done => ?_, single, fun stopped future submitted => ?_, fun stopped => ?_,
    exists_history, fun served opened stopped => ?_, fun {world now} changes there => ?_⟩
  · have made := serves.made
    rw [unfinished] at made
    exact made
  · obtain ⟨protocol, happened⟩ := serves.mem_of_round member
    have noted (event : Net.ServerEvent) (listed : event ∈ round.events protocol) :=
      hosts.attended.vouches found event (happened event listed)
    have ended := noted (.ended round.future (.ok (.connection round.socket round.peer)))
      (by simp [Round.events])
    exact ⟨ended.1, noted (.opened round.transport protocol round.socket round.peer) (by simp [Round.events])⟩
  · refine (ends submitted).imp_right fun ⟨outcome, gives, how⟩ => ?_
    obtain rfl := gives.2 _ ended
    rcases how with ⟨round, member, rfl, connection⟩ | ⟨none, -⟩
    · cases connection
      exact ⟨round.transport, member⟩
    · cases none
  · refine (ends submitted).imp_right fun ⟨outcome, gives, how⟩ => ?_
    obtain rfl := gives.2 _ ended
    rcases how with ⟨round, -, -, connection⟩ | ⟨none, rfl⟩
    · cases connection
    · exact failed rfl
  · subst waits
    refine (due_of_waiting comes).imp_left fun hears => ?_
    refine (Loop.mem_hearings.mp hears).resolve_right fun reacts => ?_
    exact absurd (reacts.pending.symm.trans done) nofun
  · by_contra pending
    have waits := single submitted (Bool.not_eq_true _ ▸ pending)
    exact pending (hosts.isDone_of_stopped found serves comes stopped waits)
  · rcases serving with steady | ⟨served, -⟩
    · exact steady.trans stopped
    · exact absurd (stopped.symm.trans served) nofun
  · have exists_ : World.Has first.world (.socket earlier.socket) := World.has_of_isOpen opened
    have shut : machine.world.isOpen earlier.socket = false := by
      rcases serving with steady | ⟨-, -, shuts⟩
      · exact absurd ((stopped.symm.trans steady).trans served) nofun
      · exact shuts exists_
    refine ⟨shut, fun {closings} history => ?_⟩
    have fares := (history.fares exists_).2
    rw [World.owned?_of_isOpen opened, World.owned?_of_closed shut] at fares
    exact fares.lost
  · have within := changes.within reached.reachable.sound.within
    have submitting : world.submitting = true :=
      (congrArg Fittings.submitting (changes.fittings (by decide))).trans reached.submitting
    exact World.closesServer within submitting there

/-- Every connection that a server accepts is served once, in the order in which the accepts end, and a
server that stops serving closes its socket once. A server is let go only when nothing is to come for it. -/
theorem servesConnections (visits : Visits IsOpen first) (onward : Onward IsOpen first machine)
    {earlier : Server} (start : first.world.servers.get? id = some (some earlier)) :
    ∃ last server rounds stage, Onward IsOpen first last ∧ Onward IsOpen last machine ∧
      first.ServesConnections last id earlier server rounds stage ∧
        (last = machine ∨ last.prospect id = {} ∧ ¬ machine.world.HasServer id) := by
  obtain ⟨last, until_, since, ⟨server, found⟩, rest⟩ := onward.last_hasServer visits ⟨earlier, start⟩
  obtain ⟨rounds, stage, serves⟩ := until_.serves_of_found visits start found
  exact ⟨last, server, rounds, stage, until_, since, serves, rest⟩

/-- A server closes itself when it makes a protocol. Its first accept has ended, and it is still to hear of
that. -/
def knocking : Machine := scripted.drive openly 60
  [.socket (.pair "a" "b"), .openServer "s" (.address "127.0.0.1:8000") ⟨[], [], [], [], false, false⟩,
    .transport (.closeOnConnection "s" ["s"]), .runOnce 1, .system (.operation (.latest .accept) "r"),
    .future (.setResult "r" ⟨.null, [], "a", none⟩)]

/-- The server has heard of it. -/
def welcomed : Machine := knocking.drive openly 60 [.runOnce 1]

/-- The connection was served although the server was closed, and one call closed the socket. -/
theorem servesConnections_welcomed : ∃ earlier, knocking.world.servers.get? 0 = some (some earlier) ∧
    ∃ server rounds stage closings, knocking.ServesConnections welcomed 0 earlier server rounds stage ∧
      server.serving = false ∧ rounds.length = 1 ∧ History knocking closings welcomed ∧
        Owner.losses (.socket earlier.socket) closings = [knocking.world.fdOf earlier.socket] := by
  have visits : Visits IsOpen knocking := visits_openly 60 _
  have onward : Onward IsOpen knocking welcomed := by
    unfold welcomed
    refine Onward.mono (onward_drive openly 60 knocking _) fun machine fine => ?_
    unfold openly at fine
    rw [Bool.not_eq_true'] at fine
    exact fine
  have before : (knocking.world.servers.get? 0).join.map (fun server =>
      (server.serving, knocking.world.isOpen server.socket)) = some (true, true) := by decide +kernel
  have after : (welcomed.world.servers.get? 0).join.map (fun server =>
      (server.serving, server.made)) = some (false, 1) := by decide +kernel
  obtain ⟨earlier, joined, reached⟩ := Option.map_eq_some_iff.mp before
  obtain ⟨served, opened⟩ := Prod.mk.inj reached
  have start := Option.join_eq_some_iff.mp joined
  obtain ⟨other, here, ended⟩ := Option.map_eq_some_iff.mp after
  have there := Option.join_eq_some_iff.mp here
  obtain ⟨last, server, rounds, stage, -, -, serves, rest⟩ := servesConnections visits onward start
  have same : last = welcomed := rest.resolve_right fun gone => gone.2 ⟨other, there⟩
  rw [same] at serves
  have found : server = other := Option.some.inj (Option.some.inj (serves.found.symm.trans there))
  rw [← found] at ended
  obtain ⟨stopped, made⟩ := Prod.mk.inj ended
  obtain ⟨closings, history⟩ := serves.history
  exact ⟨earlier, start, server, rounds, stage, closings, serves, stopped, serves.made.symm.trans made, history,
    (serves.shut served opened stopped).2 history⟩

end Machine

end EventLoop

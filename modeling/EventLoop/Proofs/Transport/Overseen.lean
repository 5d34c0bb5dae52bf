import EventLoop.Proofs.Effect.Step
import EventLoop.Proofs.Transport.Course

/-!
# Transports are overseen

What is to come for a transport waits in the loop, or it is one of the errands of whatever is under way
at the moment. The transports of a world are overseen if each of them has attained the state that it is
in, together with all that is to come for it. Changes of the world that do not deal with transports keep
them overseen as long as the loop is open.
-/
namespace EventLoop

open Net (Transport Outlook Attained Plays)

/-- Whether a reaction takes note that a receive of a transport ended. -/
def Reaction.isReceipt (id : TransportId) : Reaction → Bool
  | .received transport => transport == id
  | .script .. | .wake _ | .stopLoop | .pipeRead | .sent _ | .accepted _ => false

/-- Whether a reaction takes note that a send of a transport ended. -/
def Reaction.isDispatch (id : TransportId) : Reaction → Bool
  | .sent transport => transport == id
  | .script .. | .wake _ | .stopLoop | .pipeRead | .received _ | .accepted _ => false

/-- Receipts of a transport are no common callbacks. -/
theorem Reaction.concerns_isReceipt (id : TransportId) : Concerns Callback.Apart (isReceipt id) := by
  intro _ reaction apart
  cases reaction with
  | received => cases apart
  | script | wake | stopLoop | pipeRead | sent | accepted => rfl

/-- Dispatches of a transport are no common callbacks. -/
theorem Reaction.concerns_isDispatch (id : TransportId) : Concerns Callback.Apart (isDispatch id) := by
  intro _ reaction apart
  cases reaction with
  | sent => cases apart
  | script | wake | stopLoop | pipeRead | received | accepted => rfl

/-- A reaction of one transport takes no note of a receive of another one. -/
theorem Reaction.isReceipt_of_other {reaction : Reaction} {id other : TransportId}
    (owner : reaction.transport? = some id) (differ : other ≠ id) :
    reaction.isReceipt other = false := by
  cases reaction with
  | received =>
    cases owner
    exact beq_eq_false_iff_ne.mpr differ.symm
  | script | wake | stopLoop | pipeRead | sent | accepted => rfl

/-- A reaction of one transport takes no note of a send of another one. -/
theorem Reaction.isDispatch_of_other {reaction : Reaction} {id other : TransportId}
    (owner : reaction.transport? = some id) (differ : other ≠ id) :
    reaction.isDispatch other = false := by
  cases reaction with
  | sent =>
    cases owner
    exact beq_eq_false_iff_ne.mpr differ.symm
  | script | wake | stopLoop | pipeRead | received | accepted => rfl

/-- What is to come for a transport: its errands and what waits in a loop. -/
def Net.Outlook.over (errand : Outlook) (loop : Loop) (id : TransportId) : Outlook :=
  { errand with
    stirs := errand.stirs ++ loop.stirs id
    receipts := errand.receipts + loop.replies (Reaction.isReceipt id)
    dispatches := errand.dispatches + loop.replies (Reaction.isDispatch id) }

/-- What is to come is the same if the loop leaves alone what waits for transports. -/
theorem Net.Outlook.over_still {loop other : Loop} (still : loop.Still Callback.Apart other)
    (errand : Outlook) (id : TransportId) : errand.over other id = errand.over loop id := by
  unfold Outlook.over
  rw [still.stirs, still.replies (Reaction.concerns_isReceipt id),
    still.replies (Reaction.concerns_isDispatch id)]

/-- Nothing is to come if there are no errands and nothing waits in the loop. -/
theorem Net.Outlook.over_eq_empty {errand : Outlook} {loop : Loop} {id : TransportId}
    (none : errand.over loop id = {}) :
    errand = {} ∧ loop.stirs id = [] ∧ loop.replies (Reaction.isReceipt id) = 0 ∧
      loop.replies (Reaction.isDispatch id) = 0 := by
  obtain ⟨stirs, receipts, dispatches, handing, losing, air⟩ := errand
  unfold Outlook.over at none
  obtain ⟨noStirs, noReceipts, noDispatches, rfl, rfl, rfl⟩ := Outlook.mk.inj none
  obtain ⟨rfl, free⟩ := List.append_eq_nil_iff.mp noStirs
  have received := Multiset.le_zero.mp (noReceipts ▸ Multiset.le_add_right receipts _)
  have sent := Multiset.le_zero.mp (noDispatches ▸ Multiset.le_add_right dispatches _)
  rw [received, zero_add] at noReceipts
  rw [sent, zero_add] at noDispatches
  rw [received, sent]
  exact ⟨rfl, free, noReceipts, noDispatches⟩

/-! ## Transports that begin -/

/-- What a transport that begins has the loop call. -/
def Callback.beginnings (id : TransportId) (reads : Bool) : List Callback :=
  .connectionMade id :: if reads then [.startReading id] else []

/-- A loop in which a transport begins. -/
def Loop.connecting (loop : Loop) (id : TransportId) (reads : Bool) : Loop :=
  if reads then (loop.callSoon (.connectionMade id)).callSoon (.startReading id)
  else loop.callSoon (.connectionMade id)

namespace Loop

variable {loop : Loop} {id other : TransportId} {reads : Bool}

/-- No futures are replied to when a transport begins. -/
theorem replies_connecting (about : Reaction → Bool) :
    (loop.connecting id reads).replies about = loop.replies about := by
  have first : (loop.callSoon (.connectionMade id)).replies about = loop.replies about :=
    replies_callSoon _ rfl
  cases reads with
  | true => exact (replies_callSoon (loop.callSoon (.connectionMade id)) rfl).trans first
  | false => exact first

/-- On an open loop a transport that is added stirs by its beginnings only. -/
theorem stirs_connecting (opened : loop.closed = false) :
    (loop.connecting id reads).stirs other =
      loop.stirs other ++ (Callback.beginnings id reads).filter (·.stirs other) := by
  have first := stirs_callSoon opened (.connectionMade id) other
  cases reads with
  | true =>
    have told : (loop.callSoon (.connectionMade id)).closed = false := by
      rw [callSoon_eq]
      exact opened
    refine (stirs_callSoon told (.startReading id) other).trans ?_
    rw [first, List.append_assoc, ← List.filter_append]
    rfl
  | false => exact first

end Loop

namespace Callback

variable {id other : TransportId}

/-- All beginnings of a transport stir it. -/
theorem filter_beginnings (id : TransportId) (reads : Bool) :
    (beginnings id reads).filter (·.stirs id) = beginnings id reads := by
  cases reads with
  | true => simp [beginnings, stirs]
  | false => simp [beginnings, stirs]

/-- A transport that begins stirs no other. -/
theorem filter_beginnings_of_ne (differ : other ≠ id) (reads : Bool) :
    (beginnings id reads).filter (·.stirs other) = [] := by
  cases reads with
  | true => simp [beginnings, stirs, differ.symm]
  | false => simp [beginnings, stirs, differ.symm]

end Callback

namespace Net.Outlook

variable {errand : Outlook} {loop : Loop} {id other : TransportId}

/-- What is to come for a transport that begins, if nothing was to come before. -/
theorem over_connecting (opened : loop.closed = false) (none : errand.over loop id = {})
    (reads : Bool) :
    errand.over (loop.connecting id reads) id = { stirs := Callback.beginnings id reads } := by
  obtain ⟨rfl, free, receipts, dispatches⟩ := over_eq_empty none
  unfold Outlook.over
  rw [Loop.stirs_connecting opened, Loop.replies_connecting, Loop.replies_connecting, free, receipts,
    dispatches, Callback.filter_beginnings]
  rfl

/-- Nothing more is to come for the other transports. -/
theorem over_connecting_of_ne (opened : loop.closed = false) (differ : other ≠ id) (reads : Bool) :
    errand.over (loop.connecting id reads) other = errand.over loop other := by
  unfold Outlook.over
  rw [Loop.stirs_connecting opened, Loop.replies_connecting, Loop.replies_connecting,
    Callback.filter_beginnings_of_ne differ, List.append_nil]

end Net.Outlook

/-- Aspects that neither deal with transports nor take what waits. -/
def IsApart (aspects : List Aspect) : Prop :=
  Aspect.traffic ∉ aspects ∧ Aspect.taking ∉ aspects ∧ Aspect.closing ∉ aspects

/-- Each transport of a world has attained the state that it is in. -/
structure World.Overseen (errands : TransportId → Outlook) (world : World) : Prop where
  /-- Every transport and all that is to come for it. -/
  attained : ∀ {id transport}, world.transports.get? id = some (some transport) →
    Attained id ⟨transport, (errands id).over world.loop id⟩
  /-- Nothing is to come for transports that there are not yet. -/
  fresh : ∀ {id}, world.transports.size ≤ id → (errands id).over world.loop id = {}
  /-- Timers and other threads have nothing to do with transports. -/
  aloof : world.loop.Aloof Callback.Apart

namespace World.Overseen

variable {errands : TransportId → Outlook} {world : World}

/-- Whatever leaves alone the transports and what waits for them keeps them overseen. -/
theorem still (overseen : Overseen errands world) {other : World}
    (transports : other.transports = world.transports)
    (still : world.loop.Still Callback.Apart other.loop) :
    Overseen errands other where
  attained {id transport} found := by
    rw [Outlook.over_still still]
    exact overseen.attained (transports ▸ found)
  fresh {id} beyond := by
    rw [Outlook.over_still still]
    exact overseen.fresh (transports ▸ beyond)
  aloof := still.aloof overseen.aloof

/-- Only the loop changes, and it leaves alone what waits for transports. -/
theorem onLoop (overseen : Overseen errands world) {loop : Loop}
    (still : world.loop.Still Callback.Apart loop) : Overseen errands { world with loop } :=
  overseen.still rfl still

/-- A transport that a future under way belongs to mentions it. -/
theorem mentioned_of_writing {id : TransportId} {transport : Transport} {future : FutureId}
    (found : world.transports.get? id = some (some transport))
    (writing : transport.writing = some future) : world.isMentioned (.future future) = true := by
  have mentions : transport.refs.contains (.future future) = true := by
    rw [List.contains_iff_mem]
    refine List.mem_cons_of_mem _ (List.mem_map_of_mem (List.mem_append_right _ ?_))
    rw [writing]
    exact List.mem_cons_self
  have part : world.isPartOfObject (.future future) = true := by
    have owned : world.transports.any (fun entry => entry.any (·.refs.contains (.future future))) =
        true := by
      obtain ⟨below, same⟩ := Array.getElem?_eq_some_iff.mp found
      refine Array.any_eq_true.mpr ⟨id, below, ?_⟩
      rw [same]
      exact mentions
    unfold isPartOfObject
    rw [owned]
    rfl
  unfold isMentioned
  rw [part, Bool.or_true]

/-- A future is emptied that nothing mentions. -/
theorem emptied (overseen : Overseen errands world) {id : FutureId} {future : Future}
    (found : world.loop.futures.get? id = some future)
    (free : world.isMentioned (.future id) = false) (refs : List Ref) :
    Overseen errands { world with loop := { world.loop with
      futures := world.loop.futures.modify id Future.emptied }.drop refs } := by
  have fewer (about : Reaction → Bool) := Loop.replies_emptied found about refs
  have less (about : Reaction → Bool) : ({ world.loop with
      futures := world.loop.futures.modify id Future.emptied }.drop refs).replies about ≤
        world.loop.replies about := fewer about ▸ Multiset.le_add_right _ _
  refine ⟨fun {there transport} here => ?_, fun {there} beyond => ?_,
    ⟨overseen.aloof.timers, overseen.aloof.remote⟩⟩
  · refine (overseen.attained here).plays
      (.lapse transport _ (add_le_add_right (less _) _) (add_le_add_right (less _) _) ?_)
    intro writing same due
    have other : writing ≠ id := by
      rintro rfl
      have mentioned : world.isMentioned (.future writing) = true := mentioned_of_writing here same
      rw [free] at mentioned
      cases mentioned
    change writing ∈ (errands there).dispatches + _ at due
    rw [← fewer, ← add_assoc, Multiset.mem_add] at due
    refine due.resolve_right fun last => ?_
    exact other (Multiset.eq_of_mem_replicate last)
  · obtain ⟨none, stirs, receipts, dispatches⟩ := Outlook.over_eq_empty (overseen.fresh beyond)
    have noReceipts := Multiset.le_zero.mp (receipts ▸ less (Reaction.isReceipt there))
    have noDispatches := Multiset.le_zero.mp (dispatches ▸ less (Reaction.isDispatch there))
    unfold Outlook.over
    rw [none, noReceipts, noDispatches]
    exact congrArg (fun calls => ({ stirs := calls } : Outlook)) stirs

/-- A transport is added that begins as every transport does. -/
theorem connected (overseen : Overseen errands world) (opened : world.loop.closed = false)
    (socket : SocketId) (peer : Option Address) (protocol : Net.Listener) (reads : Bool) :
    Overseen errands (addTransport { socket, peer, protocol := some protocol } reads world).2 := by
  rw [addTransport_eq]
  change Overseen errands { world with
    transports := world.transports.push _
    loop := world.loop.connecting world.transports.size reads }
  refine ⟨fun {id transport} found => ?_, fun {id} beyond => ?_, ?_⟩
  · rw [Table.get?_push] at found
    split at found
    · rename_i last
      cases found
      have outlook := Outlook.over_connecting opened (overseen.fresh (Nat.le_of_eq last.symm)) reads
      rw [last] at outlook ⊢
      change Attained _ ⟨_, (errands _).over (world.loop.connecting _ reads) _⟩
      rw [outlook]
      exact .opened socket peer protocol reads
    · rename_i other
      exact Outlook.over_connecting_of_ne opened other reads ▸ overseen.attained found
  · have more : world.transports.size < id := by
      rw [Table.size_push] at beyond
      exact beyond
    exact (Outlook.over_connecting_of_ne opened (Nat.ne_of_gt more) reads).trans
      (overseen.fresh (Nat.le_of_lt more))
  · cases reads with
    | true => exact (overseen.aloof.callSoon _).callSoon _
    | false => exact overseen.aloof.callSoon _

/-- Every change that neither deals with transports nor takes what waits keeps transports overseen. -/
theorem change {scope : Scope} {aspect : Aspect} {after : World}
    (change : Change scope aspect world after) (apart : aspect ≠ .traffic) (waits : aspect ≠ .taking)
    (stays : aspect ≠ .closing) (opened : after.loop.closed = false)
    (overseen : Overseen errands world) : Overseen errands after := by
  have before : world.loop.closed = false := change.grows.loop.opened opened
  have aloof := overseen.aloof
  cases change with
  | surroundings | held | names | devices | fitted | retired | servers | primitives =>
    exact overseen.still rfl (.refl _)
  | dropped | woken | stopAsked | stopped | flags | shut =>
    exact overseen.onLoop (.of_eq rfl rfl (List.Subset.refl _) (List.Subset.refl _))
  | disarmed => exact overseen.onLoop (.of_eq rfl rfl (List.Subset.refl _) (List.Subset.refl _))
  | made => exact overseen.onLoop (.makeTimed _ _ _ _)
  | resolved | granted | expired => exact overseen.onLoop (.resolve before _ _)
  | registered _ future reaction reactionApart => exact overseen.onLoop (.whenDone _ _ reactionApart)
  | awaited => exact overseen.onLoop (.await _ _ _)
  | taken _ id future known found =>
    have same : world.loop.futures.modify id (fun _ => future.take.2) =
        world.loop.futures.modify id fun future => future.take.2 :=
      Table.modify_congr found rfl
    rw [same]
    exact overseen.onLoop (.modifyFuture _ _ fun _ future => future.pledges_take)
  | emptied _ id future found missed free | deserted _ id future found missed free =>
    exact overseen.emptied found free future.refs
  | summoned => exact overseen.onLoop (.callSoon _ rfl)
  | enlisted => exact overseen.onLoop (.whenDone _ _ rfl)
  | called _ callback callbackApart => exact overseen.onLoop (.callSoon _ callbackApart)
  | scheduled _ deadline callback callbackApart => exact overseen.onLoop (.callAt _ _ callbackApart)
  | asked _ callback callbackApart =>
    refine overseen.onLoop ⟨fun _ => rfl, fun _ => rfl, fun _ => Or.inl, fun other member => ?_⟩
    refine (List.mem_append.mp member).imp_right fun last => ?_
    rw [List.mem_singleton.mp last]
    exact callbackApart
  | connected _ socket peer protocol reads => exact overseen.connected before socket peer protocol reads
  | released _ id =>
    refine ⟨fun {other transport} found => ?_, fun beyond => ?_, aloof⟩
    · rw [Table.get?_modify] at found
      split at found
      · obtain ⟨_, -, gone⟩ := Option.map_eq_some_iff.mp found
        cases gone
      · exact overseen.attained found
    · exact overseen.fresh (Table.size_modify world.transports _ _ ▸ beyond)
  | turned | announced | bound => exact absurd rfl apart
  | spawned => exact overseen.onLoop (.spawn before _ _)
  | pollBegun => exact overseen.onLoop (.beginPoll _ _)
  | pollEnded => exact overseen.onLoop (.endPoll _ _ _)
  | completed => exact overseen.onLoop (.complete before _ _)
  | cancelled => exact overseen.onLoop (.beginCancel _ _ _)
  | abandoned => exact overseen.onLoop (.setPhase _ _ _)
  | prepared => exact overseen.onLoop (.prepare aloof _)
  | gathered => exact overseen.onLoop (.gather aloof _)
  | readyTaken => exact absurd rfl waits
  | cleared => exact absurd rfl stays

/-- Changes of such aspects keep transports overseen as long as the loop is open. -/
theorem changes {scope : Scope} {aspects : List Aspect} {after : World}
    (changes : Changes scope aspects world after) (apart : IsApart aspects)
    (opened : after.loop.closed = false) (overseen : Overseen errands world) :
    Overseen errands after := by
  have kept {aspect : Aspect} {before after : World} (member : aspect ∈ aspects)
      (changed : Change scope aspect before after)
      (holds : before.loop.closed = false → Overseen errands before)
      (opened : after.loop.closed = false) : Overseen errands after := by
    have different {other : Aspect} (absent : other ∉ aspects) : aspect ≠ other :=
      fun same => absent (same ▸ member)
    exact change changed (different apart.1) (different apart.2.1) (different apart.2.2) opened
      (holds (changed.grows.loop.opened opened))
  exact changes.preserves kept (fun _ => overseen) opened

end World.Overseen

end EventLoop

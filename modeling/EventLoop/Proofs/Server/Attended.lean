import EventLoop.Proofs.Effect.Replies
import EventLoop.Proofs.Effect.Retention
import EventLoop.Proofs.Server.Rounds

/-!
# Servers are attended to

What is to come for a server waits in the loop, or it is one of the errands of whatever is under way at the
moment. The servers of a world are attended to if each of them is in a stage that agrees with what is to
come for it, its accept under way has its outcome when it is done, and its history is true. Changes of the
world that do not deal with servers keep them attended to as long as the loop is open.
-/
namespace EventLoop

open Net (Server ServerEvent Prospect)

/-! ## What waits in the loop for servers -/

/-- A callback is about no server. -/
def Callback.Aside (callback : Callback) : Prop := callback.server? = none

instance : Callback.Common Callback.Aside where
  step _ := rfl
  expire _ := rfl
  wake _ _ := rfl

/-- Whether a callback lets a server begin to accept. -/
def Callback.starts (id : ServerId) : Callback → Bool
  | .startAccepting server => server == id
  | .script .. | .step _ | .done .. | .readPipe | .resolve _ | .expire _ | .connectionMade _
  | .startReading _ | .connectionLost .. => false

/-- Whether a reaction takes note that an accept of a server ended. -/
def Reaction.isHearing (id : ServerId) : Reaction → Bool
  | .accepted server => server == id
  | .script .. | .wake _ | .stopLoop | .pipeRead | .received _ | .sent _ => false

/-- A reaction is the hearing of a server exactly if an accept of it has ended. -/
theorem Reaction.isHearing_iff {reaction : Reaction} {id : ServerId} :
    reaction.isHearing id = true ↔ reaction = .accepted id := by
  cases reaction with
  | accepted server => simp [isHearing]
  | script | wake | stopLoop | pipeRead | received | sent => simp [isHearing]

/-- Hearings of a server are no common callbacks. -/
theorem Reaction.concerns_isHearing (id : ServerId) : Concerns Callback.Aside (isHearing id) := by
  intro _ reaction aside
  cases reaction with
  | accepted => cases aside
  | script | wake | stopLoop | pipeRead | received | sent => rfl

/-- What lets a server begin to accept is neither a reaction nor about no server. -/
theorem Callback.rare_starts (id : ServerId) : Rare Aside (·.starts id) := by
  refine ⟨fun {callback} aside => ?_, fun _ _ => rfl⟩
  cases callback with
  | startAccepting => cases aside
  | _ => rfl

namespace Loop

variable {loop other : Loop} {id : ServerId} {future : FutureId}

/-- How often a server is to begin to accept. -/
def starts (loop : Loop) (id : ServerId) : Nat := loop.ready.countP (·.starts id)

/-- What keeps still leaves the starts of a server as they are. -/
theorem Still.starts (still : loop.Still Callback.Aside other) (id : ServerId) :
    other.starts id = loop.starts id := by
  unfold Loop.starts
  rw [List.countP_eq_length_filter, List.countP_eq_length_filter,
    still.ready (Callback.rare_starts id)]

/-- The accepts that a server is still to hear of are those whose reactions wait. -/
theorem mem_hearings : future ∈ loop.replies (Reaction.isHearing id) ↔
    .done future (.accepted id) ∈ loop.ready ∨ loop.Reacts future (.accepted id) := by
  rw [mem_replies]
  constructor
  · rintro ⟨reaction, hearing, waits⟩
    rw [Reaction.isHearing_iff.mp hearing] at waits
    exact waits
  · exact fun waits => ⟨_, Reaction.isHearing_iff.mpr rfl, waits⟩

/-- A callback that becomes ready and lets no server begin changes nothing about that. -/
theorem starts_callSoon {callback : Callback} (none : callback.starts id = false) :
    (loop.callSoon callback).starts id = loop.starts id := by
  rw [callSoon_eq]
  unfold starts
  cases loop.closed <;> simp [none]

/-- Registering a reaction starts no server. -/
theorem starts_whenDone (loop : Loop) (future : FutureId) (reaction : Reaction) (id : ServerId) :
    (loop.whenDone future reaction).starts id = loop.starts id := by
  rw [whenDone_eq]
  split
  · rfl
  · exact starts_callSoon rfl

end Loop

/-- What is to come for a server: its errands and what waits in a loop. -/
def Net.Prospect.over (errand : Prospect) (loop : Loop) (id : ServerId) : Prospect :=
  { errand with
    starts := errand.starts + loop.starts id
    hearings := errand.hearings + loop.replies (Reaction.isHearing id) }

/-- What is to come is the same if the loop leaves alone what waits for servers. -/
theorem Net.Prospect.over_still {loop other : Loop} (still : loop.Still Callback.Aside other)
    (errand : Prospect) (id : ServerId) : errand.over other id = errand.over loop id := by
  unfold Prospect.over
  rw [still.starts, still.replies (Reaction.concerns_isHearing id)]

namespace World

/-- A transport was opened on a socket with the peer's address. -/
def Opened (world : World) (id : TransportId) (line : SocketId × Option Address) : Prop :=
  id < world.transports.size ∧
    ∀ transport, world.transports.get? id = some (some transport) → transport.line = line

/-- What a history says is true, if futures had certain outcomes. -/
def Vouches (gave : FutureId → Outcome → Prop) (world : World) : ServerEvent → Prop
  | .accepting future => future < world.loop.futures.size
  | .ended future outcome => gave future outcome
  | .opened transport _ socket peer => world.Opened transport (socket, some peer)
  | .made _ | .stopped => True

/-- A future is one that a server waits for: it has its outcome when it is done, and as long as it is
pending the server will hear of it and keeps it alive. -/
structure Awaits (loop : Loop) (id : ServerId) (server : Server) (future : FutureId) : Prop where
  /-- The outcome is not moved out. -/
  retains : loop.Retains future
  /-- The server will hear of the accept. -/
  reacts : loop.isDone future = false → loop.Reacts future (.accepted id)
  /-- The server keeps the accept alive. -/
  accepting : loop.isDone future = false → server.accepting = some future

/-- The servers of a world are attended to. -/
structure Attended (gave : FutureId → Outcome → Prop) (errands : ServerId → Prospect)
    (world : World) : Prop where
  /-- Every server and all that is to come for it. -/
  kept : ∀ {id server}, world.servers.get? id = some (some server) →
    server.Kept ((errands id).over world.loop id)
  /-- Every accept that a server is still to hear of. -/
  awaits : ∀ {id server}, world.servers.get? id = some (some server) →
    ∀ future ∈ world.loop.replies (Reaction.isHearing id), Awaits world.loop id server future
  /-- The history of every server. -/
  vouches : ∀ {id server}, world.servers.get? id = some (some server) →
    ∀ event ∈ server.history, world.Vouches gave event
  /-- Nothing waits for servers that there are not. -/
  absent : ∀ {id}, (world.servers.get? id).join = none →
    Prospect.over {} world.loop id = {}
  /-- Timers and other threads have nothing to do with servers. -/
  aloof : world.loop.Aloof Callback.Aside

variable {scope : Scope} {aspect : Aspect} {aspects : List Aspect} {world other before after : World}
variable {gave more : FutureId → Outcome → Prop} {errands : ServerId → Prospect}
variable {id : ServerId} {server : Server} {future : FutureId}

/-! ## What is mentioned -/

/-- A future that a ready callback is a reaction of is mentioned. -/
theorem isMentioned_of_ready {callback : Callback} {ref : Ref} (member : callback ∈ world.loop.ready)
    (refs : ref ∈ callback.refs) : world.isMentioned ref = true := by
  have waits : world.loop.ready.any (·.refs.contains ref) = true :=
    List.any_eq_true.mpr ⟨callback, member, List.contains_iff_mem.mpr refs⟩
  simp only [isMentioned, isAwaited, waits, Bool.or_true, Bool.true_or]

/-- An accept that a server keeps alive is mentioned. -/
theorem isMentioned_of_accepting (found : world.servers.get? id = some (some server))
    (accepting : server.accepting = some future) : world.isMentioned (.future future) = true := by
  have mentions : server.refs.contains (.future future) = true := by
    rw [List.contains_iff_mem]
    refine List.mem_cons_of_mem _ ?_
    rw [accepting]
    exact List.mem_cons_self
  have part : world.servers.any (fun entry => entry.any (·.refs.contains (.future future))) = true := by
    obtain ⟨below, same⟩ := Array.getElem?_eq_some_iff.mp found
    refine Array.any_eq_true.mpr ⟨id, below, ?_⟩
    rw [same]
    exact mentions
  simp only [isMentioned, isPartOfObject, part, Bool.or_true, Bool.true_or]

/-- What a reaction of a pending future keeps alive is mentioned. -/
theorem isMentioned_of_reacts {reaction : Reaction} {ref : Ref}
    (reacts : world.loop.Reacts future reaction) (refs : ref ∈ reaction.refs) :
    world.isMentioned ref = true := by
  obtain ⟨kind, reactions, timer, found, member⟩ := reacts
  have mentions : (⟨kind, .pending reactions timer⟩ : Future).refs.contains ref = true := by
    rw [List.contains_iff_mem]
    exact List.mem_flatMap.mpr ⟨reaction, member, refs⟩
  have part : world.loop.futures.any (·.refs.contains ref) = true := by
    obtain ⟨below, same⟩ := Array.getElem?_eq_some_iff.mp found
    refine Array.any_eq_true.mpr ⟨future, below, ?_⟩
    rw [same]
    exact mentions
  simp only [isMentioned, isPartOfObject, part, Bool.or_true, Bool.true_or]

/-- Nothing waits for a server that nothing mentions. -/
theorem over_of_free (free : world.isMentioned (.server id) = false) :
    Prospect.over {} world.loop id = {} := by
  have starts : world.loop.starts id = 0 := by
    refine List.countP_eq_zero.mpr fun callback member starts => ?_
    cases callback with
    | startAccepting other =>
      obtain rfl : other = id := beq_iff_eq.mp starts
      rw [isMentioned_of_ready member List.mem_cons_self] at free
      cases free
    | _ => cases starts
  have replies : world.loop.replies (Reaction.isHearing id) = 0 := by
    refine Multiset.eq_zero_of_forall_notMem fun future member => ?_
    have mentioned : world.isMentioned (.server id) = true := by
      rcases Loop.mem_hearings.mp member with ready | reacts
      · exact isMentioned_of_ready ready List.mem_cons_self
      · exact isMentioned_of_reacts reacts List.mem_cons_self
    rw [free] at mentioned
    cases mentioned
  unfold Prospect.over
  rw [starts, replies]
  rfl

/-! ## Transports that were opened -/

/-- Every change keeps the sockets and the peers' addresses of the transports that were opened. -/
theorem Change.keepsOpened (change : Change scope aspect before after) {id : TransportId}
    {line : SocketId × Option Address} (opened : before.Opened id line) : after.Opened id line := by
  obtain ⟨below, lines⟩ := opened
  cases change with
  | connected _ socket peer protocol reads =>
    rw [addTransport_eq]
    refine ⟨?_, fun transport found => lines transport ?_⟩
    · rw [Table.size_push]
      exact Nat.lt_succ_of_lt below
    · rw [Table.get?_push, if_neg (Nat.ne_of_lt below)] at found
      exact found
  | released _ other =>
    refine ⟨(Table.size_modify _ _ _).symm ▸ below, fun transport found => lines transport ?_⟩
    rw [Table.get?_modify] at found
    split at found
    · obtain ⟨_, -, gone⟩ := Option.map_eq_some_iff.mp found
      cases gone
    · exact found
  | turned _ other earlier later there same =>
    refine ⟨(Table.size_modify _ _ _).symm ▸ below, fun transport found => ?_⟩
    rw [Table.get?_modify] at found
    split at found
    · rename_i here
      obtain ⟨_, -, now⟩ := Option.map_eq_some_iff.mp found
      cases now
      exact same.trans (lines earlier (here ▸ there))
    · exact lines transport found
  | _ => exact ⟨below, lines⟩

/-- What was true of a history stays true. -/
theorem Vouches.mono {event : ServerEvent} (vouches : before.Vouches gave event)
    (futures : before.loop.futures.size ≤ after.loop.futures.size)
    (opened : ∀ {id line}, before.Opened id line → after.Opened id line)
    (gives : ∀ {future outcome}, gave future outcome → more future outcome) :
    after.Vouches more event := by
  cases event with
  | accepting future => exact Nat.lt_of_lt_of_le vouches futures
  | ended future outcome => exact gives vouches
  | opened transport protocol socket peer => exact opened vouches
  | made | stopped => trivial

/-- An accept goes on to be awaited while it is carried and retained. -/
theorem Awaits.carried {loop other : Loop} (awaits : Awaits loop id server future)
    (carries : Loop.Carries future loop other) (retains : other.Retains future) :
    Awaits other id server future := by
  have pending (still : other.isDone future = false) : loop.isDone future = false := by
    by_contra done
    rw [carries.done (Bool.not_eq_false _ ▸ done)] at still
    cases still
  exact ⟨retains, fun still => carries.reacts (awaits.reacts (pending still)) still,
    fun still => awaits.accepting (pending still)⟩

namespace Attended

/-- What a server is still to hear of is mentioned. -/
theorem mentioned (attended : Attended gave errands world)
    (found : world.servers.get? id = some (some server))
    (hears : future ∈ world.loop.replies (Reaction.isHearing id)) :
    world.isMentioned (.future future) = true := by
  rcases Loop.mem_hearings.mp hears with ready | reacts
  · exact isMentioned_of_ready ready (List.mem_append_right _ List.mem_cons_self)
  · have accepting := (attended.awaits found future hears).accepting reacts.pending
    exact isMentioned_of_accepting found accepting

/-- Futures may have had more outcomes. -/
theorem mono (attended : Attended gave errands world)
    (gives : ∀ {future outcome}, gave future outcome → more future outcome) :
    Attended more errands world :=
  { attended with vouches := fun found event member =>
      (attended.vouches found event member).mono (Nat.le_refl _) id gives }

/-- Servers stay attended to if none of them changes, the same waits for them, and what is mentioned is
kept. -/
theorem onward (attended : Attended gave errands world) (grows : world.loop.Grows other.loop)
    (servers : ∀ {id server}, other.servers.get? id = some (some server) →
      world.servers.get? id = some (some server))
    (gone : ∀ {id}, (other.servers.get? id).join = none → (world.servers.get? id).join = none ∨
      Prospect.over {} other.loop id = {})
    (same : ∀ (errand : Prospect) id, errand.over other.loop id = errand.over world.loop id)
    (keeps : ∀ {future}, world.isMentioned (.future future) = true → world.loop.Retains future →
      Loop.Carries future world.loop other.loop ∧ other.loop.Retains future)
    (opened : ∀ {id line}, world.Opened id line → other.Opened id line)
    (aloof : other.loop.Aloof Callback.Aside) : Attended gave errands other where
  kept found := by
    rw [same]
    exact attended.kept (servers found)
  awaits {id server} found future hears := by
    have before : future ∈ world.loop.replies (Reaction.isHearing id) := by
      have waits := congrArg Prospect.hearings (same {} id)
      change 0 + _ = 0 + _ at waits
      rw [zero_add, zero_add] at waits
      exact waits ▸ hears
    have awaits := attended.awaits (servers found) future before
    obtain ⟨carries, retains⟩ := keeps (attended.mentioned (servers found) before) awaits.retains
    exact awaits.carried carries retains
  vouches found event member :=
    (attended.vouches (servers found) event member).mono grows.futures opened id
  absent none := by
    rcases gone none with absent | empty
    · rw [same]
      exact attended.absent absent
    · exact empty
  aloof := aloof

/-- A future is emptied that nothing mentions: no server is to hear of it. -/
theorem over_emptied (attended : Attended gave errands world) {emptied : FutureId} {entry : Future}
    (found : world.loop.futures.get? emptied = some entry)
    (free : world.isMentioned (.future emptied) = false) (refs : List Ref) (errand : Prospect)
    (id : ServerId) : errand.over ({ world.loop with
      futures := world.loop.futures.modify emptied Future.emptied }.drop refs) id =
        errand.over world.loop id := by
  have none : entry.pledges (Reaction.isHearing id) = 0 := by
    by_contra counts
    obtain ⟨kind, phase⟩ := entry
    cases phase with
    | cancelled | finished => exact counts rfl
    | pending reactions timer =>
      obtain ⟨reaction, member, hearing⟩ := List.countP_pos_iff.mp (Nat.pos_of_ne_zero counts)
      have hears : emptied ∈ world.loop.replies (Reaction.isHearing id) :=
        Loop.mem_replies.mpr ⟨reaction, hearing, Or.inr ⟨kind, reactions, timer, found, member⟩⟩
      cases server : (world.servers.get? id).join with
      | some server =>
        rw [attended.mentioned (Option.join_eq_some_iff.mp server) hears] at free
        cases free
      | none =>
        have empty := congrArg Prospect.hearings (attended.absent server)
        change 0 + _ = 0 at empty
        rw [zero_add] at empty
        rw [empty] at hears
        cases hears
  have replies := Loop.replies_emptied found (Reaction.isHearing id) refs
  rw [none, Multiset.replicate_zero, add_zero] at replies
  unfold Prospect.over
  rw [replies]
  rfl

/-- Only the loop changes, it leaves alone what waits for servers, and it keeps what is mentioned. -/
theorem change {scope : Scope} (attended : Attended gave errands before)
    (change : Change scope aspect before after) (apart : aspect ≠ .serving) (waits : aspect ≠ .taking)
    (stays : aspect ≠ .closing) (opened : after.loop.closed = false) : Attended gave errands after := by
  have open_ : before.loop.closed = false := change.grows.loop.opened opened
  have aloof := attended.aloof
  have keeps {future : FutureId} (mentioned : before.isMentioned (.future future) = true)
      (retains : before.loop.Retains future) :
      Loop.Carries future before.loop after.loop ∧ after.loop.Retains future :=
    ⟨change.carries mentioned waits stays, change.retains mentioned retains⟩
  have lines {id : TransportId} {line : SocketId × Option Address} (there : before.Opened id line) :
      after.Opened id line := change.keepsOpened there
  have onward (servers : after.servers = before.servers)
      (same : ∀ (errand : Prospect) id, errand.over after.loop id = errand.over before.loop id)
      (aloof : after.loop.Aloof Callback.Aside) : Attended gave errands after :=
    attended.onward change.grows.loop (fun found => servers ▸ found)
      (fun none => Or.inl (servers ▸ none)) same keeps lines aloof
  have still (servers : after.servers = before.servers)
      (still : before.loop.Still Callback.Aside after.loop) : Attended gave errands after :=
    onward servers (Prospect.over_still still) (still.aloof aloof)
  cases change with
  | surroundings | held | names | devices | fitted | released | turned | primitives =>
    exact still rfl (.refl _)
  | dropped | disarmed | woken | stopAsked | stopped | flags | shut =>
    exact still rfl (.of_eq rfl rfl (List.Subset.refl _) (List.Subset.refl _))
  | made => exact still rfl (.makeTimed _ _ _ _)
  | resolved | granted | expired => exact still rfl (.resolve open_ _ _)
  | registered _ future reaction _ aside | bound _ future reaction aside =>
    exact still rfl (.whenDone _ _ aside)
  | awaited => exact still rfl (.await _ _ _)
  | taken _ id future known found =>
    have same : before.loop.futures.modify id (fun _ => future.take.2) =
        before.loop.futures.modify id fun future => future.take.2 :=
      Table.modify_congr found rfl
    refine still rfl ?_
    rw [same]
    exact .modifyFuture _ _ fun _ future => future.pledges_take
  | emptied _ id future found missed free | deserted _ id future found missed free =>
    exact onward rfl (attended.over_emptied found free future.refs) ⟨aloof.timers, aloof.remote⟩
  | called _ callback _ _ _ aside => exact still rfl (.callSoon _ aside)
  | announced => exact still rfl (.callSoon _ rfl)
  | scheduled _ deadline callback _ _ _ aside => exact still rfl (.callAt _ _ aside)
  | asked _ callback _ _ _ aside =>
    refine still rfl ⟨fun _ => rfl, fun _ => rfl, fun _ => Or.inl, fun other member => ?_⟩
    refine (List.mem_append.mp member).imp_right fun last => ?_
    rw [List.mem_singleton.mp last]
    exact aside
  | connected _ socket peer protocol reads =>
    refine still (by rw [addTransport_eq]) ?_
    rw [addTransport_eq]
    have told : before.loop.Still Callback.Aside
        (before.loop.callSoon (.connectionMade before.transports.size)) := .callSoon _ rfl
    cases reads with
    | false => exact told
    | true => exact told.trans (.callSoon _ rfl)
  | retired _ gone free =>
    refine attended.onward (.refl _) (fun {id server} found => ?_) (fun {id} none => ?_)
      (fun _ _ => rfl) keeps lines aloof
    · rw [Table.get?_modify] at found
      split at found
      · obtain ⟨_, -, absurd⟩ := Option.map_eq_some_iff.mp found
        cases absurd
      · exact found
    · by_cases here : id = gone
      · have empty : Prospect.over {} before.loop gone = {} := over_of_free free
        exact Or.inr (here ▸ empty)
      · rw [Table.get?_modify_of_ne _ _ here] at none
        exact Or.inl none
  | servers | summoned | enlisted => exact absurd rfl apart
  | spawned => exact still rfl (.spawn open_ _ _)
  | pollBegun => exact still rfl (.beginPoll _ _)
  | pollEnded => exact still rfl (.endPoll _ _ _)
  | completed => exact still rfl (.complete open_ _ _)
  | cancelled => exact still rfl (.beginCancel _ _ _)
  | abandoned => exact still rfl (.setPhase _ _ _)
  | prepared => exact still rfl (.prepare aloof _)
  | gathered => exact still rfl (.gather aloof _)
  | readyTaken => exact absurd rfl waits
  | cleared => exact absurd rfl stays

end Attended

end World

end EventLoop

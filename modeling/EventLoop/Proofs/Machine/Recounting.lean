import EventLoop.Proofs.Machine.Dealings

/-!
# What transports recount

The history of a transport recounts what really happened. Whenever a step takes down that a protocol was told
something, the machine goes on with just the script of the protocol that is for this, after what the notice
carries was written down; an operation that was taken down as submitted was handed to the completer with the
same data; and the end of a send is taken down by the callback that hears of it, with the error of its future.
-/
namespace EventLoop

open Net (Transport Listener Notice Event Manner noting)
open World (Following Follows)

/-! ## How protocols are told -/

namespace Machine

variable {machine after : Machine} {id other : TransportId} {transport : Transport} {listener : Listener}
variable {notice : Notice} {strict : Prop}

/-- What a step does in which a protocol is told something. -/
structure Informs (machine after : Machine) (id : TransportId) (listener : Listener) (notice : Notice) :
    Prop where
  /-- The transport waits until the protocol has done what it does about it. -/
  frames : after.frames = notice.frames id ++ machine.frames
  /-- The script of the protocol for such notices comes next, if there is one. -/
  signal : after.signal = listener.signal notice
  /-- The protocol writes down what it is handed; nothing else is done but to the transport itself. -/
  world : ∃ start, machine.world.Amid start ∧ after.world = (listener.heed id notice start).2

/-- What an event in the history of a transport stands for that is taken down in a step. -/
def Backs (machine after : Machine) (id : TransportId) : Event → Prop
  | .told notice => ∃ transport listener, machine.world.transports.get? id = some (some transport) ∧
      transport.protocol = some listener ∧ machine.Informs after id listener notice
  | .sent error => ∃ future, machine.signal = .call (.done future (.sent id)) ∧
      error = World.errorOf (machine.world.loop.resultOf future)
  | event => machine.world.Backs after.world id event

/-- What has happened to a transport so far. -/
def historyOf (machine : Machine) (id : TransportId) : List Event :=
  (machine.world.transports.get? id).join.elim [] Transport.history

/-- The history of a transport goes on in each step with what really happens. -/
structure Recounts (machine : Machine) (id : TransportId) : Prop where
  /-- Whatever a step takes down really happens in this step. -/
  backs : ∀ {after}, Step machine after → ∀ {later},
    after.world.transports.get? id = some (some later) →
      ∃ more, later.history = machine.historyOf id ++ more ∧ ∀ event ∈ more, machine.Backs after id event
  /-- When a callback of the transport goes on with a script, it was taken down first what is told. -/
  tells : ∀ {after}, Step machine after → ∀ {callback}, machine.signal = .call callback →
    callback.transport? = some id → ∀ {actor body}, after.signal = .script actor body →
      ∀ {later}, after.world.transports.get? id = some (some later) →
        ∃ notice more, later.history = machine.historyOf id ++ .told notice :: more

/-! ## What the steps of a machine take down -/

/-- What the world stands for, the machine does. -/
theorem Backs.of_world {event : Event} (backs : machine.world.Backs after.world id event) :
    machine.Backs after id event := by
  cases event with
  | told | sent => exact False.elim backs
  | written | submitted | receiving | closing | discarded | announced | shut => exact backs

/-- The history of a transport that is there. -/
theorem historyOf_of_found (found : machine.world.transports.get? id = some (some transport)) :
    machine.historyOf id = transport.history := by
  unfold historyOf
  rw [found]
  rfl

variable {law : Event → Prop} {held : List Ref} {before world : World} {listener? : Option Listener}

/-- What is taken down by what a protocol does before its script. -/
theorem notes_handTo (amid : before.Amid world)
    (backs : ∀ event, before.Backs (handTo other notice listener? world).2 id event → law event) :
    Following (noting law) held none id world (handTo other notice listener?) := by
  cases listener? with
  | none => exact .pure
  | some listener =>
    cases heeds : listener.heeds notice with
    | false =>
      have same : (handTo other notice (some listener) world).2 = world := by
        unfold handTo Listener.heed
        dsimp only
        rw [heeds]
        rfl
      exact @Following.of_snd _ Unit _ _ _ _ _ _ _ (pure ()) same .pure
    | true =>
      have same : (handTo other notice (some listener) world).2 =
          ((World.record (Actor.protocol listener.name).text notice.label notice.value >>= fun _ =>
            listener.prepare other notice) world).2 := by
        unfold handTo Listener.heed
        dsimp only
        rw [heeds]
        rfl
      refine .of_snd same (.andThere (.calmly (World.Calm.record _ _ _)) ?_)
      have near := amid.trans (.record (Actor.protocol listener.name).text notice.label notice.value world)
      rw [same] at backs
      cases notice with
      | made => exact .calmly (World.Calm.store .transport _ trivial ObjectClass.noConfusion)
      | data bytes =>
        unfold Listener.prepare at backs ⊢
        dsimp only at backs ⊢
        split
        · rename_i echoes
          rw [if_pos echoes] at backs
          exact .notes_echo near _ _ backs
        · exact .pure
      | endOfStream | lost => exact .pure

/-! ## Protocols that are told something -/

/-- A step with which it begins that the protocol of a transport is told something: the notice is taken down,
and the protocol is the one to hand it to. -/
structure Telling (machine : Machine) (other : TransportId) (notice : Notice)
    (first : WorldM (Option Listener)) : Prop where
  /-- Nothing is done but to the transport itself. -/
  amid : machine.world.Amid (first machine.holding).2
  /-- The protocol of the transport is to be told. -/
  listens : (first machine.holding).1 = (machine.world.transports.get? other).join.bind Transport.protocol
  /-- If there is one, the notice is taken down. -/
  takes : ∀ {transport}, machine.world.transports.get? other = some (some transport) →
    transport.protocol.isSome = true → ∃ middle,
      (first machine.holding).2.transports.get? other = some (some middle) ∧
        middle.history = transport.history ++ [Event.told notice]
  /-- Nothing else is taken down. -/
  follows : ∀ {id : TransportId} {law : Event → Prop}, (id = other → ∀ transport,
    machine.world.transports.get? id = some (some transport) →
      transport.protocol.isSome = true → law (.told notice)) →
    Following (noting law) machine.held none id machine.holding first

namespace Telling

variable {first : WorldM (Option Listener)} {later : Transport}

/-- The protocol is told something while the connection lasts. -/
theorem tellProtocol (machine : Machine) (other : TransportId) (notice : Notice) :
    machine.Telling other notice (World.tellProtocol other notice) where
  amid := machine.amid_holding.trans (.tellProtocol other notice _)
  listens := World.fst_tellProtocol other notice _
  takes := fun {transport} found listens => by
    refine ⟨transport.tell notice, ?_, congrArg _ (Net.Transport.tell_of_listens listens notice)⟩
    rw [World.tellProtocol_eq notice (show machine.holding.transports.get? other = _ from found)]
    dsimp only
    rw [Table.get?_modify_self, show machine.holding.transports.get? other = _ from found]
    rfl
  follows told := .tellProtocol fun same transport found => .tell (told same transport found)

/-- The protocol is told that the connection is lost. -/
theorem takeProtocol (machine : Machine) (other : TransportId) (error : Option Error) :
    machine.Telling other (.lost error) (World.takeProtocol other error) where
  amid := machine.amid_holding.trans (.takeProtocol other error _)
  listens := World.fst_takeProtocol other error _
  takes := fun {transport} found listens => by
    refine ⟨transport.connectionLost error, ?_,
      congrArg Net.Transport.history (Net.Transport.tell_of_listens listens (.lost error))⟩
    rw [World.transports_takeProtocol (show machine.holding.transports.get? other = _ from found),
      Table.get?_modify_self, show machine.holding.transports.get? other = _ from found]
    rfl
  follows told := .takeProtocol fun same transport found => .connectionLost (told same transport found)

/-- The protocol is told what a receive has brought. -/
theorem arrival {future : FutureId} {arrival : Net.Arrival}
    (found : machine.world.transports.get? other = some (some transport))
    (ended : transport.receiveEnded (World.dataOf (machine.world.loop.resultOf future)) =
      (arrival, [], { transport with reading := none }))
    (told : arrival.told = fun transport => transport.tell notice) :
    machine.Telling other notice
      (World.receiveEnded other future >>= fun _ => World.tellProtocol other notice) := by
  have first : (World.receiveEnded other future >>= fun _ => World.tellProtocol other notice)
      machine.holding = (transport.protocol,
        (World.setTransport other (arrival.told { transport with reading := none }) machine.holding).2) :=
    World.receiveEnded_tellProtocol found ended told
  refine ⟨?_, ?_, fun there listens => ?_, fun {id law} allowed => .told found ended told
    (fun same => ?_) fun _ => rfl⟩
  · rw [first]
    exact machine.amid_holding.trans (.setTransport _ _ _)
  · rw [first, found]
    rfl
  · cases found.symm.trans there
    rw [first]
    refine ⟨arrival.told { transport with reading := none }, ?_, ?_⟩
    · change (machine.world.transports.modify other _).get? other = _
      rw [Table.get?_modify_self, found]
      rfl
    · rw [told]
      exact congrArg Net.Transport.history (@Net.Transport.tell_of_listens
        { transport with reading := none } listens notice)
  · subst same
    rw [told]
    have emptied : transport.Notes law { transport with reading := none } := .of_eq rfl rfl
    exact emptied.trans (Net.Transport.Notes.tell (allowed rfl transport found))

/-- What the step does as a whole. -/
theorem informs (telling : machine.Telling id notice first)
    (found : machine.world.transports.get? id = some (some transport))
    (protocol : transport.protocol = some listener) :
    machine.Informs (machine.move machine.frames (first >>= handTo id notice)) id listener notice := by
  have listens : (first machine.holding).1 = some listener := by
    rw [telling.listens, found]
    exact protocol
  have reached : (first >>= handTo id notice) machine.holding =
      handTo id notice (some listener) (first machine.holding).2 := by
    rw [StateM.bind_apply, listens]
  have outcome : (machine.move machine.frames (first >>= handTo id notice)) =
      ⟨((first >>= handTo id notice) machine.holding).2,
        ((first >>= handTo id notice) machine.holding).1.1 ++ machine.frames,
        ((first >>= handTo id notice) machine.holding).1.2⟩ := rfl
  rw [outcome, reached]
  exact ⟨rfl, rfl, _, telling.amid, rfl⟩

/-- The step takes down what it brings about. -/
theorem backs (telling : machine.Telling other notice first) (sound : machine.Sound strict)
    (id : TransportId) :
    Follows (noting (machine.Backs (machine.move machine.frames (first >>= handTo other notice)) id)) none
      id machine.world (machine.move machine.frames (first >>= handTo other notice)).world := by
  refine sound.follows (.andThere (telling.follows fun same transport found some => ?_)
    (notes_handTo telling.amid fun event backed => .of_world backed))
  subst same
  obtain ⟨listener, protocol⟩ := Option.isSome_iff_exists.mp some
  exact ⟨transport, listener, found, protocol, telling.informs found protocol⟩

/-- If a script follows, the notice was taken down. -/
theorem told (telling : machine.Telling id notice first) (sound : machine.Sound strict) {actor : Actor}
    {body : Script.Body}
    (script : (machine.move machine.frames (first >>= handTo id notice)).signal = .script actor body)
    (there : (machine.move machine.frames (first >>= handTo id notice)).world.transports.get? id =
      some (some later)) : ∃ more, later.history = machine.historyOf id ++ .told notice :: more := by
  have listens := telling.listens
  cases protocol : (machine.world.transports.get? id).join.bind Transport.protocol with
  | none =>
    change (handTo id notice (first machine.holding).1 _).1.2 = _ at script
    rw [listens, protocol] at script
    cases script
  | some listener =>
    obtain ⟨transport, joined, own⟩ := Option.bind_eq_some_iff.mp protocol
    have found := Option.join_eq_some_iff.mp joined
    obtain ⟨middle, here, history⟩ := telling.takes found (Option.isSome_iff_exists.mpr ⟨_, own⟩)
    have idle : Following (noting fun _ => True) machine.held none id machine.holding first :=
      telling.follows fun _ _ _ _ => trivial
    have rest : Following (noting fun _ => True) machine.held none id (first machine.holding).2
        (handTo id notice (first machine.holding).1) := notes_handTo telling.amid fun _ _ => trivial
    have bounds := (idle sound.within).1.within sound.within
    rcases (rest bounds).2.leads there with ⟨same, again, notes⟩ | ⟨beyond, -⟩
    · cases here.symm.trans again
      obtain ⟨more, goes, -⟩ := notes.history
      refine ⟨more, ?_⟩
      rw [goes, history, historyOf_of_found found, List.append_assoc]
      rfl
    · exact absurd (Table.lt_size_of_get? here) (Nat.not_lt.mpr beyond)

end Telling

/-- Only what a move does in the world of the machine matters. -/
theorem move_congr {step same : WorldM Move} {below : List Frame}
    (equal : step machine.holding = same machine.holding) :
    machine.move below step = machine.move below same := by
  change (⟨(step machine.holding).2, (step machine.holding).1.1 ++ below, (step machine.holding).1.2⟩ :
    Machine) = ⟨(same machine.holding).2, (same machine.holding).1.1 ++ below, (same machine.holding).1.2⟩
  rw [equal]

/-- What the end of a receive has to do with the protocol: it is told what arrived, or the machine goes on. -/
theorem Sound.receives_cases (sound : machine.Sound strict) (future : FutureId) :
    (∃ notice first, machine.Telling other notice first ∧
      react future (.received other) machine.holding = (first >>= handTo other notice) machine.holding) ∨
    (react future (.received other) machine.holding).1.2 = .proceed ∧ ∀ id,
      Follows (noting (machine.Backs (machine.move machine.frames (react future (.received other))) id))
        none id machine.world (machine.move machine.frames (react future (.received other))).world := by
  cases arrived : (World.receiveEnded other future machine.holding).1 with
  | nothing =>
    have same : react future (.received other) machine.holding =
        (give .proceed (World.receiveEnded other future machine.holding).2) := react_of_nothing arrived
    refine Or.inr ⟨congrArg (·.1.2) same, fun id => ?_⟩
    have ended : Following (noting (machine.Backs (machine.move machine.frames
        (react future (.received other))) id)) machine.held none id machine.holding
        (World.receiveEnded other future) := by
      refine .notes_receiveEnded machine.amid_holding future fun event backed => .of_world ?_
      change machine.world.Backs (react future (.received other) machine.holding).2 id event
      rw [same]
      exact backed
    have steps : (react future (.received other) machine.holding).2 =
        (World.receiveEnded other future machine.holding).2 := congrArg Prod.snd same
    exact sound.follows (.of_snd steps ended)
  | data | endOfStream =>
    obtain ⟨transport, found, ended⟩ := World.ended_of_arrived arrived Net.Arrival.noConfusion
    exact Or.inl ⟨_, _, .arrival found ended rfl, react_of_notice (congrArg Net.Arrival.notice? arrived)⟩

/-- What a callback about a transport has to do with the protocol: it is told something, or the machine goes
on. -/
theorem Sound.callback_cases (sound : machine.Sound strict) {callback : Callback}
    (signal : machine.signal = .call callback) (owner : callback.transport? = some other) :
    (∃ notice first, machine.Telling other notice first ∧
      runCallback callback machine.holding = (first >>= handTo other notice) machine.holding) ∨
    (runCallback callback machine.holding).1.2 = .proceed ∧ ∀ id,
      Follows (noting (machine.Backs (machine.move machine.frames (runCallback callback)) id)) none id
        machine.world (machine.move machine.frames (runCallback callback)).world := by
  have amid := machine.amid_holding
  cases callback with
  | script | step | readPipe | resolve | expire | startAccepting => cases owner
  | connectionMade =>
    cases owner
    exact Or.inl ⟨.made, _, .tellProtocol machine other .made, congrFun (tellMade_eq other) _⟩
  | startReading =>
    exact Or.inr ⟨rfl, fun id => sound.follows (.bind (.notes_receiveNext amid
      fun event backed => .of_world backed) fun _ _ => .pure)⟩
  | connectionLost _ error =>
    cases owner
    exact Or.inl ⟨.lost error, _, .takeProtocol machine other error, congrFun (tellLost_eq other error) _⟩
  | done future reaction =>
    cases reaction with
    | script | wake | stopLoop | pipeRead | accepted => cases owner
    | received =>
      cases owner
      exact sound.receives_cases future
    | sent =>
      refine Or.inr ⟨rfl, fun id => sound.follows (.bind (.notes_sendEnded amid future (fun same => ?_)
        fun event backed => .of_world backed) fun _ _ => .pure)⟩
      exact ⟨future, same ▸ signal, rfl⟩

/-! ## What each step takes down -/

/-- Each step takes down about a transport only what it brings about. -/
theorem Sound.follows_step (sound : machine.Sound False) (step : Step machine after) (id : TransportId) :
    Follows (noting (machine.Backs after id)) none id machine.world after.world := by
  have amid := machine.amid_holding
  cases sound.handles step with
  | aside passes apart => exact passes.follows sound apart
  | called clean signal owner =>
    rcases sound.callback_cases signal owner with ⟨notice, first, telling, same⟩ | ⟨-, follows⟩
    · rw [move_congr same]
      exact telling.backs sound id
    · exact follows id
  | resumes =>
    exact sound.follows (.bind (.notes_receiveNext amid fun event backed => .of_world backed)
      fun _ _ => .pure)
  | closes =>
    exact sound.follows (.bind (.notes_advance amid (fun _ => .close) (fun _ => .close)
      (fun _ _ _ => .close trivial) fun event backed => .of_world backed) fun _ _ => .pure)
  | shuts =>
    exact sound.follows (.bind (.notes_closeTransportSocket fun event backed => .of_world backed)
      fun _ _ => .pure)
  | @instructed _ _ held protocol what near transports within reached =>
    rw [reached]
    refine .of_transports transports (Following.notes_doTransport near protocol what
      (fun event backed => .of_world ?_) within).2
    rw [reached]
    exact backed

/-- The history of a transport goes on in each step of a run with what really happens. -/
theorem Sound.recounts (sound : machine.Sound False) (id : TransportId) : machine.Recounts id where
  backs := fun {after} step {later} found => by
    rcases (sound.follows_step step id).leads found with ⟨transport, there, notes⟩ | ⟨beyond, fresh⟩
    · rw [historyOf_of_found there]
      exact notes.history
    · have before : machine.historyOf id = [] := by
        unfold historyOf
        rw [Table.get?_eq_none beyond]
        rfl
      rw [before]
      exact ⟨later.history, rfl, fresh⟩
  tells := fun {after} step {callback} called owner {actor body} script {later} found => by
    obtain rfl := sound.eq_move_of_called called step
    rcases sound.callback_cases called owner with ⟨notice, first, telling, same⟩ | ⟨proceeds, -⟩
    · rw [move_congr same] at script found
      exact ⟨notice, telling.told sound script found⟩
    · cases (show _ = _ from proceeds).symm.trans script

end Machine

end EventLoop

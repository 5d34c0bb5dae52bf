import EventLoop.Proofs.Effect.Instructions
import EventLoop.Proofs.Sync.Deed
import EventLoop.Proofs.Transport.Overseen

/-!
# Dealing with transports

A step of the world minds the transports if it keeps them overseen while the errands change in a certain
way. What a transition of a transport asks for is brought about one effect after another; each of them
takes the effect from the errands of that transport and leaves those of all others alone.
-/
namespace EventLoop.World

open Net (Transport Outlook Attained Plays Effect Arrival)

variable {α β : Type} {held : List Ref} {world : World}
variable {errands others : TransportId → Outlook}

/-- A step from a world within bounds keeps transports overseen as long as the loop is open, and
afterwards there are certain errands. -/
def Minds (held : List Ref) (errands : TransportId → Outlook) (world : World)
    (step : WorldM α) (after : α → TransportId → Outlook) : Prop :=
  world.Within (openTo held) 0 → Changes (openTo held) (.serving :: dealing) world (step world).2 ∧
    ((step world).2.loop.closed = false → world.Overseen errands →
      (step world).2.Overseen (after (step world).1))

/-- Steps that have to do with a server have nothing to do with transports. -/
theorem isApart_tending : IsApart tending := by
  unfold IsApart
  decide

namespace Minds

variable {step : WorldM α} {next : α → WorldM β} {after : α → TransportId → Outlook}

/-- A step that has to do with a server at most. -/
theorem aside {holds : α → World → Prop} (does : Does (openTo held) 0 tending world step holds) :
    Minds held errands world step fun _ => errands := fun within =>
  ⟨(does within).1.mono (by decide), fun opened overseen =>
    overseen.changes (does within).1 isApart_tending opened⟩

/-- A calm step has nothing to do with transports. -/
theorem calmly {holds : α → World → Prop} (does : Does (openTo held) 0 calm world step holds) :
    Minds held errands world step fun _ => errands := aside does.tending

/-- Nothing more is done, and the errands are put in another way. -/
theorem finish {value : α}
    (puts : world.Overseen errands → world.Overseen (after value)) :
    Minds held errands world (pure value) after := fun _ => ⟨.refl, fun _ => puts⟩

/-- Doing nothing minds the transports. -/
theorem pure {value : α} : Minds held errands world (pure value) fun _ => errands :=
  finish id

/-- The errands are put in another way. -/
theorem mono {more : α → TransportId → Outlook} (minds : Minds held errands world step after)
    (puts : ∀ value reached, World.Overseen (after value) reached →
      World.Overseen (more value) reached) :
    Minds held errands world step more := fun within =>
  ⟨(minds within).1, fun opened overseen => puts _ _ ((minds within).2 opened overseen)⟩

/-- One step after another. -/
theorem bind {last : β → TransportId → Outlook}
    (first : Minds held errands world step after)
    (second : ∀ value reached, Minds held (after value) reached (next value) last) :
    Minds held errands world (step >>= next) last := fun within => by
  obtain ⟨begun, minded⟩ := first within
  obtain ⟨ended, finished⟩ := second _ _ (begun.within within)
  refine ⟨begun.trans ended, fun opened overseen => finished opened (minded ?_ overseen)⟩
  exact ended.grows.loop.opened opened

/-- A calm step first, after which something holds. -/
theorem following {holds : α → World → Prop} {last : β → TransportId → Outlook}
    (first : Does (openTo held) 0 calm world step holds)
    (second : ∀ value reached, holds value reached →
      Minds held errands reached (next value) last) :
    Minds held errands world (step >>= next) last := fun within => by
  obtain ⟨begun, minded⟩ := @calmly _ held world errands _ _ first within
  obtain ⟨ended, finished⟩ := second _ _ (first within).2 (begun.within within)
  refine ⟨begun.trans ended, fun opened overseen => finished opened (minded ?_ overseen)⟩
  exact ended.grows.loop.opened opened

/-- Only what a step does in this world matters. -/
theorem congr {other : WorldM α} (same : step world = other world)
    (minds : Minds held errands world other after) :
    Minds held errands world step after := by
  unfold Minds at minds ⊢
  rw [same]
  exact minds

/-- Another step first that leads to the same world. -/
theorem instead {γ : Type} {other : WorldM γ} {middle : TransportId → Outlook}
    {last : β → TransportId → Outlook} (same : (step world).2 = (other world).2)
    (first : Minds held errands world other fun _ => middle)
    (second : ∀ reached, Minds held middle reached (next (step world).1) last) :
    Minds held errands world (step >>= next) last := by
  have whole : Minds held errands world (other >>= fun _ => next (step world).1) last :=
    first.bind fun _ => second
  refine congr ?_ whole
  change next (step world).1 (step world).2 = next (step world).1 (other world).2
  rw [same]

/-- Something is read. -/
theorem read {last : β → TransportId → Outlook} (same : (step world).2 = world)
    (rest : Minds held errands world (next (step world).1) last) :
    Minds held errands world (step >>= next) last := by
  refine congr ?_ rest
  change next (step world).1 (step world).2 = _
  rw [same]

/-- The state is read. -/
theorem get {next : World → WorldM α} (rest : Minds held errands world (next world) after) :
    Minds held errands world (get >>= next) after := rest

end Minds

/-! ## What happens to one transport -/

namespace Overseen

variable {id : TransportId} {errand done : Outlook}

/-- A transport that has errands exists. -/
theorem exists_of_errand (overseen : Overseen (Function.update errands id errand) world)
    (busy : errand ≠ {}) : id < world.transports.size := by
  by_contra beyond
  have none := (Outlook.over_eq_empty (overseen.fresh (Nat.le_of_not_lt beyond))).1
  rw [Function.update_self] at none
  exact busy none

/-- Something happens to one transport, and the others do not notice. -/
theorem play (overseen : Overseen (Function.update errands id errand) world) {after : World}
    (size : after.transports.size = world.transports.size) (exists_ : id < world.transports.size)
    (same : ∀ other, other ≠ id → after.transports.get? other = world.transports.get? other)
    (alike : ∀ other (outlook : Outlook), other ≠ id →
      outlook.over after.loop other = outlook.over world.loop other)
    (plays : ∀ transport, after.transports.get? id = some (some transport) →
      ∃ before, world.transports.get? id = some (some before) ∧
        Plays id ⟨before, errand.over world.loop id⟩ ⟨transport, done.over after.loop id⟩)
    (aloof : after.loop.Aloof Callback.Apart) :
    Overseen (Function.update errands id done) after where
  attained {other transport} found := by
    by_cases here : other = id
    · subst here
      obtain ⟨before, there, played⟩ := plays transport found
      have earlier := overseen.attained there
      rw [Function.update_self] at earlier ⊢
      exact earlier.plays played
    · rw [same other here] at found
      have earlier := overseen.attained found
      rw [Function.update_of_ne here] at earlier ⊢
      rw [alike other _ here]
      exact earlier
  fresh {other} beyond := by
    rw [size] at beyond
    have differ : other ≠ id := Nat.ne_of_gt (Nat.lt_of_lt_of_le exists_ beyond)
    have none := overseen.fresh beyond
    rw [Function.update_of_ne differ] at none ⊢
    rw [alike other _ differ]
    exact none
  aloof := aloof

/-- One transport changes. -/
theorem turned (overseen : Overseen (Function.update errands id errand) world)
    {before transport : Transport} (found : world.transports.get? id = some (some before))
    (plays : Plays id ⟨before, errand.over world.loop id⟩
      ⟨transport, done.over world.loop id⟩) :
    Overseen (Function.update errands id done)
      { world with transports := world.transports.modify id fun _ => some transport } := by
  refine overseen.play (Table.size_modify _ _ _) (Table.lt_size_of_get? found)
    (fun other differ => Table.get?_modify_of_ne _ _ differ) (fun _ _ _ => rfl) ?_ overseen.aloof
  intro later there
  rw [Table.get?_modify_self, found] at there
  cases there
  exact ⟨before, found, plays⟩

/-- Only what is to come for one transport changes. -/
theorem passed (overseen : Overseen (Function.update errands id errand) world)
    (busy : errand ≠ {})
    (plays : ∀ transport, Plays id ⟨transport, errand.over world.loop id⟩
      ⟨transport, done.over world.loop id⟩) :
    Overseen (Function.update errands id done) world :=
  overseen.play rfl (overseen.exists_of_errand busy) (fun _ _ => rfl) (fun _ _ _ => rfl)
    (fun transport found => ⟨transport, found, plays transport⟩) overseen.aloof

/-- What is to come for a transport that is gone does not matter. -/
theorem gone (overseen : Overseen (Function.update errands id errand) world)
    (none : (world.transports.get? id).join = none) (idle : errand = {} → done = {}) :
    Overseen (Function.update errands id done) world := by
  refine ⟨fun {other transport} found => ?_, fun {other} beyond => ?_, overseen.aloof⟩
  · have differ : other ≠ id := by
      rintro rfl
      rw [found] at none
      cases none
    have earlier := overseen.attained found
    rw [Function.update_of_ne differ] at earlier ⊢
    exact earlier
  · have before := overseen.fresh beyond
    by_cases here : other = id
    · subst here
      rw [Function.update_self] at before ⊢
      rw [idle (Outlook.over_eq_empty before).1]
      rw [(Outlook.over_eq_empty before).1] at before
      exact before
    · rw [Function.update_of_ne here] at before ⊢
      exact before

end Overseen

/-! ## The effects of transitions -/

/-- A transport is looked up without changing the world. -/
theorem transport?_apply (id : TransportId) (world : World) :
    transport? id world = ((world.transports.get? id).join, world) := rfl

namespace Minds

variable {id : TransportId} {errand done : Outlook}

/-- A transport changes if it is still there. -/
theorem changeTransport_eq (id : TransportId) (change : Transport → Transport) (world : World) :
    changeTransport id change world = ((), { world with
      transports := match (world.transports.get? id).join with
        | some transport => world.transports.modify id fun _ => some (change transport)
        | none => world.transports }) := by
  unfold changeTransport
  rw [StateM.bind_apply, transport?_apply]
  cases (world.transports.get? id).join with
  | none => rfl
  | some transport => rfl

/-- A transport is changed together with the loop, and the others do not notice. -/
theorem stirred {change : Transport → Transport} {transition : Loop → Loop}
    (does : Does (openTo held) 0 dealing world (do
      changeTransport id change
      changeLoop transition) anyhow)
    (alike : world.loop.closed = false → ∀ other (outlook : Outlook), other ≠ id →
      outlook.over (transition world.loop) other = outlook.over world.loop other)
    (aloof : world.loop.Aloof Callback.Apart → (transition world.loop).Aloof Callback.Apart)
    (busy : errand ≠ {})
    (plays : world.loop.closed = false → ∀ transport,
      Plays id ⟨transport, errand.over world.loop id⟩
        ⟨change transport, done.over (transition world.loop) id⟩) :
    Minds held (Function.update errands id errand) world (do
      changeTransport id change
      changeLoop transition) fun _ => Function.update errands id done := fun within => by
  refine ⟨(does within).1.mono (List.subset_cons_self _ _), fun opened overseen => ?_⟩
  have before := (does within).1.grows.loop.opened opened
  have exists_ := overseen.exists_of_errand busy
  have reached : (do
      changeTransport id change
      changeLoop transition : WorldM Unit) world = ((), { world with
        transports := match (world.transports.get? id).join with
          | some transport => world.transports.modify id fun _ => some (change transport)
          | none => world.transports
        loop := transition world.loop }) := by
    change changeLoop transition (changeTransport id change world).2 = _
    rw [changeTransport_eq]
    rfl
  rw [reached]
  cases found : (world.transports.get? id).join with
  | none =>
    refine overseen.play rfl exists_ (fun _ _ => rfl) (alike before) ?_ (aloof overseen.aloof)
    intro transport there
    rw [show world.transports.get? id = some (some transport) from there] at found
    cases found
  | some transport =>
    have there := Option.join_eq_some_iff.mp found
    refine overseen.play (Table.size_modify _ _ _) exists_
      (fun other differ => Table.get?_modify_of_ne _ _ differ) (alike before) ?_ (aloof overseen.aloof)
    intro later here
    rw [Table.get?_modify_self, there] at here
    cases here
    exact ⟨transport, there, plays before transport⟩

/-- The protocol will be told of a loss, and nothing else waits for transports. -/
theorem over_announced {loop : Loop} (opened : loop.closed = false) (error : Option Error)
    (other : TransportId) (outlook : Outlook) :
    outlook.over (loop.callSoon (.connectionLost id error)) other =
      { outlook.over loop other with
        stirs := (outlook.over loop other).stirs ++
          if id = other then [.connectionLost id error] else [] } := by
  unfold Outlook.over
  rw [Loop.stirs_callSoon opened, Loop.replies_callSoon loop rfl, Loop.replies_callSoon loop rfl]
  by_cases same : id = other
  · simp [Callback.stirs, same]
  · simp [Callback.stirs, same]

/-- A transport will hear of the end of an operation, and nothing else waits for transports. -/
theorem over_whenDone {loop : Loop} (opened : loop.closed = false) (future : FutureId)
    (reaction : Reaction) (other : TransportId) (outlook : Outlook) :
    outlook.over (loop.whenDone future reaction) other =
      { outlook.over loop other with
        receipts := (outlook.over loop other).receipts +
          if reaction.isReceipt other then {future} else 0
        dispatches := (outlook.over loop other).dispatches +
          if reaction.isDispatch other then {future} else 0 } := by
  unfold Outlook.over
  rw [Loop.stirs_whenDone, Loop.replies_whenDone opened, Loop.replies_whenDone opened, add_assoc,
    add_assoc]

/-- An effect is brought about. -/
theorem perform (id : TransportId) (transport : Transport) {effect : Effect} {rest : List Effect}
    (next : errand.air = effect :: rest) :
    Minds held (Function.update errands id errand) world (perform id transport effect)
      fun _ => Function.update errands id { errand with air := rest } := by
  have fresh : (openTo held).Fresh 0 := fun _ _ => trivial
  have busy : errand ≠ {} := by
    rintro rfl
    cases next
  have single {future : FutureId} {world : World} (knows : world.loop.Knows (openTo held).known future) :
      ∀ other ∈ [future], world.loop.Knows (openTo held).known other :=
    fun other member => List.mem_singleton.mp member ▸ knows
  -- Effects that change nothing for the transport are calm.
  have plainly {step : WorldM Unit} (does : Does (openTo held) 0 calm world step anyhow)
      (plain : effect.isPlain = true) : Minds held (Function.update errands id errand) world
        step fun _ => Function.update errands id { errand with air := rest } :=
    (calmly does).mono fun _ reached overseen => overseen.passed busy fun transport =>
      .passed transport (errand.over reached.loop id) next plain
  -- An operation is submitted, and the transport will hear of its end.
  have submits {change : FutureId → Transport → Transport} {reaction : Reaction}
      {subject : Proactor.Subject}
      (owner : reaction.transport? = some id)
      (futures : ∀ future transport, (change future transport).futures ⊆ [future] ++ transport.futures)
      (line : ∀ future transport, (change future transport).line = transport.line)
      (plays : ∀ future (loop : Loop), loop.closed = false → ∀ transport,
        Plays id ⟨transport, errand.over loop id⟩
          ⟨change future transport,
            (Outlook.over { errand with air := rest } (loop.whenDone future reaction) id)⟩) :
      Minds held (Function.update errands id errand) world (do
        let future ← submit transport.socket subject
        changeTransport id (change future)
        changeLoop (·.whenDone future reaction)) fun _ =>
          Function.update errands id { errand with air := rest } := by
    refine following (Calm.submit fresh _ _) fun future reached new => ?_
    refine stirred ?_ (fun opened other outlook differ => ?_) (fun aloof => aloof.whenDone _ _) busy
      (plays future _)
    · exact Does.bind (Calm.changeTransport (single new) (futures future) (line future) id) fun _ _ _ =>
        Calm.bind _ (Reaction.server?_of_transport? owner)
    · rw [over_whenDone opened, Reaction.isReceipt_of_other owner differ,
        Reaction.isDispatch_of_other owner differ]
      simp
  cases effect with
  | receive =>
    refine Minds.get (submits rfl (fun future transport => ?_) (fun _ _ => rfl)
      fun future loop opened transport => ?_)
    · exact List.append_subset.mpr ⟨List.subset_append_left _ _, List.Subset.trans
        (List.subset_append_right _ _) (List.subset_append_right _ _)⟩
    · rw [over_whenDone opened, if_neg (show ¬ (Reaction.received id).isDispatch id = true from
        Bool.false_ne_true), add_zero,
        if_pos (show (Reaction.received id).isReceipt id = true from beq_self_eq_true id)]
      exact Plays.receives transport (errand.over loop id) future next
  | send data =>
    refine submits rfl (fun future transport => ?_) (fun _ _ => rfl)
      fun future loop opened transport => ?_
    · exact List.append_subset.mpr ⟨List.Subset.trans (List.subset_append_left _ _)
        (List.subset_append_right _ _), List.subset_append_left _ _⟩
    · rw [over_whenDone opened, if_neg (show ¬ (Reaction.sent id).isReceipt id = true from
        Bool.false_ne_true), add_zero,
        if_pos (show (Reaction.sent id).isDispatch id = true from beq_self_eq_true id)]
      exact Plays.sends transport (errand.over loop id) future next
  | cancel future => exact plainly (Calm.cancelAll fun _ _ => trivial) rfl
  | announce error =>
    refine stirred ?_ (fun opened other outlook differ => ?_) (fun aloof => aloof.callSoon _) busy
      fun opened transport => ?_
    · refine Does.bind (Calm.changeTransport (List.forall_mem_nil _) (fun transport => ?_)
        (fun _ => by rfl) id) fun _ reached _ => Does.changeLoop (by decide) (.announced reached id error) trivial
      exact List.Subset.refl transport.futures
    · rw [over_announced opened, if_neg differ.symm]
      simp
    · rw [over_announced opened, if_pos rfl]
      exact Plays.announced transport (errand.over world.loop id) next
  | warnLostWrites =>
    exact plainly (Does.bind (Calm.transportText _ _) fun _ _ _ => Calm.message _ _) rfl
  | reportFatal status error =>
    exact plainly (Does.bind (Calm.transportText _ _) fun _ _ _ => Calm.message _ _) rfl

/-! ## Transitions -/

/-- One transport changes and keeps no operations but its own. -/
theorem turned {before transport : Transport} (found : world.transports.get? id = some (some before))
    (fewer : transport.futures ⊆ before.futures) (same : transport.line = before.line)
    (plays : Plays id ⟨before, errand.over world.loop id⟩
      ⟨transport, done.over world.loop id⟩) :
    Minds held (Function.update errands id errand) world (setTransport id transport)
      fun _ => Function.update errands id done := fun within => by
  have known (future : FutureId) (member : future ∈ transport.futures) :=
    within.transports found future (fewer member)
  exact ⟨(Calm.setTransport found same known within).1.mono (List.subset_cons_self _ _),
    fun _ overseen => overseen.turned found plays⟩

/-- All that a transition asked for is brought about. -/
theorem performAll (id : TransportId) (transport : Transport) (effects : List Effect) :
    Minds held (Function.update errands id { errand with air := effects }) world
      (effects.forM (World.perform id transport))
      fun _ => Function.update errands id { errand with air := [] } := by
  induction effects generalizing world with
  | nil => exact pure
  | cons effect rest ih =>
    have first := @perform held world errands { errand with air := effect :: rest } id
      transport effect rest rfl
    exact first.bind fun _ _ => ih

/-- A transport is looked up, and the step goes on with it if it is there. -/
theorem lookUp {next : Option Transport → WorldM α} {last : α → TransportId → Outlook}
    (absent : (world.transports.get? id).join = none → Minds held errands world (next none) last)
    (present : ∀ transport, world.transports.get? id = some (some transport) →
      Minds held errands world (next (some transport)) last) :
    Minds held errands world (transport? id >>= next) last := by
  refine read rfl ?_
  rw [transport?_apply]
  cases found : (world.transports.get? id).join with
  | none => exact absent found
  | some transport => exact present transport (Option.join_eq_some_iff.mp found)

/-- A transition is applied to a transport, and what it asks for is brought about. -/
theorem transition {otherwise : α} {step : Transport → α × List Effect × Transport}
    {done : α → Outlook}
    (yields : ∀ transport : Transport, transport.Yields (step transport).2.1 (step transport).2.2)
    (settled : ∀ value, (done value).air = []) (idle : errand = {} → done otherwise = {})
    (plays : ∀ transport, world.transports.get? id = some (some transport) →
      Plays id ⟨transport, errand.over world.loop id⟩ ⟨(step transport).2.2,
        Outlook.over { done (step transport).1 with air := (step transport).2.1 } world.loop id⟩) :
    Minds held (Function.update errands id errand) world (transition id otherwise step)
      fun value => Function.update errands id (done value) := by
  refine lookUp (fun absent => finish fun overseen => overseen.gone absent idle) fun transport there => ?_
  refine (turned there (yields transport).futures (yields transport).line
    (plays transport there)).bind fun _ _ => ?_
  refine (performAll id _ _).bind fun _ _ => ?_
  refine finish fun overseen => ?_
  have same : { done (step transport).1 with air := [] } = done (step transport).1 := by
    rw [← settled (step transport).1]
  rw [same] at overseen
  exact overseen

/-- A transition that may be applied to a transport at any time. -/
theorem advance {step : Transport → List Effect × Transport}
    (yields : ∀ transport : Transport, transport.Yields (step transport).1 (step transport).2)
    (settled : (errands id).air = [])
    (plays : ∀ transport (outlook : Outlook), outlook.air = [] →
      Plays id ⟨transport, outlook⟩
        ⟨(step transport).2, { outlook with air := (step transport).1 }⟩) :
    Minds held errands world (advance id step) fun _ => errands := by
  have minds := @transition Unit held world errands id (errands id) ()
    (fun transport => ((), step transport)) (fun _ => errands id) yields (fun _ => settled)
    (fun none => none) fun transport _ => plays transport _ settled
  rw [Function.update_eq_self] at minds
  exact minds

/-- Writing to a transport minds the transports, while no effect is to be performed. -/
theorem write (id : TransportId) (data : Bytes) (settled : ∀ id, (errands id).air = []) :
    Minds held errands world (write id data) fun _ => errands :=
  Minds.get (advance (fun _ => .write _ _) (settled id) fun transport outlook none =>
    .written transport outlook data _ none)

/-- Writing back what was received minds the transports, while no effect is to be performed. -/
theorem echo (protocol : String) (data : Bytes) (settled : ∀ id, (errands id).air = []) :
    Minds held errands world (echo protocol data) fun _ => errands := by
  refine following (Calm.named? _ _) fun id? _ _ => ?_
  split
  · exact write _ data settled
  · exact pure

/-- What scripts do to transports. -/
theorem doTransport (protocol : Option String) (instruction : Script.TransportInstruction)
    (settled : ∀ id, (errands id).air = []) :
    Minds held errands world (doTransport protocol instruction) fun _ => errands := by
  have withNamed {name : String} {action : Nat → WorldM Value}
      (minds : ∀ id reached, Minds held errands reached (action id) fun _ => errands) :
      Minds held errands world (onNamed .transport name action) fun _ => errands := by
    refine following (Calm.named? .transport name) fun found reached _ => ?_
    split
    · exact minds _ reached
    · exact pure
  have onTransport (reference : Script.TransportRef) {action : Nat → WorldM Value}
      (minds : ∀ id reached, Minds held errands reached (action id) fun _ => errands) :
      Minds held errands world (onTransport protocol reference action) fun _ => errands := by
    unfold World.onTransport
    split
    · exact withNamed minds
    · exact pure
  have calm (still : instruction.effects ⊆ tending) :
      Minds held errands world (World.doTransport protocol instruction) fun _ => errands :=
    aside ((Instructions.doTransport (fun _ _ => trivial) protocol instruction).mono still)
  cases instruction with
  | write reference data =>
    exact onTransport reference fun id _ => (write id data settled).bind fun _ _ => pure
  | close reference =>
    refine onTransport reference fun id _ => Minds.bind (advance (fun _ => .close) (settled id) ?_)
      fun _ _ => pure
    exact fun transport outlook none => .closed transport outlook none
  | abort reference =>
    refine onTransport reference fun id _ =>
      Minds.bind (advance (fun _ => .forceClose none) (settled id) ?_) fun _ _ => pure
    exact fun transport outlook none => .aborted transport outlook none
  | closeServer | closeOnConnection => exact calm (List.Subset.refl _)
  | state | socket | serverState => exact calm (List.subset_cons_self _ _)

/-! ## What the loop brings to transports -/

/-- The transport begins to read. -/
theorem startReading (id : TransportId) (settled : errand.air = []) :
    Minds held (Function.update errands id { errand with stirs := [.startReading id] }) world
      (World.advance id (·.receiveNext))
      fun _ => Function.update errands id { errand with stirs := [] } :=
  transition (fun _ => .receiveNext) (fun _ => settled) (fun none => nomatch (Outlook.mk.inj none).1)
    fun transport _ => .started transport _ settled rfl

/-- The transport goes on to read after its protocol was handed data. -/
theorem readOn (id : TransportId) {left : Nat} (settled : errand.air = []) :
    Minds held (Function.update errands id { errand with handing := left + 1 }) world
      (World.advance id (·.receiveNext))
      fun _ => Function.update errands id { errand with handing := left } :=
  transition (fun _ => .receiveNext) (fun _ => settled)
    (fun none => nomatch (Outlook.mk.inj none).2.2.2.1) fun transport _ => .handed transport _ settled rfl

/-- What was noted does not wait any more. -/
theorem erase_over (future : FutureId) (rest : Multiset FutureId) :
    ({future} + rest).erase future = 0 + rest := by
  rw [zero_add, Multiset.singleton_add, Multiset.erase_cons_head]

/-- A send has ended. -/
theorem sendEnded (id : TransportId) {future : FutureId} (settled : errand.air = []) :
    Minds held (Function.update errands id { errand with dispatches := {future} }) world
      (World.sendEnded id future)
      fun _ => Function.update errands id { errand with dispatches := 0 } := by
  refine Minds.get (transition (fun _ => .sendEnded _) (fun _ => settled) (fun none => ?_)
    fun transport found => ?_)
  · exact absurd (Outlook.mk.inj none).2.2.1 (Multiset.singleton_ne_zero future)
  · have plays := @Plays.sent id transport
      (Outlook.over { errand with dispatches := {future} } world.loop id) future
      (errorOf (world.loop.resultOf future)) settled
      (Multiset.mem_add.mpr (Or.inl (Multiset.mem_singleton_self future)))
    have noted : (Outlook.over { errand with dispatches := {future} } world.loop id).dispatches.erase
        future = 0 + world.loop.replies (Reaction.isDispatch id) := erase_over future _
    rw [noted] at plays
    exact plays

/-- The protocol is told that the connection is made. -/
theorem tellMade (id : TransportId) (settled : errand.air = []) :
    Minds held (Function.update errands id { errand with stirs := [.connectionMade id] }) world
      (tellProtocol id .made)
      fun _ => Function.update errands id { errand with stirs := [] } := by
  refine lookUp (fun absent => finish fun overseen => overseen.gone absent fun none =>
    nomatch (Outlook.mk.inj none).1) fun transport there => ?_
  have told : Minds held
      (Function.update errands id { errand with stirs := [.connectionMade id] }) world
      (setTransport id (transport.tell .made))
      fun _ => Function.update errands id { errand with stirs := [] } :=
    turned there (by rw [Transport.futures_tell]; exact List.Subset.refl _)
      (transport.line_tell .made) (.made transport
      (Outlook.over { errand with stirs := [.connectionMade id] } world.loop id) settled rfl)
  exact told.bind fun _ _ => pure

/-- The protocol is told that the connection is lost. -/
theorem tellLost (id : TransportId) (error : Option Error) (settled : errand.air = []) :
    Minds held
      (Function.update errands id { errand with stirs := [.connectionLost id error] }) world
      (takeProtocol id error)
      fun _ => Function.update errands id { errand with stirs := [], losing := errand.losing + 1 } := by
  refine lookUp (fun absent => finish fun overseen => overseen.gone absent fun none =>
    nomatch (Outlook.mk.inj none).1) fun transport there => ?_
  have told : Minds held
      (Function.update errands id { errand with stirs := [.connectionLost id error] }) world
      (setTransport id (transport.connectionLost error))
      fun _ => Function.update errands id { errand with stirs := [], losing := errand.losing + 1 } :=
    turned there (by rw [Transport.futures_connectionLost]; exact List.Subset.refl _)
      (transport.line_connectionLost error) (.lost transport
      (Outlook.over { errand with stirs := [.connectionLost id error] } world.loop id) settled rfl)
  refine told.bind fun _ _ => following (Calm.transportText _ _) fun _ _ _ => ?_
  exact following (Calm.message _ _) fun _ _ _ => pure

/-- The socket of a transport is closed. -/
theorem closeTransportSocket (id : TransportId) {left : Nat} (settled : errand.air = []) :
    Minds held (Function.update errands id { errand with losing := left + 1 }) world
      (World.closeTransportSocket id)
      fun _ => Function.update errands id { errand with losing := left } := by
  refine lookUp (fun absent => finish fun overseen => overseen.gone absent fun none =>
    nomatch (Outlook.mk.inj none).2.2.2.2.1) fun transport there => ?_
  have noted : Minds held (Function.update errands id { errand with losing := left + 1 })
      world (setTransport id (transport.note .shut))
      fun _ => Function.update errands id { errand with losing := left } :=
    turned there (List.Subset.refl _) rfl (.shut transport
      (Outlook.over { errand with losing := left + 1 } world.loop id) settled rfl)
  exact noted.bind fun _ _ => calmly (Does.bind (Calm.forgetSocket _) fun _ _ _ =>
    Calm.closeSocket _)

/-- A receive has ended, and there is nothing to tell the protocol. -/
theorem receiveEnded (id : TransportId) {future : FutureId} (settled : errand.air = [])
    (nothing : ∀ transport, world.transports.get? id = some (some transport) →
      (transport.receiveEnded (dataOf (world.loop.resultOf future))).1 = .nothing) :
    Minds held (Function.update errands id { errand with receipts := {future} }) world
      (World.receiveEnded id future)
      fun _ => Function.update errands id { errand with receipts := 0 } := by
  refine Minds.get (transition (fun _ => .receiveEnded _) (fun _ => settled) (fun none => ?_)
    fun transport found => ?_)
  · exact absurd (Outlook.mk.inj none).2.1 (Multiset.singleton_ne_zero future)
  · have plays := @Plays.received id transport
      (Outlook.over { errand with receipts := {future} } world.loop id) future
      (dataOf (world.loop.resultOf future)) settled
      (Multiset.mem_add.mpr (Or.inl (Multiset.mem_singleton_self future)))
    have noted : (Outlook.over { errand with receipts := {future} } world.loop id).receipts.erase
        future = 0 + world.loop.replies (Reaction.isReceipt id) := erase_over future _
    rw [noted, nothing transport found] at plays
    exact plays

/-- A receive has ended, and the protocol is told of something that arrived. -/
theorem arrived {transport : Transport} {future : FutureId} {arrival : Arrival}
    (settled : errand.air = []) (found : world.transports.get? id = some (some transport))
    (ended : transport.receiveEnded (dataOf (world.loop.resultOf future)) =
      (arrival, [], { transport with reading := none })) :
    Minds held (Function.update errands id { errand with receipts := {future} }) world
      (setTransport id (arrival.told { transport with reading := none }))
      fun _ => Function.update errands id
        { errand with receipts := 0, handing := errand.handing + arrival.handed } := by
  have plays := @Plays.received id transport
    (Outlook.over { errand with receipts := {future} } world.loop id) future
    (dataOf (world.loop.resultOf future)) settled
    (Multiset.mem_add.mpr (Or.inl (Multiset.mem_singleton_self future)))
  have noted : (Outlook.over { errand with receipts := {future} } world.loop id).receipts.erase
      future = 0 + world.loop.replies (Reaction.isReceipt id) := erase_over future _
  rw [noted, ended, ← settled] at plays
  have line : (arrival.told { transport with reading := none }).line = transport.line := by
    cases arrival with
    | nothing => rfl
    | data | endOfStream => exact Transport.line_tell _ _
  refine turned found ?_ line plays
  have own : (arrival.told { transport with reading := none }).futures =
      ({ transport with reading := none } : Transport).futures := by
    cases arrival with
    | nothing => rfl
    | data | endOfStream => exact Transport.futures_tell _ _
  rw [own]
  exact List.subset_append_right _ _

end Minds

/-- A transport that takes down that its socket is closed closes it. -/
theorem isOpen_closeTransportSocket {id : TransportId} {transport : Transport}
    (found : world.transports.get? id = some (some transport)) :
    (closeTransportSocket id world).2.isOpen transport.socket = false := by
  have there : (world.transports.get? id).join = some transport := by rw [found]; rfl
  have step : closeTransportSocket id world = (do
      setTransport id (transport.note .shut)
      forgetSocket transport.socket
      closeSocket transport.socket : WorldM Unit) world := by
    unfold closeTransportSocket
    rw [StateM.bind_apply, transport?_apply, there]
  rw [step]
  exact isOpen_closeSocket transport.socket _

/-- What a transition leaves that asks for nothing. -/
theorem transition_eq {id : TransportId} {otherwise result : α} {transport after : Transport}
    {step : Transport → α × List Effect × Transport}
    (found : world.transports.get? id = some (some transport))
    (steps : step transport = (result, [], after)) :
    transition id otherwise step world = (result, { world with
      transports := world.transports.modify id fun _ => some after }) := by
  have there : (world.transports.get? id).join = some transport := by rw [found]; rfl
  unfold transition
  simp only [StateM.bind_apply, transport?_apply, there, steps]
  rfl

/-- The result of a transition is that of the transport. -/
theorem fst_transition {id : TransportId} {otherwise : α}
    {step : Transport → α × List Effect × Transport} :
    (transition id otherwise step world).1 =
      (world.transports.get? id).join.elim otherwise fun transport => (step transport).1 := by
  unfold transition
  rw [StateM.bind_apply, transport?_apply]
  cases (world.transports.get? id).join with
  | none => rfl
  | some transport => rfl

/-- What the end of a receive calls for. -/
theorem fst_receiveEnded (id : TransportId) (future : FutureId) (world : World) :
    (receiveEnded id future world).1 = (world.transports.get? id).join.elim .nothing fun transport =>
      (transport.receiveEnded (dataOf (world.loop.resultOf future))).1 := fst_transition

/-- The protocol of a transport is told something. -/
theorem tellProtocol_eq {id : TransportId} {transport : Transport} (notice : Net.Notice)
    (found : world.transports.get? id = some (some transport)) :
    tellProtocol id notice world = (transport.protocol, { world with
      transports := world.transports.modify id fun _ => some (transport.tell notice) }) := by
  have there : (world.transports.get? id).join = some transport := by rw [found]; rfl
  unfold tellProtocol
  rw [StateM.bind_apply, transport?_apply, there]
  rfl

/-- When a receive has ended and something arrived, the protocol is told at once. -/
theorem receiveEnded_tellProtocol {id : TransportId} {transport : Transport} {future : FutureId}
    {arrival : Arrival} {notice : Net.Notice}
    (found : world.transports.get? id = some (some transport))
    (ended : transport.receiveEnded (dataOf (world.loop.resultOf future)) =
      (arrival, [], { transport with reading := none }))
    (told : arrival.told = fun transport => transport.tell notice) :
    tellProtocol id notice (receiveEnded id future world).2 = (transport.protocol,
      (setTransport id (arrival.told { transport with reading := none }) world).2) := by
  have begun : (receiveEnded id future world).2 = { world with
      transports := world.transports.modify id fun _ => some { transport with reading := none } } :=
    congrArg Prod.snd (transition_eq found ended)
  have there : (world.transports.modify id fun _ =>
      some { transport with reading := none }).get? id =
        some (some { transport with reading := none }) := by
    rw [Table.get?_modify_self, found]
    rfl
  rw [begun, tellProtocol_eq notice there, told]
  change _ = (_, { world with transports := world.transports.modify id fun _ => some _ })
  rw [Table.modify_modify]
  rfl

/-- Whoever is told something is the protocol of the transport. -/
theorem fst_tellProtocol (id : TransportId) (notice : Net.Notice) (world : World) :
    (tellProtocol id notice world).1 = (world.transports.get? id).join.bind Transport.protocol := by
  unfold tellProtocol
  rw [StateM.bind_apply, transport?_apply]
  cases (world.transports.get? id).join with
  | none => rfl
  | some transport => rfl

/-- Whoever is told of the loss is the protocol of the transport. -/
theorem fst_takeProtocol (id : TransportId) (error : Option Error) (world : World) :
    (takeProtocol id error world).1 = (world.transports.get? id).join.bind Transport.protocol := by
  unfold takeProtocol
  rw [StateM.bind_apply, transport?_apply]
  cases (world.transports.get? id).join with
  | none => rfl
  | some transport => rfl

/-- A transport whose connection is lost takes that down. -/
theorem transports_takeProtocol {id : TransportId} {transport : Transport} {error : Option Error}
    (found : world.transports.get? id = some (some transport)) :
    (takeProtocol id error world).2.transports =
      world.transports.modify id fun _ => some (transport.connectionLost error) := by
  have there : (world.transports.get? id).join = some transport := by rw [found]; rfl
  unfold takeProtocol
  rw [StateM.bind_apply, transport?_apply, there]
  rfl

end EventLoop.World

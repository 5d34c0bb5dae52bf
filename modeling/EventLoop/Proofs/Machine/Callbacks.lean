import EventLoop.Proofs.Machine.Notices
import EventLoop.Proofs.Machine.Programs

/-!
# Moves of callbacks

A callback runs within an iteration. It resolves no future of a queue, except that the time of a future
may be up, and it takes the program of the task out that it polls.
-/
namespace EventLoop

open Script (Activity)
open World (Does Performs Ends Turn.calm Turn.dealing Turn.tending leaving moving expiring trafficking polling
  shelter calm anyhow)

variable {held : List Ref} {strict : Prop} {down : Demand} {owner : Option TaskId}
variable {rest : Multiset Stake} {world : World}

namespace Moves

/-! ## Protocols -/

/-- Telling a protocol something leaves the caller what it had at stake. -/
theorem tellProtocol (id : TransportId) (notice : Net.Notice) :
    Performs held trafficking rest world (World.tellProtocol id notice) (leaving rest) :=
  Turn.dealing fun _ _ => World.Calm.tellProtocol id notice

/-- What a protocol does before its script leaves the caller what it had at stake. -/
theorem heed (listener : Net.Listener) (id : TransportId) (notice : Net.Notice) :
    Performs held trafficking rest world (listener.heed id notice) (leaving rest) := by
  cases heeds : listener.heeds notice with
  | false =>
    rw [listener.heed_of_not_heeds heeds]
    exact Performs.pure rfl
  | true =>
    rw [listener.heed_of_heeds heeds]
    refine Turn.dealing fun _ fresh => ?_
    refine Does.bind (World.Calm.record _ _ _).dealing fun _ reached grown => ?_
    cases notice with
    | made => exact (World.Calm.store .transport _ trivial nofun).dealing
    | data bytes =>
      unfold Net.Listener.prepare
      dsimp only
      split
      · exact World.Calm.echo fresh _ _
      · exact Does.pure trivial
    | endOfStream | lost => exact Does.pure trivial

/-- What waits for a protocol receives that its script is done. -/
theorem leads_frames (notice : Net.Notice) (id : TransportId) (proceeds : Kind.proceed ∈ down.kinds) :
    Leads { kinds := [.proceed] } (notice.frames id) down := by
  cases notice with
  | made => exact Demand.single_le proceeds
  | data | endOfStream | lost => exact ⟨.single List.mem_cons_self, Demand.single_le proceeds⟩

/-- Handing a notice to a protocol is a move, if there is someone below who goes on. -/
theorem handTo (id : TransportId) (notice : Net.Notice) (listener? : Option Net.Listener)
    (proceeds : Kind.proceed ∈ down.kinds) :
    Moves held trafficking strict down owner rest rest world (Machine.handTo id notice listener?) := by
  have leads := @leads_frames down notice id proceeds
  have stations : (notice.frames id).flatMap Frame.stations = [] :=
    List.flatMap_eq_nil_iff.mpr (notice.of_frames rfl rfl rfl)
  have attended (loop : Loop) : ∀ frame ∈ notice.frames id, frame.Attended strict loop :=
    notice.of_frames trivial trivial trivial
  cases listener? with
  | none => exact pure (.plain rfl stations leads (attended _))
  | some listener =>
    refine after (heed listener id notice) fun _ _ _ => ?_
    rcases listener.signal_cases notice with proceed | ⟨actor, body, script⟩
    · rw [proceed]
      exact pure (.plain rfl stations leads (attended _))
    · rw [script]
      exact pure (.plain rfl stations leads (attended _))

/-- Telling a protocol that the connection is made is a move, if there is someone below who goes on. -/
theorem tellMade (id : TransportId) (proceeds : Kind.proceed ∈ down.kinds) :
    Moves held trafficking strict down owner rest rest world (Machine.tellMade id) := by
  rw [Machine.tellMade_eq]
  exact after (tellProtocol id _) fun listener? _ _ => handTo id _ listener? proceeds

/-- Handing data to a protocol is a move, if there is someone below who goes on. -/
theorem tellData (id : TransportId) (data : Bytes) (proceeds : Kind.proceed ∈ down.kinds) :
    Moves held trafficking strict down owner rest rest world (Machine.tellData id data) := by
  rw [Machine.tellData_eq]
  exact after (tellProtocol id _) fun listener? _ _ => handTo id _ listener? proceeds

/-- Telling a protocol that the peer sends nothing more is a move, if there is someone below who goes
on. -/
theorem tellEnd (id : TransportId) (proceeds : Kind.proceed ∈ down.kinds) :
    Moves held trafficking strict down owner rest rest world (Machine.tellEnd id) := by
  rw [Machine.tellEnd_eq]
  exact after (tellProtocol id _) fun listener? _ _ => handTo id _ listener? proceeds

/-- Telling a protocol that the connection is lost is a move, if there is someone below who goes on. -/
theorem tellLost (id : TransportId) (error : Option Error) (proceeds : Kind.proceed ∈ down.kinds) :
    Moves held trafficking strict down owner rest rest world (Machine.tellLost id error) := by
  rw [Machine.tellLost_eq]
  exact after (Turn.dealing fun _ _ => World.Calm.takeProtocol id error) fun listener? _ _ =>
    handTo id _ listener? proceeds

/-! ## Reactions -/

/-- Reacting to a future that is done is a move, if there is someone below who goes on. -/
theorem react (future : FutureId) (reaction : Reaction) (proceeds : Kind.proceed ∈ down.kinds) :
    Moves held reaction.aspects strict down owner rest rest world (Machine.react future reaction) := by
  have ends {aspects : List Aspect} (reached : World) :
      Moves held aspects strict down owner rest rest reached (Machine.give .proceed) :=
    give rfl (Demand.single_le proceeds)
  cases reaction with
  | script name body =>
    refine get (after (Turn.calm fun _ _ => World.Calm.record _ _ _) fun _ _ _ => ?_)
    exact give rfl (Demand.single_le proceeds)
  | wake cell =>
    exact after (Turn.calm fun _ _ => World.Calm.wakeCell cell) fun _ reached _ => ends reached
  | stopLoop =>
    exact after (Turn.calm fun _ _ => Does.changeLoop (by decide) (.stopped world) trivial)
      fun _ reached _ => ends reached
  | pipeRead =>
    exact after (Turn.calm fun _ fresh => World.Calm.pipeRead fresh future)
      fun _ reached _ => ends reached
  | received transport =>
    refine after (Turn.dealing fun _ fresh => World.Calm.receiveEnded fresh transport future)
      fun arrival reached _ => ?_
    split
    · exact ends reached
    · exact tellData transport _ proceeds
    · exact tellEnd transport proceeds
  | sent transport =>
    exact after (Turn.dealing fun _ fresh => World.Calm.sendEnded fresh transport future)
      fun _ reached _ => ends reached
  | accepted server =>
    exact after (Turn.tending fun _ fresh => World.Calm.acceptEnded fresh server future)
      fun _ reached _ => ends reached

/-! ## Polls -/

/-- A poll of a task that is due takes the program out of the task. -/
theorem takeProgram (task : TaskId) (attentive : world.Attentive) :
    Performs held polling rest world (World.onLoop (·.beginPoll task)) fun given left reached =>
      left = (given.elim 0 fun activity => stakesOf activity.stations) + rest ∧
        ∀ activity, given = some activity → task < reached.loop.tasks.size ∧
          reached.loop.Ties task activity.stations := by
  refine Performs.change (by decide) Aspect.noConfusion Aspect.noConfusion
    (fun _ => .pollBegun world task) ?_ ⟨rfl, fun activity given => ?_⟩
  · change (world.loop.beginPoll task).1.elim 0 _ + rest +
      (world.loop.beginPoll task).2.stakes = _
    have programs := world.loop.activityOf_beginPoll task
    have size := world.loop.size_tasks_beginPoll task
    cases given : (world.loop.beginPoll task).1 with
    | none =>
      rw [Option.elim_none, zero_add]
      refine congrArg (rest + ·) (Loop.stakes_congr size (funext fun other => ?_))
      exact (programs other).trans (if_neg fun both => by simp [given] at both)
    | some activity =>
      have gone : (world.loop.beginPoll task).2.activityOf task = none :=
        (programs task).trans (if_pos ⟨rfl, Option.isSome_iff_exists.mpr ⟨activity, given⟩⟩)
      have others (other : TaskId) (differ : other ≠ task) :
          (world.loop.beginPoll task).2.activityOf other = world.loop.activityOf other :=
        (programs other).trans (if_neg fun both => differ both.1)
      have stakes := Loop.stakes_without size gone others
      rw [Loop.stakesAt_of_some (Loop.activityOf_of_beginPoll given)] at stakes
      rw [Option.elim_some, ← stakes, add_left_comm, add_assoc]
  · have holds := Loop.activityOf_of_beginPoll given
    have exists_ := Loop.lt_size_of_activityOf holds
    have grows := Loop.Grows.beginPoll world.loop task
    refine ⟨Nat.lt_of_lt_of_le exists_ grows.size_tasks, ?_⟩
    exact (attentive holds).keeps grows exists_ fun _ _ _ _ => (Loop.Carries.beginPoll task).toKeeps

/-- The poll of a task that is due begins. -/
theorem beginPoll (task : TaskId) (attentive : world.Attentive)
    (le : { kinds := [.proceed], looping := true } ≤ down) :
    Moves held polling strict down owner rest rest world (Machine.beginPoll task) := by
  have proceeds : Kind.proceed ∈ down.kinds := le.kinds List.mem_cons_self
  refine following (takeProgram task attentive) ?_
  rintro given _ taken ⟨rfl, program⟩
  cases given with
  | none =>
    rw [Option.elim_none, zero_add]
    exact give rfl (Demand.single_le proceeds)
  | some activity =>
    obtain ⟨exists_, ties⟩ := program activity rfl
    have moved (reached : World) (same : reached.loop = taken.loop) :
        Moved held strict down owner rest ([.poll task], .resume task activity)
          (stakesOf activity.stations + rest) reached := by
      rw [← same] at exists_ ties
      refine moved_resume ?_ exists_ ties exists_
        ⟨⟨List.Subset.refl _, fun _ => id, fun looping => nomatch looping⟩, le⟩
      exact List.append_nil _ ▸ List.Perm.refl _
    have recorded (who : String) : Performs held polling (stakesOf activity.stations + rest) taken
        (World.record who "poll" .null)
        fun _ left reached => left = stakesOf activity.stations + rest ∧
          reached.loop = taken.loop :=
      Performs.calmly (by decide) fun _ _ =>
        ⟨.single (by decide) (.surroundings taken _ _ _ _), rfl⟩
    refine get ?_
    split
    · refine read (waiterOf_same task taken) (following (recorded _) ?_)
      rintro _ _ reached ⟨rfl, same⟩
      exact pure (moved reached same)
    · exact pure (moved taken rfl)

/-! ## Running callbacks -/

/-- The time of a future is up. -/
theorem expire (future : FutureId) :
    Performs held expiring rest world (World.cancelAll [future]) (leaving rest) :=
  (Performs.deed (World.Primitives.cancelAll [future])
    (.expired _ world future (by decide))).leaves

/-- A callback that resolves a future which is known resolves no future of a queue. -/
theorem resolveKnown (future : FutureId)
    (known : (shelter held (placesOf (rest + world.loop.stakes)) world).known future) :
    Performs held moving rest world (World.grant [future]) (leaving rest) := by
  refine (Performs.calmly (by decide) fun _ => World.Calm.grant fun other member => ?_).leaves
  rw [List.mem_singleton.mp member]
  exact known

/-- Running a callback is a move, if there is someone below who goes on. -/
theorem runCallback (callback : Callback) (attentive : world.Attentive)
    (known : ∀ future ∈ callback.resolves?, world.loop.Knows
      (shelter held (placesOf (rest + world.loop.stakes)) world).known future)
    (le : { kinds := [.proceed], looping := true } ≤ down) :
    Moves held callback.aspects strict down owner rest rest world
      (Machine.runCallback callback) := by
  have proceeds : Kind.proceed ∈ down.kinds := le.kinds List.mem_cons_self
  have ends {aspects : List Aspect} (reached : World) :
      Moves held aspects strict down owner rest rest reached (Machine.give .proceed) :=
    give rfl (Demand.single_le proceeds)
  cases callback with
  | script actor body =>
    refine after (Turn.calm fun _ _ => World.Calm.record _ _ _) fun _ _ _ => ?_
    exact give rfl (Demand.single_le proceeds)
  | step task => exact beginPoll task attentive le
  | done future reaction => exact react future reaction proceeds
  | readPipe =>
    exact after (Turn.calm fun _ fresh => World.Calm.receiveFromPipe fresh)
      fun _ reached _ => ends reached
  | resolve future =>
    exact after (resolveKnown future (known future rfl).1) fun _ reached _ => ends reached
  | expire future => exact after (expire future) fun _ reached _ => ends reached
  | connectionMade transport => exact tellMade transport proceeds
  | startReading transport =>
    exact after (Turn.dealing fun _ fresh => World.Calm.advance fresh transport
      fun _ => Net.Transport.Yields.receiveNext) fun _ reached _ => ends reached
  | connectionLost transport error => exact tellLost transport error proceeds
  | startAccepting server =>
    exact after (Turn.tending fun _ fresh => World.Calm.acceptNext fresh server)
      fun _ reached _ => ends reached

end Moves

end EventLoop

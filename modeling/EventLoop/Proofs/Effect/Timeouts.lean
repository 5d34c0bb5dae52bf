import EventLoop.Proofs.Effect.Calm
import EventLoop.Proofs.Timeouts

/-!
# Changes and the timers of futures

A timer that has a name is no future's, so whoever cancels it does not take a timeout away. Every change
of an open loop apart from the gathering of callbacks leaves the timers of futures in order.
-/
namespace EventLoop.World

variable {scope : Scope} {aspect : Aspect} {aspects : List Aspect} {before middle after : World}
variable {past : FutureId → Prop}

/-- The timers of futures are in order, and the timers that have names are no future's. -/
def Timed (past : FutureId → Prop) (world : World) : Prop :=
  world.loop.Timed past fun id => ∃ name, ((.timer, name), id) ∈ world.names

/-- The timers of futures stay in order on the way to a world in which the loop is open. -/
structure Tracks (before after : World) : Prop where
  /-- The loop was open before. -/
  opened : after.loop.closed = false → before.loop.closed = false
  /-- The timers stay in order. -/
  timed : after.loop.closed = false → ∀ past, before.Timed past → after.Timed past
  /-- Futures have their timers until they are done. -/
  settles : after.loop.closed = false → before.loop.Settles after.loop

namespace Tracks

/-- The timers of futures stay in order when nothing happens to the world. -/
theorem refl (world : World) : world.Tracks world := ⟨id, fun _ _ timed => timed, fun _ => .of_eq rfl⟩

/-- The timers of futures stay in order through one change of the world after another. -/
theorem trans (one : before.Tracks middle) (other : middle.Tracks after) : before.Tracks after :=
  ⟨fun opened => one.opened (other.opened opened), fun opened past timed =>
    other.timed opened past (one.timed (other.opened opened) past timed),
    fun opened => (one.settles (other.opened opened)).trans (other.settles opened)⟩

/-- The names stay as they are, and the timers stay in order in the loop. -/
theorem ofLoop (names : after.names = before.names)
    (opens : after.loop.closed = false → before.loop.closed = false)
    (tracks : before.loop.closed = false → before.loop.Tracks after.loop) : before.Tracks after := by
  refine ⟨opens, fun opened past timed => ?_, fun opened => (tracks (opens opened)).settles⟩
  unfold World.Timed
  rw [names]
  exact (tracks (opens opened)).timed past _ timed

/-- When an iteration begins, only entries are removed whose timers were cancelled. -/
theorem prepare (world : World) (now : Nat) :
    world.Tracks { world with loop := (world.loop.prepare now).2 } :=
  .ofLoop rfl (Loop.Grows.prepare world.loop now).opened fun _ => .prepare world.loop now

end Tracks

/-- Names may be given to timers that are no future's. -/
theorem Timed.names (timed : before.Timed past) (opened : before.loop.closed = false)
    {names : List ((ObjectClass × String) × Nat)} (known : ∀ {name id}, ((.timer, name), id) ∈ names →
      ((.timer, name), id) ∈ before.names ∨ before.loop.Unbound id) :
    Timed past { before with names } := by
  refine { timed with spared := ?_ }
  rintro id ⟨name, member⟩
  rcases known member with old | closed | ⟨entry, waits, rfl, lasting⟩
  · exact Loop.Timed.spared timed ⟨name, old⟩
  · rw [opened] at closed
    cases closed
  · refine ⟨timed.sorted.lt_size waits, fun future has => ?_⟩
    by_cases gone : past future
    · exact timed.gone has gone entry waits rfl
    · obtain ⟨own, here, same, expires⟩ := timed.waits has gone
      obtain rfl := timed.sorted.eq_of_id here waits same
      rw [expires] at lasting
      cases lasting

/-- Every change apart from the gathering of callbacks leaves the timers of futures in order. -/
theorem Change.tracks (change : Change scope aspect before after) (apart : aspect ≠ .progress)
    (lasts : aspect ≠ .closing) : before.Tracks after := by
  have opens := change.grows.loop.opened
  cases change with
  | surroundings | held | devices | fitted | released | turned | retired | servers | primitives =>
    exact ⟨id, fun _ _ timed => timed, fun _ => .of_eq rfl⟩
  | dropped | woken | stopAsked | stopped | flags => exact .ofLoop rfl opens fun _ => .of_eq rfl rfl rfl rfl
  | names _ names known =>
    refine ⟨opens, fun opened past timed => ?_, fun _ => .of_eq rfl⟩
    exact timed.names opened fun member => (known member).imp_right fun both => both.2 rfl
  | made => exact .ofLoop rfl opens fun opened => .makeTimed opened _ _ _
  | resolved | granted | expired => exact .ofLoop rfl opens fun opened => .resolve opened _ _
  | registered | bound | enlisted => exact .ofLoop rfl opens fun _ => .whenDone _ _ _
  | awaited => exact .ofLoop rfl opens fun _ => .await _ _ _
  | taken _ id future _ found =>
    have holds := Future.holds_take future
    exact .ofLoop rfl opens fun _ => .modify found holds.timer (Or.inl holds)
  | emptied _ id future found | deserted _ id future found =>
    have holds := Future.holds_emptied future
    exact .ofLoop rfl opens fun _ => (Loop.Tracks.modify found holds.timer (Or.inl holds)).trans
      (.of_eq rfl rfl rfl rfl)
  | called _ callback _ _ _ _ _ lasting => exact .ofLoop rfl opens fun _ => .callSoon lasting
  | announced | summoned => exact .ofLoop rfl opens fun _ => .callSoon rfl
  | scheduled _ deadline callback _ _ _ _ _ lasting =>
    exact .ofLoop rfl opens fun opened => .callAt opened deadline lasting
  | disarmed _ timer named =>
    exact ⟨opens, fun _ _ timed => Loop.Timed.cancelTimer timed named, fun _ => .of_eq rfl⟩
  | asked _ callback _ _ _ _ _ lasting =>
    refine .ofLoop rfl opens fun _ => .of_timers rfl (.of_eq rfl) (fun _ => rfl) (Nat.le_refl _)
      (fun _ member => Or.inl member) fun other member => ?_
    refine (List.mem_append.mp member).imp_right fun new => ?_
    rw [List.mem_singleton.mp new]
    exact lasting
  | connected _ socket peer protocol reads =>
    rw [addTransport_eq] at opens ⊢
    have made : before.loop.Tracks (before.loop.callSoon (.connectionMade before.transports.size)) :=
      .callSoon rfl
    cases reads with
    | true => exact .ofLoop rfl opens fun _ => made.trans (.callSoon rfl)
    | false => exact .ofLoop rfl opens fun _ => made
  | spawned => exact .ofLoop rfl opens fun opened => .spawn opened _ _
  | pollBegun => exact .ofLoop rfl opens fun _ => .beginPoll _ _
  | pollEnded => exact .ofLoop rfl opens fun _ => .endPoll _ _ _
  | completed => exact .ofLoop rfl opens fun opened => .complete opened _ _
  | cancelled => exact .ofLoop rfl opens fun _ => .beginCancel _ _ _
  | abandoned => exact .ofLoop rfl opens fun _ => .of_eq rfl rfl rfl rfl
  | prepared | gathered => exact absurd rfl apart
  | readyTaken => exact .ofLoop rfl opens fun _ => .takeReady _
  | shut => exact ⟨opens, fun opened => (nomatch opened), fun opened => (nomatch opened)⟩
  | cleared => exact absurd rfl lasts

/-- So do changes of aspects that have nothing to do with it. -/
theorem Changes.tracks (changes : Changes scope aspects before after) (apart : .progress ∉ aspects)
    (lasts : .closing ∉ aspects) : before.Tracks after := by
  induction changes with
  | refl => exact .refl _
  | tail _ last ih =>
    obtain ⟨aspect, member, change⟩ := last
    refine ih.trans (change.tracks ?_ ?_)
    · rintro rfl
      exact apart member
    · rintro rfl
      exact lasts member

end EventLoop.World

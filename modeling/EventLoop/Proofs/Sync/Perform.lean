import EventLoop.Proofs.Effect.Devices
import EventLoop.Proofs.Sync.Deed

/-!
# Steps that are made of deeds

`Performs` says of a step that it is made of deeds: whoever makes it begins with something at stake and
has something at stake in the end. What others have at stake does not matter. A step that has nothing
to do with primitives leaves everyone's stakes alone.
-/
namespace EventLoop.World

variable {α β : Type} {held : List Ref} {aspects : List Aspect} {own : Multiset Stake} {world : World}

/-- One deed after another. -/
def Deeds (held : List Ref) (aspects : List Aspect) :
    Multiset Stake × World → Multiset Stake × World → Prop :=
  Relation.ReflTransGen fun before after => Deed held aspects before.1 before.2 after.1 after.2

namespace Deeds

variable {before after : Multiset Stake × World}

/-- Deeds leave what is at stake settled. -/
theorem settled (deeds : Deeds held aspects before after)
    (settled : Settled held before.1 before.2) : Settled held after.1 after.2 := by
  induction deeds with
  | refl => exact settled
  | tail _ last ih => exact last.settled ih

/-- Deeds are made of changes. -/
theorem changes {all : List Aspect} (deeds : Deeds held aspects before after)
    (settled : Settled held before.1 before.2) (more : aspects ⊆ all) (syncs : sync ⊆ all) :
    Changes (openTo held) all before.2 after.2 := by
  induction deeds with
  | refl => exact .refl
  | tail earlier last ih =>
    exact ih.trans (last.changes (Deeds.settled earlier settled).orderly more syncs)

/-- Nothing ceases to exist on the way through deeds. -/
theorem grows (deeds : Deeds held aspects before after) (settled : Settled held before.1 before.2) :
    before.2.Grows after.2 :=
  (deeds.changes settled (List.subset_append_left _ _) (List.subset_append_right _ _)).grows

/-- Deeds that change some aspects while some objects are held are deeds that change more aspects while
less is held. -/
theorem weaken {more : List Aspect} {less : List Ref} (fewer : aspects ⊆ more) (keeps : less ⊆ held)
    (deeds : Deeds held aspects before after) : Deeds less more before after := by
  exact Relation.ReflTransGen.mono (fun _ _ deed => deed.weaken fewer keeps) before after deeds

/-- Deeds that change some aspects are deeds that change more aspects. -/
theorem mono {more : List Aspect} (fewer : aspects ⊆ more) (deeds : Deeds held aspects before after) :
    Deeds held more before after :=
  deeds.weaken fewer (List.Subset.refl _)

end Deeds

/-- Changes that are neither ones of tasks nor ones of polls leave the stakes of tasks alone. -/
theorem Changes.stakes {scope : Scope} {before after : World}
    (changes : Changes scope aspects before after) (calm : Aspect.tasks ∉ aspects)
    (spares : Aspect.cancelling ∉ aspects) (lasting : Aspect.polls ∉ aspects) :
    after.loop.stakes = before.loop.stakes := by
  induction changes with
  | refl => rfl
  | tail _ last ih =>
    obtain ⟨aspect, member, change⟩ := last
    have tasks := change.activityOf (fun same => calm (same ▸ member))
      (fun same => spares (same ▸ member)) (fun same => lasting (same ▸ member))
    exact (Loop.stakes_congr tasks.1 tasks.2).trans ih

/-- The aspects that have nothing to do with primitives, timeouts and the programs of tasks. -/
def quiet : List Aspect :=
  .deserting :: .taking :: .closing :: .shutting :: .progress :: .runs :: .requests :: .serving :: dealing

/-- Changes that have nothing to do with primitives leave everyone's stakes alone. -/
theorem Changes.deeds {stakes : Multiset Stake} {world reached : World} {some : List Aspect}
    (changes : Changes (shelter held (placesOf stakes) world) some world reached)
    (settled : Settled held stakes world) (quietly : some ⊆ quiet)
    (member : some ⊆ aspects) : Deeds held aspects (stakes, world) (stakes, reached) ∧
      reached.loop.stakes = world.loop.stakes ∧ reached.queue = world.queue := by
  induction changes with
  | refl => exact ⟨.refl, rfl, rfl⟩
  | @tail middle last _ change ih =>
    obtain ⟨deeds, same, queues⟩ := ih
    obtain ⟨aspect, listed, change⟩ := change
    have quiet := quietly listed
    have still : aspect ≠ .primitives ∧ aspect ≠ .timeouts ∧ aspect ≠ .tasks ∧
        aspect ≠ .cancelling ∧ aspect ≠ .polls := by
      refine ⟨?_, ?_, ?_, ?_, ?_⟩
      all_goals
        rintro rfl
        exact absurd quiet (by decide)
    rw [← shelter_congr queues] at change
    have kept := (deeds.settled settled).orderly.changed change still.1 still.2.1
    have tasks := change.activityOf still.2.2.1 still.2.2.2.1 still.2.2.2.2
    refine ⟨deeds.tail ?_, (Loop.stakes_congr tasks.1 tasks.2).trans same, kept.2.trans queues⟩
    exact .changed stakes (member listed) still.1 still.2.1 change

/-- Whoever makes a step begins with something at stake and has something at stake in the end. -/
def Performs (held : List Ref) (aspects : List Aspect) (own : Multiset Stake) (world : World)
    (step : WorldM α) (after : α → Multiset Stake → World → Prop) : Prop :=
  Settled held (own + world.loop.stakes) world → ∃ left,
    Deeds held aspects (own + world.loop.stakes, world)
      (left + (step world).2.loop.stakes, (step world).2) ∧
    after (step world).1 left (step world).2

/-- The stakes are the given ones. -/
def leaving (left : Multiset Stake) : α → Multiset Stake → World → Prop :=
  fun _ stakes _ => stakes = left

namespace Performs

variable {step : WorldM α} {next : α → WorldM β} {after : α → Multiset Stake → World → Prop}

/-- A value is returned with the same at stake. -/
theorem pure {value : α} (holds : after value own world) :
    Performs held aspects own world (pure value) after := fun _ => ⟨own, .refl, holds⟩

/-- What holds afterwards may be weakened. -/
theorem weaken {weaker : α → Multiset Stake → World → Prop}
    (performs : Performs held aspects own world step after)
    (weakens : ∀ value left reached, after value left reached → weaker value left reached) :
    Performs held aspects own world step weaker := fun settled => by
  obtain ⟨left, deeds, holds⟩ := performs settled
  exact ⟨left, deeds, weakens _ _ _ holds⟩

/-- Only the stakes matter. -/
theorem leaves {left : Multiset Stake} {condition : α → World → Prop}
    (performs : Performs held aspects own world step fun value stakes reached =>
      stakes = left ∧ condition value reached) :
    Performs held aspects own world step (leaving left) :=
  performs.weaken fun _ _ _ holds => holds.1

/-- Besides, whatever else is true of the world that a step leads to may be used. -/
theorem also {fact : World → Prop} (performs : Performs held aspects own world step after)
    (holds : fact (step world).2) :
    Performs held aspects own world step fun value left reached =>
      after value left reached ∧ fact reached := fun settled => by
  obtain ⟨left, deeds, ends⟩ := performs settled
  exact ⟨left, deeds, ends, holds⟩

/-- What is performed by some aspects is performed by more. -/
theorem mono {more : List Aspect} (fewer : aspects ⊆ more)
    (performs : Performs held aspects own world step after) :
    Performs held more own world step after := fun settled => by
  obtain ⟨left, deeds, holds⟩ := performs settled
  exact ⟨left, deeds.mono fewer, holds⟩

/-- What is settled may be used to show what a step performs. -/
theorem assuming (performs : Settled held (own + world.loop.stakes) world →
    Performs held aspects own world step after) : Performs held aspects own world step after :=
  fun settled => performs settled settled

/-- One step after another. -/
theorem bind {middle : α → Multiset Stake → World → Prop} {after : β → Multiset Stake → World → Prop}
    (first : Performs held aspects own world step middle)
    (second : ∀ value left reached, middle value left reached →
      Performs held aspects left reached (next value) after) :
    Performs held aspects own world (step >>= next) after := fun settled => by
  obtain ⟨left, deeds, holds⟩ := first settled
  obtain ⟨rest, further, ends⟩ := second _ _ _ holds (deeds.settled settled)
  exact ⟨rest, deeds.trans further, ends⟩

/-- The state is read. -/
theorem get {next : World → WorldM α} (rest : Performs held aspects own world (next world) after) :
    Performs held aspects own world (get >>= next) after := rest

/-- Something is read. -/
theorem read {after : β → Multiset Stake → World → Prop} (same : (step world).2 = world)
    (rest : Performs held aspects own world (next (step world).1) after) :
    Performs held aspects own world (step >>= next) after := by
  have equal : (step >>= next) world = next (step world).1 world := by
    change next (step world).1 (step world).2 = _
    rw [same]
  unfold Performs at rest ⊢
  rw [equal]
  exact rest

/-- A step that has nothing to do with primitives leaves the stakes alone. -/
theorem quietly {some : List Aspect} {condition : α → World → Prop} (few : some ⊆ quiet)
    (member : some ⊆ aspects)
    (does : Settled held (own + world.loop.stakes) world →
      Does (shelter held (placesOf (own + world.loop.stakes)) world) world.loop.futures.size some world
        step condition) :
    Performs held aspects own world step fun value left reached =>
      left = own ∧ condition value reached := fun settled => by
  obtain ⟨changes, holds⟩ := Does.rebase (le_refl _) (does settled) settled.orderly.within
  obtain ⟨deeds, same, -⟩ := changes.deeds settled few member
  refine ⟨own, ?_, rfl, holds⟩
  rw [same]
  exact deeds

/-- A calm step leaves the stakes alone. -/
theorem calmly {condition : α → World → Prop} (member : calm ⊆ aspects)
    (does : Settled held (own + world.loop.stakes) world →
      Does (shelter held (placesOf (own + world.loop.stakes)) world) world.loop.futures.size calm world
        step condition) :
    Performs held aspects own world step fun value left reached =>
      left = own ∧ condition value reached :=
  quietly (by decide) member does

/-- One deed on a primitive, which leaves the programs with the tasks. -/
theorem deed {left : Multiset Stake} {condition : α → World → Prop}
    (does : Does (shelter held (placesOf (own + world.loop.stakes)) world) 0 sync world step condition)
    (deed : Deed held aspects (own + world.loop.stakes) world (left + world.loop.stakes)
      (step world).2) :
    Performs held aspects own world step fun value stakes reached =>
      stakes = left ∧ condition value reached := fun settled => by
  obtain ⟨changes, holds⟩ := does settled.orderly.within
  refine ⟨left, ?_, rfl, holds⟩
  rw [changes.stakes (by decide) (by decide) (by decide)]
  exact .single deed

/-- A deed that is no step of the world comes first. -/
theorem exchange {left : Multiset Stake}
    (deed : Deed held aspects (own + world.loop.stakes) world (left + world.loop.stakes) world)
    (performs : Performs held aspects left world step after) :
    Performs held aspects own world step after := fun settled => by
  obtain ⟨last, deeds, holds⟩ := performs (deed.settled settled)
  exact ⟨last, .head deed deeds, holds⟩

/-- What a step does besides may be said as well. -/
theorem besides {some : List Aspect} {condition : α → World → Prop}
    (performs : Performs held aspects own world step after)
    (does : Settled held (own + world.loop.stakes) world →
      Does (shelter held (placesOf (own + world.loop.stakes)) world) world.loop.futures.size some world
        step condition) :
    Performs held aspects own world step fun value left reached =>
      after value left reached ∧ condition value reached := fun settled => by
  obtain ⟨left, deeds, holds⟩ := performs settled
  refine ⟨left, deeds, holds, ?_⟩
  exact (Does.rebase (le_refl _) (does settled) settled.orderly.within).2

/-- One change, which may take a program from a task or give it one. -/
theorem change {aspect : Aspect} {left : Multiset Stake} (member : aspect ∈ aspects)
    (calm : aspect ≠ .primitives) (early : aspect ≠ .timeouts)
    (change : Settled held (own + world.loop.stakes) world →
      Change (shelter held (placesOf (own + world.loop.stakes)) world) aspect world (step world).2)
    (same : left + (step world).2.loop.stakes = own + world.loop.stakes)
    (holds : after (step world).1 left (step world).2) :
    Performs held aspects own world step after := fun settled => by
  refine ⟨left, ?_, holds⟩
  rw [same]
  exact .single (.changed _ member calm early (change settled))

/-- Nothing ceases to exist. -/
theorem growing (performs : Performs held aspects own world step after) :
    Performs held aspects own world step fun value left reached =>
      after value left reached ∧ world.Grows reached := fun settled => by
  obtain ⟨left, deeds, holds⟩ := performs settled
  exact ⟨left, deeds, holds, deeds.grows settled⟩

/-- A step for each element of a list, each of which takes its part of the stakes. -/
theorem forM {elements : List α} {action : α → WorldM PUnit} {part : α → Multiset Stake}
    (each : ∀ element ∈ elements, ∀ (rest : Multiset Stake) (world : World),
      Performs held aspects (part element + rest) world (action element) (leaving rest)) :
    Performs held aspects ((elements.map part).sum + own) world (elements.forM action)
      (leaving own) := by
  induction elements generalizing world with
  | nil =>
    rw [List.map_nil, List.sum_nil, zero_add]
    exact pure rfl
  | cons element rest ih =>
    rw [List.map_cons, List.sum_cons, add_assoc]
    refine bind (each element List.mem_cons_self _ world) ?_
    rintro _ _ reached rfl
    exact ih fun other member => each other (List.mem_cons_of_mem element member)

end Performs

/-- A step that begins with something at stake either is made of deeds or ends in taking a place, and it
is said what holds afterwards in either case. -/
def Ends (held : List Ref) (aspects : List Aspect) (own : Multiset Stake) (world : World)
    (step : WorldM α) (after parked : α → Multiset Stake → World → Prop) : Prop :=
  Settled held (own + world.loop.stakes) world → ∃ left,
    Deeds held aspects (own + world.loop.stakes, world)
      (left + (step world).2.loop.stakes, (step world).2) ∧
        after (step world).1 left (step world).2 ∨
    ∃ middle, Deeds held aspects (own + world.loop.stakes, world) middle ∧
      Parking middle.1 middle.2 (left + (step world).2.loop.stakes) (step world).2 ∧
        parked (step world).1 left (step world).2

/-- A step that is made of deeds takes no place. -/
theorem Performs.ends {step : WorldM α} {after parked : α → Multiset Stake → World → Prop}
    (performs : Performs held aspects own world step after) :
    Ends held aspects own world step after parked := fun settled => by
  obtain ⟨left, done⟩ := performs settled
  exact ⟨left, Or.inl done⟩

namespace Ends

variable {step : WorldM α} {next : α → WorldM β} {after parked : α → Multiset Stake → World → Prop}

/-- What holds of an end may be weakened. -/
theorem weaken {weaker other : α → Multiset Stake → World → Prop}
    (ends : Ends held aspects own world step after parked)
    (weakens : ∀ value left reached, after value left reached → weaker value left reached)
    (weakens' : ∀ value left reached, parked value left reached → other value left reached) :
    Ends held aspects own world step weaker other := fun settled => by
  obtain ⟨left, ⟨deeds, holds⟩ | ⟨middle, deeds, parking, holds⟩⟩ := ends settled
  · exact ⟨left, Or.inl ⟨deeds, weakens _ _ _ holds⟩⟩
  · exact ⟨left, Or.inr ⟨middle, deeds, parking, weakens' _ _ _ holds⟩⟩

/-- What ends by some aspects ends by more. -/
theorem mono {more : List Aspect} (fewer : aspects ⊆ more)
    (ends : Ends held aspects own world step after parked) :
    Ends held more own world step after parked := fun settled => by
  obtain ⟨left, ⟨deeds, holds⟩ | ⟨middle, deeds, parking, holds⟩⟩ := ends settled
  · exact ⟨left, Or.inl ⟨deeds.mono fewer, holds⟩⟩
  · exact ⟨left, Or.inr ⟨middle, deeds.mono fewer, parking, holds⟩⟩

/-- What is settled may be used to show how a step ends. -/
theorem assuming (ends : Settled held (own + world.loop.stakes) world →
    Ends held aspects own world step after parked) :
    Ends held aspects own world step after parked := fun settled => ends settled settled

/-- A step comes first that is made of deeds. -/
theorem following {middle : α → Multiset Stake → World → Prop}
    {after parked : β → Multiset Stake → World → Prop}
    (first : Performs held aspects own world step middle)
    (second : ∀ value left reached, middle value left reached →
      Ends held aspects left reached (next value) after parked) :
    Ends held aspects own world (step >>= next) after parked := fun settled => by
  obtain ⟨left, deeds, holds⟩ := first settled
  obtain ⟨last, ⟨further, ends⟩ | ⟨middle, further, parking, ends⟩⟩ :=
    second _ _ _ holds (deeds.settled settled)
  · exact ⟨last, Or.inl ⟨deeds.trans further, ends⟩⟩
  · exact ⟨last, Or.inr ⟨middle, deeds.trans further, parking, ends⟩⟩

/-- If a place was taken, nothing is done afterwards. -/
theorem bind {middle halted : α → Multiset Stake → World → Prop}
    {after parked : β → Multiset Stake → World → Prop}
    (first : Ends held aspects own world step middle halted)
    (second : ∀ value left reached, middle value left reached →
      Ends held aspects left reached (next value) after parked)
    (last : ∀ value left reached, halted value left reached →
      (next value reached).2 = reached ∧ parked (next value reached).1 left reached) :
    Ends held aspects own world (step >>= next) after parked := fun settled => by
  obtain ⟨left, ⟨deeds, holds⟩ | ⟨middle, deeds, parking, holds⟩⟩ := first settled
  · obtain ⟨final, ⟨further, ends⟩ | ⟨middle, further, parking, ends⟩⟩ :=
      second _ _ _ holds (deeds.settled settled)
    · exact ⟨final, Or.inl ⟨deeds.trans further, ends⟩⟩
    · exact ⟨final, Or.inr ⟨middle, deeds.trans further, parking, ends⟩⟩
  · obtain ⟨same, ends⟩ := last _ _ _ holds
    have reached : ((step >>= next) world).2 = (step world).2 := same
    refine ⟨left, Or.inr ⟨middle, deeds, ?_⟩⟩
    rw [reached]
    exact ⟨parking, ends⟩

/-- The state is read. -/
theorem get {next : World → WorldM α}
    (rest : Ends held aspects own world (next world) after parked) :
    Ends held aspects own world (get >>= next) after parked := rest

/-- Something is read. -/
theorem read {after parked : β → Multiset Stake → World → Prop} (same : (step world).2 = world)
    (rest : Ends held aspects own world (next (step world).1) after parked) :
    Ends held aspects own world (step >>= next) after parked := by
  have equal : (step >>= next) world = next (step world).1 world := by
    change next (step world).1 (step world).2 = _
    rw [same]
  unfold Ends at rest ⊢
  rw [equal]
  exact rest

/-- A deed that is no step of the world comes first. -/
theorem exchange {left : Multiset Stake}
    (deed : Deed held aspects (own + world.loop.stakes) world (left + world.loop.stakes) world)
    (ends : Ends held aspects left world step after parked) :
    Ends held aspects own world step after parked := fun settled => by
  obtain ⟨last, ⟨deeds, holds⟩ | ⟨middle, deeds, parking, holds⟩⟩ := ends (deed.settled settled)
  · exact ⟨last, Or.inl ⟨.head deed deeds, holds⟩⟩
  · exact ⟨last, Or.inr ⟨middle, .head deed deeds, parking, holds⟩⟩

/-- What a step does besides may be said as well. -/
theorem besides {some : List Aspect} {condition : α → World → Prop}
    (ends : Ends held aspects own world step after parked)
    (does : Settled held (own + world.loop.stakes) world →
      Does (shelter held (placesOf (own + world.loop.stakes)) world) world.loop.futures.size some world
        step condition) :
    Ends held aspects own world step
      (fun value left reached => after value left reached ∧ condition value reached)
      (fun value left reached => parked value left reached ∧ condition value reached) :=
  fun settled => by
  have besides := (Does.rebase (le_refl _) (does settled) settled.orderly.within).2
  obtain ⟨left, ⟨deeds, holds⟩ | ⟨middle, deeds, parking, holds⟩⟩ := ends settled
  · exact ⟨left, Or.inl ⟨deeds, holds, besides⟩⟩
  · exact ⟨left, Or.inr ⟨middle, deeds, parking, holds, besides⟩⟩

/-- Nothing ceases to exist. -/
theorem growing (ends : Ends held aspects own world step after parked) :
    Ends held aspects own world step
      (fun value left reached => after value left reached ∧ world.Grows reached)
      (fun value left reached => parked value left reached ∧ world.Grows reached) :=
  fun settled => by
  obtain ⟨left, ⟨deeds, holds⟩ | ⟨middle, deeds, parking, holds⟩⟩ := ends settled
  · exact ⟨left, Or.inl ⟨deeds, holds, deeds.grows settled⟩⟩
  · have changes := parking.changes (deeds.settled settled).orderly (List.Subset.refl _)
    exact ⟨left, Or.inr ⟨middle, deeds, parking, holds, (deeds.grows settled).trans changes.grows⟩⟩

end Ends

/-- A future that is made is known. -/
theorem Settled.fresh {stakes : Multiset Stake} (settled : Settled held stakes world) :
    (shelter held (placesOf stakes) world).Fresh world.loop.futures.size := by
  intro future beyond used
  exact Nat.not_lt_of_le beyond (settled.orderly.bound used)

end EventLoop.World

import EventLoop.Proofs.Effect.Change

/-!
# Steps of the world

`Does` says of a step of the world which aspects it changes and what holds afterwards. A step that is
made of others does what they do, one after another, so each step of the world gets a law here that
follows the way in which the step is written.
-/
namespace EventLoop

section Application

variable {σ α β : Type} (state : σ)

/-- Reading the state leaves it as it is. -/
theorem StateM.get_apply : (get : StateM σ σ) state = (state, state) := rfl

/-- What follows a step runs on what the step leaves. -/
theorem StateM.bind_apply (step : StateM σ α) (next : α → StateM σ β) :
    (step >>= next) state = next (step state).1 (step state).2 := rfl

end Application

namespace World

variable {α β : Type} {scope : Scope} {n : Nat} {aspects : List Aspect} {world : World}

/-- A transition of the loop leaves the rest of the world as it is. -/
theorem onLoop_apply (transition : Loop → α × Loop) (world : World) : onLoop transition world =
    ((transition world.loop).1, { world with loop := (transition world.loop).2 }) := rfl

/-- Changes of some aspects, one after another. -/
def Changes (scope : Scope) (aspects : List Aspect) : World → World → Prop :=
  Relation.ReflTransGen fun before after =>
    ∃ aspect, aspect ∈ aspects ∧ Change scope aspect before after

namespace Changes

/-- No change is made when nothing happens. -/
theorem refl : Changes scope aspects world world := Relation.ReflTransGen.refl

/-- One change is a way from one world to another. -/
theorem single {aspect : Aspect} {before after : World} (member : aspect ∈ aspects)
    (change : Change scope aspect before after) : Changes scope aspects before after :=
  Relation.ReflTransGen.single ⟨aspect, member, change⟩

/-- Changes may be made one after another. -/
theorem trans {first second third : World} (before : Changes scope aspects first second)
    (after : Changes scope aspects second third) : Changes scope aspects first third :=
  Relation.ReflTransGen.trans before after

/-- Changes of some aspects are changes of more aspects. -/
theorem mono {more : List Aspect} {before after : World} (fewer : aspects ⊆ more)
    (changes : Changes scope aspects before after) : Changes scope more before after := by
  refine Relation.ReflTransGen.mono ?_ before after changes
  rintro first second ⟨aspect, member, change⟩
  exact ⟨aspect, fewer member, change⟩

/-- What every change keeps is kept by changes. -/
theorem preserves {property : World → Prop}
    (kept : ∀ {aspect before after}, aspect ∈ aspects → Change scope aspect before after →
      property before → property after) {before after : World}
    (changes : Changes scope aspects before after) (holds : property before) : property after := by
  induction changes with
  | refl => exact holds
  | tail _ last ih =>
    obtain ⟨aspect, member, change⟩ := last
    exact kept member change ih

/-- Changes keep a world within bounds. -/
theorem within {before after : World} (changes : Changes scope aspects before after)
    (within : before.Within scope n) : after.Within scope n :=
  changes.preserves (fun _ change => change.within) within

/-- Nothing ceases to exist. -/
theorem grows {before after : World} (changes : Changes scope aspects before after) :
    before.Grows after := by
  induction changes with
  | refl => exact .refl _
  | tail _ last ih =>
    obtain ⟨aspect, -, change⟩ := last
    exact ih.trans change.grows

end Changes

/-- A step from a world within bounds makes changes of some aspects only, and then a condition
holds. -/
def Does (scope : Scope) (n : Nat) (aspects : List Aspect) (world : World) (step : WorldM α)
    (after : α → World → Prop) : Prop :=
  world.Within scope n →
    Changes scope aspects world (step world).2 ∧ after (step world).1 (step world).2

/-- No condition. -/
def anyhow : α → World → Prop := fun _ _ => True

namespace Does

variable {step : WorldM α} {next : α → WorldM β} {after : α → World → Prop}

/-- A value is returned without any change. -/
theorem pure {value : α} (holds : after value world) :
    Does scope n aspects world (pure value) after := fun _ => ⟨.refl, holds⟩

/-- What holds afterwards may be weakened. -/
theorem weaken {weaker : α → World → Prop} (does : Does scope n aspects world step after)
    (weakens : ∀ value reached, after value reached → weaker value reached) :
    Does scope n aspects world step weaker := fun within =>
  ⟨(does within).1, weakens _ _ (does within).2⟩

/-- Besides, whatever else is true of what a step leads to may be used. -/
theorem also {fact : α → World → Prop} (does : Does scope n aspects world step after)
    (holds : fact (step world).1 (step world).2) :
    Does scope n aspects world step fun value reached => after value reached ∧ fact value reached :=
  fun within => ⟨(does within).1, (does within).2, holds⟩

/-- Nothing is done. -/
theorem nothing {value : α} : Does scope n aspects world (Pure.pure value) anyhow :=
  pure trivial

/-- What holds afterwards may be forgotten. -/
theorem anyway (does : Does scope n aspects world step after) :
    Does scope n aspects world step anyhow :=
  does.weaken fun _ _ _ => trivial

/-- A step that changes some aspects changes some of more aspects. -/
theorem mono {more : List Aspect} (fewer : aspects ⊆ more)
    (does : Does scope n aspects world step after) : Does scope n more world step after :=
  fun within => ⟨(does within).1.mono fewer, (does within).2⟩

/-- The bounds may be used to show what a step does. -/
theorem assuming (does : world.Within scope n → Does scope n aspects world step after) :
    Does scope n aspects world step after := fun within => does within within

/-- A step within closer bounds. -/
theorem rebase {m : Nat} (closer : m ≤ world.loop.futures.size)
    (does : Does scope m aspects world step after) : Does scope n aspects world step after :=
  fun within => does { within with loop := { within.loop with base := closer } }

/-- One step after another. -/
theorem bind {middle : α → World → Prop} {after : β → World → Prop}
    (first : Does scope n aspects world step middle)
    (second : ∀ value reached, middle value reached →
      Does scope n aspects reached (next value) after) :
    Does scope n aspects world (step >>= next) after := fun within => by
  have begun := first within
  have ended := second _ _ begun.2 (begun.1.within within)
  exact ⟨begun.1.trans ended.1, ended.2⟩

/-- One step after another, where it is said what holds in between. -/
theorem through (middle : α → World → Prop) {after : β → World → Prop}
    (first : Does scope n aspects world step middle)
    (second : ∀ value reached, middle value reached →
      Does scope n aspects reached (next value) after) :
    Does scope n aspects world (step >>= next) after := bind first second

/-- One of two steps and then another one. -/
theorem choose {condition : Prop} [Decidable condition] {yes no : WorldM α}
    {middle : α → World → Prop} {after : β → World → Prop}
    (first : Does scope n aspects world (if condition then yes else no) middle)
    (second : ∀ value reached, middle value reached →
      Does scope n aspects reached (next value) after) :
    Does scope n aspects world (if condition then yes >>= next else no >>= next) after := by
  by_cases holds : condition
  · rw [if_pos holds] at first ⊢
    exact first.bind second
  · rw [if_neg holds] at first ⊢
    exact first.bind second

/-- A step that may be left out and then another one. -/
theorem optional {condition : Prop} [Decidable condition] {step : WorldM PUnit}
    {next : PUnit → WorldM β} {after : β → World → Prop}
    (first : condition → Does scope n aspects world step anyhow)
    (second : ∀ reached, Does scope n aspects reached (next ⟨⟩) after) :
    Does scope n aspects world (if condition then step >>= next else next ⟨⟩) after := by
  split
  · rename_i holds
    exact (first holds).bind fun _ reached _ => second reached
  · exact second world

/-- The state is read. -/
theorem get {next : World → WorldM α} (rest : Does scope n aspects world (next world) after) :
    Does scope n aspects world (get >>= next) after := rest

/-- One change is made. -/
theorem modify {aspect : Aspect} {change : World → World} {after : Unit → World → Prop}
    (member : aspect ∈ aspects) (changes : Change scope aspect world (change world))
    (holds : after () (change world)) : Does scope n aspects world (modify change) after :=
  fun _ => ⟨.single member changes, holds⟩

/-- Some changes are made. -/
theorem modifies {change : World → World} {after : Unit → World → Prop}
    (changes : Changes scope aspects world (change world)) (holds : after () (change world)) :
    Does scope n aspects world (MonadState.modifyGet fun world => ((), change world)) after :=
  fun _ => ⟨changes, holds⟩

/-- One change is made. -/
theorem set {aspect : Aspect} {reached : World} {after : PUnit → World → Prop}
    (member : aspect ∈ aspects) (changes : Change scope aspect world reached)
    (holds : after () reached) : Does scope n aspects world (set reached) after :=
  fun _ => ⟨.single member changes, holds⟩

/-- One transition of the loop is made. -/
theorem changeLoop {aspect : Aspect} {transition : Loop → Loop} {after : Unit → World → Prop}
    (member : aspect ∈ aspects)
    (changes : Change scope aspect world { world with loop := transition world.loop })
    (holds : after () { world with loop := transition world.loop }) :
    Does scope n aspects world (changeLoop transition) after :=
  fun _ => ⟨.single member changes, holds⟩

/-- One transition of the loop is made that has a result. -/
theorem onLoop {aspect : Aspect} {transition : Loop → α × Loop} {after : α → World → Prop}
    (member : aspect ∈ aspects)
    (changes : Change scope aspect world { world with loop := (transition world.loop).2 })
    (holds : after (transition world.loop).1 { world with loop := (transition world.loop).2 }) :
    Does scope n aspects world (onLoop transition) after :=
  fun _ => ⟨.single member changes, holds⟩

/-- A step for each element of a list. -/
theorem forM {elements : List α} {action : α → WorldM PUnit}
    (each : ∀ element ∈ elements, ∀ world, Does scope n aspects world (action element) anyhow) :
    Does scope n aspects world (elements.forM action) anyhow := by
  induction elements generalizing world with
  | nil => exact pure trivial
  | cons element rest ih =>
    refine bind (each element List.mem_cons_self world) fun _ reached _ => ih ?_
    exact fun other member => each other (List.mem_cons_of_mem element member)

end Does

end World

end EventLoop

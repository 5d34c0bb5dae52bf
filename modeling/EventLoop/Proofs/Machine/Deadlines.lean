import EventLoop.Proofs.Descriptors.Owners
import EventLoop.Proofs.Machine.Collection
import EventLoop.Proofs.Machine.Iterations

/-!
# Timers keep time

The annals of a run list the callbacks that it started and those that wait, each with the timer that it
came from, if any. A timer gets into them when an iteration that begins finds it due, and only once; those
that are collected together get in in the order of their turns. As callbacks are started in the order in
which they became ready, no timer is early, none is started twice, and none overtakes another one.
-/
namespace EventLoop

/-! ## Timers of the past -/

namespace Timers

variable {before after : Timers} {past : List TimerEntry}

/-- Some entries were collected: their timers exist and have no entry that waits or was collected
besides. -/
structure Past (past : List TimerEntry) (timers : Timers) : Prop where
  /-- Their timers exist. -/
  known : ∀ entry ∈ past, timers.table.get? entry.id ≠ none
  /-- Each timer was collected once, or it waits. -/
  once : ((past ++ timers.entries).map TimerEntry.id).Nodup

namespace Past

/-- Where nothing was collected, each timer has one entry at most. -/
theorem none (sorted : before.Sorted) : Past [] before := ⟨fun _ member => (nomatch member), sorted.nodup⟩

/-- Nothing that was collected comes back. -/
theorem abides (gone : Past past before) (abides : Abides before after) (sorted : after.Sorted) :
    Past past after := by
  refine ⟨fun entry member => ?_, ?_⟩
  · obtain ⟨timer, found⟩ := Option.ne_none_iff_exists'.mp (gone.known entry member)
    obtain ⟨later, found, -⟩ := abides.kept found
    rw [found]
    exact Option.some_ne_none later
  · have once := gone.once
    rw [List.map_append, List.nodup_append] at once ⊢
    refine ⟨once.1, sorted.nodup, fun id there other here same => ?_⟩
    obtain ⟨entry, member, rfl⟩ := List.mem_map.mp there
    obtain ⟨waiting, waits, rfl⟩ := List.mem_map.mp here
    rcases abides.old waiting waits with old | new
    · exact once.2.2 entry.id there waiting.id (List.mem_map_of_mem old) same
    · exact gone.known entry member (same ▸ new)

/-- What is due is collected and no longer waits. -/
theorem collected (gone : Past past before) (sorted : before.Sorted) {now : Nat}
    (taken : after = (before.takeDue now).2.2) : Past (past ++ before.due now) after := by
  have sublist : (before.due now).Sublist
      (before.entries.takeWhile fun entry => entry.deadline ≤ now) := List.filter_sublist
  rw [snd_takeDue] at taken
  subst taken
  refine ⟨fun entry member => ?_, ?_⟩
  · rcases List.mem_append.mp member with old | due
    · exact gone.known entry old
    · have waits := (List.takeWhile_sublist _).subset (sublist.subset due)
      obtain ⟨timer, found, -⟩ := sorted.known entry waits
      change before.table.get? entry.id ≠ Option.none
      rw [found]
      exact Option.some_ne_none timer
  · have parted : before.entries.takeWhile (fun entry => entry.deadline ≤ now) ++
        before.entries.dropWhile (fun entry => entry.deadline ≤ now) = before.entries :=
      List.takeWhile_append_dropWhile
    have once := gone.once
    rw [← parted] at once
    refine once.sublist (List.Sublist.map _ ?_)
    rw [List.append_assoc]
    exact (List.Sublist.refl past).append (sublist.append (List.Sublist.refl _))

end Past

/-- What is due at a time is due by then and was not cancelled, and it is all of that. -/
theorem Sorted.mem_due (sorted : before.Sorted) {now : Nat} {entry : TimerEntry} :
    entry ∈ before.due now ↔
      entry ∈ before.entries ∧ before.isCancelled entry.id = false ∧ entry.deadline ≤ now := by
  rw [sorted.due_eq, List.mem_filter, Bool.and_eq_true, Bool.not_eq_true', decide_eq_true_iff]

/-- What is due is in the order of turns. -/
theorem Sorted.order_due (sorted : before.Sorted) (now : Nat) :
    (before.due now).Pairwise fun first second => precedes first second = true :=
  sorted.order.sublist (List.filter_sublist.trans (List.takeWhile_sublist _))

/-- Of two entries in the order of turns, the one whose turn comes before the other's is listed first. -/
theorem sublist_of_precedes {entries : List TimerEntry} {first second : TimerEntry}
    (order : entries.Pairwise fun first second => precedes first second = true)
    (here : first ∈ entries) (there : second ∈ entries) (before : precedes first second = true) :
    [first, second].Sublist entries := by
  have asymm (other : precedes second first = true) : False := by
    have itself := precedes_trans before other
    rw [not_precedes_self] at itself
    cases itself
  obtain ⟨front, back, rfl⟩ := List.append_of_mem here
  obtain ⟨-, tail, across⟩ := List.pairwise_append.mp order
  rcases List.mem_append.mp there with earlier | later
  · exact (asymm (across second earlier first List.mem_cons_self)).elim
  · rcases List.mem_cons.mp later with rfl | behind
    · exact (asymm before).elim
    · exact ((List.singleton_sublist.mpr behind).cons_cons first).trans (List.sublist_append_right _ _)

end Timers

namespace Loop

/-- When callbacks were gathered, the timers that are due were taken. -/
theorem timers_gather (loop : Loop) (now : Nat) :
    (loop.gather now).2.timers = (loop.timers.takeDue now).2.2 := by
  unfold gather
  rw [collectRequests_eq]
  exact (waits_foldl_scheduleLive (loop.collectDue now).woken _).2.2

/-- When callbacks are gathered, those of the timers that are due follow those that were ready. -/
theorem ready_gather {loop : Loop} (opened : loop.closed = false) (now : Nat) :
    loop.ready ++ (loop.timers.due now).map TimerEntry.callback <+: (loop.gather now).2.ready := by
  have still : (loop.collectDue now).closed = false := opened
  obtain ⟨ids, collected, -⟩ := roused_collectRequests still
  rw [← ready_collectDue]
  change _ <+: (loop.collectDue now).collectRequests.ready
  rw [collected.ready, List.append_assoc]
  exact List.prefix_append _ _

end Loop

/-! ## Annals -/

/-- A callback that became ready, with the entry of the timer that it came from. -/
structure Origin where
  /-- The callback. -/
  callback : Callback
  /-- The entry, if it came from a timer. -/
  entry : Option TimerEntry

namespace Origin

/-- A callback that came from no timer. -/
def plain (callback : Callback) : Origin := ⟨callback, none⟩

/-- The callback of a timer. -/
def timed (entry : TimerEntry) : Origin := ⟨entry.callback, some entry⟩

/-- Callbacks that no timer asked for are those callbacks. -/
theorem callbacks_plain (callbacks : List Callback) : (callbacks.map plain).map callback = callbacks := by
  rw [List.map_map]
  exact List.map_id callbacks

/-- Callbacks that no timer asked for come from no entry. -/
theorem entries_plain (callbacks : List Callback) : (callbacks.map plain).filterMap entry = [] := by
  rw [List.filterMap_map]
  exact List.filterMap_eq_nil_iff.mpr fun _ _ => rfl

/-- Callbacks of timers are those of their entries. -/
theorem callbacks_timed (entries : List TimerEntry) :
    (entries.map timed).map callback = entries.map TimerEntry.callback := by
  rw [List.map_map]
  rfl

/-- Callbacks of timers come from their entries. -/
theorem entries_timed (entries : List TimerEntry) : (entries.map timed).filterMap entry = entries := by
  rw [List.filterMap_map]
  exact List.filterMap_some

end Origin

namespace Machine

open World (openTo)

variable {machine after : Machine} {point : World}

/-- Time does not run backwards. -/
theorem Reachable.now (reachable : machine.Reachable) (step : Step machine after) :
    machine.world.host.kernel.now ≤ after.world.host.kernel.now := by
  obtain ⟨closings, deals⟩ := step.deals
  have passed := (balanced_outset (Reachable.balanced reachable)).now deals
  have same : machine.outset.host.kernel.now = machine.world.host.kernel.now := by rw [outset_eq]
  exact same ▸ passed

namespace Collects

/-- Up to the point an entry stays unless its timer is cancelled. -/
theorem bides (collects : Collects machine after point) :
    machine.world.loop.timers.Bides point.loop.timers := .of_steps collects.ages.steps

/-- At the point, the entries are in the order of their turns. -/
theorem sorted (collects : Collects machine after point) (reachable : machine.Reachable) :
    point.loop.timers.Sorted := (timers_sorted reachable).steps collects.ages.steps

/-- The loop was open up to the point if it is open afterwards. -/
theorem opened (collects : Collects machine after point) (opened : after.IsOpen) :
    point.loop.closed = false := by
  have change : World.Change (openTo []) .progress point after.world :=
    collects.gathered ▸ .gathered point point.host.kernel.now
  exact change.opened opened

/-- The timers that are due are taken. -/
theorem timers (collects : Collects machine after point) :
    after.world.loop.timers = (point.loop.timers.takeDue point.host.kernel.now).2.2 := by
  rw [collects.gathered]
  exact point.loop.timers_gather point.host.kernel.now

/-- No timer is cancelled after the point. -/
theorem isCancelled (collects : Collects machine after point) (id : TimerId) :
    after.world.loop.timers.isCancelled id = point.loop.timers.isCancelled id := by
  rw [collects.timers, Timers.snd_takeDue]
  rfl

/-- The entries that are not due stay. -/
theorem stays (collects : Collects machine after point) {entry : TimerEntry}
    (waits : entry ∈ point.loop.timers.entries) (late : ¬ entry.deadline ≤ point.host.kernel.now) :
    entry ∈ after.world.loop.timers.entries := by
  rw [collects.timers, Timers.snd_takeDue]
  have parted : point.loop.timers.entries.takeWhile
        (fun entry => entry.deadline ≤ point.host.kernel.now) ++ point.loop.timers.entries.dropWhile
          (fun entry => entry.deadline ≤ point.host.kernel.now) = point.loop.timers.entries :=
    List.takeWhile_append_dropWhile
  rw [← parted, List.mem_append] at waits
  refine waits.resolve_left fun due => ?_
  exact late (decide_eq_true_iff.mp (List.all_eq_true.mp List.all_takeWhile entry due))

/-- What is ready: what was ready before, what became ready up to the point, the callbacks of the timers
that are due, and what was asked for or woken. -/
theorem ready_eq (collects : Collects machine after point) (opened : after.IsOpen) :
    ∃ early late, point.loop.ready = machine.world.loop.ready ++ early ∧
      after.world.loop.ready = machine.world.loop.ready ++ early ++
        (point.loop.timers.due point.host.kernel.now).map TimerEntry.callback ++ late := by
  obtain ⟨early, before⟩ := collects.ready
  obtain ⟨late, behind⟩ := Loop.ready_gather (collects.opened opened) point.host.kernel.now
  refine ⟨early, late, before.symm, ?_⟩
  rw [collects.gathered, before]
  exact behind.symm

end Collects

/-- The callbacks that a step makes ready, with the timers that they came from. -/
inductive Readies (before after : Machine) : List Origin → Prop
  /-- An iteration collects the timers that are due. -/
  | collected {point : World} (collects : Collects before after point) :
      Readies before after ((point.loop.ready.drop before.world.loop.ready.length).map Origin.plain ++
        (point.loop.timers.due point.host.kernel.now).map Origin.timed ++
          (after.world.loop.ready.drop (point.loop.ready.length +
            (point.loop.timers.due point.host.kernel.now).length)).map Origin.plain)
  /-- No timers are collected. -/
  | otherwise (apart : ∀ point, ¬ Collects before after point) :
      Readies before after ((before.newlyReady after).map Origin.plain)

namespace Readies

variable {new : List Origin}

/-- Something is made ready, be it nothing. -/
theorem total (machine after : Machine) : ∃ new, Readies machine after new := by
  by_cases collects : ∃ point, Collects machine after point
  · obtain ⟨point, collects⟩ := collects
    exact ⟨_, .collected collects⟩
  · exact ⟨_, .otherwise fun point here => collects ⟨point, here⟩⟩

/-- These are the callbacks that became ready. -/
theorem callbacks (readies : Readies machine after new) (opened : after.IsOpen) :
    new.map Origin.callback = machine.newlyReady after := by
  cases readies with
  | otherwise => exact Origin.callbacks_plain _
  | @collected point collects =>
    obtain ⟨early, late, before, behind⟩ := collects.ready_eq opened
    have first : point.loop.ready.drop machine.world.loop.ready.length = early := by
      rw [before, List.drop_left]
    have last : after.world.loop.ready.drop (point.loop.ready.length +
        (point.loop.timers.due point.host.kernel.now).length) = late := by
      rw [behind]
      exact List.drop_left' (by simp [before, Nat.add_assoc])
    rw [List.map_append, List.map_append, Origin.callbacks_plain, Origin.callbacks_plain,
      Origin.callbacks_timed, first, last, newlyReady, behind, List.append_assoc, List.append_assoc,
      List.append_assoc, List.drop_left]

/-- They belong to the timers that they came from. -/
theorem own (readies : Readies machine after new) : ∀ origin ∈ new, ∀ entry,
    origin.entry = some entry → origin.callback = entry.callback := by
  have plain {callbacks : List Callback} {origin : Origin} (member : origin ∈ callbacks.map Origin.plain)
      {entry : TimerEntry} (timed : origin.entry = some entry) : False := by
    obtain ⟨callback, -, rfl⟩ := List.mem_map.mp member
    cases timed
  intro origin member entry timed
  cases readies with
  | otherwise => exact (plain member timed).elim
  | collected =>
    rcases List.mem_append.mp member with front | last
    · rcases List.mem_append.mp front with first | due
      · exact (plain first timed).elim
      · obtain ⟨other, -, rfl⟩ := List.mem_map.mp due
        cases timed
        rfl
    · exact (plain last timed).elim

/-- The timers are those that an iteration collects. -/
theorem entries (readies : Readies machine after new) :
    (∀ point, ¬ Collects machine after point) ∧ new.filterMap Origin.entry = [] ∨
      ∃ point, Collects machine after point ∧
        new.filterMap Origin.entry = point.loop.timers.due point.host.kernel.now := by
  cases readies with
  | otherwise apart => exact Or.inl ⟨apart, Origin.entries_plain _⟩
  | @collected point collects =>
    refine Or.inr ⟨point, collects, ?_⟩
    rw [List.filterMap_append, List.filterMap_append, Origin.entries_plain, Origin.entries_plain,
      Origin.entries_timed, List.nil_append, List.append_nil]

end Readies

/-- A state of a run, with the callbacks that the run has started and those that wait, each in its
order. -/
structure Annals where
  /-- The state. -/
  machine : Machine
  /-- The callbacks that were started. -/
  started : List Origin
  /-- The callbacks that are ready. -/
  waiting : List Origin

namespace Annals

/-- One step is written down. -/
inductive Next : Annals → Annals → Prop
  /-- Callbacks become ready. -/
  | readied {annals : Annals} {after : Machine} {new : List Origin} (step : Step annals.machine after)
      (fine : after.IsOpen) (idle : after.hand = none) (readies : Readies annals.machine after new) :
      Next annals ⟨after, annals.started, annals.waiting ++ new⟩
  /-- The first callback is started. -/
  | begun {machine after : Machine} {started waiting : List Origin} {first : Origin} {callback : Callback}
      (step : Step machine after) (fine : after.IsOpen) (hand : after.hand = some callback) :
      Next ⟨machine, started, first :: waiting⟩ ⟨after, started ++ [first], waiting⟩

/-- The annals of a run on an open loop. -/
inductive Kept : Annals → Prop
  /-- A loop was just built. -/
  | initial {start : Machine} (initial : Initial start) (fine : start.IsOpen) :
      Kept ⟨start, [], start.world.loop.ready.map Origin.plain⟩
  /-- One step more. -/
  | next {annals later : Annals} (kept : Kept annals) (next : Next annals later) : Kept later

/-- The annals of a run that goes on. -/
def Onward : Annals → Annals → Prop := Relation.ReflTransGen Next

/-- All callbacks that became ready. -/
def origins (annals : Annals) : List Origin := annals.started ++ annals.waiting

/-- The timers that were collected, in order. -/
def collected (annals : Annals) : List TimerEntry := annals.origins.filterMap Origin.entry

/-- The timers whose callbacks were started, in order. -/
def fired (annals : Annals) : List TimerEntry := annals.started.filterMap Origin.entry

variable {annals later : Annals}

/-- Annals that are kept are kept further on. -/
theorem Kept.onward (kept : annals.Kept) (onward : annals.Onward later) : later.Kept := by
  induction onward with
  | refl => exact kept
  | tail _ last ih => exact .next ih last

/-- One step of the run is written down. -/
theorem Next.step (next : annals.Next later) :
    Step annals.machine later.machine ∧ later.machine.IsOpen := by
  cases next with
  | readied step fine | begun step fine => exact ⟨step, fine⟩

/-- Annals that are kept end with a state that a run visits. -/
theorem Kept.visits (kept : annals.Kept) : Visits IsOpen annals.machine := by
  induction kept with
  | initial initial fine => exact .initial initial fine
  | next _ next ih => exact .step ih next.step.1 next.step.2

/-- What the annals write down next is a step of the stages. -/
theorem Kept.goes (kept : annals.Kept) (next : annals.Next later) : Goes annals.machine later.machine :=
  kept.visits.goes (fun _ => id) next.step.1 next.step.2

/-- What is written down stays so, and started callbacks were written down before. -/
theorem Next.grows (next : annals.Next later) :
    annals.origins <+: later.origins ∧ annals.started <+: later.started := by
  unfold origins
  cases next with
  | readied =>
    refine ⟨?_, List.prefix_refl _⟩
    rw [← List.append_assoc]
    exact List.prefix_append _ _
  | begun =>
    refine ⟨?_, List.prefix_append _ _⟩
    rw [List.append_assoc]
    exact List.prefix_refl _

/-- Annals only grow. -/
theorem Onward.grows (onward : annals.Onward later) :
    annals.origins <+: later.origins ∧ annals.started <+: later.started := by
  induction onward with
  | refl => exact ⟨List.prefix_refl _, List.prefix_refl _⟩
  | tail _ last ih => exact ⟨ih.1.trans last.grows.1, ih.2.trans last.grows.2⟩

/-- A step collects the timers that are due, at one point, or none. -/
theorem Kept.turn (kept : annals.Kept) (next : annals.Next later) :
    annals.machine.world.loop.timers.Bides later.machine.world.loop.timers ∧
        later.collected = annals.collected ∨
      ∃ point, Collects annals.machine later.machine point ∧
        later.collected = annals.collected ++ point.loop.timers.due point.host.kernel.now := by
  have once := (kept.visits.reachable.sound.collectsOnce next.step.1 next.step.2
    (kept.visits.minds fun _ => id)).imp (fun waits => Timers.Bides.of_steps waits.ages.steps)
      fun ⟨point, collects, _⟩ => (⟨point, collects⟩ : ∃ point, Collects annals.machine later.machine point)
  cases next with
  | @readied _ _ new step fine idle readies =>
    have collected : (annals.started ++ (annals.waiting ++ new)).filterMap Origin.entry =
        annals.collected ++ new.filterMap Origin.entry := by
      rw [← List.append_assoc, List.filterMap_append]
      rfl
    rcases readies.entries with ⟨apart, none⟩ | ⟨point, collects, due⟩
    · refine Or.inl ⟨once.resolve_right fun ⟨point, collects⟩ => apart point collects, ?_⟩
      rw [none, List.append_nil] at collected
      exact collected
    · exact Or.inr ⟨point, collects, due ▸ collected⟩
  | @begun machine after started waiting first callback step fine hand =>
    refine Or.inl ⟨once.resolve_right fun ⟨point, collects⟩ => ?_, ?_⟩
    · cases (kept.visits.goes (fun _ => id) step fine).queues with
      | appends new ready idle =>
        rw [hand] at idle
        cases idle
      | takes callback ready =>
        obtain ⟨early, late, -, more⟩ := collects.ready_eq fine
        have longer := congrArg List.length more
        rw [ready] at longer
        simp only [List.length_append, List.length_cons] at longer
        omega
    · unfold collected origins
      rw [List.append_assoc]
      rfl

/-- The annals tell what happened: what waits is ready, a callback belongs to the timer that it came from,
and each timer that was collected was due and was collected once. -/
structure Faithful (annals : Annals) : Prop where
  /-- What waits is ready. -/
  ready : annals.waiting.map Origin.callback = annals.machine.world.loop.ready
  /-- A callback belongs to the timer that it came from. -/
  own : ∀ origin ∈ annals.origins, ∀ entry, origin.entry = some entry →
    origin.callback = entry.callback
  /-- A timer that was collected was due. -/
  punctual : ∀ entry ∈ annals.collected, entry.deadline ≤ annals.machine.world.host.kernel.now
  /-- It was collected once. -/
  past : annals.machine.world.loop.timers.Past annals.collected

/-- Steps are written down faithfully. -/
theorem Faithful.next (faithful : annals.Faithful) (kept : annals.Kept) (next : annals.Next later) :
    later.Faithful := by
  have sorted := timers_sorted (Kept.next kept next).visits.reachable
  have now := Reachable.now kept.visits.reachable next.step.1
  have turn := kept.turn next
  have queues := (kept.goes next).queues
  have ready := faithful.ready
  refine ⟨?_, ?_, ?_, ?_⟩
  · cases next with
    | readied step fine idle readies =>
      rw [List.map_append, ready, readies.callbacks fine, newlyReady]
      cases queues with
      | appends new appended => rw [appended, List.drop_left]
      | takes callback taken hand =>
        rw [idle] at hand
        cases hand
    | begun step fine hand =>
      cases queues with
      | appends new appended idle =>
        rw [hand] at idle
        cases idle
      | takes callback taken =>
        rw [taken] at ready
        exact (List.cons.inj ready).2
  · intro origin member
    unfold origins at member
    cases next with
    | readied step fine idle readies =>
      rw [← List.append_assoc, List.mem_append] at member
      exact member.elim (faithful.own origin) (readies.own origin)
    | begun =>
      rw [List.append_assoc] at member
      exact faithful.own origin member
  · intro entry member
    rcases turn with ⟨-, same⟩ | ⟨point, collects, more⟩
    · exact Nat.le_trans (faithful.punctual entry (same ▸ member)) now
    · rw [more] at member
      rcases List.mem_append.mp member with old | due
      · exact Nat.le_trans (faithful.punctual entry old) now
      · rw [collects.gathered]
        exact ((collects.sorted kept.visits.reachable).mem_due.mp due).2.2
  · rcases turn with ⟨bides, same⟩ | ⟨point, collects, more⟩
    · rw [same]
      exact faithful.past.abides bides.toAbides sorted
    · rw [more]
      have before := collects.sorted kept.visits.reachable
      exact (faithful.past.abides collects.bides.toAbides before).collected before collects.timers

/-- All annals are faithful. -/
theorem Kept.faithful (kept : annals.Kept) : annals.Faithful := by
  induction kept with
  | @initial start initial fine =>
    have none : (⟨start, [], start.world.loop.ready.map Origin.plain⟩ : Annals).collected = [] :=
      Origin.entries_plain _
    refine ⟨Origin.callbacks_plain _, fun origin member entry timed => ?_, ?_, ?_⟩
    · obtain ⟨callback, -, rfl⟩ := List.mem_map.mp member
      cases timed
    · rw [none]
      exact fun _ member => nomatch member
    · rw [none]
      exact .none (timers_sorted (.initial initial trivial))
  | next kept next ih => exact ih.next kept next

/-- Each step of a run on an open loop can be written down. -/
theorem Kept.exists_next (kept : annals.Kept) (step : Step annals.machine after) (fine : after.IsOpen) :
    ∃ later, annals.Next later ∧ later.machine = after := by
  cases (kept.visits.goes (fun _ => id) step fine).queues with
  | appends _ _ idle =>
    obtain ⟨new, readies⟩ := Readies.total annals.machine after
    exact ⟨_, .readied step fine idle readies, rfl⟩
  | takes callback taken hand =>
    have ready := kept.faithful.ready
    obtain ⟨machine, started, waiting⟩ := annals
    rw [taken] at ready
    cases waiting with
    | nil => cases ready
    | cons first waiting => exact ⟨_, .begun step fine hand, rfl⟩

/-- A timer that is not cancelled waits until it is collected. -/
theorem Kept.waits (kept : annals.Kept) (next : annals.Next later) {entry : TimerEntry}
    (waits : entry ∈ annals.machine.world.loop.timers.entries)
    (live : later.machine.world.loop.timers.isCancelled entry.id = false) :
    entry ∈ later.machine.world.loop.timers.entries ∨ entry ∈ later.collected := by
  rcases kept.turn next with ⟨bides, -⟩ | ⟨point, collects, more⟩
  · exact Or.inl (bides.stays entry waits live)
  · rw [collects.isCancelled] at live
    have here := collects.bides.stays entry waits live
    by_cases due : entry.deadline ≤ point.host.kernel.now
    · refine Or.inr (more ▸ List.mem_append_right _ ?_)
      exact (collects.sorted kept.visits.reachable).mem_due.mpr ⟨here, live, due⟩
    · exact Or.inl (collects.stays here due)

/-- A timer that was collected does not wait. -/
theorem Faithful.not_mem (faithful : annals.Faithful) {entry : TimerEntry}
    (collected : entry ∈ annals.collected) :
    entry ∉ annals.machine.world.loop.timers.entries := by
  intro waits
  have once := faithful.past.once
  rw [List.map_append, List.nodup_append] at once
  exact once.2.2 entry.id (List.mem_map_of_mem collected) entry.id (List.mem_map_of_mem waits) rfl

end Annals

/-- An iteration begins: it is to take all callbacks that are ready. -/
def BeginsIteration (machine after : Machine) : Prop :=
  after.stages = .iteration after.world.loop.ready.length :: machine.stages

/-- When an iteration has begun, no timer is due any more. -/
theorem Goes.lt_deadline (goes : Goes machine after) (begins : BeginsIteration machine after)
    (sorted : after.world.loop.timers.Sorted) :
    ∀ entry ∈ after.world.loop.timers.entries, after.world.host.kernel.now < entry.deadline := by
  have longer : after.stages.length = machine.stages.length + 1 := congrArg List.length begins
  cases goes with
  | counting proceeds uncalled quiet earlier gathered =>
    obtain ⟨-, -, timers⟩ := earlier.loop.waits_gather earlier.host.kernel.now
    rw [gathered] at sorted ⊢
    exact sorted.lt_deadline timers
  | polling task activity called quiet queued loop stages =>
    cases stages.symm.trans begins
  | steady proceeds stale quiet stages | deserting future uncalled quiet deserts refs loop stages =>
    rw [stages] at longer
    omega
  | taking left callback rest lower uncalled called ready loop before stages =>
    rw [before, stages] at longer
    simp only [List.length_cons] at longer
    omega
  | finishing left uncalled ended exhausted loop stages
  | ending task value uncalled ended quiet loop stages
  | suspending task activity uncalled quiet running loop stages
  | abandoning task uncalled quiet refused proceeds stages =>
    rw [stages, List.length_cons] at longer
    omega

/-- An iteration that has begun is under way, or as many callbacks were started since as were ready when
it began. -/
theorem Traces.lasts_or {sort : Machine → Prop} {first last : Machine} {lower : List Frame}
    {appended started : List Callback} (traces : Traces sort first appended started last)
    (visits : Visits sort first) (opens : ∀ state, sort state → state.world.loop.closed = false)
    (stages : first.stages = .iteration first.world.loop.ready.length :: lower) :
    Lasts False lower first.world.loop.ready.length started.length last ∨
      first.world.loop.ready.length ≤ started.length := by
  induction traces with
  | refl => exact Or.inl (lasts_counting False stages)
  | @step appended started before after earlier step fine ih =>
    rw [List.length_append]
    rcases ih with lasts | enough
    · have goes := (visits.onward earlier.onward).goes opens step fine
      rcases lasts.step goes (fun asked => asked.elim) with lasts | ⟨-, ends⟩
      · exact Or.inl lasts
      · have all := (ends.starts (earlier.order visits opens)).1.length_le
        exact Or.inr (Nat.le_trans all (Nat.le_add_right _ _))
    · exact Or.inr (Nat.le_trans enough (Nat.le_add_right _ _))

namespace Annals

variable {annals later next : Annals}

/-- The annals count the callbacks that are started. -/
theorem Onward.traces (onward : annals.Onward later) :
    ∃ appended started, Traces IsOpen annals.machine appended started later.machine ∧
      later.started.length = annals.started.length + started.length := by
  induction onward with
  | refl => exact ⟨[], [], .refl, rfl⟩
  | tail _ last ih =>
    obtain ⟨appended, started, traces, count⟩ := ih
    have further := traces.step last.step.1 last.step.2
    refine ⟨_, _, further, ?_⟩
    rw [List.length_append, ← Nat.add_assoc, ← count]
    cases last with
    | readied step fine idle =>
      rw [idle]
      rfl
    | begun step fine hand =>
      rw [hand, List.length_append]
      rfl

/-- When an iteration is over, the timers that were collected before were started. -/
theorem Kept.fires (kept : annals.Kept) (begun : annals.Next next)
    (begins : BeginsIteration annals.machine next.machine) (onward : next.Onward later) :
    (∃ upper left, later.machine.stages = upper ++ .iteration left :: annals.machine.stages) ∨
      next.collected ⊆ later.fired := by
  have after := Kept.next kept begun
  obtain ⟨appended, started, traces, count⟩ := onward.traces
  refine (traces.lasts_or after.visits (fun _ => id) begins).imp (fun lasts => ?_) fun enough => ?_
  · obtain ⟨upper, left, stages, -⟩ := lasts.left
    exact ⟨upper, left, stages⟩
  · have waiting : next.waiting.length = next.machine.world.loop.ready.length := by
      rw [← after.faithful.ready, List.length_map]
    have all : next.origins <+: later.started := by
      refine List.prefix_of_prefix_length_le onward.grows.1 (List.prefix_append _ _) ?_
      rw [origins, List.length_append]
      omega
    exact (List.filterMap_subset _ all.subset)

/-- Of two timers that wait together, the first is collected first. -/
theorem Kept.order_collected (kept : annals.Kept) (collected : annals.Next next)
    {first second : TimerEntry} (here : first ∈ annals.machine.world.loop.timers.entries)
    (there : second ∈ annals.machine.world.loop.timers.entries)
    (before : Timers.precedes first second = true)
    (live : next.machine.world.loop.timers.isCancelled first.id = false)
    (live' : next.machine.world.loop.timers.isCancelled second.id = false)
    (one : first ∈ next.collected ∨ second ∈ next.collected) :
    first ∈ next.collected ∧
      (second ∈ next.collected → [first, second].Sublist next.collected) := by
  have after := Kept.next kept collected
  rcases kept.turn collected with ⟨bides, -⟩ | ⟨point, collects, more⟩
  · exact (one.elim (fun gone => after.faithful.not_mem gone (bides.stays first here live))
      fun gone => after.faithful.not_mem gone (bides.stays second there live')).elim
  · have sorted := collects.sorted kept.visits.reachable
    rw [collects.isCancelled] at live live'
    have waits := collects.bides.stays first here live
    have waits' := collects.bides.stays second there live'
    have is_due {entry : TimerEntry} (waits : entry ∈ annals.machine.world.loop.timers.entries)
        (gone : entry ∈ next.collected) : entry ∈ point.loop.timers.due point.host.kernel.now := by
      rw [more, List.mem_append] at gone
      exact gone.resolve_left fun old => kept.faithful.not_mem old waits
    have sooner : first.deadline ≤ second.deadline := by
      rcases Timers.precedes_iff.mp before with less | ⟨same, -⟩
      · exact Nat.le_of_lt less
      · exact Nat.le_of_eq same
    have due : first ∈ point.loop.timers.due point.host.kernel.now := by
      refine one.elim (is_due here) fun gone => sorted.mem_due.mpr ⟨waits, live, ?_⟩
      exact Nat.le_trans sooner (sorted.mem_due.mp (is_due there gone)).2.2
    refine ⟨more ▸ List.mem_append_right _ due, fun gone => ?_⟩
    rw [more]
    refine List.Sublist.trans ?_ (List.sublist_append_right _ _)
    exact Timers.sublist_of_precedes (sorted.order_due _) due (is_due there gone) before

/-- No timer was collected twice. -/
theorem Faithful.nodup (faithful : annals.Faithful) : annals.collected.Nodup := by
  have once := faithful.past.once
  rw [List.map_append, List.nodup_append] at once
  exact .of_map _ once.1

/-- What comes before something that was started was started earlier. -/
theorem Faithful.sublist_fired (faithful : annals.Faithful) {first second : TimerEntry}
    (order : [first, second].Sublist annals.collected) (fired : second ∈ annals.fired) :
    [first, second].Sublist annals.fired := by
  have parted : annals.collected = annals.fired ++ annals.waiting.filterMap Origin.entry :=
    List.filterMap_append
  have nodup := faithful.nodup
  rw [parted] at order nodup
  have apart : second ∉ annals.waiting.filterMap Origin.entry :=
    fun waits => (List.nodup_append.mp nodup).2.2 second fired second waits rfl
  obtain ⟨early, late, split, before, after⟩ := List.sublist_append_iff.mp order
  -- The second one would be among those that wait if anything were.
  rcases List.eq_nil_or_concat late with rfl | ⟨front, last, rfl⟩
  · rw [List.append_nil] at split
    exact split ▸ before
  · have same : second = last := by
      have ends := congrArg List.getLast? split
      simpa using ends
    exact (apart (after.subset (same ▸ by simp))).elim

/-- Of two timers that waited together when one of them was collected, the first is started first. -/
theorem Kept.order (kept : annals.Kept) (collected : annals.Next next) (onward : next.Onward later)
    {first second : TimerEntry} (here : first ∈ annals.machine.world.loop.timers.entries)
    (there : second ∈ annals.machine.world.loop.timers.entries)
    (before : Timers.precedes first second = true)
    (live : next.machine.world.loop.timers.isCancelled first.id = false)
    (live' : next.machine.world.loop.timers.isCancelled second.id = false)
    (one : first ∈ next.collected ∨ second ∈ next.collected) (fired : second ∈ later.fired) :
    [first, second].Sublist later.fired := by
  obtain ⟨gone, ordered⟩ := kept.order_collected collected here there before live live' one
  refine ((Kept.next kept collected).onward onward).faithful.sublist_fired ?_ fired
  obtain ⟨more, all⟩ := onward.grows.1
  have split : later.collected = next.collected ++ more.filterMap Origin.entry := by
    unfold Annals.collected
    rw [← all, List.filterMap_append]
  have member : second ∈ later.collected := by
    unfold Annals.collected origins
    rw [List.filterMap_append]
    exact List.mem_append_left _ fired
  rw [split] at member ⊢
  rcases List.mem_append.mp member with together | behind
  · exact (ordered together).trans (List.sublist_append_left _ _)
  · exact (List.singleton_sublist.mpr gone).append (List.singleton_sublist.mpr behind)

/-! ## Timers of a run on an open loop -/

/-- Timers keep time. -/
structure KeepsTime (annals : Annals) : Prop where
  /-- What waits are the callbacks that are ready, in their order. -/
  ready : annals.waiting.map Origin.callback = annals.machine.world.loop.ready
  /-- A callback belongs to the timer that it came from. -/
  own : ∀ origin ∈ annals.origins, ∀ entry, origin.entry = some entry →
    origin.callback = entry.callback
  /-- Whatever step comes next, it is written down: it starts the first of the callbacks, or more become
  ready. -/
  next : ∀ {after}, Step annals.machine after → after.IsOpen →
    ∃ later, annals.Next later ∧ later.machine = after
  /-- No callback of a timer is ready before its deadline, let alone started. -/
  punctual : ∀ entry ∈ annals.collected, entry.deadline ≤ annals.machine.world.host.kernel.now
  /-- A timer is collected once at most, and it no longer waits then. -/
  once : ((annals.collected ++ annals.machine.world.loop.timers.entries).map TimerEntry.id).Nodup
  /-- As long as it is not cancelled, it waits until it is collected. -/
  waits : ∀ {later}, annals.Next later → ∀ entry ∈ annals.machine.world.loop.timers.entries,
    later.machine.world.loop.timers.isCancelled entry.id = false →
      entry ∈ later.machine.world.loop.timers.entries ∨ entry ∈ later.collected
  /-- When an iteration begins and its deadline is reached, its callback becomes ready in this step. -/
  collects : ∀ {later}, annals.Next later → BeginsIteration annals.machine later.machine →
    ∀ entry ∈ annals.machine.world.loop.timers.entries,
      later.machine.world.loop.timers.isCancelled entry.id = false →
        entry.deadline ≤ later.machine.world.host.kernel.now → entry ∈ later.collected
  /-- Unless this iteration is still under way, the callback was started. -/
  fires : ∀ {next later}, annals.Next next → BeginsIteration annals.machine next.machine →
    next.Onward later →
      (∃ upper left, later.machine.stages = upper ++ .iteration left :: annals.machine.stages) ∨
        next.collected ⊆ later.fired
  /-- Of two timers that wait uncancelled when one of them is collected, the one whose turn comes first is
  started first. -/
  order : ∀ {next later}, annals.Next next → next.Onward later →
    ∀ first ∈ annals.machine.world.loop.timers.entries,
      ∀ second ∈ annals.machine.world.loop.timers.entries, Timers.precedes first second = true →
        next.machine.world.loop.timers.isCancelled first.id = false →
          next.machine.world.loop.timers.isCancelled second.id = false →
            (first ∈ next.collected ∨ second ∈ next.collected) → second ∈ later.fired →
              [first, second].Sublist later.fired

/-- In a run on an open loop timers keep time. -/
theorem Kept.keepsTime (kept : annals.Kept) : annals.KeepsTime where
  ready := kept.faithful.ready
  own := kept.faithful.own
  next step fine := kept.exists_next step fine
  punctual := kept.faithful.punctual
  once := kept.faithful.past.once
  waits next entry here live := kept.waits next here live
  collects {later} next begins entry here live due := by
    refine (kept.waits next here live).resolve_left fun waits => ?_
    have sorted := timers_sorted (Kept.next kept next).visits.reachable
    exact Nat.not_lt_of_le due ((kept.goes next).lt_deadline begins sorted entry waits)
  fires next begins onward := kept.fires next begins onward
  order next onward first here second there before live live' one fired :=
    kept.order next onward here there before live live' one fired

end Annals

/-- Every run on an open loop has annals that can be kept on. -/
theorem Visits.exists_annals (visits : Visits IsOpen machine) :
    ∃ annals : Annals, annals.Kept ∧ annals.machine = machine := by
  induction visits with
  | initial initial fine => exact ⟨_, .initial initial fine, rfl⟩
  | step earlier step fine ih =>
    obtain ⟨annals, kept, rfl⟩ := ih
    obtain ⟨later, next, same⟩ := kept.exists_next step fine
    exact ⟨later, .next kept next, same⟩

/-- In every state of every run on an open loop, timers keep time: the run has annals, and whatever annals
it has, no timer in them is early, late or out of turn, and none is started twice. -/
theorem timersKeepTime (visits : Visits IsOpen machine) :
    (∃ annals : Annals, annals.Kept ∧ annals.machine = machine) ∧
      ∀ annals : Annals, annals.Kept → annals.machine = machine → annals.KeepsTime :=
  ⟨visits.exists_annals, fun _ kept _ => kept.keepsTime⟩

/-- Two timers were due at the same time, and the first one, which is running, has set another one. -/
def ticking : Machine := scripted.drive openly 8 [.callLater "late" 9 [],
  .callLater "soon" 4 [.callLater "next" 0 []], .callAt "same" 4 [], .loop (.advance 4), .runOnce 1]

/-- While the iteration goes on that collected two timers, the one that was set is due as well, but it
waits for the next iteration. -/
theorem timersKeepTime_ticking : ((∃ annals : Annals, annals.Kept ∧ annals.machine = ticking) ∧
    ∀ annals : Annals, annals.Kept → annals.machine = ticking → annals.KeepsTime) ∧
      ticking.world.loop.timers.entries.map TimerEntry.deadline = [4, 9] ∧
        ticking.world.loop.ready.length = 1 ∧ ticking.stages.length = 1 :=
  ⟨timersKeepTime (visits_openly 8 _), by decide +kernel, by decide +kernel, by decide +kernel⟩

end Machine

end EventLoop

import EventLoop.Proofs.Descriptors.Kernel
import EventLoop.Proofs.Effect.Step
import Mathlib.Algebra.Order.Group.Multiset

/-!
# What becomes of descriptors

A descriptor that was just obtained is loose: it is in the hands of the step that obtained it, which
gives it to a new socket or gives it back. A socket that is open owns its descriptor, and so does the
engine its poller. Whatever a step of the world does about descriptors is a sequence of the deals listed
here, each with the closing that comes of it, if any.
-/
namespace EventLoop

/-! ## The host -/

/-- The descriptor and the result of a close call, if an entry is about one. -/
def Journal.closeCall? : Value → Option (Value × Value)
  | .list [_, .str who, .str what, .list [fd], result] =>
    if who = "sys" ∧ what = "close" then some (fd, result) else none
  | _ => none

/-- The close calls that were written down, the latest first. -/
def Journal.closes (journal : Journal) : List (Value × Value) :=
  journal.latest.filterMap closeCall?

/-- A journal in which no close call is written down in addition. -/
structure Journal.Stays (before after : Journal) : Prop where
  /-- What is to be written down. -/
  settings : after.settings = before.settings
  /-- The close calls. -/
  closes : after.closes = before.closes

namespace Journal.Stays

variable {before middle after : Journal}

/-- A journal stays when nothing is written down. -/
theorem refl (journal : Journal) : journal.Stays journal := ⟨rfl, rfl⟩

/-- What a script writes down is no close call. -/
theorem record (journal : Journal) (time : Nat) (who what : String) (value : Value) :
    journal.Stays (journal.record time who what value) := by
  refine ⟨rfl, List.filterMap_cons_none ?_⟩
  unfold closeCall?
  split
  · rename_i same
    cases same
  · rfl

/-- A message that is written down is no close call. -/
theorem message (journal : Journal) (time : Nat) (level : Level) (text : String) :
    journal.Stays (journal.message time level text) := by
  unfold Journal.message
  split
  · exact record journal time _ _ _
  · exact refl journal

/-- Neither is another system call. -/
theorem call (journal : Journal) (time : Nat) {name : String} (arguments : List Value)
    (result : Value) (other : name ≠ "close") :
    journal.Stays (journal.call time name arguments result) := by
  unfold Journal.call
  split
  · refine ⟨rfl, List.filterMap_cons_none ?_⟩
    unfold closeCall?
    split
    · rename_i same
      cases same
      exact if_neg fun both => other both.2
    · rfl
  · exact refl journal

end Journal.Stays

namespace Host

variable {α : Type} {before middle after : Host}

/-- No descriptor of the host is opened or closed. -/
structure Stays (before after : Host) : Prop where
  /-- The kernel. -/
  kernel : before.kernel.Stays after.kernel
  /-- The journal. -/
  journal : before.journal.Stays after.journal

/-- The host opens a descriptor. -/
structure Opens (before : Host) (fd : Fd) (after : Host) : Prop where
  /-- The kernel. -/
  kernel : before.kernel.Opens fd after.kernel
  /-- The journal. -/
  journal : before.journal.Stays after.journal

/-- A host stays when nothing happens. -/
theorem Stays.refl (host : Host) : host.Stays host := ⟨.refl _, .refl _⟩

/-- A system call that is not written down. -/
theorem stays_silent {call : Kernel → α × Kernel} (stays : ∀ kernel : Kernel, kernel.Stays (call kernel).2)
    (host : Host) : host.Stays (silent call host).2 := ⟨stays host.kernel, .refl _⟩

/-- A system call that is written down and is no close call. -/
theorem stays_traced {name : String} {arguments : List Value} {shown : α → Value}
    {call : Kernel → Except Errno α × Kernel} (other : name ≠ "close")
    (stays : ∀ kernel : Kernel, kernel.Stays (call kernel).2) (host : Host) :
    host.Stays (traced name arguments shown call host).2 :=
  ⟨stays host.kernel, .call _ _ _ _ other⟩

/-- A descriptor that is open is closed, and that is written down. -/
theorem close_of_mem {host : Host} {number : Nat} (member : number ∈ host.kernel.descriptors) :
    (close number host).2.kernel.descriptors =
        host.kernel.descriptors.filter (· != number) ∧
      host.kernel.now ≤ (close number host).2.kernel.now ∧
      (close number host).2.journal.settings = host.journal.settings ∧
      (close number host).2.journal.closes =
        (if host.journal.settings.calls then [(fdValue number, .nat 0)] else []) ++
          host.journal.closes := by
  obtain ⟨result, kept, now⟩ := Kernel.close_of_mem member
  have journal : (close number host).2.journal = host.journal.call (host.kernel.close number).2.now
      "close" [fdValue number] (resultValue (fun _ => .nat 0) (host.kernel.close number).1) := rfl
  refine ⟨kept, now, ?_, ?_⟩
  · rw [journal]
    unfold Journal.call
    split
    · rfl
    · rfl
  · rw [journal, result]
    unfold Journal.call
    split
    · rfl
    · rfl

end Host

/-! ## Deals -/

/-- A close call, by whom it is made. -/
inductive Closing
  /-- A step gives a descriptor back that it has just obtained. -/
  | returned (fd : Fd)
  /-- The descriptor of a socket is closed. -/
  | socket (id : SocketId) (fd : Fd)
  /-- The poller of the engine is closed. -/
  | poller (fd : Fd)
  deriving DecidableEq, Repr, Inhabited

/-- The descriptor that is closed. -/
def Closing.fd : Closing → Fd
  | returned fd | socket _ fd | poller fd => fd

namespace World

/-- The poller of a world whose operations are completed by the engine. -/
def poller? (world : World) : Option Fd :=
  match world.completer with
  | .engine engine => engine.poller
  | .scripted _ => none

/-- No descriptor is obtained, given away or closed. Nothing that was shut is opened again. -/
structure Stays (before after : World) : Prop where
  /-- The host. -/
  host : before.host.Stays after.host
  /-- The sockets. -/
  sockets : after.sockets = before.sockets
  /-- The poller. -/
  poller : after.poller? = before.poller?
  /-- The loop's own pipe may be gone. -/
  pipe : after.pipe = before.pipe ∨ after.pipe = none
  /-- The loop may have ceased to take operations on. -/
  submitting : after.submitting = true → before.submitting = true

/-- One deal with descriptors, some of which are loose. Only closing the whole loop dismisses the
poller. -/
inductive Deal (closes : Prop) :
    Multiset Fd × World → List Closing → Multiset Fd × World → Prop
  /-- Nothing happens to descriptors. -/
  | still (loose : Multiset Fd) {before after : World} (stays : before.Stays after) :
      Deal closes (loose, before) [] (loose, after)
  /-- A descriptor is obtained. -/
  | obtained (loose : Multiset Fd) (world : World) {fd : Fd} {host : Host}
      (opens : world.host.Opens fd host) :
      Deal closes (loose, world) [] (fd ::ₘ loose, { world with host })
  /-- A new socket owns a descriptor. -/
  | adopted (loose : Multiset Fd) (world : World) (fd : Fd) :
      Deal closes (fd ::ₘ loose, world) []
        (loose, { world with sockets := world.sockets.push fd })
  /-- A descriptor is given back. -/
  | returned (loose : Multiset Fd) (world : World) (fd : Fd) :
      Deal closes (fd ::ₘ loose, world) [.returned fd]
        (loose, { world with host := (Host.close fd world.host).2 })
  /-- A socket that is open is closed. -/
  | closed (loose : Multiset Fd) (world : World) (socket : SocketId)
      (opened : world.isOpen socket = true) :
      Deal closes (loose, world) [.socket socket (world.fdOf socket)] (loose, { world with
        sockets := world.sockets.modify socket fun _ => Kernel.closedFd
        host := (Host.close (world.fdOf socket) world.host).2 })
  /-- The poller is closed. -/
  | dismissed (loose : Multiset Fd) (world : World) (engine : Proactor.Engine) (poller : Fd)
      (found : world.completer = .engine engine) (there : engine.poller = some poller)
      (may : closes) :
      Deal closes (loose, world) [.poller poller] (loose, { world with
        completer := .engine { engine with poller := none }
        host := (Host.close poller world.host).2 })

/-- Deals, one after another, with all closings that come of them. -/
inductive Deals (closes : Prop) (first : Multiset Fd × World) :
    List Closing → Multiset Fd × World → Prop
  /-- Nothing happened yet. -/
  | refl : Deals closes first [] first
  /-- One deal more. -/
  | tail {closings more : List Closing} {middle last : Multiset Fd × World}
      (deals : Deals closes first closings middle) (deal : Deal closes middle more last) :
      Deals closes first (closings ++ more) last

namespace Deals

variable {closes : Prop} {first middle last : Multiset Fd × World} {closings more : List Closing}

/-- One deal is a sequence of deals. -/
theorem single (deal : Deal closes first more last) : Deals closes first more last :=
  .tail .refl deal

/-- Deals may be made one after another, and so the closings follow each other. -/
theorem trans (before : Deals closes first closings middle) (after : Deals closes middle more last) :
    Deals closes first (closings ++ more) last := by
  induction after with
  | refl =>
    rw [List.append_nil]
    exact before
  | tail _ deal ih =>
    rw [← List.append_assoc]
    exact ih.tail deal

/-- More may be done. -/
theorem mono {wider : Prop} (wide : closes → wider) (deals : Deals closes first closings last) :
    Deals wider first closings last := by
  induction deals with
  | refl => exact .refl
  | tail _ deal ih =>
    refine ih.tail ?_
    cases deal with
    | still loose stays => exact .still loose stays
    | obtained loose world opens => exact .obtained loose world opens
    | adopted loose world fd => exact .adopted loose world fd
    | returned loose world fd => exact .returned loose world fd
    | closed loose world socket opened => exact .closed loose world socket opened
    | dismissed loose world engine poller found there may =>
      exact .dismissed loose world engine poller found there (wide may)

/-- The poller is kept unless the whole loop is closed. -/
theorem poller? (deals : Deals False first closings last) : last.2.poller? = first.2.poller? := by
  induction deals with
  | refl => rfl
  | tail _ deal ih =>
    rw [← ih]
    cases deal with
    | still _ stays => exact stays.poller
    | dismissed _ _ _ _ _ _ may => exact may.elim
    | obtained | adopted | returned | closed => rfl

end Deals

/-! ## Steps -/

variable {α β : Type} {takes : Multiset Fd} {world : World}

/-- A step that takes some loose descriptors makes deals, and then a condition holds of its result, of the
descriptors that it leaves loose and of the world. -/
def Trades (takes : Multiset Fd) (world : World) (step : WorldM α)
    (after : α → Multiset Fd → World → Prop) : Prop :=
  ∀ loose, ∃ closings owed,
    Deals False (takes + loose, world) closings (owed + loose, (step world).2) ∧
      after (step world).1 owed (step world).2

/-- No descriptor is left loose. -/
def cleared : α → Multiset Fd → World → Prop := fun _ owed _ => owed = 0

namespace Trades

variable {step : WorldM α} {next : α → WorldM β} {after : α → Multiset Fd → World → Prop}

/-- A value is returned without any deal. -/
theorem pure {value : α} (holds : after value takes world) :
    Trades takes world (Pure.pure value) after := fun _ => ⟨[], takes, .refl, holds⟩

/-- Nothing is done. -/
theorem nothing {value : α} : Trades 0 world (Pure.pure value) cleared := pure rfl

/-- What holds afterwards may be weakened. -/
theorem weaken {weaker : α → Multiset Fd → World → Prop} (trades : Trades takes world step after)
    (weakens : ∀ value owed reached, after value owed reached → weaker value owed reached) :
    Trades takes world step weaker := by
  intro loose
  obtain ⟨closings, owed, deals, holds⟩ := trades loose
  exact ⟨closings, owed, deals, weakens _ _ _ holds⟩

/-- One step after another. -/
theorem bind {middle : α → Multiset Fd → World → Prop} {after : β → Multiset Fd → World → Prop}
    (first : Trades takes world step middle)
    (second : ∀ value owed reached, middle value owed reached →
      Trades owed reached (next value) after) : Trades takes world (step >>= next) after := by
  intro loose
  obtain ⟨closings, owed, deals, holds⟩ := first loose
  obtain ⟨more, left, deals', holds'⟩ := second _ owed _ holds loose
  exact ⟨closings ++ more, left, deals.trans deals', holds'⟩

/-- A step that leaves nothing loose, and then what follows on its result. -/
theorem thence {after : β → Multiset Fd → World → Prop} (first : Trades 0 world step cleared)
    (second : Trades takes (step world).2 (next (step world).1) after) :
    Trades takes world (step >>= next) after := by
  intro loose
  obtain ⟨closings, owed, deals, rfl⟩ := first (takes + loose)
  obtain ⟨more, left, deals', holds'⟩ := second loose
  rw [zero_add] at deals
  exact ⟨closings ++ more, left, deals.trans deals', holds'⟩

/-- A step that leaves nothing loose, and then another one. -/
theorem first {after : β → Multiset Fd → World → Prop} (first : Trades 0 world step cleared)
    (second : ∀ value reached, Trades takes reached (next value) after) :
    Trades takes world (step >>= next) after := first.thence (second _ _)

/-- The poller is kept. -/
theorem steady (trades : Trades takes world step after) :
    Trades takes world step fun value owed reached =>
      after value owed reached ∧ reached.poller? = world.poller? := by
  intro loose
  obtain ⟨closings, owed, deals, holds⟩ := trades loose
  exact ⟨closings, owed, deals, holds, deals.poller?⟩

/-- The state is read. -/
theorem get {next : World → WorldM α} (rest : Trades takes world (next world) after) :
    Trades takes world (get >>= next) after := rest

/-- Nothing happens to descriptors. -/
theorem still (stays : world.Stays (step world).2) (holds : after (step world).1 0 (step world).2) :
    Trades 0 world step after := by
  intro loose
  refine ⟨[], 0, .single ?_, holds⟩
  rw [zero_add]
  exact .still loose stays

/-- Something is done for each element of a list. -/
theorem forM {elements : List α} {action : α → WorldM PUnit}
    (each : ∀ element world, Trades 0 world (action element) cleared) :
    Trades 0 world (elements.forM action) cleared := by
  induction elements generalizing world with
  | nil => exact nothing
  | cons element rest ih => exact first (each element world) fun _ _ => ih

/-- A step that may be left out and then another one. The poller is kept meanwhile. -/
theorem optional {condition : Prop} [Decidable condition] {step : WorldM PUnit}
    {next : PUnit → WorldM β} {after : β → Multiset Fd → World → Prop}
    (first : ∀ world, Trades 0 world step cleared)
    (second : ∀ reached : World, reached.poller? = world.poller? →
      Trades takes reached (next ⟨⟩) after) :
    Trades takes world (if condition then step >>= next else next ⟨⟩) after := by
  split
  · obtain ⟨_, _, deals, none⟩ := first world 0
    exact Trades.thence (first world) (second _ deals.poller?)
  · exact second world rfl

end Trades

/-- What descriptors and closing the loop depend on. -/
def devices (world : World) : Host × Table Fd × Completer × Option Pipe × Bool :=
  (world.host, world.sockets, world.completer, world.pipe, world.submitting)

/-- Nothing that descriptors depend on changes. -/
theorem Stays.of_devices {before after : World} (same : after.devices = before.devices) :
    before.Stays after := by
  obtain ⟨host, sockets, completer, pipe, submitting⟩ := after
  cases before
  simp only [devices, Prod.mk.injEq] at same
  obtain ⟨rfl, rfl, rfl, rfl, rfl⟩ := same
  exact ⟨.refl _, rfl, rfl, Or.inl rfl, fun still => still⟩

/-- A step changes nothing that descriptors depend on. -/
theorem Trades.aside {step : WorldM α} (same : (step world).2.devices = world.devices) :
    Trades 0 world step cleared := .still (.of_devices same) rfl

end World

end EventLoop

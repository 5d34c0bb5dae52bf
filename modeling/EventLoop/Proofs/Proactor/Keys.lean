import EventLoop.Proofs.Proactor.Registrations

/-!
# One registration for each descriptor

On any system the engine has at most one registration for a descriptor, so whoever waits in the engine
waits in the registration that is found there.
-/
namespace EventLoop.Proactor

namespace Engine

variable {σ : Type} {system : System σ} {engine : Engine} {fd : Fd} {registration : Registration}
variable {operation : Operation}

/-- No descriptor has two registrations. -/
def Keyed (engine : Engine) : Prop := (engine.registrations.map Prod.fst).Nodup

/-- No descriptor has two registrations after one was removed. -/
theorem Keyed.eraseRegistration (keyed : engine.Keyed) (fd : Fd) :
    (engine.eraseRegistration fd).Keyed := (List.filter_sublist.map Prod.fst).nodup keyed

/-- No descriptor has two registrations after one was set. -/
theorem Keyed.setRegistration (keyed : engine.Keyed) (fd : Fd) (registration : Registration) :
    (engine.setRegistration fd registration).Keyed := by
  unfold Keyed Engine.setRegistration
  rw [List.map_append, List.nodup_append]
  refine ⟨keyed.eraseRegistration fd, List.nodup_singleton _, ?_⟩
  intro one kept other last same
  obtain ⟨entry, member, rfl⟩ := List.mem_map.mp kept
  have here : entry.1 = fd := same.trans (List.mem_singleton.mp last)
  have apart := (List.mem_filter.mp member).2
  simp [here] at apart

/-- Whoever waits in the engine waits in the registration of a descriptor. -/
theorem Keyed.registration_of_mem (keyed : engine.Keyed) (member : operation ∈ engine.operations) :
    ∃ fd registration, engine.registration? fd = some registration ∧
      operation ∈ registration.operations := by
  obtain ⟨⟨fd, registration⟩, listed, inside⟩ := List.mem_flatMap.mp member
  refine ⟨fd, registration, ?_, inside⟩
  obtain ⟨before, after, split⟩ := List.append_of_mem listed
  refine List.lookup_eq_some_iff.mpr ⟨before, after, split, fun entry earlier => ?_⟩
  unfold Keyed at keyed
  rw [split, List.map_append, List.nodup_append] at keyed
  have apart := keyed.2.2 entry.1 (List.mem_map_of_mem earlier) fd List.mem_cons_self
  simpa using Ne.symm apart

/-- On any system a step of the engine leads to one registration for each descriptor. -/
def Keeps (step : StateM σ Engine) : Prop := Ensures (fun _ => True) step fun left _ => left.Keyed

/-- What comes before the last part of a step does not matter. -/
theorem Keeps.after {α : Type} {step : StateM σ α} {next : α → StateM σ Engine}
    (each : ∀ result, Keeps (next result)) : Keeps (step >>= next) :=
  Ensures.bind (fun _ _ => True) (fun _ _ => trivial) each

namespace Keyed

variable (keyed : engine.Keyed)

include keyed

/-- Doing nothing leaves one registration for each descriptor. -/
theorem keeps : Keeps (σ := σ) (pure engine) := Ensures.pure fun _ _ => keyed

/-- Removing the registration of a descriptor leaves one registration for each descriptor. -/
theorem unregister (fd : Fd) : Keeps (engine.unregister system fd) := by
  unfold Engine.unregister
  split
  · exact keyed.keeps
  · exact .after fun _ => .after fun _ => (keyed.eraseRegistration fd).keeps

/-- Claiming a descriptor for a socket leaves one registration for each descriptor. -/
theorem claim (socket : SocketId) (fd : Fd) :
    Ensures (fun _ => True) (engine.claim system socket fd) fun claimed _ => claimed.2.Keyed := by
  unfold Engine.claim
  dsimp only
  split
  · exact Ensures.pure fun _ _ => keyed.setRegistration fd _
  · split
    · exact Ensures.pure fun _ _ => keyed
    · refine Ensures.bind (fun _ _ => True) (fun _ _ => trivial) fun _ => ?_
      exact Ensures.bind _ (keyed.unregister fd) fun left =>
        Ensures.pure fun _ left => left.setRegistration fd _

/-- Arming the interest in a descriptor leaves one registration for each descriptor. -/
theorem arm (fd : Fd) : Keeps (engine.arm system fd) := by
  unfold Engine.arm
  split
  · exact keyed.keeps
  · refine .after fun state => ?_
    split
    · exact keyed.unregister fd
    · refine .after fun readers => .after fun writers => ?_
      have stored := keyed.setRegistration fd
      dsimp only
      split
      · exact (stored _).keeps
      · refine .after fun answer => ?_
        split
        · exact (stored _).keeps
        · exact .after fun _ => ((stored _).eraseRegistration fd).keeps

/-- Adding an operation to a queue leaves one registration for each descriptor. -/
theorem enqueue (fd : Fd) (registration : Registration) (direction : Direction)
    (operation : Operation) : Keeps (engine.enqueue system fd registration direction operation) := by
  unfold Engine.enqueue
  have rest (queue : List Operation) : Keeps
      (let engine := engine.setRegistration fd (registration.setQueue direction queue)
      if queue.isEmpty then Pure.pure engine else engine.arm system fd) := by
    have stored := keyed.setRegistration fd (registration.setQueue direction queue)
    dsimp only
    split
    · exact stored.keeps
    · exact stored.arm fd
  dsimp only
  split
  · exact .after rest
  · exact .after rest

/-- Submitting an operation leaves one registration for each descriptor. -/
theorem submit (socket : SocketId) (fd : Fd) (direction : Direction) (operation : Operation) :
    Keeps (engine.submit system socket fd direction operation) :=
  Ensures.bind _ (keyed.claim socket fd) fun claimed state left =>
    left.enqueue fd claimed.1 direction operation state trivial

/-- Beginning to connect leaves one registration for each descriptor. -/
theorem connect (socket : SocketId) (fd : Fd) (target : Address) (future : FutureId) :
    Keeps (engine.connect system socket fd target future) := by
  unfold Engine.connect
  refine .after fun answer => ?_
  split
  · exact .after fun _ => keyed.keeps
  · split
    · exact Ensures.bind _ (keyed.claim socket fd) fun claimed state left =>
        (left.setRegistration fd _).arm fd state trivial
    · exact .after fun _ => keyed.keeps

/-- Dispatching what a descriptor is ready for leaves one registration for each descriptor. -/
theorem dispatch (fd : Fd) (readable writable : Bool) :
    Keeps (engine.dispatch system fd readable writable) := by
  unfold Engine.dispatch
  split
  · exact keyed.keeps
  · have armed (registration : Registration) :
        Keeps ((engine.setRegistration fd registration).arm system fd) :=
      (keyed.setRegistration fd registration).arm fd
    dsimp only
    split <;> split <;> exact .after fun _ => .after fun _ => armed _

/-- Handling the reports of the poller leaves one registration for each descriptor. -/
theorem handle (reports : List (Nat × Kernel.Flags)) : Keeps (engine.handle system reports) := by
  induction reports generalizing engine with
  | nil => exact keyed.keeps
  | cons report rest ih =>
    exact .after fun _ => Ensures.bind _ (keyed.dispatch _ _ _) fun _ state left => ih left state trivial

/-- Polling the engine leaves one registration for each descriptor. -/
theorem poll (timeout : Option Nat) :
    Ensures (fun _ => True) (engine.poll system timeout) fun polled _ => polled.2.Keyed := by
  unfold Engine.poll
  split
  · exact Ensures.pure fun _ _ => keyed
  · refine Ensures.bind (fun _ _ => True) (fun _ _ => trivial) fun answer => ?_
    split
    · split <;> exact Ensures.pure fun _ _ => keyed
    · exact Ensures.bind _ (keyed.handle _) fun _ => Ensures.pure fun _ left => left

end Keyed

end Engine

end EventLoop.Proactor

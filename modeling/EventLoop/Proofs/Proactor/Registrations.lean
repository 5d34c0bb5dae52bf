import EventLoop.Proofs.Proactor.Line

/-!
# The registrations of the engine

What the engine has on file for a descriptor, and the queues there, after a registration was stored or
erased.
-/
namespace EventLoop.Proactor

variable {engine : Engine} {fd descriptor : Fd} {operation : Operation} {direction : Direction}
variable {registration : Registration}

/-- The operations of a queue are operations of the registration. -/
theorem Registration.mem_operations (member : operation ∈ registration.queue direction) :
    operation ∈ registration.operations := by
  cases direction with
  | reading => exact List.mem_append_left _ member
  | writing => exact List.mem_append_right _ member

namespace Engine

/-- The registration that was set is found at its descriptor, and the others at theirs. -/
theorem registration?_setRegistration (engine : Engine) (fd one : Fd) (registration : Registration) :
    (engine.setRegistration fd registration).registration? one =
      if one = fd then some registration else engine.registration? one := by
  unfold Engine.registration? Engine.setRegistration
  rw [List.lookup_append]
  induction engine.registrations with
  | nil =>
    by_cases same : one = fd
    · simp [same]
    · simp [same, List.lookup_cons, beq_false_of_ne same]
  | cons entry rest ih =>
    obtain ⟨key, stored⟩ := entry
    by_cases own : key = fd
    · subst own
      rw [List.filter_cons_of_neg (by simp), ih]
      by_cases same : one = key
      · simp [same]
      · simp [same, List.lookup_cons, beq_false_of_ne same]
    · rw [List.filter_cons_of_pos (by simp [own])]
      by_cases found : one = key
      · subst found
        simp [List.lookup_cons, own]
      · simp only [List.lookup_cons, beq_false_of_ne found]
        exact ih

/-- No registration is found where it was removed, and the others are. -/
theorem registration?_eraseRegistration (engine : Engine) (fd one : Fd) :
    (engine.eraseRegistration fd).registration? one =
      if one = fd then none else engine.registration? one := by
  unfold Engine.registration? Engine.eraseRegistration
  induction engine.registrations with
  | nil => simp
  | cons entry rest ih =>
    obtain ⟨key, stored⟩ := entry
    by_cases own : key = fd
    · subst own
      rw [List.filter_cons_of_neg (by simp), ih]
      by_cases same : one = key
      · simp [same]
      · simp [same, List.lookup_cons, beq_false_of_ne same]
    · rw [List.filter_cons_of_pos (by simp [own])]
      by_cases found : one = key
      · subst found
        simp [own]
      · simp only [List.lookup_cons, beq_false_of_ne found]
        exact ih

/-- The queues of a descriptor are those of its registration. -/
theorem queues_of_some (found : engine.registration? fd = some registration) (direction : Direction) :
    engine.queues fd direction = registration.queue direction := by
  simp [queues, found]

/-- A descriptor without a registration has empty queues. -/
theorem queues_of_none (missing : engine.registration? fd = none) (direction : Direction) :
    engine.queues fd direction = [] := by
  simp [queues, missing]

/-- The queues after the operations at a descriptor were replaced. -/
theorem queues_setRegistration (engine : Engine) (fd : Fd) (registration : Registration) :
    (engine.setRegistration fd registration).queues =
      (engine.queues.set fd .reading registration.readers).set fd .writing registration.writers := by
  funext one direction
  unfold Engine.queues Queues.set
  rw [registration?_setRegistration]
  by_cases same : one = fd
  · cases direction <;> simp [same, Registration.queue]
  · simp [same]

/-- The queues after a descriptor was forgotten. -/
theorem queues_eraseRegistration (engine : Engine) (fd : Fd) :
    (engine.eraseRegistration fd).queues = (engine.queues.set fd .reading []).set fd .writing [] := by
  funext one direction
  unfold Engine.queues Queues.set
  rw [registration?_eraseRegistration]
  by_cases same : one = fd
  · cases direction <;> simp [same]
  · simp [same]

/-- Whoever waits after a descriptor was forgotten waited before. -/
theorem of_mem_queues_eraseRegistration
    (member : operation ∈ (engine.eraseRegistration fd).queues descriptor direction) :
    operation ∈ engine.queues descriptor direction := by
  unfold queues at member ⊢
  rw [registration?_eraseRegistration] at member
  by_cases same : descriptor = fd
  · rw [if_pos same] at member
    cases member
  · rwa [if_neg same] at member

/-- The queues after one of them was replaced. -/
theorem queues_setQueue (found : engine.registration? fd = some registration)
    (direction : Direction) (queue : List Operation) :
    (engine.setRegistration fd (registration.setQueue direction queue)).queues =
      engine.queues.set fd direction queue := by
  have readers : engine.queues fd .reading = registration.readers := queues_of_some found .reading
  have writers : engine.queues fd .writing = registration.writers := queues_of_some found .writing
  rw [queues_setRegistration]
  funext one way
  cases direction <;> cases way <;> by_cases same : one = fd <;>
    simp [Queues.set, Registration.setQueue, same, readers, writers]

/-- The operations of a registration that is on file wait in the engine. -/
theorem mem_operations_of_found (found : engine.registration? fd = some registration)
    (member : operation ∈ registration.operations) : operation ∈ engine.operations := by
  obtain ⟨before, rest, registrations, -⟩ := List.lookup_eq_some_iff.mp found
  refine List.mem_flatMap.mpr ⟨(fd, registration), ?_, member⟩
  rw [registrations]
  exact List.mem_append_right before List.mem_cons_self

/-- The operations that wait in the queues wait in the engine. -/
theorem mem_operations (member : operation ∈ engine.queues descriptor direction) :
    operation ∈ engine.operations := by
  unfold queues at member
  split at member
  · rename_i registration found
    exact mem_operations_of_found found (Registration.mem_operations member)
  · cases member

end Engine

end EventLoop.Proactor

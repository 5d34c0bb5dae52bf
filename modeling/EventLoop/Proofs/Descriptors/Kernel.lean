import EventLoop.Host
import Mathlib.Data.List.Sort

/-!
# Descriptors of the kernel

Few calls open or close descriptors. Those that make something take the lowest number that is free, a
close sets the number of its descriptor free again, and all others leave the descriptors alone. Time never
runs backwards.
-/
namespace EventLoop

namespace Kernel

variable {α : Type} {before middle after : Kernel}

/-- The numbers of the open descriptors, in ascending order. -/
def descriptors (kernel : Kernel) : List Nat := kernel.resources.map Prod.fst

/-- No descriptor is opened or closed, and time does not run backwards. -/
structure Stays (before after : Kernel) : Prop where
  /-- The descriptors stand for what they stood for. -/
  resources : after.resources = before.resources
  /-- It is not earlier. -/
  now : before.now ≤ after.now

/-- A descriptor is opened: it has the lowest number that is free. -/
structure Opens (before : Kernel) (fd : Fd) (after : Kernel) : Prop where
  /-- The number is the lowest one that is free. -/
  lowest : fd = (lowestFree firstFd before.descriptors : Nat)
  /-- The others stay open. -/
  descriptors : after.descriptors =
    before.descriptors.orderedInsert (· < ·) (lowestFree firstFd before.descriptors)
  /-- It is not earlier. -/
  now : before.now ≤ after.now

namespace Stays

/-- The descriptors stay when nothing happens. -/
theorem refl (kernel : Kernel) : kernel.Stays kernel := ⟨rfl, Nat.le_refl _⟩

/-- The descriptors that stay twice stay. -/
theorem trans (first : before.Stays middle) (second : middle.Stays after) : before.Stays after :=
  ⟨second.resources.trans first.resources, Nat.le_trans first.now second.now⟩

/-- The same descriptors are open. -/
theorem descriptors (stays : before.Stays after) : after.descriptors = before.descriptors :=
  congrArg (List.map Prod.fst) stays.resources

/-- A descriptor is opened by a call that does something else first. -/
theorem opens {fd : Fd} (stays : before.Stays middle) (opens : middle.Opens fd after) :
    before.Opens fd after := by
  have same := stays.descriptors
  exact ⟨same ▸ opens.lowest, same ▸ opens.descriptors, Nat.le_trans stays.now opens.now⟩

end Stays

/-- A descriptor is opened by a call that does something else afterwards. -/
theorem Opens.stays {fd : Fd} (opens : before.Opens fd middle) (stays : middle.Stays after) :
    before.Opens fd after :=
  ⟨opens.lowest, stays.descriptors.trans opens.descriptors, Nat.le_trans opens.now stays.now⟩

/-! ## Numbers -/

/-- The numbers of entries among which one is inserted. -/
theorem fst_insertAscending (key : Nat) (value : α) (entries : List (Nat × α)) :
    (insertAscending key value entries).map Prod.fst =
      (entries.map Prod.fst).orderedInsert (· < ·) key := by
  induction entries with
  | nil => rfl
  | cons entry rest ih =>
    rw [insertAscending, List.map_cons, List.orderedInsert_cons]
    split
    · rfl
    · rw [List.map_cons, ih]

/-- The number that is handed out is not below the first one that may be. -/
theorem le_lowestFree (start : Nat) (numbers : List Nat) : start ≤ lowestFree start numbers := by
  induction numbers generalizing start with
  | nil => exact Nat.le_refl start
  | cons number rest ih =>
    unfold lowestFree
    split
    · exact ih start
    · split
      · exact Nat.le_of_succ_le (ih (start + 1))
      · exact Nat.le_refl start

/-- The number that is handed out is free. -/
theorem lowestFree_not_mem (start : Nat) {numbers : List Nat}
    (ascending : numbers.Pairwise (· < ·)) : lowestFree start numbers ∉ numbers := by
  induction numbers generalizing start with
  | nil => exact List.not_mem_nil
  | cons number rest ih =>
    obtain ⟨later, ascending⟩ := List.pairwise_cons.mp ascending
    rw [List.mem_cons, not_or]
    unfold lowestFree
    split
    · have least := le_lowestFree start rest
      exact ⟨by omega, ih start ascending⟩
    · split
      · have least := le_lowestFree (start + 1) rest
        exact ⟨by omega, ih (start + 1) ascending⟩
      · refine ⟨by omega, fun member => ?_⟩
        have above := later start member
        omega

/-- Numbers stay in ascending order when one that is free is inserted. -/
theorem pairwise_orderedInsert {number : Nat} {numbers : List Nat}
    (ascending : numbers.Pairwise (· < ·)) (free : number ∉ numbers) :
    (numbers.orderedInsert (· < ·) number).Pairwise (· < ·) := by
  induction numbers with
  | nil => exact List.pairwise_singleton _ _
  | cons first rest ih =>
    obtain ⟨later, tail⟩ := List.pairwise_cons.mp ascending
    rw [List.mem_cons, not_or] at free
    rw [List.orderedInsert_cons]
    split
    · rename_i below
      refine List.pairwise_cons.mpr ⟨fun other member => ?_, ascending⟩
      rcases List.mem_cons.mp member with rfl | member
      · exact below
      · exact Nat.lt_trans below (later other member)
    · refine List.pairwise_cons.mpr ⟨fun other member => ?_, ih tail free.2⟩
      rcases List.mem_cons.mp ((List.perm_orderedInsert (· < ·) number rest).subset member) with
        rfl | member
      · have differ := free.1
        omega
      · exact later other member

/-! ## Calls that leave the descriptors alone -/

/-- A call that may fail at once stays if it does otherwise. -/
theorem stays_guarded (kernel : Kernel) (call : Call) (fd? : Option Fd)
    {body : Kernel → Except Errno α × Kernel} (stays : ∀ kernel : Kernel, kernel.Stays (body kernel).2) :
    kernel.Stays (kernel.guarded call fd? body).2 := by
  unfold guarded
  dsimp only
  split
  · exact ⟨rfl, Nat.le_refl _⟩
  · exact stays kernel

/-- A call on an endpoint stays if it does so with every endpoint. -/
theorem stays_onEndpoint (kernel : Kernel) (call : Call) (fd : Fd)
    {body : Kernel → EndpointId → Endpoint → Except Errno α × Kernel}
    (stays : ∀ (kernel : Kernel) id endpoint, kernel.Stays (body kernel id endpoint).2) :
    kernel.Stays (kernel.onEndpoint call fd body).2 := by
  refine stays_guarded kernel call (some fd) fun kernel => ?_
  split
  · exact stays kernel _ _
  · exact .refl kernel

/-- Changing an endpoint leaves the descriptors as they are. -/
theorem stays_update (kernel : Kernel) (id : EndpointId) (change : Endpoint → Endpoint) :
    kernel.Stays (kernel.update id change) := ⟨rfl, Nat.le_refl _⟩

/-- Taking a port leaves the descriptors as they are. -/
theorem stays_takePort (kernel : Kernel) : kernel.Stays kernel.takePort.2 := ⟨rfl, Nat.le_refl _⟩

/-- Letting time pass leaves the descriptors as they are, and the clock does not go back. -/
theorem stays_advance (kernel : Kernel) (time : Nat) : kernel.Stays (kernel.advance time) :=
  ⟨rfl, Nat.le_add_right _ _⟩

/-- Arming a fault leaves the descriptors as they are. -/
theorem stays_arm (kernel : Kernel) (fault : Fault) : kernel.Stays (kernel.arm fault) :=
  ⟨rfl, Nat.le_refl _⟩

/-- Making a descriptor non-blocking leaves the descriptors as they are. -/
theorem stays_setMode (kernel : Kernel) (fd : Fd) : kernel.Stays (kernel.setMode fd).2 :=
  stays_onEndpoint kernel .mode fd fun kernel _ _ => .refl kernel

/-- Allowing an address to be reused leaves the descriptors as they are. -/
theorem stays_setReuse (kernel : Kernel) (fd : Fd) : kernel.Stays (kernel.setReuse fd).2 :=
  stays_onEndpoint kernel .setOption fd fun kernel _ _ => .refl kernel

/-- Taking the error of a socket leaves the descriptors as they are. -/
theorem stays_takeError (kernel : Kernel) (fd : Fd) : kernel.Stays (kernel.takeError fd).2 :=
  stays_onEndpoint kernel .getOption fd fun kernel id _ => stays_update kernel id _

/-- Binding a socket leaves the descriptors as they are. -/
theorem stays_bind (kernel : Kernel) (fd : Fd) (address : Address) :
    kernel.Stays (kernel.bind fd address).2 := by
  refine stays_onEndpoint kernel .bind fd fun kernel id _ => ?_
  have named (port : UInt16) {ported : Kernel} (stays : kernel.Stays ported) :
      kernel.Stays (if ported.isTaken { address with port } then (.error .addressInUse, ported)
        else (.ok (), ported.update id fun endpoint =>
          { endpoint with address := some { address with port } }) :
            Except Errno Unit × Kernel).2 := by
    split
    · exact stays
    · exact stays.trans (stays_update ported id _)
  dsimp only
  split
  · exact .refl kernel
  · split
    · exact named _ (stays_takePort kernel)
    · exact named _ (.refl kernel)

/-- Making a socket listen leaves the descriptors as they are. -/
theorem stays_listen (kernel : Kernel) (fd : Fd) : kernel.Stays (kernel.listen fd).2 :=
  stays_onEndpoint kernel .listen fd fun kernel id _ => stays_update kernel id _

/-- Giving an endpoint an address leaves the descriptors as they are. -/
theorem stays_ensureAddress (kernel : Kernel) (id : EndpointId) (endpoint : Endpoint) :
    kernel.Stays (kernel.ensureAddress id endpoint) := by
  unfold ensureAddress
  split
  · exact (stays_takePort kernel).trans (stays_update _ id _)
  · exact .refl kernel

/-- Joining the queue of a listener leaves the descriptors as they are. -/
theorem stays_joinListener (kernel : Kernel) (id listener : EndpointId) (queue : List EndpointId)
    (target : Address) : kernel.Stays (kernel.joinListener id listener queue target) :=
  ⟨rfl, Nat.le_refl _⟩

/-- Connecting a socket leaves the descriptors as they are, whether it succeeds, fails or is in
progress. -/
theorem stays_connect (kernel : Kernel) (fd : Fd) (target : Address) :
    kernel.Stays (kernel.connect fd target).2 := by
  refine stays_onEndpoint kernel .connect fd fun kernel id endpoint => ?_
  have addressed := stays_ensureAddress kernel id endpoint
  split
  · exact .refl kernel
  · exact .refl kernel
  · exact .refl kernel
  · dsimp only
    split
    · exact addressed.trans (stays_update _ id _)
    · split
      · exact addressed.trans (stays_joinListener _ id _ _ target)
      · exact addressed.trans (stays_update _ id _)
    · split
      · exact addressed.trans (stays_joinListener _ id _ _ target)
      · exact addressed

/-- Delivering data to a peer leaves the descriptors as they are. -/
theorem stays_deliver (kernel : Kernel) (peer : EndpointId) (data : List UInt8) :
    kernel.Stays (kernel.deliver peer data).2 := by
  unfold deliver
  dsimp only
  split
  · exact .refl kernel
  · exact stays_update kernel peer _

/-- Sending leaves the descriptors as they are. -/
theorem stays_send (kernel : Kernel) (fd : Fd) (data : List UInt8) :
    kernel.Stays (kernel.send fd data).2 := by
  refine stays_onEndpoint kernel .send fd fun kernel id endpoint => ?_
  split
  · exact stays_update kernel id _
  · split
    · exact .refl kernel
    · exact .refl kernel
    · exact .refl kernel
    · split
      · exact .refl kernel
      · exact stays_deliver kernel _ data

/-- Receiving leaves the descriptors as they are. -/
theorem stays_receive (kernel : Kernel) (fd : Fd) (limit : Nat) :
    kernel.Stays (kernel.receive fd limit).2 := by
  refine stays_onEndpoint kernel .receive fd fun kernel id endpoint => ?_
  split
  · exact stays_update kernel id _
  · split
    · exact .refl kernel
    · exact .refl kernel
    · exact .refl kernel
    · unfold takeData
      split
      · exact .refl kernel
      · exact stays_update kernel id _

/-- Leaving an error at a socket leaves the descriptors as they are. -/
theorem stays_leaveError (kernel : Kernel) (fd : Fd) (error : Errno) :
    kernel.Stays (kernel.leaveError fd error).2 := by
  unfold leaveError
  split
  · exact stays_update kernel _ _
  · exact .refl kernel

/-- Asking for the address of a socket leaves the descriptors as they are. -/
theorem stays_ownName (kernel : Kernel) (fd : Fd) : kernel.Stays (kernel.ownName fd).2 :=
  stays_onEndpoint kernel .ownName fd fun kernel _ _ => .refl kernel

/-- Asking for the address of a peer leaves the descriptors as they are. -/
theorem stays_peerName (kernel : Kernel) (fd : Fd) : kernel.Stays (kernel.peerName fd).2 := by
  refine stays_onEndpoint kernel .peerName fd fun kernel _ _ => ?_
  split
  · exact .refl kernel
  · exact .refl kernel

/-- Changing what a poller watches leaves the descriptors as they are. -/
theorem stays_control (kernel : Kernel) (poller : Fd) (action : Control) (fd : Fd)
    (interest : Flags) : kernel.Stays (kernel.control poller action fd interest).2 := by
  refine stays_guarded kernel .control (some fd) fun kernel => ?_
  have watched (watches : List (Nat × Flags)) : kernel.Stays { kernel with watches } :=
    ⟨rfl, Nat.le_refl _⟩
  split
  · exact .refl kernel
  · dsimp only
    split
    · split
      · exact .refl kernel
      · exact watched _
    · split
      · exact watched _
      · exact .refl kernel
    · split
      · exact watched _
      · exact .refl kernel

/-- Waiting at a poller leaves the descriptors as they are, and the clock does not go back. -/
theorem stays_wait (kernel : Kernel) (poller : Fd) (limit : Nat) (timeout : Option Nat)
    (endless : Errno) : kernel.Stays (kernel.wait poller limit timeout endless).2 := by
  unfold wait
  split
  · exact .refl kernel
  · have counted : kernel.Stays { kernel with waits := kernel.waits + 1 } := ⟨rfl, Nat.le_refl _⟩
    refine counted.trans (stays_guarded _ .wait (some poller) fun kernel => ?_)
    split
    · exact .refl kernel
    · dsimp only
      split
      · split
        · exact stays_advance kernel _
        · exact .refl kernel
      · exact ⟨rfl, Nat.le_refl _⟩

/-! ## Calls that open descriptors -/

/-- A resource gets a descriptor. -/
theorem opens_allocate (kernel : Kernel) (resource : Resource) :
    kernel.Opens (kernel.allocate resource).1 (kernel.allocate resource).2 :=
  ⟨rfl, fst_insertAscending _ _ _, Nat.le_refl _⟩

/-- A call opens a descriptor, which can be read off its result, unless it fails. -/
structure Obtains (pick : α → Fd) (call : Kernel → Except Errno α × Kernel) : Prop where
  /-- It succeeds. -/
  opens : ∀ {kernel value after}, call kernel = (.ok value, after) → kernel.Opens (pick value) after
  /-- It fails. -/
  stays : ∀ {kernel error after}, call kernel = (.error error, after) → kernel.Stays after

/-- A call that may fail at once opens a descriptor if it does so otherwise. -/
theorem obtains_guarded {pick : α → Fd} (call : Call) (fd? : Option Fd)
    {body : Kernel → Except Errno α × Kernel} (obtains : Obtains pick body) :
    Obtains pick (·.guarded call fd? body) where
  opens {kernel value after} made := by
    unfold guarded at made
    dsimp only at made
    split at made
    · cases made
    · exact obtains.opens made
  stays {kernel error after} made := by
    unfold guarded at made
    dsimp only at made
    split at made
    · cases made
      exact ⟨rfl, Nat.le_refl _⟩
    · exact obtains.stays made

/-- A poller gets a descriptor. -/
theorem obtains_makePoller : Obtains id makePoller := by
  refine obtains_guarded .createPoller none ⟨fun {kernel _ _} made => ?_, fun made => ?_⟩
  · cases made
    exact opens_allocate kernel .poller
  · cases made

/-- An endpoint gets a descriptor. -/
theorem obtains_makeSocket (ip : Ip) : Obtains id (·.makeSocket ip) := by
  refine obtains_guarded .socket none ⟨fun {kernel _ _} made => ?_, fun made => ?_⟩
  · cases made
    have added : kernel.Stays (kernel.addEndpoint { family := .ofIp ip }).2 := ⟨rfl, Nat.le_refl _⟩
    exact added.opens (opens_allocate _ _)
  · cases made

/-- An accepted connection gets a descriptor. -/
theorem obtains_accept (fd : Fd) : Obtains Prod.fst (·.accept fd) := by
  refine obtains_guarded .accept (some fd) ⟨fun {kernel _ _} made => ?_, fun {kernel _ _} made => ?_⟩
  · split at made
    · dsimp only at made
      split at made
      · cases made
      · split at made
        · cases made
          exact (stays_update kernel _ _).opens ((opens_allocate _ _).stays ⟨rfl, Nat.le_refl _⟩)
        · cases made
          exact (stays_update kernel _ _).opens (opens_allocate _ _)
      · cases made
    · cases made
  · split at made
    · dsimp only at made
      split at made
      · cases made
        exact .refl kernel
      · split at made
        · cases made
        · cases made
      · cases made
        exact .refl kernel
    · cases made
      exact .refl kernel

/-- Two endpoints get descriptors, one after the other. -/
theorem opens_makePair {kernel after : Kernel} {result : Except Errno (Fd × Fd)}
    (made : kernel.makePair = (result, after)) :
    match result with
    | .error _ => kernel.Stays after
    | .ok (first, second) => ∃ middle, kernel.Opens first middle ∧ middle.Opens second after := by
  unfold makePair guarded at made
  dsimp only at made
  split at made
  · cases made
    exact ⟨rfl, Nat.le_refl _⟩
  · cases made
    refine ⟨_, Stays.opens ⟨?_, ?_⟩ (opens_allocate _ _), opens_allocate _ _⟩
    · rfl
    · exact Nat.le_refl _

/-! ## Closing -/

/-- An endpoint is closed without a change of the descriptors. -/
theorem stays_closeEndpoint (kernel : Kernel) (id : EndpointId) :
    kernel.Stays (kernel.closeEndpoint id) := by
  have abandoned (kernel : Kernel) (endpoint : Endpoint) : kernel.Stays (kernel.abandonPeer endpoint) := by
    unfold abandonPeer
    split
    · exact stays_update kernel _ _
    · exact .refl kernel
  unfold closeEndpoint
  split
  · exact .refl kernel
  · rename_i endpoint _
    refine (abandoned kernel endpoint).trans ?_
    dsimp only
    split
    · rename_i queue listening
      clear listening
      generalize kernel.abandonPeer endpoint = left
      induction queue generalizing left with
      | nil => exact .refl left
      | cons waiting rest ih =>
        rw [List.foldl_cons]
        refine Stays.trans ?_ (ih _)
        split
        · exact abandoned left _
        · exact .refl left
    · exact .refl _

/-- The number of a descriptor that is open is set free when it is closed. -/
theorem close_of_mem {kernel : Kernel} {number : Nat} (member : number ∈ kernel.descriptors) :
    (kernel.close number).1 = .ok () ∧
      (kernel.close number).2.descriptors = kernel.descriptors.filter (· != number) ∧
        kernel.now ≤ (kernel.close number).2.now := by
  obtain ⟨resource, found⟩ : ∃ resource, kernel.resources.lookup number = some resource := by
    obtain ⟨⟨number, resource⟩, listed, rfl⟩ := List.mem_map.mp member
    exact Option.isSome_iff_exists.mp (List.lookup_isSome_iff.mpr ⟨_, listed, beq_self_eq_true _⟩)
  have known : kernel.resource? (number : Nat) = some resource := found
  have kept : (kernel.resources.filter (·.1 != number)).map Prod.fst =
      kernel.descriptors.filter (· != number) := by
    unfold descriptors
    rw [List.filter_map]
    rfl
  unfold close
  rw [known]
  cases resource with
  | poller => exact ⟨rfl, kept, Nat.le_refl _⟩
  | endpoint id =>
    have stays := stays_closeEndpoint { kernel with
      resources := kernel.resources.filter (·.1 != number)
      watches := kernel.watches.filter (·.1 != number) } id
    exact ⟨rfl, stays.descriptors.trans kept, stays.now⟩

end Kernel

end EventLoop

import EventLoop.Proofs.Effect.Replies

/-!
# What waits in the loop for transports

A transport is stirred by callbacks of its own, which run in the order in which they became ready, and
it hears of its operations by reactions. Callbacks that are about no transport leave all of that alone.
-/
namespace EventLoop

/-- Whether a callback stirs a transport by itself. -/
def Callback.stirs (id : TransportId) : Callback → Bool
  | .connectionMade transport | .startReading transport | .connectionLost transport _ =>
    transport == id
  | .script .. | .step _ | .done .. | .readPipe | .resolve _ | .expire _ | .startAccepting _ => false

/-- A callback is about no transport. -/
def Callback.Apart (callback : Callback) : Prop := callback.transport? = none

instance : Callback.Common Callback.Apart where
  step _ := rfl
  expire _ := rfl
  wake _ _ := rfl

/-- A callback that is about no transport stirs none. -/
theorem Callback.stirs_of_apart {callback : Callback} (apart : callback.transport? = none)
    (id : TransportId) : callback.stirs id = false := by
  cases callback with
  | connectionMade | startReading | connectionLost => cases apart
  | script | step | done | readPipe | resolve | expire | startAccepting => rfl

/-- What stirs a transport is neither a reaction nor about none. -/
theorem Callback.rare_stirs (id : TransportId) : Rare Apart (·.stirs id) :=
  ⟨fun apart => stirs_of_apart apart id, fun _ _ => rfl⟩

namespace Loop

/-- The ready callbacks that stir a transport, in their order. -/
def stirs (loop : Loop) (id : TransportId) : List Callback := loop.ready.filter (·.stirs id)

/-- The same callbacks stir a transport if what is added is about none. -/
theorem Still.stirs {loop other : Loop} (still : loop.Still Callback.Apart other) (id : TransportId) :
    other.stirs id = loop.stirs id :=
  still.ready (Callback.rare_stirs id)

/-- A reaction that is registered stirs no transport. -/
theorem stirs_whenDone (loop : Loop) (id : FutureId) (reaction : Reaction)
    (transport : TransportId) :
    (loop.whenDone id reaction).stirs transport = loop.stirs transport := by
  rw [whenDone_eq]
  split
  · rfl
  · rw [callSoon_eq]
    unfold stirs
    cases loop.closed <;> simp [Callback.stirs]

/-- A callback that becomes ready stirs the transport that it is about. -/
theorem stirs_callSoon {loop : Loop} (opened : loop.closed = false) (callback : Callback)
    (transport : TransportId) :
    (loop.callSoon callback).stirs transport =
      loop.stirs transport ++ [callback].filter (·.stirs transport) := by
  rw [callSoon_eq, opened]
  exact List.filter_append _ _

end Loop

end EventLoop

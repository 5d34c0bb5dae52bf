import EventLoop.Machine.Step
import EventLoop.Proofs.Effect.Step

/-!
# Notices to protocols

A protocol is told of four things: that the connection is made, what data has arrived, that the stream has
ended and that the connection is lost. All four are told in the same way. The notice is taken down, and if a
protocol listens that has a method for it, the protocol writes down what it is handed and its script for such
notices comes next.
-/
namespace EventLoop

open Net (Arrival Listener Notice)

namespace Net

/-- What a protocol calls a notice in the journal. -/
def Notice.label : Notice → String
  | made => "made"
  | data _ => "data"
  | endOfStream => "eof"
  | lost _ => "lost"

/-- What a protocol is handed with a notice. -/
def Notice.value : Notice → Value
  | made | endOfStream => .null
  | data bytes => .ofBytes bytes
  | lost error => error.elim .null World.errorValue

/-- What waits until a protocol has done what it does about a notice. -/
def Notice.frames (id : TransportId) : Notice → List Frame
  | made => []
  | data _ => [.afterData id]
  | endOfStream => [.afterEnd id]
  | lost _ => [.afterLoss id]

/-- What a protocol is told of what has arrived. -/
def Arrival.notice? : Arrival → Option Notice
  | nothing => none
  | data bytes => some (.data bytes)
  | endOfStream => some .endOfStream

/-- What holds of each frame that may wait for a protocol holds of all that wait. -/
theorem Notice.of_frames {holds : Frame → Prop} (notice : Notice) {id : TransportId}
    (data : holds (.afterData id)) (ended : holds (.afterEnd id)) (lost : holds (.afterLoss id)) :
    ∀ frame ∈ notice.frames id, holds frame := by
  intro frame member
  cases notice with
  | made => exact absurd member List.not_mem_nil
  | data => exact List.mem_singleton.mp member ▸ data
  | endOfStream => exact List.mem_singleton.mp member ▸ ended
  | lost => exact List.mem_singleton.mp member ▸ lost

namespace Listener

/-- Whether a protocol has a method for a notice. -/
def heeds (listener : Listener) : Notice → Bool
  | .made | .data _ => true
  | .endOfStream | .lost _ => !listener.script.minimal

/-- What a protocol does about a notice. -/
def bodyFor (listener : Listener) : Notice → Script.Body
  | .made => listener.script.made
  | .data _ => listener.script.data
  | .endOfStream => listener.script.eof
  | .lost _ => listener.script.lost

/-- How the machine goes on when a protocol is told something. -/
def signal (listener : Listener) (notice : Notice) : Signal :=
  if listener.heeds notice then .script (.protocol listener.name) (listener.bodyFor notice) else .proceed

/-- What a protocol does before its script: it stores the transport that it was made for, and it writes data
back if it is to. -/
def prepare (listener : Listener) (id : TransportId) : Notice → WorldM Unit
  | .made => World.store .transport listener.name id
  | .data bytes => do if listener.script.echo then World.echo listener.name bytes
  | .endOfStream | .lost _ => return ()

/-- What becomes of the world when a protocol is told something: it writes down what it is handed. -/
def heed (listener : Listener) (id : TransportId) (notice : Notice) : WorldM Unit := do
  if listener.heeds notice then
    World.record (Actor.protocol listener.name).text notice.label notice.value
    listener.prepare id notice

variable {listener : Listener} {notice : Notice}

/-- A protocol that heeds a notice writes down what it is handed, and prepares for its script. -/
theorem heed_of_heeds (heeds : listener.heeds notice = true) (id : TransportId) :
    listener.heed id notice = World.record (Actor.protocol listener.name).text notice.label notice.value >>=
      fun _ => listener.prepare id notice := by
  unfold heed
  rw [if_pos heeds]

/-- A protocol without a method for a notice does nothing about it. -/
theorem heed_of_not_heeds (heedless : listener.heeds notice = false) (id : TransportId) :
    listener.heed id notice = pure () := by
  unfold heed
  rw [heedless]
  rfl

/-- The machine goes on with the script of the protocol, or just so. -/
theorem signal_cases (listener : Listener) (notice : Notice) : listener.signal notice = .proceed ∨
    ∃ actor body, listener.signal notice = .script actor body := by
  unfold signal
  split
  · exact Or.inr ⟨_, _, rfl⟩
  · exact Or.inl rfl

end Listener

end Net

namespace Machine

/-- Hands a notice to a protocol, if there is still one that listens. -/
def handTo (id : TransportId) (notice : Notice) : Option Listener → WorldM Move
  | none => return (notice.frames id, .proceed)
  | some listener => do
    listener.heed id notice
    return (notice.frames id, listener.signal notice)

/-- A protocol is handed a notice with the frame that waits for it and with its script, if there is one. -/
theorem fst_handTo (id : TransportId) (notice : Notice) (listener? : Option Listener) (world : World) :
    ∃ signal, (handTo id notice listener? world).1 = (notice.frames id, signal) ∧
      (signal = .proceed ∨ ∃ actor body, signal = .script actor body) := by
  cases listener? with
  | none => exact ⟨.proceed, rfl, Or.inl rfl⟩
  | some listener => exact ⟨listener.signal notice, rfl, listener.signal_cases notice⟩

/-- Whoever is told that the connection is made is handed this notice. -/
theorem tellMade_eq (id : TransportId) :
    tellMade id = World.tellProtocol id .made >>= handTo id .made := by
  funext world
  unfold tellMade
  rw [StateM.bind_apply, StateM.bind_apply]
  cases (World.tellProtocol id .made world).1 with
  | none => rfl
  | some listener => rfl

/-- Whoever is handed data is handed this notice. -/
theorem tellData_eq (id : TransportId) (bytes : Bytes) :
    tellData id bytes = World.tellProtocol id (.data bytes) >>= handTo id (.data bytes) := by
  funext world
  unfold tellData
  rw [StateM.bind_apply, StateM.bind_apply]
  cases (World.tellProtocol id (.data bytes) world).1 with
  | none => rfl
  | some listener =>
    unfold handTo Listener.heed Listener.prepare
    dsimp only
    cases listener.script.echo with
    | true => rfl
    | false => rfl

/-- Whoever is told that the stream has ended is handed this notice. -/
theorem tellEnd_eq (id : TransportId) :
    tellEnd id = World.tellProtocol id .endOfStream >>= handTo id .endOfStream := by
  funext world
  unfold tellEnd
  rw [StateM.bind_apply, StateM.bind_apply]
  cases (World.tellProtocol id .endOfStream world).1 with
  | none => rfl
  | some listener =>
    unfold handTo Listener.heed Listener.signal Listener.heeds
    dsimp only
    cases listener.script.minimal with
    | true => rfl
    | false => rfl

/-- Whoever is told that the connection is lost is handed this notice. -/
theorem tellLost_eq (id : TransportId) (error : Option Error) :
    tellLost id error = World.takeProtocol id error >>= handTo id (.lost error) := by
  funext world
  unfold tellLost
  rw [StateM.bind_apply, StateM.bind_apply]
  cases (World.takeProtocol id error world).1 with
  | none => rfl
  | some listener =>
    unfold handTo Listener.heed Listener.signal Listener.heeds
    dsimp only
    cases listener.script.minimal with
    | true => rfl
    | false =>
      cases error with
      | none => rfl
      | some error => rfl

/-- If nothing has arrived, the machine just goes on. -/
theorem react_of_nothing {id : TransportId} {future : FutureId} {world : World}
    (nothing : (World.receiveEnded id future world).1 = .nothing) :
    react future (.received id) world =
      (World.receiveEnded id future >>= fun _ => give .proceed) world := by
  simp only [react, StateM.bind_apply, nothing]

/-- If something has arrived, a protocol is handed the notice of it. -/
theorem react_of_notice {id : TransportId} {future : FutureId} {world : World} {notice : Notice}
    (tells : (World.receiveEnded id future world).1.notice? = some notice) :
    react future (.received id) world =
      ((World.receiveEnded id future >>= fun _ => World.tellProtocol id notice) >>= handTo id notice) world := by
  rw [bind_assoc]
  cases arrived : (World.receiveEnded id future world).1 with
  | nothing =>
    rw [arrived] at tells
    cases tells
  | data bytes =>
    rw [arrived] at tells
    cases tells
    simp only [react, StateM.bind_apply, arrived, tellData_eq]
  | endOfStream =>
    rw [arrived] at tells
    cases tells
    simp only [react, StateM.bind_apply, arrived, tellEnd_eq]

end Machine

end EventLoop

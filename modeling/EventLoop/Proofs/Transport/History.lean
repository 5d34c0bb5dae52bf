import EventLoop.Net.Transport
import Mathlib.Data.List.Basic

/-!
# The history of a transport

What is said about the course of a transport is read off its history: what its protocol was told, what
was written and submitted, and how the sends went. A law of histories says of each event what may have
happened before it.
-/
namespace EventLoop.Net

/-- What the protocol was told by an event. -/
def Event.notice? : Event → Option Notice
  | .told notice => some notice
  | .written .. | .submitted _ | .sent _ | .receiving | .closing | .discarded | .announced _
  | .shut => none

/-- The data that was written by an event while the transport was active. -/
def Event.accepted? : Event → Option Bytes
  | .written data true => some data
  | .written _ false | .told _ | .submitted _ | .sent _ | .receiving | .closing | .discarded
  | .announced _ | .shut => none

/-- The data that was submitted by an event. -/
def Event.submitted? : Event → Option Bytes
  | .submitted data => some data
  | .written .. | .told _ | .sent _ | .receiving | .closing | .discarded | .announced _ | .shut => none

/-- Whether an event is the beginning or the end of a send. -/
def Event.isOfSend : Event → Bool
  | .submitted _ | .sent _ => true
  | .told _ | .written .. | .receiving | .closing | .discarded | .announced _ | .shut => false

/-- Whether the loss of the connection was announced by an event. -/
def Event.isAnnouncement : Event → Bool
  | .announced _ => true
  | .told _ | .written .. | .submitted _ | .sent _ | .receiving | .closing | .discarded
  | .shut => false

/-- Whether the protocol was told by an event of something that arrived. -/
def Event.isArrival : Event → Bool
  | .told (.data _) | .told .endOfStream => true
  | .told .made | .told (.lost _) | .written .. | .submitted _ | .sent _ | .receiving | .closing
  | .discarded | .announced _ | .shut => false

/-- Whether a protocol is told that the connection is lost. -/
def Notice.isLoss : Notice → Bool
  | .lost _ => true
  | .made | .data _ | .endOfStream => false

/-- What the protocol was told, in order. -/
def notices (events : List Event) : List Notice := events.filterMap Event.notice?

/-- All data that was written while the transport was active, in order. -/
def accepted (events : List Event) : Bytes := (events.filterMap Event.accepted?).flatten

/-- All data that was submitted to be sent, in order. -/
def submitted (events : List Event) : Bytes := (events.filterMap Event.submitted?).flatten

/-- The beginnings and ends of sends, in order. -/
def sends (events : List Event) : List Event := events.filter Event.isOfSend

/-- Whether the transport was asked to close or was closed at once. -/
def Left (events : List Event) : Prop := .closing ∈ events ∨ .discarded ∈ events

variable {events more : List Event} {event : Event}

/-- What was told in a history is put together from its parts. -/
theorem notices_append : notices (events ++ more) = notices events ++ notices more :=
  List.filterMap_append

/-- A notice was told if the history says so. -/
theorem mem_notices {notice : Notice} : notice ∈ notices events ↔ .told notice ∈ events := by
  refine List.mem_filterMap.trans ⟨fun ⟨event, member, told⟩ => ?_, fun member => ⟨_, member, rfl⟩⟩
  cases event with
  | told other =>
    cases told
    exact member
  | written | submitted | sent | receiving | closing | discarded | announced | shut => cases told

/-- What was accepted in a history is put together from its parts. -/
theorem accepted_append : accepted (events ++ more) = accepted events ++ accepted more := by
  rw [accepted, List.filterMap_append, List.flatten_append]
  rfl

/-- What was submitted in a history is put together from its parts. -/
theorem submitted_append : submitted (events ++ more) = submitted events ++ submitted more := by
  rw [submitted, List.filterMap_append, List.flatten_append]
  rfl

/-- An event that submits nothing adds nothing to what was submitted. -/
theorem submitted_snoc (none : event.submitted? = none) :
    submitted (events ++ [event]) = submitted events := by simp [submitted, none]

/-- An event that writes nothing adds nothing to what was written. -/
theorem accepted_snoc (none : event.accepted? = none) :
    accepted (events ++ [event]) = accepted events := by simp [accepted, none]

/-- The sends of a history are put together from its parts. -/
theorem sends_append : sends (events ++ more) = sends events ++ sends more := List.filter_append _ _

/-- A transport that left the active state left it in one part of its history. -/
theorem left_append : Left (events ++ more) ↔ Left events ∨ Left more := by
  simp only [Left, List.mem_append]
  exact or_or_or_comm

/-! ## Taking events down -/

namespace Transport

variable (transport : Transport) (event : Event)

/-- What is taken down stands at the end of the history. -/
@[simp] theorem history_note : (transport.note event).history = transport.history ++ [event] := rfl

/-- Taking something down leaves the protocol alone. -/
@[simp] theorem protocol_note : (transport.note event).protocol = transport.protocol := rfl

/-- Taking something down leaves the status alone. -/
@[simp] theorem status_note : (transport.note event).status = transport.status := rfl

/-- Taking something down leaves the buffer alone. -/
@[simp] theorem buffer_note : (transport.note event).buffer = transport.buffer := rfl

/-- Taking something down leaves the send under way alone. -/
@[simp] theorem writing_note : (transport.note event).writing = transport.writing := rfl

/-- Taking something down leaves the count of lost writes alone. -/
@[simp] theorem lost_note : (transport.note event).lost = transport.lost := rfl

/-- Taking something down leaves the announcement alone. -/
@[simp] theorem announced_note : (transport.note event).announced = transport.announced := rfl

end Transport

/-! ## Laws of histories -/

/-- Every event of a history was preceded as a law demands. -/
def Chronicle (law : List Event → Event → Prop) (events : List Event) : Prop :=
  ∀ before event after, events = before ++ event :: after → law before event

namespace Chronicle

variable {law : List Event → Event → Prop}

/-- Every law is kept by a history in which nothing happened. -/
theorem nil : Chronicle law [] := by
  intro before event after same
  simp at same

/-- A history goes on with an event that the law allows. -/
theorem snoc (chronicle : Chronicle law events) (holds : law events event) :
    Chronicle law (events ++ [event]) := by
  intro before last after same
  rcases List.eq_nil_or_concat after with rfl | ⟨rest, final, rfl⟩
  · obtain ⟨rfl, here⟩ := List.append_inj' same rfl
    cases here
    exact holds
  · rw [List.concat_eq_append, ← List.cons_append, ← List.append_assoc] at same
    exact chronicle before last rest (List.append_inj' same rfl).1

/-- A history goes on with events that the law allows at any time. -/
theorem append (chronicle : Chronicle law events)
    (allowed : ∀ event ∈ more, ∀ before, law before event) : Chronicle law (events ++ more) := by
  induction more generalizing events with
  | nil => rwa [List.append_nil]
  | cons first rest ih =>
    rw [List.append_cons]
    refine ih (chronicle.snoc (allowed first List.mem_cons_self events)) fun event member => ?_
    exact allowed event (List.mem_cons_of_mem first member)

/-- A chronicle keeps every weaker law. -/
theorem mono {weaker : List Event → Event → Prop} (chronicle : Chronicle law events)
    (weakens : ∀ before event, law before event → weaker before event) : Chronicle weaker events :=
  fun before event after same => weakens before event (chronicle before event after same)

end Chronicle

/-! ## What a protocol is told -/

/-- First that the connection is made, then data any number of times, then perhaps that the peer sends
nothing more, and then perhaps that the connection is lost. -/
def Orderly (notices : List Notice) : Prop :=
  notices = [] ∨ ∃ (pieces : List Bytes) (ended lost : List Notice),
    notices = .made :: pieces.map .data ++ ended ++ lost ∧
      (ended = [] ∨ ended = [.endOfStream]) ∧ (lost = [] ∨ ∃ error, lost = [.lost error])

namespace Orderly

variable {notices : List Notice}

/-- As long as the stream has not ended and the connection is not lost, only data followed. -/
theorem pieces (orderly : Orderly notices) {rest : List Notice} (made : notices = .made :: rest)
    (goes : .endOfStream ∉ notices) (stands : ∀ error, .lost error ∉ notices) :
    ∃ pieces : List Bytes, notices = .made :: pieces.map .data := by
  rcases orderly with rfl | ⟨pieces, ended, lost, rfl, ends, loses⟩
  · cases made
  · have noEnd : ended = [] := by
      refine ends.resolve_right ?_
      rintro rfl
      exact goes (by simp)
    have noLoss : lost = [] := by
      refine loses.resolve_right ?_
      rintro ⟨error, rfl⟩
      exact stands error (by simp)
    exact ⟨pieces, by rw [noEnd, noLoss, List.append_nil, List.append_nil]⟩

/-- Data may be told after the connection was made, before its end and its loss. -/
theorem data (orderly : Orderly notices) {rest : List Notice} (made : notices = .made :: rest)
    (goes : .endOfStream ∉ notices) (stands : ∀ error, .lost error ∉ notices) (bytes : Bytes) :
    Orderly (notices ++ [Notice.data bytes]) := by
  obtain ⟨pieces, rfl⟩ := orderly.pieces made goes stands
  exact Or.inr ⟨pieces ++ [bytes], [], [], by simp, Or.inl rfl, Or.inl rfl⟩

/-- The end of the stream may be told once, after the connection was made and before its loss. -/
theorem endOfStream (orderly : Orderly notices) {rest : List Notice}
    (made : notices = .made :: rest) (goes : .endOfStream ∉ notices)
    (stands : ∀ error, .lost error ∉ notices) : Orderly (notices ++ [Notice.endOfStream]) := by
  obtain ⟨pieces, rfl⟩ := orderly.pieces made goes stands
  exact Or.inr ⟨pieces, [.endOfStream], [], by simp, Or.inr rfl, Or.inl rfl⟩

/-- The loss of the connection may be told once, after it was made. -/
theorem lost (orderly : Orderly notices) {rest : List Notice} (made : notices = .made :: rest)
    (stands : ∀ error, .lost error ∉ notices) (error : Option Error) :
    Orderly (notices ++ [Notice.lost error]) := by
  rcases orderly with rfl | ⟨pieces, ended, lost, rfl, ends, loses⟩
  · cases made
  · have noLoss : lost = [] := by
      refine loses.resolve_right ?_
      rintro ⟨other, rfl⟩
      exact stands other (by simp)
    refine Or.inr ⟨pieces, ended, [.lost error], ?_, ends, Or.inr ⟨error, rfl⟩⟩
    rw [noLoss, List.append_nil]

/-- The protocol is told once that the connection is lost, if at all. -/
theorem losses (orderly : Orderly notices) : notices.countP Notice.isLoss ≤ 1 := by
  rcases orderly with rfl | ⟨pieces, ended, lost, rfl, ends, loses⟩
  · exact Nat.zero_le 1
  · have data : (pieces.map Notice.data).countP Notice.isLoss = 0 := by
      rw [List.countP_map]
      exact List.countP_eq_zero.mpr fun _ _ => Bool.false_ne_true
    have stream : ended.countP Notice.isLoss = 0 := by
      rcases ends with rfl | rfl
      · rfl
      · rfl
    have one : lost.countP Notice.isLoss ≤ 1 := by
      rcases loses with rfl | ⟨error, rfl⟩
      · exact Nat.zero_le 1
      · exact Nat.le_refl 1
    rw [List.countP_append, List.countP_append, List.countP_cons_of_neg Bool.false_ne_true, data,
      stream]
    omega

end Orderly

/-! ## How sends go -/

/-- Whether a transport goes on as before when a send has ended so: without an error, or with the error of a
cancelled operation, which it passes over. -/
def IsMild (error : Option Error) : Prop := error = none ∨ error = some .cancelled

/-- All sends so far were submitted and then ended without an error, one after another. -/
def Finished (events : List Event) : Prop :=
  ∃ pieces : List Bytes, sends events = pieces.flatMap fun data => [.submitted data, .sent none]

/-- All sends so far were submitted and then ended mildly, one after another. -/
def Ended (events : List Event) : Prop :=
  ∃ rounds : List (Bytes × Option Error), (∀ round ∈ rounds, IsMild round.2) ∧
    sends events = rounds.flatMap fun round => [.submitted round.1, .sent round.2]

/-- All sends but the last one have ended mildly, and the last one was submitted. -/
def Sending (events : List Event) : Prop :=
  ∃ (rounds : List (Bytes × Option Error)) (data : Bytes), (∀ round ∈ rounds, IsMild round.2) ∧
    sends events =
      (rounds.flatMap fun round => [.submitted round.1, .sent round.2]) ++ [.submitted data]

/-- The last send has ended with the error of a cancelled operation, and none was submitted since. -/
def Stalled (events : List Event) : Prop :=
  (sends events).getLast? = some (.sent (some .cancelled))

/-- The only error that says that an operation was cancelled. -/
theorem eq_cancelled {error : Error} (cancels : error.isCancelled = true) : error = .cancelled := by
  cases error with
  | cancelled => rfl
  | illegalState | illegalValue | connectionReset | connectionAborted | io => cases cancels

/-- The next send is submitted after all others have ended. -/
theorem Ended.submit (ended : Ended events) (data : Bytes) :
    Sending (events ++ [Event.submitted data]) := by
  obtain ⟨rounds, mild, same⟩ := ended
  exact ⟨rounds, data, mild, by rw [sends_append, same]; rfl⟩

/-- The last send ends. -/
theorem Sending.ends (sending : Sending events) {error : Option Error} (mild : IsMild error) :
    Ended (events ++ [Event.sent error]) := by
  obtain ⟨rounds, data, milds, same⟩ := sending
  refine ⟨rounds ++ [(data, error)], fun round member => ?_, ?_⟩
  · rcases List.mem_append.mp member with earlier | last
    · exact milds round earlier
    · rw [List.mem_singleton.mp last]
      exact mild
  · rw [sends_append, same, List.flatMap_append, List.append_assoc]
    rfl

/-- Events that are no sends leave all sends ended. -/
theorem Ended.congr (ended : Ended events) (none : sends more = []) : Ended (events ++ more) := by
  obtain ⟨rounds, mild, same⟩ := ended
  exact ⟨rounds, mild, by rw [sends_append, none, List.append_nil, same]⟩

/-- Events that are no sends leave the last send under way. -/
theorem Sending.congr (sending : Sending events) (none : sends more = []) : Sending (events ++ more) := by
  obtain ⟨rounds, data, mild, same⟩ := sending
  exact ⟨rounds, data, mild, by rw [sends_append, none, List.append_nil, same]⟩

/-- Events that are no sends leave the last send as it has ended. -/
theorem Stalled.congr (stalled : Stalled events) (none : sends more = []) : Stalled (events ++ more) := by
  unfold Stalled
  rw [sends_append, none, List.append_nil]
  exact stalled

/-- A send has just ended with the error of a cancelled operation. -/
theorem stalled_sent (events : List Event) : Stalled (events ++ [Event.sent (some .cancelled)]) := by
  unfold Stalled
  rw [sends_append]
  exact List.getLast?_concat

/-- Sends that have ended mildly, none of them with an error, are finished. -/
theorem Ended.finished (ended : Ended events) (fine : ∀ error, .sent (some error) ∉ events) :
    Finished events := by
  obtain ⟨rounds, -, same⟩ := ended
  have errorless : ∀ round ∈ rounds, round.2 = none := fun round member => by
    cases outcome : round.2 with
    | none => rfl
    | some error =>
      have sent : .sent (some error) ∈ sends events := by
        rw [same]
        refine List.mem_flatMap.mpr ⟨round, member, ?_⟩
        rw [outcome]
        exact List.mem_cons_of_mem _ List.mem_cons_self
      exact absurd (List.mem_filter.mp sent).1 (fine error)
  refine ⟨rounds.map Prod.fst, same.trans ?_⟩
  rw [List.flatMap_map]
  exact List.flatMap_congr fun round member => by rw [errorless round member]

/-- If all sends are finished, none of them has failed. -/
theorem Finished.fine (finished : Finished events) (error : Error) : .sent (some error) ∉ events := by
  intro member
  obtain ⟨pieces, same⟩ := finished
  have sent : .sent (some error) ∈ sends events := List.mem_filter.mpr ⟨member, rfl⟩
  rw [same] at sent
  obtain ⟨data, -, round⟩ := List.mem_flatMap.mp sent
  simp at round

end EventLoop.Net

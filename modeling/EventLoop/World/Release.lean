import EventLoop.World.Primitives

/-!
# Letting go

An object lives as long as something mentions it: a name, something that waits in the loop, another
object that lives, or what is under way at the moment. When a reference was given up and nothing
mentions the object any more, the object is released: a socket is closed, the program of a task is
given up, and whatever the object kept alive is given up in turn. Objects that mention each other in a
circle keep each other alive.
-/
namespace EventLoop.World

open Script (Part)
open Net (Transport Server)

/-- The reference that a part of a suspended program is. -/
def partRef? : Part → Option Ref
  | .place _ future | .future future => some (.future future)
  | .socket socket => some (.socket socket)
  | .transport transport => some (.transport transport)
  | .guard _ => none

/-- The objects that a suspended program keeps alive. -/
def activityRefs (activity : Script.Activity) : List Ref := activity.parts.filterMap partRef?

/-- The objects that a task keeps alive. -/
def taskRefs (task : Task) : List Ref :=
  .future task.result :: match task.activity? with
    | some activity => activityRefs activity
    | none => []

/-- The objects that the loop's own pipe keeps alive. -/
def pipeRefs (world : World) : List Ref :=
  match world.pipe with
  | some pipe => [.socket pipe.reader, .socket pipe.writer]
  | none => []

/-- Whether a name stands for an object. -/
def isNamed (world : World) (ref : Ref) : Bool :=
  world.names.any fun ((kind, _), id) => refOf kind id == some ref

/-- Whether something that waits in the loop mentions an object. -/
def isAwaited (loop : Loop) (ref : Ref) : Bool :=
  loop.dropped.contains ref
    || loop.ready.any (·.refs.contains ref)
    || loop.timers.entries.any (·.refs.contains ref)
    || loop.live.slots.any (fun slot => slot.map Ref.task == some ref)

/-- Whether an object that lives mentions an object. -/
def isPartOfObject (world : World) (ref : Ref) : Bool :=
  world.transports.any (fun entry => entry.any (·.refs.contains ref))
    || world.servers.any (fun entry => entry.any (·.refs.contains ref))
    || world.loop.tasks.any (fun task => (taskRefs task).contains ref)
    || world.loop.futures.any (·.refs.contains ref)
    || (world.operations.map Ref.future).contains ref
    || world.pipeRefs.contains ref

/-- Whether anything mentions an object. -/
def isMentioned (world : World) (ref : Ref) : Bool :=
  world.isNamed ref || world.held.contains ref || isAwaited world.loop ref
    || world.isPartOfObject ref

/-- Whether releasing an object would make a difference. -/
def isMissed (world : World) : Ref → Bool
  | .socket id => world.isOpen id
  | .future id => (world.loop.futures.get? id).any (·.isMissed)
  | .task id => (world.loop.tasks.get? id).any (·.activity?.isSome)
  | .transport id => (world.transports.get? id).any (·.isSome)
  | .server id => (world.servers.get? id).any (·.isSome)

/-- Releases an object that nothing mentions. -/
def release : Ref → WorldM Unit
  | .socket id => closeSocket id
  | .future id => do
    if let some future := (← get).loop.futures.get? id then
      changeLoop fun loop =>
        { loop with futures := loop.futures.modify id Future.emptied }.drop future.refs
  | .task id => do
    if let some task := (← get).loop.tasks.get? id then
      changeLoop (·.setPhase id .cancelled)
      if let some activity := task.activity? then abandonProgram task.name activity
      drop (.future task.result)
  | .transport id => do
    if let some transport := ((← get).transports.get? id).join then
      modify fun world =>
        { world with transports := world.transports.modify id fun _ => none }
      changeLoop (·.drop transport.refs)
  | .server id => do
    if let some server := ((← get).servers.get? id).join then
      modify fun world => { world with servers := world.servers.modify id fun _ => none }
      changeLoop (·.drop server.refs)

/-- Releases an object that would be missed, unless something mentions it; returns the references that
it gives up in turn. -/
def releaseUnmentioned (ref : Ref) : WorldM (List Ref) := do
  let world ← get
  if world.isMissed ref && !world.isMentioned ref then
    changeLoop fun loop => { loop with dropped := [] }
    release ref
    let given := (← get).loop.dropped
    changeLoop fun loop => { loop with dropped := world.loop.dropped }
    return given
  else return []

/-- Looks at the first reference that was given up. What its object gives up in turn is looked at
before the others. -/
def settleDropped (ref : Ref) (rest : List Ref) : WorldM Unit := do
  changeLoop fun loop => { loop with dropped := rest }
  let given ← releaseUnmentioned ref
  changeLoop fun loop => { loop with dropped := given ++ rest }

/-- Does something while an object is kept alive. -/
def keeping {α : Type} (ref : Ref) (action : WorldM α) : WorldM α := do
  let held := (← get).held
  modify fun world => { world with held := ref :: held }
  let result ← action
  modify fun world => { world with held }
  return result

/-- An operation that is over gives its future up. That is looked at before anything else happens: a
connection that nobody else mentions is closed at once. -/
def letGo (future : FutureId) : WorldM Unit := do
  modify fun world => { world with operations := world.operations.erase future }
  (← releaseUnmentioned (.future future)).forM fun ref => do
    let given ← releaseUnmentioned ref
    changeLoop (·.drop given)

end EventLoop.World

import EventLoop.Entry.Expansion
import EventLoop.Scenario
import EventLoop.Proofs.Loop
import EventLoop.Proofs.Effect.Exposure
import EventLoop.Proofs.Effect.Change
import EventLoop.Proofs.Effect.Calm
import EventLoop.Proofs.Effect.Connections
import EventLoop.Proofs.Effect.Instructions
import EventLoop.Proofs.Effect.Waits
import EventLoop.Proofs.Machine.Attendance
import EventLoop.Proofs.Machine.Callbacks
import EventLoop.Proofs.Machine.Frames
import EventLoop.Proofs.Machine.Run
import EventLoop.Proofs.Sync.Grants
import EventLoop.Proofs.Sync.Turnover
import EventLoop.Proofs.Sync.Exclusion
import EventLoop.Proofs.Sync.Answers
import EventLoop.Proofs.Sync.Permits
import EventLoop.Proofs.Sync.Entries
import EventLoop.Proofs.Sync.Withdrawal
import EventLoop.Proofs.Sync.Relock
import EventLoop.Proofs.Sync.Acquisitions
import EventLoop.Proofs.Sync.Arrivals
import EventLoop.Proofs.Proactor.Line
import EventLoop.Proofs.Proactor.Turns
import EventLoop.Proofs.Proactor.Registrations
import EventLoop.Proofs.Proactor.Sends
import EventLoop.Proofs.Proactor.Service
import EventLoop.Proofs.Proactor.Roster
import EventLoop.Proofs.Proactor.Guard
import EventLoop.Proofs.Proactor.Ledger
import EventLoop.Proofs.Proactor.Attempts
import EventLoop.Proofs.Proactor.Serving
import EventLoop.Proofs.Proactor.Keys
import EventLoop.Proofs.Proactor.Duties
import EventLoop.Proofs.Live
import EventLoop.Proofs.Slots
import EventLoop.Proofs.Rousing
import EventLoop.Proofs.Effect.Wakeups
import EventLoop.Proofs.Machine.Wakeups
import EventLoop.Proofs.Transport.Course
import EventLoop.Proofs.Transport.Drift
import EventLoop.Proofs.Transport.Standing
import EventLoop.Proofs.Transport.Losses
import EventLoop.Proofs.Transport.Telling
import EventLoop.Proofs.Transport.Overseen
import EventLoop.Proofs.Transport.Sending
import EventLoop.Proofs.Transport.Traffic
import EventLoop.Proofs.Transport.Following
import EventLoop.Proofs.Transport.Noting
import EventLoop.Proofs.Machine.Errands
import EventLoop.Proofs.Machine.Overseeing
import EventLoop.Proofs.Machine.Dealings
import EventLoop.Proofs.Machine.Recounting
import EventLoop.Proofs.Machine.Transports
import EventLoop.Proofs.Timers
import EventLoop.Proofs.Machine.Timers
import EventLoop.Proofs.Effect.Agenda
import EventLoop.Proofs.Machine.Sedate
import EventLoop.Proofs.Machine.Stages
import EventLoop.Proofs.Machine.Iterations
import EventLoop.Proofs.Machine.Calls
import EventLoop.Proofs.Machine.Reactions
import EventLoop.Proofs.Vigil
import EventLoop.Proofs.Machine.Lives
import EventLoop.Proofs.Machine.Endings
import EventLoop.Proofs.Descriptors.Kernel
import EventLoop.Proofs.Descriptors.Deal
import EventLoop.Proofs.Descriptors.Trades
import EventLoop.Proofs.Descriptors.Engine
import EventLoop.Proofs.Descriptors.Instructions
import EventLoop.Proofs.Descriptors.Moves
import EventLoop.Proofs.Descriptors.Ownership
import EventLoop.Proofs.Descriptors.Owners
import EventLoop.Proofs.Machine.Collection
import EventLoop.Proofs.Machine.Deadlines
import EventLoop.Proofs.Effect.Silence
import EventLoop.Proofs.Machine.Shutdown
import EventLoop.Proofs.Machine.Shutting
import EventLoop.Proofs.Descriptors.Closings
import EventLoop.Proofs.Machine.Closing
import EventLoop.Proofs.Effect.Requests
import EventLoop.Proofs.Machine.Outsets
import EventLoop.Proofs.Machine.Requests
import EventLoop.Proofs.Machine.Sleep
import EventLoop.Proofs.Effect.Retention
import EventLoop.Proofs.Server.Rounds
import EventLoop.Proofs.Server.Attended
import EventLoop.Proofs.Server.Listeners
import EventLoop.Proofs.Server.Tending
import EventLoop.Proofs.Server.Accepting
import EventLoop.Proofs.Machine.Hosting
import EventLoop.Proofs.Machine.Servers
import EventLoop.Proofs.Sync.Timeouts
import EventLoop.Proofs.Sync.Events
import EventLoop.Proofs.Sync.Notices
import EventLoop.Proofs.Machine.Leaves
import EventLoop.Proofs.Sync.Notified
import EventLoop.Proofs.Sync.Predicates
import EventLoop.Proofs.Sync.Lobby
import EventLoop.Proofs.Sync.Lobbies
import EventLoop.Proofs.Entry.Arguments
import EventLoop.Proofs.Entry.Settings
import EventLoop.Proofs.Entry.Spelling
import EventLoop.Proofs.Effect.Conservation
import EventLoop.Proofs.Machine.Settling
import EventLoop.Proofs.Machine.Failures
import EventLoop.Proofs.Timeouts
import EventLoop.Proofs.Effect.Timeouts
import EventLoop.Proofs.Machine.Timeouts
import EventLoop.Proofs.Transport.Reading
import EventLoop.Proofs.Transport.Intake
import EventLoop.Proofs.Machine.Readings
import EventLoop.Proofs.Machine.ReadLogs

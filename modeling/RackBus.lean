import RackBus.Bridge.Operation
import RackBus.Document.Load
import RackBus.Simulation.Chain
import RackBus.Simulation.Script
import RackBus.Snapshot
import RackBus.Proofs.Checked
import RackBus.Proofs.Discovery
import RackBus.Proofs.Layout
import RackBus.Proofs.RosterHistory
import RackBus.Proofs.Conduct
import RackBus.Proofs.Lifecycle
import RackBus.Proofs.Restart
import RackBus.Proofs.Upkeep
import RackBus.Proofs.Wiring
import RackBus.Proofs.Recipient
import RackBus.Proofs.Halt
import RackBus.Proofs.Rounds
import RackBus.Proofs.BringUp
import RackBus.Proofs.Exclusion
import RackBus.Proofs.Flags
import RackBus.Proofs.StatusByte
import RackBus.Proofs.Attempt
import RackBus.Proofs.Course
import RackBus.Proofs.Patience
import RackBus.Proofs.Tries
import RackBus.Proofs.Reading
import RackBus.Proofs.Saving
import RackBus.Proofs.Session
import RackBus.Proofs.Framing
import RackBus.Proofs.ErrorCount
import RackBus.Proofs.Controls
import RackBus.Proofs.Confinement
import RackBus.Proofs.Repetition
import RackBus.Proofs.Accounting
import RackBus.Proofs.Rearrangement
import RackBus.Proofs.Sharing
import RackBus.Proofs.Packing
import RackBus.Proofs.Admission
import RackBus.Proofs.Streaks
import RackBus.Proofs.Lamps
import RackBus.Proofs.Waiting
import RackBus.Proofs.Dialogue
import RackBus.Proofs.Refusal
import RackBus.Proofs.Records
import RackBus.Proofs.Writing
import RackBus.Proofs.Resaving
import RackBus.Proofs.Presence

import RackBus.Bridge.Basic
import RackBus.Json.Write

/-!
# Snapshots

What a person who watches a bridge is shown: the state of the bridge and of its survey, the status
flags, the error count, and one line for every row of the roster.
-/

set_option autoImplicit false

namespace RackBus

universe u

/-- What is shown of one row. -/
structure RowView where
  /-- The index of the row. -/
  index : Nat
  /-- The row. -/
  row : Row

/-- What is shown of a bridge. -/
structure Snapshot where
  /-- What the bridge is doing. -/
  state : Lifecycle
  /-- The phase of its survey. -/
  phase : Phase
  /-- The status flags. -/
  status : Status
  /-- The error count of the last round of polling. -/
  errors : UInt16
  /-- The rows. -/
  devices : List RowView

namespace RowView

/-- Was the module found on the bus? -/
def connected (v : RowView) : Bool := !v.row.identity.type.isAbsent

/-- The record that is written. -/
def toJson (v : RowView) : Json.Value :=
  .record
    [("index", .ofNat v.index),
      ("address", .ofNat v.row.address.value.toNat),
      ("module_type", .ofNat v.row.identity.type.code.toNat),
      ("module_name", .ofText v.row.identity.type.text),
      ("serial_number", .ofNat v.row.identity.serial.toNat),
      ("input_offset", .ofNat v.row.inputOffset.toNat),
      ("input_length", .ofNat v.row.identity.inputLength.toNat),
      ("output_offset", .ofNat v.row.outputOffset.toNat),
      ("output_length", .ofNat v.row.identity.outputLength.toNat),
      ("active", .bool v.row.active),
      ("connected", .bool v.connected),
      ("error_count", .ofNat v.row.errors.toNat)]

end RowView

namespace Snapshot

/-- What is shown of a bridge at this moment. -/
def capture {σ : Type u} (b : Bridge σ) : Snapshot where
  state := b.control.state
  phase := b.survey.phase
  status := b.control.status
  errors := b.control.errors
  devices := b.roster.rows.zipIdx.map fun e ↦ ⟨e.2, e.1⟩

/-- The record that is written. -/
def toJson (s : Snapshot) : Json.Value :=
  .record
    [("bridge_state", .ofText s.state.text),
      ("scan_state", .ofText s.phase.text),
      ("status", .ofNat s.status.bits.toNat),
      ("status_flags", .array (s.status.names.map .ofText)),
      ("aggregate_errors", .ofNat s.errors.toNat),
      ("devices", .array (s.devices.map RowView.toJson))]

/-- The snapshot as a text without blanks. -/
def text (s : Snapshot) : String := s.toJson.compact

end Snapshot
end RackBus

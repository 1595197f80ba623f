import RackBus.Document.Basic
import RackBus.Json.Write

/-!
# Documents as JSON

A document is a record with two fields, the settings and the modules, each a record of its own.
The fields of the settings may be absent or `null`; a module needs its address, its type and the
number of its input and output bytes, and everything else is zero when it is absent.

* `Document.ofJson?` reads a value, `Document.toJson` is the value that is written.
* Written settings name only what is set; written modules name everything.
-/

set_option autoImplicit false

namespace RackBus

open Json (Value required withDefault optional)

/-! ## Numbers of a fixed width -/

namespace Json.Value

/-- A number below 2⁸. -/
def byte? (v : Value) : Option UInt8 := (v.natural? 255).map UInt8.ofNat

/-- A number below 2¹⁶. -/
def word? (v : Value) : Option UInt16 := (v.natural? 65535).map UInt16.ofNat

/-- A number below 2³². -/
def double? (v : Value) : Option UInt32 := (v.natural? 4294967295).map UInt32.ofNat

/-- A number below 2⁶⁴. -/
def long? (v : Value) : Option UInt64 := (v.natural? 18446744073709551615).map UInt64.ofNat

end Json.Value

/-- A member that is written only if there is something to write. -/
def Json.member? {α : Type} (name : String) (write : α → Value) (value : Option α) :
    List (String × Value) :=
  match value with
  | none => []
  | some v => [(name, write v)]

/-! ## Waiting times -/

namespace TimingOverrides

/-- The names of the fields. -/
def names : List String :=
  ["presencePulseUs", "presenceSettleUs", "configEnableDwellUs", "handshakeSettleMs",
    "dataExchangeStartMs"]

/-- The waiting times in a value. -/
def ofJson? (v : Value) : Option TimingOverrides :=
  match v.fields? names with
  | some [pulse, settle, dwell, enrolment, start] => do
    return {
      presencePulse := ← optional Value.long? pulse
      presenceSettle := ← optional Value.long? settle
      enableDwell := ← optional Value.long? dwell
      enrolmentPause := ← optional Value.double? enrolment
      startPause := ← optional Value.double? start }
  | _ => .none

/-- The value that is written. -/
def toJson (o : TimingOverrides) : Value :=
  let long (n : UInt64) := Value.ofNat n.toNat
  let double (n : UInt32) := Value.ofNat n.toNat
  .record
    (Json.member? "presencePulseUs" long o.presencePulse ++
      Json.member? "presenceSettleUs" long o.presenceSettle ++
      Json.member? "configEnableDwellUs" long o.enableDwell ++
      Json.member? "handshakeSettleMs" double o.enrolmentPause ++
      Json.member? "dataExchangeStartMs" double o.startPause)

end TimingOverrides

/-! ## Settings -/

namespace Overrides

/-- The names of the fields. -/
def names : List String :=
  ["rightBase", "retryLimit", "maxDevices", "imageSize", "autoStart", "coreSerialNumber",
    "timings"]

/-- The settings in a value. -/
def ofJson? (v : Value) : Option Overrides :=
  match v.fields? names with
  | some [base, retries, devices, image, auto, serial, timings] => do
    return {
      rightBase := ← optional Value.byte? base
      retryLimit := ← optional Value.byte? retries
      maxDevices := ← optional Value.long? devices
      imageSize := ← optional Value.long? image
      autoStart := ← optional Value.bool? auto
      serial := ← optional Value.double? serial
      timings := ← optional TimingOverrides.ofJson? timings }
  | _ => .none

/-- The value that is written. -/
def toJson (o : Overrides) : Value :=
  let byte (n : UInt8) := Value.ofNat n.toNat
  let long (n : UInt64) := Value.ofNat n.toNat
  let double (n : UInt32) := Value.ofNat n.toNat
  .record
    (Json.member? "rightBase" byte o.rightBase ++
      Json.member? "retryLimit" byte o.retryLimit ++
      Json.member? "maxDevices" long o.maxDevices ++
      Json.member? "imageSize" long o.imageSize ++
      Json.member? "autoStart" Value.bool o.autoStart ++
      Json.member? "coreSerialNumber" double o.serial ++
      Json.member? "timings" TimingOverrides.toJson o.timings)

end Overrides

/-! ## Modules -/

namespace Declaration

/-- The names of the fields. -/
def names : List String :=
  ["address", "moduleType", "inputLength", "outputLength", "configLength", "baseOffset",
    "inputOffset", "outputOffset", "configOffset", "serialNumber"]

/-- The declared module in a value. -/
def ofJson? (v : Value) : Option Declaration :=
  match v.fields? names with
  | some [address, type, input, output, config, base, inputAt, outputAt, configAt, serial] => do
    return {
      address := ⟨← required Value.byte? address⟩
      type := ⟨← required Value.word? type⟩
      inputLength := ← required Value.word? input
      outputLength := ← required Value.word? output
      configLength := ← withDefault 0 Value.word? config
      baseOffset := ← withDefault 0 Value.word? base
      inputOffset := ← withDefault 0 Value.word? inputAt
      outputOffset := ← withDefault 0 Value.word? outputAt
      configOffset := ← withDefault 0 Value.word? configAt
      serial := ← withDefault 0 Value.double? serial }
  | _ => none

/-- The value that is written. -/
def toJson (d : Declaration) : Value :=
  .record
    [("address", .ofNat d.address.value.toNat),
      ("moduleType", .ofNat d.type.code.toNat),
      ("inputLength", .ofNat d.inputLength.toNat),
      ("outputLength", .ofNat d.outputLength.toNat),
      ("configLength", .ofNat d.configLength.toNat),
      ("baseOffset", .ofNat d.baseOffset.toNat),
      ("inputOffset", .ofNat d.inputOffset.toNat),
      ("outputOffset", .ofNat d.outputOffset.toNat),
      ("configOffset", .ofNat d.configOffset.toNat),
      ("serialNumber", .ofNat d.serial.toNat)]

end Declaration

/-! ## Documents -/

namespace Document

/-- The names of the fields. -/
def names : List String := ["bridge", "devices"]

/-- The document in a value. -/
def ofJson? (v : Value) : Option Document :=
  match v.fields? names with
  | some [bridge, devices] => do
    return {
      bridge := ← withDefault .none Overrides.ofJson? bridge
      devices := ← withDefault [] (Value.list? Declaration.ofJson?) devices }
  | _ => none

/-- The value that is written. -/
def toJson (d : Document) : Value :=
  .record [("bridge", d.bridge.toJson), ("devices", .array (d.devices.map Declaration.toJson))]

/-- The document in a text. -/
def ofText? (text : String) : Option Document := (Value.ofText? text.toList).bind ofJson?

/-- The document as a text without blanks. -/
def compact (d : Document) : String := d.toJson.compact

/-- The document as a text with a line for every field. -/
def indented (d : Document) : String := d.toJson.indented

end Document
end RackBus

import RackBus.Wire.Command
import RackBus.Wire.LittleEndian

/-!
# Telegrams

What travels over the bus outside the cyclic exchange: a header of eight bytes and a payload of at
most 256.  The header holds destination and source, one byte each, then command code, sequence
number and payload length, two bytes each.

* `Telegram.encode` and `Telegram.decode` are the two directions of the wire format;
  `Telegram.store` writes into a buffer of the caller.
* `Telegram.answer` is what a module sends back, `Telegram.accept` what the core makes of it.
-/

set_option autoImplicit false

namespace RackBus

/-- A telegram. -/
structure Telegram where
  /-- Who is meant. -/
  destination : Address
  /-- Who speaks. -/
  source : Address
  /-- The code of a request, or of an answer with its extra bit. -/
  command : UInt16
  /-- The number that ties an answer to its request. -/
  sequence : UInt16
  /-- The bytes after the header. -/
  payload : List UInt8
  deriving DecidableEq

namespace Telegram

/-- The number of bytes in the header. -/
def headerLength : Nat := 8

/-- The most bytes a payload may have. -/
def payloadLimit : Nat := 256

/-- A request, refused when its payload is too long to be sent. -/
def request (source destination : Address) (command : Command) (sequence : UInt16)
    (payload : List UInt8) : Except Failure Telegram :=
  if payloadLimit < payload.length then .error (.oversizedPayload payload.length)
  else .ok ⟨destination, source, command.code, sequence, payload⟩

/-- The answer of the module a request was meant for. -/
def answer (request : Telegram) (accepted : Bool) (payload : List UInt8) : Telegram where
  destination := request.source
  source := request.destination
  command := (request.command &&& Command.requestMask) |||
    (if accepted then Command.acceptedBit else Command.refusedBit)
  sequence := request.sequence
  payload := payload

/-- Does the code say that the request was accepted, and nothing else? -/
def isAccepted (t : Telegram) : Bool :=
  t.command &&& Command.acceptedBit != 0 && t.command &&& Command.refusedBit == 0

/-- Does the code say that the request was refused? -/
def isRefused (t : Telegram) : Bool := t.command &&& Command.refusedBit != 0

/-! ## The wire format -/

/-- The number of bytes on the wire. -/
def encodedLength (t : Telegram) : Nat := headerLength + t.payload.length

/-- The bytes on the wire. -/
def encode (t : Telegram) : List UInt8 :=
  [t.destination.value, t.source.value] ++ LittleEndian.bytes 2 t.command.toNat ++
    LittleEndian.bytes 2 t.sequence.toNat ++ LittleEndian.bytes 2 t.payload.length ++ t.payload

/-- Writes a telegram over the start of a buffer.  Answers with the number of bytes written and
the buffer afterwards, which is the same one when there was no room. -/
def store (t : Telegram) (buffer : List UInt8) : Except Failure Nat × List UInt8 :=
  if payloadLimit < t.payload.length then (.error (.oversizedPayload t.payload.length), buffer)
  else if buffer.length < t.encodedLength then (.error .shortBuffer, buffer)
  else (.ok t.encodedLength, t.encode ++ buffer.drop t.encodedLength)

/-- Reads a telegram from the start of a buffer; whatever follows it is ignored. -/
def decode (buffer : List UInt8) : Except Failure Telegram :=
  match buffer with
  | destination :: source :: c₀ :: c₁ :: s₀ :: s₁ :: l₀ :: l₁ :: rest =>
    let length := LittleEndian.value [l₀, l₁]
    if payloadLimit < length then .error (.oversizedPayload length)
    else if rest.length < length then .error .shortBuffer
    else .ok
      { destination := ⟨destination⟩
        source := ⟨source⟩
        command := UInt16.ofNat (LittleEndian.value [c₀, c₁])
        sequence := UInt16.ofNat (LittleEndian.value [s₀, s₁])
        payload := rest.take length }
  | _ => .error .shortBuffer

@[simp] theorem length_encode (t : Telegram) : t.encode.length = t.encodedLength := by
  simp [encode, encodedLength, headerLength]
  omega

/-! ## What the core makes of an answer -/

/-- Does `response` answer `request`: the same module, number and command? -/
def answers (response request : Telegram) : Bool :=
  response.source == request.destination && response.sequence == request.sequence &&
    response.command &&& Command.requestMask == request.command

/-- The payload of an accepting answer to `request`.  An answer that belongs to something else is
told apart from a refusal. -/
def accept (request : Telegram) (response : Except Failure (Option Telegram)) :
    Except Failure (List UInt8) :=
  match response with
  | .error e => .error e
  | .ok none => .error .noTransport
  | .ok (some response) =>
    if !response.answers request then .error (.unexpectedAnswer response.command)
    else if !response.isAccepted then .error (.refused response.command)
    else .ok response.payload

end Telegram
end RackBus

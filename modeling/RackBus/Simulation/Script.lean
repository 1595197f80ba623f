import RackBus.Hardware.Rack

/-!
# Scripted answers

A rack on which every telegram gets the next answer of a script, whatever it asks.  When the script
is over, nothing comes back any more.
-/

set_option autoImplicit false

namespace RackBus

/-- An answer in a script. -/
inductive ScriptedAnswer where
  /-- No answer. -/
  | none
  /-- A failure of the transport. -/
  | failure (cause : Failure)
  /-- The answer of the module that was asked, with some fields replaced. -/
  | answer (accepted : Bool) (payload : List UInt8) (source destination : Option Address)
      (sequence command : Option UInt16)
  deriving DecidableEq

namespace ScriptedAnswer

/-- What comes back for a request. -/
def toRequest (a : ScriptedAnswer) (request : Telegram) : Except Failure (Option Telegram) :=
  match a with
  | none => .ok .none
  | failure cause => .error cause
  | answer accepted payload source destination sequence command =>
    let t := request.answer accepted payload
    .ok (some
      { t with
        source := source.getD t.source
        destination := destination.getD t.destination
        sequence := sequence.getD t.sequence
        command := command.getD t.command })

/-- Sends a telegram: the next answer of the script comes back. -/
def transfer (request : Telegram) (script : List ScriptedAnswer) :
    Except Failure (Option Telegram) × List ScriptedAnswer :=
  match script with
  | [] => (.error .noTransport, [])
  | a :: rest => (a.toRequest request, rest)

/-- The script as a rack without modules. -/
def rack : Rack (List ScriptedAnswer) where
  sense _ s := (false, s)
  drive _ _ s := s
  transfer := transfer
  load s := (.ok [], s)
  startDriver _ _ s := (false, s)
  exchange _ _ image s := (.ok (), image, s)
  indicate _ _ s := s
  pause _ s := s

end ScriptedAnswer
end RackBus

import RackBus.Document.Check
import RackBus.Document.Json

/-!
# Loading and saving documents

A document is loaded from a text or from the bytes of a file, and it is checked before anyone sees
it.  Declared modules are saved in a document of their own, which sets nothing.
-/

set_option autoImplicit false

namespace RackBus
namespace Document

/-- The document in a text, if it passes its check. -/
def load (text : String) : Except Failure Document :=
  match ofText? text with
  | none => .error .malformed
  | some d =>
    match d.check with
    | .error e => .error e
    | .ok () => .ok d

/-- The declared modules in a text. -/
def loadDeclarations (text : String) : Except Failure (List Declaration) :=
  (load text).map Document.devices

/-- The document in a file.  A file that is not there and a file that is not a text cannot be
read. -/
def loadFile (content : Option ByteArray) : Except Failure Document :=
  match content.bind String.fromUTF8? with
  | none => .error .unreadable
  | some text => load text

/-- The text of a document that declares the given modules. -/
def save (declared : List Declaration) : String := (ofDeclarations declared).indented

end Document
end RackBus

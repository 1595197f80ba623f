/-!
# Status flags

One byte of flags that tells the application how the bridge is doing.  Six bits have a meaning.

* `Status.insert`, `Status.remove`, `Status.contains`: sets of flags.
* `Status.names`: the flags that are set, in the order of their bits.
-/

set_option autoImplicit false

namespace RackBus

/-- A set of status flags. -/
structure Status where
  /-- The byte as the application sees it. -/
  bits : UInt8
  deriving DecidableEq

namespace Status

/-- No flag. -/
def empty : Status := ⟨0⟩

/-- The cyclic exchange is going on. -/
def running : Status := ⟨1⟩

/-- A module was found that no declaration fits. -/
def extraModule : Status := ⟨2⟩

/-- A declared module was not found. -/
def missingModule : Status := ⟨4⟩

/-- A module differs from its declaration, or its data does not fit into the image. -/
def sizeMismatch : Status := ⟨8⟩

/-- There is a gateway on the left side. -/
def leftGateway : Status := ⟨16⟩

/-- There is a gateway on the right side. -/
def rightGateway : Status := ⟨32⟩

/-- All flags of both sets. -/
def union (s t : Status) : Status := ⟨s.bits ||| t.bits⟩

/-- The flags that reconciliation decides. -/
def configuration : Status := (extraModule.union missingModule).union sizeMismatch

/-- The flags that polling decides. -/
def gateways : Status := leftGateway.union rightGateway

/-- Adds flags. -/
def insert (s flags : Status) : Status := s.union flags

/-- Adds flags if there is a reason to. -/
def insertIf (s : Status) (reason : Bool) (flags : Status) : Status :=
  if reason then s.insert flags else s

/-- Takes flags away. -/
def remove (s flags : Status) : Status := ⟨s.bits &&& ~~~flags.bits⟩

/-- Are all of the flags there? -/
def contains (s flags : Status) : Bool := s.bits &&& flags.bits == flags.bits

/-- Is there no flag at all? -/
def isEmpty (s : Status) : Bool := s.bits == 0

/-- The set a byte stands for, less the two bits without a meaning. -/
def ofByte (b : UInt8) : Status := ⟨b &&& 0x3F⟩

/-- The flags with their names, in the order of their bits. -/
def named : List (Status × String) :=
  [(running, "running"), (extraModule, "extra_module"), (missingModule, "missing_module"),
    (sizeMismatch, "size_mismatch"), (leftGateway, "left_gateway"),
    (rightGateway, "right_gateway")]

/-- The names of the flags that are set. -/
def names (s : Status) : List String := (named.filter fun f ↦ s.contains f.1).map Prod.snd

end Status
end RackBus

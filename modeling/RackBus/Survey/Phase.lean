import RackBus.Address

/-!
# The phases of a survey

A survey wakes all modules, brings in those of the right side one by one, then those of the left
side, and ends.
-/

set_option autoImplicit false

namespace RackBus

/-- A phase of a survey. -/
inductive Phase where
  /-- Both enable lines are let go. -/
  | begin
  /-- Both enable lines are high. -/
  | pulse
  /-- The enable lines are low again and the modules settle. -/
  | settle
  /-- Is there a module on this side at all? -/
  | first (side : Side)
  /-- The side's enable line is high and its modules get ready. -/
  | enable (side : Side)
  /-- The next module of the side is brought in. -/
  | dialogue (side : Side)
  /-- Is there another module on this side? -/
  | next (side : Side)
  /-- The survey is over. -/
  | finished
  deriving DecidableEq

namespace Phase

/-- All phases in the order in which a survey can reach them. -/
def all : List Phase :=
  [begin, pulse, settle, first .right, enable .right, dialogue .right, next .right,
    first .left, enable .left, dialogue .left, next .left, finished]

/-- The side a phase is about. -/
def side? : Phase → Option Side
  | first side => some side
  | enable side => some side
  | dialogue side => some side
  | next side => some side
  | _ => none

/-- The phase after the last module of a side. -/
def after : Side → Phase
  | .right => first .left
  | .left => finished

/-- The name a person is shown. -/
def text : Phase → String
  | begin => "Init"
  | pulse => "PresentSignalling1"
  | settle => "PresentSignalling2"
  | first .right => "InitialSlaveDetectionRight"
  | first .left => "InitialSlaveDetectionLeft"
  | enable .right => "ConfigRightStart"
  | enable .left => "ConfigLeftStart"
  | dialogue .right => "ConfigDialogueRight"
  | dialogue .left => "ConfigDialogueLeft"
  | next .right => "SlaveDetectionRight"
  | next .left => "SlaveDetectionLeft"
  | finished => "EndOfConfig"

end Phase
end RackBus

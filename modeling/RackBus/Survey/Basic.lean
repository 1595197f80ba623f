import RackBus.Roster.Basic
import RackBus.Settings
import RackBus.Survey.Countdown
import RackBus.Survey.Enrolment
import RackBus.Survey.Phase

/-!
# Surveys

A survey finds the modules on both sides of the core and gives each an address: upwards from the
base on the right side, downwards from below the base on the left side.  It is driven by a clock,
one step per cycle.

A step first performs the actions of a phase that was newly reached, and then asks whether the
phase is over.  If it is, the next phase begins with the next step.

* `Survey` is what a survey remembers between two steps; `Survey.start` is a new one.
* `Site` is a survey at work, with the bus and the roster it fills.
* `Site.step` is one step; its `Progress` says whether the survey is over, and whether the last
  phase has begun with this very step.
-/

set_option autoImplicit false

namespace RackBus

universe u

/-- What a survey remembers between two steps. -/
structure Survey where
  /-- The phase it is in. -/
  phase : Phase
  /-- Are the actions of the phase still to be performed? -/
  entering : Bool
  /-- The number of enrolments that have failed in this dialogue. -/
  retries : UInt8
  /-- The waiting time that runs, if any. -/
  countdown : Countdown
  /-- The next address of the right side, until there is none. -/
  nextRight : Option Address
  /-- The next address of the left side, until there is none. -/
  nextLeft : Option Address
  deriving DecidableEq

namespace Survey

/-- A new survey, with the right side starting at `base`. -/
def start (base : Address) : Survey where
  phase := .begin
  entering := true
  retries := 0
  countdown := .idle
  nextRight := some base
  nextLeft := base.beyond? .left

/-- The next address of a side, until there is none. -/
def next? (s : Survey) : Side → Option Address
  | .right => s.nextRight
  | .left => s.nextLeft

/-- The survey after an address of this side was given away. -/
def advance (s : Survey) : Side → Survey
  | .right => { s with nextRight := s.nextRight.bind fun a ↦ a.beyond? .right }
  | .left => { s with nextLeft := s.nextLeft.bind fun a ↦ a.beyond? .left }

/-- One more enrolment has failed. -/
def countFailure (s : Survey) : Survey := { s with retries := clampByte (s.retries.toNat + 1) }

/-- The survey on its way to another phase. -/
def goTo (s : Survey) (phase : Phase) : Survey := { s with phase := phase, entering := true }

theorem next?_advance_self (s : Survey) (side : Side) :
    (s.advance side).next? side = (s.next? side).bind fun a ↦ a.beyond? side := by
  cases side <;> rfl

theorem next?_advance_other (s : Survey) (side : Side) :
    (s.advance side).next? side.other = s.next? side.other := by
  cases side <;> rfl

end Survey

/-- How far a survey has come. -/
inductive Progress where
  /-- There is more to do. -/
  | surveying
  /-- It is over; `entered` tells the one step that has performed the actions of the last phase
  from all steps after it. -/
  | finished (entered : Bool)
  deriving DecidableEq

/-- A survey at work. -/
structure Site (σ : Type u) where
  /-- What the survey remembers. -/
  survey : Survey
  /-- The bus to the modules. -/
  bus : Bus σ
  /-- The rows of the modules found so far. -/
  roster : Roster

namespace Site

variable {σ : Type u}

/-- The actions of a phase that was newly reached. -/
def enter (site : Site σ) (rack : Rack σ) (timings : Timings) (now : UInt64) : Site σ :=
  match site.survey.phase with
  | .begin => { site with bus := site.bus.driveBoth rack .released }
  | .pulse =>
    { site with
      bus := site.bus.driveBoth rack .high
      survey := { site.survey with countdown := .start now timings.presencePulse } }
  | .settle =>
    { site with
      bus := site.bus.driveBoth rack .released
      survey := { site.survey with countdown := .start now timings.presenceSettle } }
  | .enable side =>
    { site with
      bus := site.bus.drive rack side .high
      survey := { site.survey with countdown := .start now timings.enableDwell } }
  | .dialogue _ => { site with survey := { site.survey with retries := 0 } }
  | .first .left => { site with bus := site.bus.drive rack .right .released }
  | .finished => { site with bus := site.bus.drive rack .left .released }
  | .first .right => site
  | .next _ => site

/-- One attempt to bring in the next module of a side, and the phase that follows from it.  The
side is done when it has no address left, when the roster is full, or when the attempts with one
address have failed too often. -/
def converse (site : Site σ) (rack : Rack σ) (settings : Settings) (side : Side) :
    Option Phase × Site σ :=
  match site.survey.next? side with
  | none => (some (.after side), site)
  | some address =>
    if site.roster.isFull then (some (.after side), site)
    else
      match site.bus.enrol rack address side settings.timings.enrolmentPause with
      | (.ok identity, bus) =>
        match site.roster.append address identity with
        | .ok roster =>
          (some (.next side), { survey := site.survey.advance side, bus := bus, roster := roster })
        | .error _ => (some (.after side), { site with bus := bus })
      | (.error _, bus) =>
        let survey := site.survey.countFailure
        (if settings.retryLimit < survey.retries then some (.after side) else none,
          { site with survey := survey, bus := bus })

/-- The answer of a sense line, and the phase that follows from it. -/
def listen (site : Site σ) (rack : Rack σ) (side : Side) (present : Phase) :
    Option Phase × Site σ :=
  match site.bus.sense rack side with
  | (level, bus) =>
    (some (if level then present else .after side), { site with bus := bus })

/-- Is the phase over, and which one follows? -/
def check (site : Site σ) (rack : Rack σ) (settings : Settings) (now : UInt64) :
    Option Phase × Site σ :=
  let afterWait (phase : Phase) : Option Phase × Site σ :=
    (if site.survey.countdown.isOver now then some phase else none, site)
  match site.survey.phase with
  | .begin => (some .pulse, site)
  | .pulse => afterWait .settle
  | .settle => afterWait (.first .right)
  | .first side => site.listen rack side (.enable side)
  | .enable side => afterWait (.dialogue side)
  | .dialogue side => site.converse rack settings side
  | .next side => site.listen rack side (.dialogue side)
  | .finished => (none, site)

/-- The actions of the phase, if they are still to be performed. -/
def enterIfNew (site : Site σ) (rack : Rack σ) (timings : Timings) (now : UInt64) : Site σ :=
  if site.survey.entering then
    { site with survey := { site.survey with entering := false } }.enter rack timings now
  else site

/-- The site on its way to another phase, if there is one to go to. -/
def goTo (site : Site σ) : Option Phase → Site σ
  | some phase => { site with survey := site.survey.goTo phase }
  | none => site

/-- How far the survey has come, given whether actions were performed in this step. -/
def progress (site : Site σ) (entered : Bool) : Progress :=
  if site.survey.phase = .finished ∧ site.survey.entering = false then .finished entered
  else .surveying

/-- **One step of a survey.** -/
def step (site : Site σ) (rack : Rack σ) (settings : Settings) (now : UInt64) :
    Progress × Site σ :=
  match (site.enterIfNew rack settings.timings now).check rack settings now with
  | (next, after) => ((after.goTo next).progress site.survey.entering, after.goTo next)

end Site
end RackBus

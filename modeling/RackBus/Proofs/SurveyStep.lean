import RackBus.Survey.Basic

/-!
# What one step of a survey can do

A step talks to the rack, and most of it is about lines and waiting times.  For the roster and the
addresses only one thing can happen, whatever the rack does: a module is enrolled under the next
address of its side, and then the address is gone and the roster has one row more.

* `Site.Outcome` is this alternative, and `Site.outcome_step` says that there is no other.
* `Phase.successors` are the phases that can follow a phase, and `Site.phase_step` says that a step
  stays in its phase or goes to one of them.  So the left side is not left again
  (`Site.isLeft_step`).
-/

set_option autoImplicit false

namespace RackBus

universe u

namespace Phase

/-- The phases that can follow a phase. -/
def successors : Phase → List Phase
  | begin => [pulse]
  | pulse => [settle]
  | settle => [first .right]
  | first side => [enable side, after side]
  | enable side => [dialogue side]
  | dialogue side => [next side, after side]
  | next side => [dialogue side, after side]
  | finished => []

/-- Has the survey turned to the left side, or ended? -/
def isLeft : Phase → Bool
  | first .left | enable .left | dialogue .left | next .left | finished => true
  | _ => false

/-- The side a phase is about tells whether the survey has turned to the left side. -/
theorem isLeft_of_side? {p : Phase} {side : Side} (h : p.side? = some side) :
    p.isLeft = (side == .left) := by
  cases p with
  | begin | pulse | settle | finished => exact absurd h (by simp [side?])
  | first s | enable s | dialogue s | next s =>
    obtain rfl : s = side := Option.some.inj h
    cases s <;> rfl

/-- From the left side there is no way back to the right one. -/
theorem isLeft_of_mem_successors {p q : Phase} (h : q ∈ p.successors) (hp : p.isLeft = true) :
    q.isLeft = true := by
  cases p with
  | begin | pulse | settle => exact absurd hp (by decide)
  | first side | enable side | dialogue side | next side =>
    cases side with
    | right => exact absurd hp (by decide)
    | left =>
      simp only [successors, after, List.mem_cons, List.not_mem_nil, or_false] at h
      rcases h with rfl | rfl <;> rfl
  | finished => exact absurd h (by simp [successors])

/-- Is a survey in this phase done with a side? -/
def isBeyond (p : Phase) : Side → Bool
  | .right => p.isLeft
  | .left => p == .finished

/-- A survey does not come back to a side that it is done with. -/
theorem isBeyond_of_mem_successors {p q : Phase} (h : q ∈ p.successors) {side : Side}
    (hp : p.isBeyond side = true) : q.isBeyond side = true := by
  cases side with
  | right => exact isLeft_of_mem_successors h hp
  | left =>
    obtain rfl : p = .finished := by simpa [isBeyond] using hp
    exact absurd h (by simp [successors])

@[simp] theorem isBeyond_dialogue (side : Side) : (dialogue side).isBeyond side = false := by
  cases side <;> rfl

@[simp] theorem isBeyond_after (side : Side) : (after side).isBeyond side = true := by
  cases side <;> rfl

end Phase

/-! ## Attempts that have failed -/

namespace Survey

/-- The number of attempts that have failed with the next module of a side. -/
def spent (s : Survey) (side : Side) : Nat :=
  if s.phase = .dialogue side ∧ s.entering = false then s.retries.toNat else 0

theorem spent_of_entering {s : Survey} (h : s.entering = true) (side : Side) :
    s.spent side = 0 := by
  rw [spent, if_neg]
  rw [h]
  simp

theorem spent_of_phase_ne {s : Survey} {side : Side} (h : s.phase ≠ .dialogue side) :
    s.spent side = 0 := by
  rw [spent, if_neg]
  exact fun hs ↦ h hs.1

theorem spent_countFailure_le (s : Survey) (side : Side) :
    s.countFailure.spent side ≤ s.spent side + 1 := by
  have hretries : s.countFailure.retries.toNat ≤ s.retries.toNat + 1 := by
    rw [countFailure, toNat_clampByte]
    exact Nat.min_le_left _ _
  have hphase : s.countFailure.phase = s.phase := rfl
  have hentering : s.countFailure.entering = s.entering := rfl
  rw [spent, spent, hphase, hentering]
  split
  · exact hretries
  · exact Nat.zero_le _

end Survey

namespace Site

variable {σ : Type u}

/-- What can become of the roster and of the addresses still to be given away. -/
inductive Outcome (before after : Site σ) : Prop where
  /-- Nothing has changed. -/
  | quiet (roster : after.roster = before.roster)
      (next : ∀ side, after.survey.next? side = before.survey.next? side)
  /-- A module of the side that is spoken to was enrolled under the next address. -/
  | enrolled (side : Side) (address : Address) (identity : Identity)
      (phase : before.survey.phase = .dialogue side)
      (free : before.survey.next? side = some address)
      (roster : before.roster.append address identity = .ok after.roster)
      (next : ∀ s, after.survey.next? s = (before.survey.advance side).next? s)

/-! ## The first half of a step -/

section Enter

variable (site : Site σ) (rack : Rack σ) (timings : Timings) (now : UInt64)

/-- The actions of a phase are about the bus, the waiting times and the failed attempts. -/
theorem enterIfNew_eq :
    ∃ bus retries countdown, site.enterIfNew rack timings now =
      { survey :=
          { site.survey with entering := false, retries := retries, countdown := countdown }
        bus := bus
        roster := site.roster } := by
  rw [enterIfNew]
  split
  · rw [enter]
    split <;> exact ⟨_, _, _, rfl⟩
  · rename_i h
    have hentering : site.survey.entering = false := by simpa using h
    exact ⟨site.bus, site.survey.retries, site.survey.countdown, by rw [← hentering]⟩

@[simp] theorem roster_enterIfNew : (site.enterIfNew rack timings now).roster = site.roster := by
  obtain ⟨bus, retries, countdown, h⟩ := enterIfNew_eq site rack timings now
  rw [h]

@[simp] theorem phase_enterIfNew :
    (site.enterIfNew rack timings now).survey.phase = site.survey.phase := by
  obtain ⟨bus, retries, countdown, h⟩ := enterIfNew_eq site rack timings now
  rw [h]

@[simp] theorem entering_enterIfNew :
    (site.enterIfNew rack timings now).survey.entering = false := by
  obtain ⟨bus, retries, countdown, h⟩ := enterIfNew_eq site rack timings now
  rw [h]

@[simp] theorem next?_enterIfNew (side : Side) :
    (site.enterIfNew rack timings now).survey.next? side = site.survey.next? side := by
  obtain ⟨bus, retries, countdown, h⟩ := enterIfNew_eq site rack timings now
  rw [h]
  cases side <;> rfl

/-- A dialogue begins with no attempt failed, and the actions of a phase are no attempt. -/
theorem spent_enterIfNew (side : Side) :
    (site.enterIfNew rack timings now).survey.spent side = site.survey.spent side := by
  rw [enterIfNew]
  split
  · rename_i hentering
    rw [Survey.spent_of_entering hentering, enter]
    split <;> rename_i hphase <;> replace hphase : site.survey.phase = _ := hphase <;>
      simp [Survey.spent, hphase]
  · rfl

end Enter

/-! ## The second half -/

/-- A conversation enrols a module under the next address, or changes neither roster nor
addresses. -/
theorem outcome_converse (site : Site σ) (rack : Rack σ) (settings : Settings) {side : Side}
    (hphase : site.survey.phase = .dialogue side) :
    Outcome site (site.converse rack settings side).2 := by
  have hquiet : Outcome site site := .quiet rfl fun _ ↦ rfl
  rw [converse]
  split
  · exact hquiet
  · rename_i address hfree
    split
    · exact hquiet
    · split
      · rename_i identity bus _
        split
        · rename_i roster happend
          exact .enrolled side address identity hphase hfree happend fun _ ↦ rfl
        · exact .quiet rfl fun _ ↦ rfl
      · exact .quiet rfl fun s ↦ by cases s <;> rfl

theorem outcome_check (site : Site σ) (rack : Rack σ) (settings : Settings) (now : UInt64) :
    Outcome site (site.check rack settings now).2 := by
  have hquiet : Outcome site site := .quiet rfl fun _ ↦ rfl
  rw [check]
  split <;> try exact hquiet
  · exact .quiet rfl fun _ ↦ rfl
  · rename_i side hphase
    exact outcome_converse site rack settings hphase
  · exact .quiet rfl fun _ ↦ rfl

/-- The way to another phase changes nothing else. -/
theorem goTo_roster_next (site : Site σ) (phase : Option Phase) :
    (site.goTo phase).roster = site.roster ∧
      ∀ side, (site.goTo phase).survey.next? side = site.survey.next? side := by
  cases phase with
  | none => exact ⟨rfl, fun _ ↦ rfl⟩
  | some phase => exact ⟨rfl, fun side ↦ by cases side <;> rfl⟩

theorem step_eq (site : Site σ) (rack : Rack σ) (settings : Settings) (now : UInt64) :
    site.step rack settings now =
      let entered := site.enterIfNew rack settings.timings now
      let checked := entered.check rack settings now
      let after := checked.2.goTo checked.1
      (after.progress site.survey.entering, after) := rfl

/-- **What one step can do** to the roster and to the addresses. -/
theorem outcome_step (site : Site σ) (rack : Rack σ) (settings : Settings) (now : UInt64) :
    Outcome site (site.step rack settings now).2 := by
  obtain ⟨bus, retries, countdown, henter⟩ := enterIfNew_eq site rack settings.timings now
  rw [step_eq, henter]
  generalize hentered : Site.mk _ bus site.roster = entered
  have hsame : ∀ side, entered.survey.next? side = site.survey.next? side := by
    subst hentered
    rintro (_ | _) <;> rfl
  obtain ⟨hroster, hnext⟩ := goTo_roster_next (entered.check rack settings now).2
    (entered.check rack settings now).1
  cases outcome_check entered rack settings now with
  | quiet roster next =>
    subst hentered
    exact .quiet (hroster.trans roster) fun side ↦ by rw [hnext, next, hsame]
  | enrolled side address identity phase free roster next =>
    subst hentered
    refine .enrolled side address identity phase ((hsame side).symm.trans free)
      (hroster ▸ roster) fun s ↦ ?_
    rw [hnext, next]
    cases side <;> cases s <;> rfl

/-! ## The phases -/

/-- A conversation leads to the next module of the side or away from the side. -/
theorem phase_converse (site : Site σ) (rack : Rack σ) (settings : Settings) (side : Side) :
    (site.converse rack settings side).2.survey.phase = site.survey.phase ∧
      ∀ p, (site.converse rack settings side).1 = some p → p = .next side ∨ p = .after side := by
  have hafter (p : Phase) (h : some (Phase.after side) = some p) :
      p = .next side ∨ p = .after side :=
    Or.inr (Option.some.inj h).symm
  rw [converse]
  split
  · exact ⟨rfl, hafter⟩
  · split
    · exact ⟨rfl, hafter⟩
    · split
      · split
        · refine ⟨?_, fun p h ↦ Or.inl (Option.some.inj h).symm⟩
          cases side <;> rfl
        · exact ⟨rfl, hafter⟩
      · refine ⟨rfl, fun p h ↦ ?_⟩
        dsimp only at h
        split at h
        · exact hafter p h
        · exact absurd h (by simp)

/-- A check asks for a phase that can follow, and leaves it to others to go there. -/
theorem phase_check (site : Site σ) (rack : Rack σ) (settings : Settings) (now : UInt64) :
    (site.check rack settings now).2.survey.phase = site.survey.phase ∧
      ∀ p, (site.check rack settings now).1 = some p → p ∈ site.survey.phase.successors := by
  have hwait {q : Phase} (p : Phase)
      (h : (if site.survey.countdown.isOver now then some q else none) = some p) : p = q := by
    split at h
    · exact (Option.some.inj h).symm
    · exact absurd h (by simp)
  have hlisten {side : Side} {q : Phase} (p : Phase) (h : (site.listen rack side q).1 = some p) :
      p = q ∨ p = .after side := by
    obtain rfl := Option.some.inj h
    split
    · exact Or.inl rfl
    · exact Or.inr rfl
  rw [check]
  split <;> rename_i hphase <;> rw [hphase]
  · exact ⟨rfl, fun p h ↦ by simp [Phase.successors, ← Option.some.inj h]⟩
  · exact ⟨rfl, fun p h ↦ by simp [Phase.successors, hwait p h]⟩
  · exact ⟨rfl, fun p h ↦ by simp [Phase.successors, hwait p h]⟩
  · exact ⟨hphase, fun p h ↦ by simpa [Phase.successors] using hlisten p h⟩
  · exact ⟨rfl, fun p h ↦ by simp [Phase.successors, hwait p h]⟩
  · obtain ⟨hsame, hnext⟩ := phase_converse site rack settings _
    exact ⟨hsame.trans hphase, fun p h ↦ by simpa [Phase.successors] using hnext p h⟩
  · exact ⟨hphase, fun p h ↦ by simpa [Phase.successors] using hlisten p h⟩
  · exact ⟨rfl, fun p h ↦ absurd h (by simp)⟩

/-- **A step stays in its phase or goes to one that can follow.** -/
theorem phase_step (site : Site σ) (rack : Rack σ) (settings : Settings) (now : UInt64) :
    (site.step rack settings now).2.survey.phase = site.survey.phase ∨
      (site.step rack settings now).2.survey.phase ∈ site.survey.phase.successors ∧
        (site.step rack settings now).2.survey.entering = true := by
  obtain ⟨hsame, hnext⟩ :=
    phase_check (site.enterIfNew rack settings.timings now) rack settings now
  rw [phase_enterIfNew] at hsame hnext
  rw [step_eq]
  simp only [goTo]
  split
  · rename_i p hp
    exact Or.inr ⟨hnext p hp, rfl⟩
  · exact Or.inl hsame

/-- **The left side is not left again**, once the survey has turned to it. -/
theorem isLeft_step (site : Site σ) (rack : Rack σ) (settings : Settings) (now : UInt64)
    (h : site.survey.phase.isLeft = true) :
    (site.step rack settings now).2.survey.phase.isLeft = true := by
  rcases phase_step site rack settings now with hp | ⟨hp, -⟩
  · rw [hp, h]
  · exact Phase.isLeft_of_mem_successors hp h

/-- As long as there is more to do, the last phase has not begun. -/
theorem entering_of_step (site : Site σ) {rack : Rack σ} {settings : Settings} {now : UInt64}
    (h : (site.step rack settings now).1 = .surveying)
    (hfinished : (site.step rack settings now).2.survey.phase = .finished) :
    (site.step rack settings now).2.survey.entering = true := by
  rw [step_eq] at h hfinished ⊢
  dsimp only [progress] at h
  split at h
  · exact absurd h (by simp)
  · rename_i hnot
    rw [← Bool.not_eq_false]
    exact fun hentering ↦ hnot ⟨hfinished, hentering⟩

/-- A survey that says it is over has begun the last phase; its first such step is the one that
performs the actions of that phase. -/
theorem finished_of_step (site : Site σ) {rack : Rack σ} {settings : Settings} {now : UInt64}
    {entered : Bool} (h : (site.step rack settings now).1 = .finished entered) :
    (site.step rack settings now).2.survey.phase = .finished ∧ site.survey.phase = .finished ∧
      entered = site.survey.entering := by
  rw [step_eq] at h
  dsimp only [progress] at h
  split at h
  · rename_i hfinished
    have hphase : (site.step rack settings now).2.survey.phase = .finished := hfinished.1
    have hentering : (site.step rack settings now).2.survey.entering = false := hfinished.2
    refine ⟨hphase, ?_, (Progress.finished.inj h).symm⟩
    rcases phase_step site rack settings now with hp | ⟨-, he⟩
    · rw [← hp, hphase]
    · rw [hentering] at he
      exact absurd he (by simp)
  · exact absurd h (by simp)

end Site

end RackBus

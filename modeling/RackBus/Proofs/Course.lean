import RackBus.Proofs.Attempt
import RackBus.Proofs.Lifecycle
import RackBus.Proofs.RosterHistory
import Mathlib.Data.Nat.Find

/-!
# The course of a survey

A survey goes back to a dialogue for every module that it brings in, and the sense lines may promise
another module for ever.  This file says that it cannot wander all the same: every phase is left for
one that is nearer to the end, except for the way back, and that way costs a row of the roster.

* `Phase.distance` is how far a phase is from the end, and `Site.Attempt.turn_le` what a change of
  phase costs.
* `Site.proceed` is a survey after some steps, `Site.reported` what its next step says, and
  `Site.turns` the number of times that its phase has changed.
* `Site.Fills` counts the modules that were brought in against the addresses and the room there are.
* `Site.Course` is what can be relied on, and `Site.course_start` says that every new survey keeps
  to it, whatever the rack and the clock do.
-/

set_option autoImplicit false

namespace RackBus

universe u

/-! ## The way to the end -/

namespace Phase

/-- The most changes of phase that are still to come, if no other module is brought in. -/
def distance : Phase → Nat
  | begin => 9
  | pulse => 8
  | settle => 7
  | first .right => 6
  | enable .right => 5
  | dialogue .right => 4
  | next .right => 5
  | first .left => 3
  | enable .left => 2
  | dialogue .left => 1
  | next .left => 2
  | finished => 0

/-- Where no module was brought in, every change of phase leads nearer to the end. -/
theorem distance_lt_of_mem_successors {p q : Phase} (h : q ∈ p.successors)
    (hq : ∀ side, q ≠ next side) : q.distance < p.distance := by
  cases p with
  | begin | pulse | settle =>
    obtain rfl := List.mem_singleton.mp h
    decide
  | first side | enable side | dialogue side | next side =>
    simp only [successors, after, List.mem_cons, List.not_mem_nil, or_false] at h
    cases side <;> rcases h with rfl | rfl <;> first | decide | exact absurd rfl (hq _)
  | finished => exact absurd h (by simp [successors])

theorem distance_next (side : Side) :
    (next side).distance = (dialogue side).distance + 1 := by
  cases side <;> rfl

end Phase

namespace Site

variable {σ : Type u}

/-- **What a change of phase costs**: a part of the way to the end, or a row of the roster. -/
theorem Attempt.turn_le {settings : Settings} {before after : Site σ} {addresses : List Address}
    (h : Attempt settings before after addresses) :
    (if after.survey.phase = before.survey.phase then 0 else 1) + after.survey.phase.distance +
        2 * before.roster.modules.length ≤
      before.survey.phase.distance + 2 * after.roster.modules.length := by
  cases h with
  | idle roster next fresh phase =>
    rw [roster]
    rcases phase with ⟨hsame, -⟩ | ⟨hsuccessor, hnext⟩
    · rw [if_pos hsame, hsame]
      omega
    · have hlt := Phase.distance_lt_of_mem_successors hsuccessor hnext
      split <;> omega
  | failed side address phase free roster next stays spent patient =>
    rw [roster, stays, phase, if_pos rfl]
    omega
  | abandoned side address phase free roster next leaves impatient =>
    have hlt : (Phase.after side).distance < (Phase.dialogue side).distance := by
      cases side <;> decide
    rw [roster, leaves, phase]
    split <;> omega
  | enrolled side address identity phase free roster next leaves =>
    obtain ⟨-, hroster⟩ := Roster.eq_of_append roster
    have hlength : after.roster.modules.length = before.roster.modules.length + 1 := by
      rw [hroster, List.length_append, List.length_singleton]
    rw [hlength, leaves, phase, Phase.distance_next, if_neg (by simp)]
    omega

/-! ## A survey at work -/

section Run

variable (rack : Rack σ) (settings : Settings) (times : Nat → UInt64) (site : Site σ)

/-- The survey after so many steps at the given points in time. -/
def proceed : Nat → Site σ
  | 0 => site
  | n + 1 => ((proceed n).step rack settings (times n)).2

/-- What the next step says after so many steps. -/
def reported (n : Nat) : Progress :=
  ((site.proceed rack settings times n).step rack settings (times n)).1

/-- How often the phase has changed in so many steps. -/
def turns : Nat → Nat
  | 0 => 0
  | n + 1 => turns n +
    if (site.proceed rack settings times (n + 1)).survey.phase =
      (site.proceed rack settings times n).survey.phase then 0 else 1

/-- **The way to the end and the rows of the roster** are enough for all changes of phase. -/
theorem turns_add_distance_le (n : Nat) :
    site.turns rack settings times n +
        (site.proceed rack settings times n).survey.phase.distance +
        2 * site.roster.modules.length ≤
      site.survey.phase.distance + 2 * (site.proceed rack settings times n).roster.modules.length := by
  induction n with
  | zero => simp [turns, proceed]
  | succ n ih =>
    obtain ⟨events, -, hattempt⟩ :=
      attempt_step rack (site.proceed rack settings times n) settings (times n)
    have hturn := hattempt.turn_le
    rw [turns, proceed]
    omega

/-! ## The modules that were brought in -/

/-- The modules that were brought in have the addresses of a tally, and there was room for them. -/
structure Fills (site : Site σ) (settings : Settings) (t : Tally) : Prop where
  allots : site.survey.Allots settings.rightBase t
  length_eq : site.roster.modules.length = t.right + t.left
  capacity : site.roster.capacity = settings.maxDevices
  size_le : site.roster.size ≤ settings.maxDevices

variable {settings} {site}

theorem Fills.step {t : Tally} (h : site.Fills settings t) (now : UInt64) :
    ∃ t', (site.step rack settings now).2.Fills settings t' := by
  cases site.outcome_step rack settings now with
  | quiet roster next =>
    exact ⟨t, h.allots.congr next, by rw [roster, h.length_eq], by rw [roster, h.capacity],
      by rw [roster]; exact h.size_le⟩
  | enrolled side address identity phase free roster next =>
    obtain ⟨hroom, hroster⟩ := Roster.eq_of_append roster
    have hlength : (site.step rack settings now).2.roster.modules.length =
        site.roster.modules.length + 1 := by
      rw [hroster, List.length_append, List.length_singleton]
    have hlt : site.roster.size < settings.maxDevices := by
      simpa [Roster.isFull, h.capacity] using hroom
    refine ⟨t.add side, (h.allots.advance free).congr next, ?_, by rw [hroster, h.capacity], ?_⟩
    · rw [hlength, h.length_eq]
      cases side <;> simp only [Tally.add] <;> omega
    · rw [Roster.size] at hlt ⊢
      omega

theorem Fills.proceed {t : Tally} (h : site.Fills settings t) (n : Nat) :
    ∃ t', (site.proceed rack settings times n).Fills settings t' := by
  induction n with
  | zero => exact ⟨t, h⟩
  | succ n ih =>
    obtain ⟨t', ht'⟩ := ih
    exact ht'.step rack (times n)

/-- There are 254 addresses, and one row is the core's. -/
theorem Fills.length_le {t : Tally} (h : site.Fills settings t) (hvalid : settings.Valid) :
    site.roster.modules.length ≤ min (settings.maxDevices - 1) 254 := by
  have hright : t.right ≤ 255 - settings.rightBase.number := h.allots.le .right
  have hleft : t.left ≤ settings.rightBase.number - 1 := h.allots.le .left
  have hlow : 2 ≤ settings.rightBase.number := hvalid.two_le_rightBase
  have hhigh : settings.rightBase.number < 255 := hvalid.rightBase_lt
  have hlength := h.length_eq
  have hsize := h.size_le
  rw [Roster.size] at hsize
  omega

/-! ## The end -/

/-- A step in the last phase stays there, and performs its actions if they are still to be
performed. -/
theorem step_of_phase_finished (hphase : site.survey.phase = .finished) (now : UInt64) :
    (site.step rack settings now).1 = .finished site.survey.entering ∧
      (site.step rack settings now).2.survey.phase = .finished ∧
      (site.step rack settings now).2.survey.entering = false := by
  have hentered := site.phase_enterIfNew rack settings.timings now
  have hentering := site.entering_enterIfNew rack settings.timings now
  have hcheck : (site.enterIfNew rack settings.timings now).check rack settings now =
      (none, site.enterIfNew rack settings.timings now) := by
    rw [check, hentered, hphase]
  rw [step_eq]
  dsimp only
  rw [hcheck]
  exact ⟨if_pos ⟨hentered.trans hphase, hentering⟩, hentered.trans hphase, hentering⟩

/-- Before the last phase a step says that there is more to do. -/
theorem fst_step_of_phase_ne_finished (hphase : site.survey.phase ≠ .finished) (now : UInt64) :
    (site.step rack settings now).1 = .surveying := by
  cases hprogress : (site.step rack settings now).1 with
  | surveying => rfl
  | finished entered => exact absurd (site.finished_of_step hprogress).2.1 hphase

variable (site) in
/-- The last phase is not left. -/
theorem phase_proceed_of_le {m n : Nat} (hmn : m ≤ n)
    (hm : (site.proceed rack settings times m).survey.phase = .finished) :
    (site.proceed rack settings times n).survey.phase = .finished := by
  induction hmn with
  | refl => exact hm
  | step _ ih => exact (step_of_phase_finished rack ih _).2.1

variable (site) in
/-- **What the steps say**, if the last phase is reached after `m` of them. -/
theorem reported_eq {m : Nat} (hstart : site.survey.phase ≠ .finished)
    (hm : ∀ n, (site.proceed rack settings times n).survey.phase = .finished ↔ m ≤ n) (n : Nat) :
    site.reported rack settings times n = if n < m then .surveying else .finished (n == m) := by
  rw [reported]
  split
  · rename_i hlt
    exact fst_step_of_phase_ne_finished rack (fun h ↦ absurd ((hm n).mp h) (by omega)) _
  rename_i hle
  rw [(step_of_phase_finished rack ((hm n).mpr (by omega)) _).1]
  congr 1
  -- The step before has either led to the last phase or was in it already.
  cases n with
  | zero => exact absurd ((hm 0).mpr (by omega)) hstart
  | succ n =>
    rw [proceed]
    by_cases hbefore : m ≤ n
    · rw [(step_of_phase_finished rack ((hm n).mpr hbefore) _).2.2, eq_comm, beq_eq_false_iff_ne]
      omega
    · have hphase : (site.proceed rack settings times n).survey.phase ≠ .finished :=
        fun h ↦ hbefore ((hm n).mp h)
      have hreached := (hm (n + 1)).mpr (by omega)
      rw [proceed] at hreached
      have hentering := (phase_step _ rack settings (times n)).resolve_left
        fun hsame ↦ hphase (hsame.symm.trans hreached)
      rw [hentering.2, eq_comm, beq_iff_eq]
      omega

end Run

/-- The course of a survey, whatever happens: it ends after a bounded number of changes, or it waits
for ever. -/
structure Course (rack : Rack σ) (settings : Settings) (times : Nat → UInt64) (site : Site σ) :
    Prop where
  /-- There are nine changes of phase, and two for every module that was brought in. -/
  turns_le : ∀ n, site.turns rack settings times n ≤
    9 + 2 * (site.proceed rack settings times n).roster.modules.length
  /-- There is an address and a row for every module. -/
  length_le : ∀ n, (site.proceed rack settings times n).roster.modules.length ≤
    min (settings.maxDevices - 1) 254
  /-- The survey never comes to the last phase and every step says so, or it comes there and stays.
  Then one step performs the actions of that phase, and every step says whether it comes before,
  is this one, or comes later. -/
  ends :
    (∀ n, (site.proceed rack settings times n).survey.phase ≠ .finished ∧
      site.reported rack settings times n = .surveying) ∨
    ∃ m, (∀ n, (site.proceed rack settings times n).survey.phase = .finished ↔ m ≤ n) ∧
      ∀ n, site.reported rack settings times n =
        if n < m then .surveying else .finished (n == m)

/-- **A survey cannot wander**: a new one with an empty roster keeps to its course, whatever the
rack and the clock do. -/
theorem course_start {rack : Rack σ} {settings : Settings} (hvalid : settings.check = .ok ())
    {site : Site σ} (hsurvey : site.survey = .start settings.rightBase) {core : Identity}
    (hroster : site.roster = .ofCore settings.maxDevices core) (times : Nat → UInt64) :
    site.Course rack settings times := by
  have hvalid := Settings.check_eq_ok_iff.mp hvalid
  have hfills : site.Fills settings .zero := by
    refine ⟨?_, by rw [hroster]; rfl, by rw [hroster]; rfl, ?_⟩
    · rw [hsurvey]
      exact Survey.allots_start hvalid.two_le_rightBase hvalid.rightBase_lt
    · rw [hroster]
      exact hvalid.maxDevices_pos
  refine ⟨fun n ↦ ?_, fun n ↦ ?_, ?_⟩
  · have hle := site.turns_add_distance_le rack settings times n
    rw [hsurvey] at hle
    have hbegin : (Survey.start settings.rightBase).phase.distance = 9 := rfl
    omega
  · obtain ⟨t, ht⟩ := hfills.proceed rack times n
    exact ht.length_le hvalid
  · by_cases hever : ∃ n, (site.proceed rack settings times n).survey.phase = .finished
    · right
      have hm (n : Nat) : (site.proceed rack settings times n).survey.phase = .finished ↔
          Nat.find hever ≤ n :=
        ⟨Nat.find_min' hever, fun h ↦ site.phase_proceed_of_le rack times h (Nat.find_spec hever)⟩
      refine ⟨Nat.find hever, hm, site.reported_eq rack times ?_ hm⟩
      rw [hsurvey]
      exact fun h ↦ Phase.noConfusion h
    · left
      intro n
      have hphase : (site.proceed rack settings times n).survey.phase ≠ .finished :=
        fun h ↦ hever ⟨n, h⟩
      exact ⟨hphase, fst_step_of_phase_ne_finished rack hphase _⟩

/-- Settings with room for four rows. -/
def roomForFour : Settings := { Settings.usual with maxDevices := 4 }

/-- A new survey of three modules. -/
def ofThreeModules : Site Chains :=
  ⟨.start ⟨32⟩, .attach Bridge.threeModules, .ofCore 4 roomForFour.coreIdentity⟩

/-- A step every fifty milliseconds. -/
def steadyTimes (n : Nat) : UInt64 := 50000 * UInt64.ofNat n

/-- Three modules are brought in on the way, with 13 changes of phase. -/
theorem course_start_threeModules :
    roomForFour.check = .ok () ∧ ofThreeModules.survey = .start roomForFour.rightBase ∧
      ofThreeModules.roster = .ofCore roomForFour.maxDevices roomForFour.coreIdentity ∧
      ofThreeModules.Course Chains.rack roomForFour steadyTimes ∧
      (ofThreeModules.proceed Chains.rack roomForFour steadyTimes 30).roster.size = 4 ∧
      ofThreeModules.turns Chains.rack roomForFour steadyTimes 30 = 13 ∧
      ofThreeModules.reported Chains.rack roomForFour steadyTimes 30 = .finished false :=
  ⟨rfl, rfl, rfl, course_start (show roomForFour.check = .ok () from rfl) rfl rfl steadyTimes,
    by decide +kernel, by decide +kernel, by decide +kernel⟩

end Site

end RackBus

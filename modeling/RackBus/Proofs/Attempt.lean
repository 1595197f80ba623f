import RackBus.Proofs.Allotment
import RackBus.Proofs.Conduct
import RackBus.Proofs.SurveyStep

/-!
# Attempts to enrol a module

In a dialogue a survey tries to enrol the module that listens under the next address of a side.  An
attempt begins with the request for the identity, so the trace shows how often an address was tried.

* `Event.tried?` is the address that an event tries, and `tried` are those that a part of a trace
  tries.
* `Site.Attempt` lists what a step can do as to attempts: none at all, one that fails and leaves
  room for another, one that fails once too often, or one that brings in a module.
  `Site.attempt_step` says that there is nothing else, and what the trace shows of it.
-/

set_option autoImplicit false

namespace RackBus

universe u

/-! ## What the trace shows -/

/-- The address under which a module is asked for its identity. -/
def Event.tried? : Event → Option Address
  | sent request _ =>
    if request.command = Command.deviceInfo.code then some request.destination else none
  | _ => none

/-- The addresses that a part of a trace tries. -/
def tried (part : List Event) : List Address := part.filterMap Event.tried?

@[simp] theorem tried_append (first second : List Event) :
    tried (first ++ second) = tried first ++ tried second :=
  List.filterMap_append

theorem tried_eq_nil {part : List Event} (h : ∀ e ∈ part, e.tried? = none) : tried part = [] :=
  List.filterMap_eq_nil_iff.mpr h

/-- Only a survey tries an address. -/
theorem Event.tried?_eq_none_of_works {e : Event} {tasks : List Task}
    (h : tasks.any e.serves = true) (hsurvey : .survey ∉ tasks) : e.tried? = none := by
  obtain ⟨task, htask, hserves⟩ := List.any_eq_true.mp h
  cases e with
  | sent request answer =>
    have hrequest : request.task? = some task := by simpa [serves] using hserves
    refine if_neg fun hcommand ↦ hsurvey ?_
    obtain rfl : Task.survey = task :=
      Option.some.inj ((Telegram.task?_eq (c := .deviceInfo) hcommand).symm.trans hrequest)
    exact htask
  | _ => rfl

namespace Bus

variable {σ : Type u}

/-- Work that is no survey tries nothing. -/
theorem Works.exists_trace_eq_untried {rack : Rack σ} {tasks : List Task} {bus after : Bus σ}
    (h : Works rack tasks bus after) (hsurvey : .survey ∉ tasks) :
    ∃ events, after.trace = bus.trace ++ events ∧ tried events = [] := by
  obtain ⟨events, htrace, hevents⟩ := Asks.exists_trace_eq h
  exact ⟨events, htrace,
    tried_eq_nil fun e he ↦ Event.tried?_eq_none_of_works (hevents e he) hsurvey⟩

/-- **An enrolment** tries its address once. -/
theorem tried_enrol (bus : Bus σ) (rack : Rack σ) (address : Address) (side : Side)
    (pause : UInt32) :
    ∃ events, (bus.enrol rack address side pause).2.trace = bus.trace ++ events ∧
      tried events = [address] := by
  have hsend : Step rack bus _ (bus.advance.transfer rack _).2 :=
    .send ⟨address, .core, Command.deviceInfo.code, bus.sequence, []⟩
  have hrest := bus.asks_enrol_rest rack address side pause (P := fun e ↦ e.tried? = none)
    (fun request answer _ hcommand ↦ if_neg fun h ↦ by
      rcases hcommand with hcommand | hcommand <;> rw [hcommand] at h <;>
        exact absurd h (by decide)) rfl
  obtain ⟨events, htrace, hevents⟩ := hrest.exists_trace_eq
  rw [bus.exchange_eq_transfer rack address .deviceInfo (Nat.zero_le _), hsend.trace_eq,
    List.append_assoc] at htrace
  refine ⟨_, htrace, ?_⟩
  rw [tried_append, tried_eq_nil hevents, List.append_nil, tried, List.filterMap_cons,
    Event.tried?, if_pos rfl]
  rfl

end Bus

/-! ## What a step does -/

/-- Only in a dialogue can a module have been brought in. -/
theorem Phase.ne_next_of_mem_successors {p q : Phase} (h : q ∈ p.successors)
    (hp : ∀ side, p ≠ dialogue side) {side : Side} : q ≠ next side := by
  rintro rfl
  cases p with
  | dialogue s => exact hp s rfl
  | first s | enable s | next s => cases s <;> simp [successors, after] at h
  | begin | pulse | settle | finished => simp [successors] at h

namespace Site

variable {σ : Type u}

/-- What a step of a survey can do as to attempts, with the addresses that it tries. -/
inductive Attempt (settings : Settings) (before after : Site σ) : List Address → Prop where
  /-- Nothing is tried.  A dialogue is over then. -/
  | idle (roster : after.roster = before.roster)
      (next : ∀ side, after.survey.next? side = before.survey.next? side)
      (fresh : ∀ side, after.survey.spent side = 0)
      (phase : after.survey.phase = before.survey.phase ∧
          (∀ side, before.survey.phase ≠ .dialogue side) ∨
        after.survey.phase ∈ before.survey.phase.successors ∧
          ∀ side, after.survey.phase ≠ .next side) :
      Attempt settings before after []
  /-- The attempt fails, and the address may be tried again. -/
  | failed (side : Side) (address : Address) (phase : before.survey.phase = .dialogue side)
      (free : before.survey.next? side = some address) (roster : after.roster = before.roster)
      (next : ∀ side, after.survey.next? side = before.survey.next? side)
      (stays : after.survey.phase = .dialogue side)
      (spent : after.survey.spent side = min (before.survey.spent side + 1) 255)
      (patient : after.survey.spent side ≤ settings.retryLimit.toNat) :
      Attempt settings before after [address]
  /-- The attempt fails, and the side is given up. -/
  | abandoned (side : Side) (address : Address) (phase : before.survey.phase = .dialogue side)
      (free : before.survey.next? side = some address) (roster : after.roster = before.roster)
      (next : ∀ side, after.survey.next? side = before.survey.next? side)
      (leaves : after.survey.phase = .after side)
      (impatient : settings.retryLimit.toNat < min (before.survey.spent side + 1) 255) :
      Attempt settings before after [address]
  /-- A module is brought in. -/
  | enrolled (side : Side) (address : Address) (identity : Identity)
      (phase : before.survey.phase = .dialogue side)
      (free : before.survey.next? side = some address)
      (roster : before.roster.append address identity = .ok after.roster)
      (next : ∀ s, after.survey.next? s = (before.survey.advance side).next? s)
      (leaves : after.survey.phase = .next side) :
      Attempt settings before after [address]

variable {settings : Settings} {addresses : List Address}

/-- Only the roster, the next addresses, the phase and the failed attempts matter. -/
theorem Attempt.congr {before before' after : Site σ} (h : Attempt settings before after addresses)
    (hroster : before'.roster = before.roster) (hphase : before'.survey.phase = before.survey.phase)
    (hnext : ∀ side, before'.survey.next? side = before.survey.next? side)
    (hspent : ∀ side, before'.survey.spent side = before.survey.spent side) :
    Attempt settings before' after addresses := by
  cases h with
  | idle roster next fresh phase =>
    rw [← hphase] at phase
    exact .idle (roster.trans hroster.symm) (fun side ↦ (next side).trans (hnext side).symm) fresh
      phase
  | failed side address phase free roster next stays spent patient =>
    exact .failed side address (hphase.trans phase) ((hnext side).trans free)
      (roster.trans hroster.symm) (fun s ↦ (next s).trans (hnext s).symm) stays
      (by rw [hspent, spent]) patient
  | abandoned side address phase free roster next leaves impatient =>
    exact .abandoned side address (hphase.trans phase) ((hnext side).trans free)
      (roster.trans hroster.symm) (fun s ↦ (next s).trans (hnext s).symm) leaves
      (by rw [hspent]; exact impatient)
  | enrolled side address identity phase free roster next leaves =>
    refine .enrolled side address identity (hphase.trans phase) ((hnext side).trans free)
      (by rw [hroster, roster]) (fun s ↦ ?_) leaves
    rw [next]
    rcases side.eq_or_eq_other s with rfl | rfl
    · rw [Survey.next?_advance_self, Survey.next?_advance_self, hnext]
    · rw [Survey.next?_advance_other, Survey.next?_advance_other, hnext]

/-- Whatever is tried, the phase stays or one follows that can follow. -/
theorem Attempt.phase_eq_or_mem_successors {before after : Site σ}
    (h : Attempt settings before after addresses) :
    after.survey.phase = before.survey.phase ∨
      after.survey.phase ∈ before.survey.phase.successors := by
  cases h with
  | idle roster next fresh phase => exact phase.imp And.left And.left
  | failed side address phase free roster next stays spent patient =>
    exact Or.inl (stays.trans phase.symm)
  | abandoned side address phase free roster next leaves impatient =>
    rw [leaves, phase]
    exact Or.inr (List.mem_cons_of_mem _ (List.mem_singleton_self _))
  | enrolled side address identity phase free roster next leaves =>
    rw [leaves, phase]
    exact Or.inr List.mem_cons_self

variable (rack : Rack σ)

/-- A conversation tries the next address, unless there is none or the roster is full. -/
theorem attempt_converse {site : Site σ} {side : Side} (hphase : site.survey.phase = .dialogue side)
    (hentering : site.survey.entering = false) :
    let spoken := site.converse rack settings side
    ∃ events, (spoken.2.goTo spoken.1).bus.trace = site.bus.trace ++ events ∧
      Attempt settings site (spoken.2.goTo spoken.1) (tried events) := by
  have hgivenUp : Attempt settings site (site.goTo (some (.after side))) [] := by
    refine .idle rfl (fun s ↦ by cases s <;> rfl) (fun s ↦ Survey.spent_of_entering rfl s)
      (Or.inr ⟨?_, fun s ↦ ?_⟩)
    · rw [hphase]
      exact List.mem_cons_of_mem _ (List.mem_singleton_self _)
    · cases side <;> simp [goTo, Survey.goTo, Phase.after]
  dsimp only
  rw [converse]
  split
  · exact ⟨[], (List.append_nil _).symm, hgivenUp⟩
  · rename_i address hfree
    split
    · exact ⟨[], (List.append_nil _).symm, hgivenUp⟩
    · rename_i hroom
      obtain ⟨events, htrace, htried⟩ :=
        site.bus.tried_enrol rack address side settings.timings.enrolmentPause
      split
      · rename_i identity bus henrol
        rw [henrol] at htrace
        have happend : site.roster.append address identity =
            .ok { site.roster with
              modules := site.roster.modules ++ [.fresh address identity] } := by
          rw [Roster.append, if_neg hroom]
        rw [happend]
        refine ⟨events, htrace, ?_⟩
        rw [htried]
        exact .enrolled side address identity hphase hfree happend (fun s ↦ by cases s <;> rfl) rfl
      · rename_i bus henrol
        rw [henrol] at htrace
        have hretries : site.survey.countFailure.retries.toNat =
            min (site.survey.spent side + 1) 255 := by
          rw [Survey.countFailure, toNat_clampByte, Survey.spent, if_pos ⟨hphase, hentering⟩]
        dsimp only
        split
        · rename_i hexceeds
          refine ⟨events, htrace, ?_⟩
          rw [htried]
          refine .abandoned side address hphase hfree rfl (fun s ↦ by cases s <;> rfl) rfl ?_
          rw [← hretries]
          exact UInt8.lt_iff_toNat_lt.mp hexceeds
        · rename_i hwithin
          have hspent : site.survey.countFailure.spent side =
              min (site.survey.spent side + 1) 255 := by
            rw [Survey.spent, if_pos ⟨hphase, hentering⟩, hretries]
          refine ⟨events, htrace, ?_⟩
          rw [htried]
          refine .failed side address hphase hfree rfl (fun s ↦ by cases s <;> rfl) hphase hspent ?_
          have hle := Nat.not_lt.mp (mt UInt8.lt_iff_toNat_lt.mpr hwithin)
          rw [hretries, ← hspent] at hle
          exact hle

/-- Outside a dialogue nothing is tried. -/
theorem attempt_check_of_not_dialogue {site : Site σ} (now : UInt64)
    (hdialogue : ∀ side, site.survey.phase ≠ .dialogue side) :
    let checked := site.check rack settings now
    Attempt settings site (checked.2.goTo checked.1) [] := by
  obtain ⟨hsame, hsuccessor⟩ := site.phase_check rack settings now
  obtain ⟨hroster, hnext⟩ := goTo_roster_next (site.check rack settings now).2
    (site.check rack settings now).1
  cases site.outcome_check rack settings now with
  | quiet roster next =>
    refine .idle (hroster.trans roster) (fun side ↦ (hnext side).trans (next side)) ?_ ?_ <;>
      cases hgo : (site.check rack settings now).1
    case refine_1.none =>
      exact fun side ↦ Survey.spent_of_phase_ne (hsame ▸ hdialogue side)
    case refine_1.some => exact fun side ↦ Survey.spent_of_entering rfl side
    case refine_2.none => exact Or.inl ⟨hsame, hdialogue⟩
    case refine_2.some p =>
      have hp := hsuccessor p hgo
      exact Or.inr ⟨hp, fun side ↦ Phase.ne_next_of_mem_successors hp hdialogue⟩
  | enrolled side address identity phase free roster next => exact absurd phase (hdialogue side)

/-- **What one step can do** as to attempts, and what the trace shows of it. -/
theorem attempt_step (site : Site σ) (settings : Settings) (now : UInt64) :
    ∃ events, (site.step rack settings now).2.bus.trace = site.bus.trace ++ events ∧
      Attempt settings site (site.step rack settings now).2 (tried events) := by
  obtain ⟨wires, hwires, huntried⟩ :=
    (site.works_enterIfNew rack settings.timings now).exists_trace_eq_untried (by simp)
  -- The first half of the step tries nothing, and the second half starts from what it leaves.
  suffices h : ∃ events, (site.step rack settings now).2.bus.trace =
      (site.enterIfNew rack settings.timings now).bus.trace ++ events ∧
      Attempt settings (site.enterIfNew rack settings.timings now)
        (site.step rack settings now).2 (tried events) by
    obtain ⟨events, htrace, hattempt⟩ := h
    refine ⟨wires ++ events, by rw [htrace, hwires, List.append_assoc], ?_⟩
    rw [tried_append, huntried, List.nil_append]
    refine hattempt.congr ?_ ?_ ?_ ?_ <;> simp [spent_enterIfNew]
  have hentering := site.entering_enterIfNew rack settings.timings now
  rw [step_eq]
  dsimp only
  generalize site.enterIfNew rack settings.timings now = entered at hentering
  by_cases hdialogue : ∃ side, entered.survey.phase = .dialogue side
  · obtain ⟨side, hphase⟩ := hdialogue
    have hcheck : entered.check rack settings now = entered.converse rack settings side := by
      rw [check, hphase]
    rw [hcheck]
    exact attempt_converse rack hphase hentering
  · have hdialogue (side : Side) : entered.survey.phase ≠ .dialogue side :=
      fun hphase ↦ hdialogue ⟨side, hphase⟩
    obtain ⟨events, htrace, hevents⟩ := (entered.asks_check rack settings now).exists_trace_eq
    have huntried : tried events = [] := tried_eq_nil fun e he ↦ by
      rcases hevents e he with ⟨side, level, rfl⟩ | ⟨side, address, hphase, -⟩
      · rfl
      · exact absurd hphase (hdialogue side)
    refine ⟨events, by rw [bus_goTo, htrace], ?_⟩
    rw [huntried]
    exact attempt_check_of_not_dialogue rack now hdialogue

end Site

end RackBus

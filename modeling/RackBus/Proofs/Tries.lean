import RackBus.Proofs.Course

/-!
# How often an address is tried

A module may fail to answer for ever.  The retry limit is the number of failed attempts that a
survey puts up with.  This file says that a survey keeps to it, unless the limit is the largest
number that the counter of failures can show.

* `Survey.Spares` ties the addresses that were tried to the survey: the next address of a side has
  been tried as often as the dialogue that goes on has failed.  `Survey.Spares.attempt` keeps it
  through every attempt.
* `Site.failures` counts the attempts that fail in a run, and `Site.IsPatient` says of a run that its
  dialogues are left in time.  `Site.isPatient_of_counts` derives it from what every step counts.
* `Site.spares_proceed` and `Site.isPatient_proceed` say both of a survey on its own.
-/

set_option autoImplicit false

namespace RackBus

universe u

/-! ## A survey -/

/-- A phase that is not beyond a side comes from one that is not, either. -/
theorem Phase.isBeyond_eq_false_of_mem_successors {p q : Phase} {side : Side}
    (h : q ∈ p.successors) (hq : q.isBeyond side = false) : p.isBeyond side = false := by
  rw [← Bool.not_eq_true] at hq ⊢
  exact fun hp ↦ hq (isBeyond_of_mem_successors h hp)

namespace Survey

/-- A survey that has given away the addresses of a tally, and tried the given addresses. -/
structure Spares (s : Survey) (base : Address) (limit : Nat) (addresses : List Address)
    (t : Tally) : Prop where
  allots : s.Allots base t
  /-- Only addresses that were given away and the next ones have been tried. -/
  known : ∀ a ∈ addresses, ∃ side i, i ≤ t.of side ∧ i < base.reach side ∧
    a.number = base.nth side i
  /-- The next address of a side has been tried in the dialogue that goes on, if at all. -/
  current : ∀ side a, s.phase.isBeyond side = false → s.next? side = some a →
    addresses.count a ≤ s.spent side
  spent_le : ∀ side, s.spent side ≤ limit
  count_le : ∀ a, addresses.count a ≤ limit + 1

theorem spares_start {settings : Settings} (hvalid : settings.Valid) (limit : Nat) :
    (start settings.rightBase).Spares settings.rightBase limit [] .zero where
  allots := allots_start hvalid.two_le_rightBase hvalid.rightBase_lt
  known := by simp
  current := by simp
  spent_le side := by
    rw [spent_of_phase_ne (fun h ↦ Phase.noConfusion h)]
    exact Nat.zero_le _
  count_le := by simp

section Attempt

variable {s : Survey} {base : Address} {limit : Nat} {addresses : List Address} {t : Tally}
  {side : Side} {address : Address}

/-- Outside its own dialogue, the next address of a side has not been tried. -/
theorem Spares.count_eq_zero (h : s.Spares base limit addresses t) {a : Address}
    (hbeyond : s.phase.isBeyond side = false) (hphase : s.phase ≠ .dialogue side)
    (hfree : s.next? side = some a) : addresses.count a = 0 := by
  have hle := h.current side a hbeyond hfree
  rw [spent_of_phase_ne hphase] at hle
  exact Nat.le_zero.mp hle

/-- The next addresses of different sides are different. -/
theorem Allots.next_ne (h : s.Allots base t) {other : Side} {a : Address}
    (hfree : s.next? side = some address) (ha : s.next? other = some a) (hother : other ≠ side) :
    address ≠ a := by
  rintro rfl
  obtain ⟨hnumber, hlt⟩ := h.number_next hfree
  obtain ⟨hnumber', hlt'⟩ := h.number_next ha
  exact hother (Address.nth_injective hlt' hlt (hnumber'.symm.trans hnumber)).1

/-! One more attempt in the dialogue with a side. -/

section Try

variable (h : s.Spares base limit addresses t) (hphase : s.phase = .dialogue side)
  (hfree : s.next? side = some address)

include h hfree in
theorem Spares.known_append {t' : Tally} (ht : ∀ side, t.of side ≤ t'.of side) :
    ∀ a ∈ addresses ++ [address], ∃ side i, i ≤ t'.of side ∧ i < base.reach side ∧
      a.number = base.nth side i := by
  intro a ha
  rcases List.mem_append.mp ha with ha | ha
  · obtain ⟨side, i, hi, hreach, hnumber⟩ := h.known a ha
    exact ⟨side, i, Nat.le_trans hi (ht side), hreach, hnumber⟩
  · obtain rfl := List.mem_singleton.mp ha
    obtain ⟨hnumber, hlt⟩ := h.allots.number_next hfree
    exact ⟨side, t.of side, ht side, hlt, hnumber⟩

include h hfree in
/-- If a module is brought in, the address that is next then lies beyond all that have been
tried. -/
theorem Spares.count_append_of_add {s' : Survey} (hallots : s'.Allots base (t.add side))
    {a : Address} (ha : s'.next? side = some a) : (addresses ++ [address]).count a = 0 := by
  refine List.count_eq_zero.mpr fun hmem ↦ ?_
  obtain ⟨other, i, hi, hreach, hnumber⟩ := h.known_append hfree (fun _ ↦ Nat.le_refl _) a hmem
  obtain ⟨hnumber', hreach'⟩ := hallots.number_next ha
  obtain ⟨rfl, hposition⟩ := Address.nth_injective hreach hreach' (hnumber.symm.trans hnumber')
  rw [Tally.of_add_self] at hposition
  omega

include h hphase hfree in
/-- Its own address has been tried once more. -/
theorem Spares.count_append_self_le :
    (addresses ++ [address]).count address ≤ s.spent side + 1 := by
  have hle := h.current side address (by rw [hphase, Phase.isBeyond_dialogue]) hfree
  rw [List.count_append, List.count_singleton_self]
  omega

include h hphase hfree in
theorem Spares.count_append_le (a : Address) :
    (addresses ++ [address]).count a ≤ limit + 1 := by
  by_cases ha : a = address
  · have hspent := h.spent_le side
    have hself := h.count_append_self_le hphase hfree
    rw [ha]
    omega
  · rw [List.count_append, List.count_singleton, if_neg (by simpa using Ne.symm ha)]
    exact h.count_le a

include h hphase hfree in
/-- The other side has not been tried yet, unless the survey is done with it. -/
theorem Spares.count_append_other {other : Side} {a : Address} (hother : other ≠ side)
    (hbeyond : s.phase.isBeyond other = false) (ha : s.next? other = some a) :
    (addresses ++ [address]).count a = 0 := by
  have hne : address ≠ a := h.allots.next_ne hfree ha hother
  have hzero := h.count_eq_zero hbeyond (by simpa [hphase] using hother.symm) ha
  rw [List.count_append, List.count_singleton, if_neg (by simpa using hne), hzero]

end Try

end Attempt

/-- **An attempt** is within the limit, if the counter of failures can exceed the limit. -/
theorem Spares.attempt {σ : Type u} {before after : Site σ} {settings : Settings}
    {addresses more : List Address} {t : Tally}
    (h : before.survey.Spares settings.rightBase settings.retryLimit.toNat addresses t)
    (hlimit : settings.retryLimit.toNat < 255) (hattempt : Site.Attempt settings before after more) :
    ∃ t', after.survey.Spares settings.rightBase settings.retryLimit.toNat (addresses ++ more)
      t' := by
  cases hattempt with
  | idle roster next fresh phase =>
    refine ⟨t, h.allots.congr next, ?_, fun side a hbeyond hfree ↦ ?_, fun side ↦ ?_, ?_⟩
    · simpa using h.known
    · rw [next] at hfree
      rw [List.append_nil, fresh]
      rcases phase with ⟨hsame, hdialogue⟩ | ⟨hsuccessor, hnext⟩
      · exact Nat.le_of_eq (h.count_eq_zero (hsame ▸ hbeyond) (hdialogue side) hfree)
      · have hbefore := Phase.isBeyond_eq_false_of_mem_successors hsuccessor hbeyond
        refine Nat.le_of_eq (h.count_eq_zero hbefore (fun hphase ↦ ?_) hfree)
        rw [hphase] at hsuccessor
        rcases List.mem_pair.mp hsuccessor with hq | hq
        · exact hnext side hq
        · rw [hq, Phase.isBeyond_after] at hbeyond
          exact absurd hbeyond (by simp)
    · rw [fresh]
      exact Nat.zero_le _
    · simpa using h.count_le
  | failed side address phase free roster next stays spent patient =>
    -- The counter has counted this failure, because it has not reached its end.
    have hcounted : after.survey.spent side = before.survey.spent side + 1 := by
      have hle := h.spent_le side
      omega
    refine ⟨t, h.allots.congr next, h.known_append free fun _ ↦ Nat.le_refl _,
      fun s a hbeyond ha ↦ ?_, fun s ↦ ?_, h.count_append_le phase free⟩
    · rw [next] at ha
      by_cases hs : s = side
      · subst hs
        obtain rfl : address = a := Option.some.inj (free.symm.trans ha)
        rw [hcounted]
        exact h.count_append_self_le phase free
      · rw [stays, ← phase] at hbeyond
        exact Nat.le_trans (Nat.le_of_eq (h.count_append_other phase free hs hbeyond ha))
          (Nat.zero_le _)
    · by_cases hs : s = side
      · exact hs ▸ patient
      · rw [spent_of_phase_ne (by simpa [stays] using Ne.symm hs)]
        exact Nat.zero_le _
  | abandoned side address phase free roster next leaves impatient =>
    refine ⟨t, h.allots.congr next, h.known_append free fun _ ↦ Nat.le_refl _,
      fun s a hbeyond ha ↦ ?_, fun s ↦ ?_, h.count_append_le phase free⟩
    · have hs : s ≠ side := by
        rintro rfl
        rw [leaves, Phase.isBeyond_after] at hbeyond
        exact absurd hbeyond (by simp)
      rw [next] at ha
      have hsuccessor : after.survey.phase ∈ before.survey.phase.successors := by
        rw [leaves, phase]
        exact List.mem_pair.mpr (Or.inr rfl)
      have hbefore := Phase.isBeyond_eq_false_of_mem_successors hsuccessor hbeyond
      exact Nat.le_trans (Nat.le_of_eq (h.count_append_other phase free hs hbefore ha))
        (Nat.zero_le _)
    · rw [spent_of_phase_ne (by rw [leaves]; cases side <;> simp [Phase.after])]
      exact Nat.zero_le _
  | enrolled side address identity phase free roster next leaves =>
    have hallots : after.survey.Allots settings.rightBase (t.add side) :=
      (h.allots.advance free).congr next
    have hadd (s : Side) : t.of s ≤ (t.add side).of s := by
      rcases side.eq_or_eq_other s with rfl | rfl
      · rw [Tally.of_add_self]
        exact Nat.le_succ _
      · rw [Tally.of_add_other]
    refine ⟨t.add side, hallots, h.known_append free hadd, fun s a hbeyond ha ↦ ?_, fun s ↦ ?_,
      h.count_append_le phase free⟩
    · refine Nat.le_trans (Nat.le_of_eq ?_) (Nat.zero_le _)
      by_cases hs : s = side
      · subst hs
        exact h.count_append_of_add free hallots ha
      · obtain rfl := (side.eq_or_eq_other s).resolve_left hs
        rw [next, next?_advance_other] at ha
        refine h.count_append_other phase free hs ?_ ha
        rw [phase]
        rw [leaves] at hbeyond
        cases side <;> exact hbeyond
    · rw [spent_of_phase_ne (by simp [leaves])]
      exact Nat.zero_le _

end Survey

/-! ## Runs -/

namespace Site

variable {σ : Type u}

/-- Was an address tried in vain between two points of a run? -/
def failed (before after : Site σ) : Bool :=
  tried after.bus.trace ≠ tried before.bus.trace ∧ after.roster.size = before.roster.size

/-- How often an address was tried in vain in the `n` steps of a run behind the first `m`. -/
def failures (run : Nat → Site σ) (m : Nat) : Nat → Nat
  | 0 => 0
  | n + 1 => failures run m n + if (run (m + n)).failed (run (m + n + 1)) then 1 else 0

/-- A run that leaves a dialogue when more attempts have failed than the limit allows, if not before:
as long as a dialogue goes on, no more have failed. -/
def IsPatient (run : Nat → Site σ) (limit : Nat) : Prop :=
  ∀ side m n, (∀ i ≤ n, (run (m + i)).survey.phase = .dialogue side) → failures run m n ≤ limit

/-- Between two points of a run, the survey counts an attempt that has failed. -/
def Counts (before after : Site σ) : Prop :=
  ∀ side, before.survey.phase = .dialogue side → after.survey.phase = .dialogue side →
    (if before.failed after then 1 else 0) + before.survey.spent side ≤ after.survey.spent side

/-- **What every step counts** is all that a dialogue can last. -/
theorem isPatient_of_counts {run : Nat → Site σ} {limit : Nat}
    (hcounts : ∀ n, (run n).Counts (run (n + 1)))
    (hspent : ∀ n side, (run n).survey.spent side ≤ limit) : IsPatient run limit := by
  intro side m n hstays
  suffices h : failures run m n ≤ (run (m + n)).survey.spent side from
    Nat.le_trans h (hspent _ _)
  induction n with
  | zero => exact Nat.zero_le _
  | succ n ih =>
    have hbefore := ih fun i hi ↦ hstays i (Nat.le_succ_of_le hi)
    have hcount := hcounts (m + n) side (hstays n (Nat.le_succ n)) (hstays (n + 1) (Nat.le_refl _))
    rw [failures]
    exact Nat.le_trans (by omega) hcount

/-- Where nothing is tried, nothing has failed. -/
theorem counts_of_untried {before after : Site σ}
    (htrace : tried after.bus.trace = tried before.bus.trace)
    (hsurvey : after.survey = before.survey) : before.Counts after := by
  intro side _ _
  rw [if_neg (by simp [failed, htrace]), hsurvey]
  exact Nat.le_of_eq (Nat.zero_add _)

/-- **An attempt** is counted, if the counter of failures can exceed the limit. -/
theorem Attempt.counts {before site after : Site σ} {settings : Settings} {addresses : List Address}
    (h : Attempt settings before site addresses) (hlimit : settings.retryLimit.toNat < 255)
    (hsurvey : after.survey = site.survey) : before.Counts after := by
  intro side hbefore hafter
  rw [hsurvey] at hafter ⊢
  cases h with
  | idle roster next fresh phase =>
    rcases phase with ⟨-, hdialogue⟩ | ⟨hsuccessor, -⟩
    · exact absurd hbefore (hdialogue side)
    · rw [hbefore, hafter] at hsuccessor
      cases side <;> exact absurd hsuccessor (by simp [Phase.successors, Phase.after])
  | failed s address phase free roster next stays spent patient =>
    obtain rfl : s = side := Phase.dialogue.inj (phase.symm.trans hbefore)
    split <;> omega
  | abandoned s address phase free roster next leaves impatient =>
    rw [leaves] at hafter
    cases s <;> exact absurd hafter (by simp [Phase.after])
  | enrolled s address identity phase free roster next leaves =>
    exact absurd (leaves.symm.trans hafter) (by simp)

section Proceed

variable (rack : Rack σ) {settings : Settings} (times : Nat → UInt64) {site : Site σ}

/-- A new survey keeps to the limit while it goes on. -/
theorem spares_proceed (hvalid : settings.Valid) (hlimit : settings.retryLimit.toNat < 255)
    (hsurvey : site.survey = .start settings.rightBase) (n : Nat) :
    ∃ part t, (site.proceed rack settings times n).bus.trace = site.bus.trace ++ part ∧
      (site.proceed rack settings times n).survey.Spares settings.rightBase
        settings.retryLimit.toNat (tried part) t := by
  induction n with
  | zero =>
    refine ⟨[], .zero, (List.append_nil _).symm, ?_⟩
    rw [proceed, hsurvey]
    exact Survey.spares_start hvalid _
  | succ n ih =>
    obtain ⟨part, t, htrace, hspares⟩ := ih
    obtain ⟨events, hevents, hattempt⟩ :=
      attempt_step rack (site.proceed rack settings times n) settings (times n)
    obtain ⟨t', hspares'⟩ := hspares.attempt hlimit hattempt
    refine ⟨part ++ events, t', ?_, ?_⟩
    · rw [proceed, hevents, htrace, List.append_assoc]
    · rw [tried_append]
      exact hspares'

theorem isPatient_proceed (hvalid : settings.Valid) (hlimit : settings.retryLimit.toNat < 255)
    (hsurvey : site.survey = .start settings.rightBase) :
    IsPatient (site.proceed rack settings times) settings.retryLimit.toNat := by
  refine isPatient_of_counts (fun n ↦ ?_) fun n side ↦ ?_
  · obtain ⟨events, -, hattempt⟩ :=
      attempt_step rack (site.proceed rack settings times n) settings (times n)
    exact hattempt.counts hlimit rfl
  · obtain ⟨part, t, -, hspares⟩ := spares_proceed rack times hvalid hlimit hsurvey n
    exact hspares.spent_le side

end Proceed

end Site

end RackBus

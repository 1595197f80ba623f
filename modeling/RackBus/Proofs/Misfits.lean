import RackBus.Proofs.Flags
import RackBus.Roster.Reconcile

/-!
# What reconciliation does to the status flags

Three of the status flags are decided by every reconciliation, and all others are left alone.

* `Report.Misfits` is what the third of these flags stands for.
* `Roster.status_reconcile` is the set of flags that comes out, as a set.
* `Roster.decided_reconcile` says what each of the three flags means in terms of the report, and
  `Roster.has_reconcile_of_undecided` is about all others.
-/

set_option autoImplicit false

namespace RackBus

/-- A module differs from its declaration, or another one than the core does not fit into the
image. -/
def Report.Misfits (r : Report) : Prop :=
  (∃ m, Issue.mismatch m ∈ r.issues) ∨ ∃ i, i ≠ 0 ∧ Issue.outsideImage i ∈ r.issues

/-- What a report is made of tells whether anything misfits. -/
theorem Report.misfits_iff {r : Report} {mismatches overlap : List Issue} {outside : List Nat}
    (h : r.issues = mismatches ++ outside.map .outsideImage ++ overlap)
    (hmismatches : ∀ issue ∈ mismatches, ∃ m, issue = .mismatch m)
    (hoverlap : ∀ issue ∈ overlap, ∃ first second, issue = .overlap first second) :
    (!mismatches.isEmpty || outside.any fun i ↦ i != 0) = true ↔ r.Misfits := by
  rw [Misfits, h, Bool.or_eq_true, Bool.not_eq_true', List.isEmpty_eq_false_iff, List.any_eq_true]
  refine or_congr ?_ ?_
  · constructor
    · intro hne
      obtain ⟨issue, hissue⟩ := List.exists_mem_of_ne_nil _ hne
      obtain ⟨m, rfl⟩ := hmismatches issue hissue
      exact ⟨m, List.mem_append_left _ (List.mem_append_left _ hissue)⟩
    · rintro ⟨m, hm⟩ rfl
      rcases List.mem_append.mp hm with hm | hm
      · simp at hm
      · obtain ⟨first, second, heq⟩ := hoverlap _ hm
        exact absurd heq (by simp)
  · constructor
    · rintro ⟨i, hi, hne⟩
      refine ⟨i, by simpa using hne, List.mem_append_left _ (List.mem_append_right _ ?_)⟩
      exact List.mem_map_of_mem hi
    · rintro ⟨i, hne, hi⟩
      refine ⟨i, ?_, by simpa using hne⟩
      rcases List.mem_append.mp hi with hi | hi
      · rcases List.mem_append.mp hi with hi | hi
        · obtain ⟨m, heq⟩ := hmismatches _ hi
          exact absurd heq (by simp)
        · simpa using hi
      · obtain ⟨first, second, heq⟩ := hoverlap _ hi
        exact absurd heq (by simp)

namespace Roster

variable (r : Roster) (declared : List Declaration) (imageSize : Nat) (status : Status)

/-- Comparing modules with their declarations brings up nothing but differences. -/
theorem exists_eq_mismatch {issue : Issue} (h : issue ∈ r.mismatches declared) :
    ∃ m, issue = .mismatch m := by
  obtain ⟨e, -, he⟩ := List.mem_filterMap.mp h
  cases hj : judge declared e.1 with
  | different kind expected found =>
    rw [hj] at he
    exact ⟨_, (Option.some.inj he).symm⟩
  | matched _ _ | undeclared =>
    rw [hj] at he
    exact absurd he (by simp [Verdict.issue?])

/-- **What a comparison does to the status flags**: three of them are decided anew, and the report
says why. -/
theorem status_reconcile :
    ∃ misfits : Bool, (misfits = true ↔ (r.reconcile declared imageSize status).2.2.Misfits) ∧
      (r.reconcile declared imageSize status).2.1 =
        (((status.remove .configuration).insertIf
          ((r.reconcile declared imageSize status).2.2.extra != 0) Flag.extraModule.status).insertIf
            ((r.reconcile declared imageSize status).2.2.missing != 0)
              Flag.missingModule.status).insertIf misfits Flag.sizeMismatch.status := by
  refine ⟨_, Report.misfits_iff rfl ?_ ?_, rfl⟩
  · intro issue hissue
    split at hissue
    · exact absurd hissue List.not_mem_nil
    · exact exists_eq_mismatch _ declared hissue
  · intro issue hissue
    split at hissue
    · exact ⟨_, _, List.mem_singleton.mp hissue⟩
    · exact absurd hissue List.not_mem_nil

/-- **The flags that reconciliation decides** say what the report says. -/
theorem decided_reconcile :
    let after := r.reconcile declared imageSize status
    (after.2.1.has Flag.extraModule.position = true ↔ 0 < after.2.2.extra) ∧
      (after.2.1.has Flag.missingModule.position = true ↔ 0 < after.2.2.missing) ∧
      (after.2.1.has Flag.sizeMismatch.position = true ↔ after.2.2.Misfits) := by
  intro after
  obtain ⟨misfits, hmisfits, hstatus⟩ := r.status_reconcile declared imageSize status
  rw [show after.2.1 = _ from hstatus]
  refine ⟨?_, ?_, ?_⟩
  · simp [Status.has_configuration, Flag.position, Nat.pos_iff_ne_zero, after]
  · simp [Status.has_configuration, Flag.position, Nat.pos_iff_ne_zero, after]
  · simp [Status.has_configuration, Flag.position, hmisfits, after]

/-- All other flags stay as they are. -/
theorem has_reconcile_of_undecided {i : Nat} (hi : Status.configuration.has i = false) :
    (r.reconcile declared imageSize status).2.1.has i = status.has i := by
  obtain ⟨misfits, -, hstatus⟩ := r.status_reconcile declared imageSize status
  have hother := (Status.has_configuration i).symm.trans hi
  simp only [Bool.or_eq_false_iff] at hother
  rw [hstatus]
  simp [hi, hother.1.1, hother.1.2, hother.2]

end Roster

end RackBus

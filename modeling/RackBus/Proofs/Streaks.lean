import RackBus.Proofs.Rounds
import Mathlib.Data.List.Induction

/-!
# What becomes of the error counts in many rounds of polling

A round of polling calls the driver of every module that takes part, except for gateways, and the
error count of a row follows from what its driver has said.  This file follows the counts through
any number of rounds.

* `streak` is the number of failures since the last success, and `Row.scored` a row after some
  results: its error count is the streak, as far as it fits.
* A `Visit` is one call of a driver.  `Roster.due` are the rows that a round visits, and
  `Sweep.exists_visits` says that it visits them once each and in order.
* `Polled.visited_round` is about one round, and `Polled.run` are rounds one after the other, each
  on an `Occasion` of its own.  `Polled.Tracks` is what can be relied on, and `Polled.tracks` says
  so of all drivers and any number of rounds.
-/

set_option autoImplicit false

namespace RackBus

universe u

/-! ## Failures since the last success -/

/-- The number of failures since the last success.  If nothing has succeeded it counts on from
`start`. -/
def streak (start : Nat) (results : List (Except Failure Unit)) : Nat :=
  if results.all fun r ↦ !r.isOk then start + results.length
  else (results.reverse.takeWhile fun r ↦ !r.isOk).length

@[simp] theorem streak_nil (start : Nat) : streak start [] = start := rfl

/-- One result more ends the streak or makes it longer. -/
theorem streak_concat (start : Nat) (results : List (Except Failure Unit))
    (result : Except Failure Unit) :
    streak start (results ++ [result]) = if result.isOk then 0 else streak start results + 1 := by
  cases hok : result.isOk with
  | true => simp [streak, hok]
  | false =>
    have hall : ((results ++ [result]).all fun r ↦ !r.isOk) = results.all fun r ↦ !r.isOk := by
      rw [List.all_append, List.all_cons, hok]
      exact Bool.and_true _
    rw [streak, streak, hall, List.length_append, List.reverse_append, List.reverse_singleton,
      List.singleton_append, List.takeWhile_cons, hok]
    split <;> rfl

/-- A streak goes on where it was left. -/
theorem streak_append (start : Nat) (results more : List (Except Failure Unit)) :
    streak start (results ++ more) = streak (streak start results) more := by
  induction more using List.reverseRecOn with
  | nil => rw [List.append_nil, streak_nil]
  | append_singleton more result ih =>
    rw [← List.append_assoc, streak_concat, streak_concat, ih]

example : streak 3 [.error .noTransport, .ok (), .error .noTransport] = 1 := rfl

/-- It does not matter whether a counter stops at its largest value in between. -/
theorem min_streak_min (start : Nat) (results : List (Except Failure Unit)) :
    min (streak (min start 255) results) 255 = min (streak start results) 255 := by
  induction results using List.reverseRecOn with
  | nil => rw [streak_nil, streak_nil]; omega
  | append_singleton results result ih =>
    rw [streak_concat, streak_concat]
    split <;> omega

/-! ## Rows -/

theorem clampByte_congr {m n : Nat} (h : min m 255 = min n 255) : clampByte m = clampByte n := by
  rw [clampByte, clampByte, h]

namespace Row

/-- Is the driver of this row called? -/
def isDue (row : Row) : Bool := row.active && !row.identity.type.isGateway

/-- A row after some results of its driver.  If the driver is not called, nothing happens to it. -/
def scored (row : Row) (results : List (Except Failure Unit)) : Row :=
  if row.isDue then { row with errors := clampByte (streak row.errors.toNat results) } else row

@[simp] theorem isDue_scored (row : Row) (results : List (Except Failure Unit)) :
    (row.scored results).isDue = row.isDue := by
  rw [scored]
  split <;> rfl

@[simp] theorem scored_nil (row : Row) : row.scored [] = row := by
  have hsame : clampByte row.errors.toNat = row.errors := by
    rw [← UInt8.toNat_inj, toNat_clampByte]
    have hlt := row.errors.toNat_lt
    omega
  rw [scored, streak_nil, hsame]
  exact ite_self _

theorem scored_append (row : Row) (results more : List (Except Failure Unit)) :
    row.scored (results ++ more) = (row.scored results).scored more := by
  rw [scored, scored, isDue_scored]
  split
  · rename_i hdue
    have hcount : clampByte (streak row.errors.toNat (results ++ more)) =
        clampByte (streak (clampByte (streak row.errors.toNat results)).toNat more) := by
      refine clampByte_congr ?_
      rw [streak_append, toNat_clampByte, min_streak_min]
    rw [hcount, scored, if_pos hdue]
  · rename_i hdue
    rw [scored, if_neg hdue]

end Row

/-! ## Calls of drivers -/

/-- A call of a driver. -/
structure Visit where
  /-- The index of its row. -/
  index : Nat
  /-- The row. -/
  row : Row
  /-- What the driver has said. -/
  result : Except Failure Unit

/-- The event that a call leaves in the trace. -/
def Visit.event (v : Visit) : Event := .exchanged v.index v.row v.result

/-- What the driver of a row has said in some calls. -/
def resultsAt (index : Nat) (visits : List Visit) : List (Except Failure Unit) :=
  (visits.filter fun v ↦ v.index == index).map Visit.result

theorem resultsAt_cons (index : Nat) (v : Visit) (visits : List Visit) :
    resultsAt index (v :: visits) =
      if v.index = index then v.result :: resultsAt index visits else resultsAt index visits := by
  rw [resultsAt, List.filter_cons]
  simp only [beq_iff_eq]
  split <;> rfl

theorem resultsAt_append (index : Nat) (visits more : List Visit) :
    resultsAt index (visits ++ more) = resultsAt index visits ++ resultsAt index more := by
  rw [resultsAt, List.filter_append, List.map_append]
  rfl

theorem resultsAt_eq_nil {index : Nat} {visits : List Visit} (h : ∀ v ∈ visits, v.index ≠ index) :
    resultsAt index visits = [] := by
  rw [resultsAt, List.filter_eq_nil_iff.mpr fun v hv ↦ by simpa using h v hv, List.map_nil]

namespace Sweep

variable {σ : Type u}

/-- What some calls of drivers have made of rows, the first of which has the given index, and of
everything else. -/
structure Calls (before : Sweep σ) (index : Nat) (rows : List Row) (visits : List Visit)
    (after : List Row × Sweep σ) : Prop where
  /-- The rows that are due are called once each, and in order. -/
  due : visits.map (fun v ↦ (v.row, v.index)) =
    (rows.zipIdx index).filter fun e ↦ e.1.isDue
  /-- Every row is scored with what its driver has said. -/
  rows : after.1 = (rows.zipIdx index).map fun e ↦ e.1.scored (resultsAt e.2 visits)
  trace : after.2.bus.trace = before.bus.trace ++ visits.map Visit.event
  polled : after.2.polled = before.polled + visits.length
  failed : after.2.failed = (before.failed || visits.any fun v ↦ !v.result.isOk)

/-- The indices of the rows that are called begin with the first one. -/
theorem Calls.le_index {before : Sweep σ} {index : Nat} {rows : List Row} {visits : List Visit}
    {after : List Row × Sweep σ} (h : Calls before index rows visits after) {v : Visit}
    (hv : v ∈ visits) : index ≤ v.index := by
  have hmem : (v.row, v.index) ∈ visits.map fun v ↦ (v.row, v.index) :=
    List.mem_map_of_mem hv
  rw [h.due] at hmem
  exact List.le_snd_of_mem_zipIdx (List.mem_filter.mp hmem).1

variable (rack : Rack σ) (base : Address)

/-- A row that is not due is passed over. -/
theorem visit_of_not_isDue (s : Sweep σ) (index : Nat) {row : Row} (h : row.isDue = false) :
    (s.visit rack base index row).1 = row ∧
      (s.visit rack base index row).2.bus = s.bus ∧
      (s.visit rack base index row).2.polled = s.polled ∧
      (s.visit rack base index row).2.failed = s.failed := by
  rw [visit]
  split
  · exact ⟨rfl, rfl, rfl, rfl⟩
  · rename_i hactive
    have hgateway : row.identity.type.isGateway = true := by
      simpa [Row.isDue, (by simpa using hactive : row.active = true)] using h
    rw [if_pos hgateway, noteGateway]
    split <;> exact ⟨rfl, rfl, rfl, rfl⟩

/-- The driver of a row that is due is called. -/
theorem visit_of_isDue (s : Sweep σ) (index : Nat) {row : Row} (h : row.isDue = true) :
    ∃ v : Visit, v.index = index ∧ v.row = row ∧
      (s.visit rack base index row).1 = row.scored [v.result] ∧
      (s.visit rack base index row).2.bus.trace = s.bus.trace ++ [v.event] ∧
      (s.visit rack base index row).2.polled = s.polled + 1 ∧
      (s.visit rack base index row).2.failed = (s.failed || !v.result.isOk) := by
  obtain ⟨hactive, hgateway⟩ := Bool.and_eq_true_iff.mp h
  have hgateway : row.identity.type.isGateway = false := by simpa using hgateway
  have htrace : (s.bus.exchangeData rack index row s.image).2.2.trace = s.bus.trace ++
      [.exchanged index row (s.bus.exchangeData rack index row s.image).1] := rfl
  rw [visit, if_neg (by simp [hactive]), if_neg (by simp [hgateway])]
  split <;> rename_i hresult <;> rw [hresult] at htrace
  · exact ⟨⟨index, row, .ok ()⟩, rfl, rfl, (if_pos h).symm, htrace, rfl, (Bool.or_false _).symm⟩
  · exact ⟨⟨index, row, .error _⟩, rfl, rfl, (if_pos h).symm, htrace, rfl, (Bool.or_true _).symm⟩

/-- **Going through the rows** calls the drivers of those that are due. -/
theorem exists_visits (s : Sweep σ) (index : Nat) (rows : List Row) :
    ∃ visits, Calls s index rows visits (s.visitAll rack base index rows) := by
  induction rows generalizing s index with
  | nil => exact ⟨[], rfl, rfl, (List.append_nil _).symm, rfl, (Bool.or_false _).symm⟩
  | cons row rest ih =>
    obtain ⟨visits, hvisits⟩ := ih (s.visit rack base index row).2 (index + 1)
    have hnever : resultsAt index visits = [] :=
      resultsAt_eq_nil fun v hv ↦ Nat.ne_of_gt (hvisits.le_index hv)
    cases hdue : row.isDue with
    | false =>
      obtain ⟨hrow, hbus, hpolled, hfailed⟩ := s.visit_of_not_isDue rack base index hdue
      refine ⟨visits, ?_, ?_, ?_, ?_, ?_⟩
      · rw [List.zipIdx_cons, List.filter_cons, if_neg (by simp [hdue]), hvisits.due]
      · rw [List.zipIdx_cons, List.map_cons, hnever, Row.scored_nil, ← hvisits.rows]
        exact congrArg (· :: _) hrow
      · rw [← hbus]
        exact hvisits.trace
      · rw [← hpolled]
        exact hvisits.polled
      · rw [← hfailed]
        exact hvisits.failed
    | true =>
      obtain ⟨v, hindex, hrow, hscored, htrace, hpolled, hfailed⟩ :=
        s.visit_of_isDue rack base index hdue
      have hfirst : resultsAt index (v :: visits) = [v.result] := by
        rw [resultsAt_cons, if_pos hindex, hnever]
      have hrest : (rest.zipIdx (index + 1)).map (fun e ↦ e.1.scored (resultsAt e.2 (v :: visits))) =
          (rest.zipIdx (index + 1)).map fun e ↦ e.1.scored (resultsAt e.2 visits) := by
        refine List.map_congr_left fun e he ↦ ?_
        have hlater : index + 1 ≤ e.2 := List.le_snd_of_mem_zipIdx he
        rw [resultsAt_cons, if_neg (by omega)]
      refine ⟨v :: visits, ?_, ?_, ?_, ?_, ?_⟩
      · rw [List.zipIdx_cons, List.filter_cons, if_pos hdue, ← hvisits.due, List.map_cons, hindex,
          hrow]
      · rw [List.zipIdx_cons, List.map_cons, hfirst, hrest, ← hvisits.rows]
        exact congrArg (· :: _) hscored
      · exact hvisits.trace.trans (by rw [htrace, List.append_assoc]; rfl)
      · exact hvisits.polled.trans (by rw [hpolled, List.length_cons]; omega)
      · exact hvisits.failed.trans (by rw [hfailed, List.any_cons, Bool.or_assoc])

end Sweep

/-! ## Rounds of polling -/

namespace Roster

/-- The rows that a round visits, with their indices.  The core's row, which has the index 0, is not
among them. -/
def due (r : Roster) : List (Row × Nat) := (r.modules.zipIdx 1).filter fun e ↦ e.1.isDue

/-- A roster after some calls of drivers. -/
def scored (r : Roster) (visits : List Visit) : Roster :=
  { r with modules := r.modules.mapIdx fun i row ↦ row.scored (resultsAt (i + 1) visits) }

theorem scored_nil (r : Roster) : r.scored [] = r := by
  have hnever (i : Nat) : resultsAt i [] = [] := rfl
  simp [scored, hnever, List.mapIdx_eq_zipIdx_map]

theorem scored_append (r : Roster) (visits more : List Visit) :
    r.scored (visits ++ more) = (r.scored visits).scored more := by
  simp only [scored, resultsAt_append, Row.scored_append, List.mapIdx_mapIdx]
  rfl

end Roster

/-- What may be another one before every round of polling. -/
structure Occasion where
  /-- The process image. -/
  image : Image
  /-- The status flags. -/
  status : Status
  /-- Where the core's bytes are. -/
  core : CoreBlock
  /-- The time. -/
  now : UInt64

namespace Polled

variable {σ : Type u}

/-- A round of polling on some occasion. -/
def round (p : Polled σ) (rack : Rack σ) (base : Address) (o : Occasion) : Round × Polled σ :=
  { p with image := o.image, status := o.status }.cycle rack base o.core o.now

/-- Rounds of polling on some occasions, one after the other. -/
def run (p : Polled σ) (rack : Rack σ) (base : Address) (occasions : List Occasion) : Polled σ :=
  occasions.foldl (fun p o ↦ (p.round rack base o).2) p

/-- What a round does about the rows, with the calls that it makes. -/
structure Visited (before : Polled σ) (visits : List Visit) (after : Round × Polled σ) : Prop where
  /-- The driver of every row that is due is called once, in the order of the rows. -/
  due : visits.map (fun v ↦ (v.row, v.index)) = before.roster.due
  /-- Nothing else is asked of the rack. -/
  trace : after.2.bus.trace = before.bus.trace ++ visits.map Visit.event
  /-- The error counts follow from what the drivers say, and nothing else changes. -/
  roster : after.2.roster = before.roster.scored visits
  polled : after.1.polled = before.roster.due.length
  failed : after.1.failed = true ↔ ∃ v ∈ visits, v.result.isOk = false

variable (p : Polled σ) (rack : Rack σ) (base : Address)

/-- **A round of polling** calls the drivers of the rows that are due. -/
theorem visited_round (o : Occasion) : ∃ visits, p.Visited visits (p.round rack base o) := by
  obtain ⟨visits, hcalls⟩ := Sweep.exists_visits rack base
    { bus := p.bus
      image := o.image
      gateways := p.poller.gateways
      status := o.status
      polled := 0
      failed := false } 1 p.roster.modules
  have hlength : visits.length = p.roster.due.length := by
    rw [Roster.due, ← hcalls.due, List.length_map]
  have hrows : (p.roster.modules.zipIdx 1).map (fun e ↦ e.1.scored (resultsAt e.2 visits)) =
      p.roster.modules.mapIdx fun i row ↦ row.scored (resultsAt (i + 1) visits) := by
    rw [List.mapIdx_eq_zipIdx_map, List.zipIdx_succ, List.map_map]
    rfl
  refine ⟨visits, hcalls.due, hcalls.trace, ?_, ?_, ?_⟩
  · rw [Roster.scored, ← hrows, ← hcalls.rows]
    rfl
  · rw [← hlength]
    exact hcalls.polled.trans (Nat.zero_add _)
  · have hfailed : (p.round rack base o).1.failed = visits.any fun v ↦ !v.result.isOk :=
      hcalls.failed
    simp [hfailed]

/-- What can be relied on in any number of rounds. -/
structure Tracks (p : Polled σ) (rack : Rack σ) (base : Address) (occasions : List Occasion) :
    Prop where
  /-- Every single round visits the rows that are due. -/
  rounds : ∀ n o, occasions[n]? = some o →
    let before := p.run rack base (occasions.take n)
    ∃ visits, before.Visited visits (before.round rack base o)
  /-- After all of them, the error counts follow from what the drivers have said in the rounds, and
  nothing else has changed in the roster. -/
  counts : ∃ visits, (p.run rack base occasions).bus.trace = p.bus.trace ++ visits.map Visit.event ∧
    (p.run rack base occasions).roster = p.roster.scored visits

/-- **The error counts after any number of rounds** are the failures since the last success, as far
as a counter goes, whatever the drivers do. -/
theorem tracks (occasions : List Occasion) : p.Tracks rack base occasions := by
  refine ⟨fun n o _ ↦ visited_round _ rack base o, ?_⟩
  induction occasions generalizing p with
  | nil => exact ⟨[], (List.append_nil _).symm, p.roster.scored_nil.symm⟩
  | cons o rest ih =>
    obtain ⟨visits, hvisited⟩ := p.visited_round rack base o
    obtain ⟨more, htrace, hroster⟩ := ih (p.round rack base o).2
    refine ⟨visits ++ more, ?_, ?_⟩
    · rw [run, List.foldl_cons, ← run, htrace, hvisited.trace, List.map_append, List.append_assoc]
    · rw [run, List.foldl_cons, ← run, hroster, hvisited.roster, Roster.scored_append]

end Polled

end RackBus

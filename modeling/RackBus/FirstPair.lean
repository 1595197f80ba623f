/-!
# The first pair in a list

`firstPair p l` searches a list for two elements, the earlier one first, that `p` holds of.  Pairs
are tried in the order of their first and then of their second element.

* `firstPair_eq_none_iff`: nothing is found exactly when `p` holds of no such pair.
* `firstPair_eq_some_iff`: what is found, in terms of the positions in the list.
-/

set_option autoImplicit false

namespace RackBus

universe u

variable {α : Type u}

/-- The first two elements, in the order of the list, that `p` holds of. -/
def firstPair (p : α → α → Bool) : List α → Option (α × α)
  | [] => none
  | a :: rest =>
    match rest.find? (p a) with
    | some b => some (a, b)
    | none => firstPair p rest

theorem firstPair_eq_none_iff {p : α → α → Bool} {l : List α} :
    firstPair p l = none ↔ l.Pairwise fun a b ↦ p a b = false := by
  induction l with
  | nil => simp [firstPair]
  | cons a rest ih =>
    rw [firstPair, List.pairwise_cons, ← ih]
    split
    · rename_i b hb
      have h := List.find?_some hb
      have hmem := List.mem_of_find?_eq_some hb
      simp only [reduceCtorEq, false_iff, not_and]
      intro hall
      rw [hall b hmem] at h
      exact absurd h (by simp)
    · rename_i hn
      rw [List.find?_eq_none] at hn
      simp only [Bool.not_eq_true] at hn
      exact ⟨fun h ↦ ⟨hn, h⟩, fun h ↦ h.2⟩

/-- What is found comes before all other pairs, by the position of the first and then of the second
element. -/
theorem exists_position_of_firstPair {p : α → α → Bool} {l : List α} {a b : α}
    (h : firstPair p l = some (a, b)) :
    ∃ i j : Nat, i < j ∧ l[i]? = some a ∧ l[j]? = some b ∧ p a b = true ∧
      ∀ (k m : Nat) (c d : α), k < m → l[k]? = some c → l[m]? = some d → p c d = true →
        i < k ∨ i = k ∧ j ≤ m := by
  induction l with
  | nil => exact absurd h (by simp [firstPair])
  | cons x rest ih =>
    rw [firstPair] at h
    split at h
    · rename_i y hy
      obtain ⟨rfl, rfl⟩ := Prod.mk.inj (Option.some.inj h)
      obtain ⟨hp, j, hj, rfl, hfirst⟩ := List.find?_eq_some_iff_getElem.mp hy
      refine ⟨0, j + 1, Nat.succ_pos j, rfl, by simp [hj], hp, fun k m c d hlt hk hm hcd ↦ ?_⟩
      obtain ⟨m, rfl⟩ := Nat.exists_eq_succ_of_ne_zero (Nat.ne_zero_of_lt hlt)
      rcases Nat.eq_zero_or_pos k with rfl | hpos
      · refine Or.inr ⟨rfl, Nat.succ_le_succ (Nat.not_lt.mp fun hmj ↦ ?_)⟩
        obtain rfl := Option.some.inj hk
        obtain ⟨hlen, rfl⟩ := List.getElem?_eq_some_iff.mp (hm : rest[m]? = some d)
        exact absurd hcd (by simpa using hfirst m hmj)
      · exact Or.inl hpos
    · rename_i hnone
      obtain ⟨i, j, hlt, hi, hj, hp, hleast⟩ := ih h
      refine ⟨i + 1, j + 1, Nat.succ_lt_succ hlt, hi, hj, hp, fun k m c d hkm hk hm hcd ↦ ?_⟩
      obtain ⟨m, rfl⟩ := Nat.exists_eq_succ_of_ne_zero (Nat.ne_zero_of_lt hkm)
      cases k with
      | zero =>
        obtain rfl := Option.some.inj hk
        exact absurd hcd (List.find?_eq_none.mp hnone d (List.mem_of_getElem? hm))
      | succ k =>
        have := hleast k m c d (Nat.lt_of_succ_lt_succ hkm) hk hm hcd
        omega

/-- **The first pair** is the one that comes before all others. -/
theorem firstPair_eq_some_iff {p : α → α → Bool} {l : List α} {a b : α} :
    firstPair p l = some (a, b) ↔
      ∃ i j : Nat, i < j ∧ l[i]? = some a ∧ l[j]? = some b ∧ p a b = true ∧
        ∀ (k m : Nat) (c d : α), k < m → l[k]? = some c → l[m]? = some d → p c d = true →
          i < k ∨ i = k ∧ j ≤ m := by
  refine ⟨exists_position_of_firstPair, fun ⟨i, j, hlt, ha, hb, hp, hfirst⟩ ↦ ?_⟩
  cases h : firstPair p l with
  | none =>
    obtain ⟨hi, rfl⟩ := List.getElem?_eq_some_iff.mp ha
    obtain ⟨hj, rfl⟩ := List.getElem?_eq_some_iff.mp hb
    rw [List.pairwise_iff_getElem.mp (firstPair_eq_none_iff.mp h) i j hi hj hlt] at hp
    exact absurd hp Bool.false_ne_true
  | some pair =>
    obtain ⟨c, d⟩ := pair
    obtain ⟨k, m, hkm, hc, hd, hcd, hleast⟩ := exists_position_of_firstPair h
    have hbefore := hfirst k m c d hkm hc hd hcd
    have hafter := hleast i j a b hlt ha hb hp
    obtain rfl : i = k := by omega
    obtain rfl : j = m := by omega
    rw [Option.some.inj (ha.symm.trans hc), Option.some.inj (hb.symm.trans hd)]

end RackBus

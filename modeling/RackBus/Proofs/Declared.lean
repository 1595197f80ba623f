import RackBus.Roster.Reconcile
import Mathlib.Data.List.Nodup

/-!
# What is declared about an address

Reconciliation looks declarations up by position and keeps a list of the positions that a row has
claimed.  This file says the same without positions.

* `Declaration.first?` is the first declaration of an address, and `Declaration.Describes` says
  that a declaration fits what a module reports about itself.  `judge_eq_matched_iff` is the
  verdict of `judge` in these two words.
* `Roster.Takes` says that a row of a roster has use for a declaration, and `leftOver` goes through
  the declarations once and keeps those that nobody takes: a declaration is taken by a row only if
  no earlier one has the same address.
* `unclaimed_eq_leftOver`: these are exactly the declarations whose positions nobody has claimed.
-/

set_option autoImplicit false

namespace RackBus

namespace Declaration

/-- Does a declaration fit a module with this identity?  The type and both lengths count. -/
def Describes (d : Declaration) (found : Identity) : Prop :=
  found.type = d.type ∧ found.inputLength = d.inputLength ∧ found.outputLength = d.outputLength

instance (d : Declaration) (found : Identity) : Decidable (d.Describes found) :=
  inferInstanceAs (Decidable (_ ∧ _ ∧ _))

/-- The first declaration of an address. -/
def first? (declared : List Declaration) (address : Address) : Option Declaration :=
  declared.find? fun d ↦ d.address == address

theorem mem_of_first? {declared : List Declaration} {address : Address} {d : Declaration}
    (h : first? declared address = some d) : d ∈ declared :=
  List.mem_of_find?_eq_some h

theorem address_of_first? {declared : List Declaration} {address : Address} {d : Declaration}
    (h : first? declared address = some d) : d.address = address := by
  simpa using List.find?_some h

end Declaration

/-! ## The verdict about a row -/

theorem firstDifference_eq_none_iff {found : Identity} {d : Declaration} :
    firstDifference found d = none ↔ d.Describes found := by
  rw [firstDifference, Declaration.Describes]
  split
  · rename_i h
    exact ⟨fun h' ↦ absurd h' (by simp), fun h' ↦ absurd h'.1 h⟩
  · split
    · rename_i h
      exact ⟨fun h' ↦ absurd h' (by simp), fun h' ↦ absurd h'.2.1 h⟩
    · split
      · rename_i h
        exact ⟨fun h' ↦ absurd h' (by simp), fun h' ↦ absurd h'.2.2 h⟩
      · rename_i h₁ h₂ h₃
        exact ⟨fun _ ↦ ⟨not_not.mp h₁, not_not.mp h₂, not_not.mp h₃⟩, fun _ ↦ rfl⟩

/-- The position that comes with a declaration is the first one of its address. -/
theorem declarationAt?_eq_some_iff {declared : List Declaration} {address : Address}
    {d : Declaration} {position : Nat} :
    declarationAt? declared address = some (d, position) ↔
      d.address = address ∧ declared[position]? = some d ∧
        address ∉ (declared.take position).map Declaration.address := by
  rw [declarationAt?, List.find?_eq_some_iff_getElem]
  simp only [beq_iff_eq, List.getElem_zipIdx, Nat.zero_add, Prod.mk.injEq, List.length_zipIdx,
    Bool.not_eq_true', beq_eq_false_iff_ne, List.mem_map, List.mem_take_iff_getElem]
  constructor
  · rintro ⟨ha, i, hi, ⟨hd, rfl⟩, hbefore⟩
    refine ⟨ha, by rw [List.getElem?_eq_getElem hi, hd], ?_⟩
    rintro ⟨_, ⟨j, hj, rfl⟩, hj'⟩
    exact hbefore j (by omega) hj'
  · rintro ⟨ha, hd, hbefore⟩
    obtain ⟨hi, hd⟩ := List.getElem?_eq_some_iff.mp hd
    refine ⟨ha, position, hi, ⟨hd, rfl⟩, fun j hj hj' ↦ hbefore ⟨_, ⟨j, by omega, rfl⟩, hj'⟩⟩

theorem first?_eq_map_declarationAt? (declared : List Declaration) (address : Address) :
    Declaration.first? declared address = (declarationAt? declared address).map Prod.fst := by
  have h := List.find?_map (f := Prod.fst) (p := fun d : Declaration ↦ d.address == address)
    (l := declared.zipIdx)
  rw [List.zipIdx_map_fst] at h
  exact h

/-- **The verdict about a module**: it matches the first declaration of its address, if that one
describes it. -/
theorem judge_eq_matched_iff {declared : List Declaration} {row : Row} {d : Declaration}
    {position : Nat} :
    judge declared row = .matched d position ↔
      declarationAt? declared row.address = some (d, position) ∧ d.Describes row.identity := by
  rw [judge]
  split
  · rename_i h
    simp [h]
  · rename_i d' position' h
    rw [h, Option.some_inj, Prod.mk.injEq]
    split
    · rename_i hn
      rw [firstDifference_eq_none_iff] at hn
      rw [Verdict.matched.injEq]
      exact ⟨fun h' ↦ ⟨h', h'.1 ▸ hn⟩, fun h' ↦ h'.1⟩
    · rename_i hs
      refine ⟨fun h' ↦ absurd h' (by simp), ?_⟩
      rintro ⟨⟨rfl, -⟩, hd⟩
      rw [firstDifference_eq_none_iff.mpr hd] at hs
      exact absurd hs (by simp)

/-- The core matches the first declaration of its address, whatever that one says. -/
theorem judgeCore_eq_matched_iff {declared : List Declaration} {core : Row} {d : Declaration}
    {position : Nat} :
    judgeCore declared core = .matched d position ↔
      declarationAt? declared core.address = some (d, position) := by
  rw [judgeCore]
  split
  · rename_i h
    simp [h]
  · rename_i d' position' h
    rw [h, Option.some_inj, Prod.mk.injEq, Verdict.matched.injEq]

theorem Verdict.position?_eq_some_iff {v : Verdict} {position : Nat} :
    v.position? = some position ↔ ∃ d, v = .matched d position := by
  cases v <;> simp [position?]

/-- The same without positions. -/
theorem exists_judge_eq_matched_iff {declared : List Declaration} {row : Row} {d : Declaration} :
    (∃ position, judge declared row = .matched d position) ↔
      Declaration.first? declared row.address = some d ∧ d.Describes row.identity := by
  simp only [judge_eq_matched_iff, exists_and_right, first?_eq_map_declarationAt?,
    Option.map_eq_some_iff, Prod.exists, exists_eq_right]

/-! ## Declarations that nobody takes -/

/-- Has a row use for a declaration?  The core takes any declaration of its address, a module one
that describes it. -/
def Roster.Takes (r : Roster) (d : Declaration) : Prop :=
  r.core.address = d.address ∨
    ∃ row ∈ r.modules, row.address = d.address ∧ d.Describes row.identity

instance (r : Roster) (d : Declaration) : Decidable (r.Takes d) :=
  inferInstanceAs (Decidable (_ ∨ _))

/-- The declarations that nobody takes, in order, behind those of the given addresses.  Only the
first declaration of an address can be taken. -/
def leftOver (r : Roster) : List Address → List Declaration → List Declaration
  | _, [] => []
  | earlier, d :: rest =>
    if d.address ∉ earlier ∧ r.Takes d then leftOver r (d.address :: earlier) rest
    else d :: leftOver r (d.address :: earlier) rest

/-- A position is claimed exactly if its declaration is the first of its address and some row takes
it. -/
theorem mem_claimed_iff {r : Roster} {declared : List Declaration} {position : Nat}
    {d : Declaration} (hd : declared[position]? = some d) :
    position ∈ r.claimed declared ↔
      d.address ∉ (declared.take position).map Declaration.address ∧ r.Takes d := by
  have hat {address : Address} {d' : Declaration} :
      declarationAt? declared address = some (d', position) ↔
        d' = d ∧ address = d.address ∧
          d.address ∉ (declared.take position).map Declaration.address := by
    rw [declarationAt?_eq_some_iff, hd, Option.some_inj]
    constructor
    · rintro ⟨rfl, rfl, hbefore⟩
      exact ⟨rfl, rfl, hbefore⟩
    · rintro ⟨rfl, rfl, hbefore⟩
      exact ⟨rfl, rfl, hbefore⟩
  have hclaimed : position ∈ r.claimed declared ↔
      (∃ d', judgeCore declared r.core = .matched d' position) ∨
        ∃ row ∈ r.modules, ∃ d', judge declared row = .matched d' position := by
    simp only [Roster.claimed, Roster.verdicts, List.mem_filterMap, List.mem_cons, List.mem_map,
      exists_eq_or_imp, Verdict.position?_eq_some_iff, exists_exists_and_eq_and]
  rw [hclaimed, Roster.Takes]
  simp only [judgeCore_eq_matched_iff, judge_eq_matched_iff, hat]
  constructor
  · rintro (⟨_, rfl, ha, hb⟩ | ⟨row, hrow, _, ⟨rfl, ha, hb⟩, hdesc⟩)
    · exact ⟨hb, Or.inl ha⟩
    · exact ⟨hb, Or.inr ⟨row, hrow, ha, hdesc⟩⟩
  · rintro ⟨hb, ha | ⟨row, hrow, ha, hdesc⟩⟩
    · exact Or.inl ⟨d, rfl, ha, hb⟩
    · exact Or.inr ⟨row, hrow, d, ⟨rfl, ha, hb⟩, hdesc⟩

/-- **Nobody has claimed** exactly the declarations that nobody takes. -/
theorem unclaimed_eq_leftOver (r : Roster) (declared : List Declaration) :
    r.unclaimed declared = leftOver r [] declared := by
  -- the induction runs over the declarations still to come, `front` being those already passed
  have h (front rest : List Declaration) (hsplit : declared = front ++ rest)
      (earlier : List Address)
      (hearlier : ∀ a, a ∈ earlier ↔ a ∈ front.map Declaration.address) :
      ((rest.zipIdx front.length).filter fun e ↦
        !(r.claimed declared).contains e.2).map Prod.fst = leftOver r earlier rest := by
    induction rest generalizing front earlier with
    | nil => rfl
    | cons d rest ih =>
      have hd : declared[front.length]? = some d := by simp [hsplit]
      have htake : declared.take front.length = front := by simp [hsplit]
      have hiff := mem_claimed_iff (r := r) hd
      rw [htake, ← hearlier] at hiff
      have hrest := ih (front ++ [d]) (by simp [hsplit]) (d.address :: earlier)
        (by simp [hearlier, or_comm])
      rw [List.length_append, List.length_singleton] at hrest
      rw [List.zipIdx_cons, List.filter_cons, leftOver]
      by_cases hmem : front.length ∈ r.claimed declared
      · rw [if_pos (hiff.mp hmem), if_neg (by simpa using hmem), hrest]
      · rw [if_neg (fun h ↦ hmem (hiff.mpr h)), if_pos (by simpa using hmem), List.map_cons, hrest]
  exact h [] declared rfl [] (by simp)

end RackBus

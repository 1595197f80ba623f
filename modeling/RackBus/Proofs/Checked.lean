import RackBus.Document.Check
import Mathlib.Data.List.Pairwise

/-!
# What a check accepts

`Declaration.check` stops at the first thing that is wrong.  This file says what a list of
declarations is like in which nothing is wrong.

* `Declaration.Sound` collects what is asked of the declarations, without any order.
* `Declaration.check_eq_ok_iff`: the check accepts exactly the sound lists.
* `Document.check_eq_ok_iff` adds the settings.
-/

set_option autoImplicit false

namespace RackBus

namespace Declaration

/-- Declarations in which nothing is wrong, for an image of the given size. -/
structure Sound (imageSize : Nat) (declared : List Declaration) : Prop where
  /-- Nobody has the address of all modules. -/
  addressed : ∀ d ∈ declared, d.address ≠ .broadcast
  /-- No address is declared twice. -/
  distinct : (declared.map Declaration.address).Nodup
  /-- All bytes lie in the image. -/
  within : ∀ d ∈ declared, ∀ region ∈ d.regions, region.endsWithin imageSize = true
  /-- No two declarations share a byte. -/
  apart : declared.Pairwise fun a b ↦ a.overlaps b = false

/-! ## Pairs of declarations -/

theorem overlaps_eq_false_iff {a b : Declaration} :
    a.overlaps b = false ↔ ∀ g ∈ a.regions, ∀ h ∈ b.regions, g.meets h = false := by
  simp only [overlaps, List.any_eq_false, Bool.not_eq_true]

theorem overlaps_comm (a b : Declaration) : a.overlaps b = b.overlaps a := by
  rw [Bool.eq_iff_iff]
  simp only [overlaps, List.any_eq_true]
  constructor
  · rintro ⟨g, hg, h, hh, hm⟩
    exact ⟨h, hh, g, hg, Region.meets_comm g h ▸ hm⟩
  · rintro ⟨h, hh, g, hg, hm⟩
    exact ⟨g, hg, h, hh, Region.meets_comm h g ▸ hm⟩

/-- Two sound declarations of different addresses share no byte, whichever comes first. -/
theorem Sound.meets_eq_false {imageSize : Nat} {declared : List Declaration}
    (hs : Sound imageSize declared) {a b : Declaration} (ha : a ∈ declared) (hb : b ∈ declared)
    (hne : a.address ≠ b.address) {g h : Region} (hg : g ∈ a.regions) (hh : h ∈ b.regions) :
    g.meets h = false := by
  have hsymm : Std.Symm fun a b : Declaration ↦ a.overlaps b = false :=
    ⟨fun a b h ↦ by rw [overlaps_comm, h]⟩
  have hab := hs.apart.forall ha hb (fun h ↦ hne (congrArg Declaration.address h))
  exact overlaps_eq_false_iff.mp hab g hg h hh

/-! ## The check -/

theorem checkOne_eq_ok_iff {imageSize : Nat} {earlier : List Address} {d : Declaration} :
    checkOne imageSize earlier d = .ok () ↔
      d.address ≠ .broadcast ∧ d.address ∉ earlier ∧
        ∀ region ∈ d.regions, region.endsWithin imageSize = true := by
  rw [checkOne]
  split
  · rename_i h
    have h : d.address = .broadcast := by simpa [Address.isBroadcast] using h
    exact ⟨fun h' ↦ absurd h' (by simp), fun h' ↦ absurd h h'.1⟩
  · rename_i hb
    have hb : d.address ≠ .broadcast := by simpa [Address.isBroadcast] using hb
    split
    · rename_i h
      exact ⟨fun h' ↦ absurd h' (by simp), fun h' ↦ absurd (by simpa using h) h'.2.1⟩
    · rename_i he
      have he : d.address ∉ earlier := by simpa using he
      split
      · rename_i region hr
        have hm := List.mem_of_find?_eq_some hr
        have hp := List.find?_some hr
        refine ⟨fun h' ↦ absurd h' (by simp), fun h' ↦ ?_⟩
        rw [h'.2.2 region hm] at hp
        exact absurd hp (by simp)
      · rename_i hn
        rw [List.find?_eq_none] at hn
        exact ⟨fun _ ↦ ⟨hb, he, by simpa using hn⟩, fun _ ↦ rfl⟩

theorem checkEach_eq_ok_iff {imageSize : Nat} {earlier : List Address}
    {declared : List Declaration} :
    checkEach imageSize earlier declared = .ok () ↔
      (∀ d ∈ declared, d.address ≠ .broadcast) ∧ (declared.map Declaration.address).Nodup ∧
        (∀ d ∈ declared, d.address ∉ earlier) ∧
        ∀ d ∈ declared, ∀ region ∈ d.regions, region.endsWithin imageSize = true := by
  induction declared generalizing earlier with
  | nil => simp [checkEach]
  | cons d rest ih =>
    have hstep : checkEach imageSize earlier (d :: rest) = .ok () ↔
        checkOne imageSize earlier d = .ok () ∧
          checkEach imageSize (d.address :: earlier) rest = .ok () := by
      rw [checkEach]
      split
      · rename_i h
        simp [h]
      · rename_i h
        simp [h]
    rw [hstep, checkOne_eq_ok_iff, ih]
    simp only [List.forall_mem_cons, List.map_cons, List.nodup_cons, List.mem_map]
    simp only [List.mem_cons, not_or, not_exists, not_and]
    constructor
    · rintro ⟨⟨hb, he, hw⟩, hbs, hn, hes, hws⟩
      exact ⟨⟨hb, hbs⟩, ⟨fun e hm h ↦ (hes e hm).1 h, hn⟩, ⟨he, fun e hm ↦ (hes e hm).2⟩, hw, hws⟩
    · rintro ⟨⟨hb, hbs⟩, ⟨hd, hn⟩, ⟨he, hes⟩, hw, hws⟩
      exact ⟨⟨hb, he, hw⟩, hbs, hn, fun e hm ↦ ⟨fun h ↦ hd e hm h, hes e hm⟩, hws⟩

/-- **The check accepts exactly the sound lists.** -/
theorem check_eq_ok_iff {imageSize : Nat} {declared : List Declaration} :
    check imageSize declared = .ok () ↔ Sound imageSize declared := by
  have hpasses : check imageSize declared = .ok () ↔
      checkEach imageSize [] declared = .ok () ∧ firstPair overlaps declared = none := by
    rw [check]
    split
    · rename_i h
      simp [h]
    · rename_i h
      split
      · rename_i hp
        simp [h, hp]
      · rename_i hp
        simp [h, hp]
  rw [hpasses, checkEach_eq_ok_iff, firstPair_eq_none_iff]
  constructor
  · rintro ⟨⟨hb, hn, -, hw⟩, ha⟩
    exact ⟨hb, hn, hw, ha⟩
  · rintro ⟨hb, hn, hw, ha⟩
    exact ⟨⟨hb, hn, by simp, hw⟩, ha⟩

end Declaration

/-- **A document passes** exactly if its settings are good and its declarations are sound. -/
theorem Document.check_eq_ok_iff {d : Document} :
    d.check = .ok () ↔
      d.settings.Valid ∧ Declaration.Sound d.settings.imageSize d.devices := by
  rw [← Settings.check_eq_ok_iff, ← Declaration.check_eq_ok_iff, Document.check]
  split
  · rename_i h
    simp [h]
  · rename_i h
    simp [h]

end RackBus

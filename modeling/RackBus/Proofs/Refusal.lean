import RackBus.Proofs.Checked
import Mathlib.Data.List.Induction

/-!
# What a check refuses

`Checked` says which declarations a check accepts.  The others are refused, and of all that is wrong
with them one thing is reported.  This file says which one.

* `Declaration.Occupies` is about the bytes of a module, and `Declaration.Clean` says in these terms
  what good declarations are.
* `Declaration.Offends` is what is wrong with one declaration behind the ones before it, and
  `Declaration.SharesAt` what is wrong with a pair of them.
* `Declaration.Refuses` says what is reported: the first declaration that offends, or else the first
  pair that shares a byte.
* `Declaration.check_eq_iff`: the check accepts and refuses as these say.
-/

set_option autoImplicit false

namespace RackBus

namespace Declaration

/-! ## Good declarations -/

/-- A byte of the image belongs to a module. -/
def Occupies (d : Declaration) (byte : Nat) : Prop := ∃ g ∈ d.regions, byte ∈ g

theorem overlaps_iff {a b : Declaration} :
    a.overlaps b = true ↔ ∃ byte, a.Occupies byte ∧ b.Occupies byte := by
  simp only [overlaps, List.any_eq_true, Region.meets_iff]
  constructor
  · rintro ⟨g, hg, h, hh, byte, hbg, hbh⟩
    exact ⟨byte, ⟨g, hg, hbg⟩, h, hh, hbh⟩
  · rintro ⟨byte, ⟨g, hg, hbg⟩, h, hh, hbh⟩
    exact ⟨g, hg, h, hh, byte, hbg, hbh⟩

/-- A region with bytes in it ends behind the image. -/
def LeavesImage (imageSize : Nat) (g : Region) : Prop := g.length ≠ 0 ∧ imageSize < g.stop

theorem leavesImage_iff {imageSize : Nat} {g : Region} :
    LeavesImage imageSize g ↔ g.endsWithin imageSize = false := by
  simp [LeavesImage, Region.endsWithin, Region.isEmpty]

/-- Good declarations, for an image of the given size. -/
structure Clean (imageSize : Nat) (declared : List Declaration) : Prop where
  /-- Nobody has the address of all modules. -/
  addressed : ∀ d ∈ declared, d.address.value ≠ 255
  /-- No address is declared twice. -/
  distinct : (declared.map Declaration.address).Nodup
  /-- Every region that has bytes ends in the image. -/
  within : ∀ d ∈ declared, ∀ g ∈ d.regions, g.length ≠ 0 → g.stop ≤ imageSize
  /-- No byte belongs to two modules. -/
  apart : ∀ (i j : Nat) (a b : Declaration) (byte : Nat), declared[i]? = some a →
    declared[j]? = some b → a.Occupies byte → b.Occupies byte → i = j

theorem address_value_eq_iff {d : Declaration} : d.address.value = 255 ↔ d.address = .broadcast :=
  ⟨congrArg Address.mk, congrArg Address.value⟩

theorem isBroadcast_iff {d : Declaration} :
    d.address.isBroadcast = true ↔ d.address.value = 255 := by
  rw [Address.isBroadcast, beq_iff_eq, address_value_eq_iff]

theorem clean_iff_sound {imageSize : Nat} {declared : List Declaration} :
    Clean imageSize declared ↔ Sound imageSize declared := by
  have hwithin (g : Region) :
      (g.length ≠ 0 → g.stop ≤ imageSize) ↔ g.endsWithin imageSize = true := by
    rw [← Bool.not_eq_false, ← leavesImage_iff, LeavesImage, not_and, Nat.not_lt]
  constructor
  · rintro ⟨haddressed, hdistinct, hin, hapart⟩
    refine ⟨fun d hd ↦ mt address_value_eq_iff.mpr (haddressed d hd), hdistinct,
      fun d hd g hg ↦ (hwithin g).mp (hin d hd g hg), List.pairwise_iff_getElem.mpr ?_⟩
    intro i j hi hj hlt
    rw [← Bool.not_eq_true, overlaps_iff]
    rintro ⟨byte, ha, hb⟩
    have hsame := hapart i j _ _ byte (List.getElem?_eq_getElem hi) (List.getElem?_eq_getElem hj)
      ha hb
    omega
  · rintro ⟨haddressed, hdistinct, hin, hapart⟩
    refine ⟨fun d hd ↦ mt address_value_eq_iff.mp (haddressed d hd), hdistinct,
      fun d hd g hg ↦ (hwithin g).mpr (hin d hd g hg), fun i j a b byte hai hbj ha hb ↦ ?_⟩
    obtain ⟨hi, rfl⟩ := List.getElem?_eq_some_iff.mp hai
    obtain ⟨hj, rfl⟩ := List.getElem?_eq_some_iff.mp hbj
    have hnot (k m : Nat) (hk : k < declared.length) (hm : m < declared.length) (hlt : k < m) :
        ¬∃ byte, declared[k].Occupies byte ∧ declared[m].Occupies byte := by
      rw [← overlaps_iff, Bool.not_eq_true]
      exact List.pairwise_iff_getElem.mp hapart k m hk hm hlt
    rcases Nat.lt_trichotomy i j with hlt | hsame | hlt
    · exact absurd ⟨byte, ha, hb⟩ (hnot i j hi hj hlt)
    · exact hsame
    · exact absurd ⟨byte, hb, ha⟩ (hnot j i hj hi hlt)

/-! ## What is wrong -/

/-- What is wrong with one declaration, behind the ones before it. -/
inductive Offends (imageSize : Nat) (earlier : List Declaration) (d : Declaration) :
    Document.Failure → Prop
  /-- It has the address of all modules. -/
  | reserved (address : d.address.value = 255) : Offends imageSize earlier d (.reserved d.address)
  /-- Otherwise, it repeats an address. -/
  | duplicate (address : d.address.value ≠ 255) (repeats : ∃ c ∈ earlier, c.address = d.address) :
    Offends imageSize earlier d (.duplicate d.address)
  /-- Otherwise, it leaves the image, and this is the first region to do so. -/
  | outsideImage (address : d.address.value ≠ 255) (new : ∀ c ∈ earlier, c.address ≠ d.address)
    (before : List Region) (g : Region) (behind : List Region)
    (regions : d.regions = before ++ g :: behind) (leaves : LeavesImage imageSize g)
    (first : ∀ h ∈ before, ¬LeavesImage imageSize h) :
    Offends imageSize earlier d (.outsideImage d.address g.stop imageSize)

/-- The declaration at a position offends. -/
def OffendsAt (imageSize : Nat) (declared : List Declaration) (i : Nat) (e : Document.Failure) :
    Prop :=
  ∃ d, declared[i]? = some d ∧ Offends imageSize (declared.take i) d e

/-- The declarations at two positions, the lower one first, share a byte. -/
def SharesAt (declared : List Declaration) (i j : Nat) : Prop :=
  i < j ∧ ∃ a b byte, declared[i]? = some a ∧ declared[j]? = some b ∧ a.Occupies byte ∧
    b.Occupies byte

/-- The declaration at a position is the first one that offends. -/
structure FirstOffence (imageSize : Nat) (declared : List Declaration) (i : Nat)
    (e : Document.Failure) : Prop where
  offends : OffendsAt imageSize declared i e
  first : ∀ k < i, ∀ e', ¬OffendsAt imageSize declared k e'

/-- The declarations at two positions are the first ones that share a byte, by the position of the
first and then of the second one. -/
structure FirstShared (declared : List Declaration) (i j : Nat) : Prop where
  shares : SharesAt declared i j
  first : ∀ k m, SharesAt declared k m → i < k ∨ i = k ∧ j ≤ m

/-- What is reported of declarations that are refused. -/
inductive Refuses (imageSize : Nat) (declared : List Declaration) : Document.Failure → Prop
  /-- What is wrong with the first declaration that offends. -/
  | offence (i : Nat) (e : Document.Failure) (first : FirstOffence imageSize declared i e) :
    Refuses imageSize declared e
  /-- If none does, the first pair that shares a byte. -/
  | overlap (i j : Nat) (a b : Declaration) (blameless : ∀ k e, ¬OffendsAt imageSize declared k e)
    (first : FirstShared declared i j) (ha : declared[i]? = some a) (hb : declared[j]? = some b) :
    Refuses imageSize declared (.overlap a.address b.address)

/-! ## One declaration after the other -/

section Each

variable {imageSize : Nat} {declared : List Declaration} {d : Declaration} {e : Document.Failure}

/-- The search for a region that leaves the image finds the first one. -/
theorem find?_regions_eq_some_iff {g : Region} :
    d.regions.find? (fun r ↦ !r.endsWithin imageSize) = some g ↔
      ∃ before behind, d.regions = before ++ g :: behind ∧ LeavesImage imageSize g ∧
        ∀ h ∈ before, ¬LeavesImage imageSize h := by
  simp only [List.find?_eq_some_iff_append, leavesImage_iff, Bool.not_eq_true', Bool.not_not,
    Bool.not_eq_false]
  constructor
  · rintro ⟨hg, before, behind, hregions, hbefore⟩
    exact ⟨before, behind, hregions, hg, hbefore⟩
  · rintro ⟨before, behind, hregions, hg, hbefore⟩
    exact ⟨hg, before, behind, hregions, hbefore⟩

/-- **What is wrong with one declaration** is what the check of it reports. -/
theorem checkOne_eq_error_iff :
    checkOne imageSize (declared.map Declaration.address).reverse d = .error e ↔
      Offends imageSize declared d e := by
  have hrepeats : (declared.map Declaration.address).reverse.contains d.address = true ↔
      ∃ c ∈ declared, c.address = d.address := by
    simp
  rw [checkOne]
  by_cases hreserved : d.address.value = 255
  · rw [if_pos (isBroadcast_iff.mpr hreserved)]
    constructor
    · intro h
      obtain rfl := Except.error.inj h
      exact .reserved hreserved
    · intro h
      cases h with
      | reserved => rfl
      | duplicate address | outsideImage address => exact absurd hreserved address
  rw [if_neg (mt isBroadcast_iff.mp hreserved)]
  by_cases hknown : ∃ c ∈ declared, c.address = d.address
  · rw [if_pos (hrepeats.mpr hknown)]
    constructor
    · intro h
      obtain rfl := Except.error.inj h
      exact .duplicate hreserved hknown
    · intro h
      cases h with
      | reserved address => exact absurd address hreserved
      | duplicate => rfl
      | outsideImage _ new =>
        obtain ⟨c, hc, hsame⟩ := hknown
        exact absurd hsame (new c hc)
  rw [if_neg (mt hrepeats.mp hknown)]
  have hnew : ∀ c ∈ declared, c.address ≠ d.address := fun c hc hsame ↦ hknown ⟨c, hc, hsame⟩
  constructor
  · intro h
    split at h
    · rename_i g hfind
      obtain ⟨before, behind, hregions, hleaves, hfirst⟩ := find?_regions_eq_some_iff.mp hfind
      obtain rfl := Except.error.inj h
      exact .outsideImage hreserved hnew before g behind hregions hleaves hfirst
    · exact absurd h (by simp)
  · intro h
    cases h with
    | reserved address => exact absurd address hreserved
    | duplicate _ repeats => exact absurd repeats hknown
    | outsideImage _ _ before g behind regions leaves first =>
      rw [find?_regions_eq_some_iff.mpr ⟨before, behind, regions, leaves, first⟩]

theorem checkOne_eq_ok_iff_not_offends :
    checkOne imageSize (declared.map Declaration.address).reverse d = .ok () ↔
      ∀ e, ¬Offends imageSize declared d e := by
  simp only [← checkOne_eq_error_iff]
  cases checkOne imageSize (declared.map Declaration.address).reverse d with
  | error e => simp
  | ok => simp

/-- The last declaration is tried behind all others. -/
theorem checkEach_concat (earlier : List Address) :
    checkEach imageSize earlier (declared ++ [d]) =
      (checkEach imageSize earlier declared).bind fun _ ↦
        checkOne imageSize ((declared.map Declaration.address).reverse ++ earlier) d := by
  induction declared generalizing earlier with
  | nil =>
    rw [List.nil_append, checkEach, checkEach]
    cases hone : checkOne imageSize earlier d with
    | error e => exact hone.symm
    | ok => exact hone.symm
  | cons c rest ih =>
    rw [List.cons_append, checkEach, checkEach]
    cases checkOne imageSize earlier c with
    | error e => rfl
    | ok =>
      dsimp only
      rw [ih, List.map_cons, List.reverse_cons, List.append_assoc, List.singleton_append]

theorem OffendsAt.lt {i : Nat} (h : OffendsAt imageSize declared i e) : i < declared.length := by
  obtain ⟨d, hd, -⟩ := h
  exact (List.getElem?_eq_some_iff.mp hd).1

theorem offendsAt_concat {i : Nat} :
    OffendsAt imageSize (declared ++ [d]) i e ↔
      OffendsAt imageSize declared i e ∨ i = declared.length ∧ Offends imageSize declared d e := by
  rcases Nat.lt_trichotomy i declared.length with hlt | rfl | hlt
  · have hsame : (declared ++ [d]).take i = declared.take i :=
      List.take_append_of_le_length (Nat.le_of_lt hlt)
    simp only [OffendsAt, List.getElem?_append_left hlt, hsame]
    exact ⟨Or.inl, fun h ↦ h.resolve_right fun h' ↦ Nat.ne_of_lt hlt h'.1⟩
  · simp [OffendsAt]
  · constructor
    · intro h
      have := h.lt
      rw [List.length_append, List.length_singleton] at this
      omega
    · rintro (h | ⟨rfl, -⟩)
      · exact absurd h.lt (Nat.lt_asymm hlt)
      · exact absurd hlt (Nat.lt_irrefl _)

/-- If all declarations pass one after the other, none offends. -/
theorem not_offendsAt_of_checkEach (h : checkEach imageSize [] declared = .ok ()) (i : Nat)
    (e : Document.Failure) : ¬OffendsAt imageSize declared i e := by
  induction declared using List.reverseRecOn with
  | nil => simp [OffendsAt]
  | append_singleton declared d ih =>
    rw [checkEach_concat, List.append_nil] at h
    cases hall : checkEach imageSize [] declared with
    | error other =>
      rw [hall] at h
      exact absurd h (by simp [Except.bind])
    | ok =>
      rw [hall] at h
      rw [offendsAt_concat]
      rintro (hi | ⟨-, hd⟩)
      · exact ih hall hi
      · exact checkOne_eq_ok_iff_not_offends.mp h e hd

/-- **If they do not pass**, what is reported is what is wrong with the first one that offends. -/
theorem exists_firstOffence_of_checkEach (h : checkEach imageSize [] declared = .error e) :
    ∃ i, FirstOffence imageSize declared i e := by
  induction declared using List.reverseRecOn with
  | nil => exact absurd h (by simp [checkEach])
  | append_singleton declared d ih =>
    rw [checkEach_concat, List.append_nil] at h
    cases hall : checkEach imageSize [] declared with
    | error other =>
      rw [hall] at h
      obtain rfl : other = e := Except.error.inj h
      obtain ⟨i, hoffends, hfirst⟩ := ih hall
      refine ⟨i, offendsAt_concat.mpr (Or.inl hoffends), fun k hk e' he' ↦ ?_⟩
      rcases offendsAt_concat.mp he' with hk' | ⟨rfl, -⟩
      · exact hfirst k hk e' hk'
      · exact Nat.lt_asymm hk hoffends.lt
    | ok =>
      rw [hall] at h
      refine ⟨declared.length, offendsAt_concat.mpr (Or.inr ⟨rfl, checkOne_eq_error_iff.mp h⟩),
        fun k hk e' he' ↦ ?_⟩
      rcases offendsAt_concat.mp he' with hk' | ⟨rfl, -⟩
      · exact not_offendsAt_of_checkEach hall k e' hk'
      · exact Nat.lt_irrefl _ hk

/-- Only one thing is reported of the first one that offends. -/
theorem FirstOffence.unique {i j : Nat} {other : Document.Failure}
    (h : FirstOffence imageSize declared i e) (h' : FirstOffence imageSize declared j other) :
    e = other := by
  rcases Nat.lt_trichotomy i j with hlt | rfl | hlt
  · exact absurd h.offends (h'.first i hlt e)
  · obtain ⟨d, hd, hoffends⟩ := h.offends
    obtain ⟨d', hd', hoffends'⟩ := h'.offends
    obtain rfl := Option.some.inj (hd.symm.trans hd')
    rw [← checkOne_eq_error_iff] at hoffends hoffends'
    exact Except.error.inj (hoffends.symm.trans hoffends')
  · exact absurd h'.offends (h.first j hlt other)

end Each

/-! ## Pairs of declarations -/

section Pairs

variable {declared : List Declaration}

theorem sharesAt_iff {i j : Nat} : SharesAt declared i j ↔
    i < j ∧ ∃ a b, declared[i]? = some a ∧ declared[j]? = some b ∧ a.overlaps b = true := by
  simp only [SharesAt, overlaps_iff, exists_and_left]

/-- The search for a pair finds the first one that shares a byte. -/
theorem firstPair_overlaps_eq_some_iff {a b : Declaration} :
    firstPair overlaps declared = some (a, b) ↔
      ∃ i j, FirstShared declared i j ∧ declared[i]? = some a ∧ declared[j]? = some b := by
  rw [firstPair_eq_some_iff]
  constructor
  · rintro ⟨i, j, hlt, ha, hb, hshares, hfirst⟩
    refine ⟨i, j, ⟨sharesAt_iff.mpr ⟨hlt, a, b, ha, hb, hshares⟩, fun k m hkm ↦ ?_⟩, ha, hb⟩
    obtain ⟨hlt, c, d, hc, hd, hcd⟩ := sharesAt_iff.mp hkm
    exact hfirst k m c d hlt hc hd hcd
  · rintro ⟨i, j, ⟨hshares, hfirst⟩, ha, hb⟩
    obtain ⟨hlt, a', b', ha', hb', hab⟩ := sharesAt_iff.mp hshares
    obtain rfl := Option.some.inj (ha.symm.trans ha')
    obtain rfl := Option.some.inj (hb.symm.trans hb')
    exact ⟨i, j, hlt, ha, hb, hab, fun k m c d hkm hc hd hcd ↦
      hfirst k m (sharesAt_iff.mpr ⟨hkm, c, d, hc, hd, hcd⟩)⟩

end Pairs

/-! ## The check -/

/-- **The check accepts and refuses** as it should: it accepts exactly the declarations that are
good, and of the others it reports what is wrong first. -/
theorem check_eq_iff (imageSize : Nat) (declared : List Declaration) :
    (check imageSize declared = .ok () ↔ Clean imageSize declared) ∧
      ∀ e, check imageSize declared = .error e ↔ Refuses imageSize declared e := by
  refine ⟨check_eq_ok_iff.trans clean_iff_sound.symm, fun e ↦ ⟨fun h ↦ ?_, fun h ↦ ?_⟩⟩
  · rw [check] at h
    split at h
    · rename_i other heach
      obtain rfl := Except.error.inj h
      obtain ⟨i, hi⟩ := exists_firstOffence_of_checkEach heach
      exact .offence i _ hi
    · rename_i heach
      split at h
      · rename_i a b hpair
        obtain rfl := Except.error.inj h
        obtain ⟨i, j, hfirst, ha, hb⟩ := firstPair_overlaps_eq_some_iff.mp hpair
        exact .overlap i j a b (not_offendsAt_of_checkEach heach) hfirst ha hb
      · exact absurd h (by simp)
  · rw [check]
    cases heach : checkEach imageSize [] declared with
    | error other =>
      obtain ⟨k, hk⟩ := exists_firstOffence_of_checkEach heach
      cases h with
      | offence i _ first => rw [first.unique hk]
      | overlap _ _ _ _ blameless => exact absurd hk.offends (blameless k other)
    | ok =>
      cases h with
      | offence i _ first => exact absurd first.offends (not_offendsAt_of_checkEach heach i e)
      | overlap i j a b _ first ha hb =>
        dsimp only
        rw [firstPair_overlaps_eq_some_iff.mpr ⟨i, j, first, ha, hb⟩]

end Declaration

end RackBus

import RackBus.Proofs.Refusal
import RackBus.Proofs.Saving

/-!
# Declarations that are loaded and saved again

Declared modules are checked against the image of the document that they are loaded from.  Saved,
they are in a document of their own, which sets nothing: they are loaded again for the usual image.
So they come back unless they need a larger one, and this file says what happens then.

* `Declaration.firstOutside?` looks for the first declaration that leaves an image, and
  `Declaration.LeavesFirst` describes it.  `Declaration.Sound.check_eq`: of declarations that are
  sound for some image, nothing else can be wrong for another one.
* `Document.sound_of_loadDeclarations`: what was loaded is sound for the image of its document.
* `Document.resaved_loadDeclarations` says what comes back, and `Document.lost_roomyModule` is a
  module that is lost.
-/

set_option autoImplicit false

namespace RackBus

/-! ## The first declaration that leaves an image -/

namespace Declaration

/-- The first declaration that leaves an image is `d`, and `g` is the first of its regions to do
so. -/
structure LeavesFirst (imageSize : Nat) (declared : List Declaration) (d : Declaration)
    (g : Region) : Prop where
  leaves : LeavesImage imageSize g
  declaration : ∃ earlier later, declared = earlier ++ d :: later ∧
    ∀ c ∈ earlier, ∀ h ∈ c.regions, ¬LeavesImage imageSize h
  region : ∃ before behind, d.regions = before ++ g :: behind ∧
    ∀ h ∈ before, ¬LeavesImage imageSize h

instance (imageSize : Nat) (g : Region) : Decidable (LeavesImage imageSize g) :=
  inferInstanceAs (Decidable (_ ∧ _))

/-- The first region of a declaration that leaves an image. -/
def outside? (imageSize : Nat) (d : Declaration) : Option Region :=
  d.regions.find? fun g ↦ !g.endsWithin imageSize

/-- The first declaration that leaves an image, with the first of its regions to do so. -/
def firstOutside? (imageSize : Nat) (declared : List Declaration) : Option (Declaration × Region) :=
  declared.findSome? fun d ↦ (d.outside? imageSize).map fun g ↦ (d, g)

section

variable {imageSize : Nat} {declared : List Declaration} {d : Declaration} {g : Region}

theorem outside?_eq_none_iff :
    d.outside? imageSize = none ↔ ∀ g ∈ d.regions, ¬LeavesImage imageSize g := by
  simp only [outside?, List.find?_eq_none, leavesImage_iff, Bool.not_eq_true', Bool.not_eq_false]

theorem firstOutside?_eq_none_iff :
    firstOutside? imageSize declared = none ↔
      ∀ d ∈ declared, ∀ g ∈ d.regions, ¬LeavesImage imageSize g := by
  simp only [firstOutside?, List.findSome?_eq_none_iff, Option.map_eq_none_iff,
    outside?_eq_none_iff]

/-- The search finds the first declaration that leaves the image. -/
theorem firstOutside?_eq_some_iff :
    firstOutside? imageSize declared = some (d, g) ↔ LeavesFirst imageSize declared d g := by
  rw [firstOutside?, List.findSome?_eq_some_iff]
  constructor
  · rintro ⟨earlier, a, later, hdeclared, ha, hearlier⟩
    obtain ⟨h, hh, heq⟩ := Option.map_eq_some_iff.mp ha
    obtain ⟨rfl, rfl⟩ := Prod.mk.inj heq
    obtain ⟨before, behind, hregions, hleaves, hbefore⟩ := find?_regions_eq_some_iff.mp hh
    refine ⟨hleaves, ⟨earlier, later, hdeclared, fun c hc ↦ ?_⟩, before, behind, hregions, hbefore⟩
    exact outside?_eq_none_iff.mp (Option.map_eq_none_iff.mp (hearlier c hc))
  · rintro ⟨hleaves, ⟨earlier, later, hdeclared, hearlier⟩, before, behind, hregions, hbefore⟩
    refine ⟨earlier, d, later, hdeclared, ?_, fun c hc ↦ ?_⟩
    · have hfound : d.outside? imageSize = some g :=
        find?_regions_eq_some_iff.mpr ⟨before, behind, hregions, hleaves, hbefore⟩
      rw [hfound, Option.map_some]
    · rw [outside?_eq_none_iff.mpr (hearlier c hc), Option.map_none]

end

/-! ## Declarations that are sound for another image -/

/-- What the check of all declarations reports, if they can only be wrong by leaving the image. -/
def reportOutside (imageSize : Nat) (declared : List Declaration) : Except Document.Failure Unit :=
  match firstOutside? imageSize declared with
  | some (d, g) => .error (.outsideImage d.address g.stop imageSize)
  | none => .ok ()

theorem reportOutside_eq_ok_iff {imageSize : Nat} {declared : List Declaration} :
    reportOutside imageSize declared = .ok () ↔
      ∀ d ∈ declared, ∀ g ∈ d.regions, ¬LeavesImage imageSize g := by
  rw [← firstOutside?_eq_none_iff, reportOutside]
  cases firstOutside? imageSize declared <;> simp

theorem reportOutside_eq_error_iff {imageSize : Nat} {declared : List Declaration}
    {e : Document.Failure} :
    reportOutside imageSize declared = .error e ↔
      ∃ d g, LeavesFirst imageSize declared d g ∧ e = .outsideImage d.address g.stop imageSize := by
  simp only [← firstOutside?_eq_some_iff, reportOutside]
  cases firstOutside? imageSize declared with
  | none => simp
  | some first => simp [Prod.ext_iff, eq_comm]

/-- If the addresses are good, the image is all that matters. -/
theorem checkEach_eq_reportOutside (imageSize : Nat) {declared : List Declaration}
    {earlier : List Address} (haddressed : ∀ d ∈ declared, d.address ≠ .broadcast)
    (hdistinct : (declared.map Declaration.address).Nodup)
    (hnew : ∀ d ∈ declared, d.address ∉ earlier) :
    checkEach imageSize earlier declared = reportOutside imageSize declared := by
  induction declared generalizing earlier with
  | nil => rfl
  | cons d rest ih =>
    obtain ⟨haddress, haddressed⟩ := List.forall_mem_cons.mp haddressed
    obtain ⟨hother, hdistinct⟩ := List.nodup_cons.mp hdistinct
    obtain ⟨hd, hnew⟩ := List.forall_mem_cons.mp hnew
    have hrest : checkEach imageSize (d.address :: earlier) rest = reportOutside imageSize rest := by
      refine ih haddressed hdistinct fun c hc hmem ↦ ?_
      rcases List.mem_cons.mp hmem with hsame | hmem
      · exact hother (hsame ▸ List.mem_map_of_mem hc)
      · exact hnew c hc hmem
    have hone : checkOne imageSize earlier d = (d.outside? imageSize).elim (.ok ()) fun g ↦
        .error (.outsideImage d.address g.stop imageSize) := by
      rw [checkOne, if_neg (by simpa [Address.isBroadcast] using haddress),
        if_neg (by simpa using hd), outside?]
      cases d.regions.find? fun g ↦ !g.endsWithin imageSize <;> rfl
    rw [checkEach, hone, reportOutside, firstOutside?, List.findSome?_cons]
    cases d.outside? imageSize with
    | some g => rfl
    | none => exact hrest

/-- **Declarations that are sound for some image** can only be wrong for another one by leaving
it. -/
theorem Sound.check_eq {other : Nat} {declared : List Declaration} (h : Sound other declared)
    (imageSize : Nat) : check imageSize declared = reportOutside imageSize declared := by
  have heach := checkEach_eq_reportOutside imageSize h.addressed h.distinct
    fun _ _ ↦ List.not_mem_nil
  rw [check, heach, firstPair_eq_none_iff.mpr h.apart]
  cases reportOutside imageSize declared <;> rfl

/-- Declarations that are sound for an image do not leave a larger one. -/
theorem Sound.not_leavesImage {imageSize other : Nat} {declared : List Declaration}
    (h : Sound imageSize declared) (hle : imageSize ≤ other) :
    ∀ d ∈ declared, ∀ g ∈ d.regions, ¬LeavesImage other g := by
  rintro d hd g hg ⟨hbytes, hstop⟩
  have hleaves : LeavesImage imageSize g := ⟨hbytes, Nat.lt_of_le_of_lt hle hstop⟩
  exact absurd ((h.within d hd g hg).symm.trans (leavesImage_iff.mp hleaves)) (by simp)

end Declaration

/-! ## Loading what was saved -/

namespace Document

open Declaration

variable {text : String} {declared : List Declaration}

/-- What was loaded has passed its check. -/
theorem check_of_load {document : Document} (h : load text = .ok document) :
    document.check = .ok () := by
  rw [load] at h
  split at h
  · exact absurd h (by simp)
  · split at h
    · exact absurd h (by simp)
    · rename_i hcheck
      rw [← Except.ok.inj h, hcheck]

/-- The declared modules of a text are sound for the image of the document in it. -/
theorem sound_of_loadDeclarations (h : loadDeclarations text = .ok declared) :
    ∃ document, load text = .ok document ∧ Sound document.settings.imageSize declared := by
  rw [loadDeclarations] at h
  cases hload : load text with
  | error e =>
    rw [hload] at h
    exact absurd h (by simp [Except.map])
  | ok document =>
    rw [hload] at h
    obtain rfl : document.devices = declared := Except.ok.inj h
    exact ⟨document, rfl, (check_eq_ok_iff.mp (check_of_load hload)).2⟩

/-- **What comes back of modules that were loaded and saved.**  They come back exactly if none of
them leaves the usual image, and they do if their document asked for no larger one.  Otherwise
nothing comes back but the first module that leaves it. -/
theorem resaved_loadDeclarations (h : loadDeclarations text = .ok declared) :
    (loadDeclarations (save declared) = .ok declared ↔
      ∀ d ∈ declared, ∀ g ∈ d.regions, ¬LeavesImage 4096 g) ∧
    (∀ e, loadDeclarations (save declared) = .error e ↔
      ∃ d g, LeavesFirst 4096 declared d g ∧ e = .outsideImage d.address g.stop 4096) ∧
    ∀ document, load text = .ok document → document.settings.imageSize ≤ 4096 →
      loadDeclarations (save declared) = .ok declared := by
  obtain ⟨document, hload, hsound⟩ := sound_of_loadDeclarations h
  have hback : loadDeclarations (save declared) =
      (reportOutside 4096 declared).map fun _ ↦ declared := by
    rw [loadDeclarations_save, hsound.check_eq]
  have hok : loadDeclarations (save declared) = .ok declared ↔
      ∀ d ∈ declared, ∀ g ∈ d.regions, ¬LeavesImage 4096 g := by
    rw [hback, ← reportOutside_eq_ok_iff]
    cases reportOutside 4096 declared <;> simp [Except.map]
  have herror (e : Failure) : loadDeclarations (save declared) = .error e ↔
      ∃ d g, LeavesFirst 4096 declared d g ∧ e = .outsideImage d.address g.stop 4096 := by
    rw [hback, ← reportOutside_eq_error_iff]
    cases reportOutside 4096 declared <;> simp [Except.map]
  refine ⟨hok, herror, fun other hother hsize ↦ hok.mpr ?_⟩
  obtain rfl := Except.ok.inj (hload.symm.trans hother)
  exact hsound.not_leavesImage hsize

/-- The text of a document with one module, for an image of 8192 bytes. -/
def roomyText (inputOffset outputOffset : String) : String :=
  "\x7b\"bridge\":\x7b\"imageSize\":8192\x7d,\"devices\":[\x7b\"address\":32,\"moduleType\":96," ++
    "\"inputLength\":2,\"outputLength\":2,\"inputOffset\":" ++ inputOffset ++
    ",\"outputOffset\":" ++ outputOffset ++ "\x7d]\x7d"

/-- The module in it. -/
def roomyModule (inputOffset outputOffset : UInt16) : Declaration where
  address := ⟨32⟩
  type := ⟨96⟩
  inputLength := 2
  outputLength := 2
  configLength := 0
  baseOffset := 0
  inputOffset := inputOffset
  outputOffset := outputOffset
  configOffset := 0
  serial := 0

/-- A module that ends where the usual image ends comes back. -/
theorem resaved_loadDeclarations_lastBytes :
    loadDeclarations (roomyText "4092" "4094") = .ok [roomyModule 4092 4094] ∧
      loadDeclarations (save [roomyModule 4092 4094]) = .ok [roomyModule 4092 4094] := by
  have h : loadDeclarations (roomyText "4092" "4094") = .ok [roomyModule 4092 4094] := by
    decide +kernel
  exact ⟨h, (resaved_loadDeclarations h).1.mpr (by decide)⟩

/-- **A module can be lost**: its document makes room for it, and the one that it is saved in does
not. -/
theorem lost_roomyModule :
    loadDeclarations (roomyText "5000" "5002") = .ok [roomyModule 5000 5002] ∧
      loadDeclarations (save [roomyModule 5000 5002]) = .error (.outsideImage ⟨32⟩ 5002 4096) := by
  refine ⟨by decide +kernel, ?_⟩
  rw [loadDeclarations_save]
  decide

end Document
end RackBus

import RackBus.Text.Decimal

/-!
# Bus addresses

Every byte is an address.  Two are taken: 0 is the core device and 255 reaches every module.
The others belong to the modules chained to the core, one range on each side of it.

* `Address.side?` splits the module addresses at a base: from the base upwards lies the right
  side, below it the left side.
* `Address.beyond?` is the next address outwards on a side, as long as there is one.
* `Address.forModule` refuses the two reserved addresses.
-/

set_option autoImplicit false

namespace RackBus

/-- The two directions in which modules are chained to the core. -/
inductive Side where
  | right
  | left
  deriving DecidableEq

namespace Side

/-- The side that is scanned after or before this one. -/
def other : Side → Side
  | right => left
  | left => right

/-- The byte that names the side inside a telegram. -/
def code : Side → UInt8
  | right => 0
  | left => 1

end Side

/-- A bus address. -/
structure Address where
  /-- The byte on the wire. -/
  value : UInt8
  deriving DecidableEq

/-- A reserved address was asked for as a module address. -/
structure ReservedAddress where
  /-- The address that no module may have. -/
  value : UInt8
  deriving DecidableEq

/-- What a person is told. -/
def ReservedAddress.message (e : ReservedAddress) : String :=
  s!"Address {Decimal.text e.value.toNat} is reserved. Module addresses are 1-254."

namespace Address

/-- The core device. -/
def core : Address := ⟨0⟩

/-- The address every module listens to. -/
def broadcast : Address := ⟨255⟩

/-- Is this the core device? -/
def isCore (a : Address) : Bool := a == core

/-- Is this the address every module listens to? -/
def isBroadcast (a : Address) : Bool := a == broadcast

/-- The side an address lies on when the right side starts at `base`.  The core and the
broadcast address lie on neither. -/
def side? (a base : Address) : Option Side :=
  if a.isCore || a.isBroadcast then none
  else if base.value ≤ a.value then some .right
  else some .left

/-- An address that a module may have. -/
def forModule (v : UInt8) : Except ReservedAddress Address :=
  if (⟨v⟩ : Address).isCore || (⟨v⟩ : Address).isBroadcast then .error ⟨v⟩ else .ok ⟨v⟩

/-- The next address outwards: upwards on the right side and downwards on the left, up to the
last one that a module may have. -/
def beyond? (a : Address) : Side → Option Address
  | .right => if a.value.toNat + 1 < 255 then some ⟨a.value + 1⟩ else none
  | .left => if 1 ≤ a.value.toNat - 1 then some ⟨a.value - 1⟩ else none

/-- The address as a number. -/
def text (a : Address) : String := Decimal.text a.value.toNat

/-! ## The ends of the two ranges -/

theorem toNat_of_beyond?_right {a b : Address} (h : a.beyond? .right = some b) :
    b.value.toNat = a.value.toNat + 1 ∧ b.value.toNat < 255 := by
  simp only [beyond?] at h
  split at h
  · obtain rfl := Option.some.inj h
    have hs : (a.value + 1).toNat = a.value.toNat + 1 := by
      rw [UInt8.toNat_add]
      show (a.value.toNat + 1) % 256 = _
      omega
    exact ⟨hs, by rw [hs]; assumption⟩
  · exact absurd h (by simp)

theorem toNat_of_beyond?_left {a b : Address} (h : a.beyond? .left = some b) :
    b.value.toNat + 1 = a.value.toNat ∧ 1 ≤ b.value.toNat := by
  simp only [beyond?] at h
  split at h
  · obtain rfl := Option.some.inj h
    have hs : (a.value - 1).toNat = a.value.toNat - 1 := by
      rw [UInt8.toNat_sub_of_le _ _ (by rw [UInt8.le_iff_toNat_le]; show 1 ≤ a.value.toNat; omega)]
      rfl
    simp only [hs]
    omega
  · exact absurd h (by simp)

/-- Outwards on the right there is nothing exactly from 254 on. -/
theorem beyond?_right_eq_none_iff {a : Address} :
    a.beyond? .right = none ↔ 254 ≤ a.value.toNat := by
  simp only [beyond?]
  split <;> simp <;> omega

/-- Outwards on the left there is nothing exactly up to 1. -/
theorem beyond?_left_eq_none_iff {a : Address} : a.beyond? .left = none ↔ a.value.toNat ≤ 1 := by
  simp only [beyond?]
  split <;> simp <;> omega

end Address
end RackBus

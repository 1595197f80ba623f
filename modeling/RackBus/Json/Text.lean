/-!
# Strings inside a JSON text

A string is written as a row of characters and escapes.  An escape with a code stands for a unit of
UTF-16, and two of them can make one character; a half that stands alone is well written but means
no character.  A `StringUnit` keeps the two kinds apart.

* `StringUnit.decode?` is the text that a row of units means, if it means one.
* `StringUnit.ofText` is a text as a row of units, and `StringUnit.write` the way it is written.
-/

set_option autoImplicit false

namespace RackBus
namespace Json

/-- A part of a string: a character, or a unit of UTF-16 that was written as a code. -/
inductive StringUnit where
  | char (c : Char)
  | code (unit : Nat)
  deriving DecidableEq

/-- The value of a hexadecimal digit. -/
def hexValue? (c : Char) : Option Nat :=
  if '0' ≤ c && c ≤ '9' then some (c.toNat - 48)
  else if 'a' ≤ c && c ≤ 'f' then some (c.toNat - 87)
  else if 'A' ≤ c && c ≤ 'F' then some (c.toNat - 55)
  else none

/-- The character that a backslash and a letter stand for. -/
def escapedChar? : Char → Option Char
  | '"' => some '"'
  | '\\' => some '\\'
  | '/' => some '/'
  | 'b' => some (Char.ofNat 8)
  | 'f' => some (Char.ofNat 12)
  | 'n' => some '\n'
  | 'r' => some '\r'
  | 't' => some '\t'
  | _ => none

/-- Characters that must not stand in a string as they are. -/
def isControl (c : Char) : Bool := c.toNat < 32

namespace StringUnit

/-- Is this the first half of a character beyond the sixteen-bit ones? -/
def isHigh (unit : Nat) : Bool := 0xD800 ≤ unit && unit < 0xDC00

/-- Is this the second half of such a character? -/
def isLow (unit : Nat) : Bool := 0xDC00 ≤ unit && unit < 0xE000

/-- The character that two halves make. -/
def join (high low : Nat) : Char :=
  Char.ofNat (0x10000 + (high - 0xD800) * 0x400 + (low - 0xDC00))

/-- The text a row of units means.  A half without its other half means nothing. -/
def decode? : List StringUnit → Option (List Char)
  | [] => some []
  | char c :: rest => (decode? rest).map fun cs ↦ c :: cs
  | code high :: code low :: rest =>
    if isHigh high then
      if isLow low then (decode? rest).map fun cs ↦ join high low :: cs else none
    else if isLow high then none
    else (decode? (code low :: rest)).map fun cs ↦ Char.ofNat high :: cs
  | code unit :: rest =>
    if isHigh unit || isLow unit then none
    else (decode? rest).map fun cs ↦ Char.ofNat unit :: cs

/-- A text as a row of units. -/
def ofText (text : String) : List StringUnit := text.toList.map char

/-- The four digits of a code. -/
def codeDigits (unit : Nat) : List Char :=
  [unit / 4096 % 16, unit / 256 % 16, unit / 16 % 16, unit % 16].map fun d ↦
    if d < 10 then Char.ofNat (48 + d) else Char.ofNat (87 + d)

/-- How a unit is written. -/
def write : StringUnit → List Char
  | code unit => '\\' :: 'u' :: codeDigits unit
  | char c =>
    if c = '"' then ['\\', '"']
    else if c = '\\' then ['\\', '\\']
    else if isControl c then '\\' :: 'u' :: codeDigits c.toNat
    else [c]

theorem decode?_map_char (cs : List Char) : decode? (cs.map char) = some cs := by
  induction cs with
  | nil => rfl
  | cons c cs ih => rw [List.map_cons, decode?, ih, Option.map_some]

/-- A text means itself. -/
theorem decode?_ofText (text : String) : decode? (ofText text) = some text.toList :=
  decode?_map_char _

end StringUnit
end Json
end RackBus

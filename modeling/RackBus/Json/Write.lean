import RackBus.Json.Value

/-!
# Writing JSON texts

A value can be written without any blanks, or with every item and every member on a line of its
own.  The two ways differ in nothing but a `Layout`.
-/

set_option autoImplicit false

namespace RackBus
namespace Json

/-- Where blanks go. -/
structure Layout where
  /-- What stands before an item or a member, and before the end of what holds them, given how
  deep it is nested. -/
  lineBreak : Nat → List Char
  /-- What stands between a key and its value. -/
  colon : List Char

/-- No blanks at all. -/
def Layout.compact : Layout := ⟨fun _ ↦ [], [':']⟩

/-- A line for every item and every member, two blanks deeper than what holds it. -/
def Layout.indented : Layout := ⟨fun depth ↦ '\n' :: List.replicate (2 * depth) ' ', [':', ' ']⟩

/-- A string between its quotes. -/
def writeString (units : List StringUnit) : List Char :=
  '"' :: units.flatMap StringUnit.write ++ ['"']

mutual

/-- A value, nested `depth` deep. -/
def Value.write (layout : Layout) (depth : Nat) : Value → List Char
  | .null => ['n', 'u', 'l', 'l']
  | .bool true => ['t', 'r', 'u', 'e']
  | .bool false => ['f', 'a', 'l', 's', 'e']
  | .number text => text
  | .string units => writeString units
  | .array [] => ['[', ']']
  | .array (v :: rest) =>
    '[' :: layout.lineBreak (depth + 1) ++ Value.write layout (depth + 1) v ++
      writeItems layout depth rest
  | .object [] => ['\x7b', '\x7d']
  | .object ((key, v) :: rest) =>
    '\x7b' :: layout.lineBreak (depth + 1) ++ writeString key ++ layout.colon ++
      Value.write layout (depth + 1) v ++ writeMembers layout depth rest

/-- The items after the first one, and the end of the array. -/
def writeItems (layout : Layout) (depth : Nat) : List Value → List Char
  | [] => layout.lineBreak depth ++ [']']
  | v :: rest =>
    ',' :: layout.lineBreak (depth + 1) ++ Value.write layout (depth + 1) v ++
      writeItems layout depth rest

/-- The members after the first one, and the end of the object. -/
def writeMembers (layout : Layout) (depth : Nat) :
    List (List StringUnit × Value) → List Char
  | [] => layout.lineBreak depth ++ ['\x7d']
  | (key, v) :: rest =>
    ',' :: layout.lineBreak (depth + 1) ++ writeString key ++ layout.colon ++
      Value.write layout (depth + 1) v ++ writeMembers layout depth rest

end

namespace Value

/-- A value without any blanks. -/
def compact (v : Value) : String := String.ofList (v.write .compact 0)

/-- A value with a line for every item and every member. -/
def indented (v : Value) : String := String.ofList (v.write .indented 0)

/-- A number. -/
def ofNat (n : Nat) : Value := number (Decimal.digits n)

/-- A text. -/
def ofText (text : String) : Value := string (StringUnit.ofText text)

/-- An object with the given members in order. -/
def record (members : List (String × Value)) : Value :=
  object (members.map fun m ↦ (StringUnit.ofText m.1, m.2))

end Value
end Json
end RackBus

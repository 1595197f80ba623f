import RackBus.Json.Token

/-!
# JSON values

The value a JSON text stands for.  Numbers are kept as they are written and strings as rows of
units, because what they mean depends on where they stand.

* `Builder.step` takes one word; the stack of open arrays and objects is its memory, so that
  nesting may be as deep as it likes.
* `Value.ofText?` reads a whole text.
* `Value.fields?` finds the fields of a record in a value: by name in an object, by position in an
  array.
-/

set_option autoImplicit false

namespace RackBus
namespace Json

/-- A JSON value. -/
inductive Value where
  | null
  | bool (b : Bool)
  | number (text : List Char)
  | string (units : List StringUnit)
  | array (items : List Value)
  | object (members : List (List StringUnit × Value))

/-! ## Values from words -/

/-- An array or an object that is still open, with what was read of it in reverse. -/
inductive Frame where
  /-- An array. -/
  | items (done : List Value)
  /-- An object, in which the value of `key` is being read. -/
  | members (done : List (List StringUnit × Value)) (key : List StringUnit)

/-- What may come next, and what is open around it. -/
inductive Builder where
  /-- A value. -/
  | value (outer : List Frame)
  /-- The first item of an array, or its end. -/
  | firstItem (outer : List Frame)
  /-- The first key of an object, or its end. -/
  | firstKey (outer : List Frame)
  /-- Another key of an object. -/
  | key (done : List (List StringUnit × Value)) (outer : List Frame)
  /-- The colon behind a key. -/
  | colon (done : List (List StringUnit × Value)) (key : List StringUnit) (outer : List Frame)
  /-- What follows a value that was read. -/
  | after (value : Value) (outer : List Frame)

namespace Builder

/-- The first word of a value. -/
def start (token : Token) (outer : List Frame) : Option Builder :=
  match token with
  | .null => some (after .null outer)
  | .bool b => some (after (.bool b) outer)
  | .number text => some (after (.number text) outer)
  | .string units => some (after (.string units) outer)
  | .openBracket => some (firstItem outer)
  | .openBrace => some (firstKey outer)
  | _ => none

/-- One word; a word that cannot stand where it stands is an error. -/
def step (builder : Builder) (token : Token) : Option Builder :=
  match builder with
  | value outer => start token outer
  | firstItem outer =>
    if token = .closeBracket then some (after (.array []) outer)
    else start token (.items [] :: outer)
  | firstKey outer =>
    match token with
    | .closeBrace => some (after (.object []) outer)
    | .string units => some (colon [] units outer)
    | _ => none
  | key done outer =>
    match token with
    | .string units => some (colon done units outer)
    | _ => none
  | colon done name outer =>
    if token = .colon then some (value (.members done name :: outer)) else none
  | after _ [] => none
  | after v (.items done :: outer) =>
    match token with
    | .comma => some (value (.items (v :: done) :: outer))
    | .closeBracket => some (after (.array (v :: done).reverse) outer)
    | _ => none
  | after v (.members done name :: outer) =>
    match token with
    | .comma => some (key ((name, v) :: done) outer)
    | .closeBrace => some (after (.object ((name, v) :: done).reverse) outer)
    | _ => none

/-- Takes words one after the other. -/
def run (builder : Builder) : List Token → Option Builder
  | [] => some builder
  | token :: rest =>
    match builder.step token with
    | none => none
    | some builder => builder.run rest

/-- The value that was read, if nothing is open any more. -/
def finish? : Builder → Option Value
  | after v [] => some v
  | _ => none

end Builder

namespace Value

/-- The value a row of words stands for. -/
def ofTokens? (tokens : List Token) : Option Value :=
  match (Builder.value []).run tokens with
  | none => none
  | some builder => builder.finish?

/-- The value a text stands for. -/
def ofText? (text : List Char) : Option Value :=
  match Token.ofText? text with
  | none => none
  | some tokens => ofTokens? tokens

/-! ## What a value means -/

/-- A whole number up to `limit`, written without a sign, a fraction or an exponent. -/
def natural? (limit : Nat) : Value → Option Nat
  | number text =>
    if text.all Decimal.isDigit && Decimal.value text ≤ limit then some (Decimal.value text)
    else none
  | _ => none

/-- One of the two truth values. -/
def bool? : Value → Option Bool
  | bool b => some b
  | _ => none

/-- The items of an array, each read in the same way. -/
def list? {α : Type} (read : Value → Option α) : Value → Option (List α)
  | array items => items.mapM read
  | _ => none

/-- The names of an object's members, as far as all of them mean something. -/
def names? (members : List (List StringUnit × Value)) : Option (List (List Char × Value)) :=
  members.mapM fun m ↦ (StringUnit.decode? m.1).map fun name ↦ (name, m.2)

/-- The value of a field: the only member of its name, if there is one at all. -/
def field? (members : List (List Char × Value)) (name : String) : Option (Option Value) :=
  match members.filter fun m ↦ m.1 == name.toList with
  | [] => some none
  | [m] => some (some m.2)
  | _ => none

/-- The fields of a record, in the order of their names.  An object gives them by name, each at
most once, and may have other members; an array gives them by position, from the first one on. -/
def fields? (names : List String) : Value → Option (List (Option Value))
  | object members => (names? members).bind fun members ↦ names.mapM (field? members)
  | array items =>
    if items.length ≤ names.length then
      some (items.map some ++ List.replicate (names.length - items.length) none)
    else none
  | _ => none

end Value

/-! ## Fields -/

/-- A field that must be there. -/
def required {α : Type} (read : Value → Option α) : Option Value → Option α
  | none => none
  | some v => read v

/-- A field with a value of its own when it is not there. -/
def withDefault {α : Type} (default : α) (read : Value → Option α) : Option Value → Option α
  | none => some default
  | some v => read v

/-- A field that may be absent, or `null`, which means the same. -/
def optional {α : Type} (read : Value → Option α) : Option Value → Option (Option α)
  | none => some none
  | some .null => some none
  | some v => (read v).map some

end Json
end RackBus

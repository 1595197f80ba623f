import RackBus.Json.Text
import RackBus.Text.Decimal

/-!
# The words of a JSON text

A JSON text is a row of brackets, separators, numbers, strings and three named values, with blanks
between them.  It is read one character at a time, and what has been read of the current word is
the reader's only memory.

* `Lexer.step` takes one character; a character that cannot stand where it stands ends the reading.
* `Token.ofText?` reads a whole text.
-/

set_option autoImplicit false

namespace RackBus
namespace Json

/-- A word of a JSON text. -/
inductive Token where
  | openBrace
  | closeBrace
  | openBracket
  | closeBracket
  | comma
  | colon
  | null
  | bool (b : Bool)
  /-- A number, as it is written. -/
  | number (text : List Char)
  /-- A string. -/
  | string (units : List StringUnit)
  deriving DecidableEq

/-- How far a number has come. -/
inductive NumberPart where
  /-- After the sign. -/
  | sign
  /-- After a zero in front. -/
  | zero
  /-- In the whole part. -/
  | whole
  /-- After the point. -/
  | point
  /-- In the fraction. -/
  | fraction
  /-- After the mark of the exponent. -/
  | mark
  /-- After the sign of the exponent. -/
  | markSign
  /-- In the exponent. -/
  | exponent
  deriving DecidableEq

namespace NumberPart

/-- Can a number end here? -/
def canEnd : NumberPart → Bool
  | zero | whole | fraction | exponent => true
  | _ => false

/-- Where a number is after one more character, if that character can belong to it. -/
def next? (part : NumberPart) (c : Char) : Option NumberPart :=
  match part with
  | sign => if c = '0' then some zero else if Decimal.isDigit c then some whole else none
  | zero => if c = '.' then some point else if c = 'e' || c = 'E' then some mark else none
  | whole =>
    if Decimal.isDigit c then some whole
    else if c = '.' then some point
    else if c = 'e' || c = 'E' then some mark
    else none
  | point => if Decimal.isDigit c then some fraction else none
  | fraction =>
    if Decimal.isDigit c then some fraction
    else if c = 'e' || c = 'E' then some mark
    else none
  | mark =>
    if c = '+' || c = '-' then some markSign
    else if Decimal.isDigit c then some exponent
    else none
  | markSign => if Decimal.isDigit c then some exponent else none
  | exponent => if Decimal.isDigit c then some exponent else none

end NumberPart

/-- The word that is being read.  What was read of it is kept in reverse. -/
inductive Lexer where
  /-- None. -/
  | idle
  /-- A named value, of which these characters are still to come. -/
  | name (rest : List Char) (token : Token)
  /-- A number. -/
  | number (part : NumberPart) (text : List Char)
  /-- A string. -/
  | string (units : List StringUnit)
  /-- A string, after a backslash. -/
  | escape (units : List StringUnit)
  /-- A string, in a code of which this many digits are still to come. -/
  | code (digits : Nat) (unit : Nat) (units : List StringUnit)
  deriving DecidableEq

namespace Lexer

/-- The blanks of a JSON text. -/
def isBlank (c : Char) : Bool := c = ' ' || c = '\n' || c = '\t' || c = '\r'

/-- The first character of a word, or a blank before it. -/
def start (c : Char) : Option (Lexer × List Token) :=
  if isBlank c then some (idle, [])
  else match c with
    | '\x7b' => some (idle, [.openBrace])
    | '\x7d' => some (idle, [.closeBrace])
    | '[' => some (idle, [.openBracket])
    | ']' => some (idle, [.closeBracket])
    | ',' => some (idle, [.comma])
    | ':' => some (idle, [.colon])
    | '"' => some (string [], [])
    | 'n' => some (name ['u', 'l', 'l'] .null, [])
    | 't' => some (name ['r', 'u', 'e'] (.bool true), [])
    | 'f' => some (name ['a', 'l', 's', 'e'] (.bool false), [])
    | '-' => some (number .sign [c], [])
    | '0' => some (number .zero [c], [])
    | _ => if Decimal.isDigit c then some (number .whole [c], []) else none

/-- One character: the word that is being read then, and the words that have come to their end. -/
def step (lexer : Lexer) (c : Char) : Option (Lexer × List Token) :=
  match lexer with
  | idle => start c
  | name [] _ => none
  | name (x :: rest) token =>
    if c = x then
      if rest.isEmpty then some (idle, [token]) else some (name rest token, [])
    else none
  | number part text =>
    match part.next? c with
    | some part => some (number part (c :: text), [])
    | none =>
      if part.canEnd then
        (start c).map fun r ↦ (r.1, .number text.reverse :: r.2)
      else none
  | string units =>
    if c = '"' then some (idle, [.string units.reverse])
    else if c = '\\' then some (escape units, [])
    else if isControl c then none
    else some (string (.char c :: units), [])
  | escape units =>
    if c = 'u' then some (code 4 0 units, [])
    else (escapedChar? c).map fun e ↦ (string (.char e :: units), [])
  | code digits unit units =>
    (hexValue? c).map fun d ↦
      if digits ≤ 1 then (string (.code (unit * 16 + d) :: units), [])
      else (code (digits - 1) (unit * 16 + d) units, [])

/-- The words that end with the text; a word that cannot end there is an error. -/
def finish : Lexer → Option (List Token)
  | idle => some []
  | number part text => if part.canEnd then some [.number text.reverse] else none
  | _ => none

/-- Reads characters one after the other.  The words that have come to their end are kept in
reverse. -/
def run (lexer : Lexer) (words : List Token) : List Char → Option (Lexer × List Token)
  | [] => some (lexer, words)
  | c :: rest =>
    match lexer.step c with
    | none => none
    | some (lexer, more) => run lexer (more.reverse ++ words) rest

end Lexer

/-- The words of a text, if it consists of words. -/
def Token.ofText? (text : List Char) : Option (List Token) :=
  match Lexer.idle.run [] text with
  | none => none
  | some (lexer, words) => lexer.finish.map fun last ↦ words.reverse ++ last

end Json
end RackBus

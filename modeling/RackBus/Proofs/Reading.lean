import RackBus.Json.Write

/-!
# Reading back what was written

A value is written by one recursion and read by two machines that know nothing of it, one for
characters and one for words.  This file says that they bring the value back, however it is laid
out.

* `Lexer.scan` are the words of a text from the state of the reader on.  `Lexer.Reads` says of a
  text which words it has, whatever follows, and `Lexer.ReadsBefore` says so of a text that ends with
  a number, where the number could go on.
* `Value.tokens` are the words of a value.  `Lexer.readsBefore_write` says that they are those of the
  written text, and `Builder.run_tokens` that the value comes back from them.
* `Value.ofText?_write` puts the two together, for every `Value.Plain`.
-/

set_option autoImplicit false

namespace RackBus

/-- A digit is one of ten characters. -/
theorem Decimal.exists_digit {c : Char} (h : isDigit c = true) : ∃ d : Fin 10, digit d = c := by
  have h : 48 ≤ c.toNat ∧ c.toNat ≤ 57 := by simpa [isDigit] using h
  refine ⟨⟨c.toNat - 48, by omega⟩, ?_⟩
  have hsum : 48 + (c.toNat - 48) = c.toNat := by omega
  rw [digit, hsum, Char.ofNat_toNat]

namespace Json

/-! ## Words -/

namespace Lexer

/-- The words of a text, from the state of the reader on. -/
def scan (lexer : Lexer) : List Char → Option (List Token)
  | [] => lexer.finish
  | c :: rest =>
    match lexer.step c with
    | none => none
    | some (lexer, words) => (scan lexer rest).map fun more ↦ words ++ more

/-- Words in front of words. -/
theorem map_append_map (words more : List Token) (found : Option (List Token)) :
    ((found.map fun last ↦ more ++ last).map fun last ↦ words ++ last) =
      found.map fun last ↦ words ++ more ++ last := by
  rw [Option.map_map]
  simp [Function.comp_def]

theorem scan_cons {lexer next : Lexer} {c : Char} {words : List Token} (rest : List Char)
    (h : lexer.step c = some (next, words)) :
    lexer.scan (c :: rest) = (next.scan rest).map fun more ↦ words ++ more := by
  rw [scan, h]

/-- A character that ends no word. -/
theorem scan_cons_of_nil {lexer : Lexer} {c : Char} (next : Lexer) (rest : List Char)
    (h : lexer.step c = some (next, [])) : lexer.scan (c :: rest) = next.scan rest := by
  rw [scan_cons rest h]
  exact Option.map_id'

/-- The reader that keeps the words it has read finds the same ones. -/
theorem finish_run (lexer : Lexer) (words : List Token) (text : List Char) :
    (match lexer.run words text with
      | none => none
      | some (lexer, words) => lexer.finish.map fun last ↦ words.reverse ++ last) =
      (lexer.scan text).map fun more ↦ words.reverse ++ more := by
  induction text generalizing lexer words with
  | nil => rfl
  | cons c rest ih =>
    rw [run, scan]
    cases lexer.step c with
    | none => rfl
    | some r =>
      dsimp only
      rw [ih, map_append_map, List.reverse_append, List.reverse_reverse]

theorem ofText?_eq_scan (text : List Char) : Token.ofText? text = idle.scan text := by
  have h : Token.ofText? text = _ := finish_run idle [] text
  exact h.trans Option.map_id'

/-- A text has the given words, whatever follows. -/
def Reads (text : List Char) (words : List Token) : Prop :=
  ∀ rest, idle.scan (text ++ rest) = (idle.scan rest).map fun more ↦ words ++ more

/-- No number that was read so far goes on with this text. -/
def Ends (rest : List Char) : Prop :=
  ∀ c ∈ rest.head?, ∀ part : NumberPart, part.canEnd = true → part.next? c = none

/-- A text has the given words, if no number goes on behind it. -/
def ReadsBefore (text : List Char) (words : List Token) : Prop :=
  ∀ rest, Ends rest → idle.scan (text ++ rest) = (idle.scan rest).map fun more ↦ words ++ more

section

variable {first second : List Char} {words more : List Token}

theorem reads_nil : Reads [] [] := fun _ ↦ Option.map_id'.symm

theorem Reads.append (h : Reads first words) (h' : Reads second more) :
    Reads (first ++ second) (words ++ more) := by
  intro rest
  rw [List.append_assoc, h, h', map_append_map]

theorem Reads.readsBefore (h : Reads first words) : ReadsBefore first words :=
  fun rest _ ↦ h rest

theorem Reads.append_before (h : Reads first words) (h' : ReadsBefore second more) :
    ReadsBefore (first ++ second) (words ++ more) := by
  intro rest hrest
  rw [List.append_assoc, h, h' rest hrest, map_append_map]

theorem ReadsBefore.append (h : ReadsBefore first words) (h' : Reads second more)
    (hends : ∀ rest, Ends (second ++ rest)) : Reads (first ++ second) (words ++ more) := by
  intro rest
  rw [List.append_assoc, h _ (hends rest), h', map_append_map]

/-- A blank. -/
theorem Reads.cons_blank {c : Char} (h : Reads first words) (hc : isBlank c = true) :
    Reads (c :: first) words := by
  intro rest
  have hstep : idle.step c = some (idle, []) := if_pos hc
  rw [List.cons_append, scan_cons_of_nil _ _ hstep, h]

/-- A character that is a word of its own. -/
theorem Reads.cons_word {c : Char} {token : Token} (h : Reads first words)
    (hc : start c = some (idle, [token])) : Reads (c :: first) (token :: words) := by
  intro rest
  have hstep : idle.step c = some (idle, [token]) := hc
  rw [List.cons_append, scan_cons _ hstep, h, Option.map_map]
  rfl

theorem reads_singleton {c : Char} {token : Token} (hc : start c = some (idle, [token])) :
    Reads [c] [token] :=
  reads_nil.cons_word hc

end

/-- Blanks are no words. -/
theorem reads_blanks {blanks : List Char} (h : ∀ c ∈ blanks, isBlank c = true) :
    Reads blanks [] := by
  induction blanks with
  | nil => exact reads_nil
  | cons c rest ih =>
    obtain ⟨hc, hrest⟩ := List.forall_mem_cons.mp h
    exact (ih hrest).cons_blank hc

/-! ### Where a number ends -/

theorem ends_nil : Ends [] := by simp [Ends]

theorem ends_cons {c : Char} (hc : ∀ part : NumberPart, part.canEnd = true → part.next? c = none)
    (rest : List Char) : Ends (c :: rest) := by
  simpa [Ends] using hc

/-- A number ends before a blank. -/
theorem ends_blank {c : Char} (hc : isBlank c = true) (rest : List Char) : Ends (c :: rest) := by
  have hc : ((c = ' ' ∨ c = '\n') ∨ c = '\t') ∨ c = '\r' := by simpa [isBlank] using hc
  refine ends_cons (fun part _ ↦ ?_) rest
  rcases hc with ((rfl | rfl) | rfl) | rfl <;> cases part <;> rfl

theorem ends_append {blanks rest : List Char} (h : ∀ c ∈ blanks, isBlank c = true)
    (hrest : Ends rest) : Ends (blanks ++ rest) := by
  cases blanks with
  | nil => exact hrest
  | cons c more => exact ends_blank (h c List.mem_cons_self) _

/-! ### Named values -/

theorem scan_name (c : Char) (name : List Char) (token : Token) (rest : List Char) :
    (Lexer.name (c :: name) token).scan (c :: name ++ rest) =
      (idle.scan rest).map fun more ↦ [token] ++ more := by
  induction name generalizing c with
  | nil => exact scan_cons rest (by simp [step])
  | cons x name ih =>
    rw [List.cons_append, scan_cons_of_nil (.name (x :: name) token) _ (by simp [step])]
    exact ih x

/-- A word that is known by its first character. -/
theorem reads_name {first c : Char} {name : List Char} {token : Token}
    (h : start first = some (.name (c :: name) token, [])) : Reads (first :: c :: name) [token] := by
  intro rest
  rw [List.cons_append, scan_cons_of_nil _ _ (show idle.step first = _ from h)]
  exact scan_name c name token rest

/-! ### Numbers -/

theorem scan_number {part : NumberPart} (hpart : part.canEnd = true) (text : List Char)
    {rest : List Char} (hrest : Ends rest) :
    (number part text).scan rest =
      (idle.scan rest).map fun more ↦ [.number text.reverse] ++ more := by
  cases rest with
  | nil => exact if_pos hpart
  | cons c rest =>
    have hnext : part.next? c = none := hrest c rfl part hpart
    have hstep : idle.step c = start c := rfl
    rw [scan, scan, hstep, step, hnext]
    dsimp only
    rw [if_pos hpart]
    cases start c with
    | none => rfl
    | some r =>
      dsimp only [Option.map_some]
      rw [Option.map_map]
      rfl

theorem scan_digits {digits : List Char} (h : ∀ c ∈ digits, Decimal.isDigit c = true)
    (text : List Char) {rest : List Char} (hrest : Ends rest) :
    (number .whole text).scan (digits ++ rest) =
      (idle.scan rest).map fun more ↦ [.number (text.reverse ++ digits)] ++ more := by
  induction digits generalizing text with
  | nil =>
    rw [List.append_nil]
    exact scan_number rfl text hrest
  | cons c digits ih =>
    obtain ⟨hc, hdigits⟩ := List.forall_mem_cons.mp h
    have hstep : (number .whole text).step c = some (number .whole (c :: text), []) := by
      simp [step, NumberPart.next?, hc]
    rw [List.cons_append, scan_cons_of_nil _ _ hstep, ih hdigits, List.reverse_cons,
      List.append_assoc, List.singleton_append]

theorem start_digit {c : Char} (h : Decimal.isDigit c = true) :
    start c = some (number (if c = '0' then .zero else .whole) [c], []) := by
  have hall : ∀ d : Fin 10, start (Decimal.digit d) =
      some (number (if Decimal.digit d = '0' then .zero else .whole) [Decimal.digit d], []) := by
    decide
  obtain ⟨d, rfl⟩ := Decimal.exists_digit h
  exact hall d

/-- **A number** is one word, if it does not go on. -/
theorem readsBefore_digits (n : Nat) :
    ReadsBefore (Decimal.digits n) [.number (Decimal.digits n)] := by
  intro rest hrest
  have hdigits : ∀ c ∈ Decimal.digits n, Decimal.isDigit c = true :=
    fun c hc ↦ Decimal.isDigit_of_mem_digits hc
  have hzero := Decimal.head_digits n
  cases htext : Decimal.digits n with
  | nil => exact absurd htext (Decimal.digits_ne_nil n)
  | cons c digits =>
    rw [htext] at hdigits hzero
    obtain ⟨hc, hdigits⟩ := List.forall_mem_cons.mp hdigits
    rw [List.cons_append, scan_cons_of_nil _ _ (show idle.step c = _ from start_digit hc)]
    by_cases hfirst : c = '0'
    · -- Behind a zero in front no digit is read, but there is none.
      obtain rfl : digits = [] := (List.cons.inj (hzero (congrArg some hfirst))).2
      rw [if_pos hfirst]
      exact scan_number rfl [c] hrest
    · rw [if_neg hfirst]
      exact scan_digits hdigits [c] hrest

/-! ### Strings -/

end Lexer

/-- A unit that is read back as it was: a character that need not be written as a code. -/
def StringUnit.isPlain : StringUnit → Bool
  | char c => !isControl c
  | code _ => false

namespace Lexer

theorem scan_unit {u : StringUnit} (h : u.isPlain = true) (units : List StringUnit)
    (rest : List Char) :
    (string units).scan (u.write ++ rest) = (string (u :: units)).scan rest := by
  cases u with
  | code unit => exact absurd h (by simp [StringUnit.isPlain])
  | char c =>
    have hcontrol : isControl c = false := by simpa [StringUnit.isPlain] using h
    have hescaped {e : Char} (he : escapedChar? e = some c) (hcode : e ≠ 'u') :
        (string units).scan ('\\' :: e :: rest) = (string (.char c :: units)).scan rest := by
      rw [scan_cons_of_nil (.escape units) _ rfl]
      exact scan_cons_of_nil _ _ (by simp [step, hcode, he])
    rw [StringUnit.write]
    split
    · rename_i hquote
      exact hescaped (by rw [hquote]; rfl) (by decide)
    · rename_i hquote
      split
      · rename_i hbackslash
        exact hescaped (by rw [hbackslash]; rfl) (by decide)
      · rename_i hbackslash
        rw [hcontrol, if_neg Bool.false_ne_true]
        exact scan_cons_of_nil _ _ (by simp [step, hquote, hbackslash, hcontrol])

theorem scan_units {units : List StringUnit} (h : ∀ u ∈ units, u.isPlain = true)
    (before : List StringUnit) (rest : List Char) :
    (string before).scan (units.flatMap StringUnit.write ++ '"' :: rest) =
      (idle.scan rest).map fun more ↦ [.string (before.reverse ++ units)] ++ more := by
  induction units generalizing before with
  | nil =>
    rw [List.append_nil]
    exact scan_cons rest rfl
  | cons u units ih =>
    obtain ⟨hu, hunits⟩ := List.forall_mem_cons.mp h
    rw [List.flatMap_cons, List.append_assoc, scan_unit hu, ih hunits, List.reverse_cons,
      List.append_assoc, List.singleton_append]

/-- **A string** is one word. -/
theorem reads_string {units : List StringUnit} (h : ∀ u ∈ units, u.isPlain = true) :
    Reads (writeString units) [.string units] := by
  intro rest
  rw [writeString, List.cons_append, List.cons_append, List.append_assoc,
    scan_cons_of_nil (.string []) _ rfl]
  exact scan_units h [] rest

end Lexer

/-! ## Values -/

namespace Value

mutual

/-- The words of a value. -/
def tokens : Value → List Token
  | .null => [.null]
  | .bool b => [.bool b]
  | .number text => [.number text]
  | .string units => [.string units]
  | .array [] => [.openBracket] ++ [.closeBracket]
  | .array (v :: rest) => [.openBracket] ++ tokens v ++ tokensOfItems rest
  | .object [] => [.openBrace] ++ [.closeBrace]
  | .object ((key, v) :: rest) =>
    [.openBrace] ++ [.string key] ++ [.colon] ++ tokens v ++ tokensOfMembers rest

/-- The words of the items after the first one, and of the end of the array. -/
def tokensOfItems : List Value → List Token
  | [] => [.closeBracket]
  | v :: rest => [.comma] ++ tokens v ++ tokensOfItems rest

/-- The words of the members after the first one, and of the end of the object. -/
def tokensOfMembers : List (List StringUnit × Value) → List Token
  | [] => [.closeBrace]
  | (key, v) :: rest =>
    [.comma] ++ [.string key] ++ [.colon] ++ tokens v ++ tokensOfMembers rest

end

/-- A value that is read back as it was: whole numbers, and strings without codes. -/
inductive Plain : Value → Prop where
  | null : Plain null
  | bool (b : Bool) : Plain (bool b)
  | ofNat (n : Nat) : Plain (ofNat n)
  | string (units : List StringUnit) (text : ∀ u ∈ units, u.isPlain = true) : Plain (string units)
  | array (items : List Value) (all : ∀ v ∈ items, Plain v) : Plain (array items)
  | object (members : List (List StringUnit × Value))
      (keys : ∀ m ∈ members, ∀ u ∈ m.1, u.isPlain = true) (all : ∀ m ∈ members, Plain m.2) :
      Plain (object members)

end Value

/-- A layout of blanks only. -/
structure Layout.IsBlank (layout : Layout) : Prop where
  lineBreak : ∀ depth, ∀ c ∈ layout.lineBreak depth, Lexer.isBlank c = true
  colon : ∃ blanks, layout.colon = ':' :: blanks ∧ ∀ c ∈ blanks, Lexer.isBlank c = true

theorem Layout.isBlank_compact : Layout.compact.IsBlank :=
  ⟨fun _ ↦ by simp [compact], [], rfl, by simp⟩

theorem Layout.isBlank_indented : Layout.indented.IsBlank := by
  refine ⟨fun depth ↦ List.forall_mem_cons.mpr ⟨by decide, fun c hc ↦ ?_⟩, [' '], rfl,
    List.forall_mem_singleton.mpr rfl⟩
  rw [List.eq_of_mem_replicate hc]
  decide

/-! ### The words of a written value -/

namespace Lexer

variable {layout : Layout} (hlayout : layout.IsBlank)

include hlayout

theorem reads_colon : Reads layout.colon [.colon] := by
  obtain ⟨blanks, hcolon, hblanks⟩ := hlayout.colon
  rw [hcolon]
  exact (reads_blanks hblanks).cons_word rfl

/-- A character that is a word of its own, and a line break behind it. -/
theorem reads_opening {c : Char} {token : Token} (hc : start c = some (idle, [token]))
    (depth : Nat) : Reads (c :: layout.lineBreak depth) [token] :=
  (reads_blanks (hlayout.lineBreak depth)).cons_word hc

/-- The end of an array or an object, with a line break before it. -/
theorem reads_closing {c : Char} {token : Token} (hc : start c = some (idle, [token]))
    (depth : Nat) : Reads (layout.lineBreak depth ++ [c]) [token] :=
  (reads_blanks (hlayout.lineBreak depth)).append (reads_singleton hc)

theorem ends_writeItems (depth : Nat) (items : List Value) (rest : List Char) :
    Ends (writeItems layout depth items ++ rest) := by
  cases items with
  | nil =>
    rw [writeItems, List.append_assoc]
    exact ends_append (hlayout.lineBreak depth)
      (ends_cons (fun part _ ↦ by cases part <;> rfl) rest)
  | cons v items =>
    rw [writeItems]
    exact ends_cons (fun part _ ↦ by cases part <;> rfl) _

theorem ends_writeMembers (depth : Nat) (members : List (List StringUnit × Value))
    (rest : List Char) : Ends (writeMembers layout depth members ++ rest) := by
  cases members with
  | nil =>
    rw [writeMembers, List.append_assoc]
    exact ends_append (hlayout.lineBreak depth)
      (ends_cons (fun part _ ↦ by cases part <;> rfl) rest)
  | cons m members =>
    rw [writeMembers]
    exact ends_cons (fun part _ ↦ by cases part <;> rfl) _

/-- The items after the first one, if every one of them is read. -/
theorem reads_writeItems {items : List Value}
    (h : ∀ v ∈ items, ∀ depth, ReadsBefore (v.write layout depth) v.tokens) (depth : Nat) :
    Reads (writeItems layout depth items) (Value.tokensOfItems items) := by
  induction items with
  | nil => exact reads_closing hlayout rfl depth
  | cons v items ih =>
    obtain ⟨hv, hitems⟩ := List.forall_mem_cons.mp h
    rw [writeItems, Value.tokensOfItems]
    exact ((reads_opening hlayout rfl (depth + 1)).append_before (hv (depth + 1))).append
      (ih hitems) (ends_writeItems hlayout depth items)

/-- The members after the first one, too. -/
theorem reads_writeMembers {members : List (List StringUnit × Value)}
    (hkeys : ∀ m ∈ members, ∀ u ∈ m.1, u.isPlain = true)
    (h : ∀ m ∈ members, ∀ depth, ReadsBefore (m.2.write layout depth) m.2.tokens) (depth : Nat) :
    Reads (writeMembers layout depth members) (Value.tokensOfMembers members) := by
  induction members with
  | nil => exact reads_closing hlayout rfl depth
  | cons m members ih =>
    obtain ⟨key, v⟩ := m
    obtain ⟨hkey, hkeys⟩ := List.forall_mem_cons.mp hkeys
    obtain ⟨hv, hmembers⟩ := List.forall_mem_cons.mp h
    rw [writeMembers, Value.tokensOfMembers]
    exact ((((reads_opening hlayout rfl (depth + 1)).append (reads_string hkey)).append
      (reads_colon hlayout)).append_before (hv (depth + 1))).append (ih hkeys hmembers)
      (ends_writeMembers hlayout depth members)

/-- **A written value** has the words of the value, if no number goes on behind it. -/
theorem readsBefore_write {v : Value} (hv : v.Plain) (depth : Nat) :
    ReadsBefore (v.write layout depth) v.tokens := by
  induction hv generalizing depth with
  | null => exact (reads_name rfl).readsBefore
  | bool b => cases b <;> exact (reads_name rfl).readsBefore
  | ofNat n =>
    rw [Value.ofNat, Value.write, Value.tokens]
    exact readsBefore_digits n
  | string units text =>
    rw [Value.write, Value.tokens]
    exact (reads_string text).readsBefore
  | array items _ ih =>
    cases items with
    | nil =>
      rw [Value.write, Value.tokens]
      exact ((reads_singleton rfl).append (reads_singleton rfl)).readsBefore
    | cons v items =>
      obtain ⟨hv, hitems⟩ := List.forall_mem_cons.mp ih
      rw [Value.write, Value.tokens]
      exact (((reads_opening hlayout rfl (depth + 1)).append_before (hv (depth + 1))).append
        (reads_writeItems hlayout hitems depth) (ends_writeItems hlayout depth items)).readsBefore
  | object members keys _ ih =>
    cases members with
    | nil =>
      rw [Value.write, Value.tokens]
      exact ((reads_singleton rfl).append (reads_singleton rfl)).readsBefore
    | cons m members =>
      obtain ⟨key, v⟩ := m
      obtain ⟨hkey, hkeys⟩ := List.forall_mem_cons.mp keys
      obtain ⟨hv, hmembers⟩ := List.forall_mem_cons.mp ih
      rw [Value.write, Value.tokens]
      exact (((((reads_opening hlayout rfl (depth + 1)).append (reads_string hkey)).append
        (reads_colon hlayout)).append_before (hv (depth + 1))).append
        (reads_writeMembers hlayout hkeys hmembers depth)
        (ends_writeMembers hlayout depth members)).readsBefore

end Lexer

/-! ### The value of these words -/

namespace Builder

theorem run_cons {builder : Builder} {token : Token} (next : Builder) (rest : List Token)
    (h : builder.step token = some next) : builder.run (token :: rest) = next.run rest := by
  rw [run, h]

/-- No value begins with the end of an array, so that the first item is read like any other. -/
theorem run_firstItem (v : Value) (outer : List Frame) (rest : List Token) :
    (firstItem outer).run (v.tokens ++ rest) =
      (value (.items [] :: outer)).run (v.tokens ++ rest) := by
  cases v with
  | array items => cases items <;> rfl
  | object members =>
    rcases members with _ | ⟨⟨key, v⟩, members⟩ <;> rfl
  | _ => rfl

mutual

/-- **The words of a value** bring it back, whatever is open around it. -/
theorem run_tokens : ∀ (v : Value) (outer : List Frame) (rest : List Token),
    (value outer).run (v.tokens ++ rest) = (after v outer).run rest
  | .null, _, _ | .bool _, _, _ | .number _, _, _ | .string _, _, _ => by
    rw [Value.tokens]
    exact run_cons _ _ rfl
  | .array [], _, _ | .object [], _, _ => by
    rw [Value.tokens]
    exact (run_cons _ _ rfl).trans (run_cons _ _ rfl)
  | .array (v :: items), outer, rest => by
    rw [Value.tokens, List.append_assoc, List.append_assoc, List.singleton_append,
      run_cons (.firstItem outer) _ rfl, run_firstItem, run_tokens v, run_tokensOfItems items]
    rfl
  | .object ((name, v) :: members), outer, rest => by
    rw [Value.tokens]
    simp only [List.append_assoc, List.cons_append, List.nil_append]
    rw [run_cons (.firstKey outer) _ rfl, run_cons (.colon [] name outer) _ rfl,
      run_cons (.value (.members [] name :: outer)) _ rfl, run_tokens v,
      run_tokensOfMembers members]
    rfl

theorem run_tokensOfItems : ∀ (items : List Value) (v : Value) (done : List Value)
    (outer : List Frame) (rest : List Token),
    (after v (.items done :: outer)).run (Value.tokensOfItems items ++ rest) =
      (after (.array (done.reverse ++ v :: items)) outer).run rest
  | [], v, done, outer, rest => by
    rw [Value.tokensOfItems, List.singleton_append, run_cons _ _ rfl, List.reverse_cons]
  | w :: items, v, done, outer, rest => by
    rw [Value.tokensOfItems]
    simp only [List.append_assoc, List.cons_append, List.nil_append]
    rw [run_cons (.value (.items (v :: done) :: outer)) _ rfl, run_tokens w,
      run_tokensOfItems items, List.reverse_cons, List.append_assoc, List.singleton_append]

theorem run_tokensOfMembers : ∀ (members : List (List StringUnit × Value)) (name : List StringUnit)
    (v : Value) (done : List (List StringUnit × Value)) (outer : List Frame) (rest : List Token),
    (after v (.members done name :: outer)).run (Value.tokensOfMembers members ++ rest) =
      (after (.object (done.reverse ++ (name, v) :: members)) outer).run rest
  | [], name, v, done, outer, rest => by
    rw [Value.tokensOfMembers, List.singleton_append, run_cons _ _ rfl, List.reverse_cons]
  | (next, w) :: members, name, v, done, outer, rest => by
    rw [Value.tokensOfMembers]
    simp only [List.append_assoc, List.cons_append, List.nil_append]
    rw [run_cons (.key ((name, v) :: done) outer) _ rfl,
      run_cons (.colon ((name, v) :: done) next outer) _ rfl,
      run_cons (.value (.members ((name, v) :: done) next :: outer)) _ rfl, run_tokens w,
      run_tokensOfMembers members, List.reverse_cons, List.append_assoc, List.singleton_append]

end

end Builder

/-- **A plain value is read back as it was written**, in every layout of blanks. -/
theorem Value.ofText?_write {layout : Layout} (hlayout : layout.IsBlank) {v : Value} (hv : v.Plain) :
    Value.ofText? (v.write layout 0) = some v := by
  have hwords : Token.ofText? (v.write layout 0) = some v.tokens := by
    have hscan := Lexer.readsBefore_write hlayout hv 0 [] Lexer.ends_nil
    rw [List.append_nil] at hscan
    rw [Lexer.ofText?_eq_scan, hscan]
    exact congrArg some (List.append_nil _)
  have hvalue := Builder.run_tokens v [] []
  rw [List.append_nil] at hvalue
  rw [ofText?, hwords]
  dsimp only
  rw [ofTokens?, hvalue]
  rfl

end Json
end RackBus

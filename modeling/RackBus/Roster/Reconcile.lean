import RackBus.Memory.CoreBlock
import RackBus.Roster.Basic

/-!
# Comparing the roster with the declarations

After a survey the rows that were found are compared with the declared modules, and every row gets
its place in the process image.

* `judge` decides about one module: it matches the first declaration of its address, or differs
  from it, or is not declared.  The core needs nothing but a declaration of its address.
* `Roster.matched` applies this to a roster and adds rows for the declarations that nothing
  matched; `Roster.packed` is the layout without declarations, one module behind the other.
* `Roster.confine` takes what does not fit into the image out of the exchange; the core is moved to
  the start instead.
* `Roster.reconcile` is the whole comparison, with its `Report` and its status flags.
-/

set_option autoImplicit false

namespace RackBus

/-- What a module was found to differ in. -/
inductive MismatchKind where
  | type
  | inputLength
  | outputLength
  deriving DecidableEq

/-- A module that differs from its declaration. -/
structure Mismatch where
  /-- The index of its row. -/
  index : Nat
  /-- Its address. -/
  address : Address
  /-- What it differs in. -/
  kind : MismatchKind
  /-- What was declared. -/
  expected : UInt16
  /-- What was found. -/
  found : UInt16
  deriving DecidableEq

/-- Something about a roster that a person should know. -/
inductive Issue where
  /-- A module differs from its declaration. -/
  | mismatch (m : Mismatch)
  /-- Two active rows share a byte of the image. -/
  | overlap (first second : Nat)
  /-- The bytes of a row do not all lie in the image. -/
  | outsideImage (index : Nat)
  deriving DecidableEq

/-- What a comparison found. -/
structure Report where
  /-- The number of rows that match a declaration. -/
  matched : Nat
  /-- The number of modules that were found and match none. -/
  extra : Nat
  /-- The number of declarations that nothing matched. -/
  missing : Nat
  /-- What a person should know, in the order in which it came up. -/
  issues : List Issue
  /-- Where the core's bytes are. -/
  core : CoreBlock
  deriving DecidableEq

/-- The name of what a module differs in. -/
def MismatchKind.text : MismatchKind → String
  | .type => "module type"
  | .inputLength => "input length"
  | .outputLength => "output length"

/-- What a person is told. -/
def Mismatch.message (m : Mismatch) : String :=
  s!"wrong {m.kind.text} at address {m.address.text}: " ++
    s!"expected {Decimal.text m.expected.toNat}, found {Decimal.text m.found.toNat}"

namespace Report

/-- The modules that differ from their declarations. -/
def mismatches (r : Report) : List Mismatch :=
  r.issues.filterMap fun | .mismatch m => some m | _ => none

/-- The rows that do not fit into the image. -/
def outside (r : Report) : List Nat :=
  r.issues.filterMap fun | .outsideImage i => some i | _ => none

/-- Do two active rows share a byte? -/
def hasOverlap (r : Report) : Bool :=
  r.issues.any fun | .overlap _ _ => true | _ => false

end Report

/-! ## One module -/

/-- The first field in which a module differs from its declaration, with the declared and the
reported value. -/
def firstDifference (found : Identity) (d : Declaration) :
    Option (MismatchKind × UInt16 × UInt16) :=
  if found.type ≠ d.type then some (.type, d.type.code, found.type.code)
  else if found.inputLength ≠ d.inputLength then
    some (.inputLength, d.inputLength, found.inputLength)
  else if found.outputLength ≠ d.outputLength then
    some (.outputLength, d.outputLength, found.outputLength)
  else none

/-- The first declaration of an address, with its position. -/
def declarationAt? (declared : List Declaration) (address : Address) : Option (Declaration × Nat) :=
  declared.zipIdx.find? fun e ↦ e.1.address == address

/-- What the declarations say about a module. -/
inductive Verdict where
  /-- It matches the declaration at this position. -/
  | matched (d : Declaration) (position : Nat)
  /-- It differs from the first declaration of its address. -/
  | different (kind : MismatchKind) (expected found : UInt16)
  /-- Its address is not declared. -/
  | undeclared
  deriving DecidableEq

/-- What the declarations say about a module that was found. -/
def judge (declared : List Declaration) (row : Row) : Verdict :=
  match declarationAt? declared row.address with
  | none => .undeclared
  | some (d, position) =>
    match firstDifference row.identity d with
    | none => .matched d position
    | some (kind, expected, found) => .different kind expected found

/-- What the declarations say about the core, whose identity is known anyway. -/
def judgeCore (declared : List Declaration) (core : Row) : Verdict :=
  match declarationAt? declared core.address with
  | none => .undeclared
  | some (d, position) => .matched d position

namespace Verdict

/-- The position of the matching declaration. -/
def position? : Verdict → Option Nat
  | matched _ position => some position
  | _ => none

/-- Does the module match a declaration? -/
def isMatched (v : Verdict) : Bool := v.position?.isSome

/-- A module's row: at its declared place if it matches, left out otherwise. -/
def settle (v : Verdict) (row : Row) : Row :=
  match v with
  | matched d _ => row.place d
  | _ => row.deactivate

/-- The core's row: at its declared place, or at the start of the image. -/
def settleCore (v : Verdict) (core : Row) : Row :=
  match v with
  | matched d _ => core.place d
  | _ => core.atStart

/-- What a person should know about a module. -/
def issue? (v : Verdict) (row : Row) (index : Nat) : Option Issue :=
  match v with
  | different kind expected found => some (.mismatch ⟨index, row.address, kind, expected, found⟩)
  | _ => none

end Verdict

/-! ## The whole roster -/

namespace Roster

/-- The rows the survey found, all of them ready to take part and none with a place. -/
def unplaced (r : Roster) : Roster :=
  { r.scannedOnly with
    core := r.core.unplaced
    modules := r.scannedOnly.modules.map Row.unplaced }

/-- Rows placed one behind the other from `cursor` on, each with its inputs before its outputs.
Places beyond the last one stay at the last one. -/
def pack : UInt16 → List Row → List Row
  | _, [] => []
  | cursor, row :: rest =>
    let middle := clampWord (cursor.toNat + row.identity.inputLength.toNat)
    let stop := clampWord (middle.toNat + row.identity.outputLength.toNat)
    { row with inputOffset := cursor, outputOffset := middle } :: pack stop rest

/-- The layout without declarations: one module behind the other, the core first. -/
def packed (r : Roster) : Roster :=
  match pack 0 r.rows with
  | [] => r
  | core :: modules => { r with core := core, modules := modules }

/-- What the declarations say about every module, in order. -/
def verdicts (r : Roster) (declared : List Declaration) : List Verdict :=
  r.modules.map (judge declared)

/-- The positions of the declarations that a row matches. -/
def claimed (r : Roster) (declared : List Declaration) : List Nat :=
  (judgeCore declared r.core :: r.verdicts declared).filterMap Verdict.position?

/-- The declarations that no row matches, in order. -/
def unclaimed (r : Roster) (declared : List Declaration) : List Declaration :=
  (declared.zipIdx.filter fun e ↦ !(r.claimed declared).contains e.2).map Prod.fst

/-- The layout the declarations ask for: every row settled, and rows for the declarations that
nothing matched, as far as there is room. -/
def matched (r : Roster) (declared : List Declaration) : Roster :=
  { r with
    core := (judgeCore declared r.core).settleCore r.core
    modules := (r.modules.map fun row ↦ (judge declared row).settle row) ++
      ((r.unclaimed declared).take (r.capacity - r.size)).map Row.missing }

/-- The modules that differ from their declarations. -/
def mismatches (r : Roster) (declared : List Declaration) : List Issue :=
  r.rows.zipIdx.tail.filterMap fun e ↦ (judge declared e.1).issue? e.1 e.2

/-- Is this an active row that does not fit into the image? -/
def sticksOut (size : Nat) (row : Row) : Bool := row.active && !row.fits size

/-- The indices of the active rows that do not fit into the image. -/
def outside (r : Roster) (size : Nat) : List Nat :=
  (r.rows.zipIdx.filter fun e ↦ sticksOut size e.1).map Prod.snd

/-- What does not fit into the image leaves the exchange; the core moves to the start instead. -/
def confine (r : Roster) (size : Nat) : Roster :=
  { r with
    core := if sticksOut size r.core then r.core.atStart else r.core
    modules := r.modules.map fun row ↦ if sticksOut size row then row.deactivate else row }

/-- Where the core's bytes are. -/
def coreBlock (r : Roster) : CoreBlock := ⟨r.core.inputOffset, r.core.outputOffset⟩

/-- **The comparison** of a roster with the declarations: the roster with every row in its place,
the status flags, and the report.  Without declarations the modules are packed. -/
def reconcile (r : Roster) (declared : List Declaration) (imageSize : Nat) (status : Status) :
    Roster × Status × Report :=
  let found := r.unplaced
  let free := declared.isEmpty
  let laidOut := if free then found.packed else found.matched declared
  let settled := laidOut.confine imageSize
  let mismatches := if free then [] else found.mismatches declared
  let outside := laidOut.outside imageSize
  let matched := if free then 0 else (found.claimed declared).length
  let extra := if free then 0 else (found.verdicts declared).countP fun v ↦ !v.isMatched
  let missing := (if free then [] else found.unclaimed declared).length
  let overlap := match settled.clash? with
    | some (a, b) => [Issue.overlap a b]
    | none => []
  let flags := (((status.remove .configuration).insertIf (extra != 0) .extraModule).insertIf
    (missing != 0) .missingModule).insertIf
      (!mismatches.isEmpty || outside.any fun i ↦ i != 0) .sizeMismatch
  (settled, flags,
    { matched := matched
      extra := extra
      missing := missing
      issues := mismatches ++ outside.map Issue.outsideImage ++ overlap
      core := settled.coreBlock })

end Roster
end RackBus

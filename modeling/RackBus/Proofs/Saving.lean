import RackBus.Document.Load
import RackBus.Proofs.Reading

/-!
# Saving and loading documents

A document is written field by field, and read back by looking the fields up.  This file says that
nothing is lost on the way, whatever the document holds.

* `Json.present` are the members of a record that are written.  `Value.fields?_record` says that the
  fields are found again, those that are not written included, and `Value.plain_record` that the
  record can be read back from its text.
* `TimingOverrides.ofJson?_toJson`, `Overrides.ofJson?_toJson`, `Declaration.ofJson?_toJson` and
  `Document.ofJson?_toJson` say so of each kind of record.
* `Document.load_save` is what comes back from the text of a document that declares modules, and
  `Document.comes_back` puts everything together.
-/

set_option autoImplicit false

namespace RackBus

/-- What reads each item back reads the list back. -/
theorem mapM_map_eq_some {α β γ : Type} {items : List α} {write : α → β} {read : β → Option γ}
    {value : α → γ} (h : ∀ a ∈ items, read (write a) = some (value a)) :
    (items.map write).mapM read = some (items.map value) := by
  induction items with
  | nil => rfl
  | cons a items ih =>
    obtain ⟨ha, hitems⟩ := List.forall_mem_cons.mp h
    rw [List.map_cons, List.mapM_cons, ha, ih hitems]
    rfl

namespace Json

/-! ## Records -/

/-- The members of a record that are written: those of the fields with a value. -/
def present (fields : List (String × Option Value)) : List (String × Value) :=
  fields.flatMap fun f ↦ member? f.1 id f.2

/-- A name that is written as it is, up to quotation marks and backslashes. -/
def isPlainName (name : String) : Bool := name.toList.all fun c ↦ !isControl c

theorem member?_map {α : Type} (name : String) (write : α → Value) (value : Option α) :
    member? name id (value.map write) = member? name write value := by
  cases value <;> rfl

section

variable {fields : List (String × Option Value)}

theorem mem_present {m : String × Value} (h : m ∈ present fields) : (m.1, some m.2) ∈ fields := by
  obtain ⟨⟨name, value⟩, hf, hm⟩ := List.mem_flatMap.mp h
  cases value with
  | none => exact absurd hm (List.not_mem_nil)
  | some v =>
    obtain rfl := List.mem_singleton.mp hm
    exact hf

theorem filter_present_eq_nil {name : String} (h : name ∉ fields.map Prod.fst) :
    (present fields).filter (fun m ↦ m.1 == name) = [] := by
  refine List.filter_eq_nil_iff.mpr fun m hm heq ↦ h ?_
  exact List.mem_map.mpr ⟨_, mem_present hm, by simpa using heq⟩

/-- At most one member has the name of a field. -/
theorem filter_present (hnodup : (fields.map Prod.fst).Nodup) {f : String × Option Value}
    (hf : f ∈ fields) :
    (present fields).filter (fun m ↦ m.1 == f.1) = member? f.1 id f.2 := by
  induction fields with
  | nil => exact absurd hf List.not_mem_nil
  | cons g fields ih =>
    obtain ⟨hg, hnodup⟩ := List.nodup_cons.mp hnodup
    rw [present, List.flatMap_cons, List.filter_append]
    rcases List.mem_cons.mp hf with rfl | hf
    · have hrest := filter_present_eq_nil hg
      rw [present] at hrest
      rw [hrest, List.append_nil]
      cases hvalue : f.2 <;> simp [member?]
    · have hne : g.1 ≠ f.1 := fun heq ↦ hg (heq ▸ List.mem_map_of_mem hf)
      have hhead : (member? g.1 id g.2).filter (fun m ↦ m.1 == f.1) = [] := by
        cases hvalue : g.2 <;> simp [member?, hne]
      rw [hhead, List.nil_append]
      exact ih hnodup hf

namespace Value

/-- The fields of a record are found again. -/
theorem fields?_record (fields : List (String × Option Value))
    (hnodup : (fields.map Prod.fst).Nodup) :
    (record (present fields)).fields? (fields.map Prod.fst) = some (fields.map Prod.snd) := by
  have hnames : names? ((present fields).map fun m ↦ (StringUnit.ofText m.1, m.2)) =
      some ((present fields).map fun m ↦ (m.1.toList, m.2)) :=
    mapM_map_eq_some fun m _ ↦ by rw [StringUnit.decode?_ofText, Option.map_some]
  rw [record, fields?, hnames, Option.bind_some]
  refine mapM_map_eq_some fun f hf ↦ ?_
  have hsame : (fun m : List Char × Value ↦ m.1 == f.1.toList) ∘
      (fun m : String × Value ↦ (m.1.toList, m.2)) = fun m ↦ m.1 == f.1 := by
    funext m
    rw [Function.comp, Bool.eq_iff_iff, beq_iff_eq, beq_iff_eq, String.toList_inj]
  rw [field?, List.filter_map, hsame, filter_present hnodup hf]
  cases f.2 <;> rfl

/-- A record is plain if its fields are. -/
theorem plain_record (fields : List (String × Option Value))
    (hnames : ∀ name ∈ fields.map Prod.fst, isPlainName name = true)
    (hvalues : ∀ f ∈ fields, ∀ v ∈ f.2, v.Plain) : (record (present fields)).Plain := by
  refine .object _ (fun m hm ↦ ?_) fun m hm ↦ ?_
  · obtain ⟨member, hmember, rfl⟩ := List.mem_map.mp hm
    intro u hu
    obtain ⟨c, hc, rfl⟩ := List.mem_map.mp hu
    exact List.all_eq_true.mp (hnames _ (List.mem_map_of_mem (mem_present hmember))) c hc
  · obtain ⟨member, hmember, rfl⟩ := List.mem_map.mp hm
    exact hvalues _ (mem_present hmember) _ rfl

/-- A value that is written only if there is one. -/
theorem plain_of_mem_map {α : Type} {write : α → Value} (h : ∀ a, (write a).Plain)
    (value : Option α) : ∀ v ∈ value.map write, v.Plain := by
  intro v hv
  obtain ⟨a, -, rfl⟩ := Option.map_eq_some_iff.mp hv
  exact h a

theorem plain_of_mem_map_ofNat {α : Type} (toNat : α → Nat) (value : Option α) :
    ∀ v ∈ value.map fun a ↦ ofNat (toNat a), v.Plain :=
  plain_of_mem_map (fun _ ↦ .ofNat _) value

end Value

end

/-! ## Fields -/

namespace Value

theorem natural?_ofNat {limit n : Nat} (h : n ≤ limit) : (ofNat n).natural? limit = some n := by
  have hdigits : (Decimal.digits n).all Decimal.isDigit = true :=
    List.all_eq_true.mpr fun c hc ↦ Decimal.isDigit_of_mem_digits hc
  rw [ofNat, natural?, Decimal.value_digits, hdigits, Bool.true_and, if_pos (decide_eq_true h)]

theorem byte?_ofNat (n : UInt8) : (ofNat n.toNat).byte? = some n := by
  rw [byte?, natural?_ofNat (Nat.le_of_lt_succ n.toNat_lt), Option.map_some, UInt8.ofNat_toNat]

theorem word?_ofNat (n : UInt16) : (ofNat n.toNat).word? = some n := by
  rw [word?, natural?_ofNat (Nat.le_of_lt_succ n.toNat_lt), Option.map_some, UInt16.ofNat_toNat]

theorem double?_ofNat (n : UInt32) : (ofNat n.toNat).double? = some n := by
  rw [double?, natural?_ofNat (Nat.le_of_lt_succ n.toNat_lt), Option.map_some, UInt32.ofNat_toNat]

theorem long?_ofNat (n : UInt64) : (ofNat n.toNat).long? = some n := by
  rw [long?, natural?_ofNat (Nat.le_of_lt_succ n.toNat_lt), Option.map_some, UInt64.ofNat_toNat]

end Value

/-- A field that is not written is read as one that is not there, and `null` is not written. -/
theorem optional_map {α : Type} {read : Value → Option α} {write : α → Value}
    (hread : ∀ a, read (write a) = some a) (hnull : ∀ a, write a ≠ .null) (value : Option α) :
    optional read (value.map write) = some value := by
  cases value with
  | none => rfl
  | some a =>
    have hsome : optional read (some (write a)) = (read (write a)).map some := by
      cases hvalue : write a with
      | null => exact absurd hvalue (hnull a)
      | _ => rfl
    rw [Option.map_some, hsome, hread, Option.map_some]

end Json

/-! ## Documents -/

open Json

namespace TimingOverrides

/-- The fields that are written. -/
def fields (o : TimingOverrides) : List (String × Option Value) :=
  let long (n : UInt64) := Value.ofNat n.toNat
  let double (n : UInt32) := Value.ofNat n.toNat
  [("presencePulseUs", o.presencePulse.map long), ("presenceSettleUs", o.presenceSettle.map long),
    ("configEnableDwellUs", o.enableDwell.map long),
    ("handshakeSettleMs", o.enrolmentPause.map double),
    ("dataExchangeStartMs", o.startPause.map double)]

theorem toJson_eq (o : TimingOverrides) : o.toJson = .record (present o.fields) := by
  simp only [toJson, fields, present, List.flatMap_cons, List.flatMap_nil, member?_map,
    List.append_assoc, List.append_nil]

theorem ofJson?_toJson (o : TimingOverrides) : ofJson? o.toJson = some o := by
  have hfields : o.toJson.fields? names = some (o.fields.map Prod.snd) := by
    rw [toJson_eq]
    exact Value.fields?_record o.fields (show names.Nodup by decide)
  have hlong := optional_map Value.long?_ofNat fun _ h ↦ Value.noConfusion h
  have hdouble := optional_map Value.double?_ofNat fun _ h ↦ Value.noConfusion h
  rw [ofJson?, hfields]
  simp only [fields, List.map_cons, List.map_nil, hlong, hdouble]
  rfl

theorem plain_toJson (o : TimingOverrides) : o.toJson.Plain := by
  rw [toJson_eq]
  refine Value.plain_record o.fields
    (show ∀ name ∈ names, isPlainName name = true by decide) ?_
  simp only [fields, List.forall_mem_cons]
  exact ⟨Value.plain_of_mem_map_ofNat _ _, Value.plain_of_mem_map_ofNat _ _,
    Value.plain_of_mem_map_ofNat _ _, Value.plain_of_mem_map_ofNat _ _,
    Value.plain_of_mem_map_ofNat _ _, by simp⟩

end TimingOverrides

namespace Overrides

/-- The fields that are written. -/
def fields (o : Overrides) : List (String × Option Value) :=
  let byte (n : UInt8) := Value.ofNat n.toNat
  let long (n : UInt64) := Value.ofNat n.toNat
  let double (n : UInt32) := Value.ofNat n.toNat
  [("rightBase", o.rightBase.map byte), ("retryLimit", o.retryLimit.map byte),
    ("maxDevices", o.maxDevices.map long), ("imageSize", o.imageSize.map long),
    ("autoStart", o.autoStart.map Value.bool), ("coreSerialNumber", o.serial.map double),
    ("timings", o.timings.map TimingOverrides.toJson)]

theorem toJson_eq (o : Overrides) : o.toJson = .record (present o.fields) := by
  simp only [toJson, fields, present, List.flatMap_cons, List.flatMap_nil, member?_map,
    List.append_assoc, List.append_nil]

theorem ofJson?_toJson (o : Overrides) : ofJson? o.toJson = some o := by
  have hfields : o.toJson.fields? names = some (o.fields.map Prod.snd) := by
    rw [toJson_eq]
    exact Value.fields?_record o.fields (show names.Nodup by decide)
  have hbyte := optional_map Value.byte?_ofNat fun _ h ↦ Value.noConfusion h
  have hlong := optional_map Value.long?_ofNat fun _ h ↦ Value.noConfusion h
  have hdouble := optional_map Value.double?_ofNat fun _ h ↦ Value.noConfusion h
  have hbool := optional_map (show ∀ b, (Value.bool b).bool? = some b from fun _ ↦ rfl)
    fun _ h ↦ Value.noConfusion h
  have htimings := optional_map TimingOverrides.ofJson?_toJson fun _ h ↦ Value.noConfusion h
  rw [ofJson?, hfields]
  simp only [fields, List.map_cons, List.map_nil, hbyte, hlong, hdouble, hbool, htimings]
  rfl

theorem plain_toJson (o : Overrides) : o.toJson.Plain := by
  rw [toJson_eq]
  refine Value.plain_record o.fields
    (show ∀ name ∈ names, isPlainName name = true by decide) ?_
  simp only [fields, List.forall_mem_cons]
  exact ⟨Value.plain_of_mem_map_ofNat _ _, Value.plain_of_mem_map_ofNat _ _,
    Value.plain_of_mem_map_ofNat _ _, Value.plain_of_mem_map_ofNat _ _,
    Value.plain_of_mem_map .bool _, Value.plain_of_mem_map_ofNat _ _,
    Value.plain_of_mem_map TimingOverrides.plain_toJson _, by simp⟩

end Overrides

namespace Declaration

/-- The numbers that are written. -/
def numbers (d : Declaration) : List (String × Nat) :=
  [("address", d.address.value.toNat), ("moduleType", d.type.code.toNat),
    ("inputLength", d.inputLength.toNat), ("outputLength", d.outputLength.toNat),
    ("configLength", d.configLength.toNat), ("baseOffset", d.baseOffset.toNat),
    ("inputOffset", d.inputOffset.toNat), ("outputOffset", d.outputOffset.toNat),
    ("configOffset", d.configOffset.toNat), ("serialNumber", d.serial.toNat)]

/-- The fields that are written: all of them. -/
def fields (d : Declaration) : List (String × Option Value) :=
  d.numbers.map fun f ↦ (f.1, some (.ofNat f.2))

theorem ofJson?_toJson (d : Declaration) : ofJson? d.toJson = some d := by
  have hfields : d.toJson.fields? names = some (d.fields.map Prod.snd) :=
    Value.fields?_record d.fields (show names.Nodup by decide)
  rw [ofJson?, hfields]
  simp only [fields, numbers, List.map_cons, List.map_nil, required, withDefault,
    Value.byte?_ofNat, Value.word?_ofNat, Value.double?_ofNat]
  rfl

theorem plain_toJson (d : Declaration) : d.toJson.Plain := by
  refine Value.plain_record d.fields
    (show ∀ name ∈ names, isPlainName name = true by decide) ?_
  intro f hf v hv
  obtain ⟨number, -, rfl⟩ := List.mem_map.mp hf
  obtain rfl := Option.some.inj hv
  exact .ofNat _

end Declaration

namespace Document

/-- The fields that are written: both of them. -/
def fields (d : Document) : List (String × Option Value) :=
  [("bridge", some d.bridge.toJson), ("devices", some (.array (d.devices.map Declaration.toJson)))]

theorem ofJson?_toJson (d : Document) : ofJson? d.toJson = some d := by
  have hfields : d.toJson.fields? names = some (d.fields.map Prod.snd) :=
    Value.fields?_record d.fields (show names.Nodup by decide)
  have hdevices : Value.list? Declaration.ofJson? (.array (d.devices.map Declaration.toJson)) =
      some (d.devices.map fun e ↦ e) :=
    mapM_map_eq_some fun e _ ↦ e.ofJson?_toJson
  rw [List.map_id'] at hdevices
  rw [ofJson?, hfields]
  simp only [fields, List.map_cons, List.map_nil, withDefault, d.bridge.ofJson?_toJson, hdevices]
  rfl

theorem plain_toJson (d : Document) : d.toJson.Plain := by
  have hdevices : (Value.array (d.devices.map Declaration.toJson)).Plain := by
    refine .array _ fun v hv ↦ ?_
    obtain ⟨e, -, rfl⟩ := List.mem_map.mp hv
    exact e.plain_toJson
  refine Value.plain_record d.fields
    (show ∀ name ∈ names, isPlainName name = true by decide) ?_
  simp only [fields, List.forall_mem_cons]
  exact ⟨fun v hv ↦ Option.some.inj hv ▸ d.bridge.plain_toJson,
    fun v hv ↦ Option.some.inj hv ▸ hdevices, by simp⟩

/-- **A document comes back** from its text, however it is laid out. -/
theorem ofText?_write {layout : Layout} (hlayout : layout.IsBlank) (d : Document) :
    ofText? (String.ofList (d.toJson.write layout 0)) = some d := by
  rw [ofText?, String.toList_ofList, Value.ofText?_write hlayout d.plain_toJson, Option.bind_some,
    d.ofJson?_toJson]

/-- A document that only declares modules leaves the usual settings alone, and so loading its text
is checking the modules. -/
theorem loadDeclarations_save (declared : List Declaration) :
    loadDeclarations (save declared) = (Declaration.check 4096 declared).map fun _ ↦ declared := by
  have htext : ofText? (save declared) = some (ofDeclarations declared) :=
    ofText?_write Layout.isBlank_indented _
  have hcheck : (ofDeclarations declared).check = Declaration.check 4096 declared := rfl
  rw [loadDeclarations, load, htext]
  dsimp only
  rw [hcheck]
  cases Declaration.check 4096 declared <;> rfl

/-- **Nothing is lost in a text.**  Every document comes back from both of its texts.  Declared
modules come back if they pass their check, in the usual image, and otherwise what is wrong with them
is all that comes back. -/
theorem comes_back :
    (∀ d : Document, ofText? d.compact = some d ∧ ofText? d.indented = some d) ∧
      ∀ declared,
        loadDeclarations (save declared) =
          (Declaration.check 4096 declared).map fun _ ↦ declared :=
  ⟨fun d ↦ ⟨ofText?_write Layout.isBlank_compact d, ofText?_write Layout.isBlank_indented d⟩,
    loadDeclarations_save⟩

/-- A document that sets one thing and declares nothing. -/
example : Document.compact ⟨{ Overrides.none with rightBase := some 40 }, []⟩ =
    "\x7b\"bridge\":\x7b\"rightBase\":40\x7d,\"devices\":[]\x7d" := by
  decide +kernel

end Document

end RackBus

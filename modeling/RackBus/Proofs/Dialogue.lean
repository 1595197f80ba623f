import RackBus.Proofs.Admission
import Mathlib.Data.Nat.Bitwise

/-!
# An enrolment, telegram by telegram

An enrolment is a short dialogue with a module that can go wrong in many ways: nothing comes back,
or something that belongs to another request, or a refusal, or an identity that is cut off.  This
file says for all of them what is sent, how long the pauses are, and what the result is.

* `Telegram.BelongsTo` and `Telegram.Accepts` say what a good answer is, bit by bit.
  `Query.Succeeds` is a request that got one, and `Query.Fails` lists what else can have happened,
  with the failure that is reported.  A request either succeeds or fails, in one way
  (`Query.judge_eq_ok_iff`, `Query.judge_eq_error_iff`).
* `enrolmentRequests` are the three requests of an enrolment.
* `Bus.Enrols` describes an enrolment by its requests and what came back for them, and
  `Bus.enrols_enrol` says that every enrolment is like this.
-/

set_option autoImplicit false

namespace RackBus

universe u

/-! ## Good answers -/

/-- Masking a single bit of a code asks for this bit. -/
theorem and_bne_zero (code bit : UInt16) (i : Nat) (hbit : bit.toNat = 2 ^ i) :
    (code &&& bit != 0) = code.toNat.testBit i := by
  have hzero : code &&& bit ≠ 0 ↔ code.toNat.testBit i = true := by
    rw [ne_eq, ← UInt16.toNat_inj, UInt16.toNat_and, hbit, Nat.and_two_pow]
    cases code.toNat.testBit i <;> simp
  rw [Bool.eq_iff_iff, bne_iff_ne, hzero]

namespace Telegram

variable {t request : Telegram}

/-- An answer belongs to a request: it comes from the module that was meant, with the number of the
request and with its code in the low fourteen bits. -/
structure BelongsTo (t request : Telegram) : Prop where
  source : t.source = request.destination
  sequence : t.sequence = request.sequence
  command : t.command.toNat % 2 ^ 14 = request.command.toNat

/-- An answer accepts the request: of the other two bits, the lower one is set and the higher one is
not. -/
structure Accepts (t : Telegram) : Prop where
  accepted : t.command.toNat.testBit 14 = true
  notRefused : t.command.toNat.testBit 15 = false

theorem answers_iff : t.answers request = true ↔ t.BelongsTo request := by
  have hmask : t.command &&& Command.requestMask = request.command ↔
      t.command.toNat % 2 ^ 14 = request.command.toNat := by
    rw [← UInt16.toNat_inj, UInt16.toNat_and]
    exact (Nat.and_two_pow_sub_one_eq_mod t.command.toNat 14) ▸ Iff.rfl
  rw [answers, Bool.and_eq_true, Bool.and_eq_true, beq_iff_eq, beq_iff_eq, beq_iff_eq, hmask]
  constructor
  · rintro ⟨⟨hsource, hsequence⟩, hcommand⟩
    exact ⟨hsource, hsequence, hcommand⟩
  · exact fun h ↦ ⟨⟨h.source, h.sequence⟩, h.command⟩

theorem isAccepted_iff : t.isAccepted = true ↔ t.Accepts := by
  have hrefused : (t.command &&& Command.refusedBit == 0) = !t.command.toNat.testBit 15 := by
    rw [← and_bne_zero t.command Command.refusedBit 15 rfl, bne, Bool.not_not]
  rw [isAccepted, and_bne_zero t.command Command.acceptedBit 14 rfl, hrefused, Bool.and_eq_true,
    Bool.not_eq_true']
  exact ⟨fun h ↦ ⟨h.1, h.2⟩, fun h ↦ ⟨h.accepted, h.notRefused⟩⟩

instance (t request : Telegram) : Decidable (t.BelongsTo request) :=
  decidable_of_iff _ answers_iff

instance (t : Telegram) : Decidable t.Accepts := decidable_of_iff _ isAccepted_iff

/-- What the core makes of an answer, in these terms. -/
theorem accept_some_eq (request t : Telegram) :
    request.accept (.ok (some t)) =
      if t.BelongsTo request then
        if t.Accepts then .ok t.payload else .error (.refused t.command)
      else .error (.unexpectedAnswer t.command) := by
  simp only [accept, Bool.not_eq_true', ← answers_iff, ← isAccepted_iff]
  cases t.answers request <;> cases t.isAccepted <;> rfl

end Telegram

/-! ## Requests that succeed or fail -/

namespace Query

variable {q : Query} {data : List UInt8} {e : Failure}

/-- A request succeeds: the answer belongs to it, accepts it, and has this payload, which has room
for an identity if the request was for one. -/
structure Succeeds (q : Query) (data : List UInt8) : Prop where
  answer : ∃ t, q.answer = .ok (some t) ∧ t.BelongsTo q.request ∧ t.Accepts ∧ t.payload = data
  length : q.request.command = Command.deviceInfo.code → 22 ≤ data.length

/-- A request fails, and this is reported. -/
inductive Fails (q : Query) : Failure → Prop
  /-- The transport has failed. -/
  | transport (e : Failure) (answer : q.answer = .error e) : Fails q e
  /-- Nothing came back. -/
  | silence (answer : q.answer = .ok none) : Fails q .noTransport
  /-- What came back belongs to another request: it comes from another module, or has another
  number or another code. -/
  | stray (t : Telegram) (answer : q.answer = .ok (some t))
    (differs : t.source ≠ q.request.destination ∨ t.sequence ≠ q.request.sequence ∨
      t.command.toNat % 2 ^ 14 ≠ q.request.command.toNat) : Fails q (.unexpectedAnswer t.command)
  /-- The answer says that the request was refused, or does not say that it was accepted. -/
  | refusal (t : Telegram) (answer : q.answer = .ok (some t)) (belongs : t.BelongsTo q.request)
    (refuses : t.command.toNat.testBit 15 = true ∨ t.command.toNat.testBit 14 = false) :
    Fails q (.refused t.command)
  /-- The identity is cut off. -/
  | cutOff (t : Telegram) (answer : q.answer = .ok (some t)) (belongs : t.BelongsTo q.request)
    (accepts : t.Accepts) (command : q.request.command = Command.deviceInfo.code)
    (length : t.payload.length < 22) : Fails q .shortBuffer

/-- What an enrolment makes of what came back: the payload, or the failure that it reports. -/
def judge (q : Query) : Except Failure (List UInt8) :=
  match q.request.accept q.answer with
  | .error e => .error e
  | .ok data =>
    if q.request.command = Command.deviceInfo.code ∧ data.length < Identity.encodedLength then
      .error .shortBuffer
    else .ok data

theorem judge_of_succeeds (h : q.Succeeds data) : q.judge = .ok data := by
  obtain ⟨⟨t, hanswer, hbelongs, haccepts, rfl⟩, hlength⟩ := h
  rw [judge, hanswer, Telegram.accept_some_eq, if_pos hbelongs, if_pos haccepts]
  exact if_neg fun ⟨hcommand, hshort⟩ ↦ Nat.not_lt.mpr (hlength hcommand) hshort

theorem judge_of_fails (h : q.Fails e) : q.judge = .error e := by
  cases h with
  | transport _ answer => rw [judge, answer, Telegram.accept]
  | silence answer => rw [judge, answer, Telegram.accept]
  | stray t answer differs =>
    have hstray : ¬t.BelongsTo q.request := fun h ↦
      differs.elim (· h.source) fun h' ↦ h'.elim (· h.sequence) (· h.command)
    rw [judge, answer, Telegram.accept_some_eq, if_neg hstray]
  | refusal t answer belongs refuses =>
    have hrefused : ¬t.Accepts := by
      rintro ⟨haccepted, hnot⟩
      rw [haccepted, hnot] at refuses
      exact absurd refuses (by decide)
    rw [judge, answer, Telegram.accept_some_eq, if_pos belongs, if_neg hrefused]
  | cutOff t answer belongs accepts command length =>
    rw [judge, answer, Telegram.accept_some_eq, if_pos belongs, if_pos accepts]
    exact if_pos ⟨command, length⟩

/-- A request succeeds or fails. -/
theorem succeeds_or_fails (q : Query) : (∃ data, q.Succeeds data) ∨ ∃ e, q.Fails e := by
  match hanswer : q.answer with
  | .error e => exact Or.inr ⟨e, .transport e hanswer⟩
  | .ok none => exact Or.inr ⟨_, .silence hanswer⟩
  | .ok (some t) =>
    by_cases hbelongs : t.BelongsTo q.request
    · by_cases haccepts : t.Accepts
      · by_cases hshort : q.request.command = Command.deviceInfo.code ∧ t.payload.length < 22
        · exact Or.inr ⟨_, .cutOff t hanswer hbelongs haccepts hshort.1 hshort.2⟩
        · exact Or.inl ⟨t.payload, ⟨t, hanswer, hbelongs, haccepts, rfl⟩,
            fun hcommand ↦ Nat.not_lt.mp fun hlt ↦ hshort ⟨hcommand, hlt⟩⟩
      · refine Or.inr ⟨_, .refusal t hanswer hbelongs ?_⟩
        by_contra hbits
        rw [not_or, Bool.not_eq_true, Bool.not_eq_false] at hbits
        exact haccepts ⟨hbits.2, hbits.1⟩
    · refine Or.inr ⟨_, .stray t hanswer ?_⟩
      by_contra hsame
      simp only [not_or, not_not] at hsame
      exact hbelongs ⟨hsame.1, hsame.2.1, hsame.2.2⟩

/-- It succeeds exactly if an enrolment takes the payload from it. -/
theorem judge_eq_ok_iff : q.judge = .ok data ↔ q.Succeeds data := by
  refine ⟨fun h ↦ ?_, judge_of_succeeds⟩
  rcases q.succeeds_or_fails with ⟨other, hsucceeds⟩ | ⟨e, hfails⟩
  · rw [judge_of_succeeds hsucceeds] at h
    exact Except.ok.inj h ▸ hsucceeds
  · rw [judge_of_fails hfails] at h
    exact absurd h (by simp)

/-- It fails exactly if an enrolment reports this. -/
theorem judge_eq_error_iff : q.judge = .error e ↔ q.Fails e := by
  refine ⟨fun h ↦ ?_, judge_of_fails⟩
  rcases q.succeeds_or_fails with ⟨data, hsucceeds⟩ | ⟨other, hfails⟩
  · rw [judge_of_succeeds hsucceeds] at h
    exact absurd h (by simp)
  · rw [judge_of_fails hfails] at h
    exact Except.error.inj h ▸ hfails

theorem fails_of_accept (h : q.request.accept q.answer = .error e) : q.Fails e :=
  judge_eq_error_iff.mp (by rw [judge, h])

/-- A request for the identity fails as well if the identity cannot be decoded. -/
theorem fails_of_decode (hcommand : q.request.command = Command.deviceInfo.code)
    (h : q.request.accept q.answer = .ok data) (hdecode : Identity.decode data = .error e) :
    q.Fails e := by
  rw [Identity.decode] at hdecode
  split at hdecode
  · rename_i hshort
    obtain rfl := Except.error.inj hdecode
    exact judge_eq_error_iff.mp (by rw [judge, h]; exact if_pos ⟨hcommand, hshort⟩)
  · exact absurd hdecode (by simp)

theorem succeeds_of_decode (h : q.request.accept q.answer = .ok data) {identity : Identity}
    (hdecode : Identity.decode data = .ok identity) : q.Succeeds data := by
  rw [Identity.decode] at hdecode
  split at hdecode
  · exact absurd hdecode (by simp)
  · rename_i hlong
    exact judge_eq_ok_iff.mp (by rw [judge, h]; exact if_neg fun hshort ↦ hlong hshort.2)

theorem succeeds_of_accept (hcommand : q.request.command ≠ Command.deviceInfo.code)
    (h : q.request.accept q.answer = .ok data) : q.Succeeds data :=
  judge_eq_ok_iff.mp (by rw [judge, h]; exact if_neg fun hshort ↦ hcommand hshort.1)

end Query

/-! ## What is sent -/

/-- The requests of an enrolment, with one number after the other. -/
def enrolmentRequests (address : Address) (side : Side) (number : UInt16) : List Telegram :=
  [⟨address, .core, Command.deviceInfo.code, number, []⟩,
    ⟨address, .core, Command.configure.code, number + 1, []⟩,
    ⟨address, .core, Command.setAddress.code, number + 2, [address.value, side.code]⟩]

namespace Bus

variable {σ : Type u}

/-- Requests of an enrolment were sent, with pauses between them. -/
structure Sends (address : Address) (side : Side) (pause : UInt32) (before : Bus σ)
    (queries : List Query) (after : Bus σ) : Prop where
  /-- What is sent are the first ones of the three requests. -/
  requests : queries.map Query.request <+: enrolmentRequests address side before.sequence
  /-- They are sent in this order, with a pause between every two, and nothing else happens. -/
  trace : after.trace = before.trace ++
    (queries.map fun q ↦ Event.sent q.request q.answer).intersperse (.paused pause)
  /-- Every request takes a number. -/
  sequence : after.sequence = before.sequence + .ofNat queries.length

/-- One more of something that is kept apart. -/
theorem intersperse_concat {α : Type} (sep x : α) {l : List α} (h : l ≠ []) :
    (l ++ [x]).intersperse sep = l.intersperse sep ++ [sep, x] := by
  induction l with
  | nil => exact absurd rfl h
  | cons a l ih =>
    cases l with
    | nil => rfl
    | cons b l =>
      rw [List.cons_append, List.cons_append, List.intersperse_cons_cons,
        List.intersperse_cons_cons, ← List.cons_append, ih (List.cons_ne_nil _ _)]
      rfl

theorem prefix_concat {α : Type} {l all : List α} {x : α} (h : l <+: all)
    (hx : all[l.length]? = some x) : l ++ [x] <+: all := by
  obtain ⟨rest, rfl⟩ := h
  rw [List.getElem?_append_right (Nat.le_refl _), Nat.sub_self, ← List.head?_eq_getElem?] at hx
  obtain ⟨more, rfl⟩ := List.head?_eq_some_iff.mp hx
  exact ⟨more, by rw [List.append_assoc, List.singleton_append]⟩

section Send

variable {before bus : Bus σ} (rack : Rack σ) (address : Address) (side : Side) (pause : UInt32)

/-- The first request of an enrolment. -/
theorem sends_first (before : Bus σ) :
    let result := before.exchange rack address .deviceInfo []
    ∃ q : Query, q.request.command = Command.deviceInfo.code ∧
      q.request.accept q.answer = result.1 ∧ Sends address side pause before [q] result.2 := by
  obtain ⟨q, hrequest, haccept, htrace⟩ :=
    before.exists_query_exchange rack address .deviceInfo [] (Nat.zero_le _)
  refine ⟨q, by rw [hrequest], haccept.symm, ?_, htrace, before.sequence_exchange rack _ _ _⟩
  rw [List.map_singleton, hrequest]
  exact ⟨_, rfl⟩

variable {rack address side pause}

/-- **The next request** comes after a pause. -/
theorem Sends.next {queries : List Query} (h : Sends address side pause before queries bus)
    (hqueries : queries ≠ []) (command : Command) (payload : List UInt8)
    (hp : payload.length ≤ Telegram.payloadLimit)
    (hnext : (enrolmentRequests address side before.sequence)[queries.length]? =
      some ⟨address, .core, command.code, before.sequence + .ofNat queries.length, payload⟩) :
    let result := (bus.pause rack pause).exchange rack address command payload
    ∃ q : Query, q.request.command = command.code ∧ q.request.accept q.answer = result.1 ∧
      Sends address side pause before (queries ++ [q]) result.2 := by
  obtain ⟨q, hrequest, haccept, htrace⟩ :=
    (bus.pause rack pause).exists_query_exchange rack address command payload hp
  have hsequence : (bus.pause rack pause).sequence = bus.sequence := rfl
  rw [hsequence, h.sequence] at hrequest
  refine ⟨q, by rw [hrequest], haccept.symm, ?_, ?_, ?_⟩
  · rw [List.map_append, List.map_singleton, hrequest]
    exact prefix_concat h.requests (by rw [List.length_map]; exact hnext)
  · rw [htrace, trace_pause, h.trace, List.map_append, List.map_singleton,
      intersperse_concat _ _ (by simpa using hqueries), List.append_assoc, List.append_assoc]
    rfl
  · rw [sequence_exchange, hsequence, h.sequence, List.length_append, List.length_singleton,
      UInt16.ofNat_add, UInt16.add_assoc]
    rfl

end Send

/-! ## What comes of it -/

/-- An enrolment, described by its requests and what came back for them. -/
structure Enrols (address : Address) (side : Side) (pause : UInt32) (before : Bus σ)
    (queries : List Query) (result : Except Failure Identity) (after : Bus σ) : Prop
    extends Sends address side pause before queries after where
  /-- Something is sent. -/
  nonempty : queries ≠ []
  /-- The enrolment goes on only after a request that succeeds. -/
  succeeds : ∀ q ∈ queries.dropLast, ∃ data, q.Succeeds data
  /-- It stops only after one that fails, or after the third. -/
  stops : (∀ q ∈ queries, ∃ data, q.Succeeds data) → queries.length = 3
  /-- It brings an identity exactly if all three succeed, the one that the module has told. -/
  ok : ∀ identity, result = .ok identity ↔
    queries.length = 3 ∧ (∀ q ∈ queries, ∃ data, q.Succeeds data) ∧
      ∃ told info, queries.head? = some told ∧ told.Succeeds info ∧
        Identity.decode info = .ok identity
  /-- It fails exactly if the last one fails, and reports the failure of this one. -/
  error : ∀ e, result = .error e ↔ ∃ q, queries.getLast? = some q ∧ q.Fails e

section Enrol

variable {address : Address} {side : Side} {pause : UInt32} {before after : Bus σ}

theorem Sends.fails (earlier : List Query) {last : Query}
    (h : Sends address side pause before (earlier ++ [last]) after)
    (hearlier : ∀ q ∈ earlier, ∃ data, q.Succeeds data) {e : Failure} (hlast : last.Fails e) :
    Enrols address side pause before (earlier ++ [last]) (.error e) after := by
  have hnot : ¬∀ q ∈ earlier ++ [last], ∃ data, q.Succeeds data := by
    intro hall
    obtain ⟨data, hdata⟩ := hall last (by simp)
    rw [← Query.judge_eq_ok_iff, Query.judge_eq_error_iff.mpr hlast] at hdata
    exact absurd hdata (by simp)
  refine { toSends := h, nonempty := by simp, succeeds := ?_, stops := fun hall ↦ absurd hall hnot,
           ok := fun identity ↦ ⟨fun h ↦ absurd h (by simp), fun ⟨_, hall, _⟩ ↦ absurd hall hnot⟩,
           error := fun other ↦ ?_ }
  · rw [List.dropLast_concat]
    exact hearlier
  · rw [List.getLast?_concat]
    constructor
    · intro he
      exact ⟨last, rfl, Except.error.inj he ▸ hlast⟩
    · rintro ⟨q, hq, hother⟩
      obtain rfl := Option.some.inj hq
      rw [← Query.judge_eq_error_iff, Query.judge_eq_error_iff.mpr hlast] at hother
      exact congrArg _ (Except.error.inj hother)

theorem Sends.brings {told configured named : Query}
    (h : Sends address side pause before [told, configured, named] after) {info : List UInt8}
    (htold : told.Succeeds info) (hrest : ∀ q ∈ [configured, named], ∃ data, q.Succeeds data)
    {identity : Identity} (hidentity : Identity.decode info = .ok identity) :
    Enrols address side pause before [told, configured, named] (.ok identity) after := by
  have hall : ∀ q ∈ [told, configured, named], ∃ data, q.Succeeds data :=
    List.forall_mem_cons.mpr ⟨⟨info, htold⟩, hrest⟩
  refine { toSends := h, nonempty := by simp, stops := fun _ ↦ rfl,
           succeeds := fun q hq ↦ hall q (List.dropLast_subset _ hq),
           ok := fun other ↦ ⟨?_, ?_⟩, error := fun e ↦ ⟨fun h ↦ absurd h (by simp), ?_⟩ }
  · intro hother
    exact ⟨rfl, hall, told, info, rfl, htold, Except.ok.inj hother ▸ hidentity⟩
  · rintro ⟨-, -, q, info', hq, hinfo', hother⟩
    obtain rfl := Option.some.inj hq
    rw [← Query.judge_eq_ok_iff, Query.judge_eq_ok_iff.mpr htold] at hinfo'
    obtain rfl := Except.ok.inj hinfo'
    exact hidentity.symm.trans hother
  · rintro ⟨q, hq, hfails⟩
    obtain rfl : named = q := Option.some.inj hq
    obtain ⟨data, hdata⟩ := hall named (by simp)
    rw [← Query.judge_eq_error_iff, Query.judge_eq_ok_iff.mpr hdata] at hfails
    exact absurd hfails (by simp)

/-- **Every enrolment** is like this, whatever comes back. -/
theorem enrols_enrol (bus : Bus σ) (rack : Rack σ) (address : Address) (side : Side)
    (pause : UInt32) :
    ∃ queries, Enrols address side pause bus queries (bus.enrol rack address side pause).1
      (bus.enrol rack address side pause).2 := by
  obtain ⟨told, hcommand, hinfo, hsends⟩ := bus.sends_first rack address side pause
  rw [enrol]
  generalize bus.exchange rack address .deviceInfo [] = result at hinfo hsends ⊢
  obtain ⟨_ | info, first⟩ := result
  · exact ⟨_, hsends.fails [] (by simp) (Query.fails_of_accept hinfo)⟩
  dsimp only
  cases hidentity : Identity.decode info with
  | error e =>
    exact ⟨_, hsends.fails [] (by simp) (Query.fails_of_decode hcommand hinfo hidentity)⟩
  | ok identity =>
    have htold := Query.succeeds_of_decode hinfo hidentity
    obtain ⟨configured, hcommand, hconfigured, hsends⟩ :=
      hsends.next (List.cons_ne_nil _ _) .configure [] (Nat.zero_le _) rfl
    generalize (first.pause rack pause).exchange rack address .configure [] = result
      at hconfigured hsends ⊢
    obtain ⟨_ | settled, second⟩ := result
    · exact ⟨_, hsends.fails [told] (by simpa using ⟨info, htold⟩)
        (Query.fails_of_accept hconfigured)⟩
    dsimp only
    replace hconfigured := Query.succeeds_of_accept (by rw [hcommand]; decide) hconfigured
    obtain ⟨named, hcommand, hnamed, hsends⟩ :=
      hsends.next (List.cons_ne_nil _ _) .setAddress [address.value, side.code]
        (show 2 ≤ 256 by decide) rfl
    generalize (second.pause rack pause).exchange rack address .setAddress _ = result
      at hnamed hsends ⊢
    obtain ⟨_ | data, third⟩ := result
    · exact ⟨_, hsends.fails [told, configured]
        (by simpa using ⟨⟨info, htold⟩, settled, hconfigured⟩) (Query.fails_of_accept hnamed)⟩
    replace hnamed := Query.succeeds_of_accept (by rw [hcommand]; decide) hnamed
    exact ⟨_, hsends.brings htold (by simpa using ⟨⟨settled, hconfigured⟩, data, hnamed⟩) hidentity⟩

end Enrol

end Bus

end RackBus

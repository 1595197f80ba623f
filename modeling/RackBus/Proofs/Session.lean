import RackBus.Proofs.Conduct
import RackBus.Proofs.Enrolment
import RackBus.Simulation.Script

/-!
# Requests and their answers

An answer that comes late, twice or out of order must not be taken for the answer to another
request.  This file says how far the numbers of the telegrams prevent it: until they come round
again.

* A `Call` is an exchange or a broadcast, and `Bus.session` are any number of them, one after the
  other.
* `Honest` says of a trace that nothing came back but what modules have answered to requests that
  were sent before, whenever and however often.
* `Bus.Follows` ties the sequence number and the requests in the trace to the calls.
* `Bus.Matched` is what can be relied on in every call, and `Bus.matched_session` says so of every
  session.
-/

set_option autoImplicit false

namespace RackBus

universe u

/-! ## Calls -/

/-- Something that is sent over the bus. -/
inductive Call where
  /-- A request to one module. -/
  | exchange (address : Address) (command : Command) (payload : List UInt8)
  /-- A request to all modules. -/
  | broadcast (command : Command) (payload : List UInt8)
  deriving DecidableEq

namespace Call

/-- Who is meant. -/
def destination : Call → Address
  | exchange address _ _ => address
  | broadcast _ _ => .broadcast

/-- What is asked for. -/
def command : Call → Command
  | exchange _ command _ => command
  | broadcast command _ => command

/-- The bytes that go with it. -/
def payload : Call → List UInt8
  | exchange _ _ payload => payload
  | broadcast _ payload => payload

/-- Is it short enough to be sent? -/
def isSent (c : Call) : Bool := c.payload.length ≤ Telegram.payloadLimit

/-- What is sent for the call at a position of a session. -/
def telegram (c : Call) (position : Nat) : Telegram :=
  ⟨c.destination, .core, c.command.code, UInt16.ofNat position, c.payload⟩

end Call

namespace Bus

variable {σ : Type u} (bus : Bus σ) (rack : Rack σ)

/-- One call.  A broadcast brings no payload. -/
def call : Call → Except Failure (List UInt8) × Bus σ
  | .exchange address command payload => bus.exchange rack address command payload
  | .broadcast command payload =>
    match bus.broadcast rack command payload with
    | (result, bus) => (result.map fun _ ↦ [], bus)

/-- Calls, one after the other. -/
def session (calls : List Call) : Bus σ := calls.foldl (fun bus c ↦ (bus.call rack c).2) bus

theorem session_append (first second : List Call) :
    bus.session rack (first ++ second) = (bus.session rack first).session rack second :=
  List.foldl_append

/-! ### What a call does -/

/-- Every call takes a number, whether it is sent or not. -/
theorem sequence_call (c : Call) : (bus.call rack c).2.sequence = bus.sequence + 1 := by
  cases c with
  | exchange address command payload => exact bus.sequence_exchange rack address command payload
  | broadcast command payload => exact bus.sequence_broadcast rack command payload

theorem snd_call_of_isSent {c : Call} (h : c.isSent = true) {position : Nat}
    (hposition : bus.sequence = UInt16.ofNat position) :
    (bus.call rack c).2 = (bus.advance.transfer rack (c.telegram position)).2 := by
  have hp : c.payload.length ≤ Telegram.payloadLimit := of_decide_eq_true h
  rw [Call.telegram, ← hposition]
  cases c with
  | exchange address command payload => exact bus.exchange_eq_transfer rack address command hp
  | broadcast command payload => exact bus.broadcast_eq_transfer rack command hp

theorem snd_call_of_not_isSent {c : Call} (h : c.isSent = false) :
    (bus.call rack c).2 = bus.advance := by
  have hp : Telegram.payloadLimit < c.payload.length := Nat.not_le.mp (of_decide_eq_false h)
  cases c with
  | exchange address command payload =>
    have hlong : Telegram.payloadLimit < payload.length := hp
    rw [call, exchange, Telegram.request, if_pos hlong]
  | broadcast command payload =>
    have hlong : Telegram.payloadLimit < payload.length := hp
    rw [call, broadcast, Telegram.request, if_pos hlong]

/-- What a call at some position of a session sends, and what comes back for it: nothing, if it is
too long. -/
def sentFor (c : Call) (position : Nat) : List Event :=
  if c.isSent then
    [.sent (c.telegram position) (rack.transfer (c.telegram position) bus.rack).1]
  else []

theorem trace_call (c : Call) {position : Nat} (h : bus.sequence = UInt16.ofNat position) :
    (bus.call rack c).2.trace = bus.trace ++ bus.sentFor rack c position := by
  rw [sentFor]
  cases hsent : c.isSent with
  | true => rw [bus.snd_call_of_isSent rack hsent h, if_pos rfl]; rfl
  | false =>
    rw [bus.snd_call_of_not_isSent rack hsent, if_neg Bool.false_ne_true, List.append_nil]
    rfl

/-- An exchange brings a payload only if it was sent and its answer is accepted. -/
theorem accept_of_call {c : Call} {address : Address} {command : Command}
    {payload data : List UInt8} (hc : c = .exchange address command payload) {position : Nat}
    (hposition : bus.sequence = UInt16.ofNat position) (h : (bus.call rack c).1 = .ok data) :
    c.isSent = true ∧
      (c.telegram position).accept (rack.transfer (c.telegram position) bus.rack).1 = .ok data := by
  subst hc
  rw [call, exchange, Telegram.request, hposition] at h
  by_cases hlong : Telegram.payloadLimit < payload.length
  · rw [if_pos hlong] at h
    exact absurd h (by simp)
  · rw [if_neg hlong] at h
    exact ⟨decide_eq_true (Nat.not_lt.mp hlong), h⟩

end Bus

/-! ## What comes back -/

/-- The requests that a part of a trace shows. -/
def requestsIn (part : List Event) : List Telegram :=
  part.filterMap fun e ↦
    match e with
    | .sent request _ => some request
    | _ => none

/-- What comes back for a request, if anything does, is what some module has answered to this
request or to one of the earlier ones. -/
def Event.Genuine (earlier : List Telegram) : Event → Prop
  | sent request (.ok (some t)) =>
    ∃ asked ∈ earlier ++ [request], ∃ accepted payload, t = asked.answer accepted payload
  | _ => True

/-- In a trace, nothing comes back but answers to requests that were sent before.  They may be late,
and come twice or out of order. -/
structure Honest (events : List Event) : Prop where
  genuine : ∀ (i : Nat) (h : i < events.length), events[i].Genuine (requestsIn (events.take i))

instance (earlier : List Telegram) : ∀ e : Event, Decidable (e.Genuine earlier)
  | .sent request (.ok (some t)) =>
    decidable_of_iff
      (∃ asked ∈ earlier ++ [request], ∃ accepted, t = asked.answer accepted t.payload)
      ⟨fun ⟨asked, hasked, accepted, h⟩ ↦ ⟨asked, hasked, accepted, t.payload, h⟩,
        fun ⟨asked, hasked, accepted, _, h⟩ ↦ ⟨asked, hasked, accepted, h ▸ rfl⟩⟩
  | .sent _ (.ok none) | .sent _ (.error _) | .sensed .. | .drove .. | .loaded ..
  | .startedDriver .. | .exchanged .. | .indicated .. | .paused .. => isTrue trivial

instance (events : List Event) : Decidable (Honest events) :=
  decidable_of_iff
    (∀ (i : Nat) (h : i < events.length), events[i].Genuine (requestsIn (events.take i)))
    ⟨Honest.mk, Honest.genuine⟩

theorem Command.code_injective {c c' : Command} (h : c.code = c'.code) : c = c' := by
  have hsame := congrArg Command.ofCode h
  rw [ofCode_code, ofCode_code] at hsame
  exact Except.ok.inj hsame

/-- **What is accepted** is an accepting answer to a request with the same destination, number and
command. -/
theorem Telegram.eq_of_accept {request other : Telegram} {c c' : Command}
    (hrequest : request.command = c.code) (hother : other.command = c'.code) {accepted : Bool}
    {payload data : List UInt8}
    (h : request.accept (.ok (some (other.answer accepted payload))) = .ok data) :
    other.destination = request.destination ∧ other.sequence = request.sequence ∧ c' = c ∧
      accepted = true ∧ payload = data := by
  have hmasked := masked_answer hother accepted payload
  have haccepted := isAccepted_answer hother accepted payload
  rw [accept] at h
  split at h
  · exact absurd h (by simp)
  · rename_i hanswers
    split at h
    · exact absurd h (by simp)
    · rename_i htaken
      rw [haccepted, Bool.not_eq_true', Bool.not_eq_false] at htaken
      rw [Bool.not_eq_true', Bool.not_eq_false, answers, Bool.and_eq_true, Bool.and_eq_true,
        beq_iff_eq, beq_iff_eq, beq_iff_eq, hmasked, hrequest] at hanswers
      obtain ⟨⟨hsource, hsequence⟩, hcode⟩ := hanswers
      exact ⟨hsource, hsequence, Command.code_injective hcode, htaken, Except.ok.inj h⟩

/-! ## Sessions -/

namespace Bus

variable {σ : Type u} {bus : Bus σ} (rack : Rack σ)

/-- A bus after some calls: it has counted all of them, and every request comes from one. -/
structure Follows (bus : Bus σ) (calls : List Call) : Prop where
  sequence : bus.sequence = UInt16.ofNat calls.length
  requests : ∀ request ∈ requestsIn bus.trace,
    ∃ (j : Nat) (c : Call), calls[j]? = some c ∧ c.isSent = true ∧ request = c.telegram j

theorem follows_attach (state : σ) : (attach state).Follows [] :=
  ⟨rfl, by simp [requestsIn, attach]⟩

/-- A request that was sent before a call or in it belongs to a call of the session. -/
theorem Follows.exists_call {earlier : List Call} (h : bus.Follows earlier) {c : Call}
    (rest : List Call) {request : Telegram}
    (hrequest : request ∈ requestsIn (bus.trace ++ bus.sentFor rack c earlier.length)) :
    ∃ (j : Nat) (asked : Call), j ≤ earlier.length ∧
      (earlier ++ c :: rest)[j]? = some asked ∧ asked.isSent = true ∧
        request = asked.telegram j := by
  rw [requestsIn, List.filterMap_append] at hrequest
  rcases List.mem_append.mp hrequest with hpast | hnow
  · obtain ⟨j, asked, hj, hasked, rfl⟩ := h.requests request hpast
    obtain ⟨hlt, -⟩ := List.getElem?_eq_some_iff.mp hj
    exact ⟨j, asked, Nat.le_of_lt hlt, (List.getElem?_append_left hlt).trans hj, hasked, rfl⟩
  · rw [sentFor] at hnow
    split at hnow
    · rename_i hsent
      obtain rfl := List.mem_singleton.mp hnow
      refine ⟨earlier.length, c, Nat.le_refl _, ?_, hsent, rfl⟩
      rw [List.getElem?_append_right (Nat.le_refl _), Nat.sub_self]
      rfl
    · exact absurd hnow List.not_mem_nil

theorem Follows.call {calls : List Call} (h : bus.Follows calls) (c : Call) :
    (bus.call rack c).2.Follows (calls ++ [c]) := by
  constructor
  · rw [sequence_call, h.sequence, List.length_append, List.length_singleton, UInt16.ofNat_add]
    rfl
  · intro request hrequest
    rw [bus.trace_call rack c h.sequence] at hrequest
    obtain ⟨j, asked, -, hasked⟩ := h.exists_call rack [] hrequest
    exact ⟨j, asked, hasked⟩

/-- **Every session** counts its calls. -/
theorem Follows.session {earlier : List Call} (h : bus.Follows earlier) (calls : List Call) :
    (bus.session rack calls).Follows (earlier ++ calls) := by
  induction calls generalizing bus earlier with
  | nil => simpa [Bus.session] using h
  | cons c calls ih =>
    have hrest := ih (h.call rack c)
    rw [List.append_assoc, List.singleton_append] at hrest
    exact hrest

/-- The trace of a session begins with what was there before. -/
theorem exists_trace_session (bus : Bus σ) (calls : List Call) :
    ∃ more, (bus.session rack calls).trace = bus.trace ++ more := by
  induction calls generalizing bus with
  | nil => exact ⟨[], (List.append_nil _).symm⟩
  | cons c calls ih =>
    obtain ⟨more, hmore⟩ := ih (bus.call rack c).2
    have hcall := bus.trace_call rack c UInt16.ofNat_toNat.symm
    rw [hcall, List.append_assoc] at hmore
    exact ⟨_, hmore⟩

/-- What can be relied on in the call at a position of a session, before which the bus is as
given. -/
structure Matched (bus : Bus σ) (rack : Rack σ) (calls : List Call) (n : Nat) (c : Call) :
    Prop where
  /-- The call takes the number of its position, whether it is sent or not. -/
  sequence : bus.sequence.toNat = n % 65536
  /-- It is sent with this number, unless it is too long. -/
  trace : (bus.call rack c).2.trace = bus.trace ++ bus.sentFor rack c n
  /-- A payload that an exchange brings is that of an accepting answer to a request with the same
  address and the same command.  The call that sent it had the same number. -/
  payload : ∀ address command payload data, c = .exchange address command payload →
    (bus.call rack c).1 = .ok data →
      ∃ (j : Nat) (earlier : Call), j ≤ n ∧ j % 65536 = n % 65536 ∧ calls[j]? = some earlier ∧
        earlier.isSent = true ∧ earlier.destination = address ∧ earlier.command = command ∧
        (rack.transfer (c.telegram n) bus.rack).1 =
          .ok (some ((earlier.telegram j).answer true data))

/-- What comes back for a call is genuine, if nothing else ever came back in the session. -/
theorem genuine_of_honest {c : Call} {n : Nat} {rest : List Call}
    (hsequence : bus.sequence = UInt16.ofNat n) (hsent : c.isSent = true)
    (h : Honest (bus.session rack (c :: rest)).trace) :
    Event.Genuine (requestsIn bus.trace)
      (.sent (c.telegram n) (rack.transfer (c.telegram n) bus.rack).1) := by
  obtain ⟨more, hmore⟩ := exists_trace_session rack (bus.call rack c).2 rest
  have htrace : (bus.session rack (c :: rest)).trace =
      bus.trace ++ .sent (c.telegram n) (rack.transfer (c.telegram n) bus.rack).1 :: more := by
    rw [bus.trace_call rack c hsequence, sentFor, if_pos hsent, List.append_assoc] at hmore
    exact hmore
  rw [htrace] at h
  simpa using h.genuine bus.trace.length (by simp)

/-- A call is matched on every bus that follows the calls before it. -/
theorem Follows.matched {earlier rest : List Call} {c : Call} (h : bus.Follows earlier)
    (hhonest : Honest (bus.session rack (c :: rest)).trace) :
    Matched bus rack (earlier ++ c :: rest) earlier.length c where
  sequence := by rw [h.sequence, UInt16.toNat_ofNat']
  trace := bus.trace_call rack c h.sequence
  payload := by
    rintro address command payload data hc hok
    obtain ⟨hsent, haccept⟩ := bus.accept_of_call rack hc h.sequence hok
    have hgenuine := genuine_of_honest rack h.sequence hsent hhonest
    match hanswer : (rack.transfer (c.telegram earlier.length) bus.rack).1 with
    | .error e => rw [hanswer] at haccept; exact absurd haccept (by simp [Telegram.accept])
    | .ok none => rw [hanswer] at haccept; exact absurd haccept (by simp [Telegram.accept])
    | .ok (some t) =>
      rw [hanswer] at haccept hgenuine
      obtain ⟨request, hrequest, accepted, sent, rfl⟩ := hgenuine
      have hsentFor : requestsIn (bus.trace ++ bus.sentFor rack c earlier.length) =
          requestsIn bus.trace ++ [c.telegram earlier.length] := by
        rw [sentFor, if_pos hsent, requestsIn, List.filterMap_append]
        rfl
      obtain ⟨j, asked, hj, hget, hasked, rfl⟩ := h.exists_call rack rest (hsentFor ▸ hrequest)
      obtain ⟨hdestination, hsequence, hcommand, rfl, rfl⟩ :=
        Telegram.eq_of_accept rfl rfl haccept
      have hmod : j % 65536 = earlier.length % 65536 := by
        have hnumber := congrArg UInt16.toNat hsequence
        rwa [Call.telegram, Call.telegram, UInt16.toNat_ofNat', UInt16.toNat_ofNat'] at hnumber
      subst hc
      exact ⟨j, asked, hj, hmod, hget, hasked, hdestination, hcommand, rfl⟩

/-- **No stale answer is accepted.**  In every session over an honest bus, every call takes the
number of its position, and an exchange brings a payload only from a module that accepted a request
with the same address and command, sent in this call or some multiple of 65536 calls before. -/
theorem matched_session (rack : Rack σ) (state : σ) (calls : List Call)
    (hhonest : Honest ((attach state).session rack calls).trace) {n : Nat} {c : Call}
    (hn : calls[n]? = some c) :
    Matched ((attach state).session rack (calls.take n)) rack calls n c := by
  obtain ⟨hlt, rfl⟩ := List.getElem?_eq_some_iff.mp hn
  have hsplit : calls.take n ++ calls[n] :: calls.drop (n + 1) = calls := by
    rw [← List.drop_eq_getElem_cons hlt, List.take_append_drop]
  have hlength : (calls.take n).length = n := List.length_take_of_le (Nat.le_of_lt hlt)
  have hfollows : ((attach state).session rack (calls.take n)).Follows (calls.take n) :=
    (follows_attach state).session rack (calls.take n)
  rw [← hsplit, session_append] at hhonest
  have hmatched := hfollows.matched rack hhonest
  rwa [hsplit, hlength] at hmatched

/-- Calls of which the third is a broadcast, and the fourth is too long. -/
def disturbedCalls : List Call :=
  [.exchange ⟨32⟩ .deviceInfo [], .exchange ⟨33⟩ .deviceInfo [], .broadcast .startExchange [],
    .exchange ⟨32⟩ .writeSerial (List.replicate 257 0), .exchange ⟨32⟩ .deviceInfo []]

/-- The answers to the calls that are sent: the second gets the answer to the first once more. -/
def disturbedAnswers : List ScriptedAnswer :=
  [.answer true [1] none none none none, .answer true [1] (some ⟨32⟩) none (some 0) none, .none,
    .answer true [7] none none none none]

theorem matched_session_disturbed :
    Honest ((attach disturbedAnswers).session ScriptedAnswer.rack disturbedCalls).trace ∧
      disturbedCalls[4]? = some (.exchange ⟨32⟩ .deviceInfo []) ∧
      Matched ((attach disturbedAnswers).session ScriptedAnswer.rack (disturbedCalls.take 4))
        ScriptedAnswer.rack disturbedCalls 4 (.exchange ⟨32⟩ .deviceInfo []) ∧
      (((attach disturbedAnswers).session ScriptedAnswer.rack (disturbedCalls.take 1)).call
        ScriptedAnswer.rack (.exchange ⟨33⟩ .deviceInfo [])).1 = .error (.unexpectedAnswer 0x4003) ∧
      (((attach disturbedAnswers).session ScriptedAnswer.rack (disturbedCalls.take 4)).call
        ScriptedAnswer.rack (.exchange ⟨32⟩ .deviceInfo [])).1.toOption = some [7] := by
  have hhonest :
      Honest ((attach disturbedAnswers).session ScriptedAnswer.rack disturbedCalls).trace := by
    decide +kernel
  have hget : disturbedCalls[4]? = some (.exchange ⟨32⟩ .deviceInfo []) := rfl
  refine ⟨hhonest, hget, ?_, rfl, by decide +kernel⟩
  exact matched_session ScriptedAnswer.rack disturbedAnswers disturbedCalls hhonest hget

end Bus

end RackBus

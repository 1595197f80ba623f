import RackBus.Proofs.Encoding
import RackBus.Simulation.Chain
import RackBus.Survey.Enrolment

/-!
# Enrolling a simulated module

The core speaks to a module that has no address by calling it by the address it is to take.  This
file follows such a conversation with the simulated rack.

* `Chains.Hears` says that a telegram to an address that nobody has reaches a given module, and
  `Chains.Hears.transfer_eq` what becomes of the telegram.
* `enrol_of_ignoring` and `enrol_of_answering` are the two outcomes of an enrolment: the module
  ignores the first request and nothing happens, or it answers all three and takes the address.
-/

set_option autoImplicit false

namespace RackBus

/-! ## Answers -/

/-- Is the telegram not noticed at all? -/
def Misbehaviour.isIgnoring : Misbehaviour → Bool
  | .silent | .absent => true
  | _ => false

/-- The bit of an answer does not hide what was asked for. -/
theorem Telegram.masked_answer {request : Telegram} {c : Command} (h : request.command = c.code)
    (accepted : Bool) (payload : List UInt8) :
    (request.answer accepted payload).command &&& Command.requestMask = c.code := by
  simp only [answer, h]
  cases accepted <;> cases c <;> decide

theorem Telegram.isAccepted_answer {request : Telegram} {c : Command} (h : request.command = c.code)
    (accepted : Bool) (payload : List UInt8) :
    (request.answer accepted payload).isAccepted = accepted := by
  simp only [isAccepted, answer, h]
  cases accepted <;> cases c <;> decide

/-- The core accepts the answer of a module that does what it is asked. -/
theorem Telegram.accept_answer (request : Telegram) {c : Command} (hc : request.command = c.code)
    (payload : List UInt8) :
    request.accept (.ok (some (request.answer true payload))) = .ok payload := by
  have hanswers : (request.answer true payload).answers request = true := by
    rw [answers, masked_answer hc, hc]
    simp [answer]
  simp only [accept, hanswers, isAccepted_answer hc, Bool.not_true, Bool.false_eq_true, if_false]
  rfl

namespace SimulatedModule

/-- A module that ignores a telegram has one less to ignore. -/
def skip (m : SimulatedModule) : SimulatedModule := { m with misbehaviours := m.misbehaviours.tail }

/-- A module that ignores a telegram does not change otherwise, and the core gets no payload. -/
theorem receive_of_ignoring {m : SimulatedModule} {x : Misbehaviour} {rest : List Misbehaviour}
    (hm : m.misbehaviours = x :: rest) (hx : x.isIgnoring = true) (request : Telegram) :
    (m.receive request).2 = m.skip ∧
      request.accept (m.receive request).1 = .error .noTransport := by
  rw [receive, hm, List.headD_cons]
  cases x with
  | silent => exact ⟨by rw [skip, hm], rfl⟩
  | absent => exact ⟨by rw [skip, hm], rfl⟩
  | _ => exact absurd hx (by decide)

/-- A module that has nothing more to get wrong does what it is asked. -/
theorem receive_of_answering {m : SimulatedModule} (hm : m.misbehaviours = []) (request : Telegram)
    {c : Command} (hc : request.command = c.code) :
    (m.receive request).2 = m.obey request ∧
      request.accept (m.receive request).1 = .ok (m.reply request) := by
  obtain ⟨identity, address, misbehaviours⟩ := m
  obtain rfl : misbehaviours = [] := hm
  exact ⟨rfl, request.accept_answer hc _⟩

/-- What a module says about itself, and the address it listens to. -/
def card (m : SimulatedModule) : Identity × Option Address := (m.identity, m.address)

/-- A module takes another address only if it is told to. -/
theorem card_receive (m : SimulatedModule) {request : Telegram}
    (h : request.command ≠ Command.setAddress.code) : (m.receive request).2.card = m.card := by
  have hobey (n : SimulatedModule) : n.obey request = n := if_neg h
  rw [receive]
  cases m.misbehaviours.headD .ok <;> simp only [hobey, card]

theorem card_overhear (m : SimulatedModule) {request : Telegram}
    (h : request.command ≠ Command.setAddress.code) : (m.overhear request).card = m.card := by
  rw [overhear]
  split
  · exact m.card_receive h
  · rfl

end SimulatedModule

/-! ## The module that a telegram reaches -/

namespace Chains

/-- On this rack a telegram to `address` reaches the module `m`, the nearest one on `side` without
an address, with the modules `near` before and `far` behind it. -/
structure Hears (c : Chains) (address : Address) (side : Side) (near : List SimulatedModule)
    (m : SimulatedModule) (far : List SimulatedModule) : Prop where
  /-- Only one module is meant. -/
  single : address.isBroadcast = false
  /-- The modules of the side listen. -/
  enabled : c.enabled? = some side
  chain : c.chain side = near ++ m :: far
  /-- The modules before it have an address. -/
  near_address : ∀ n ∈ near, n.address ≠ none
  /-- It has none. -/
  address_eq : m.address = none
  /-- Nobody has the address yet. -/
  free : ∀ s, ∀ n ∈ c.chain s, n.address ≠ some address

@[simp] theorem chain_withChain_self (c : Chains) (side : Side) (modules : List SimulatedModule) :
    (c.withChain side modules).chain side = modules := by
  cases side <;> rfl

@[simp] theorem chain_withChain_other (c : Chains) (side : Side) (modules : List SimulatedModule) :
    (c.withChain side modules).chain side.other = c.chain side.other := by
  cases side <;> rfl

theorem withChain_chain (c : Chains) (side : Side) : c.withChain side (c.chain side) = c := by
  cases side <;> rfl

theorem chain_announce (c : Chains) (request : Telegram) (side : Side) :
    (c.announce request).chain side =
      if c.heedsAll then (c.chain side).map fun m ↦ m.overhear request else c.chain side := by
  rw [announce]
  cases c.heedsAll <;> cases side <;> rfl

/-- A telegram to all modules leaves their addresses alone, unless it tells them to take one. -/
theorem card_transfer_of_isBroadcast (c : Chains) (request : Telegram)
    (hall : request.destination.isBroadcast = true)
    (h : request.command ≠ Command.setAddress.code) (side : Side) :
    ((c.transfer request).2.chain side).map SimulatedModule.card =
      (c.chain side).map SimulatedModule.card := by
  rw [transfer, if_pos hall]
  split
  · rfl
  · rw [chain_announce]
    split
    · rw [List.map_map]
      exact List.map_congr_left fun m _ ↦ m.card_overhear h
    · rfl

section Hears

variable {c : Chains} {address : Address} {side : Side} {near far : List SimulatedModule}
  {m : SimulatedModule}

/-- The telegram finds the module. -/
theorem Hears.responder?_eq (h : c.Hears address side near m far) :
    c.responder? address = some (side, near.length) := by
  have hholder (s : Side) : c.holder? s address = none := by
    rw [holder?, Option.map_eq_none_iff, List.findIdx?_eq_none_iff]
    intro n hn
    simpa using h.free s n hn
  have hwaiting : c.waiting? side = some (side, near.length) := by
    rw [waiting?, h.chain, List.findIdx?_append, List.findIdx?_eq_none_iff.mpr]
    · simp [List.findIdx?_cons, h.address_eq]
    · intro n hn
      simpa [Option.isSome_iff_ne_none] using h.near_address n hn
  rw [responder?, hholder, hholder, h.enabled]
  exact hwaiting

/-- **What becomes of a telegram** that reaches the module. -/
theorem Hears.transfer_eq (h : c.Hears address side near m far) (request : Telegram)
    (hd : request.destination = address) :
    c.transfer request = ((m.receive request).1,
      c.withChain side (near ++ (m.receive request).2 :: far)) := by
  rw [transfer, hd, h.single, if_neg (by simp), h.responder?_eq]
  simp only [h.chain, List.getElem?_append_right (Nat.le_refl _), Nat.sub_self,
    List.getElem?_cons_zero]
  rw [List.set_append_right _ _ (Nat.le_refl _), Nat.sub_self, List.set_cons_zero]

end Hears

end Chains

/-! ## The conversation -/

namespace Bus

/-- The request that is sent to a module. -/
abbrev requestTo (bus : Bus Chains) (address : Address) (command : Command)
    (payload : List UInt8) : Telegram :=
  ⟨address, .core, command.code, bus.sequence, payload⟩

theorem exchange_eq (bus : Bus Chains) (address : Address) (command : Command)
    (payload : List UInt8) (hp : payload.length ≤ Telegram.payloadLimit) :
    ∃ after, bus.exchange Chains.rack address command payload =
      ((bus.requestTo address command payload).accept
        (bus.rack.transfer (bus.requestTo address command payload)).1, after) ∧
      after.rack = (bus.rack.transfer (bus.requestTo address command payload)).2 := by
  rw [exchange, Telegram.request, if_neg (Nat.not_lt.mpr hp)]
  exact ⟨_, rfl, rfl⟩

variable {bus : Bus Chains} {address : Address} {side : Side} {near far : List SimulatedModule}
  {m : SimulatedModule}

/-- A module that ignores requests ignores the first one, and that is all. -/
theorem enrol_of_ignoring (h : bus.rack.Hears address side near m far) {x : Misbehaviour}
    {rest : List Misbehaviour} (hm : m.misbehaviours = x :: rest) (hx : x.isIgnoring = true)
    (pause : UInt32) :
    ∃ after, bus.enrol Chains.rack address side pause = (.error .noTransport, after) ∧
      after.rack = bus.rack.withChain side (near ++ m.skip :: far) := by
  obtain ⟨after, hexchange, hrack⟩ := bus.exchange_eq address .deviceInfo []
    (Nat.zero_le _)
  obtain ⟨hskip, haccept⟩ :=
    SimulatedModule.receive_of_ignoring hm hx (bus.requestTo address .deviceInfo [])
  rw [h.transfer_eq _ rfl] at hexchange hrack
  rw [haccept] at hexchange
  rw [hskip] at hrack
  exact ⟨after, by rw [enrol, hexchange], hrack⟩

/-- A module that answers accepts a request. -/
theorem exchange_of_answering (h : bus.rack.Hears address side near m far)
    (hm : m.misbehaviours = []) (command : Command) (payload : List UInt8)
    (hp : payload.length ≤ Telegram.payloadLimit) :
    ∃ after, bus.exchange Chains.rack address command payload =
      (.ok (m.reply (bus.requestTo address command payload)), after) ∧
      after.rack = bus.rack.withChain side
        (near ++ m.obey (bus.requestTo address command payload) :: far) := by
  obtain ⟨after, hexchange, hrack⟩ := bus.exchange_eq address command payload hp
  obtain ⟨hobey, haccept⟩ :=
    SimulatedModule.receive_of_answering hm (bus.requestTo address command payload) rfl
  rw [h.transfer_eq _ rfl] at hexchange hrack
  rw [haccept] at hexchange
  rw [hobey] at hrack
  exact ⟨after, hexchange, hrack⟩

/-- **A module that answers** tells its identity and takes the address. -/
theorem enrol_of_answering (h : bus.rack.Hears address side near m far)
    (hm : m.misbehaviours = []) (pause : UInt32) :
    ∃ after, bus.enrol Chains.rack address side pause = (.ok m.identity, after) ∧
      after.rack = bus.rack.withChain side
        (near ++ { m with address := some address } :: far) := by
  have hsame : bus.rack.withChain side (near ++ m :: far) = bus.rack := by
    rw [← h.chain, Chains.withChain_chain]
  -- the first two requests leave the rack as it is, so the module hears the next one as well
  obtain ⟨told, hinfo, hrack₁⟩ := exchange_of_answering h hm .deviceInfo []
    (Nat.zero_le _)
  have hrack₁ : (told.pause Chains.rack pause).rack = bus.rack := hrack₁.trans hsame
  obtain ⟨configured, hconfigure, hrack₂⟩ :=
    exchange_of_answering (hrack₁.symm ▸ h) hm .configure []
    (Nat.zero_le _)
  have hrack₂ : (configured.pause Chains.rack pause).rack = bus.rack := by
    rw [hrack₁] at hrack₂
    exact hrack₂.trans hsame
  obtain ⟨after, haddress, hrack₃⟩ := exchange_of_answering (hrack₂.symm ▸ h) hm .setAddress
    [address.value, side.code] (show 2 ≤ 256 by decide)
  rw [hrack₂] at hrack₃
  refine ⟨after, ?_, hrack₃⟩
  have hreply : m.reply (bus.requestTo address .deviceInfo []) = m.identity.encode := rfl
  rw [enrol, hinfo, hreply]
  simp only [Identity.decode_encode, hconfigure, haddress]

end Bus

end RackBus

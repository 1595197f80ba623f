import RackBus.Proofs.Course
import RackBus.Proofs.Session

/-!
# Rows and the enrolments that they come from

A module that took an address but got no row would be lost: nobody speaks to it, and it does not
listen to another address any more.  This file says that it cannot happen, and that no row comes
from anywhere else.

* A `Query` is a request with what came back for it, and `queriesIn` are those that a part of a
  trace shows.  `completed` are the enrolments that queries complete, as one can tell from them
  alone: three in a row are accepted, for the identity, the configuration and the address.
* `Bus.completed_enrol` is about one enrolment, whatever its result is.
* `Site.Admits` is what a step of a survey does about the roster and the addresses, given its
  queries, and `Site.admits_step` says so of every step.
* `Site.Registers` is about a whole survey: its rows are those of the modules that its queries have
  enrolled.  `Site.registers` says so of every survey on every rack.
-/

set_option autoImplicit false

namespace RackBus

universe u

/-! ## Queries -/

/-- A request, with what came back for it. -/
structure Query where
  /-- What was asked. -/
  request : Telegram
  /-- What came back. -/
  answer : Except Failure (Option Telegram)

namespace Query

/-- The payload of the answer, if the request has a command and was accepted. -/
def accepted? (q : Query) (command : Command) : Option (List UInt8) :=
  if q.request.command = command.code then (q.request.accept q.answer).toOption else none

theorem accepted?_of_eq {q : Query} {command : Command}
    (hcommand : q.request.command = command.code) {result : Except Failure (List UInt8)}
    (hresult : result = q.request.accept q.answer) : q.accepted? command = result.toOption := by
  rw [accepted?, if_pos hcommand, hresult]

theorem accepted?_of_ne {q : Query} {command other : Command}
    (hcommand : q.request.command = command.code) (hne : command ≠ other) :
    q.accepted? other = none :=
  if_neg fun h ↦ hne (Command.code_injective (hcommand.symm.trans h))

end Query

/-- The query that an event is, if it is one. -/
def Event.query? : Event → Option Query
  | sent request answer => some ⟨request, answer⟩
  | _ => none

/-- The queries that a part of a trace shows. -/
def queriesIn (part : List Event) : List Query := part.filterMap Event.query?

@[simp] theorem queriesIn_append (first second : List Event) :
    queriesIn (first ++ second) = queriesIn first ++ queriesIn second :=
  List.filterMap_append

/-- Setting a line is no query. -/
theorem Event.query?_eq_none_of_wiring {e : Event} (h : e.serves .wiring = true) :
    e.query? = none := by
  cases e with
  | sent request answer =>
    have htask : request.task? = some .wiring := by simpa [serves] using h
    obtain ⟨c, -, hc⟩ := Option.map_eq_some_iff.mp htask
    cases c <;> exact absurd hc (by simp [Command.task])
  | _ => rfl

theorem queriesIn_eq_nil {part : List Event} (h : ∀ e ∈ part, e.query? = none) :
    queriesIn part = [] :=
  List.filterMap_eq_nil_iff.mpr h

/-! ## Enrolments that are completed -/

/-- The enrolment that the first three of some queries complete: its address, and what the module
says about itself.  All three are accepted and go to this address: the module tells its identity,
takes over its configuration, and takes the address. -/
def completed? : List Query → Option (Address × Except Failure Identity)
  | told :: configured :: named :: _ =>
    let address := told.request.destination
    match told.accepted? .deviceInfo, configured.accepted? .configure,
      named.accepted? .setAddress with
    | some info, some _, some _ =>
      if configured.request.destination = address ∧ named.request.destination = address ∧
          named.request.payload.head? = some address.value then
        some (address, Identity.decode info)
      else none
    | _, _, _ => none
  | _ => none

/-- The enrolments that queries complete, in order. -/
def completed (queries : List Query) : List (Address × Except Failure Identity) :=
  queries.tails.filterMap completed?

@[simp] theorem completed_nil : completed [] = [] := rfl

theorem completed_cons (q : Query) (queries : List Query) :
    completed (q :: queries) = (completed? (q :: queries)).toList ++ completed queries := by
  rw [completed, List.tails, List.filterMap_cons]
  cases completed? (q :: queries) <;> rfl

/-- **Where a new enrolment begins**, nothing is completed by queries from before and after it
together. -/
theorem completed_append (queries : List Query) {more : List Query}
    (hmore : ∀ q ∈ more.head?, q.request.command = Command.deviceInfo.code) :
    completed (queries ++ more) = completed queries ++ completed more := by
  have hnew {q : Query} {rest : List Query} (h : more = q :: rest) {c : Command}
      (hne : Command.deviceInfo ≠ c) : q.accepted? c = none :=
    Query.accepted?_of_ne (hmore q (by simp [h])) hne
  induction queries with
  | nil => rfl
  | cons first rest ih =>
    have hfirst : completed? (first :: (rest ++ more)) = completed? (first :: rest) := by
      match rest, more with
      | _ :: _ :: _, _ => rfl
      | [_], [] => rfl
      | [_], third :: _ => simp [completed?, hnew rfl (c := .setAddress) (by decide)]
      | [], [] => rfl
      | [], [_] => rfl
      | [], second :: _ :: _ => simp [completed?, hnew rfl (c := .configure) (by decide)]
    rw [List.cons_append, completed_cons, completed_cons, hfirst, ih, List.append_assoc]

/-! ## One enrolment -/

/-- Queries of one enrolment: the first ones of three requests to one address, each made when the
one before was accepted. -/
structure Handshake (address : Address) (queries : List Query) : Prop where
  destination : ∀ q ∈ queries, q.request.destination = address
  commands : queries.map (fun q ↦ q.request.command) <+:
    [Command.deviceInfo, .configure, .setAddress].map Command.code
  accepted : ∀ q ∈ queries.dropLast, ∃ data, q.request.accept q.answer = .ok data

theorem Handshake.command_head {address : Address} {queries : List Query}
    (h : Handshake address queries) :
    ∀ q ∈ queries.head?, q.request.command = Command.deviceInfo.code := by
  intro q hq
  obtain ⟨rest, rfl⟩ := List.head?_eq_some_iff.mp hq
  exact (List.cons_prefix_cons.mp h.commands).1

/-- Three queries of one enrolment complete it if the last one is accepted as well. -/
theorem Handshake.completed_eq {address : Address} {told configured named : Query}
    (h : Handshake address [told, configured, named]) {info : List UInt8} {identity : Identity}
    (hinfo : told.request.accept told.answer = .ok info)
    (hidentity : Identity.decode info = .ok identity)
    (hpayload : named.request.payload.head? = some address.value) :
    completed [told, configured, named] =
      ((named.request.accept named.answer).toOption.map fun _ ↦ (address, .ok identity)).toList := by
  have hdestination := h.destination
  have hcommands := h.commands.eq_of_length rfl
  obtain ⟨settled, hconfigure⟩ := h.accepted configured (by simp)
  simp only [List.map_cons, List.map_nil, List.cons.injEq, and_true] at hcommands
  have htold := Query.accepted?_of_eq hcommands.1 hinfo.symm
  have hconfigured := Query.accepted?_of_eq hcommands.2.1 hconfigure.symm
  have hnamed := Query.accepted?_of_eq hcommands.2.2 rfl
  -- the windows behind the first one are too short
  have hwindow : completed [told, configured, named] =
      (completed? [told, configured, named]).toList := by
    rw [completed_cons]
    exact List.append_nil _
  rw [hwindow, completed?, htold, hconfigured, hnamed]
  cases named.request.accept named.answer with
  | error e => rfl
  | ok data =>
    simp [hdestination told, hdestination configured, hdestination named, hpayload, hidentity,
      Except.toOption]

namespace Bus

variable {σ : Type u}

theorem trace_pause (bus : Bus σ) (rack : Rack σ) (ms : UInt32) :
    (bus.pause rack ms).trace = bus.trace ++ [.paused ms] := rfl

/-- A request that is not too long is a query, and its result is what the core makes of it. -/
theorem exists_query_exchange (bus : Bus σ) (rack : Rack σ) (address : Address)
    (command : Command) (payload : List UInt8) (hp : payload.length ≤ Telegram.payloadLimit) :
    ∃ q : Query, q.request = ⟨address, .core, command.code, bus.sequence, payload⟩ ∧
      (bus.exchange rack address command payload).1 = q.request.accept q.answer ∧
      (bus.exchange rack address command payload).2.trace =
        bus.trace ++ [.sent q.request q.answer] := by
  rw [exchange, Telegram.request, if_neg (Nat.not_lt.mpr hp)]
  exact ⟨⟨_, (rack.transfer _ bus.rack).1⟩, rfl, rfl, rfl⟩

/-- **An enrolment** is a handshake, and the trace shows that it is completed exactly if it
succeeds. -/
theorem completed_enrol (bus : Bus σ) (rack : Rack σ) (address : Address) (side : Side)
    (pause : UInt32) :
    ∃ events, (bus.enrol rack address side pause).2.trace = bus.trace ++ events ∧
      queriesIn events ≠ [] ∧ Handshake address (queriesIn events) ∧
      completed (queriesIn events) =
        ((bus.enrol rack address side pause).1.toOption.map fun i ↦ (address, .ok i)).toList := by
  obtain ⟨told, htold, hinfo, htrace⟩ :=
    bus.exists_query_exchange rack address .deviceInfo [] (Nat.zero_le _)
  have hfirst : Handshake address [told] := ⟨by simp [htold], by simp [htold], by simp⟩
  rw [enrol]
  split
  · rename_i after h
    rw [h] at hinfo htrace
    exact ⟨_, htrace, List.cons_ne_nil _ _, hfirst, rfl⟩
  rename_i info first h
  rw [h] at hinfo htrace
  split
  · exact ⟨_, htrace, List.cons_ne_nil _ _, hfirst, rfl⟩
  rename_i identity hidentity
  obtain ⟨configured, hconfigured, hconfigure, htrace'⟩ :=
    (first.pause rack pause).exists_query_exchange rack address .configure [] (Nat.zero_le _)
  have hsecond : Handshake address [told, configured] :=
    ⟨by simp [htold, hconfigured], by simp [htold, hconfigured], by simp [← hinfo]⟩
  rw [trace_pause, htrace, List.append_assoc, List.append_assoc] at htrace'
  split
  · rename_i after h
    rw [h] at hconfigure htrace'
    exact ⟨_, htrace', List.cons_ne_nil _ _, hsecond, rfl⟩
  rename_i settled second h
  rw [h] at hconfigure htrace'
  obtain ⟨named, hnamed, haddress, htrace''⟩ :=
    (second.pause rack pause).exists_query_exchange rack address .setAddress
      [address.value, side.code] (show 2 ≤ 256 by decide)
  have hthird : Handshake address [told, configured, named] :=
    ⟨by simp [htold, hconfigured, hnamed], by simp [htold, hconfigured, hnamed],
      by simp [← hinfo, ← hconfigure]⟩
  rw [trace_pause, htrace', List.append_assoc, List.append_assoc] at htrace''
  have hcompleted := hthird.completed_eq hinfo.symm hidentity (by rw [hnamed]; rfl)
  rw [← haddress] at hcompleted
  split
  · rename_i after h
    rw [h] at hcompleted htrace''
    exact ⟨_, htrace'', List.cons_ne_nil _ _, hthird, hcompleted⟩
  · rename_i after h
    rw [h] at hcompleted htrace''
    exact ⟨_, htrace'', List.cons_ne_nil _ _, hthird, hcompleted⟩

end Bus

/-! ## Surveys -/

namespace Site

variable {σ : Type u}

/-- What a step of a survey does about the roster and the addresses, given the queries that it
makes. -/
structure Admits (before after : Site σ) (queries : List Query) : Prop where
  /-- A module is asked exactly if there are an address left for the side that is spoken to, and
  room for a row. -/
  asks_iff : queries ≠ [] ↔ ∃ side address, before.survey.phase = .dialogue side ∧
    before.survey.next? side = some address ∧ before.roster.isFull = false
  /-- What is asked is one enrolment under this address. -/
  handshake : ∀ side address, before.survey.phase = .dialogue side →
    before.survey.next? side = some address → Handshake address queries
  /-- An enrolment that fails changes neither the roster nor the addresses. -/
  fails : completed queries = [] →
    after.roster = before.roster ∧ ∀ side, after.survey.next? side = before.survey.next? side
  /-- If one is completed, the module was understood, it gets a row, and its address is used up. -/
  succeeds : completed queries ≠ [] → ∃ side address identity,
    completed queries = [(address, .ok identity)] ∧ before.survey.phase = .dialogue side ∧
      before.survey.next? side = some address ∧
      before.roster.append address identity = .ok after.roster ∧
      after.survey.next? side = address.beyond? side ∧
      after.survey.next? side.other = before.survey.next? side.other

section Admits

variable {before before' after after' : Site σ} {queries : List Query}

/-- Nothing changes where nothing can be asked. -/
theorem Admits.of_silent (hsilent : ∀ side address, before.survey.phase = .dialogue side →
      before.survey.next? side = some address → before.roster.isFull = true)
    (hroster : after.roster = before.roster)
    (hnext : ∀ side, after.survey.next? side = before.survey.next? side) :
    Admits before after [] where
  asks_iff := by
    refine ⟨fun h ↦ absurd rfl h, ?_⟩
    rintro ⟨side, address, hphase, hfree, hroom⟩
    exact absurd (hsilent side address hphase hfree) (by simp [hroom])
  handshake _ _ _ _ := ⟨by simp, List.nil_prefix, by simp⟩
  fails _ := ⟨hroster, hnext⟩
  succeeds h := absurd rfl h

/-- Only the roster, the next addresses and the phase matter. -/
theorem Admits.congr (h : Admits before after queries)
    (hphase : before'.survey.phase = before.survey.phase)
    (hroster : before'.roster = before.roster)
    (hnext : ∀ side, before'.survey.next? side = before.survey.next? side)
    (hroster' : after'.roster = after.roster)
    (hnext' : ∀ side, after'.survey.next? side = after.survey.next? side) :
    Admits before' after' queries where
  asks_iff := by simpa only [hphase, hroster, hnext] using h.asks_iff
  handshake := by simpa only [hphase, hnext] using h.handshake
  fails := by simpa only [hroster, hnext, hroster', hnext'] using h.fails
  succeeds := by simpa only [hphase, hroster, hnext, hroster', hnext'] using h.succeeds

end Admits

variable (site : Site σ) (rack : Rack σ) (settings : Settings)

/-- A conversation asks for a module if there are an address and room for it. -/
theorem admits_converse {side : Side} (hphase : site.survey.phase = .dialogue side) :
    ∃ events, (site.converse rack settings side).2.bus.trace = site.bus.trace ++ events ∧
      Admits site (site.converse rack settings side).2 (queriesIn events) := by
  have hside {s : Side} (hs : site.survey.phase = .dialogue s) : s = side :=
    Phase.dialogue.inj (hs.symm.trans hphase)
  rw [converse]
  split
  · rename_i hnone
    refine ⟨[], (List.append_nil _).symm, .of_silent (fun s a hs ha ↦ ?_) rfl fun _ ↦ rfl⟩
    obtain rfl := hside hs
    exact absurd (hnone.symm.trans ha) (by simp)
  rename_i address hfree
  split
  · rename_i hfull
    exact ⟨[], (List.append_nil _).symm, .of_silent (fun _ _ _ _ ↦ hfull) rfl fun _ ↦ rfl⟩
  rename_i hroom
  have hroom : site.roster.isFull = false := by simpa using hroom
  obtain ⟨events, htrace, hnonempty, hhandshake, hcompleted⟩ :=
    site.bus.completed_enrol rack address side settings.timings.enrolmentPause
  have hasks : queriesIn events ≠ [] ↔ ∃ side address, site.survey.phase = .dialogue side ∧
      site.survey.next? side = some address ∧ site.roster.isFull = false :=
    ⟨fun _ ↦ ⟨side, address, hphase, hfree, hroom⟩, fun _ ↦ hnonempty⟩
  have hsame (s : Side) (a : Address) (hs : site.survey.phase = .dialogue s)
      (ha : site.survey.next? s = some a) : Handshake a (queriesIn events) := by
    obtain rfl := hside hs
    obtain rfl : address = a := Option.some.inj (hfree.symm.trans ha)
    exact hhandshake
  split
  · rename_i identity bus henrol
    rw [henrol] at htrace hcompleted
    have happend : site.roster.append address identity =
        .ok { site.roster with modules := site.roster.modules ++ [.fresh address identity] } := by
      rw [Roster.append, if_neg (by simp [hroom])]
    rw [happend]
    refine ⟨events, htrace, hasks, hsame, fun h ↦ ?_, fun _ ↦ ?_⟩
    · exact absurd (hcompleted.symm.trans h) (by simp [Except.toOption])
    · refine ⟨side, address, identity, hcompleted, hphase, hfree, happend, ?_,
        Survey.next?_advance_other _ _⟩
      rw [Survey.next?_advance_self, hfree, Option.bind_some]
  · rename_i bus henrol
    rw [henrol] at htrace hcompleted
    exact ⟨events, htrace, hasks, hsame, fun _ ↦ ⟨rfl, fun s ↦ by cases s <;> rfl⟩,
      fun h ↦ absurd hcompleted h⟩

/-- Outside of a dialogue nothing is asked. -/
theorem admits_check (now : UInt64) :
    ∃ events, (site.check rack settings now).2.bus.trace = site.bus.trace ++ events ∧
      Admits site (site.check rack settings now).2 (queriesIn events) := by
  have hquiet (hphase : ∀ side, site.survey.phase ≠ .dialogue side) (after : Site σ)
      (hroster : after.roster = site.roster)
      (hnext : ∀ side, after.survey.next? side = site.survey.next? side) :
      Admits site after [] :=
    .of_silent (fun side _ hs _ ↦ absurd hs (hphase side)) hroster hnext
  cases hphase : site.survey.phase with
  | dialogue side =>
    rw [check, hphase]
    exact site.admits_converse rack settings hphase
  | first side | next side =>
    rw [check, hphase]
    exact ⟨[.sensed _ _], rfl, hquiet (by simp [hphase]) _ rfl fun _ ↦ rfl⟩
  | begin | pulse | settle | enable side | finished =>
    rw [check, hphase]
    exact ⟨[], (List.append_nil _).symm, hquiet (by simp [hphase]) _ rfl fun _ ↦ rfl⟩

/-- **A step of a survey** brings in what it asks for, if it succeeds, and nothing else. -/
theorem admits_step (now : UInt64) :
    ∃ events, (site.step rack settings now).2.bus.trace = site.bus.trace ++ events ∧
      Admits site (site.step rack settings now).2 (queriesIn events) := by
  obtain ⟨wires, hwires, hsilent⟩ :=
    (site.works_enterIfNew rack settings.timings now).exists_trace_eq
  obtain ⟨events, htrace, hadmits⟩ :=
    (site.enterIfNew rack settings.timings now).admits_check rack settings now
  have hquiet : queriesIn wires = [] := queriesIn_eq_nil fun e he ↦
    Event.query?_eq_none_of_wiring (by simpa using hsilent e he)
  refine ⟨wires ++ events, ?_, ?_⟩
  · rw [step_eq]
    dsimp only
    rw [bus_goTo, htrace, hwires, List.append_assoc]
  · obtain ⟨hroster, hnext⟩ := goTo_roster_next
      ((site.enterIfNew rack settings.timings now).check rack settings now).2
      ((site.enterIfNew rack settings.timings now).check rack settings now).1
    rw [queriesIn_append, hquiet, List.nil_append]
    exact hadmits.congr (site.phase_enterIfNew rack settings.timings now).symm
      (site.roster_enterIfNew rack settings.timings now).symm
      (fun side ↦ (site.next?_enterIfNew rack settings.timings now side).symm) hroster hnext

/-! ## Whole surveys -/

/-- What can be relied on in a survey: the rows are those of the modules that were enrolled. -/
structure Registers (rack : Rack σ) (settings : Settings) (times : Nat → UInt64) (site : Site σ) :
    Prop where
  /-- After any number of steps, all enrolments that the trace shows to be completed have found a
  module, and the roster has grown by the rows of these modules, in this order. -/
  rows : ∀ n, ∃ (part : List Event) (found : List (Address × Identity)),
    (site.proceed rack settings times n).bus.trace = site.bus.trace ++ part ∧
      completed (queriesIn part) = found.map (fun e ↦ (e.1, .ok e.2)) ∧
      (site.proceed rack settings times n).roster = { site.roster with
        modules := site.roster.modules ++ found.map fun e ↦ .fresh e.1 e.2 }
  /-- This is what a single step does. -/
  steps : ∀ n, ∃ part, (site.proceed rack settings times (n + 1)).bus.trace =
      (site.proceed rack settings times n).bus.trace ++ part ∧
    Admits (site.proceed rack settings times n) (site.proceed rack settings times (n + 1))
      (queriesIn part)

section Admits

variable {before after : Site σ} {queries : List Query}

/-- A step begins a new enrolment, if it asks anything at all. -/
theorem Admits.command_head (h : Admits before after queries) :
    ∀ q ∈ queries.head?, q.request.command = Command.deviceInfo.code := by
  intro q hq
  obtain ⟨side, address, hphase, hfree, -⟩ := h.asks_iff.mp (by rintro rfl; simp at hq)
  exact (h.handshake side address hphase hfree).command_head q hq

/-- **The roster after a step** has grown by the modules that the step has enrolled. -/
theorem Admits.exists_found (h : Admits before after queries) :
    ∃ found : List (Address × Identity), completed queries = found.map (fun e ↦ (e.1, .ok e.2)) ∧
      after.roster = { before.roster with
        modules := before.roster.modules ++ found.map fun e ↦ .fresh e.1 e.2 } := by
  by_cases hcompleted : completed queries = []
  · refine ⟨[], hcompleted, ?_⟩
    rw [(h.fails hcompleted).1, List.map_nil, List.append_nil]
  · obtain ⟨side, address, identity, honly, -, -, happend, -⟩ := h.succeeds hcompleted
    exact ⟨[(address, identity)], honly, (Roster.eq_of_append happend).2⟩

end Admits

/-- **Rows and completed enrolments correspond to each other**, in every survey and on every rack. -/
theorem registers (times : Nat → UInt64) : site.Registers rack settings times := by
  refine ⟨fun n ↦ ?_, fun n ↦ admits_step _ rack settings (times n)⟩
  induction n with
  | zero => exact ⟨[], [], (List.append_nil _).symm, rfl, by simp [proceed]⟩
  | succ n ih =>
    obtain ⟨part, found, htrace, hcompleted, hroster⟩ := ih
    obtain ⟨events, hevents, hadmits⟩ :=
      (site.proceed rack settings times n).admits_step rack settings (times n)
    obtain ⟨more, hmore, hgrown⟩ := hadmits.exists_found
    refine ⟨part ++ events, found ++ more, ?_, ?_, ?_⟩
    · rw [proceed, hevents, htrace, List.append_assoc]
    · rw [queriesIn_append, completed_append _ hadmits.command_head, hcompleted, hmore,
        List.map_append]
    · rw [proceed, hgrown, hroster, List.map_append, List.append_assoc]

/-- A new survey of a module that refuses an address when it is first given one. -/
def ofReluctantModule : Site Chains :=
  ⟨.start ⟨32⟩, .attach (.ofModules [⟨⟨1, ⟨96⟩, 0, 0, 0, 0, 2, 2, 0⟩, none, [.ok, .ok, .refuse]⟩] []),
    .ofCore 4 roomForFour.coreIdentity⟩

/-- The second enrolment is completed, and only this one gives a row. -/
example :
    let after := ofReluctantModule.proceed Chains.rack roomForFour steadyTimes 20
    tried after.bus.trace = [⟨32⟩, ⟨32⟩] ∧
      (completed (queriesIn after.bus.trace)).map Prod.fst = [⟨32⟩] ∧
      after.roster.modules.map Row.address = [⟨32⟩] := by
  decide +kernel

end Site

end RackBus

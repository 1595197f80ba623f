import RackBus.Proofs.BringUp
import RackBus.Proofs.Enrolment
import RackBus.Proofs.Tries

/-!
# The patience of a survey

This file says of surveys and of bridges that the retry limit bounds every dialogue and every
survey, unless it is the largest number that the counter of failures can show.

* `Bridge.Advances` is what an operation does as to attempts, and `Bridge.advances_perform` and
  `Bridge.advances_perform_of_startsOver` say so of every operation.
* `Bridge.Spares` carries `Survey.Spares` through the history of a bridge, with everything that was
  tried before the bridge last started all over.
* `Bridge.patient_run` is what can be relied on, in every run and whatever the rack does.
* `Site.Stubborn` is a survey that speaks to a module which never answers.  With the limit of 255 it
  does so for ever, and `Bridge.stubborn_run` is such a run.
-/

set_option autoImplicit false

namespace RackBus

universe u

/-! ## The trace -/

/-- An attempt explores. -/
theorem Event.tried?_eq_none_of_stage {e : Event} (h : e.stage ≠ .exploring) : e.tried? = none := by
  cases e with
  | sent request answer =>
    refine if_neg fun hcommand ↦ h ?_
    have htask : request.task? = some .survey := Telegram.task?_eq (c := .deviceInfo) hcommand
    rw [stage, if_pos htask]
  | _ => rfl

/-- The parts that have ended, and the one that goes on. -/
theorem splitOnP_tail_of_last_loading {past part : List Event} {loading : Event}
    (hloading : loading.stage = .loading) (hpart : ∀ e ∈ part, e.stage ≠ .loading) :
    ((past ++ loading :: part).splitOnP fun e ↦ e.stage = .loading).tail =
      (past.splitOnP fun e ↦ e.stage = .loading).tail ++ [part] := by
  rw [splitOnP_of_last_loading hloading hpart,
    List.tail_append_of_ne_nil (List.splitOnP_ne_nil _ _)]

/-! ## Operations -/

namespace Bridge

variable {σ : Type u} {b : Bridge σ} (rack : Rack σ)

/-- The settings stay. -/
theorem settings_perform (b : Bridge σ) (o : Operation) :
    (b.perform rack o).settings = b.settings := by
  refine b.perform_keeps rack (P := fun c ↦ c.settings = b.settings) (fun _ _ _ hc ↦ hc)
    (fun _ _ _ hc ↦ hc) (fun _ hc ↦ hc) (fun c hc ↦ ?_) (fun c _ hc ↦ ?_) (fun c now _ hc ↦ ?_)
    (fun c hc ↦ ?_) rfl o
  · exact (congrArg Prod.fst (findings_restart c rack)).trans hc
  · exact (congrArg Prod.fst (c.findings_performMaintenance rack)).trans hc
  · exact (congrArg Standing.settings (c.standing_work rack now)).trans hc
  · exact (congrArg Prod.fst (c.findings_shown rack)).trans hc

/-- From one bridge to another the survey has gone on, with one attempt or none. -/
structure Advances (b after : Bridge σ) (events : List Event) (site : Site σ) : Prop where
  trace_eq : after.bus.trace = b.bus.trace ++ events
  quiet : ∀ e ∈ events, e.stage ≠ .loading
  survey : after.survey = site.survey
  /-- The end of a survey makes more of the roster. -/
  roster : b.survey.phase ≠ .finished → after.roster = site.roster
  attempt : tried events = [] ∧ site = b.site ∨ Site.Attempt b.settings b.site site (tried events)

theorem advances_of_eq {after : Bridge σ} (hbus : after.bus = b.bus)
    (hsurvey : after.survey = b.survey) (hroster : after.roster = b.roster) :
    b.Advances after [] b.site :=
  ⟨by rw [hbus, List.append_nil], by simp, hsurvey, fun _ ↦ hroster, Or.inl ⟨rfl, rfl⟩⟩

/-- Other work makes no attempt. -/
theorem Advances.rest {next after : Bridge σ} {events : List Event} {site : Site σ}
    (h : b.Advances next events site) {tasks : List Task}
    (hworks : Bus.Works rack tasks next.bus after.bus) (htasks : .survey ∉ tasks ∧ .loading ∉ tasks)
    (hsurvey : after.survey = next.survey)
    (hroster : b.survey.phase ≠ .finished → after.roster = next.roster) :
    ∃ events, b.Advances after events site := by
  obtain ⟨more, htrace, hmore⟩ := Bus.Asks.exists_trace_eq hworks
  have huntried : tried more = [] := tried_eq_nil fun e he ↦
    Event.tried?_eq_none_of_works (hmore e he) htasks.1
  refine ⟨events ++ more, ?_, ?_, hsurvey.trans h.survey, fun hphase ↦
    (hroster hphase).trans (h.roster hphase), ?_⟩
  · rw [htrace, h.trace_eq, List.append_assoc]
  · exact List.forall_mem_append.mpr
      ⟨h.quiet, fun e he ↦ Event.stage_ne_loading_of_works (hmore e he) htasks.2⟩
  · rw [tried_append, huntried, List.append_nil]
    exact h.attempt

/-- A step of the survey makes at most one attempt. -/
theorem advances_surveyed (b : Bridge σ) (now : UInt64) :
    ∃ events, b.Advances (b.surveyed rack now) events (b.site.step rack b.settings now).2 := by
  obtain ⟨events, htrace, hattempt⟩ := b.site.attempt_step rack b.settings now
  obtain ⟨served, hserved, hserves⟩ := Bus.Asks.exists_trace_eq (b.works_surveyed rack now)
  obtain rfl : events = served := List.append_cancel_left (htrace.symm.trans hserved)
  exact ⟨events, htrace,
    fun e he ↦ Event.stage_ne_loading_of_works (hserves e he) (by simp), rfl, fun _ ↦ rfl,
    Or.inr hattempt⟩

theorem advances_work (b : Bridge σ) (now : UInt64) :
    ∃ events, b.Advances (b.work rack now) events (b.site.step rack b.settings now).2 := by
  obtain ⟨events, h⟩ := advances_surveyed rack b now
  refine h.rest rack (b.works_afterSurvey rack now) (by simp) (b.survey_work rack now) ?_
  intro hphase
  cases hprogress : b.progress rack now with
  | surveying => rw [work_of_surveying hprogress]
  | finished entered => exact absurd (b.site.finished_of_step hprogress).2.1 hphase

/-- **An operation that does not start all over** makes at most one attempt. -/
theorem advances_perform (b : Bridge σ) {o : Operation} (ho : b.startsOver o = false) :
    ∃ events site, b.Advances (b.perform rack o) events site := by
  cases o with
  | cycle now =>
    obtain ⟨events, site, h⟩ : ∃ events site, b.Advances
        (if b.control.state = .stopped then b.performMaintenance rack else b.work rack now)
        events site := by
      split
      · obtain ⟨bus, hmaintenance⟩ := b.performMaintenance_eq rack
        obtain ⟨events, h⟩ := (advances_of_eq (b := b) rfl rfl rfl).rest rack
          (b.works_performMaintenance rack) (by simp) (by rw [hmaintenance])
          (fun _ ↦ by rw [hmaintenance])
        exact ⟨events, _, h⟩
      · obtain ⟨events, h⟩ := advances_work rack b now
        exact ⟨events, _, h⟩
    rw [perform, b.runCycle_eq rack ho]
    generalize (if b.control.state = .stopped then b.performMaintenance rack
      else b.work rack now) = next at h
    obtain ⟨status, bus, image, shownLamps, hshown, -⟩ := next.shown_eq rack
    obtain ⟨events, h⟩ := h.rest rack (next.works_shown rack) (by simp) (by rw [hshown])
      (fun _ ↦ by rw [hshown])
    exact ⟨events, site, h⟩
  | reset => exact absurd ho.symm Bool.false_ne_true
  | _ => exact ⟨[], b.site, advances_of_eq rfl rfl rfl⟩

/-- An operation that starts all over does so first, and then goes on. -/
theorem advances_perform_of_startsOver (b : Bridge σ) {o : Operation}
    (ho : b.startsOver o = true) :
    ∃ control events site,
      ({ b with control := control }.restart rack).2.Advances (b.perform rack o) events site := by
  cases o with
  | cycle now =>
    have hreset : b.resetIfRequested rack =
        ({ b with control := { b.control with resetRequested := false } }.restart rack).2 :=
      if_pos ho
    have hdone := b.resetRequested_resetIfRequested rack
    refine ⟨{ b.control with resetRequested := false }, ?_⟩
    rw [perform, ← b.runCycle_resetIfRequested]
    rw [hreset] at hdone ⊢
    exact advances_perform rack _ (o := .cycle now) hdone
  | reset =>
    rw [perform, reset_eq]
    exact ⟨b.control, [], _, advances_of_eq rfl rfl rfl⟩
  | _ => exact absurd ho Bool.false_ne_true

/-! ## Histories -/

section History

variable {settings : Settings}

/-- A bridge whose survey has tried the addresses that `part` shows, the part of the trace behind
the last loading.  The parts before it were within the limit, too. -/
structure Spares (b : Bridge σ) (settings : Settings) (past part : List Event) : Prop where
  settings_eq : b.settings = settings
  trace_eq : ∃ loading : Event, loading.stage = .loading ∧ b.bus.trace = past ++ loading :: part
  quiet : ∀ e ∈ part, e.stage ≠ .loading
  ended : ∀ chapter ∈ (past.splitOnP fun e ↦ e.stage = .loading).tail, ∀ address,
    (tried chapter).count address ≤ settings.retryLimit.toNat + 1
  survey : ∃ t, b.survey.Spares settings.rightBase settings.retryLimit.toNat (tried part) t

/-- A bridge that has kept to its limit. -/
def IsSparing (b : Bridge σ) (settings : Settings) : Prop := ∃ past part, b.Spares settings past part

/-- The part that goes on is within the limit, too. -/
theorem Spares.count_le {past part : List Event} (h : b.Spares settings past part)
    (address : Address) : (tried part).count address ≤ settings.retryLimit.toNat + 1 := by
  obtain ⟨t, hsurvey⟩ := h.survey
  exact hsurvey.count_le address

/-- **No address is tried too often** between two times of starting all over. -/
theorem IsSparing.count_le (h : b.IsSparing settings) :
    ∀ chapter ∈ b.bus.chapters, ∀ address,
      (tried chapter).count address ≤ settings.retryLimit.toNat + 1 := by
  obtain ⟨past, part, h⟩ := h
  obtain ⟨loading, hloading, htrace⟩ := h.trace_eq
  rw [Bus.chapters, htrace, splitOnP_tail_of_last_loading hloading h.quiet]
  refine List.forall_mem_append.mpr ⟨h.ended, fun chapter hchapter ↦ ?_⟩
  rw [List.mem_singleton.mp hchapter]
  exact h.count_le

theorem IsSparing.spent_le (h : b.IsSparing settings) (side : Side) :
    b.survey.spent side ≤ settings.retryLimit.toNat := by
  obtain ⟨past, part, h⟩ := h
  obtain ⟨t, hsurvey⟩ := h.survey
  exact hsurvey.spent_le side

theorem IsSparing.advance (h : b.IsSparing settings) (hlimit : settings.retryLimit.toNat < 255)
    {after : Bridge σ} (hsettings : after.settings = b.settings) {events : List Event}
    {site : Site σ} (hafter : b.Advances after events site) : after.IsSparing settings := by
  obtain ⟨past, part, h⟩ := h
  obtain ⟨loading, hloading, htrace⟩ := h.trace_eq
  obtain ⟨t, hsurvey⟩ := h.survey
  refine ⟨past, part ++ events, hsettings.trans h.settings_eq, ⟨loading, hloading, ?_⟩,
    List.forall_mem_append.mpr ⟨h.quiet, hafter.quiet⟩, h.ended, ?_⟩
  · rw [hafter.trace_eq, htrace, List.append_assoc, List.cons_append]
  · rw [tried_append, hafter.survey]
    rcases hafter.attempt with ⟨huntried, rfl⟩ | hattempt
    · rw [huntried, List.append_nil]
      exact ⟨t, hsurvey⟩
    · rw [h.settings_eq] at hattempt
      exact hsurvey.attempt hlimit hattempt

/-- Starting all over begins a new part, and the one before it is within the limit. -/
theorem IsSparing.restart (h : b.IsSparing settings) (hvalid : settings.Valid) :
    (b.restart rack).2.IsSparing settings := by
  obtain ⟨past, part, h⟩ := h
  obtain ⟨before, hbefore, hpast⟩ := h.trace_eq
  obtain ⟨asides, loading, htrace, hasides, hloading, -⟩ := trace_restart rack b
  obtain ⟨hsettings, hfindings⟩ := Prod.mk.inj (findings_restart b rack)
  have huntried : tried asides = [] := tried_eq_nil fun e he ↦
    Event.tried?_eq_none_of_stage (by simp [hasides e he])
  have hquiet : ∀ e ∈ part ++ asides, e.stage ≠ .loading :=
    List.forall_mem_append.mpr ⟨h.quiet, fun e he ↦ by simp [hasides e he]⟩
  refine ⟨past ++ before :: (part ++ asides), [], hsettings.trans h.settings_eq,
    ⟨loading, hloading, ?_⟩, by simp, ?_, .zero, ?_⟩
  · rw [htrace, hpast]
    simp only [List.append_assoc, List.cons_append]
  · rw [splitOnP_tail_of_last_loading hbefore hquiet]
    refine List.forall_mem_append.mpr ⟨h.ended, fun chapter hchapter ↦ ?_⟩
    rw [List.mem_singleton.mp hchapter, tried_append, huntried, List.append_nil]
    exact h.count_le
  · rw [(Prod.mk.inj hfindings).1, h.settings_eq]
    exact Survey.spares_start hvalid _

/-- **Every operation** keeps to the limit. -/
theorem IsSparing.perform (h : b.IsSparing settings) (hvalid : settings.Valid)
    (hlimit : settings.retryLimit.toNat < 255) (o : Operation) :
    (b.perform rack o).IsSparing settings := by
  cases ho : b.startsOver o with
  | false =>
    obtain ⟨events, site, hafter⟩ := advances_perform rack b ho
    exact h.advance hlimit (settings_perform rack b o) hafter
  | true =>
    obtain ⟨control, events, site, hafter⟩ := advances_perform_of_startsOver rack b ho
    have hasked : { b with control := control }.IsSparing settings :=
      h.advance hlimit rfl (advances_of_eq rfl rfl rfl)
    have hsettings : (b.perform rack o).settings =
        ({ b with control := control }.restart rack).2.settings :=
      (settings_perform rack b o).trans
        (congrArg Prod.fst (findings_restart { b with control := control } rack)).symm
    exact (hasked.restart rack hvalid).advance hlimit hsettings hafter

end History

/-! ## What can be relied on -/

/-- The bridge after the first `n` of a sequence of operations. -/
def proceed (b : Bridge σ) (operations : Nat → Operation) (n : Nat) : Bridge σ :=
  b.run rack ((List.range n).map operations)

theorem proceed_succ (b : Bridge σ) (operations : Nat → Operation) (n : Nat) :
    b.proceed rack operations (n + 1) =
      (b.proceed rack operations n).perform rack (operations n) := by
  rw [proceed, List.range_succ, List.map_append, run_append]
  rfl

/-- An operation that starts all over is not in a dialogue afterwards. -/
theorem phase_perform_of_startsOver (b : Bridge σ) {o : Operation} (ho : b.startsOver o = true)
    (side : Side) : (b.perform rack o).survey.phase ≠ .dialogue side := by
  obtain ⟨control, events, site, h⟩ := advances_perform_of_startsOver rack b ho
  have hbegin : ({ b with control := control }.restart rack).2.survey.phase = .begin :=
    congrArg (fun findings ↦ findings.2.1.phase)
      (findings_restart { b with control := control } rack)
  intro hafter
  rw [h.survey] at hafter
  rcases h.attempt with ⟨-, rfl⟩ | hattempt
  · exact absurd (hbegin.symm.trans hafter) (by simp)
  · rcases hattempt.phase_eq_or_mem_successors with hsame | hsuccessor
    · exact absurd (hbegin.symm.trans (hsame.symm.trans hafter)) (by simp)
    · have hpulse : site.survey.phase ∈ Phase.begin.successors := hbegin ▸ hsuccessor
      rw [hafter] at hpulse
      exact absurd hpulse (by simp [Phase.successors])

/-- **An operation** counts the attempt that fails in it. -/
theorem counts_perform (b : Bridge σ) (hlimit : b.settings.retryLimit.toNat < 255) (o : Operation) :
    b.site.Counts (b.perform rack o).site := by
  cases ho : b.startsOver o with
  | true => exact fun side _ hafter ↦ absurd hafter (phase_perform_of_startsOver rack b ho side)
  | false =>
    obtain ⟨events, site, h⟩ := advances_perform rack b ho
    rcases h.attempt with ⟨huntried, rfl⟩ | hattempt
    · refine Site.counts_of_untried ?_ h.survey
      have htrace : tried (b.perform rack o).bus.trace = tried b.bus.trace := by
        rw [h.trace_eq, tried_append, huntried, List.append_nil]
      exact htrace
    · exact hattempt.counts hlimit h.survey

/-- A new bridge has tried nothing. -/
theorem isSparing_start {state : σ} {settings : Settings} (hvalid : settings.Valid)
    (hb : start rack state settings = .ok b) : b.IsSparing settings := by
  obtain ⟨declared, -, rfl⟩ := eq_of_start hb
  refine ⟨[], [.indicated .fault true], rfl, ⟨.loaded (rack.load state).1, rfl, rfl⟩, ?_, ?_, .zero,
    Survey.spares_start hvalid _⟩
  · simp [Event.stage]
  · simp

theorem isSparing_proceed {state : σ} {settings : Settings} (hvalid : settings.Valid)
    (hlimit : settings.retryLimit.toNat < 255) (hb : start rack state settings = .ok b)
    (operations : Nat → Operation) (n : Nat) :
    (b.proceed rack operations n).IsSparing settings :=
  run_invariant (P := fun c ↦ c.IsSparing settings) (fun _ o hc ↦ hc.perform rack hvalid hlimit o)
    (isSparing_start rack hvalid hb) _

/-- **The limit bounds every dialogue and every survey**, whatever the rack does: a survey on its
own, whatever its roster is, and the surveys of a bridge in every history.  The parts of a trace
between two times of starting all over show one survey each.  The limit must be one that the counter
of failures can exceed. -/
theorem patient_run {settings : Settings} (hvalid : settings.check = .ok ())
    (hlimit : settings.retryLimit ≠ 255) :
    (∀ site : Site σ, site.survey = .start settings.rightBase → ∀ times,
      Site.IsPatient (site.proceed rack settings times) settings.retryLimit.toNat ∧
      ∀ n, ∃ part, (site.proceed rack settings times n).bus.trace = site.bus.trace ++ part ∧
        ∀ address, (tried part).count address ≤ settings.retryLimit.toNat + 1) ∧
    ∀ state b, start rack state settings = .ok b → ∀ operations,
      Site.IsPatient (fun n ↦ (b.proceed rack operations n).site) settings.retryLimit.toNat ∧
      ∀ n, ∀ part ∈ (b.proceed rack operations n).bus.chapters,
        ∀ address, (tried part).count address ≤ settings.retryLimit.toNat + 1 := by
  have hvalid := Settings.check_eq_ok_iff.mp hvalid
  have hlimit : settings.retryLimit.toNat < 255 := by
    have hlt := settings.retryLimit.toNat_lt
    have hne : settings.retryLimit.toNat ≠ 255 := fun h ↦ hlimit (UInt8.toNat_inj.mp h)
    omega
  constructor
  · intro site hsurvey times
    refine ⟨Site.isPatient_proceed rack times hvalid hlimit hsurvey, fun n ↦ ?_⟩
    obtain ⟨part, t, htrace, hspares⟩ :=
      Site.spares_proceed rack times hvalid hlimit hsurvey n
    exact ⟨part, htrace, hspares.count_le⟩
  · intro state b hb operations
    have hsparing := isSparing_proceed rack hvalid hlimit hb operations
    refine ⟨Site.isPatient_of_counts (fun n ↦ ?_) fun n ↦ (hsparing n).spent_le, fun n ↦
      (hsparing n).count_le⟩
    have hsettings : (b.proceed rack operations n).settings.retryLimit.toNat < 255 := by
      obtain ⟨past, part, h⟩ := hsparing n
      rw [h.settings_eq]
      exact hlimit
    rw [proceed_succ]
    exact counts_perform rack _ hsettings (operations n)

/-- A rack whose right sense line promises a module, once, that is not there. -/
def promising : Chains := { Chains.ofModules [] [] with rightSense := [true] }

/-- Settings with a limit. -/
def limitedTo (limit : UInt8) : Settings := { Settings.usual with retryLimit := limit }

/-- A cycle every fifty milliseconds. -/
def steadily (n : Nat) : Operation := .cycle (50000 * UInt64.ofNat n)

/-- With a limit of one, two attempts fail, and the dialogue is left. -/
theorem patient_run_promising :
    (limitedTo 1).check = .ok () ∧ (limitedTo 1).retryLimit ≠ 255 ∧
      ∃ b, start Chains.rack promising (limitedTo 1) = .ok b ∧
        Site.IsPatient (fun n ↦ (b.proceed Chains.rack steadily n).site) 1 ∧
        (b.proceed Chains.rack steadily 9).survey.phase = .dialogue .right ∧
        Site.failures (fun n ↦ (b.proceed Chains.rack steadily n).site) 8 2 = 2 ∧
        (b.proceed Chains.rack steadily 10).survey.phase = .first .left ∧
        (b.proceed Chains.rack steadily 10).bus.chapters.map (fun part ↦ tried part) =
          [[⟨32⟩, ⟨32⟩]] :=
  ⟨rfl, by decide, _, rfl,
    ((patient_run Chains.rack (show (limitedTo 1).check = .ok () from rfl) (by decide)).2
      promising _ rfl steadily).1,
    by decide +kernel, by decide +kernel, by decide +kernel, by decide +kernel⟩

end Bridge

/-! ## A dialogue without end -/

/-- On a rack without modules nobody answers. -/
theorem Chains.transfer_of_empty {c : Chains} (hright : c.right = []) (hleft : c.left = [])
    {request : Telegram} (hd : request.destination.isBroadcast = false) :
    c.transfer request = (.error .noTransport, c) := by
  have hnobody : c.responder? request.destination = none := by
    rw [responder?, holder?, holder?, chain, chain, hright, hleft]
    cases hside : c.enabled? with
    | none => rfl
    | some side => cases side <;> simp [waiting?, chain, hright, hleft]
  rw [transfer, hd, if_neg (by simp), hnobody]

theorem Bus.enrol_of_empty {bus : Bus Chains} (hright : bus.rack.right = [])
    (hleft : bus.rack.left = []) {address : Address} (haddress : address.isBroadcast = false)
    (side : Side) (pause : UInt32) :
    ∃ after, bus.enrol Chains.rack address side pause = (.error .noTransport, after) ∧
      after.rack = bus.rack := by
  obtain ⟨after, hexchange, hrack⟩ := bus.exchange_eq address .deviceInfo [] (Nat.zero_le _)
  rw [Chains.transfer_of_empty hright hleft haddress] at hexchange hrack
  refine ⟨after, ?_, hrack⟩
  rw [enrol, hexchange]
  rfl

namespace Site

/-- A survey that speaks to a module which never answers. -/
structure Stubborn (site : Site Chains) (side : Side) (address : Address) : Prop where
  phase : site.survey.phase = .dialogue side
  free : site.survey.next? side = some address
  single : address.isBroadcast = false
  room : site.roster.isFull = false
  right : site.bus.rack.right = []
  left : site.bus.rack.left = []

/-- With the limit of 255 the dialogue is not left, and the modules are still not there. -/
theorem Stubborn.stays {site : Site Chains} {side : Side} {address : Address}
    (h : site.Stubborn side address) {settings : Settings} (hlimit : settings.retryLimit = 255)
    (now : UInt64) :
    (site.step Chains.rack settings now).2.survey.phase = .dialogue side ∧
      (site.step Chains.rack settings now).2.bus.rack = site.bus.rack := by
  have hbus : (site.enterIfNew Chains.rack settings.timings now).bus = site.bus := by
    rw [enterIfNew]
    split
    · simp only [enter, h.phase]
    · rfl
  have hphase := site.phase_enterIfNew Chains.rack settings.timings now
  have hroster := site.roster_enterIfNew Chains.rack settings.timings now
  have hfree := site.next?_enterIfNew Chains.rack settings.timings now side
  rw [step_eq]
  dsimp only
  generalize site.enterIfNew Chains.rack settings.timings now = entered at *
  obtain ⟨bus, henrol, hrack⟩ := Bus.enrol_of_empty h.right h.left h.single side
    settings.timings.enrolmentPause
  have hpatient : ¬settings.retryLimit < entered.survey.countFailure.retries := by
    rw [hlimit, UInt8.lt_iff_toNat_lt]
    exact Nat.not_lt.mpr (Nat.le_of_lt_succ (UInt8.toNat_lt _))
  have hcheck : entered.check Chains.rack settings now =
      (none, { entered with survey := entered.survey.countFailure, bus := bus }) := by
    rw [check, hphase, h.phase]
    dsimp only
    rw [converse, hfree, h.free]
    dsimp only
    rw [hroster, h.room, if_neg Bool.false_ne_true, hbus, henrol]
    dsimp only
    rw [if_neg hpatient]
  rw [hcheck]
  exact ⟨hphase.trans h.phase, hrack⟩

/-- So the next step tries the same address again, in vain. -/
theorem Stubborn.step {site : Site Chains} {side : Side} {address : Address}
    (h : site.Stubborn side address) {settings : Settings} (hlimit : settings.retryLimit = 255)
    (now : UInt64) :
    (site.step Chains.rack settings now).2.Stubborn side address ∧
      site.failed (site.step Chains.rack settings now).2 = true ∧
      tried (site.step Chains.rack settings now).2.bus.trace =
        tried site.bus.trace ++ [address] := by
  obtain ⟨hstays, hrack⟩ := h.stays hlimit now
  obtain ⟨events, htrace, hattempt⟩ := site.attempt_step Chains.rack settings now
  generalize htried : tried events = addresses at hattempt
  generalize (site.step Chains.rack settings now).2 = after at *
  cases hattempt with
  | idle roster next fresh phase =>
    rcases phase with ⟨-, hdialogue⟩ | ⟨hsuccessor, -⟩
    · exact absurd h.phase (hdialogue side)
    · rw [h.phase, hstays] at hsuccessor
      cases side <;> exact absurd hsuccessor (by simp [Phase.successors, Phase.after])
  | failed s a phase free roster next stays spent patient =>
    obtain rfl : s = side := Phase.dialogue.inj (phase.symm.trans h.phase)
    obtain rfl : a = address := Option.some.inj (free.symm.trans h.free)
    have hafter : tried after.bus.trace = tried site.bus.trace ++ [a] := by
      rw [htrace, tried_append, htried]
    refine ⟨⟨hstays, (next s).trans free, h.single, roster ▸ h.room, hrack ▸ h.right,
      hrack ▸ h.left⟩, ?_, hafter⟩
    simp [failed, hafter, roster]
  | abandoned s a phase free roster next leaves impatient =>
    rw [hlimit] at impatient
    exact absurd impatient (Nat.not_lt.mpr (Nat.min_le_right _ _))
  | enrolled s a identity phase free roster next leaves =>
    exact absurd (leaves.symm.trans hstays) (by simp)

/-- It goes on for ever. -/
theorem Stubborn.proceed {site : Site Chains} {side : Side} {address : Address} {settings : Settings}
    (hlimit : settings.retryLimit = 255) (times : Nat → UInt64) {m : Nat}
    (h : (site.proceed Chains.rack settings times m).Stubborn side address) (n : Nat) :
    (site.proceed Chains.rack settings times (m + n)).Stubborn side address ∧
      failures (site.proceed Chains.rack settings times) m n = n ∧
      (tried (site.proceed Chains.rack settings times (m + n)).bus.trace) =
        tried (site.proceed Chains.rack settings times m).bus.trace ++ List.replicate n address := by
  induction n with
  | zero => exact ⟨h, rfl, (List.append_nil _).symm⟩
  | succ n ih =>
    obtain ⟨hstubborn, hfailures, htried⟩ := ih
    obtain ⟨hnext, hfailed, hmore⟩ := hstubborn.step hlimit (times (m + n))
    refine ⟨hnext, ?_, ?_⟩
    · have hfailed : (site.proceed Chains.rack settings times (m + n)).failed
          (site.proceed Chains.rack settings times (m + n + 1)) = true := hfailed
      rw [failures, hfailures, if_pos hfailed]
    · rw [← Nat.add_assoc, Site.proceed, hmore, htried, List.append_assoc, List.replicate_succ']

end Site

namespace Bridge

/-- A new survey on that rack. -/
def ofPromising : Site Chains :=
  ⟨.start ⟨32⟩, .attach promising, .ofCore 64 Settings.usual.coreIdentity⟩

/-- The ninth step and all that follow ask for the module that is not there. -/
theorem stubborn_ofPromising :
    (ofPromising.proceed Chains.rack (limitedTo 255) Site.steadyTimes 8).Stubborn .right ⟨32⟩ :=
  ⟨by decide +kernel, by decide +kernel, rfl, by decide +kernel, by decide +kernel,
    by decide +kernel⟩

/-- **With the limit of 255** the counter of failures cannot exceed it: a dialogue is not left after
256 failed attempts, and an address is tried more often than that. -/
theorem stubborn_run :
    (limitedTo 255).check = .ok () ∧ ofPromising.survey = .start (limitedTo 255).rightBase ∧
      ¬Site.IsPatient (ofPromising.proceed Chains.rack (limitedTo 255) Site.steadyTimes)
        (limitedTo 255).retryLimit.toNat ∧
      ∃ n, (limitedTo 255).retryLimit.toNat + 1 <
        (tried (ofPromising.proceed Chains.rack (limitedTo 255) Site.steadyTimes n).bus.trace).count
          ⟨32⟩ := by
  have hstubborn := stubborn_ofPromising.proceed (show (limitedTo 255).retryLimit = 255 from rfl)
    Site.steadyTimes
  refine ⟨rfl, rfl, fun hpatient ↦ ?_, 8 + 257, ?_⟩
  · have hle := hpatient .right 8 256 fun i _ ↦ (hstubborn i).1.phase
    rw [(hstubborn 256).2.1] at hle
    exact absurd hle (by decide)
  · rw [(hstubborn 257).2.2, List.count_append, List.count_replicate_self]
    exact Nat.lt_of_lt_of_le (by decide) (Nat.le_add_left 257 _)

end Bridge

end RackBus

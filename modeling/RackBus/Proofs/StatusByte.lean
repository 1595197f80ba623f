import RackBus.Proofs.Anchor
import RackBus.Proofs.Lifecycle
import RackBus.Proofs.Misfits
import RackBus.Proofs.Restart
import RackBus.Proofs.Rounds

/-!
# The status byte tells the truth

The status flags are set and cleared by the comparison with the declarations, by polling, by the
running flag and by starting all over, and each of them leaves alone what the others have set.

* `Bridge.Warrants` is what each flag stands for, and `Bridge.ShowsFlags` says that exactly the
  flags are set that something stands for.  There is one lemma for each part of a cycle.
* `Bridge.NotesGateways` says that the recorded gateways are those of the roster once it has been
  polled, and `Bridge.HasPlace` that the status byte lies in the image.
* `Bridge.Truthful` puts this together, and `Bridge.truthful_run` says that every bridge is truthful
  after every cycle, in every history and whatever the rack does.
-/

set_option autoImplicit false

namespace RackBus

universe u

/-! ## Polling -/

/-- The flag that a gateway on a side raises. -/
def Flag.gateway : Side → Flag
  | .right => rightGateway
  | .left => leftGateway

theorem Flag.status_gateway (side : Side) : (Flag.gateway side).status = .gateway side := by
  cases side <;> rfl

namespace Sweep

variable {σ : Type u} {s : Sweep σ} (rack : Rack σ) (base : Address)

/-- The flags of the gateways say which ones have been noted, and nothing but these flags has
changed since `before`. -/
structure NotesFlags (s : Sweep σ) (before : Status) : Prop where
  gateway : ∀ side, s.status.has (Flag.gateway side).position = (s.gateways.at? side).isSome
  other : ∀ i, (∀ side, i ≠ (Flag.gateway side).position) → s.status.has i = before.has i

theorem NotesFlags.noteGateway {before : Status} (h : s.NotesFlags before) (address : Address) :
    (s.noteGateway base address).NotesFlags before := by
  rw [Sweep.noteGateway]
  split
  · rename_i noted _
    constructor
    · intro side
      have hposition : (Flag.gateway side).position = (Flag.gateway noted).position ↔
          noted = side := by
        cases side <;> cases noted <;> simp [Flag.gateway, Flag.position]
      dsimp only
      rw [Status.has_insert, ← Flag.status_gateway, Flag.has_status, h.gateway, Gateways.at?_note]
      by_cases hnoted : noted = side
      · rw [if_pos hnoted, decide_eq_true (hposition.mpr hnoted), Bool.or_true]
        cases s.gateways.at? side <;> rfl
      · rw [if_neg hnoted, decide_eq_false (mt hposition.mp hnoted), Bool.or_false]
    · intro i hi
      dsimp only
      rw [Status.has_insert, ← Flag.status_gateway, Flag.has_status, decide_eq_false (hi noted),
        Bool.or_false, h.other i hi]
  · exact h

theorem NotesFlags.visit {before : Status} (h : s.NotesFlags before) (index : Nat) (row : Row) :
    (s.visit rack base index row).2.NotesFlags before := by
  rw [Sweep.visit]
  split
  · exact h
  · split
    · exact h.noteGateway base row.address
    · split <;> exact ⟨h.gateway, h.other⟩

theorem NotesFlags.visitAll {before : Status} (h : s.NotesFlags before) (index : Nat)
    (rows : List Row) : (s.visitAll rack base index rows).2.NotesFlags before := by
  induction rows generalizing s index with
  | nil => exact h
  | cons row rest ih => exact ih (h.visit rack base index row) (index + 1)

end Sweep

namespace Bridge

variable {σ : Type u} {b : Bridge σ} (rack : Rack σ)

/-! ## What the flags stand for -/

/-- What a flag stands for. -/
def Warrants (b : Bridge σ) : Flag → Prop
  | .running => b.shownRunning = true
  | .extraModule => ∃ r, b.report = some r ∧ 0 < r.extra
  | .missingModule => ∃ r, b.report = some r ∧ 0 < r.missing
  | .sizeMismatch => ∃ r, b.report = some r ∧ r.Misfits
  | .leftGateway => b.poller.gateways.left.isSome = true
  | .rightGateway => b.poller.gateways.right.isSome = true

/-- Exactly the flags are set that something stands for. -/
structure ShowsFlags (b : Bridge σ) : Prop where
  flags : ∀ f : Flag, b.control.status.has f.position = true ↔ b.Warrants f
  spare : ∀ i, 6 ≤ i → b.control.status.has i = false

theorem ShowsFlags.congr {after : Bridge σ} (h : b.ShowsFlags)
    (hstatus : after.control.status = b.control.status)
    (hshown : after.shownRunning = b.shownRunning) (hreport : after.report = b.report)
    (hpoller : after.poller = b.poller) : after.ShowsFlags := by
  refine ⟨fun f ↦ ?_, fun i hi ↦ hstatus ▸ h.spare i hi⟩
  rw [hstatus, h.flags f]
  cases f <;> simp only [Warrants, hshown, hreport, hpoller]

/-- Nothing stands for a flag in a bridge that has started all over. -/
theorem showsFlags_renewed (b : Bridge σ) (state : Lifecycle) (declared : List Declaration)
    (bus : Bus σ) : (b.renewed state declared bus).ShowsFlags := by
  refine ⟨fun f ↦ ?_, fun i _ ↦ Status.has_empty i⟩
  have hnone : (b.renewed state declared bus).control.status.has f.position = false :=
    Status.has_empty _
  rw [hnone]
  cases f <;> simp [Warrants, renewed, Poller.fresh, Gateways.none]

theorem ShowsFlags.applyRunning (h : b.ShowsFlags) : (b.applyRunning rack).ShowsFlags := by
  rw [Bridge.applyRunning]
  split
  · exact h
  · have hrunning : Status.running = Flag.running.status := rfl
    have hhas (i : Nat) : (if b.isRunning then b.control.status.insert .running
        else b.control.status.remove .running).has i =
          if i = Flag.running.position then b.isRunning else b.control.status.has i := by
      rw [hrunning]
      by_cases hi : i = Flag.running.position <;> cases b.isRunning <;> simp [hi]
    refine ⟨fun f ↦ ?_, fun i hi ↦ ?_⟩
    · refine (Bool.eq_iff_iff.mp (hhas f.position)).trans ?_
      by_cases hf : f = .running
      · subst hf
        rw [if_pos rfl]
        rfl
      · rw [if_neg (Flag.position_injective.ne hf), h.flags f]
        cases f with
        | running => exact absurd rfl hf
        | _ => rfl
    · refine (hhas i).trans ?_
      rw [if_neg (by simp [Flag.position]; omega), h.spare i hi]

/-- **The end of a survey** decides three flags anew. -/
theorem ShowsFlags.endSurvey (h : b.ShowsFlags) : (b.endSurvey rack).ShowsFlags := by
  obtain ⟨hextra, hmissing, hmisfits⟩ :=
    b.roster.decided_reconcile b.declared b.image.size b.control.status
  have hreport : (b.endSurvey rack).report =
      some (b.roster.reconcile b.declared b.image.size b.control.status).2.2 := rfl
  have hkept (i : Nat) (hi : Status.configuration.has i = false) :
      (b.endSurvey rack).control.status.has i = b.control.status.has i :=
    b.roster.has_reconcile_of_undecided b.declared b.image.size b.control.status hi
  have hsome (P : Report → Prop) : (∃ r, (b.endSurvey rack).report = some r ∧ P r) ↔
      P (b.roster.reconcile b.declared b.image.size b.control.status).2.2 := by
    simp only [hreport, Option.some_inj, exists_eq_left']
  refine ⟨fun f ↦ ?_, fun i hi ↦ ?_⟩
  · cases f with
    | running =>
      rw [hkept _ (by decide)]
      exact h.flags .running
    | leftGateway =>
      rw [hkept _ (by decide)]
      exact h.flags .leftGateway
    | rightGateway =>
      rw [hkept _ (by decide)]
      exact h.flags .rightGateway
    | extraModule => exact hextra.trans (hsome fun r ↦ 0 < r.extra).symm
    | missingModule => exact hmissing.trans (hsome fun r ↦ 0 < r.missing).symm
    | sizeMismatch => exact hmisfits.trans (hsome Report.Misfits).symm
  · have hspare : Status.configuration.has i = false := by
      have hother : i ≠ 1 ∧ i ≠ 2 ∧ i ≠ 3 := by omega
      simp [Status.has_configuration, Flag.position, hother]
    rw [hkept i hspare, h.spare i hi]

theorem ShowsFlags.afterRound (h : b.ShowsFlags) (round : Round) {polled : Polled σ}
    (hgateway : ∀ side, polled.status.has (Flag.gateway side).position =
      (polled.poller.gateways.at? side).isSome)
    (hother : ∀ i, (∀ side, i ≠ (Flag.gateway side).position) →
      polled.status.has i = b.control.status.has i) : (b.afterRound round polled).ShowsFlags := by
  have hstatus : (b.afterRound round polled).control.status = polled.status := rfl
  refine ⟨fun f ↦ ?_, fun i hi ↦ ?_⟩
  · rw [hstatus]
    cases f with
    | rightGateway => exact Bool.eq_iff_iff.mp (hgateway .right)
    | leftGateway => exact Bool.eq_iff_iff.mp (hgateway .left)
    | running | extraModule | missingModule | sizeMismatch =>
      rw [hother _ fun side ↦ by cases side <;> simp [Flag.gateway, Flag.position]]
      exact h.flags _
  · refine (hother i fun side ↦ ?_).trans (h.spare i hi)
    cases side <;> simp [Flag.gateway, Flag.position] <;> omega

/-- **A round of polling** adds the flags of the gateways that it notes. -/
theorem ShowsFlags.poll (h : b.ShowsFlags) (now : UInt64) : (b.poll rack now).ShowsFlags := by
  cases hcore : b.core with
  | none =>
    rw [b.poll_of_core_eq_none rack hcore now]
    exact h
  | some core =>
    let before : Sweep σ :=
      { bus := b.bus, image := b.image, gateways := b.poller.gateways, status := b.control.status,
        polled := 0, failed := false }
    have hbefore : before.NotesFlags b.control.status := by
      refine ⟨fun side ↦ ?_, fun _ _ ↦ rfl⟩
      cases side with
      | right => exact Bool.eq_iff_iff.mpr (h.flags .rightGateway)
      | left => exact Bool.eq_iff_iff.mpr (h.flags .leftGateway)
    have hafter := hbefore.visitAll rack b.settings.rightBase 1 b.roster.modules
    rw [b.poll_eq rack hcore now]
    exact h.afterRound _ hafter.gateway hafter.other

theorem ShowsFlags.work (h : b.ShowsFlags) (now : UInt64) : (b.work rack now).ShowsFlags := by
  have hsurveyed : (b.surveyed rack now).ShowsFlags := h.congr rfl rfl rfl rfl
  exact b.work_keeps rack (P := fun c ↦ c.ShowsFlags) hsurveyed
    (fun _ ↦ hsurveyed.endSurvey rack) fun _ hc ↦ hc.poll rack now

theorem ShowsFlags.shown (h : b.ShowsFlags) : ((b.applyRunning rack).publish rack).ShowsFlags := by
  obtain ⟨image, bus, shownLamps, hpublish, -⟩ := (b.applyRunning rack).publish_eq rack
  rw [hpublish]
  exact (h.applyRunning rack).congr rfl rfl rfl rfl

theorem showsFlags_restart (b : Bridge σ) : (b.restart rack).2.ShowsFlags := by
  rw [restart_eq]
  split <;> exact showsFlags_renewed _ _ _ _

theorem ShowsFlags.perform (h : b.ShowsFlags) (o : Operation) : (b.perform rack o).ShowsFlags := by
  refine b.perform_keeps rack (fun _ _ _ hc ↦ hc.congr rfl rfl rfl rfl)
    (fun _ _ _ hc ↦ hc.congr rfl rfl rfl rfl) (fun _ hc ↦ hc.congr rfl rfl rfl rfl)
    (fun c _ ↦ showsFlags_restart rack c) ?_ (fun _ now _ hc ↦ hc.work rack now)
    (fun _ hc ↦ hc.shown rack) h o
  intro c _ hc
  obtain ⟨bus, hmaintenance⟩ := c.performMaintenance_eq rack
  rw [hmaintenance]
  exact hc.congr rfl rfl rfl rfl

theorem showsFlags_start {state : σ} {settings : Settings}
    (hb : start rack state settings = .ok b) : b.ShowsFlags := by
  obtain ⟨declared, -, rfl⟩ := eq_of_start hb
  refine ⟨fun f ↦ ?_, fun i _ ↦ Status.has_empty i⟩
  have hnone : (Control.fresh (if settings.autoStart then Lifecycle.initializing
      else .stopped)).status.has f.position = false := Status.has_empty _
  rw [hnone]
  cases f <;> simp [Warrants, Poller.fresh, Gateways.none]

/-! ## The gateways that are recorded -/

/-- The gateways are recorded by polling, and they are those of the roster. -/
structure NotesGateways (b : Bridge σ) : Prop where
  /-- Before the end of the survey, nothing was polled and no gateway is recorded. -/
  unpolled : b.core = none → b.round = none
  fresh : b.round = none → ∀ side, b.poller.gateways.at? side = none
  recorded : b.round ≠ none →
    ∀ side, b.poller.gateways.at? side = b.roster.gateway? b.settings.rightBase side

theorem NotesGateways.congr {after : Bridge σ} (h : b.NotesGateways)
    (hsettings : after.settings = b.settings) (hcore : after.core = b.core)
    (hround : after.round = b.round) (hpoller : after.poller = b.poller)
    (hroster : after.round ≠ none → after.roster = b.roster) : after.NotesGateways := by
  refine ⟨hcore ▸ hround ▸ h.unpolled, hround ▸ hpoller ▸ h.fresh, fun hpolled side ↦ ?_⟩
  rw [hpoller, hroster hpolled, hsettings]
  exact h.recorded (hround ▸ hpolled) side

/-- **A round of polling** records the gateways of the roster, as far as this was not done
before. -/
theorem NotesGateways.poll (h : b.NotesGateways)
    (hgateway : b.roster.core.identity.type.isGateway = false) (now : UInt64) :
    (b.poll rack now).NotesGateways := by
  cases hcore : b.core with
  | none =>
    rw [b.poll_of_core_eq_none rack hcore now]
    exact h
  | some core =>
    have hnoted (side : Side) :=
      b.polled.gateways_cycle rack b.settings.rightBase core now side hgateway
    have hsame (side : Side) := Roster.gateway?_congr b.settings.rightBase
      (b.polled.map_clearErrors_cycle rack b.settings.rightBase core now) side
    have hafter : (b.poll rack now).core = some core := (b.core_poll rack now).trans hcore
    rw [b.poll_eq rack hcore now] at hafter ⊢
    refine ⟨fun hnone ↦ absurd (hafter.symm.trans hnone) (Option.some_ne_none _),
      fun hround ↦ absurd hround (Option.some_ne_none _), fun _ side ↦ ?_⟩
    refine ((hnoted side).trans ?_).trans (hsame side).symm
    show (b.poller.gateways.at? side).or (b.roster.gateway? b.settings.rightBase side) =
      b.roster.gateway? b.settings.rightBase side
    by_cases hround : b.round = none
    · rw [h.fresh hround side, Option.none_or]
    · rw [h.recorded hround side, Option.or_self]

theorem notesGateways_of_unpolled (hcore : b.core = none → b.round = none) (hround : b.round = none)
    (hpoller : b.poller = .fresh) : b.NotesGateways := by
  refine ⟨hcore, fun _ side ↦ ?_, fun hpolled ↦ absurd hround hpolled⟩
  rw [hpoller]
  cases side <;> rfl

/-- The end of a survey comes before the first round of polling. -/
theorem NotesGateways.endSurvey (h : b.NotesGateways) (hcore : b.core = none) :
    (b.endSurvey rack).NotesGateways := by
  have hround : b.round = none := h.unpolled hcore
  exact ⟨fun _ ↦ hround, fun _ ↦ h.fresh hround, fun hpolled ↦ absurd hround hpolled⟩

/-! ## The place of the status byte -/

/-- The status byte lies in the image, once the core's bytes have a place. -/
def HasPlace (b : Bridge σ) : Prop :=
  ∀ core, b.core = some core → core.statusOffset < b.image.size

theorem HasPlace.congr {after : Bridge σ} (h : b.HasPlace) (hcore : after.core = b.core)
    (hsize : after.image.size = b.image.size) : after.HasPlace := by
  intro core hafter
  rw [hsize]
  exact h core (hcore.symm.trans hafter)

theorem hasPlace_of_core_eq_none (h : b.core = none) : b.HasPlace :=
  fun _ hcore ↦ absurd (h.symm.trans hcore) (by simp)

theorem HasPlace.poll (h : b.HasPlace) {rack : Rack σ} (hrack : rack.KeepsSize) (now : UInt64) :
    (b.poll rack now).HasPlace :=
  h.congr (b.core_poll rack now) (b.size_poll hrack now)

theorem hasPlace_endSurvey {settings : Settings}
    (hdevice : b.roster.core.device = (.core, settings.coreIdentity)) (hsize : 11 ≤ b.image.size) :
    (b.endSurvey rack).HasPlace := by
  intro core hcore
  have hplace : (b.roster.reconcile b.declared b.image.size b.control.status).2.2.core = core :=
    Option.some.inj hcore
  rw [← hplace, Roster.core_report_reconcile hdevice]
  have hlies := (CoreBlock.liesIn_iff.mp (CoreBlock.liesIn_anchor b.declared hsize)).1
  exact Nat.lt_of_lt_of_le (Nat.lt_add_of_pos_right (Nat.succ_pos 5)) hlies

/-- Publishing shows the status flags. -/
theorem HasPlace.readByte_publish (h : b.HasPlace) {core : CoreBlock} (hcore : b.core = some core) :
    (b.publish rack).image.readByte core.statusOffset = .ok b.control.status.bits := by
  rw [b.image_publish rack hcore, CoreBlock.writeStatus]
  exact Image.readByte_writeByte _ (Image.holds_iff.mpr (h core hcore))

/-! ## Histories -/

/-- Everything that a truthful status byte rests on. -/
structure Displays (b : Bridge σ) (settings : Settings) : Prop where
  coherent : b.Coherent
  orderly : b.IsOrderly settings
  size : b.image.size = settings.imageSize
  flags : b.ShowsFlags
  gateways : b.NotesGateways
  place : b.HasPlace

variable {settings : Settings}

theorem Displays.congr {after : Bridge σ} (h : b.Displays settings) (hcoherent : after.Coherent)
    (hfindings : after.findings = b.findings) (hsize : after.image.size = b.image.size)
    (hflags : after.ShowsFlags) (hcore : after.core = b.core) (hround : after.round = b.round)
    (hpoller : after.poller = b.poller) : after.Displays settings := by
  obtain ⟨hsettings, hrest⟩ := Prod.mk.inj hfindings
  obtain ⟨-, hroster⟩ := Prod.mk.inj hrest
  exact ⟨hcoherent, h.orderly.congr hfindings, hsize.trans h.size, hflags,
    h.gateways.congr hsettings hcore hround hpoller fun _ ↦ hroster, h.place.congr hcore hsize⟩

theorem Displays.restart (h : b.Displays settings) (hvalid : settings.Valid) :
    (b.restart rack).2.Displays settings := by
  obtain ⟨hcore, hround, hpoller⟩ : (b.restart rack).2.core = none ∧
      (b.restart rack).2.round = none ∧ (b.restart rack).2.poller = .fresh := by
    rw [restart_eq]
    split <;> exact ⟨rfl, rfl, rfl⟩
  exact ⟨coherent_restart rack b, h.orderly.restart rack hvalid, (size_restart b).trans h.size,
    showsFlags_restart rack b, notesGateways_of_unpolled (fun _ ↦ hround) hround hpoller,
    hasPlace_of_core_eq_none hcore⟩

theorem core_identity_endSurvey (b : Bridge σ) :
    (b.endSurvey rack).roster.core.identity = b.roster.core.identity :=
  congrArg Prod.snd (b.roster.core_device_reconcile b.declared b.image.size b.control.status)

theorem Displays.gateways_work (h : b.Displays settings) (hworking : b.control.state ≠ .stopped)
    (now : UInt64) : (b.work rack now).NotesGateways := by
  have hnoGateway {identity : Identity} (hidentity : identity = settings.coreIdentity) :
      identity.type.isGateway = false := by
    rw [hidentity]
    exact (by decide : ModuleType.core.isGateway = false)
  have hended : ((b.surveyed rack now).endSurvey rack).roster.core.identity =
      settings.coreIdentity :=
    (core_identity_endSurvey rack _).trans (h.orderly.surveyed rack now).core_identity
  have hsurveyed (hunplaced : b.core = none) : (b.surveyed rack now).NotesGateways :=
    h.gateways.congr rfl rfl rfl rfl fun hpolled ↦ absurd (h.gateways.unpolled hunplaced) hpolled
  rcases h.coherent.work_eq rack now hworking with
    ⟨hunplaced, hwork⟩ | ⟨hunplaced, hwork⟩ | hwork <;> rw [hwork]
  · exact hsurveyed hunplaced
  · exact ((hsurveyed hunplaced).endSurvey rack hunplaced).poll rack (hnoGateway hended) now
  · exact h.gateways.poll rack (hnoGateway h.orderly.core_identity) now

theorem Displays.place_work (h : b.Displays settings) (hvalid : settings.Valid) {rack : Rack σ}
    (hrack : rack.KeepsSize) (hworking : b.control.state ≠ .stopped) (now : UInt64) :
    (b.work rack now).HasPlace := by
  obtain ⟨-, t, horderly⟩ := h.orderly.surveyed rack now
  have hsize : 11 ≤ (b.surveyed rack now).image.size := h.size ▸ hvalid.coreBytes_le
  rcases h.coherent.work_eq rack now hworking with ⟨hunplaced, hwork⟩ | ⟨-, hwork⟩ | hwork <;>
    rw [hwork]
  · exact hasPlace_of_core_eq_none hunplaced
  · exact (hasPlace_endSurvey rack horderly.core_device hsize).poll hrack now
  · exact h.place.poll hrack now

theorem Displays.work (h : b.Displays settings) (hvalid : settings.Valid) {rack : Rack σ}
    (hrack : rack.KeepsSize) (hworking : b.control.state ≠ .stopped) (now : UInt64) :
    (b.work rack now).Displays settings where
  coherent := h.coherent.work rack hworking now
  orderly := h.orderly.work rack now
  size := (b.size_work hrack now).trans h.size
  flags := h.flags.work rack now
  gateways := h.gateways_work rack hworking now
  place := h.place_work hvalid hrack hworking now

/-- Before a cycle shows its outcome, everything is as it should be. -/
theorem Displays.exists_shown (h : b.Displays settings) (hvalid : settings.Valid) {rack : Rack σ}
    (hrack : rack.KeepsSize) (now : UInt64) :
    ∃ c : Bridge σ, c.Displays settings ∧
      b.runCycle rack now = (c.applyRunning rack).publish rack := by
  have hreset : (b.resetIfRequested rack).Displays settings := by
    refine b.resetIfRequested_keeps rack (P := fun c ↦ c.Displays settings) ?_
      (fun _ hc ↦ hc.restart rack hvalid) h
    intro c hc
    exact hc.congr (hc.coherent.congr rfl rfl rfl rfl rfl) rfl rfl
      (hc.flags.congr rfl rfl rfl rfl) rfl rfl rfl
  refine ⟨_, ?_, rfl⟩
  split
  · rename_i hstopped
    obtain ⟨bus, hmaintenance⟩ := (b.resetIfRequested rack).performMaintenance_eq rack
    rw [hmaintenance]
    exact hreset.congr (coherent_of_stopped hstopped) rfl rfl
      (hreset.flags.congr rfl rfl rfl rfl) rfl rfl rfl
  · rename_i hworking
    exact hreset.work hvalid hrack hworking now

theorem Displays.shown (h : b.Displays settings) :
    ((b.applyRunning rack).publish rack).Displays settings := by
  have hcoherent := h.coherent.shown rack
  have hflags := h.flags.shown rack
  obtain ⟨status, bus, image, shownLamps, hshown, hsize⟩ := b.shown_eq rack
  rw [hshown] at hcoherent hflags ⊢
  exact h.congr hcoherent rfl hsize hflags rfl rfl rfl

theorem Displays.perform (h : b.Displays settings) (hvalid : settings.Valid) {rack : Rack σ}
    (hrack : rack.KeepsSize) (o : Operation) : (b.perform rack o).Displays settings := by
  cases o with
  | cycle now =>
    obtain ⟨c, hc, hcycle⟩ := h.exists_shown hvalid hrack now
    rw [Bridge.perform, hcycle]
    exact hc.shown rack
  | reset =>
    rw [Bridge.perform, reset_eq]
    exact h.restart rack hvalid
  | stop | requestReset | requestMaintenance _ | writeByte _ _ =>
    exact h.congr (h.coherent.perform rack _) rfl (size_perform hrack b _)
      (h.flags.perform rack _) rfl rfl rfl

theorem displays_start {state : σ} (hb : start rack state settings = .ok b) :
    b.Displays settings := by
  have hcoherent := coherent_start rack hb
  have hflags := showsFlags_start rack hb
  obtain ⟨-, horderly⟩ := isOrderly_start rack hb
  obtain ⟨declared, -, rfl⟩ := eq_of_start hb
  exact ⟨hcoherent, horderly, Image.size_zeroed _, hflags,
    notesGateways_of_unpolled (fun _ ↦ rfl) rfl rfl, hasPlace_of_core_eq_none rfl⟩

/-- A bridge whose status flags are what they should be after a cycle. -/
structure Truthful (b : Bridge σ) : Prop where
  running : b.control.status.contains .running = true ↔ b.control.state = .running
  extra : b.control.status.contains .extraModule = true ↔
    ∃ r, b.report = some r ∧ 0 < r.extra
  missing : b.control.status.contains .missingModule = true ↔
    ∃ r, b.report = some r ∧ 0 < r.missing
  mismatch : b.control.status.contains .sizeMismatch = true ↔
    ∃ r, b.report = some r ∧ r.Misfits
  gateway : ∀ side, b.control.status.contains (.gateway side) = true ↔
    ∃ address, b.poller.gateways.at? side = some address
  /-- Once the roster has been polled, the recorded gateways are its own. -/
  recorded : b.round ≠ none →
    ∀ side, b.poller.gateways.at? side = b.roster.gateway? b.settings.rightBase side
  /-- Two bits have no meaning. -/
  spare : b.control.status.has 6 = false ∧ b.control.status.has 7 = false
  /-- The image shows the flags. -/
  shown : ∀ core, b.core = some core →
    b.image.readByte core.statusOffset = .ok b.control.status.bits

/-- **After a cycle has shown its outcome**, the status flags are what they should be. -/
theorem Displays.truthful_shown (h : b.Displays settings) :
    ((b.applyRunning rack).publish rack).Truthful := by
  have hdone := h.shown rack
  have hplace : (b.applyRunning rack).HasPlace := by
    obtain ⟨status, bus, hrunning⟩ := b.applyRunning_eq rack
    rw [hrunning]
    exact h.place
  have hpublished (core : CoreBlock) (hcore : (b.applyRunning rack).core = some core) :=
    hplace.readByte_publish rack hcore
  obtain ⟨hcore, hcontrol⟩ :
      ((b.applyRunning rack).publish rack).core = (b.applyRunning rack).core ∧
        ((b.applyRunning rack).publish rack).control = (b.applyRunning rack).control := by
    obtain ⟨image, bus, shownLamps, hpublish, -⟩ := (b.applyRunning rack).publish_eq rack
    rw [hpublish]
    exact ⟨rfl, rfl⟩
  obtain ⟨hrunning, hstate⟩ : ((b.applyRunning rack).publish rack).shownRunning = b.isRunning ∧
      ((b.applyRunning rack).publish rack).control.state = b.control.state := by
    obtain ⟨status, bus, image, shownLamps, hshown, -⟩ := b.shown_eq rack
    rw [hshown]
    exact ⟨rfl, rfl⟩
  generalize (b.applyRunning rack).publish rack = c
    at hdone hpublished hcore hcontrol hrunning hstate ⊢
  have hflag (f : Flag) : c.control.status.contains f.status = true ↔ c.Warrants f := by
    rw [Status.contains_status]
    exact hdone.flags.flags f
  refine ⟨?_, hflag .extraModule, hflag .missingModule, hflag .sizeMismatch, fun side ↦ ?_,
    hdone.gateways.recorded, ⟨hdone.flags.spare 6 (by simp), hdone.flags.spare 7 (by simp)⟩,
    fun core hplaced ↦ ?_⟩
  · refine (hflag .running).trans ?_
    rw [Warrants, hrunning, hstate, isRunning, beq_iff_eq]
  · rw [← Option.isSome_iff_exists]
    cases side with
    | right => exact hflag .rightGateway
    | left => exact hflag .leftGateway
  · rw [hcontrol]
    exact hpublished core (hcore.symm.trans hplaced)

/-- **The status byte tells the truth** after every cycle, in every history and whatever the rack
does, as long as the drivers leave the size of the image alone. -/
theorem truthful_run {rack : Rack σ} (hrack : rack.KeepsSize) {state : σ}
    (hb : start rack state settings = .ok b) (operations : List Operation) (now : UInt64) :
    ((b.run rack operations).runCycle rack now).Truthful := by
  obtain ⟨hvalid, -⟩ := isOrderly_start rack hb
  have hrun : (b.run rack operations).Displays settings :=
    run_invariant (P := fun c ↦ c.Displays settings) (fun _ o hc ↦ hc.perform hvalid hrack o)
      (displays_start rack hb) operations
  obtain ⟨c, hc, hcycle⟩ := hrun.exists_shown hvalid hrack now
  rw [hcycle]
  exact hc.truthful_shown rack

/-- A module of another type than declared, one that is not declared, one that is missing, and a
gateway. -/
def mixedModules : Chains :=
  { Chains.ofModules
      [⟨⟨0, ⟨96⟩, 0, 0, 0, 0, 2, 2, 0⟩, none, []⟩, ⟨⟨0, ⟨97⟩, 0, 0, 0, 0, 2, 0, 0⟩, none, []⟩]
      [⟨⟨0, ⟨71⟩, 0, 0, 0, 0, 0, 0, 0⟩, none, []⟩] with
    declared :=
      [⟨⟨32⟩, ⟨97⟩, 2, 0, 0, 0, 11, 0, 0, 0⟩, ⟨⟨31⟩, ⟨71⟩, 0, 0, 0, 0, 0, 0, 0, 0⟩,
        ⟨⟨40⟩, ⟨96⟩, 2, 2, 0, 0, 13, 15, 0, 0⟩] }

/-- The modules are found and polled, and the bridge is stopped. -/
def polledHistory : List Operation :=
  (List.range 25).map (fun i ↦ .cycle (50000 * UInt64.ofNat i)) ++ [.stop]

/-- While the bridge runs, all flags are set but that of a gateway on the right side; when it has
stopped, it is no longer shown as running. -/
theorem truthful_run_polledHistory :
    Chains.rack.KeepsSize ∧
      ∃ b, start Chains.rack mixedModules .usual = .ok b ∧
        ((b.run Chains.rack polledHistory).runCycle Chains.rack 1300000).Truthful ∧
        (b.run Chains.rack polledHistory).control.status.bits = 31 ∧
        ((b.run Chains.rack polledHistory).runCycle Chains.rack 1300000).control.status.bits = 30 ∧
        ((b.run Chains.rack polledHistory).runCycle Chains.rack 1300000).poller.gateways.left =
          some ⟨31⟩ :=
  ⟨Chains.rack_keepsSize, _, rfl,
    truthful_run Chains.rack_keepsSize (show start Chains.rack mixedModules .usual = _ from rfl)
      polledHistory 1300000, by decide +kernel, by decide +kernel, by decide +kernel⟩

end Bridge

end RackBus

import RackBus.Proofs.Enrolment
import RackBus.Proofs.RosterHistory

/-!
# A survey of the simulated rack

A survey of the simulated rack brings in the modules of both chains one after the other, until a
chain ends, the addresses of its side run out, or the roster is full.  Modules may ignore requests
for a while, as long as the core has the patience for it.

* `SimulatedModule.IsWaiting` is a module that can be brought in, and `FoundAlong` a chain of them
  of which the nearest ones have been brought in.  `FoundBefore` takes such a chain apart at the
  nearest module that waits.
* `Chains.due` is the number of modules a survey finds on each side.
* `Survey.Drives` says how the enable lines are set, and with it which module hears the core.
* `Site.Explored` is the invariant of a survey at work.  `Site.Explored.enterIfNew` keeps it through
  the first half of a step, `Site.Explored.listen` and `Site.Explored.converse` through the two
  kinds of phases that learn something, and `Site.Explored.step` through a whole step.
-/

set_option autoImplicit false

namespace RackBus

/-! ## Chains -/

/-- A module without an address, which ignores at most `limit` telegrams and then does what it is
asked. -/
structure SimulatedModule.IsWaiting (m : SimulatedModule) (limit : Nat) : Prop where
  address : m.address = none
  ignoring : ∀ x ∈ m.misbehaviours, x.isIgnoring = true
  length_le : m.misbehaviours.length ≤ limit

instance (m : SimulatedModule) (limit : Nat) : Decidable (m.IsWaiting limit) :=
  decidable_of_iff (m.address = none ∧ (∀ x ∈ m.misbehaviours, x.isIgnoring = true) ∧
      m.misbehaviours.length ≤ limit)
    ⟨fun h ↦ ⟨h.1, h.2.1, h.2.2⟩, fun h ↦ ⟨h.address, h.ignoring, h.length_le⟩⟩

/-- The modules of a side, of which the nearest ones have been given the addresses `numbers`.  The
others wait, and the nearest of these has ignored `spent` telegrams. -/
def FoundAlong (start now : List SimulatedModule) (numbers : List Nat) (limit spent : Nat) : Prop :=
  ∃ near far, now = near ++ far ∧
    near.map (fun m ↦ m.address.map Address.number) = numbers.map some ∧
    (∀ m ∈ far, m.IsWaiting limit) ∧
    (∀ m, far.head? = some m → m.misbehaviours.length + spent ≤ limit) ∧
    now.map SimulatedModule.identity = start.map SimulatedModule.identity

/-- The modules of a side when not all have been found: `near` have the addresses `numbers`, and
`m` is the nearest one that waits. -/
structure FoundBefore (start near : List SimulatedModule) (m : SimulatedModule)
    (far : List SimulatedModule) (numbers : List Nat) (limit spent : Nat) : Prop where
  numbers_eq : near.map (fun m ↦ m.address.map Address.number) = numbers.map some
  waiting : ∀ n ∈ m :: far, n.IsWaiting limit
  /-- The module has ignored `spent` telegrams, and may yet ignore some more. -/
  patience : m.misbehaviours.length + spent ≤ limit
  identities : (near ++ m :: far).map SimulatedModule.identity =
    start.map SimulatedModule.identity

namespace FoundAlong

variable {start now : List SimulatedModule} {numbers : List Nat} {limit spent : Nat}

/-- At first all of them wait. -/
theorem of_isWaiting (h : ∀ m ∈ start, m.IsWaiting limit) : FoundAlong start start [] limit 0 :=
  ⟨[], start, rfl, rfl, h, fun m hm ↦ (h m (List.mem_of_mem_head? hm)).length_le, rfl⟩

theorem length_le (h : FoundAlong start now numbers limit spent) :
    numbers.length ≤ start.length := by
  obtain ⟨near, far, rfl, hnear, -, -, hidentity⟩ := h
  have hlength := congrArg List.length hnear
  have htotal := congrArg List.length hidentity
  simp only [List.length_map, List.length_append] at hlength htotal
  omega

/-- Less may have been ignored. -/
theorem mono {spent' : Nat} (h : FoundAlong start now numbers limit spent) (hle : spent' ≤ spent) :
    FoundAlong start now numbers limit spent' := by
  obtain ⟨near, far, hnow, hnear, hfar, hhead, hidentity⟩ := h
  refine ⟨near, far, hnow, hnear, hfar, fun m hm ↦ ?_, hidentity⟩
  have := hhead m hm
  omega

/-- The modules that have been found have the given addresses, the others none. -/
theorem map_address (h : FoundAlong start now numbers limit spent) :
    now.map (fun m ↦ m.address.map Address.number) =
      numbers.map some ++ List.replicate (start.length - numbers.length) none := by
  obtain ⟨near, far, rfl, hnear, hfar, -, hidentity⟩ := h
  have hlength := congrArg List.length hnear
  have htotal := congrArg List.length hidentity
  simp only [List.length_map, List.length_append] at hlength htotal
  rw [List.map_append, hnear]
  congr 1
  rw [List.eq_replicate_iff]
  refine ⟨by rw [List.length_map]; omega, fun a ha ↦ ?_⟩
  obtain ⟨m, hm, rfl⟩ := List.mem_map.mp ha
  rw [(hfar m hm).address, Option.map_none]

theorem number_mem (h : FoundAlong start now numbers limit spent) {m : SimulatedModule}
    (hm : m ∈ now) {a : Address} (ha : m.address = some a) : a.number ∈ numbers := by
  have hmem : some a.number ∈ now.map fun m ↦ m.address.map Address.number :=
    List.mem_map.mpr ⟨m, hm, by rw [ha, Option.map_some]⟩
  rw [h.map_address, List.mem_append] at hmem
  rcases hmem with hmem | hmem
  · simpa using hmem
  · exact absurd (List.eq_of_mem_replicate hmem) (by simp)

/-- A module waits exactly if not all have been found. -/
theorem any_isNone_iff (h : FoundAlong start now numbers limit spent) :
    (now.any fun m ↦ m.address.isNone) = true ↔ numbers.length < start.length := by
  have hle := h.length_le
  have hany : (now.any fun m ↦ m.address.isNone) = true ↔
      none ∈ now.map fun m ↦ m.address.map Address.number := by
    simp only [List.any_eq_true, List.mem_map, Option.map_eq_none_iff, Option.isNone_iff_eq_none]
  rw [hany, h.map_address, List.mem_append, List.mem_replicate]
  simp only [List.mem_map, reduceCtorEq, and_false, exists_false, false_or, and_true]
  omega

/-- If not all have been found, there is a nearest one that waits. -/
theorem exists_waiting (h : FoundAlong start now numbers limit spent)
    (hlt : numbers.length < start.length) :
    ∃ near m far, now = near ++ m :: far ∧ FoundBefore start near m far numbers limit spent := by
  obtain ⟨near, far, rfl, hnear, hfar, hhead, hidentity⟩ := h
  have hlength := congrArg List.length hnear
  have htotal := congrArg List.length hidentity
  simp only [List.length_map, List.length_append] at hlength htotal
  cases far with
  | nil =>
    rw [List.length_nil] at htotal
    omega
  | cons m far => exact ⟨near, m, far, rfl, hnear, hfar, hhead m rfl, hidentity⟩

end FoundAlong

namespace FoundBefore

variable {start near far : List SimulatedModule} {m : SimulatedModule} {numbers : List Nat}
  {limit spent : Nat}

/-- The module ignores a telegram. -/
theorem skip (h : FoundBefore start near m far numbers limit spent) (hm : m.misbehaviours ≠ []) :
    FoundAlong start (near ++ m.skip :: far) numbers limit (spent + 1) := by
  have hpatience := h.patience
  obtain ⟨hwaiting, hfar⟩ := List.forall_mem_cons.mp h.waiting
  have hlength : m.skip.misbehaviours.length + 1 = m.misbehaviours.length := by
    have := List.length_pos_iff.mpr hm
    rw [SimulatedModule.skip, List.length_tail]
    omega
  have hskip : m.skip.IsWaiting limit :=
    ⟨hwaiting.address, fun x hx ↦ hwaiting.ignoring x (List.mem_of_mem_tail hx), by omega⟩
  refine ⟨near, m.skip :: far, rfl, h.numbers_eq, ?_, ?_, ?_⟩
  · rw [List.forall_mem_cons]
    exact ⟨hskip, hfar⟩
  · intro n hn
    obtain rfl := Option.some.inj hn
    omega
  · rw [← h.identities, List.map_append, List.map_append]
    rfl

/-- The module takes an address. -/
theorem take (h : FoundBefore start near m far numbers limit spent) (a : Address) :
    FoundAlong start (near ++ { m with address := some a } :: far) (numbers ++ [a.number]) limit
      0 := by
  have hfar := (List.forall_mem_cons.mp h.waiting).2
  refine ⟨near ++ [{ m with address := some a }], far, by simp, ?_, hfar, ?_, ?_⟩
  · rw [List.map_append, List.map_append, h.numbers_eq]
    rfl
  · exact fun n hn ↦ (hfar n (List.mem_of_mem_head? hn)).length_le
  · rw [← h.identities, List.map_append, List.map_append]
    rfl

/-- It is the next one of the chain. -/
theorem map_take_succ (h : FoundBefore start near m far numbers limit spent) :
    (start.take (numbers.length + 1)).map SimulatedModule.identity =
      (start.take numbers.length).map SimulatedModule.identity ++ [m.identity] := by
  have hlength : near.length = numbers.length := by
    simpa using congrArg List.length h.numbers_eq
  rw [List.map_take, List.map_take, ← h.identities, ← hlength, List.map_append]
  simp [List.take_append, List.take_of_length_le]

end FoundBefore

/-! ## Surveys at work -/

/-- The number of modules a survey finds on each side: as many as there are, as many as there are
addresses for, and no more than the roster has room for. -/
def Chains.due (c : Chains) (settings : Settings) : Tally :=
  let right :=
    min c.right.length (min (settings.rightBase.reach .right) (settings.maxDevices - 1))
  { right := right
    left :=
      min c.left.length (min (settings.rightBase.reach .left) (settings.maxDevices - 1 - right)) }

/-- One more module; the left side comes after the right one. -/
theorem Chains.take_add {c : Chains} {t : Tally} {side : Side} {d : Identity}
    (hturned : side = .left ∨ t.left = 0)
    (hmore : ((c.chain side).take (t.of side + 1)).map SimulatedModule.identity =
      ((c.chain side).take (t.of side)).map SimulatedModule.identity ++ [d]) :
    (c.right.take (t.add side).right ++ c.left.take (t.add side).left).map
        SimulatedModule.identity =
      (c.right.take t.right ++ c.left.take t.left).map SimulatedModule.identity ++ [d] := by
  rw [List.map_append, List.map_append]
  cases side with
  | right =>
    have hmore : (c.right.take (t.right + 1)).map SimulatedModule.identity =
      (c.right.take t.right).map SimulatedModule.identity ++ [d] := hmore
    have hleft : t.left = 0 := hturned.resolve_left (by simp)
    simp [Tally.add, hleft, hmore]
  | left =>
    have hmore : (c.left.take (t.left + 1)).map SimulatedModule.identity =
      (c.left.take t.left).map SimulatedModule.identity ++ [d] := hmore
    simp [Tally.add, hmore]

namespace Phase

/-- The survey turns to the left side by listening there. -/
theorem isLeft_of_successor {p q : Phase} (h : q ∈ p.successors) (hq : q.isLeft = true)
    (hfirst : q ≠ first .left) : p.isLeft = true := by
  cases p with
  | begin | pulse | settle =>
    simp only [successors, List.mem_singleton] at h
    subst h
    exact absurd hq (by decide)
  | first side | enable side | dialogue side | next side =>
    cases side with
    | left => rfl
    | right =>
      simp only [successors, after, List.mem_cons, List.not_mem_nil, or_false] at h
      rcases h with rfl | rfl <;> first | exact absurd hq (by decide) | exact absurd rfl hfirst
  | finished => rfl

/-- Before modules of a side are spoken to, they have been woken. -/
theorem spoken_of_successor {p q : Phase} {side : Side} (h : q ∈ p.successors)
    (hq : q = dialogue side ∨ q = next side) :
    p = dialogue side ∨ p = next side ∨ p = enable side := by
  have hafter (s : Side) (h : q = after s) : False := by
    subst h
    cases s <;> simp [after] at hq
  cases p with
  | begin | pulse | settle =>
    simp only [successors, List.mem_singleton] at h
    subst h
    simp at hq
  | first s =>
    simp only [successors, List.mem_cons, List.not_mem_nil, or_false] at h
    rcases h with rfl | h
    · simp at hq
    · exact (hafter s h).elim
  | enable s =>
    simp only [successors, List.mem_singleton] at h
    subst h
    simpa using hq
  | dialogue s =>
    simp only [successors, List.mem_cons, List.not_mem_nil, or_false] at h
    rcases h with rfl | h
    · simpa using hq
    · exact (hafter s h).elim
  | next s =>
    simp only [successors, List.mem_cons, List.not_mem_nil, or_false] at h
    rcases h with rfl | h
    · simpa using hq
    · exact (hafter s h).elim
  | finished => simp [successors] at h

end Phase

namespace Chains

section WithChain

variable (c : Chains) (side : Side) (modules : List SimulatedModule)

@[simp] theorem rightSense_withChain : (c.withChain side modules).rightSense = c.rightSense := by
  cases side <;> rfl

@[simp] theorem leftSense_withChain : (c.withChain side modules).leftSense = c.leftSense := by
  cases side <;> rfl

@[simp] theorem rightLine_withChain : (c.withChain side modules).rightLine = c.rightLine := by
  cases side <;> rfl

@[simp] theorem line_withChain (s : Side) : (c.withChain side modules).line s = c.line s := by
  cases side <;> cases s <;> rfl

end WithChain

section Drive

variable (c : Chains) (side : Side) (line : Line)

@[simp] theorem chain_drive (s : Side) : (c.drive side line).chain s = c.chain s := by
  cases side <;> cases s <;> rfl

@[simp] theorem rightSense_drive : (c.drive side line).rightSense = c.rightSense := by
  cases side <;> rfl

@[simp] theorem leftSense_drive : (c.drive side line).leftSense = c.leftSense := by
  cases side <;> rfl

@[simp] theorem line_drive_self : (c.drive side line).line side = line := by
  cases side <;> rfl

end Drive

end Chains

@[simp] theorem Bus.rack_drive (bus : Bus Chains) (side : Side) (line : Line) :
    (bus.drive Chains.rack side line).rack = bus.rack.drive side line := rfl

namespace Survey

/-- The enable lines as a survey wants them. -/
structure Drives (s : Survey) (c : Chains) : Prop where
  /-- When the survey turns to the left side, it lets the right one go. -/
  released : s.phase.isLeft = true →
    (s.phase = .first .left ∧ s.entering = true) ∨ c.rightLine = .released
  /-- The modules of a side that is spoken to listen. -/
  high : ∀ side, s.phase = .dialogue side ∨ s.phase = .next side ∨
    (s.phase = .enable side ∧ s.entering = false) → c.line side = .high

/-- Only the phase and the lines count. -/
theorem Drives.congr {s s' : Survey} {c : Chains} (h : s.Drives c) (hphase : s'.phase = s.phase)
    (hentering : s'.entering = s.entering) : s'.Drives c := by
  constructor
  · rw [hphase, hentering]
    exact h.released
  · rw [hphase, hentering]
    exact h.high

theorem Drives.withChain {s : Survey} {c : Chains} (h : s.Drives c) (side : Side)
    (modules : List SimulatedModule) : s.Drives (c.withChain side modules) := by
  constructor
  · rw [Chains.rightLine_withChain]
    exact h.released
  · intro other
    rw [Chains.line_withChain]
    exact h.high other

/-- Only the modules of the side that is spoken to listen. -/
theorem Drives.enabled?_eq {s : Survey} {c : Chains} (h : s.Drives c) {side : Side}
    (hphase : s.phase = .dialogue side) : c.enabled? = some side := by
  have hline := h.high side (Or.inl hphase)
  cases side with
  | right =>
    have hline : c.rightLine = .high := hline
    rw [Chains.enabled?, if_pos hline]
  | left =>
    have hline : c.leftLine = .high := hline
    have hright : c.rightLine = .released :=
      (h.released (by rw [hphase]; rfl)).resolve_left (by simp [hphase])
    rw [Chains.enabled?, hright, if_neg (by decide), if_pos hline]

/-- The lines are right for the next phase as soon as they are for this one. -/
theorem Drives.goTo {s : Survey} {c : Chains} (h : s.Drives c) (hentering : s.entering = false)
    {p : Phase} (hp : p ∈ s.phase.successors) : (s.goTo p).Drives c := by
  have hreleased (hleft : s.phase.isLeft = true) : c.rightLine = .released :=
    (h.released hleft).resolve_left (by simp [hentering])
  constructor
  · intro hleft
    have hleft : p.isLeft = true := hleft
    by_cases hfirst : p = .first .left
    · exact Or.inl ⟨hfirst, rfl⟩
    · refine Or.inr (hreleased ?_)
      exact Phase.isLeft_of_successor hp hleft hfirst
  · intro side hspoken
    have hspoken : p = .dialogue side ∨ p = .next side := by
      rcases hspoken with hd | hn | ⟨-, he⟩
      · exact Or.inl hd
      · exact Or.inr hn
      · exact absurd he (by simp [Survey.goTo])
    rcases Phase.spoken_of_successor hp hspoken with hd | hn | he
    · exact h.high side (Or.inl hd)
    · exact h.high side (Or.inr (Or.inl hn))
    · exact h.high side (Or.inr (Or.inr ⟨he, hentering⟩))

end Survey

/-- **A survey of the rack `c`** that has found the modules of a tally so far. -/
structure Site.Explored (site : Site Chains) (c : Chains) (settings : Settings) (t : Tally) :
    Prop where
  orderly : site.roster.Orderly settings site.survey t
  /-- The number of rows is open. -/
  scanned : site.roster.scanned = none
  /-- The rows have the identities of the nearest modules. -/
  identities : site.roster.modules.map Row.identity =
    (c.right.take t.right ++ c.left.take t.left).map SimulatedModule.identity
  /-- The nearest modules have their addresses, the others wait. -/
  along : ∀ side, FoundAlong (c.chain side) (site.bus.rack.chain side)
    ((List.range (t.of side)).map (settings.rightBase.nth side)) settings.retryLimit.toNat
    (site.survey.spent side)
  /-- The sense lines show the modules. -/
  rightSense : site.bus.rack.rightSense = []
  leftSense : site.bus.rack.leftSense = []
  drives : site.survey.Drives site.bus.rack
  /-- A side is spoken to only if there is a module to speak to. -/
  present : ∀ side, site.survey.phase = .enable side ∨ site.survey.phase = .dialogue side →
    t.of side < (c.chain side).length
  /-- A side is left only when all that could be found on it was found. -/
  done : ∀ side, site.survey.phase.isBeyond side = true → t.of side = (c.due settings).of side

namespace Site

variable {site : Site Chains} {c : Chains} {settings : Settings} {t : Tally}

/-- All rows are those of modules that were found. -/
theorem Explored.size_eq (h : site.Explored c settings t) :
    site.roster.size = t.right + t.left + 1 := by
  have hnumbers := congrArg List.length h.orderly.numbers
  rw [(Roster.found_of_open h.scanned).1, List.length_map, List.length_map] at hnumbers
  rw [Roster.size, hnumbers, length_allotted]

theorem Explored.le_length (h : site.Explored c settings t) (side : Side) :
    t.of side ≤ (c.chain side).length := by
  have hle := (h.along side).length_le
  rw [List.length_map, List.length_range] at hle
  exact hle

/-- When a side has come to an end, all that could be found on it was found. -/
theorem Explored.eq_due (h : site.Explored c settings t) {side : Side}
    (hphase : site.survey.phase.side? = some side)
    (hend : t.of side = (c.chain side).length ∨ t.of side = settings.rightBase.reach side ∨
      settings.maxDevices ≤ site.roster.size) :
    t.of side = (c.due settings).of side := by
  have hsize := h.size_eq
  have hmax := h.orderly.size_le
  have hlength := h.le_length side
  have hreach := h.orderly.allots.le side
  cases side with
  | right =>
    have hleft : t.left = 0 := (h.orderly.turned_of_side? hphase).resolve_left (by simp)
    simp only [Tally.of, Chains.due, Chains.chain] at *
    omega
  | left =>
    have hright : t.right = (c.due settings).right := by
      exact h.done .right (Phase.isLeft_of_side? hphase)
    simp only [Tally.of, Chains.due, Chains.chain] at *
    omega

/-! ### Entering a phase -/

/-- The actions of a phase leave the modules and the sense lines alone. -/
theorem rack_enterIfNew (site : Site Chains) (timings : Timings) (now : UInt64) :
    let after := (site.enterIfNew Chains.rack timings now).bus.rack
    (∀ side, after.chain side = site.bus.rack.chain side) ∧
      after.rightSense = site.bus.rack.rightSense ∧
      after.leftSense = site.bus.rack.leftSense := by
  rw [enterIfNew]
  split
  · rw [enter]
    split <;> simp [Bus.driveBoth]
  · exact ⟨fun _ ↦ rfl, rfl, rfl⟩

/-- They set the lines. -/
theorem drives_enterIfNew (h : site.survey.Drives site.bus.rack) (timings : Timings)
    (now : UInt64) :
    (site.enterIfNew Chains.rack timings now).survey.Drives
      (site.enterIfNew Chains.rack timings now).bus.rack := by
  rw [enterIfNew]
  split
  swap
  · exact h
  have hreleased (hleft : site.survey.phase.isLeft = true)
      (hfirst : site.survey.phase ≠ .first .left) :
      site.bus.rack.rightLine = .released :=
    (h.released hleft).resolve_left fun hf ↦ hfirst hf.1
  rw [enter]
  split <;> rename_i hphase <;> replace hphase : site.survey.phase = _ := hphase
  -- before the right side the lines do not matter
  iterate 3
    exact ⟨fun hleft ↦ absurd (hphase ▸ hleft) (by decide), fun s hs ↦ by simp [hphase] at hs⟩
  · rename_i side
    refine ⟨fun hleft ↦ Or.inr ?_, fun s hs ↦ ?_⟩
    · cases side with
      | right => exact absurd (hphase ▸ hleft) (by decide)
      | left => exact hreleased hleft (by simp [hphase])
    · obtain rfl : side = s := by simpa [hphase] using hs
      rw [Bus.rack_drive, Chains.line_drive_self]
  · exact ⟨fun hleft ↦ Or.inr (hreleased hleft (by simp [hphase])),
      fun s hs ↦ h.high s (by simpa [hphase] using hs)⟩
  · exact ⟨fun _ ↦ Or.inr rfl, fun s hs ↦ by simp [hphase] at hs⟩
  · exact ⟨fun hleft ↦ Or.inr (hreleased hleft (by simp [hphase])),
      fun s hs ↦ by simp [hphase] at hs⟩
  · exact ⟨fun hleft ↦ absurd (hphase ▸ hleft) (by decide), fun s hs ↦ by simp [hphase] at hs⟩
  · exact ⟨fun hleft ↦ Or.inr (hreleased hleft (by simp [hphase])),
      fun s hs ↦ h.high s (by simpa [hphase] using hs)⟩

/-- **Entering a phase** keeps what is known. -/
theorem Explored.enterIfNew (h : site.Explored c settings t) (timings : Timings) (now : UInt64) :
    (site.enterIfNew Chains.rack timings now).Explored c settings t := by
  obtain ⟨hchain, hright, hleft⟩ := rack_enterIfNew site timings now
  have hroster := roster_enterIfNew site Chains.rack timings now
  have hphase := phase_enterIfNew site Chains.rack timings now
  exact
    { orderly := by
        rw [hroster]
        exact h.orderly.quiet (next?_enterIfNew site Chains.rack timings now)
          (by rw [hphase]; exact id)
          (Or.inr h.scanned)
      scanned := by rw [hroster, h.scanned]
      identities := by rw [hroster, h.identities]
      along := fun side ↦ by
        rw [hchain]
        exact (h.along side).mono (Nat.le_of_eq (site.spent_enterIfNew Chains.rack timings now side))
      rightSense := hright.trans h.rightSense
      leftSense := hleft.trans h.leftSense
      drives := drives_enterIfNew h.drives timings now
      present := by rw [hphase]; exact h.present
      done := by rw [hphase]; exact h.done }

/-! ### Leaving a phase -/

/-- **Going to the next phase** keeps what is known, if there is somebody to speak to there, and if
a side that is left has come to an end. -/
theorem Explored.goTo (h : site.Explored c settings t) (hentering : site.survey.entering = false)
    {p : Phase} (hp : p ∈ site.survey.phase.successors)
    (hpresent : ∀ side, p = .enable side ∨ p = .dialogue side →
      t.of side < (c.chain side).length)
    (hdone : ∀ side, p.isBeyond side = true → t.of side = (c.due settings).of side) :
    (site.goTo (some p)).Explored c settings t where
  orderly := h.orderly.quiet (fun side ↦ by cases side <;> rfl)
    (Phase.isLeft_of_mem_successors hp) (Or.inr h.scanned)
  scanned := h.scanned
  identities := h.identities
  along side := by
    refine (h.along side).mono ?_
    rw [Survey.spent_of_entering rfl]
    exact Nat.zero_le _
  rightSense := h.rightSense
  leftSense := h.leftSense
  drives := h.drives.goTo hentering hp
  present := hpresent
  done := hdone

/-- A side is left when it has come to an end. -/
theorem Explored.leave (h : site.Explored c settings t) (hentering : site.survey.entering = false)
    {side : Side} (hphase : site.survey.phase.side? = some side)
    (hp : .after side ∈ site.survey.phase.successors)
    (hend : t.of side = (c.chain side).length ∨ t.of side = settings.rightBase.reach side ∨
      settings.maxDevices ≤ site.roster.size) :
    (site.goTo (some (.after side))).Explored c settings t := by
  have hdue := h.eq_due hphase hend
  refine h.goTo hentering hp (fun s hs ↦ ?_) fun s hs ↦ ?_
  · cases side <;> simp [Phase.after] at hs
  · rcases side.eq_or_eq_other s with rfl | rfl
    · exact hdue
    · cases side with
      | right => exact absurd hs (by decide)
      | left => exact h.done .right (Phase.isLeft_of_side? hphase)

/-- Only the modules and the wires of the rack count. -/
theorem Explored.setBus (h : site.Explored c settings t) {bus : Bus Chains}
    (hbus : bus.rack = site.bus.rack) : { site with bus := bus }.Explored c settings t :=
  { orderly := h.orderly
    scanned := h.scanned
    identities := h.identities
    along := fun side ↦ hbus ▸ h.along side
    rightSense := hbus ▸ h.rightSense
    leftSense := hbus ▸ h.leftSense
    drives := hbus ▸ h.drives
    present := h.present
    done := h.done }

/-- A sense line shows whether there is another module. -/
theorem Explored.waits_iff (h : site.Explored c settings t) (side : Side) :
    site.bus.rack.waits side = true ↔ t.of side < (c.chain side).length := by
  rw [Chains.waits, (h.along side).any_isNone_iff, List.length_map, List.length_range]

theorem Explored.sense_eq (h : site.Explored c settings t) (side : Side) :
    ∃ bus, site.bus.sense Chains.rack side = (site.bus.rack.waits side, bus) ∧
      bus.rack = site.bus.rack := by
  have hsense : Chains.sense side site.bus.rack = (site.bus.rack.waits side, site.bus.rack) := by
    cases side with
    | right => rw [Chains.sense, h.rightSense]
    | left => rw [Chains.sense, h.leftSense]
  have hrack : Chains.rack.sense side site.bus.rack = Chains.sense side site.bus.rack := rfl
  rw [Bus.sense, hrack, hsense]
  exact ⟨_, rfl, rfl⟩

/-- **Listening** tells whether there is another module on the side. -/
theorem Explored.listen (h : site.Explored c settings t) (hentering : site.survey.entering = false)
    {side : Side} {next : Phase}
    (hphase : site.survey.phase = .first side ∧ next = .enable side ∨
      site.survey.phase = .next side ∧ next = .dialogue side) :
    ((site.listen Chains.rack side next).2.goTo (site.listen Chains.rack side next).1).Explored c
      settings t := by
  have hside : site.survey.phase.side? = some side := by
    rcases hphase with ⟨hp, -⟩ | ⟨hp, -⟩ <;> rw [hp] <;> rfl
  have hsuccessors : site.survey.phase.successors = [next, .after side] := by
    rcases hphase with ⟨hp, rfl⟩ | ⟨hp, rfl⟩ <;> rw [hp] <;> rfl
  have hnext (s : Side) (hs : next = .enable s ∨ next = .dialogue s) : s = side := by
    rcases hphase with ⟨-, rfl⟩ | ⟨-, rfl⟩ <;> simpa [eq_comm] using hs
  obtain ⟨bus, hsense, hrack⟩ := h.sense_eq side
  have hbus := h.setBus hrack
  rw [Site.listen, hsense]
  cases hwaits : site.bus.rack.waits side with
  | true =>
    have hlt := (h.waits_iff side).mp hwaits
    show ({ site with bus := bus }.goTo (some next)).Explored c settings t
    refine hbus.goTo hentering (by simp [hsuccessors]) (fun s hs ↦ ?_) fun s hs ↦ ?_
    · rw [hnext s hs]
      exact hlt
    · refine h.done s ?_
      rcases hphase with ⟨hp, rfl⟩ | ⟨hp, rfl⟩ <;> rw [hp] <;> cases side <;> cases s <;> exact hs
  | false =>
    have hge : ¬t.of side < (c.chain side).length := fun hlt ↦ by
      rw [(h.waits_iff side).mpr hlt] at hwaits
      exact absurd hwaits (by simp)
    have hle := h.le_length side
    show ({ site with bus := bus }.goTo (some (.after side))).Explored c settings t
    exact hbus.leave hentering hside (by simp [hsuccessors]) (Or.inl (by omega))

/-- The next module of a side that is spoken to hears the core. -/
theorem Explored.exists_hears (h : site.Explored c settings t)
    {side : Side} (hphase : site.survey.phase = .dialogue side) {address : Address}
    (hfree : site.survey.next? side = some address) :
    ∃ near m far, site.bus.rack.Hears address side near m far ∧
      FoundBefore (c.chain side) near m far
        ((List.range (t.of side)).map (settings.rightBase.nth side)) settings.retryLimit.toNat
        (site.survey.spent side) := by
  obtain ⟨hnumber, hreach⟩ := h.orderly.allots.number_next hfree
  obtain ⟨near, m, far, hchain, hbefore⟩ := (h.along side).exists_waiting (by
    rw [List.length_map, List.length_range]
    exact h.present side (Or.inr hphase))
  refine ⟨near, m, far, ?_, hbefore⟩
  exact
    { single := by
        have hlt := Address.nth_lt hreach
        rw [← hnumber] at hlt
        rw [Address.isBroadcast, beq_eq_false_iff_ne]
        intro heq
        rw [heq] at hlt
        exact absurd hlt (by decide)
      enabled := h.drives.enabled?_eq hphase
      chain := hchain
      near_address := fun n hn hnone ↦ by
        have hmem : n.address.map Address.number ∈
            ((List.range (t.of side)).map (settings.rightBase.nth side)).map some :=
          hbefore.numbers_eq ▸ List.mem_map_of_mem hn
        rw [hnone, Option.map_none] at hmem
        simp at hmem
      address_eq := (List.forall_mem_cons.mp hbefore.waiting).1.address
      free := fun s n hn hsome ↦ by
        have hmem := (h.along s).number_mem hn hsome
        obtain ⟨i, hi, heq⟩ := List.mem_map.mp hmem
        rw [List.mem_range] at hi
        have hle := h.orderly.allots.le s
        obtain ⟨rfl, rfl⟩ := Address.nth_injective (by omega) hreach (heq.trans hnumber)
        omega }

/-- The next module ignores a request. -/
theorem Explored.ignored (h : site.Explored c settings t) {side : Side}
    (hphase : site.survey.phase = .dialogue side) {near far : List SimulatedModule}
    {m : SimulatedModule} {bus : Bus Chains}
    (hbefore : FoundBefore (c.chain side) near m far
      ((List.range (t.of side)).map (settings.rightBase.nth side)) settings.retryLimit.toNat
      (site.survey.spent side)) (hm : m.misbehaviours ≠ [])
    (hbus : bus.rack = site.bus.rack.withChain side (near ++ m.skip :: far)) :
    { site with survey := site.survey.countFailure, bus := bus }.Explored c settings t :=
  { orderly := h.orderly.quiet (fun s ↦ by cases s <;> rfl) id (Or.inr h.scanned)
    scanned := h.scanned
    identities := h.identities
    along := fun s ↦ by
      rw [hbus]
      rcases side.eq_or_eq_other s with rfl | rfl
      · rw [Chains.chain_withChain_self]
        exact (hbefore.skip hm).mono (site.survey.spent_countFailure_le s)
      · rw [Chains.chain_withChain_other]
        refine (h.along side.other).mono ?_
        rw [Survey.spent_of_phase_ne]
        · exact Nat.zero_le _
        · intro hother
          rw [show site.survey.phase = .dialogue side.other from hother] at hphase
          cases side <;> simp [Side.other] at hphase
    rightSense := by rw [hbus, Chains.rightSense_withChain, h.rightSense]
    leftSense := by rw [hbus, Chains.leftSense_withChain, h.leftSense]
    drives := hbus ▸ (h.drives.withChain side _).congr rfl rfl
    present := h.present
    done := h.done }

/-- The next module takes its address. -/
theorem Explored.enrolled (h : site.Explored c settings t)
    (hentering : site.survey.entering = false) {side : Side}
    (hphase : site.survey.phase = .dialogue side) {address : Address}
    (hfree : site.survey.next? side = some address) {near far : List SimulatedModule}
    {m : SimulatedModule} {bus : Bus Chains} {roster : Roster}
    (hbefore : FoundBefore (c.chain side) near m far
      ((List.range (t.of side)).map (settings.rightBase.nth side)) settings.retryLimit.toNat
      (site.survey.spent side))
    (hbus : bus.rack = site.bus.rack.withChain side
      (near ++ { m with address := some address } :: far))
    (hroster : site.roster.append address m.identity = .ok roster) :
    ({ survey := site.survey.advance side, bus := bus, roster := roster : Site Chains }.goTo
      (some (.next side))).Explored c settings (t.add side) := by
  obtain ⟨hnumber, -⟩ := h.orderly.allots.number_next hfree
  obtain ⟨-, hmodules⟩ := Roster.eq_of_append hroster
  have hdrives : (site.survey.advance side).Drives bus.rack :=
    hbus ▸ (h.drives.withChain side _).congr (by cases side <;> rfl) (by cases side <;> rfl)
  have hmore : ((c.chain side).take (t.of side + 1)).map SimulatedModule.identity =
      ((c.chain side).take (t.of side)).map SimulatedModule.identity ++ [m.identity] := by
    simpa using hbefore.map_take_succ
  have hturned : side = .left ∨ t.left = 0 := h.orderly.turned_of_side? (by rw [hphase]; rfl)
  exact
    { orderly := h.orderly.enrol hphase hfree hroster (fun s ↦ by cases side <;> cases s <;> rfl)
        (by rw [hphase]; cases side <;> exact id)
      scanned := by rw [Site.goTo, hmodules, h.scanned]
      identities := by
        rw [Site.goTo, hmodules, List.map_append, h.identities, Chains.take_add hturned hmore]
        rfl
      along := fun s ↦ by
        rw [Survey.spent_of_entering rfl]
        show FoundAlong _ (bus.rack.chain s) _ _ _
        rw [hbus]
        rcases side.eq_or_eq_other s with rfl | rfl
        · rw [Chains.chain_withChain_self, Tally.of_add_self, List.range_succ, List.map_append,
            List.map_singleton, ← hnumber]
          exact hbefore.take address
        · rw [Chains.chain_withChain_other, Tally.of_add_other]
          exact (h.along side.other).mono (Nat.zero_le _)
      rightSense := by
        show bus.rack.rightSense = []
        rw [hbus, Chains.rightSense_withChain, h.rightSense]
      leftSense := by
        show bus.rack.leftSense = []
        rw [hbus, Chains.leftSense_withChain, h.leftSense]
      drives := hdrives.goTo (by cases side <;> exact hentering)
        (by cases side <;> exact hphase ▸ by simp [Phase.successors])
      present := fun s hs ↦ by simp [Site.goTo, Survey.goTo] at hs
      done := fun s hs ↦ by
        have hs : (Phase.next side).isBeyond s = true := hs
        cases side with
        | right => cases s <;> exact absurd hs (by decide)
        | left =>
          cases s with
          | right => exact h.done .right (by rw [hphase]; rfl)
          | left => exact absurd hs (by decide) }

/-- **A conversation** brings in the next module, or uses up some of its patience, or ends the
side. -/
theorem Explored.converse (h : site.Explored c settings t)
    (hentering : site.survey.entering = false) {side : Side}
    (hphase : site.survey.phase = .dialogue side) :
    ∃ t', ((site.converse Chains.rack settings side).2.goTo
      (site.converse Chains.rack settings side).1).Explored c settings t' := by
  have hside : site.survey.phase.side? = some side := by rw [hphase]; rfl
  have hafter : .after side ∈ site.survey.phase.successors := by
    rw [hphase]
    simp [Phase.successors]
  rw [Site.converse]
  split
  · rename_i hnone
    exact ⟨t, h.leave hentering hside hafter (Or.inr (Or.inl (h.orderly.allots.eq_reach hnone)))⟩
  · rename_i address hfree
    split
    · rename_i hfull
      refine ⟨t, h.leave hentering hside hafter (Or.inr (Or.inr ?_))⟩
      simpa [Roster.isFull, h.orderly.capacity] using hfull
    · rename_i hroom
      obtain ⟨near, m, far, hears, hbefore⟩ := h.exists_hears hphase hfree
      cases hm : m.misbehaviours with
      | cons x rest =>
        have hx := (List.forall_mem_cons.mp hbefore.waiting).1.ignoring x (by simp [hm])
        obtain ⟨bus, henrol, hbus⟩ :=
          Bus.enrol_of_ignoring hears hm hx settings.timings.enrolmentPause
        have hpatient : ¬settings.retryLimit < site.survey.countFailure.retries := by
          have hspent : site.survey.spent side = site.survey.retries.toNat :=
            if_pos ⟨hphase, hentering⟩
          have hpatience := hbefore.patience
          rw [hm, List.length_cons, hspent] at hpatience
          rw [UInt8.lt_iff_toNat_lt, Survey.countFailure, toNat_clampByte]
          omega
        simp only [henrol, if_neg hpatient]
        exact ⟨t, h.ignored hphase hbefore (by simp [hm]) hbus⟩
      | nil =>
        obtain ⟨bus, henrol, hbus⟩ :=
          Bus.enrol_of_answering hears hm settings.timings.enrolmentPause
        have happend : site.roster.append address m.identity =
            .ok { site.roster with
              modules := site.roster.modules ++ [.fresh address m.identity] } := by
          rw [Roster.append, if_neg hroom]
        simp only [henrol, happend]
        exact ⟨t.add side, h.enrolled hentering hphase hfree hbefore hbus happend⟩

theorem Explored.check (h : site.Explored c settings t) (hentering : site.survey.entering = false)
    (now : UInt64) :
    ∃ t', ((site.check Chains.rack settings now).2.goTo
      (site.check Chains.rack settings now).1).Explored c settings t' := by
  -- in the phases that only wait nobody is found, and the next phase is not about somebody new
  have hwait {p : Phase} (hp : site.survey.phase.successors = [p])
      (hpresent : ∀ side, p = .enable side ∨ p = .dialogue side →
        t.of side < (c.chain side).length)
      (hbeyond : ∀ side, p.isBeyond side = true → site.survey.phase.isBeyond side = true)
      (elapsed : Bool) : (site.goTo (if elapsed then some p else none)).Explored c settings t := by
    cases elapsed with
    | true => exact h.goTo hentering (by simp [hp]) hpresent fun s hs ↦ h.done s (hbeyond s hs)
    | false => exact h
  rw [Site.check]
  split <;> rename_i hphase
  · exact ⟨t, hwait (by rw [hphase]; rfl) (by simp)
      (fun s hs ↦ by cases s <;> exact absurd hs (by decide)) true⟩
  · exact ⟨t, hwait (by rw [hphase]; rfl) (by simp)
      (fun s hs ↦ by cases s <;> exact absurd hs (by decide)) _⟩
  · exact ⟨t, hwait (by rw [hphase]; rfl) (by simp)
      (fun s hs ↦ by cases s <;> exact absurd hs (by decide)) _⟩
  · exact ⟨t, h.listen hentering (Or.inl ⟨hphase, rfl⟩)⟩
  · rename_i side
    refine ⟨t, hwait (p := .dialogue side) (by rw [hphase]; rfl) (fun s hs ↦ ?_) (fun s hs ↦ ?_) _⟩
    · obtain rfl : side = s := by simpa using hs
      exact h.present side (Or.inl hphase)
    · rw [hphase]
      cases side <;> cases s <;> exact hs
  · exact h.converse hentering hphase
  · exact ⟨t, h.listen hentering (Or.inr ⟨hphase, rfl⟩)⟩
  · exact ⟨t, h⟩

/-- **A step keeps what is known** of the modules found. -/
theorem Explored.step (h : site.Explored c settings t) (now : UInt64) :
    ∃ t', (site.step Chains.rack settings now).2.Explored c settings t' := by
  rw [step_eq]
  exact (h.enterIfNew settings.timings now).check (entering_enterIfNew ..) now

end Site

end RackBus

import IolHat.PhysicalLayer.Driver

/-!
# Interrupts and the threads of the ports

An interrupt of the chip wakes the threads of both ports (`iolink_14819_isr`). Each of them
(`dl_main`) takes its flags and tests one after the other; one of the flags makes it look for the
cause of the interrupt, and what it finds for either channel becomes a flag of that channel's
thread. A third thread resets a port (`iolink_dl_reset`), and takes away with it what the port's
thread has in hand.

A message that has been announced is announced once: `data_ready` keeps the driver from repeating it
until the thread has fetched the message. `Drv.serve_ready` and `Drv.serve_wurq` say so of the
services.
-/

namespace IolHat

namespace Max14819

/-! ### The threads -/

/-- The flags in the event of a port. -/
inductive DlFlag
  | pl (f : PlFlag)
  | status | mdh | mh | timeout | timeoutTcyc
  deriving DecidableEq

/-- The flags that `dl_main` waits for, `mask`. -/
def dlMask : List DlFlag :=
  [.pl .plEvent, .pl .rxrdy, .pl .rxerr, .pl .txerr, .pl .wurq, .mdh, .mh, .timeout, .timeoutTcyc]

/-- The tests of `dl_main`, in order. The one of `status` is empty. -/
def dlTests : List DlFlag :=
  [.pl .plEvent, .pl .rxrdy, .pl .rxerr, .pl .txerr, .pl .wurq, .status, .mdh, .mh, .timeout]

/-- Where `dl_main` is. -/
inductive DlStage
  /-- Before `os_event_wait`. -/
  | wait
  /-- Before `os_event_clr`. -/
  | clr
  /-- Before the first of these tests. -/
  | tests (rest : List DlFlag)
  deriving DecidableEq

/-- `dl_main`, and the event it waits for. -/
structure DlThread where
  event : DlFlag → Bool := fun _ => false
  triggeredEvents : DlFlag → Bool := fun _ => false
  stage : DlStage := .wait

/-- What happens at a channel. -/
inductive ChannelEntry
  /-- The driver sets a flag. -/
  | signalled (f : PlFlag)
  /-- `iolink_pl_get_data` is called. -/
  | fetched
  /-- `iolink_dl_wurq_recv` is called. -/
  | received
  /-- A wake-up request begins. -/
  | requested
  /-- A wake-up request is given up because the mode changes. -/
  | cancelled
  /-- An announcement is taken out of the hands of the thread. -/
  | dropped
  deriving DecidableEq

/-- The driver of a chip, the threads of its ports, and what has happened, newest last. -/
structure Ports where
  drv : Drv
  thread : ChipChannel → DlThread := fun _ => {}
  log : ChipChannel → List ChannelEntry := fun _ => []

namespace Ports

variable (s : Ports)

@[simps] def modThread (ch : ChipChannel) (f : DlThread → DlThread) : Ports :=
  { s with thread := Function.update s.thread ch (f (s.thread ch)) }

@[simps] def record (ch : ChipChannel) (e : ChannelEntry) : Ports :=
  { s with log := Function.update s.log ch (s.log ch ++ [e]) }

def goto (ch : ChipChannel) (stage : DlStage) : Ports :=
  s.modThread ch fun t => { t with stage := stage }

/-- `os_event_set`. -/
def post (ch : ChipChannel) (f : DlFlag) : Ports :=
  s.modThread ch fun t => { t with event := Function.update t.event f true }

/-- The entries of a channel in the calls of `os_event_set`. -/
def signals (events : List (ChipChannel × PlFlag)) (ch : ChipChannel) : List ChannelEntry :=
  events.filterMap fun e => if e.1 = ch then some (.signalled e.2) else none

/-- What a service is for a wake-up request of a channel. -/
def wurqEntries (d : Drv) (ch : ChipChannel) : Service → List ChannelEntry
  | .initSdci k => if k = ch ∧ d.wurqRequest ch = false then [.requested] else []
  | .setMode k _ _ => if k = ch ∧ d.wurqRequest ch = true then [.cancelled] else []
  | _ => []

/-- A service of the driver. -/
def service (c : ServiceCall) : Ports :=
  let d := ({ s.drv with events := [] } : Drv).serve c
  { drv := d
    thread := fun ch => { s.thread ch with
      event := fun f => (s.thread ch).event f || d.events.any fun e => e.1 = ch ∧ .pl e.2 = f }
    log := fun ch => s.log ch ++ wurqEntries s.drv ch c.service ++ signals d.events ch }

/-- `iolink_14819_isr`. -/
def isr : Ports := (s.post .a (.pl .plEvent)).post .b (.pl .plEvent)

/-- The thread of a channel holds a message that has been announced. -/
def holds (f : DlFlag) (t : DlThread) : Bool :=
  match t.stage with
  | .tests rest => t.triggeredEvents f && decide (f ∈ rest)
  | _ => false

/-- `iolink_dl_reset`, as far as the flags go. -/
def dlReset (ch : ChipChannel) : Ports :=
  (if holds (.pl .rxrdy) (s.thread ch) then s.record ch .dropped else s).modThread ch fun t =>
    { t with triggeredEvents := fun _ => false }

/-- A test that has found its flag; `len` and `inband` belong to `iolink_pl_get_data`. -/
def found (ch : ChipChannel) (chip : Reg → Octet) (len inband : Octet) : DlFlag → Ports
  | .pl .plEvent => s.service ⟨.plHandler ch, chip⟩
  | .pl .rxrdy => (s.service ⟨.getData ch len inband, chip⟩).record ch .fetched
  | .pl .wurq => s.record ch .received
  | _ => s

/-- The next step of `dl_main`. What its state machines ask of the driver are steps of their
own. -/
def loop (ch : ChipChannel) (chip : Reg → Octet) (len inband : Octet) : Ports :=
  let t := s.thread ch
  match t.stage with
  | .wait =>
    if dlMask.all fun f => t.event f = false then s
    else
      s.modThread ch fun t =>
        { t with triggeredEvents := fun f => t.event f && decide (f ∈ dlMask), stage := .clr }
  | .clr =>
    s.modThread ch fun t =>
      { t with event := fun f => t.event f && !t.triggeredEvents f, stage := .tests dlTests }
  | .tests [] => s.goto ch .wait
  | .tests (f :: rest) =>
    if t.triggeredEvents f then (s.goto ch (.tests rest)).found ch chip len inband f
    else s.goto ch (.tests rest)

/-! ### Runs -/

/-- A step of a thread. -/
inductive Move
  | isr
  /-- A flag that is not the driver's is set. -/
  | post (ch : ChipChannel) (f : DlFlag) (hf : ∀ g, f ≠ .pl g)
  /-- A service that `dl_main` does not call itself. -/
  | service (c : ServiceCall) (hc : ∀ ch len inband, c.service ≠ .getData ch len inband)
  | dlReset (ch : ChipChannel)
  | loop (ch : ChipChannel) (chip : Reg → Octet) (len inband : Octet)

def step : Move → Ports
  | .isr => s.isr
  | .post ch f _ => s.post ch f
  | .service c _ => s.service c
  | .dlReset ch => s.dlReset ch
  | .loop ch chip len inband => s.loop ch chip len inband

/-- What the threads can make of it. -/
abbrev Reaches (reg : Reg → Octet) : Ports → Prop :=
  Runs.Reaches step (fun _ _ => True) { drv := Drv.init reg }

end Ports

/-! ### The books of the driver -/

/-- What a service does to the announcements and wake-up requests of a channel: it announces a
message only if none waits, and ends a request by telling its thread. -/
structure Drv.Keeps (ch : ChipChannel) (d d' : Drv) : Prop where
  ready : d'.events.count (ch, .rxrdy) + (d.dataReady ch).toNat =
    d.events.count (ch, .rxrdy) + (d'.dataReady ch).toNat
  kept : d.dataReady ch = true → d'.dataReady ch = true
  wurq : d'.events.count (ch, .wurq) + (d'.wurqRequest ch).toNat =
    d.events.count (ch, .wurq) + (d.wurqRequest ch).toNat

namespace Drv

variable {d d₁ d₂ : Drv} {ch k : ChipChannel} {chip : Reg → Octet}

theorem Keeps.refl (d : Drv) : Keeps ch d d := ⟨rfl, id, rfl⟩

theorem Keeps.trans (h₁ : Keeps ch d d₁) (h₂ : Keeps ch d₁ d₂) : Keeps ch d d₂ where
  ready := by
    have h := h₁.ready
    have h' := h₂.ready
    omega
  kept := h₂.kept ∘ h₁.kept
  wurq := by
    have h := h₁.wurq
    have h' := h₂.wurq
    omega

/-- Nothing that has to do with announcements and requests. -/
theorem Keeps.of_same (hready : d₁.dataReady = d.dataReady) (hwurq : d₁.wurqRequest = d.wurqRequest)
    (hevents : d₁.events = d.events) : Keeps ch d d₁ :=
  ⟨by rw [hready, hevents], by rw [hready]; exact id, by rw [hwurq, hevents]⟩

/-- Another flag is set. -/
theorem keeps_osEventSet {f : PlFlag} (hrxrdy : f ≠ .rxrdy) (hwurq : f ≠ .wurq) :
    Keeps ch d (d.osEventSet k f) where
  ready := by simp [hrxrdy]
  kept := id
  wurq := by simp [hwurq]

theorem keeps_channelInterrupts (v : Octet) : Keeps ch d (d.channelInterrupts k v) := by
  have htxerr : Keeps ch d (if v &&& shiftTo interruptTxErrA k ≠ 0 then
      if d.wurqRequest k then d else d.osEventSet k .txerr else d) := by
    split_ifs
    · exact .refl d
    · exact keeps_osEventSet PlFlag.noConfusion PlFlag.noConfusion
    · exact .refl d
  unfold channelInterrupts
  refine htxerr.trans ?_
  dsimp only
  generalize (if v &&& shiftTo interruptTxErrA k ≠ 0 then
      if d.wurqRequest k then d else d.osEventSet k .txerr else d) = d
  have hrxerr : Keeps ch d (if v &&& shiftTo interruptRxErrA k ≠ 0 then d.osEventSet k .rxerr
      else d) := by
    split_ifs
    · exact keeps_osEventSet PlFlag.noConfusion PlFlag.noConfusion
    · exact .refl d
  refine hrxerr.trans ?_
  generalize (if v &&& shiftTo interruptRxErrA k ≠ 0 then d.osEventSet k .rxerr else d) = d
  split_ifs with hset hready
  · exact .refl d
  · by_cases hk : k = ch
    · subst hk
      have hready := Bool.eq_false_iff.mpr hready
      constructor <;> simp [hready]
    · have hk' : ch ≠ k := Ne.symm hk
      constructor <;> simp [hk, hk']
  · exact .refl d

theorem keeps_wurqInterrupt : Keeps ch d (d.wurqInterrupt chip k) := by
  unfold wurqInterrupt
  split_ifs with hrequest hdone
  · by_cases hk : k = ch
    · subst hk
      constructor <;> simp [hrequest]
    · have hk' : ch ≠ k := Ne.symm hk
      constructor <;> simp [hk, Function.update_of_ne hk']
  · exact .refl d
  · exact .refl d

theorem keeps_plHandler : Keeps ch d (d.plHandler chip k) := by
  unfold plHandler
  dsimp only
  have hstatus : ∀ v, Keeps ch d (d.statusInterrupt chip v) := by
    intro v
    unfold statusInterrupt
    split_ifs
    · exact .of_same rfl rfl rfl
    · exact .refl d
  have hchannels := ((hstatus (d.readRegister chip .interrupt)).trans
    (keeps_channelInterrupts (k := .a) (d.readRegister chip .interrupt))).trans
      (keeps_channelInterrupts (k := .b) (d.readRegister chip .interrupt))
  split_ifs
  · exact (hchannels.trans keeps_wurqInterrupt).trans keeps_wurqInterrupt
  · exact hchannels
  · exact .refl d

/-- A mode does not touch announcements, and gives up the request of its channel. -/
theorem setMode_spec (d : Drv) (chip : Reg → Octet) (k : ChipChannel) (mode : PlMode) (v : Octet) :
    (d.setMode chip k mode v).dataReady = d.dataReady ∧
      (d.setMode chip k mode v).events = d.events ∧
      (d.setMode chip k mode v).wurqRequest = Function.update d.wurqRequest k false := by
  cases mode <;> exact ⟨rfl, rfl, rfl⟩

theorem initSdci_spec (d : Drv) (chip : Reg → Octet) (k : ChipChannel) :
    (d.initSdci chip k).2.dataReady = d.dataReady ∧ (d.initSdci chip k).2.events = d.events ∧
      (d.initSdci chip k).2.wurqRequest = Function.update d.wurqRequest k true := by
  unfold initSdci
  split_ifs with hrequest
  · exact ⟨rfl, rfl, (Function.update_eq_self_iff.mpr hrequest.symm).symm⟩
  · dsimp only
    split_ifs <;> exact ⟨rfl, rfl, rfl⟩

theorem getData_spec (d : Drv) (chip : Reg → Octet) (k : ChipChannel) (len inband : Octet) :
    (d.getData chip k len inband).2.dataReady = Function.update d.dataReady k false ∧
      (d.getData chip k len inband).2.wurqRequest = d.wurqRequest ∧
      ((d.getData chip k len inband).2.events = d.events ∨
        (d.getData chip k len inband).2.events = d.events ++ [(k, .plEvent)]) := by
  unfold getData
  dsimp only
  split_ifs <;> first | exact ⟨rfl, rfl, .inl rfl⟩ | exact ⟨rfl, rfl, .inr rfl⟩

/-- A service announces a message only if none waits. -/
theorem serve_ready (d : Drv) (ch : ChipChannel) (c : ServiceCall)
    (hc : ∀ len inband, c.service ≠ .getData ch len inband) :
    (d.serve c).events.count (ch, .rxrdy) + (d.dataReady ch).toNat =
        d.events.count (ch, .rxrdy) + ((d.serve c).dataReady ch).toNat ∧
      (d.dataReady ch = true → (d.serve c).dataReady ch = true) := by
  have hkeeps : ∀ {d'}, Keeps ch d d' → d'.events.count (ch, .rxrdy) + (d.dataReady ch).toNat =
      d.events.count (ch, .rxrdy) + (d'.dataReady ch).toNat ∧
        (d.dataReady ch = true → d'.dataReady ch = true) := fun h => ⟨h.ready, h.kept⟩
  obtain ⟨service, chip⟩ := c
  cases service with
  | setMode k mode v =>
    obtain ⟨hready, hevents, -⟩ := setMode_spec d chip k mode v
    simp only [serve, hready, hevents]
    exact ⟨trivial, id⟩
  | initSdci k =>
    obtain ⟨hready, hevents, -⟩ := initSdci_spec d chip k
    simp only [serve, hready, hevents]
    exact ⟨trivial, id⟩
  | plHandler k => exact hkeeps keeps_plHandler
  | getData k len inband =>
    have hk : ch ≠ k := by
      rintro rfl
      exact hc len inband rfl
    obtain ⟨hready, -, hevents⟩ := getData_spec d chip k len inband
    simp only [serve, hready, Function.update_of_ne hk]
    rcases hevents with hevents | hevents <;> simp [hevents]
  | setPower k power delay =>
    refine hkeeps ?_
    simp only [serve, setPower]
    split_ifs <;> exact .of_same rfl rfl rfl
  | _ => exact hkeeps (.of_same rfl rfl rfl)

/-- A wake-up request ends by telling its thread, or is given up. -/
theorem serve_wurq (d : Drv) (ch : ChipChannel) (c : ServiceCall) :
    (d.serve c).events.count (ch, .wurq) + ((d.serve c).wurqRequest ch).toNat +
        (Ports.wurqEntries d ch c.service).count .cancelled =
      d.events.count (ch, .wurq) + (d.wurqRequest ch).toNat +
        (Ports.wurqEntries d ch c.service).count .requested := by
  have hkeeps : ∀ {d'}, Keeps ch d d' → d'.events.count (ch, .wurq) + (d'.wurqRequest ch).toNat +
      List.count ChannelEntry.cancelled [] = d.events.count (ch, .wurq) +
        (d.wurqRequest ch).toNat + List.count ChannelEntry.requested [] := fun h => h.wurq
  obtain ⟨service, chip⟩ := c
  cases service with
  | setMode k mode v =>
    obtain ⟨-, hevents, hwurq⟩ := setMode_spec d chip k mode v
    simp only [serve, hwurq, hevents, Ports.wurqEntries]
    by_cases hk : k = ch
    · subst hk
      cases hrequest : d.wurqRequest k <;> simp
    · simp [hk, Function.update_of_ne (Ne.symm hk)]
  | initSdci k =>
    obtain ⟨-, hevents, hwurq⟩ := initSdci_spec d chip k
    simp only [serve, hwurq, hevents, Ports.wurqEntries]
    by_cases hk : k = ch
    · subst hk
      cases hrequest : d.wurqRequest k <;> simp
    · simp [hk, Function.update_of_ne (Ne.symm hk)]
  | plHandler k => exact hkeeps keeps_plHandler
  | getData k len inband =>
    obtain ⟨-, hwurq, hevents⟩ := getData_spec d chip k len inband
    simp only [serve, hwurq, Ports.wurqEntries]
    rcases hevents with hevents | hevents <;> simp [hevents]
  | setPower k power delay =>
    refine hkeeps ?_
    simp only [serve, setPower]
    split_ifs <;> exact .of_same rfl rfl rfl
  | _ => exact hkeeps (.of_same rfl rfl rfl)

end Drv

end Max14819

end IolHat

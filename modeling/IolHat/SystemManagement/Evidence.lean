import IolHat.SystemManagement.Comlost
import Mathlib.Logic.Function.Basic
import Mathlib.Tactic.IntervalCases

/-!
# The evidence about a device

During a start-up System Management reads the direct parameter page octet by octet and puts the
octets together to the cycle time, the vendor id and the device id that it compares with the
configuration.

* `Collected` says what of the page has gone into the parameter list when the octets below an
  address have been read; one more octet keeps it (`Sm.collected_storePage`).
* `Matched` is what the checks ask of the evidence (`Sm.doCheckComp_cases`,
  `Sm.doCheckCompV10_cases`).
* `Sm.request` and `Sm.readsSerial` are what a job asks of the layers below.
-/

namespace IolHat

/-! ### Requests -/

/-- A request for an octet of the direct parameter page. -/
inductive PageRequest
  | read (addr : Octet)
  | write (addr : Octet)
  deriving DecidableEq, Repr

/-- The request to the data link layer that a call is. -/
def SmCall.pageRequest : SmCall → Option PageRequest
  | .dlReadReq addr => some (.read addr)
  | .dlWriteReq addr _ => some (.write addr)
  | _ => none

/-- The call asks the application layer for a parameter of the device. -/
def SmCall.readsSerial : SmCall → Bool
  | .alReadReq .. => true
  | _ => false

/-- The states of a start-up, until the port is ready or has failed. -/
def SmState.startingUp : SmState → Bool
  | .readComParameter | .checkCompV10 | .checkVxy | .checkComp | .restartDevice
  | .waitonDLPreoperate | .waitonDLOperate | .checkSerNum => true
  | _ => false

namespace Sm

/-- The last request to the data link layer that the current job has made. -/
def request (sm : Sm) : Option PageRequest := (sm.calls.filterMap SmCall.pageRequest).getLast?

/-- The current job has asked for the serial number. -/
def readsSerial (sm : Sm) : Bool := sm.calls.any SmCall.readsSerial

variable {sm sm' : Sm}

/-- Calls of another kind. -/
theorem request_callAll {cs : List SmCall} (h : cs.filterMap SmCall.pageRequest = []) :
    (sm.callAll cs).request = sm.request := by
  simp [request, h]

theorem readsSerial_callAll (cs : List SmCall) :
    (sm.callAll cs).readsSerial = (sm.readsSerial || cs.any SmCall.readsSerial) := by
  simp [readsSerial]

@[simp]
theorem request_dlReadReq (sm : Sm) (addr : Octet) :
    (sm.dlReadReq addr).request = some (.read addr) := by
  simp [request, dlReadReq, SmCall.pageRequest]

@[simp]
theorem request_dlWriteReq (sm : Sm) (addr value : Octet) :
    (sm.dlWriteReq addr value).request = some (.write addr) := by
  simp [request, dlWriteReq, SmCall.pageRequest]

@[simp]
theorem readsSerial_dlReadReq (sm : Sm) (addr : Octet) :
    (sm.dlReadReq addr).readsSerial = sm.readsSerial := by
  rw [dlReadReq, readsSerial_callAll, readsSerial_callAll]
  split_ifs <;> simp [SmCall.readsSerial, readsSerial]

@[simp]
theorem readsSerial_dlWriteReq (sm : Sm) (addr value : Octet) :
    (sm.dlWriteReq addr value).readsSerial = sm.readsSerial := by
  rw [dlWriteReq, readsSerial_callAll, readsSerial_callAll]
  split_ifs <;> simp [SmCall.readsSerial, readsSerial]

/-- What a job has asked for, with the address of a read noted. -/
structure Asks (sm sm' : Sm) (r : Option PageRequest) (serial : Bool) : Prop where
  config : sm'.configParamlist = sm.configParamlist
  request : sm'.request = r
  addr : ∀ a, r = some (.read a) → sm'.dlAddr = a
  serial : sm'.readsSerial = serial

end Sm

/-! ### The direct parameter page -/

/-- The octets of the direct parameter page that have been read. -/
abbrev Page := Octet → Option Octet

/-- The cycle time is not below the octet that has been read for it. -/
def CycletimeRead (page : Page) (cycletime : Octet) : Prop :=
  ∃ o, page dirParamaMinCycl = some o ∧ o ≤ cycletime

/-- The vendor id consists of the two octets that have been read for it. -/
def VendoridRead (page : Page) (vendorid : UInt16) : Prop :=
  ∃ v₁ v₂, page dirParamaVid1 = some v₁ ∧ page dirParamaVid2 = some v₂ ∧
    vendorid = v₁.toUInt16 <<< 8 ||| v₂.toUInt16

/-- The device id consists of the three octets that have been read for it. -/
def DeviceidRead (page : Page) (deviceid : UInt32) : Prop :=
  ∃ d₁ d₂ d₃, page dirParamaDid1 = some d₁ ∧ page dirParamaDid2 = some d₂ ∧
    page dirParamaDid3 = some d₃ ∧
    deviceid = d₁.toUInt32 <<< 16 ||| d₂.toUInt32 <<< 8 ||| d₃.toUInt32

/-- The octets below an address have been read and are in the parameter list. -/
structure Collected (real : SmpParameterlist) (page : Page) (a : Octet) : Prop where
  cycletime : dirParamaMinCycl < a → CycletimeRead page real.cycletime
  vid1 : a = dirParamaVid2 → ∃ v₁, page dirParamaVid1 = some v₁ ∧
    real.vendorid = v₁.toUInt16 <<< 8
  vendorid : dirParamaVid2 < a → VendoridRead page real.vendorid
  did1 : a = dirParamaDid2 → ∃ d₁, page dirParamaDid1 = some d₁ ∧
    real.deviceid = d₁.toUInt32 <<< 16
  did2 : a = dirParamaDid3 → ∃ d₁ d₂, page dirParamaDid1 = some d₁ ∧
    page dirParamaDid2 = some d₂ ∧
    real.deviceid = d₁.toUInt32 <<< 16 ||| d₂.toUInt32 <<< 8
  deviceid : dirParamaDid3 < a → DeviceidRead page real.deviceid

variable {real config : SmpParameterlist} {page page' : Page} {a : Octet}

/-- Nothing has been read yet. -/
theorem Collected.minCycl : Collected real page dirParamaMinCycl := by
  constructor <;> exact fun h => absurd h (by decide)

/-- The octets from the address on do not matter. -/
theorem Collected.congr (h : Collected real page a) (hpage : ∀ b < a, page' b = page b) :
    Collected real page' a := by
  have hlt : ∀ {b c : Octet}, b < c → c < a → b < a := fun h₁ h₂ => by
    rw [UInt8.lt_iff_toNat_lt] at *
    exact Nat.lt_trans h₁ h₂
  refine ⟨fun ha => ?_, fun ha => ?_, fun ha => ?_, fun ha => ?_, fun ha => ?_, fun ha => ?_⟩
  · obtain ⟨o, ho, hle⟩ := h.cycletime ha
    exact ⟨o, (hpage _ ha).trans ho, hle⟩
  · obtain ⟨v₁, hv₁, hv⟩ := h.vid1 ha
    exact ⟨v₁, (hpage _ (by rw [ha]; decide)).trans hv₁, hv⟩
  · obtain ⟨v₁, v₂, hv₁, hv₂, hv⟩ := h.vendorid ha
    exact ⟨v₁, v₂, (hpage _ (hlt (by decide) ha)).trans hv₁, (hpage _ ha).trans hv₂, hv⟩
  · obtain ⟨d₁, hd₁, hd⟩ := h.did1 ha
    exact ⟨d₁, (hpage _ (by rw [ha]; decide)).trans hd₁, hd⟩
  · obtain ⟨d₁, d₂, hd₁, hd₂, hd⟩ := h.did2 ha
    exact ⟨d₁, d₂, (hpage _ (by rw [ha]; decide)).trans hd₁,
      (hpage _ (by rw [ha]; decide)).trans hd₂, hd⟩
  · obtain ⟨d₁, d₂, d₃, hd₁, hd₂, hd₃, hd⟩ := h.deviceid ha
    exact ⟨d₁, d₂, d₃, (hpage _ (hlt (by decide) ha)).trans hd₁,
      (hpage _ (hlt (by decide) ha)).trans hd₂, (hpage _ ha).trans hd₃, hd⟩

/-- An address without a parameter lies outside the part that is read. -/
private theorem ofAddr_eq_none (h : DirParam.ofAddr a = none) :
    a < dirParamaMinCycl ∨ dirParamaFid2 < a := by
  by_contra hin
  rw [not_or, UInt8.not_lt, UInt8.not_lt, UInt8.le_iff_toNat_le, UInt8.le_iff_toNat_le] at hin
  obtain ⟨hlow, hhigh⟩ := hin
  have h2 : 2 ≤ a.toNat := hlow
  have h13 : a.toNat ≤ 13 := hhigh
  obtain ⟨n, hn⟩ : ∃ n, n = a.toNat := ⟨_, rfl⟩
  have ha : a = UInt8.ofNat n := by
    rw [hn]
    exact (UInt8.ofNat_toNat).symm
  rw [← hn] at h2 h13
  subst ha
  clear hn
  interval_cases n <;> exact absurd h (by decide)

/-- Up to the vendor id the cycle time is all that counts. -/
theorem Collected.of_cycletimeRead (h : CycletimeRead page real.cycletime)
    (ha : a ≤ dirParamaVid1) : Collected real page a := by
  have hnot : ∀ b : Octet, 8 ≤ b.toNat → ¬ b < a ∧ a ≠ b := fun b hb => by
    have ha' : a.toNat ≤ 7 := ha
    refine ⟨fun hlt => ?_, fun heq => ?_⟩
    · have hlt' : b.toNat < a.toNat := hlt
      omega
    · rw [heq] at ha'
      omega
  exact ⟨fun _ => h, fun h => absurd h (hnot _ (by decide)).2,
    fun h => absurd h (hnot _ (by decide)).1, fun h => absurd h (hnot _ (by decide)).2,
    fun h => absurd h (hnot _ (by decide)).2, fun h => absurd h (hnot _ (by decide)).1⟩

namespace Sm

/-- The cycle time is the octet of the device, or the shortest one of the transmission rate. -/
theorem le_newCycletime (sm : Sm) (o : Octet) : o ≤ sm.newCycletime o := by
  rw [newCycletime]
  split_ifs with h
  · exact UInt8.le_of_lt h
  · exact UInt8.le_refl o

/-- A parameter of the page is stored, and its neighbours stay. -/
private theorem collected_storeParam {sm : Sm} {o : Octet} {p : DirParam}
    (h : Collected sm.realParamlist page p.addr) (ho : page p.addr = some o) :
    Collected (sm.storeParam o p).realParamlist page (p.addr + 1) := by
  cases p with
  | minCycl => exact .of_cycletimeRead ⟨o, ho, le_newCycletime sm o⟩ (by decide)
  | mseqCap => exact .of_cycletimeRead (h.cycletime (by decide)) (by decide)
  | revId => exact .of_cycletimeRead (h.cycletime (by decide)) (by decide)
  | pdi => exact .of_cycletimeRead (h.cycletime (by decide)) (by decide)
  | pdo => exact .of_cycletimeRead (h.cycletime (by decide)) (by decide)
  -- an id of several octets: the first one replaces what was there, the others are added to it
  | vid1 =>
    exact ⟨fun _ => h.cycletime (by decide), fun _ => ⟨o, ho, rfl⟩, fun h => absurd h (by decide),
      fun h => absurd h (by decide), fun h => absurd h (by decide), fun h => absurd h (by decide)⟩
  | vid2 =>
    obtain ⟨v₁, hv₁, hv⟩ := h.vid1 rfl
    rw [storeParam, modReal_realParamlist, hv]
    exact ⟨fun _ => h.cycletime (by decide), fun h => absurd h (by decide),
      fun _ => ⟨v₁, o, hv₁, ho, rfl⟩,
      fun h => absurd h (by decide), fun h => absurd h (by decide), fun h => absurd h (by decide)⟩
  | did1 =>
    rw [storeParam, modReal_realParamlist]
    exact ⟨fun _ => h.cycletime (by decide), fun h => absurd h (by decide),
      fun _ => h.vendorid (by decide), fun _ => ⟨o, ho, rfl⟩,
      fun h => absurd h (by decide), fun h => absurd h (by decide)⟩
  | did2 =>
    obtain ⟨d₁, hd₁, hd⟩ := h.did1 rfl
    rw [storeParam, modReal_realParamlist, hd]
    exact ⟨fun _ => h.cycletime (by decide), fun h => absurd h (by decide),
      fun _ => h.vendorid (by decide), fun h => absurd h (by decide),
      fun _ => ⟨d₁, o, hd₁, ho, rfl⟩, fun h => absurd h (by decide)⟩
  | did3 =>
    obtain ⟨d₁, d₂, hd₁, hd₂, hd⟩ := h.did2 rfl
    rw [storeParam, modReal_realParamlist, hd]
    exact ⟨fun _ => h.cycletime (by decide), fun h => absurd h (by decide),
      fun _ => h.vendorid (by decide), fun h => absurd h (by decide),
      fun h => absurd h (by decide), fun _ => ⟨d₁, d₂, o, hd₁, hd₂, ho, rfl⟩⟩
  -- the function id is not kept
  | fid1 =>
    exact ⟨fun _ => h.cycletime (by decide), fun h => absurd h (by decide),
      fun _ => h.vendorid (by decide), fun h => absurd h (by decide),
      fun h => absurd h (by decide), fun _ => h.deviceid (by decide)⟩
  | fid2 =>
    exact ⟨fun _ => h.cycletime (by decide), fun h => absurd h (by decide),
      fun _ => h.vendorid (by decide), fun h => absurd h (by decide),
      fun h => absurd h (by decide), fun _ => h.deviceid (by decide)⟩

/-- Outside the part that is read there is nothing to collect. -/
private theorem collected_of_outside (h : Collected real page a)
    (hnone : DirParam.ofAddr a = none) : Collected real page (a + 1) := by
  have hwrap : (a + 1).toNat = (a.toNat + 1) % 256 := by
    rw [UInt8.toNat_add]
    rfl
  obtain hlow | hhigh := ofAddr_eq_none hnone
  · have hnat : a.toNat < 2 := hlow
    have hnot : ∀ b : Octet, 2 ≤ b.toNat → ¬ b < a + 1 := fun b hb hlt => by
      have hlt' : b.toNat < (a + 1).toNat := hlt
      omega
    have hne : ∀ b : Octet, 3 ≤ b.toNat → a + 1 ≠ b := fun b hb heq => by
      have heq' := congrArg UInt8.toNat heq
      omega
    exact ⟨fun h => absurd h (hnot _ (by decide)), fun h => absurd h (hne _ (by decide)),
      fun h => absurd h (hnot _ (by decide)), fun h => absurd h (hne _ (by decide)),
      fun h => absurd h (hne _ (by decide)), fun h => absurd h (hnot _ (by decide))⟩
  · -- behind the page all of it has been collected, unless the address wraps around
    have hnat : 13 < a.toNat := hhigh
    have hlt : ∀ b : Octet, b.toNat ≤ 13 → b < a := fun b hb => by
      rw [UInt8.lt_iff_toNat_lt]
      omega
    have hne : ∀ b : Octet, 1 ≤ b.toNat → b.toNat ≤ 13 → a + 1 ≠ b := fun b hb hle heq => by
      have heq' := congrArg UInt8.toNat heq
      have := a.toNat_lt
      omega
    exact ⟨fun _ => h.cycletime (hlt _ (by decide)),
      fun h => absurd h (hne _ (by decide) (by decide)),
      fun _ => h.vendorid (hlt _ (by decide)),
      fun h => absurd h (hne _ (by decide) (by decide)),
      fun h => absurd h (hne _ (by decide) (by decide)),
      fun _ => h.deviceid (hlt _ (by decide))⟩

/-- **One more octet.** -/
theorem collected_storePage {sm : Sm} {o : Octet} (h : Collected sm.realParamlist page a)
    (ho : page a = some o) : Collected (sm.storePage a o).realParamlist page (a + 1) := by
  rcases hp : DirParam.ofAddr a with _ | p
  · have hreal : (sm.storePage a o).realParamlist = sm.realParamlist := by
      rw [storePage, hp]
      rfl
    rw [hreal]
    exact collected_of_outside h hp
  · obtain rfl := DirParam.addr_of_ofAddr hp
    have hstore : sm.storePage p.addr o = sm.storeParam o p := by rw [storePage, hp]
    rw [hstore]
    exact collected_storeParam h ho

/-! ### The checks -/

end Sm

/-- What the checks ask for. -/
structure Matched (config real : SmpParameterlist) (page : Page) : Prop where
  cycletime : config.cycletime = 0 ∨ real.cycletime ≤ config.cycletime
  read : CycletimeRead page real.cycletime
  ids : config.inspectionlevel ≠ .noCheck →
    VendoridRead page config.vendorid ∧ DeviceidRead page config.deviceid

/-- A configuration without check, or with the ids of the device. -/
theorem Matched.of_collected (h : Collected real page (dirParamaFid2 + 1))
    (hcycle : ¬ Sm.CycTimeShort config real)
    (hids : config.inspectionlevel ≠ .noCheck →
      config.vendorid = real.vendorid ∧ config.deviceid = real.deviceid) :
    Matched config real page := by
  refine ⟨?_, h.cycletime (by decide), fun hlevel => ?_⟩
  · by_cases hzero : config.cycletime = 0
    · exact .inl hzero
    · exact .inr (UInt8.not_lt.mp fun hlt => hcycle ⟨hzero, hlt⟩)
  · obtain ⟨hv, hd⟩ := hids hlevel
    rw [hv, hd]
    exact ⟨h.vendorid (by decide), h.deviceid (by decide)⟩

namespace Sm

variable {sm : Sm}

theorem doCheckComp_cases (h : Collected sm.realParamlist page (dirParamaFid2 + 1)) :
    (sm.doCheckComp = (sm, .compOK) ∧ Matched sm.configParamlist sm.realParamlist page) ∨
      sm.doCheckComp = (sm, .retryStartup) ∨ sm.doCheckComp = sm.fault .compFault ∨
        sm.doCheckComp = sm.fault .cycTimeFault := by
  unfold doCheckComp
  dsimp only
  split_ifs with hcycle hlevel hvendor hdevice hretry
  · exact .inr (.inr (.inr rfl))
  · exact .inl ⟨rfl, .of_collected h hcycle fun hne => absurd hlevel hne⟩
  · exact .inr (.inr (.inl rfl))
  · exact .inl ⟨rfl, .of_collected h hcycle fun _ => ⟨not_not.mp hvendor, hdevice⟩⟩
  · exact .inr (.inl rfl)
  · exact .inr (.inr (.inl rfl))

theorem doCheckCompV10_cases (h : Collected sm.realParamlist page (dirParamaFid2 + 1)) :
    (sm.doCheckCompV10 = (sm, .v10CompOK) ∧ Matched sm.configParamlist sm.realParamlist page) ∨
      sm.doCheckCompV10 = sm.fault .v10CompFault ∨
        sm.doCheckCompV10 = sm.fault .cycTimeFaultV10 := by
  unfold doCheckCompV10
  dsimp only
  split_ifs with hcycle hlevel hids
  · exact .inr (.inr rfl)
  · exact .inl ⟨rfl, .of_collected h hcycle fun hne => absurd hlevel hne⟩
  · exact .inl ⟨rfl, .of_collected h hcycle fun _ => hids⟩
  · exact .inr (.inl rfl)

end Sm

end IolHat

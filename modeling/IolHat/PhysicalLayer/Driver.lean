import IolHat.Lib.Run
import IolHat.PhysicalLayer.RegStatus
import IolHat.SystemManagement.Machine
import Mathlib.Logic.Function.Basic
import Mathlib.Tactic.IntervalCases

/-!
# The driver of the MAX14819

The driver structure of a chip, and the services of the driver for its two channels. Those that use
the driver structure or the registers below hold a mutex as long as they last, and the others only
write registers of their own channel that change by themselves, so each service is one step here.

Most registers change by themselves; what a service finds in them is an argument of it, and no
service reads such a register twice. The registers that enable interrupts, drive the LEDs and switch
the supply of the ports keep what is written to them. `registers_refine_settings` says what is in
them after any services: what the last settings of the two channels ask for.
-/

namespace IolHat

namespace Max14819

/-! ### Registers -/

/-- The registers, those of a channel with the channel. -/
inductive Reg
  | txRxData (ch : ChipChannel)
  | interrupt
  | interruptEn
  | rxFifoLvl (ch : ChipChannel)
  | cqCtrl (ch : ChipChannel)
  | cqErr (ch : ChipChannel)
  | msgCtrl (ch : ChipChannel)
  | chanStat (ch : ChipChannel)
  | ledCtrl
  | cqCfg (ch : ChipChannel)
  | cyclTmr (ch : ChipChannel)
  | deviceDly (ch : ChipChannel)
  | trigAssgn (ch : ChipChannel)
  | lpCnfg (ch : ChipChannel)
  | ioStCfg (ch : ChipChannel)
  | clock
  | status
  deriving DecidableEq

/-- The register keeps what is written to it. -/
def Reg.held : Reg → Bool
  | .interruptEn | .ledCtrl | .lpCnfg _ => true
  | _ => false

/-- `v << ch`. -/
def shiftTo (v : Octet) : ChipChannel → Octet
  | .a => v
  | .b => v <<< 1

/-- `MAX14819_INTERRUPT_RX_DATA_RDY_A`. -/
abbrev interruptRxDataRdyA : Octet := 0x01

/-- `MAX14819_INTERRUPT_RX_ERR_A`. -/
abbrev interruptRxErrA : Octet := 0x04

/-- `MAX14819_INTERRUPT_TX_ERR_A`. -/
abbrev interruptTxErrA : Octet := 0x10

/-- `MAX14819_INTERRUPT_WURQ` and `MAX14819_INTERRUPTEN_WURQ`. -/
abbrev interruptWurq : Octet := 0x40

/-- `MAX14819_CQCTRL_CQ_SEND`. -/
abbrev cqctrlCqSend : Octet := 0x01

/-- `MAX14819_CQCTRL_CYC_TMR_EN`. -/
abbrev cqctrlCycTmrEn : Octet := 0x02

/-- `MAX14819_CQCTRL_RX_FIFO_RST`. -/
abbrev cqctrlRxFifoRst : Octet := 0x04

/-- `MAX14819_CQCTRL_TX_FIFO_RST`. -/
abbrev cqctrlTxFifoRst : Octet := 0x08

/-- `MAX14819_CQCTRL_EST_COM`. -/
abbrev cqctrlEstCom : Octet := 0x20

/-- `MAX14819_MSGCTRL_INV_CQ`. -/
abbrev msgctrlInvCq : Octet := 0x01

/-- `MAX14819_IOSTCFG_TX`. -/
abbrev iostcfgTx : Octet := 0x10

/-- `MAX14819_IOSTCFG_TXEN`. -/
abbrev iostcfgTxen : Octet := 0x20

/-- `MAX14819_CLOCK_TXTXENDIS`. -/
abbrev clockTxtxendis : Octet := 0x40

/-- `MAX14819_SPI_INBAND_IRQ`. -/
abbrev spiInbandIrq : Octet := 0x10

/-! ### The driver structure -/

/-- The flags of the physical layer in the events of a port. -/
inductive PlFlag
  | plEvent | rxrdy | rxerr | txerr | wurq
  deriving DecidableEq, Repr

/-- `iolink_14819_drv_t`, with the registers of its chip as they were last written. -/
structure Drv where
  reg : Reg → Octet
  wurqRequest : ChipChannel → Bool := fun _ => false
  dataReady : ChipChannel → Bool := fun _ => false
  isIolink : ChipChannel → Bool := fun _ => false
  latchedRegStatus : Octet := 0
  /-- The calls of `os_event_set`, newest last. -/
  events : List (ChipChannel × PlFlag) := []

namespace Drv

variable (d : Drv)

/-- `iolink_14819_write_register`. -/
@[simps] def writeRegister (r : Reg) (v : Octet) : Drv :=
  { d with reg := Function.update d.reg r v }

/-- `iolink_14819_read_register`. -/
def readRegister (chip : Reg → Octet) (r : Reg) : Octet := if r.held then d.reg r else chip r

/-- `os_event_set` on the event of a port. -/
@[simps] def osEventSet (ch : ChipChannel) (f : PlFlag) : Drv :=
  { d with events := d.events ++ [(ch, f)] }

@[simps] def setWurqRequest (ch : ChipChannel) (b : Bool) : Drv :=
  { d with wurqRequest := Function.update d.wurqRequest ch b }

@[simps] def setDataReady (ch : ChipChannel) (b : Bool) : Drv :=
  { d with dataReady := Function.update d.dataReady ch b }

@[simps] def setIsIolink (ch : ChipChannel) (b : Bool) : Drv :=
  { d with isIolink := Function.update d.isIolink ch b }

variable (chip : Reg → Octet) (ch : ChipChannel)

/-! ### Modes -/

/-- The interrupts of a channel are disabled. -/
def disableInterrupts : Drv :=
  d.writeRegister .interruptEn (d.readRegister chip .interruptEn &&& ~~~(shiftTo 0x05 ch))

/-- `iolink_14819_set_DO`. -/
def setDO (cqConfVal : Octet) : Drv :=
  let d := d.disableInterrupts chip ch
  let d := d.writeRegister (.ioStCfg ch) (d.readRegister chip (.ioStCfg ch) ||| iostcfgTxen)
  let d := d.writeRegister (.cqCtrl ch) (cqctrlRxFifoRst ||| cqctrlTxFifoRst)
  let d := d.writeRegister (.msgCtrl ch) msgctrlInvCq
  let d := d.writeRegister (.cqCfg ch) cqConfVal
  let d := d.writeRegister (.trigAssgn ch) 0x00
  (d.setIsIolink ch false).setWurqRequest ch false

/-- `iolink_14819_set_DI`. -/
def setDI (cqConfVal : Octet) : Drv :=
  let d := d.disableInterrupts chip ch
  let d := d.writeRegister (.cqCtrl ch) (cqctrlRxFifoRst ||| cqctrlTxFifoRst)
  let d := d.writeRegister (.msgCtrl ch) msgctrlInvCq
  let d := d.writeRegister (.cqCfg ch) cqConfVal
  let d := d.writeRegister (.trigAssgn ch) 0x00
  (d.setIsIolink ch false).setWurqRequest ch false

/-- `iolink_14819_set_SDCI`, with the values of `iolink_pl_max14819_set_mode`. -/
def setSDCI : Drv :=
  let d := d.disableInterrupts chip ch
  let d := d.writeRegister (.cqCtrl ch) 0x00
  let d := d.writeRegister (.msgCtrl ch) 0x36
  let d := d.writeRegister (.chanStat ch) 0x40
  let d := d.writeRegister (.cyclTmr ch) 0x00
  let d := d.writeRegister (.deviceDly ch) 0x1F
  let d := d.writeRegister (.trigAssgn ch) 0x00
  let d := d.writeRegister (.cqCfg ch) 0x34
  let d := d.writeRegister .interruptEn
    (d.readRegister chip .interruptEn ||| (0xFF &&& shiftTo 0x05 ch))
  d.setIsIolink ch true

/-- `iolink_pl_max14819_set_mode`; `cqConfVal` is what is configured for the channel and mode. -/
def setMode (mode : PlMode) (cqConfVal : Octet) : Drv :=
  match mode with
  | .do_ => d.setDO chip ch cqConfVal
  | .inactive | .di => d.setDI chip ch cqConfVal
  | .sdci =>
    let d := d.writeRegister (.cqCtrl ch) 0x0C
    let d := d.writeRegister (.msgCtrl ch) 0
    let d := d.writeRegister (.chanStat ch) 0
    let d := d.writeRegister (.cqCfg ch) 0
    let d := d.writeRegister (.cyclTmr ch) 0
    let d := d.writeRegister (.deviceDly ch) 0
    let d := d.writeRegister (.trigAssgn ch) 0
    (d.setWurqRequest ch false).setSDCI chip ch

/-! ### Messages -/

/-- `iolink_pl_max14819_send_msg`: `iolink_14819_send_master_message`. -/
def sendMsg : Drv :=
  d.writeRegister (.cqCtrl ch) (d.readRegister chip (.cqCtrl ch) ||| cqctrlCqSend)

/-- `iolink_pl_max14819_dl_msg`, next to the octets: the old message is deleted, and the new one is
kept. -/
def dlMsg : Drv :=
  let d := d.writeRegister (.cqCtrl ch) (d.readRegister chip (.cqCtrl ch) ||| cqctrlTxFifoRst)
  d.writeRegister (.msgCtrl ch) (d.readRegister chip (.msgCtrl ch) ||| 0x08)

/-- `iolink_pl_max14819_enable_cycle_timer`. -/
def enableCycleTimer : Drv :=
  d.writeRegister (.cqCtrl ch) (d.readRegister chip (.cqCtrl ch) ||| cqctrlCycTmrEn)

/-- `iolink_pl_max14819_disable_cycle_timer`. -/
def disableCycleTimer : Drv :=
  d.writeRegister (.cqCtrl ch) (d.readRegister chip (.cqCtrl ch) &&& ~~~cqctrlCycTmrEn)

/-- `iolink_pl_max14819_set_cycletime`. -/
def setCycletime (cycbyte : Octet) : Drv := d.writeRegister (.cyclTmr ch) cycbyte

/-- `iolink_pl_max14819_get_data`, next to the octets; `inband` is what comes back before them. -/
def getData (len inband : Octet) : Bool × Drv :=
  let rxbytes := d.readRegister chip (.rxFifoLvl ch)
  if d.readRegister chip (.txRxData ch) ≠ rxbytes then
    let d := d.writeRegister (.cqCtrl ch) (d.readRegister chip (.cqCtrl ch) ||| cqctrlRxFifoRst)
    (false, d.setDataReady ch false)
  else
    let rxbytes := if len < rxbytes then len else rxbytes
    let d := if 0 < rxbytes ∧ inband &&& spiInbandIrq ≠ 0 then d.osEventSet ch .plEvent else d
    (0 < rxbytes, d.setDataReady ch false)

/-! ### Communication -/

/-- `iolink_pl_max14819_init_sdci`. -/
def initSdci : Bool × Drv :=
  if d.wurqRequest ch then (false, d)
  else
    let cqctrl := d.readRegister chip (.cqCtrl ch) &&& ~~~cqctrlEstCom &&& ~~~cqctrlCycTmrEn &&&
      ~~~cqctrlCqSend
    let d := d.writeRegister (.cqCtrl ch) (cqctrl ||| (cqctrlRxFifoRst ||| cqctrlTxFifoRst))
    let d := d.writeRegister .interruptEn (d.readRegister chip .interruptEn ||| interruptWurq)
    let d :=
      if d.readRegister chip .clock &&& clockTxtxendis ≠ 0 then
        d.writeRegister (.ioStCfg ch)
          (d.readRegister chip (.ioStCfg ch) &&& ~~~(iostcfgTxen ||| iostcfgTx))
      else d
    (true, (d.writeRegister (.cqCtrl ch) cqctrlEstCom).setWurqRequest ch true)

/-- The interrupts of one channel, in `iolink_pl_max14819_pl_handler`. -/
def channelInterrupts (reg : Octet) : Drv :=
  let d :=
    if reg &&& shiftTo interruptTxErrA ch ≠ 0 then
      if d.wurqRequest ch then d -- `iolink_max14819_clear_errors`
      else d.osEventSet ch .txerr
    else d
  let d := if reg &&& shiftTo interruptRxErrA ch ≠ 0 then d.osEventSet ch .rxerr else d
  if reg &&& shiftTo interruptRxDataRdyA ch ≠ 0 then
    if d.dataReady ch then d else (d.setDataReady ch true).osEventSet ch .rxrdy
  else d

/-- The end of a wake-up request, in `iolink_pl_max14819_pl_handler`. -/
def wurqInterrupt : Drv :=
  if d.wurqRequest ch then
    if d.readRegister chip (.cqCtrl ch) &&& cqctrlEstCom = 0 then
      (d.setWurqRequest ch false).osEventSet ch .wurq
    else d
  else d

/-- The faults of the chip, in `iolink_pl_max14819_pl_handler`. -/
def statusInterrupt (reg : Octet) : Drv :=
  if reg &&& interruptStatus ≠ 0 then
    { d with latchedRegStatus := d.latchedRegStatus ||| (d.readRegister chip .status &&& 0xF0) }
  else d

/-- `iolink_pl_max14819_pl_handler`. -/
def plHandler : Drv :=
  if d.isIolink ch then
    let reg := d.readRegister chip .interrupt
    let d := d.statusInterrupt chip reg
    let d := (d.channelInterrupts .a reg).channelInterrupts .b reg
    if reg &&& interruptWurq ≠ 0 then (d.wurqInterrupt chip .a).wurqInterrupt chip .b else d
  else d

/-- `iolink_pl_max14819_get_reg_status`. -/
def getRegStatus : Octet × Drv :=
  (d.readRegister chip .status ||| d.latchedRegStatus, { d with latchedRegStatus := 0 })

/-! ### Digital signals, supply and LEDs -/

/-- `iolink_pl_max14819_sio_set_do`. -/
def sioSetDo (doVal : Bool) : Drv :=
  let v := d.readRegister chip (.ioStCfg ch)
  d.writeRegister (.ioStCfg ch) (if doVal then v ||| iostcfgTx else v &&& ~~~iostcfgTx)

/-- `iolink_pl_max14819_set_power`. -/
def setPower (power : Bool) (delayCurrentLimit : UInt16) : Drv :=
  let orig := d.readRegister chip (.lpCnfg ch)
  let new := if power then orig ||| 0x01 else orig &&& ~~~0x01
  let d :=
    if 0 < delayCurrentLimit ∧ power = true then
      -- the current limit is off until the delay is over
      ((d.writeRegister (.lpCnfg ch) (orig ||| 0x02)).writeRegister (.lpCnfg ch)
        (new ||| 0x02)).writeRegister (.lpCnfg ch) (new ||| 0x02)
    else d
  d.writeRegister (.lpCnfg ch) new

/-- `iolink_pl_max14819_set_led`. -/
def setLed (ledR ledG : Bool) : Drv :=
  let v := d.readRegister chip .ledCtrl
  let led : Octet := (if ledR then 0x02 else 0) ||| (if ledG then 0x08 else 0)
  d.writeRegister .ledCtrl
    (match ch with
    | .a => (v &&& 0xF5) ||| led
    | .b => (v &&& 0x5F) ||| (led <<< (4 : Octet)))

/-- `iolink_pl_max14819_get_status`: the supply, the baud rate and the errors of a channel. -/
def getStatus : Bool × Octet × Octet :=
  (decide (d.readRegister chip (.lpCnfg ch) &&& 0x01 ≠ 0),
    (d.readRegister chip (.cqCtrl ch) >>> (6 : Octet)) &&& 0x03,
    d.readRegister chip (.chanStat ch) &&& 0x07)

end Drv

/-! ### Services -/

/-- A service of the driver. `iolink_pl_max14819_transfer_req` is two of them, `dlMsg` and
`sendMsg`. -/
inductive Service
  | setMode (ch : ChipChannel) (mode : PlMode) (cqConfVal : Octet)
  | initSdci (ch : ChipChannel)
  | plHandler (ch : ChipChannel)
  | getData (ch : ChipChannel) (len inband : Octet)
  | sendMsg (ch : ChipChannel)
  | dlMsg (ch : ChipChannel)
  | enableCycleTimer (ch : ChipChannel)
  | disableCycleTimer (ch : ChipChannel)
  | setCycletime (ch : ChipChannel) (cycbyte : Octet)
  | getRegStatus
  | sioSetDo (ch : ChipChannel) (doVal : Bool)
  | setPower (ch : ChipChannel) (power : Bool) (delayCurrentLimit : UInt16)
  | setLed (ch : ChipChannel) (ledR ledG : Bool)

/-- A service, and what it finds in the registers that change by themselves. -/
structure ServiceCall where
  service : Service
  chip : Reg → Octet

/-- What a service leaves. -/
def Drv.serve (d : Drv) (c : ServiceCall) : Drv :=
  match c.service with
  | .setMode ch mode cqConfVal => d.setMode c.chip ch mode cqConfVal
  | .initSdci ch => (d.initSdci c.chip ch).2
  | .plHandler ch => d.plHandler c.chip ch
  | .getData ch len inband => (d.getData c.chip ch len inband).2
  | .sendMsg ch => d.sendMsg c.chip ch
  | .dlMsg ch => d.dlMsg c.chip ch
  | .enableCycleTimer ch => d.enableCycleTimer c.chip ch
  | .disableCycleTimer ch => d.disableCycleTimer c.chip ch
  | .setCycletime ch cycbyte => d.setCycletime ch cycbyte
  | .getRegStatus => (d.getRegStatus c.chip).2
  | .sioSetDo ch doVal => d.sioSetDo c.chip ch doVal
  | .setPower ch power delayCurrentLimit => d.setPower c.chip ch power delayCurrentLimit
  | .setLed ch ledR ledG => d.setLed c.chip ch ledR ledG

/-! ### Settings -/

/-- What the services ask for: the last setting of each kind counts, each channel for itself. -/
structure Settings where
  sdci : ChipChannel → Bool := fun _ => false
  /-- A wake-up request has been made. -/
  wurq : Bool := false
  /-- The LEDs, red and green, if they have been set. -/
  led : ChipChannel → Option (Bool × Bool) := fun _ => none
  /-- The supply, if it has been switched. -/
  power : ChipChannel → Option Bool := fun _ => none

namespace Settings

/-- What a service asks for. -/
def serve (s : Settings) : Service → Settings
  | .setMode ch mode _ => { s with sdci := Function.update s.sdci ch (mode = .sdci) }
  | .initSdci _ => { s with wurq := true }
  | .setPower ch power _ => { s with power := Function.update s.power ch (some power) }
  | .setLed ch ledR ledG => { s with led := Function.update s.led ch (some (ledR, ledG)) }
  | _ => s

/-- The octet of two LEDs. -/
def ledOctet (led : Bool × Bool) : Octet :=
  (if led.1 then 0x02 else 0) ||| (if led.2 then 0x08 else 0)

/-- The LEDs of a channel in their register. -/
def withLed (v : Octet) (led : Option (Bool × Bool)) : ChipChannel → Octet
  | .a => (led.map fun led => (v &&& 0xF5) ||| ledOctet led).getD v
  | .b => (led.map fun led => (v &&& 0x5F) ||| (ledOctet led <<< (4 : Octet))).getD v

/-- The supply of a channel in its register. -/
def withPower (v : Octet) (power : Option Bool) : Octet :=
  (power.map fun power => if power then v ||| 0x01 else v &&& ~~~0x01).getD v

/-- The interrupts that are enabled. -/
def interruptEn (s : Settings) : Octet :=
  (if s.sdci .a then 0x05 else 0) ||| (if s.sdci .b then 0x0A else 0) |||
    (if s.wurq then interruptWurq else 0)

end Settings

/-- The registers are as the settings ask for, those of the chip's configuration being `reg`. -/
structure Drv.Follows (reg : Reg → Octet) (s : Settings) (d : Drv) : Prop where
  isIolink : d.isIolink = s.sdci
  interruptEn : d.reg .interruptEn = s.interruptEn
  ledCtrl : d.reg .ledCtrl =
    Settings.withLed (Settings.withLed (reg .ledCtrl) (s.led .a) .a) (s.led .b) .b
  lpCnfg : ∀ ch, d.reg (.lpCnfg ch) = Settings.withPower (reg (.lpCnfg ch)) (s.power ch)
  wurq : ∀ ch, d.wurqRequest ch = true → s.wurq = true

section Bits

theorem or_and (a b c : Octet) : (a ||| b) &&& c = (a &&& c) ||| (b &&& c) := by
  rw [← UInt8.toBitVec_inj]
  exact BitVec.and_or_distrib_right

/-- A setting in one part of a register replaces the one before. -/
theorem mask_same {x mask : Octet} (v y : Octet) (hx : x &&& mask = 0) :
    ((v &&& mask) ||| x) &&& mask ||| y = (v &&& mask) ||| y := by
  rw [or_and, hx, UInt8.or_zero, UInt8.and_assoc, UInt8.and_self]

/-- Settings in two parts of a register do not depend on their order. -/
theorem mask_comm {x y mask mask' : Octet} (v : Octet) (hx : x &&& mask' = x)
    (hy : y &&& mask = y) :
    ((v &&& mask) ||| x) &&& mask' ||| y = ((v &&& mask') ||| y) &&& mask ||| x := by
  rw [or_and, or_and, hx, hy, UInt8.and_assoc, UInt8.and_assoc, UInt8.and_comm mask,
    UInt8.or_assoc, UInt8.or_assoc, UInt8.or_comm x]

theorem power_eq (v : Octet) (b : Bool) :
    (if b then v ||| 0x01 else v &&& ~~~0x01) = (v &&& 0xFE) ||| (if b then 0x01 else 0) := by
  cases b with
  | false => exact (UInt8.or_zero (a := v &&& 0xFE)).symm
  | true =>
    rw [← UInt8.toBitVec_inj]
    refine BitVec.eq_of_getLsbD_eq fun i hi => ?_
    interval_cases i <;> simp

end Bits

namespace Settings

theorem withPower_withPower (v : Octet) (power : Option Bool) (b : Bool) :
    withPower (withPower v power) (some b) = withPower v (some b) := by
  cases power with
  | none => rfl
  | some a =>
    show (if b then _ else _) = if b then _ else _
    rw [power_eq, power_eq, show withPower v (some a) = _ from power_eq v a]
    exact mask_same v _ (by cases a <;> decide)

theorem withLed_self (v : Octet) (led : Option (Bool × Bool)) (l : Bool × Bool)
    (ch : ChipChannel) : withLed (withLed v led ch) (some l) ch = withLed v (some l) ch := by
  cases led with
  | none => cases ch <;> rfl
  | some m =>
    obtain ⟨r, g⟩ := m
    cases ch with
    | a => exact mask_same v _ (by cases r <;> cases g <;> decide)
    | b => exact mask_same v _ (by cases r <;> cases g <;> decide)

/-- The LEDs of the channels do not depend on each other. -/
theorem withLed_comm (v : Octet) (led : Option (Bool × Bool)) (l : Bool × Bool) :
    withLed (withLed v led .b) (some l) .a = withLed (withLed v (some l) .a) led .b := by
  cases led with
  | none => rfl
  | some m =>
    obtain ⟨r, g⟩ := m
    obtain ⟨r', g'⟩ := l
    exact mask_comm v (by cases r <;> cases g <;> decide) (by cases r' <;> cases g' <;> decide)

theorem interruptEn_disable (s : Settings) (ch : ChipChannel) :
    s.interruptEn &&& ~~~(shiftTo 0x05 ch) =
      interruptEn { s with sdci := Function.update s.sdci ch false } := by
  cases ch <;> simp only [interruptEn, Function.update, shiftTo] <;>
    cases s.sdci .a <;> cases s.sdci .b <;> cases s.wurq <;> rfl

theorem interruptEn_enable (s : Settings) (ch : ChipChannel) :
    s.interruptEn ||| (0xFF &&& shiftTo 0x05 ch) =
      interruptEn { s with sdci := Function.update s.sdci ch true } := by
  cases ch <;> simp only [interruptEn, Function.update, shiftTo] <;>
    cases s.sdci .a <;> cases s.sdci .b <;> cases s.wurq <;> rfl

theorem interruptEn_wurq (s : Settings) :
    s.interruptEn ||| interruptWurq = interruptEn { s with wurq := true } := by
  simp only [interruptEn]
  cases s.sdci .a <;> cases s.sdci .b <;> cases s.wurq <;> rfl

end Settings

/-! ### Registers and settings -/

namespace Drv

variable {reg : Reg → Octet} {s : Settings} {d : Drv} {chip : Reg → Octet} {ch : ChipChannel}

/-- A register that changes by itself has nothing to do with the settings. -/
theorem Follows.writeRegister (h : d.Follows reg s) {r : Reg} (hr : r.held = false) (v : Octet) :
    (d.writeRegister r v).Follows reg s := by
  have hne : ∀ q : Reg, q.held = true → (d.writeRegister r v).reg q = d.reg q := by
    intro q hq
    refine Function.update_of_ne ?_ _ _
    rintro rfl
    rw [hr] at hq
    cases hq
  exact ⟨h.isIolink, (hne _ rfl).trans h.interruptEn, (hne _ rfl).trans h.ledCtrl,
    fun ch => (hne _ rfl).trans (h.lpCnfg ch), h.wurq⟩

theorem Follows.osEventSet (h : d.Follows reg s) (f : PlFlag) : (d.osEventSet ch f).Follows reg s :=
  ⟨h.isIolink, h.interruptEn, h.ledCtrl, h.lpCnfg, h.wurq⟩

theorem Follows.setDataReady (h : d.Follows reg s) (b : Bool) :
    (d.setDataReady ch b).Follows reg s :=
  ⟨h.isIolink, h.interruptEn, h.ledCtrl, h.lpCnfg, h.wurq⟩

theorem Follows.clearWurqRequest (h : d.Follows reg s) (ch : ChipChannel) :
    (d.setWurqRequest ch false).Follows reg s := by
  refine ⟨h.isIolink, h.interruptEn, h.ledCtrl, h.lpCnfg, fun k hk => h.wurq k ?_⟩
  by_cases hkch : k = ch
  · rw [hkch, setWurqRequest_wurqRequest, Function.update_self] at hk
    cases hk
  · rwa [setWurqRequest_wurqRequest, Function.update_of_ne hkch] at hk

/-- The interrupts of a channel, and whether it is in SDCI mode, change together. -/
theorem Follows.setInterrupts (h : d.Follows reg s) (ch : ChipChannel) (b : Bool) {d' : Drv}
    (hisIolink : d'.isIolink = Function.update d.isIolink ch b)
    (hwurq : d'.wurqRequest = Function.update d.wurqRequest ch false)
    (hinterruptEn : d'.reg .interruptEn =
      Settings.interruptEn { s with sdci := Function.update s.sdci ch b })
    (hheld : ∀ r, r.held = true → r ≠ .interruptEn → d'.reg r = d.reg r) :
    d'.Follows reg { s with sdci := Function.update s.sdci ch b } where
  isIolink := by rw [hisIolink, h.isIolink]
  interruptEn := hinterruptEn
  ledCtrl := (hheld _ rfl Reg.noConfusion).trans h.ledCtrl
  lpCnfg k := (hheld _ rfl Reg.noConfusion).trans (h.lpCnfg k)
  wurq k hk := by
    rw [hwurq] at hk
    exact (h.clearWurqRequest ch).wurq k hk

theorem Follows.setMode (h : d.Follows reg s) (mode : PlMode) (v : Octet) :
    (d.setMode chip ch mode v).Follows reg
      { s with sdci := Function.update s.sdci ch (decide (mode = .sdci)) } := by
  cases mode with
  | do_ =>
    refine h.setInterrupts ch false rfl rfl ?_ ?_
    · rw [← s.interruptEn_disable ch, ← h.interruptEn]
      simp [Drv.setMode, setDO, disableInterrupts, readRegister, Reg.held]
    · intro r hr hne
      cases r <;> simp_all [Drv.setMode, setDO, disableInterrupts, readRegister, Reg.held]
  | inactive | di =>
    refine h.setInterrupts ch false rfl rfl ?_ ?_
    · rw [← s.interruptEn_disable ch, ← h.interruptEn]
      simp [Drv.setMode, setDI, disableInterrupts, readRegister, Reg.held]
    · intro r hr hne
      cases r <;> simp_all [Drv.setMode, setDI, disableInterrupts, readRegister, Reg.held]
  | sdci =>
    refine h.setInterrupts ch true rfl rfl ?_ ?_
    · have hboth : (s.interruptEn &&& ~~~(shiftTo 0x05 ch)) ||| (0xFF &&& shiftTo 0x05 ch) =
          Settings.interruptEn { s with sdci := Function.update s.sdci ch true } := by
        rw [s.interruptEn_disable ch, Settings.interruptEn_enable]
        simp
      rw [← hboth, ← h.interruptEn]
      simp [Drv.setMode, setSDCI, disableInterrupts, readRegister, Reg.held]
    · intro r hr hne
      cases r <;> simp_all [Drv.setMode, setSDCI, disableInterrupts, readRegister, Reg.held]

theorem Follows.initSdci (h : d.Follows reg s) :
    (d.initSdci chip ch).2.Follows reg { s with wurq := true } := by
  unfold Drv.initSdci
  split_ifs with hrequest
  · -- the request before has enabled the interrupt
    have hs : { s with wurq := true } = s := by rw [← h.wurq ch hrequest]
    rw [hs]
    exact h
  · have hinterruptEn : d.reg .interruptEn ||| interruptWurq =
        Settings.interruptEn { s with wurq := true } := by
      rw [h.interruptEn, s.interruptEn_wurq]
    dsimp only
    constructor
    · exact (by split_ifs <;> exact h.isIolink)
    · rw [← hinterruptEn]
      split_ifs <;> simp [readRegister, Reg.held]
    · rw [← h.ledCtrl]
      split_ifs <;> simp
    · intro k
      rw [← h.lpCnfg k]
      split_ifs <;> simp
    · exact fun _ _ => rfl

theorem Follows.channelInterrupts (h : d.Follows reg s) (ch : ChipChannel) (v : Octet) :
    (d.channelInterrupts ch v).Follows reg s := by
  unfold Drv.channelInterrupts
  dsimp only
  split_ifs <;>
    first
    | exact h
    | exact h.osEventSet _
    | exact (h.osEventSet _).osEventSet _
    | exact (h.setDataReady _).osEventSet _
    | exact ((h.osEventSet _).setDataReady _).osEventSet _
    | exact (((h.osEventSet _).osEventSet _).setDataReady _).osEventSet _

theorem Follows.wurqInterrupt (h : d.Follows reg s) : (d.wurqInterrupt chip ch).Follows reg s := by
  unfold Drv.wurqInterrupt
  split_ifs
  · exact (h.clearWurqRequest ch).osEventSet _
  · exact h
  · exact h

theorem Follows.latch (h : d.Follows reg s) (v : Octet) :
    Follows reg s { d with latchedRegStatus := v } :=
  ⟨h.isIolink, h.interruptEn, h.ledCtrl, h.lpCnfg, h.wurq⟩

theorem Follows.statusInterrupt (h : d.Follows reg s) (chip : Reg → Octet) (v : Octet) :
    (d.statusInterrupt chip v).Follows reg s := by
  unfold Drv.statusInterrupt
  split_ifs
  · exact h.latch _
  · exact h

theorem Follows.plHandler (h : d.Follows reg s) : (d.plHandler chip ch).Follows reg s := by
  unfold Drv.plHandler
  dsimp only
  have hchannels := ((h.statusInterrupt chip (d.readRegister chip .interrupt)).channelInterrupts .a
    (d.readRegister chip .interrupt)).channelInterrupts .b (d.readRegister chip .interrupt)
  split_ifs
  · exact hchannels.wurqInterrupt.wurqInterrupt
  · exact hchannels
  · exact h

theorem Follows.getData (h : d.Follows reg s) (len inband : Octet) :
    (d.getData chip ch len inband).2.Follows reg s := by
  unfold Drv.getData
  dsimp only
  split_ifs <;>
    first
    | exact (h.writeRegister rfl _).setDataReady _
    | exact (h.osEventSet _).setDataReady _
    | exact h.setDataReady _

theorem Follows.setPower (h : d.Follows reg s) (power : Bool) (delayCurrentLimit : UInt16) :
    (d.setPower chip ch power delayCurrentLimit).Follows reg
      { s with power := Function.update s.power ch (some power) } := by
  have hreg : ∀ r, (d.setPower chip ch power delayCurrentLimit).reg r = Function.update d.reg
      (.lpCnfg ch) (Settings.withPower (d.reg (.lpCnfg ch)) (some power)) r := by
    intro r
    unfold Drv.setPower
    by_cases hr : r = .lpCnfg ch
    · subst hr
      simp [readRegister, Reg.held, Settings.withPower]
    · dsimp only
      split_ifs <;> simp [Function.update_of_ne hr]
  have hrest : (d.setPower chip ch power delayCurrentLimit).isIolink = d.isIolink ∧
      (d.setPower chip ch power delayCurrentLimit).wurqRequest = d.wurqRequest := by
    unfold Drv.setPower
    dsimp only
    split_ifs <;> exact ⟨rfl, rfl⟩
  constructor
  · rw [hrest.1]
    exact h.isIolink
  · rw [hreg, Function.update_of_ne (by simp)]
    exact h.interruptEn
  · rw [hreg, Function.update_of_ne (by simp)]
    exact h.ledCtrl
  · intro k
    rw [hreg]
    show _ = Settings.withPower _ (Function.update s.power ch (some power) k)
    by_cases hk : k = ch
    · rw [hk, Function.update_self, Function.update_self, h.lpCnfg, Settings.withPower_withPower]
    · rw [Function.update_of_ne (by simpa using hk), Function.update_of_ne hk]
      exact h.lpCnfg k
  · rw [hrest.2]
    exact h.wurq

theorem Follows.setLed (h : d.Follows reg s) (ledR ledG : Bool) :
    (d.setLed chip ch ledR ledG).Follows reg
      { s with led := Function.update s.led ch (some (ledR, ledG)) } := by
  have hled : (d.setLed chip ch ledR ledG).reg .ledCtrl =
      Settings.withLed (d.reg .ledCtrl) (some (ledR, ledG)) ch := by
    cases ch <;> simp [Drv.setLed, readRegister, Reg.held, Settings.withLed, Settings.ledOctet]
  have hheld : ∀ r, r ≠ .ledCtrl → (d.setLed chip ch ledR ledG).reg r = d.reg r :=
    fun r hr => Function.update_of_ne hr _ _
  constructor
  · exact h.isIolink
  · exact (hheld _ Reg.noConfusion).trans h.interruptEn
  · rw [hled, h.ledCtrl]
    cases ch with
    | a =>
      rw [Settings.withLed_comm, Settings.withLed_self]
      simp
    | b =>
      rw [Settings.withLed_self]
      simp
  · exact fun k => (hheld _ Reg.noConfusion).trans (h.lpCnfg k)
  · exact h.wurq

/-- A service does to the registers what it asks for. -/
theorem Follows.serve (h : d.Follows reg s) (c : ServiceCall) :
    (d.serve c).Follows reg (s.serve c.service) := by
  unfold Drv.serve
  cases c.service with
  | setMode ch mode v => exact h.setMode mode v
  | initSdci ch => exact h.initSdci
  | plHandler ch => exact h.plHandler
  | getData ch len inband => exact h.getData len inband
  | sendMsg ch => exact h.writeRegister rfl _
  | dlMsg ch => exact (h.writeRegister rfl _).writeRegister rfl _
  | enableCycleTimer ch => exact h.writeRegister rfl _
  | disableCycleTimer ch => exact h.writeRegister rfl _
  | setCycletime ch cycbyte => exact h.writeRegister rfl _
  | getRegStatus => exact h.latch _
  | sioSetDo ch doVal => exact h.writeRegister rfl _
  | setPower ch power delay => exact h.setPower power delay
  | setLed ch ledR ledG => exact h.setLed ledR ledG

/-- The driver after `iolink_14819_init`, `reg` being the configuration of the chip. -/
def init (reg : Reg → Octet) : Drv where
  reg := Function.update reg .interruptEn 0x00

theorem follows_init (reg : Reg → Octet) : (init reg).Follows reg {} where
  isIolink := rfl
  interruptEn := by simp [init, Settings.interruptEn]
  ledCtrl := by simp [init, Settings.withLed]
  lpCnfg ch := by simp [init, Settings.withPower]
  wurq _ h := Bool.noConfusion h

end Drv

/-- **The registers are as the last settings ask for.** Whatever services have been called, for
whichever channel, in any order and whatever the chip's other registers contained meanwhile: the
receive interrupts of the channels in SDCI mode are enabled and no others, next to the one of the
first wake-up request; each LED and each supply is as it was set last for its channel, the other
bits of their registers are those of the configuration; and `get_status` reads the supply back. -/
theorem registers_refine_settings (reg : Reg → Octet) (calls : List ServiceCall) :
    let d := Runs.run Drv.serve (Drv.init reg) calls
    let s := Runs.run Settings.serve {} (calls.map ServiceCall.service)
    d.Follows reg s ∧
      ∀ chip ch power, s.power ch = some power → (d.getStatus chip ch).1 = power := by
  have hfollows : ∀ {d : Drv} {s : Settings}, d.Follows reg s →
      (Runs.run Drv.serve d calls).Follows reg
        (Runs.run Settings.serve s (calls.map ServiceCall.service)) := by
    induction calls with
    | nil => exact id
    | cons c calls ih => exact fun h => ih (h.serve c)
  refine ⟨hfollows (Drv.follows_init reg), fun chip ch power hpower => ?_⟩
  have hreg := (hfollows (Drv.follows_init reg)).lpCnfg ch
  rw [hpower] at hreg
  simp only [Drv.getStatus, Drv.readRegister, Reg.held, if_true, hreg, Settings.withPower,
    Option.map_some, Option.getD_some, power_eq]
  have hmask : (0xFE : Octet) &&& 0x01 = 0 := by decide
  rw [or_and, UInt8.and_assoc, hmask]
  cases power <;> simp

/-- Both channels are supplied and woken; then the second one becomes a digital input without
supply. -/
def bothChannels : List ServiceCall :=
  [.setPower .a true 0, .setPower .b true 100, .initSdci .a, .setMode .a .sdci 0, .initSdci .b,
    .setMode .b .sdci 0, .setLed .a false true, .setLed .b true false, .setMode .b .di 0,
    .setPower .b false 0].map fun service => ⟨service, fun _ => 0xFF⟩

/-- The wake-up request and the first channel are left of the interrupts; each LED is on, and one
supply. -/
theorem registers_refine_settings_bothChannels :
    let d := Runs.run Drv.serve (Drv.init fun _ => 0xA4) bothChannels
    d.isIolink .a = true ∧ d.isIolink .b = false ∧ d.reg .interruptEn = 0x45 ∧
      d.reg .ledCtrl = 0x2C ∧ d.reg (.lpCnfg .a) = 0xA5 ∧ d.reg (.lpCnfg .b) = 0xA4 ∧
      ∀ chip, (d.getStatus chip .a).1 = true ∧ (d.getStatus chip .b).1 = false := by
  obtain ⟨hfollows, hstatus⟩ := registers_refine_settings (fun _ => 0xA4) bothChannels
  exact ⟨(congrFun hfollows.isIolink .a).trans rfl, (congrFun hfollows.isIolink .b).trans rfl,
    hfollows.interruptEn.trans (by decide), hfollows.ledCtrl.trans (by decide),
    (hfollows.lpCnfg .a).trans (by decide), (hfollows.lpCnfg .b).trans (by decide),
    fun chip => ⟨hstatus chip .a true rfl, hstatus chip .b false rfl⟩⟩

end Max14819

end IolHat

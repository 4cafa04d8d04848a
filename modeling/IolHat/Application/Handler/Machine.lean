import IolHat.Application.Server
import IolHat.ConfigurationManager.Machine
import IolHat.Lib.Run
import IolHat.Osal.EventFlags
import IolHat.SystemManagement.Machine

/-!
# The loop of the application

`iolink_handler` is one loop for all ports. The stack and the timers report to it through the flags
of `app_event`; the loop takes what is set and tests the flags of one port after the other: new
process data, a changed port status, a retry that is due, a lost communication. Meanwhile the thread
of the stack and those of the timers go on, and a timer's callback writes the same
`app_port_state` that the loop reads.

`step` is one access to what the threads share, of whichever thread.
-/

namespace IolHat

namespace IolHandler

/-! ### Flags -/

/-- The flags of `app_event`, one of each kind for each port. -/
inductive Flag
  | pd | comlost | porte | retryEstcom
  deriving DecidableEq, Repr

/-- `EVENT_PD_0`, `EVENT_COMLOST_0`, `EVENT_PORTE_0` and `EVENT_RETRY_ESTCOM_0`: the bit of port
0. -/
def Flag.bit0 : Flag → ℕ
  | .pd => 0
  | .comlost => 8
  | .porte => 16
  | .retryEstcom => 24

/-- The bit of a port. -/
def Flag.bit (f : Flag) (i : PortIndex) : ℕ := f.bit0 + i.val

/-- The flag of a port. -/
def Flag.value (f : Flag) (i : PortIndex) : UInt32 := 1 <<< UInt32.ofNat (f.bit i)

/-- A flag is set in a word. -/
def isSet (word : UInt32) (f : Flag) (i : PortIndex) : Bool := word.toBitVec.getLsbD (f.bit i)

/-! ### Ports -/

/-- `os_timer_t` with its thread. -/
structure Timer where
  us : ℕ
  running : Bool := false
  /-- A `SIGALRM` that the thread has not taken. -/
  signal : Bool := false
  /-- The thread is between the two statements of `iolink_retry_estcom`. -/
  calling : Bool := false
  deriving DecidableEq

/-- What happens at a port. -/
inductive Entry
  /-- A flag is set by the stack. -/
  | raised (f : Flag)
  /-- A flag that was set leads to nothing in this state of the port. -/
  | passed (f : Flag) (state : AppPortState)
  /-- `run_function` is called. -/
  | ran
  /-- The status of the port is asked for. -/
  | asked
  /-- The port is set up and runs. -/
  | started
  /-- `iolink_dl_reset` is called. -/
  | reset
  /-- The port is configured. -/
  | configured
  deriving DecidableEq

/-- `iolink_app_port_ctx_t`, with the port's mode and timer. -/
structure Port where
  mode : PlMode
  state : AppPortState := .inactive
  portStatusInfo : PortStatusInfo := .noDev
  /-- `run_function`: that of a port, or `NULL`. -/
  runFunction : Option PortIndex := none
  timer : Option Timer := none
  /-- What has happened, newest last. -/
  log : List Entry := []

/-- A call that the loop makes for a port, as far as it has come. -/
inductive Call
  /-- `iolink_start_port` waits for the port's status. -/
  | portStatus
  /-- The port is operational and gets set up. -/
  | setup
  /-- `iolink_config_port`. -/
  | config
  /-- `SMI_PortConfiguration_req`. -/
  | portConfiguration
  /-- `iolink_retry_estcom`, between its two statements. -/
  | retryEstcom
  deriving DecidableEq

/-- Where the loop is. -/
inductive Stage
  /-- Before `os_event_wait`. -/
  | wait
  /-- Before `os_event_clr`. -/
  | clr
  /-- Before the next test. -/
  | look
  /-- In a call. -/
  | busy (i : PortIndex) (c : Call)
  /-- `os_timer_stop` has been called with `NULL`. -/
  | crashed
  deriving DecidableEq

/-- The call for a port. -/
def Stage.call (i : PortIndex) : Stage → Option Call
  | .busy j c => if j = i then some c else none
  | _ => none

/-- The tests of one round, in order. -/
def allTests : List (PortIndex × Flag) :=
  (List.finRange portNumber).flatMap fun i =>
    [(i, .pd), (i, .porte), (i, .retryEstcom), (i, .comlost)]

end IolHandler

open IolHandler in
/-- The application: `iolink_app_master` and the variables of `iolink_handler`. -/
structure IolHandler where
  port : PortIndex → Port
  appEvent : UInt32 := 0
  stage : Stage := .wait
  eventValue : UInt32 := 0
  /-- The tests of this round that are still to come. -/
  tests : List (PortIndex × Flag) := []

namespace IolHandler

variable (s : IolHandler)

@[simps] def modPort (i : PortIndex) (f : Port → Port) : IolHandler :=
  { s with port := Function.update s.port i (f (s.port i)) }

@[simps] def goto (stage : Stage) : IolHandler := { s with stage := stage }

@[simps] def osEventSet (value : UInt32) : IolHandler :=
  { s with appEvent := (OsEvent.monitor.body s.appEvent (.set value)).1 }

@[simps] def osEventClr (value : UInt32) : IolHandler :=
  { s with appEvent := (OsEvent.monitor.body s.appEvent (.clr value)).1 }

def record (i : PortIndex) (e : Entry) : IolHandler :=
  s.modPort i fun p => { p with log := p.log ++ [e] }

def setState (i : PortIndex) (state : AppPortState) : IolHandler :=
  s.modPort i fun p => { p with state := state }

def setTimer (i : PortIndex) (t : Timer) : IolHandler :=
  s.modPort i fun p => { p with timer := some t }

/-! ### The thread of the stack -/

/-- `IOLINK_EVENTCODE_NO_DEV`. -/
def eventcodeNoDev : UInt16 := 0x1800

/-- `IOLINK_EVENTCODE_BAD_VID`. -/
def eventcodeBadVid : UInt16 := 0x1802

/-- `IOLINK_EVENTCODE_BAD_DID`. -/
def eventcodeBadDid : UInt16 := 0x1803

/-- `IOLINK_EVENTCODE_PORT_STATUS_CHANGE`. -/
def eventcodePortStatusChange : UInt16 := 0xFF26

/-- A flag is set for the loop. -/
def raise (i : PortIndex) (f : Flag) : IolHandler := (s.osEventSet (f.value i)).record i (.raised f)

/-- `handle_smi_portevent`. -/
def handleSmiPortevent (i : PortIndex) (eventCode : UInt16) : IolHandler :=
  if eventCode = eventcodePortStatusChange then s.raise i .porte
  else if eventCode = eventcodeBadDid ∨ eventCode = eventcodeBadVid then s.raise i .porte
  else if eventCode = eventcodeNoDev then s.raise i .comlost
  else s

/-- `PD_cb`. -/
def pdCb (i : PortIndex) : IolHandler := s.raise i .pd

/-! ### The threads of the timers -/

/-- A timer elapses. -/
def elapse (i : PortIndex) : IolHandler :=
  match (s.port i).timer with
  | some t => if t.running then s.setTimer i { t with running := false, signal := true } else s
  | none => s

/-- The next statement of a timer's thread, which runs `iolink_retry_estcom` for each signal. -/
def timerThread (i : PortIndex) : IolHandler :=
  match (s.port i).timer with
  | some t =>
    if t.calling then
      (s.setTimer i { t with calling := false }).osEventSet (Flag.retryEstcom.value i)
    else if t.signal then
      (s.setTimer i { t with signal := false, calling := true }).setState i .wuRetryWaitTsd
    else s
  | none => s

/-! ### The loop -/

/-- What an SMI request of the loop comes back with. -/
structure Answer where
  /-- The request has failed, or nothing has come in time. -/
  failed : Bool := false
  portStatusInfo : PortStatusInfo := .noDev

/-- The flag of a test is set. -/
def found (i : PortIndex) (f : Flag) : IolHandler :=
  let state := (s.port i).state
  match f with
  | .pd =>
    if state = .running then
      match (s.port i).runFunction with
      | some _ => s.record i .ran
      | none => s
    else s.record i (.passed .pd state)
  | .porte =>
    if state = .starting then (s.record i .asked).goto (.busy i .portStatus)
    else s.record i (.passed .porte state)
  | .retryEstcom =>
    if state = .wuRetryWaitTsd then (s.record i .reset).goto (.busy i .config)
    else s.record i (.passed .retryEstcom state)
  | .comlost =>
    match (s.port i).timer with
    | none => s.goto .crashed
    | some t =>
      if state = .starting then
        -- the next wake-up request waits for 500 ms
        s.setTimer i { t with us := 500 * 1000, running := true }
      else
        let s := s.setTimer i { t with running := false }
        if state ≠ .stopping then
          (s.setState i .wuRetryWaitTsd).goto (.busy i .retryEstcom)
        else s.setState i .inactive

/-- The next test. -/
def look : IolHandler :=
  match s.tests with
  | [] => s.goto .wait
  | (i, f) :: rest =>
    if isSet s.eventValue f i then ({ s with tests := rest } : IolHandler).found i f
    else { s with tests := rest }

/-- What `iolink_config_port` does before it sends its request. -/
def configPort (i : PortIndex) : IolHandler :=
  match (s.port i).mode with
  | .sdci => (s.setState i .starting).goto (.busy i .portConfiguration)
  | .do_ | .di => s.goto (.busy i .portConfiguration)
  | .inactive => s.goto .look

/-- The next access of the loop. -/
def loop (a : Answer) : IolHandler :=
  match s.stage with
  | .wait =>
    if s.appEvent = 0 ∨ a.failed = true then s
    else { s with stage := .clr, eventValue := s.appEvent &&& 0xFFFFFFFF }
  | .clr => { s.osEventClr s.eventValue with stage := .look, tests := allTests }
  | .look => s.look
  | .busy i .portStatus =>
    if a.failed = true then s.goto .look
    else
      (s.modPort i fun p => { p with portStatusInfo := a.portStatusInfo }).goto
        (if a.portStatusInfo = .op then .busy i .setup else .look)
  | .busy i .setup =>
    -- `generic_setup0` or `generic_setup1`
    ((s.modPort i fun p => { p with runFunction := some i, state := .running }).record i
      .started).goto .look
  | .busy i .config => s.configPort i
  | .busy i .portConfiguration => (s.record i .configured).goto .look
  | .busy i .retryEstcom => (s.osEventSet (Flag.retryEstcom.value i)).goto .look
  | .crashed => s

/-! ### Runs -/

/-- An access to what the threads share. -/
inductive Move
  /-- `SMI_cnf_cb`, with a port event. -/
  | portEvent (i : PortIndex) (eventCode : UInt16)
  /-- `PD_cb`. -/
  | pd (i : PortIndex)
  | elapse (i : PortIndex)
  | timerThread (i : PortIndex)
  | loop (a : Answer)

def step : Move → IolHandler
  | .portEvent i eventCode => s.handleSmiPortevent i eventCode
  | .pd i => s.pdCb i
  | .elapse i => s.elapse i
  | .timerThread i => s.timerThread i
  | .loop a => s.loop a

/-- The loop begins: the ports have been configured. -/
def init (mode : PortIndex → PlMode) : IolHandler where
  port i := {
    mode := mode i
    state := if mode i = .sdci then .starting else .inactive
    timer := if mode i = .sdci then some { us := 1000 * 1000 } else none }

/-- What the threads can make of it. -/
abbrev Reaches (mode : PortIndex → PlMode) : IolHandler → Prop :=
  Runs.Reaches step (fun _ _ => True) (init mode)

end IolHandler

end IolHat

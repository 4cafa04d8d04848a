import IolHat.Application.Handler.Machine

/-!
# One port of the loop

A port is seen with its flags in `app_event`, those that the loop has taken and not tested, and the
call that the loop makes for it (`View`). What one step of whichever thread can do to it is
`Happens`, which knows no other ports and no bits.
-/

namespace IolHat

namespace IolHandler

variable (s : IolHandler)

/-! ### One port -/

/-- What concerns one port. -/
structure View where
  port : Port
  /-- Its flags in `app_event`. -/
  flag : Flag → Bool
  /-- Its flags that the loop has taken and not tested. -/
  hand : Flag → Bool
  /-- The call that the loop makes for it. -/
  call : Option Call

namespace View

variable (v : View)

@[simps] def modPort (f : Port → Port) : View := { v with port := f v.port }

@[simps] def setCall (c : Option Call) : View := { v with call := c }

@[simps] def setFlag (f : Flag) : View := { v with flag := Function.update v.flag f true }

/-- A test is done. -/
@[simps] def tested (f : Flag) : View := { v with hand := Function.update v.hand f false }

@[simps!] def record (e : Entry) : View := v.modPort fun p => { p with log := p.log ++ [e] }

@[simps!]
def setState (state : AppPortState) : View := v.modPort fun p => { p with state := state }

@[simps!] def setTimer (t : Timer) : View := v.modPort fun p => { p with timer := some t }

end View

/-- A port as part of the whole. -/
def view (i : PortIndex) : View where
  port := s.port i
  flag f := isSet s.appEvent f i
  hand f := isSet s.eventValue f i && decide ((i, f) ∈ s.tests)
  call := s.stage.call i

/-- The state of a port in which a flag leads to something; `none` if it always does. -/
def Flag.state : Flag → Option AppPortState
  | .pd => some .running
  | .porte => some .starting
  | .retryEstcom => some .wuRetryWaitTsd
  | .comlost => none

/-- **What can happen to a port** in one step of the whole, `i` being its index. -/
inductive Happens (i : PortIndex) (v : View) : View → Prop
  /-- Nothing. -/
  | nothing : Happens i v v
  /-- The stack sets a flag. -/
  | raised (f : Flag) (hf : f ≠ .retryEstcom) : Happens i v ((v.setFlag f).record (.raised f))
  /-- Its timer elapses. -/
  | elapsed (t : Timer) (ht : v.port.timer = some t) (hrunning : t.running = true) :
      Happens i v (v.setTimer { t with running := false, signal := true })
  /-- The timer's thread begins `iolink_retry_estcom`. -/
  | called (t : Timer) (ht : v.port.timer = some t) (hcalling : t.calling = false)
      (hsignal : t.signal = true) :
      Happens i v
        ((v.setTimer { t with signal := false, calling := true }).setState .wuRetryWaitTsd)
  /-- The timer's thread ends `iolink_retry_estcom`. -/
  | returned (t : Timer) (ht : v.port.timer = some t) (hcalling : t.calling = true) :
      Happens i v ((v.setTimer { t with calling := false }).setFlag .retryEstcom)
  /-- The loop takes flags. -/
  | taken (value : Flag → Bool) (hcall : v.call = none) (hhand : ∀ f, v.hand f = false)
      (hvalue : ∀ f, value f = true → v.flag f = true) :
      Happens i v { v with flag := fun f => v.flag f && !value f, hand := value }
  /-- A flag leads to nothing. -/
  | passed (f : Flag) (hhand : v.hand f = true) (hcall : v.call = none) (state : AppPortState)
      (hf : f.state = some state) (hstate : v.port.state ≠ state) :
      Happens i v ((v.tested f).record (.passed f v.port.state))
  /-- The cyclic run. -/
  | ran (hhand : v.hand .pd = true) (hcall : v.call = none) (hstate : v.port.state = .running)
      (hfunction : v.port.runFunction ≠ none) : Happens i v ((v.tested .pd).record .ran)
  /-- There is no function to run. -/
  | idle (hhand : v.hand .pd = true) (hcall : v.call = none) (hstate : v.port.state = .running)
      (hfunction : v.port.runFunction = none) : Happens i v (v.tested .pd)
  /-- The port is to be started. -/
  | asked (hhand : v.hand .porte = true) (hcall : v.call = none)
      (hstate : v.port.state = .starting) :
      Happens i v (((v.tested .porte).record .asked).setCall (some .portStatus))
  /-- A retry is due. -/
  | reset (hhand : v.hand .retryEstcom = true) (hcall : v.call = none)
      (hstate : v.port.state = .wuRetryWaitTsd) :
      Happens i v (((v.tested .retryEstcom).record .reset).setCall (some .config))
  /-- The communication is lost while the port starts. -/
  | waits (t : Timer) (ht : v.port.timer = some t) (hhand : v.hand .comlost = true)
      (hcall : v.call = none) (hstate : v.port.state = .starting) :
      Happens i v ((v.tested .comlost).setTimer { t with us := 500 * 1000, running := true })
  /-- The communication of a port is lost that does not start or stop. -/
  | retries (t : Timer) (ht : v.port.timer = some t) (hhand : v.hand .comlost = true)
      (hcall : v.call = none) (hstarting : v.port.state ≠ .starting)
      (hstopping : v.port.state ≠ .stopping) :
      Happens i v ((((v.tested .comlost).setTimer { t with running := false }).setState
        .wuRetryWaitTsd).setCall (some .retryEstcom))
  /-- The communication is lost as intended. -/
  | stops (t : Timer) (ht : v.port.timer = some t) (hhand : v.hand .comlost = true)
      (hcall : v.call = none) (hstate : v.port.state = .stopping) :
      Happens i v (((v.tested .comlost).setTimer { t with running := false }).setState .inactive)
  /-- The status does not arrive. -/
  | failed (hcall : v.call = some .portStatus) : Happens i v (v.setCall none)
  /-- The port is operational. -/
  | operational (hcall : v.call = some .portStatus) :
      Happens i v ((v.modPort fun p => { p with portStatusInfo := .op }).setCall (some .setup))
  /-- The port is not operational. -/
  | notOperational (info : PortStatusInfo) (hcall : v.call = some .portStatus) :
      Happens i v ((v.modPort fun p => { p with portStatusInfo := info }).setCall none)
  /-- The port runs. -/
  | started (hcall : v.call = some .setup) :
      Happens i v (((v.modPort fun p => { p with runFunction := some i, state := .running }).record
        .started).setCall none)
  /-- A port with a communication is configured. -/
  | config (hcall : v.call = some .config) (hmode : v.port.mode = .sdci) :
      Happens i v ((v.setState .starting).setCall (some .portConfiguration))
  /-- Another port is configured, if it is in use. -/
  | configSio (hcall : v.call = some .config) (hmode : v.port.mode ≠ .sdci) (c : Option Call)
      (hc : c = none ∨ c = some .portConfiguration) : Happens i v (v.setCall c)
  /-- The request has been sent. -/
  | configured (hcall : v.call = some .portConfiguration) :
      Happens i v ((v.record .configured).setCall none)
  /-- The loop ends `iolink_retry_estcom`. -/
  | retried (hcall : v.call = some .retryEstcom) :
      Happens i v ((v.setFlag .retryEstcom).setCall none)

/-! ### The whole and its ports -/

section Words

variable {word value : UInt32} {f g : Flag} {i j : PortIndex}

@[simp]
theorem isSet_value : isSet (f.value i) g j = decide (g = f ∧ j = i) := by
  revert i j
  cases f <;> cases g <;> decide

@[simp]
theorem isSet_or : isSet (word ||| value) f i = (isSet word f i || isSet value f i) := by
  simp [isSet]

@[simp]
theorem isSet_andNot : isSet (word &&& ~~~value) f i = (isSet word f i && !isSet value f i) := by
  have hbit : f.bit i < 32 := by
    have hi : i.val < 2 := i.isLt
    cases f <;> simp only [Flag.bit, Flag.bit0] <;> omega
  simp [isSet, hbit]

end Words

variable {s} {i j : PortIndex} {f : Flag}

@[simp]
theorem view_modPort_self (g : Port → Port) : (s.modPort i g).view i = (s.view i).modPort g := by
  simp [view, View.modPort]

theorem view_modPort_of_ne (h : i ≠ j) (g : Port → Port) : (s.modPort j g).view i = s.view i := by
  simp [view, Function.update_of_ne h]

@[simp]
theorem view_record_self (e : Entry) : (s.record i e).view i = (s.view i).record e :=
  view_modPort_self _

theorem view_record_of_ne (h : i ≠ j) (e : Entry) : (s.record j e).view i = s.view i :=
  view_modPort_of_ne h _

@[simp]
theorem view_setState_self (state : AppPortState) :
    (s.setState i state).view i = (s.view i).setState state :=
  view_modPort_self _

theorem view_setState_of_ne (h : i ≠ j) (state : AppPortState) :
    (s.setState j state).view i = s.view i :=
  view_modPort_of_ne h _

@[simp]
theorem view_setTimer_self (t : Timer) : (s.setTimer i t).view i = (s.view i).setTimer t :=
  view_modPort_self _

theorem view_setTimer_of_ne (h : i ≠ j) (t : Timer) : (s.setTimer j t).view i = s.view i :=
  view_modPort_of_ne h _

@[simp]
theorem view_goto (stage : Stage) : (s.goto stage).view i = (s.view i).setCall (stage.call i) := rfl

@[simp]
theorem view_osEventSet_self : (s.osEventSet (f.value i)).view i = (s.view i).setFlag f := by
  have hflag : (fun g => isSet (s.appEvent ||| f.value i) g i) =
      Function.update (fun g => isSet s.appEvent g i) f true := by
    funext g
    by_cases hg : g = f
    · simp [hg]
    · simp [hg]
  simp only [view, View.setFlag]
  exact congrArg (View.mk (s.port i) · _ _) hflag

theorem view_osEventSet_of_ne (h : i ≠ j) : (s.osEventSet (f.value j)).view i = s.view i := by
  have hflag : (fun g => isSet (s.appEvent ||| f.value j) g i) = fun g => isSet s.appEvent g i := by
    funext g
    simp [h]
  exact congrArg (View.mk (s.port i) · _ _) hflag

/-- The first test is taken away. -/
theorem view_pop {rest : List (PortIndex × Flag)} (hn : s.tests.Nodup)
    (htests : s.tests = (j, f) :: rest) :
    view { s with tests := rest } i = if i = j then (s.view i).tested f else s.view i := by
  rw [htests, List.nodup_cons] at hn
  have hmem : ∀ g, decide ((i, g) ∈ s.tests) = (decide (i = j ∧ g = f) || decide ((i, g) ∈ rest)) :=
    fun g => by simp [htests, Prod.ext_iff]
  split_ifs with hij
  · obtain rfl := hij
    refine congrArg (View.mk _ _ · _) (funext fun g => ?_)
    show (_ && _) = Function.update (fun g => isSet s.eventValue g i && _) f false g
    by_cases hg : g = f
    · rw [hg, Function.update_self, decide_eq_false hn.1, Bool.and_false]
    · have hno : ¬ (i = i ∧ g = f) := fun h => hg h.2
      rw [Function.update_of_ne hg, hmem, decide_eq_false hno, Bool.false_or]
  · refine congrArg (View.mk _ _ · _) (funext fun g => ?_)
    have hno : ¬ (i = j ∧ g = f) := fun h => hij h.1
    rw [hmem, decide_eq_false hno, Bool.false_or]

theorem Stage.call_of_ne (h : i ≠ j) (c : Call) : (Stage.busy j c).call i = none :=
  if_neg fun hj => h hj.symm

@[simp]
theorem Stage.call_self (c : Call) : (Stage.busy i c).call i = some c := if_pos rfl

theorem view_setCall_none (h : s.stage.call i = none) : (s.view i).setCall none = s.view i :=
  congrArg (View.mk _ _ _) h.symm

end IolHandler

end IolHat

import IolHat.Application.Handler.Steps
import IolHat.Lib.Ledger

/-!
# Nothing is left behind

Whatever the stack reports of a port waits in the flags of `app_event` until the loop takes it, and
then until the loop has tested it (`View.tokens`); a lost communication also waits in the port's
timer, and in the state of the port until it is configured anew. `Attended` says so of a port, and
`handler_answers_every_event` what it comes to when the loop is at rest.
-/

namespace IolHat

namespace IolHandler

variable {s : IolHandler} {i : PortIndex}

/-! ### What waits -/

namespace View

variable (v : View)

/-- How often a flag waits: set, and taken. -/
def tokens (f : Flag) : ℕ := (v.flag f).toNat + (v.hand f).toNat

variable {v} {f g : Flag}

@[simp] theorem tokens_modPort (h : Port → Port) : (v.modPort h).tokens f = v.tokens f := rfl

@[simp] theorem tokens_setCall (c : Option Call) : (v.setCall c).tokens f = v.tokens f := rfl

@[simp] theorem tokens_record (e : Entry) : (v.record e).tokens f = v.tokens f := rfl

@[simp]
theorem tokens_setState (state : AppPortState) : (v.setState state).tokens f = v.tokens f := rfl

@[simp] theorem tokens_setTimer (t : Timer) : (v.setTimer t).tokens f = v.tokens f := rfl

@[simp]
theorem tokens_setFlag :
    (v.setFlag g).tokens f = if f = g then 1 + (v.hand f).toNat else v.tokens f := by
  split_ifs with h
  · simp [tokens, h]
  · simp [tokens, Function.update_of_ne h]

@[simp]
theorem tokens_tested :
    (v.tested g).tokens f = if f = g then (v.flag f).toNat else v.tokens f := by
  split_ifs with h
  · simp [tokens, h]
  · simp [tokens, Function.update_of_ne h]

/-- Taking a flag does not change how often it waits. -/
theorem tokens_taken {value : Flag → Bool} (hhand : ∀ f, v.hand f = false)
    (hvalue : ∀ f, value f = true → v.flag f = true) (f : Flag) :
    tokens { v with flag := fun f => v.flag f && !value f, hand := value } f = v.tokens f := by
  cases hset : value f with
  | true => simp [tokens, hset, hhand f, hvalue f hset]
  | false => simp [tokens, hset, hhand f]

theorem tokens_of_hand (h : v.hand f = true) : v.tokens f = (v.flag f).toNat + 1 := by
  rw [tokens, h]
  rfl

end View

/-! ### What is answered -/

/-- The entries that answer a flag of the stack. -/
def Flag.Answered : Flag → Entry → Prop
  | .pd, e => e = .ran ∨ ∃ state ≠ AppPortState.running, e = .passed .pd state
  | .porte, e => e = .asked ∨ ∃ state ≠ AppPortState.starting, e = .passed .porte state
  | .comlost, e => e = .configured ∨ e = .started
  | .retryEstcom, _ => True

/-- Every time that the stack has set a flag has been answered. -/
def Port.Answered (p : Port) (f : Flag) : Prop := Log.Followed f.Answered (.raised f) p.log

namespace View

/-- The timer runs or has elapsed. -/
def Delayed (v : View) : Prop :=
  ∃ t, v.port.timer = some t ∧ (t.running = true ∨ t.signal = true)

/-- The timer's thread is in `iolink_retry_estcom`. -/
def Calling (v : View) : Prop := ∃ t, v.port.timer = some t ∧ t.calling = true

/-- Nothing is left behind: what has not been answered still waits. -/
structure Attended (v : View) : Prop where
  timer : v.port.mode = .sdci ↔ v.port.timer ≠ none
  waiting : v.port.state = .wuRetryWaitTsd → v.port.timer ≠ none
  config : v.call = some .config → v.port.timer ≠ none
  function : v.port.state = .running → v.port.runFunction ≠ none
  notStopping : v.port.state ≠ .stopping
  retry : v.port.state = .wuRetryWaitTsd → 0 < v.tokens .retryEstcom ∨ v.Calling ∨
    v.call = some .retryEstcom ∨ v.call = some .config
  pd : v.port.Answered .pd ∨ 0 < v.tokens .pd
  porte : v.port.Answered .porte ∨ 0 < v.tokens .porte
  comlost : v.port.Answered .comlost ∨ 0 < v.tokens .comlost ∨ v.Delayed ∨
    v.port.state = .wuRetryWaitTsd ∨ v.call = some .portConfiguration

end View

section Answers

variable {v v' : View} {f : Flag}

/-- An entry that answers. -/
theorem Port.answered_concat {p : Port} {e : Entry} (he : f.Answered e) (hne : e ≠ .raised f) :
    Port.Answered { p with log := p.log ++ [e] } f :=
  Log.followed_concat_iff.mpr ⟨hne, .inl he⟩

/-- Another entry. -/
theorem Port.Answered.concat {p : Port} {e : Entry} (h : p.Answered f) (hne : e ≠ .raised f) :
    Port.Answered { p with log := p.log ++ [e] } f :=
  Log.Followed.concat h hne

theorem attended_states (hv : v.Attended) (h : Happens i v v') :
    (v'.port.mode = .sdci ↔ v'.port.timer ≠ none) ∧
      (v'.port.state = .wuRetryWaitTsd → v'.port.timer ≠ none) ∧
      (v'.call = some .config → v'.port.timer ≠ none) ∧
      (v'.port.state = .running → v'.port.runFunction ≠ none) ∧ v'.port.state ≠ .stopping := by
  obtain ⟨htimer, hwaiting, hconfig, hfunction, hstopping, -⟩ := hv
  cases h with
  | configSio hcall hmode c hc => rcases hc with rfl | rfl <;> simp_all
  | _ => simp_all

/-- The retry of a port is left alone. -/
private theorem retry_frame (hv : v.Attended)
    (hstate : v'.port.state = .wuRetryWaitTsd → v.port.state = .wuRetryWaitTsd)
    (htokens : v'.tokens .retryEstcom = v.tokens .retryEstcom) (hcalling : v.Calling → v'.Calling)
    (hcall : ∀ c, c = .retryEstcom ∨ c = .config → v.call = some c → v'.call = some c) :
    v'.port.state = .wuRetryWaitTsd → 0 < v'.tokens .retryEstcom ∨ v'.Calling ∨
      v'.call = some .retryEstcom ∨ v'.call = some .config := by
  intro hwait
  rw [htokens]
  exact (hv.retry (hstate hwait)).imp id
    (Or.imp hcalling (Or.imp (hcall _ (.inl rfl)) (hcall _ (.inr rfl))))

theorem retry_kept (hv : v.Attended) (h : Happens i v v') :
    v'.port.state = .wuRetryWaitTsd → 0 < v'.tokens .retryEstcom ∨ v'.Calling ∨
      v'.call = some .retryEstcom ∨ v'.call = some .config := by
  cases h with
  | nothing => exact hv.retry
  | called t ht hcalling hsignal => exact fun _ => .inr (.inl ⟨_, rfl, rfl⟩)
  | returned t ht hcalling => exact fun _ => .inl (by simp)
  | retried hcall => exact fun _ => .inl (by simp)
  | reset hhand hcall hstate => exact fun _ => .inr (.inr (.inr rfl))
  | retries t ht hhand hcall => exact fun _ => .inr (.inr (.inl rfl))
  | raised f hf => exact retry_frame hv id (by simp [Ne.symm hf]) id fun _ _ h => h
  | elapsed t ht hrunning =>
    refine retry_frame hv id rfl (fun ⟨t', ht', hcalling⟩ => ⟨_, rfl, ?_⟩) fun _ _ h => h
    obtain rfl := Option.some.inj (ht.symm.trans ht')
    exact hcalling
  | taken value hcall hhand hvalue =>
    exact retry_frame hv id (View.tokens_taken hhand hvalue _) id fun _ _ h => h
  | passed f hhand hcall state hf hstate =>
    by_cases hf' : f = .retryEstcom
    · -- the port does not wait for a retry
      obtain rfl := hf'
      exact fun hwait => absurd (hwait.trans (Option.some.inj hf)) hstate
    · exact retry_frame hv id (by simp [Ne.symm hf']) id fun _ _ h => h
  | ran hhand hcall hstate | idle hhand hcall hstate | asked hhand hcall hstate =>
    exact fun hwait => absurd (hstate.symm.trans hwait) AppPortState.noConfusion
  | waits t ht hhand hcall hstate =>
    exact fun hwait => absurd (hstate.symm.trans hwait) AppPortState.noConfusion
  | stops | started | config => exact fun hwait => AppPortState.noConfusion hwait
  | failed hcall | operational hcall | notOperational info hcall | configured hcall =>
    refine retry_frame hv id rfl id fun c hc hv => ?_
    rcases hc with rfl | rfl <;> exact absurd (hcall.symm.trans hv) (by decide)
  | configSio hcall hmode => exact absurd (hv.timer.mpr (hv.config hcall)) hmode

/-- The answers to a flag are left alone. -/
private theorem answered_frame (hf : v.port.Answered f ∨ 0 < v.tokens f)
    (hlog : v.port.Answered f → v'.port.Answered f) (htokens : v'.tokens f = v.tokens f) :
    v'.port.Answered f ∨ 0 < v'.tokens f := by
  rw [htokens]
  exact hf.imp_left hlog

/-- A report of new process data or of a changed status waits until the loop tests its flag, and the
test answers it. -/
theorem report_kept (hv : v.Attended) (hf : f = .pd ∨ f = .porte)
    (hreport : v.port.Answered f ∨ 0 < v.tokens f) (h : Happens i v v') :
    v'.port.Answered f ∨ 0 < v'.tokens f := by
  cases h with
  | raised g hg =>
    by_cases hgf : g = f
    · exact .inr (by simp [hgf])
    · exact answered_frame hreport (·.concat (by simpa using hgf)) (by simp [Ne.symm hgf])
  | taken value hcall hhand hvalue =>
    exact answered_frame hreport id (View.tokens_taken hhand hvalue _)
  | passed g hhand hcall state hg hstate =>
    by_cases hgf : g = f
    · -- the port is in another state than the one in which the flag leads to something
      obtain rfl := hgf
      rcases hf with rfl | rfl
      · obtain rfl := Option.some.inj hg
        exact .inl (Port.answered_concat (.inr ⟨_, hstate, rfl⟩) Entry.noConfusion)
      · obtain rfl := Option.some.inj hg
        exact .inl (Port.answered_concat (.inr ⟨_, hstate, rfl⟩) Entry.noConfusion)
    · exact answered_frame hreport (·.concat Entry.noConfusion) (by simp [Ne.symm hgf])
  | ran =>
    rcases hf with rfl | rfl
    · exact .inl (Port.answered_concat (.inl rfl) Entry.noConfusion)
    · exact answered_frame hreport (·.concat Entry.noConfusion) (by simp)
  | idle hhand hcall hstate hfunction =>
    rcases hf with rfl | rfl
    · exact absurd hfunction (hv.function hstate)
    · exact answered_frame hreport id (by simp)
  | asked =>
    rcases hf with rfl | rfl
    · exact answered_frame hreport (·.concat Entry.noConfusion) (by simp)
    · exact .inl (Port.answered_concat (.inl rfl) Entry.noConfusion)
  | reset | started | configured =>
    rcases hf with rfl | rfl <;>
      exact answered_frame hreport (·.concat Entry.noConfusion) (by simp)
  | nothing | elapsed | called | returned | waits | retries | stops | failed | operational
  | notOperational | config | configSio | retried =>
    rcases hf with rfl | rfl <;> exact answered_frame hreport id (by simp)

/-- What a lost communication waits for is left alone. -/
private theorem comlost_frame (hv : v.Attended)
    (hlog : v.port.Answered .comlost → v'.port.Answered .comlost)
    (htokens : v'.tokens .comlost = v.tokens .comlost) (hdelayed : v.Delayed → v'.Delayed)
    (hstate : v.port.state = .wuRetryWaitTsd → v'.port.state = .wuRetryWaitTsd)
    (hcall : v.call = some .portConfiguration → v'.call = some .portConfiguration) :
    v'.port.Answered .comlost ∨ 0 < v'.tokens .comlost ∨ v'.Delayed ∨
      v'.port.state = .wuRetryWaitTsd ∨ v'.call = some .portConfiguration := by
  rw [htokens]
  exact hv.comlost.imp hlog (Or.imp id (Or.imp hdelayed (Or.imp hstate hcall)))

theorem comlost_kept (hv : v.Attended) (h : Happens i v v') :
    v'.port.Answered .comlost ∨ 0 < v'.tokens .comlost ∨ v'.Delayed ∨
      v'.port.state = .wuRetryWaitTsd ∨ v'.call = some .portConfiguration := by
  cases h with
  | nothing => exact hv.comlost
  -- what a lost communication comes to, one after the other
  | raised f hf =>
    by_cases hf' : f = .comlost
    · exact .inr (.inl (by simp [hf']))
    · exact comlost_frame hv (·.concat (by simpa using hf')) (by simp [Ne.symm hf']) id id id
  | waits t ht => exact .inr (.inr (.inl ⟨_, rfl, .inl rfl⟩))
  | elapsed t ht hrunning => exact .inr (.inr (.inl ⟨_, rfl, .inr rfl⟩))
  | called | retries => exact .inr (.inr (.inr (.inl rfl)))
  | reset hhand hcall hstate => exact .inr (.inr (.inr (.inl hstate)))
  | config => exact .inr (.inr (.inr (.inr rfl)))
  | configured => exact .inl (Port.answered_concat (.inl rfl) Entry.noConfusion)
  | started => exact .inl (Port.answered_concat (.inr rfl) Entry.noConfusion)
  -- what cannot be
  | stops t ht hhand hcall hstate => exact absurd hstate hv.notStopping
  | configSio hcall hmode => exact absurd (hv.timer.mpr (hv.config hcall)) hmode
  -- what has nothing to do with it
  | returned t ht hcalling =>
    refine comlost_frame hv id (by simp) (fun ⟨t', ht', hdelayed⟩ => ⟨_, rfl, ?_⟩) id id
    obtain rfl := Option.some.inj (ht.symm.trans ht')
    exact hdelayed
  | taken value hcall hhand hvalue =>
    exact comlost_frame hv id (View.tokens_taken hhand hvalue _) id id id
  | passed f hhand hcall state hf hstate =>
    have hf' : f ≠ .comlost := by
      rintro rfl
      cases hf
    exact comlost_frame hv (·.concat Entry.noConfusion) (by simp [Ne.symm hf']) id id id
  | ran => exact comlost_frame hv (·.concat Entry.noConfusion) (by simp) id id id
  | idle => exact comlost_frame hv id (by simp) id id id
  | asked hhand hcall =>
    exact comlost_frame hv (·.concat Entry.noConfusion) (by simp) id id fun hconfiguration =>
      absurd (hcall.symm.trans hconfiguration) (by decide)
  | failed hcall | operational hcall | notOperational info hcall | retried hcall =>
    exact comlost_frame hv id (by simp) id id fun hconfiguration =>
      absurd (hcall.symm.trans hconfiguration) (by decide)

end Answers

/-! ### All runs -/

theorem attended_init (mode : PortIndex → PlMode) (i : PortIndex) :
    ((init mode).view i).Attended := by
  by_cases hmode : mode i = .sdci
  · constructor <;> simp [view, init, hmode, Stage.call, Port.Answered]
  · constructor <;> simp [view, init, hmode, Stage.call, Port.Answered]

section Runs

variable {mode : PortIndex → PlMode}

theorem Reaches.attended (hs : Reaches mode s) (hcrashed : s.stage ≠ .crashed) (i : PortIndex) :
    (s.view i).Attended := by
  refine hs.port_induct hcrashed i View.Attended (attended_init mode i) fun v v' hv h => ?_
  obtain ⟨htimer, hwaiting, hconfig, hfunction, hstopping⟩ := attended_states hv h
  exact ⟨htimer, hwaiting, hconfig, hfunction, hstopping, retry_kept hv h,
    report_kept hv (.inl rfl) hv.pd h, report_kept hv (.inr rfl) hv.porte h, comlost_kept hv h⟩

/-- The loop waits, nothing has been reported, and no timer is at work. -/
structure AtRest (s : IolHandler) : Prop where
  stage : s.stage = .wait
  appEvent : s.appEvent = 0
  timer : ∀ i t, (s.port i).timer = some t →
    t.running = false ∧ t.signal = false ∧ t.calling = false

/-- **Nothing is left behind.** Whatever the stack reports, whenever the timers elapse and however
the steps of the threads follow each other: when the loop has come to rest, each report of new
process data has been followed by a cyclic run, unless the port was not running, each report of a
changed status by a request for the status, unless the port was not starting, and each lost
communication by a new configuration of the port, unless it has come back by itself; no port waits
for a retry. -/
theorem handler_answers_every_event (hs : Reaches mode s) (hrest : s.AtRest) (i : PortIndex) :
    (s.port i).Answered .pd ∧ (s.port i).Answered .porte ∧ (s.port i).Answered .comlost ∧
      (s.port i).state ≠ .wuRetryWaitTsd := by
  have hcrashed : s.stage ≠ .crashed := by
    rw [hrest.stage]
    exact Stage.noConfusion
  have hordered : s.Ordered :=
    hs.invariant Ordered (ordered_init mode) fun _ m h _ => h.step m
  have hcall : (s.view i).call = none := by
    show s.stage.call i = none
    rw [hrest.stage]
    rfl
  have htokens : ∀ f, ¬ 0 < (s.view i).tokens f := by
    intro f
    simp [View.tokens, view, hrest.appEvent, hordered.before (.inl hrest.stage), isSet]
  have htimer : ¬ (s.view i).Delayed ∧ ¬ (s.view i).Calling := by
    constructor
    · rintro ⟨t, ht, hrunning | hsignal⟩
      · exact absurd hrunning (by rw [(hrest.timer i t ht).1]; exact Bool.noConfusion)
      · exact absurd hsignal (by rw [(hrest.timer i t ht).2.1]; exact Bool.noConfusion)
    · rintro ⟨t, ht, hcalling⟩
      exact absurd hcalling (by rw [(hrest.timer i t ht).2.2]; exact Bool.noConfusion)
  have hv := hs.attended hcrashed i
  have hstate : (s.port i).state ≠ .wuRetryWaitTsd := by
    intro hwait
    rcases hv.retry hwait with h | h | h | h
    · exact htokens _ h
    · exact htimer.2 h
    · exact absurd (hcall.symm.trans h) (Option.some_ne_none _).symm
    · exact absurd (hcall.symm.trans h) (Option.some_ne_none _).symm
  refine ⟨hv.pd.resolve_right (htokens _), hv.porte.resolve_right (htokens _), ?_, hstate⟩
  rcases hv.comlost with h | h | h | h | h
  · exact h
  · exact absurd h (htokens _)
  · exact absurd h htimer.1
  · exact absurd h hstate
  · exact absurd (hcall.symm.trans h) (Option.some_ne_none _).symm

/-- A port whose communication is lost while it starts is configured anew after half a second. -/
def lostAtStart : List Move :=
  .portEvent (portOf 0) eventcodeNoDev :: List.replicate 11 (.loop {}) ++
    [.elapse (portOf 0), .timerThread (portOf 0), .timerThread (portOf 0)] ++
    List.replicate 13 (.loop {})

theorem handler_answers_every_event_lostAtStart :
    ((Runs.run step (init fun _ => .sdci) lostAtStart).port 0).Answered .comlost ∧
      ((Runs.run step (init fun _ => .sdci) lostAtStart).port 0).log =
        [.raised .comlost, .reset, .configured] := by
  have hrest : AtRest (Runs.run step (init fun _ => .sdci) lostAtStart) := by
    refine ⟨by decide, by decide, fun i t ht => ?_⟩
    revert i t
    decide
  exact ⟨(handler_answers_every_event (Runs.reaches_run_true _ _) hrest 0).2.2.1, by decide⟩

end Runs

end IolHandler

end IolHat

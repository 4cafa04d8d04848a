import IolHat.Application.Handler.Answers

/-!
# Nothing is done without a cause

Each thing that is done at a port uses up a cause of it, and what is between cause and effect can be
counted: a flag that is set or has been taken, a timer that runs, has elapsed or is being served, a
call under way. `Caused` says that they do not become more; `handler_acts_on_cause` is what remains
when they are left out. The loop itself ends when a lost communication is reported of a port that
has none (`newly_crashed`).
-/

namespace IolHat

namespace IolHandler

variable {s : IolHandler} {i : PortIndex}

/-! ### What waits -/

namespace View

variable (v : View)

/-- The timer runs, has elapsed, or its thread is in `iolink_retry_estcom`. -/
def timerTokens : ℕ :=
  match v.port.timer with
  | some t => t.running.toNat + t.signal.toNat + t.calling.toNat
  | none => 0

/-- The loop is in a call. -/
def callTokens (c : Call) : ℕ := if v.call = some c then 1 else 0

/-- What a lost communication still has to lead to. -/
def lossTokens : ℕ :=
  v.tokens .comlost + v.timerTokens + v.callTokens .retryEstcom + v.tokens .retryEstcom

variable {v} {c : Call} {f : Flag}

theorem hand_le : (v.hand f).toNat ≤ v.tokens f := Nat.le_add_left _ _

theorem callTokens_eq {x : Option Call} (h : v.call = x) :
    v.callTokens c = if x = some c then 1 else 0 := by
  rw [callTokens, h]

@[simp]
theorem callTokens_setCall (x : Option Call) :
    (v.setCall x).callTokens c = if x = some c then 1 else 0 := rfl

@[simp]
theorem callTokens_modPort (h : Port → Port) : (v.modPort h).callTokens c = v.callTokens c := rfl

@[simp] theorem callTokens_record (e : Entry) : (v.record e).callTokens c = v.callTokens c := rfl

@[simp]
theorem callTokens_setState (state : AppPortState) :
    (v.setState state).callTokens c = v.callTokens c := rfl

@[simp]
theorem callTokens_setTimer (t : Timer) : (v.setTimer t).callTokens c = v.callTokens c := rfl

@[simp] theorem callTokens_setFlag : (v.setFlag f).callTokens c = v.callTokens c := rfl

@[simp] theorem callTokens_tested : (v.tested f).callTokens c = v.callTokens c := rfl

@[simp]
theorem timerTokens_setCall (x : Option Call) : (v.setCall x).timerTokens = v.timerTokens := rfl

@[simp] theorem timerTokens_record (e : Entry) : (v.record e).timerTokens = v.timerTokens := rfl

@[simp]
theorem timerTokens_setState (state : AppPortState) :
    (v.setState state).timerTokens = v.timerTokens := rfl

@[simp]
theorem timerTokens_modPort {h : Port → Port} (htimer : (h v.port).timer = v.port.timer) :
    (v.modPort h).timerTokens = v.timerTokens := by
  rw [timerTokens, modPort_port, htimer, timerTokens]

@[simp] theorem timerTokens_setFlag : (v.setFlag f).timerTokens = v.timerTokens := rfl

@[simp] theorem timerTokens_tested : (v.tested f).timerTokens = v.timerTokens := rfl

@[simp]
theorem timerTokens_setTimer (t : Timer) :
    (v.setTimer t).timerTokens = t.running.toNat + t.signal.toNat + t.calling.toNat := rfl

theorem timerTokens_eq {t : Timer} (h : v.port.timer = some t) :
    v.timerTokens = t.running.toNat + t.signal.toNat + t.calling.toNat := by
  rw [timerTokens, h]

/-- Nothing is done without a cause. -/
structure Caused (v : View) : Prop where
  ran : v.port.log.count .ran + v.tokens .pd ≤ v.port.log.count (.raised .pd)
  asked : v.port.log.count .asked + v.tokens .porte ≤ v.port.log.count (.raised .porte)
  started : v.port.log.count .started + v.callTokens .setup + v.callTokens .portStatus ≤
    v.port.log.count .asked
  reset : v.port.log.count .reset + v.lossTokens ≤ v.port.log.count (.raised .comlost)
  configured : v.port.log.count .configured + v.callTokens .portConfiguration +
    v.callTokens .config ≤ v.port.log.count .reset

end View

section Causes

variable {v v' : View}

theorem ran_kept (hv : v.Caused) (h : Happens i v v') :
    v'.port.log.count .ran + v'.tokens .pd ≤ v'.port.log.count (.raised .pd) := by
  have hran := hv.ran
  have hle := v.hand_le (f := .pd)
  cases h with
  | raised f hf =>
    cases f <;> simp <;> omega
  | taken value hcall hhand hvalue => simpa only [View.tokens_taken hhand hvalue] using hran
  | passed f hhand =>
    have htokens := View.tokens_of_hand hhand
    cases f <;> simp <;> omega
  | ran hhand | idle hhand =>
    have htokens := View.tokens_of_hand hhand
    simp
    omega
  | _ => simpa using hran

theorem asked_kept (hv : v.Caused) (h : Happens i v v') :
    v'.port.log.count .asked + v'.tokens .porte ≤ v'.port.log.count (.raised .porte) := by
  have hasked := hv.asked
  have hle := v.hand_le (f := .porte)
  cases h with
  | raised f hf =>
    cases f <;> simp <;> omega
  | taken value hcall hhand hvalue => simpa only [View.tokens_taken hhand hvalue] using hasked
  | passed f hhand =>
    have htokens := View.tokens_of_hand hhand
    cases f <;> simp <;> omega
  | asked hhand =>
    have htokens := View.tokens_of_hand hhand
    simp
    omega
  | _ => simpa using hasked

/-- Two kinds of entries, and two calls between them, are left alone. -/
private theorem calls_frame {e₁ e₂ : Entry} {c₁ c₂ : Call}
    (hv : v.port.log.count e₁ + v.callTokens c₁ + v.callTokens c₂ ≤ v.port.log.count e₂)
    (he₁ : v'.port.log.count e₁ = v.port.log.count e₁)
    (he₂ : v'.port.log.count e₂ = v.port.log.count e₂)
    (hc₁ : v'.callTokens c₁ = v.callTokens c₁) (hc₂ : v'.callTokens c₂ = v.callTokens c₂) :
    v'.port.log.count e₁ + v'.callTokens c₁ + v'.callTokens c₂ ≤ v'.port.log.count e₂ := by
  rw [he₁, he₂, hc₁, hc₂]
  exact hv

theorem started_kept (hv : v.Caused) (h : Happens i v v') :
    v'.port.log.count .started + v'.callTokens .setup + v'.callTokens .portStatus ≤
      v'.port.log.count .asked := by
  have hstarted := hv.started
  cases h with
  -- the status is asked for, arrives or does not, and the port runs
  | asked hhand hcall | failed hcall | operational hcall | notOperational info hcall
  | started hcall =>
    simp [View.callTokens_eq hcall] at hstarted ⊢
    omega
  -- other calls
  | reset hhand hcall | retries t ht hhand hcall | config hcall | configured hcall
  | retried hcall =>
    exact calls_frame hstarted (by simp) (by simp) (by simp [View.callTokens_eq hcall])
      (by simp [View.callTokens_eq hcall])
  | configSio hcall hmode c hc =>
    rcases hc with rfl | rfl <;>
      exact calls_frame hstarted rfl rfl (by simp [View.callTokens_eq hcall])
        (by simp [View.callTokens_eq hcall])
  -- no call
  | nothing | raised | elapsed | called | returned | taken | passed | ran | idle | waits | stops =>
    exact calls_frame hstarted (by simp) (by simp) rfl rfl

theorem configured_kept (hv : v.Caused) (h : Happens i v v') :
    v'.port.log.count .configured + v'.callTokens .portConfiguration + v'.callTokens .config ≤
      v'.port.log.count .reset := by
  have hconfigured := hv.configured
  cases h with
  -- the port is reset, and its configuration is sent
  | reset hhand hcall | config hcall | configured hcall =>
    simp [View.callTokens_eq hcall] at hconfigured ⊢
    omega
  | configSio hcall hmode c hc =>
    rcases hc with rfl | rfl <;> simp [View.callTokens_eq hcall] at hconfigured ⊢ <;> omega
  -- other calls
  | asked hhand hcall | failed hcall | operational hcall | notOperational info hcall
  | started hcall | retries t ht hhand hcall | retried hcall =>
    exact calls_frame hconfigured (by simp) (by simp) (by simp [View.callTokens_eq hcall])
      (by simp [View.callTokens_eq hcall])
  -- no call
  | nothing | raised | elapsed | called | returned | taken | passed | ran | idle | waits | stops =>
    exact calls_frame hconfigured (by simp) (by simp) rfl rfl

/-- Neither the resets nor what a lost communication still has to lead to change. -/
private theorem reset_frame (hv : v.Caused)
    (hreset : v'.port.log.count .reset = v.port.log.count .reset)
    (hraised : v'.port.log.count (.raised .comlost) = v.port.log.count (.raised .comlost))
    (hloss : v'.lossTokens = v.lossTokens) :
    v'.port.log.count .reset + v'.lossTokens ≤ v'.port.log.count (.raised .comlost) := by
  rw [hreset, hraised, hloss]
  exact hv.reset

theorem reset_kept (hv : v.Caused) (h : Happens i v v') :
    v'.port.log.count .reset + v'.lossTokens ≤ v'.port.log.count (.raised .comlost) := by
  have hreset := hv.reset
  have hle := v.hand_le (f := .comlost)
  have hretry := v.hand_le (f := .retryEstcom)
  unfold View.lossTokens at hreset
  cases h with
  | nothing => exact hv.reset
  | raised f hf =>
    cases f with
    | comlost =>
      simp [View.lossTokens] at hreset ⊢
      omega
    | retryEstcom => exact absurd rfl hf
    | pd | porte => exact reset_frame hv (by simp) (by simp) (by simp [View.lossTokens])
  -- an alarm that has not been taken is not repeated
  | elapsed t ht hrunning =>
    rw [View.timerTokens_eq ht, hrunning] at hreset
    have hsignal := Bool.toNat_le t.signal
    simp [View.lossTokens] at hreset ⊢
    omega
  | called t ht hcalling hsignal =>
    rw [View.timerTokens_eq ht, hcalling, hsignal] at hreset
    simpa [View.lossTokens] using hreset
  | returned t ht hcalling =>
    rw [View.timerTokens_eq ht, hcalling] at hreset
    simp [View.lossTokens] at hreset ⊢
    omega
  | taken value hcall hhand hvalue =>
    simp only [View.lossTokens, View.tokens_taken hhand hvalue]
    exact hreset
  | passed f hhand =>
    have htokens := View.tokens_of_hand hhand
    cases f <;> simp [View.lossTokens] at hreset ⊢ <;> omega
  -- the retry is due
  | reset hhand hcall =>
    rw [View.callTokens_eq hcall, View.tokens_of_hand hhand] at hreset
    simp [View.lossTokens] at hreset ⊢
    omega
  -- the timer takes over, or the call
  | waits t ht hhand hcall | stops t ht hhand hcall | retries t ht hhand hcall =>
    rw [View.timerTokens_eq ht, View.callTokens_eq hcall, View.tokens_of_hand hhand] at hreset
    simp [View.lossTokens, View.callTokens_eq hcall] at hreset ⊢
    omega
  | retried hcall =>
    rw [View.callTokens_eq hcall] at hreset
    simp [View.lossTokens] at hreset ⊢
    omega
  -- what has nothing to do with it
  | ran | idle => exact reset_frame hv (by simp) (by simp) (by simp [View.lossTokens])
  | asked hhand hcall | failed hcall | operational hcall | notOperational info hcall
  | started hcall | config hcall | configured hcall =>
    exact reset_frame hv (by simp) (by simp) (by simp [View.lossTokens, View.callTokens_eq hcall])
  | configSio hcall hmode c hc =>
    refine reset_frame hv rfl rfl ?_
    rcases hc with rfl | rfl <;> simp [View.lossTokens, View.callTokens_eq hcall]

/-- Whatever happens to a port has a cause. -/
theorem View.Caused.step (hv : v.Caused) (h : Happens i v v') : v'.Caused :=
  ⟨ran_kept hv h, asked_kept hv h, started_kept hv h, reset_kept hv h, configured_kept hv h⟩

end Causes

/-! ### All runs -/

theorem caused_init (mode : PortIndex → PlMode) (i : PortIndex) : ((init mode).view i).Caused := by
  have htimer : ((init mode).view i).timerTokens = 0 := by
    simp only [View.timerTokens, view, init]
    split_ifs <;> rfl
  refine ⟨?_, ?_, ?_, ?_, ?_⟩
  · simp [view, init, View.tokens, isSet]
  · simp [view, init, View.tokens, isSet]
  · simp [view, init, View.callTokens, Stage.call]
  · rw [View.lossTokens, htimer]
    simp [view, init, View.tokens, View.callTokens, Stage.call, isSet]
  · simp [view, init, View.callTokens, Stage.call]

section Runs

variable {mode : PortIndex → PlMode}

theorem Reaches.caused (hs : Reaches mode s) (hcrashed : s.stage ≠ .crashed) (i : PortIndex) :
    (s.view i).Caused :=
  hs.port_induct hcrashed i View.Caused (caused_init mode i) fun _ _ => View.Caused.step

theorem Happens.log_isPrefix_log {v v' : View} (h : Happens i v v') :
    v.port.log <+: v'.port.log := by
  cases h <;> simp

theorem Happens.mode_eq {v v' : View} (h : Happens i v v') : v'.port.mode = v.port.mode := by
  cases h <;> simp

/-- Only a test for a lost communication of a port without a timer ends the loop. -/
theorem newly_crashed (hbefore : s.stage ≠ .crashed) {m : Move}
    (h : (s.step m).stage = .crashed) : ∃ i, (s.view i).hand .comlost = true ∧
      (s.port i).timer = none ∧ (s.step m).port = s.port := by
  cases m with
  | portEvent i eventCode =>
    simp only [step, handleSmiPortevent] at h
    split_ifs at h <;> exact absurd h hbefore
  | pd i => exact absurd h hbefore
  | elapse i =>
    simp only [step, elapse] at h
    split at h
    · split_ifs at h <;> exact absurd h hbefore
    · exact absurd h hbefore
  | timerThread i =>
    simp only [step, timerThread] at h
    split at h
    · split_ifs at h <;> exact absurd h hbefore
    · exact absurd h hbefore
  | loop a =>
    simp only [step] at h ⊢
    cases hstage : s.stage with
    -- Only a found flag of a lost communication calls the timer.
    | wait =>
      simp only [loop, hstage] at h
      split_ifs at h
      exact absurd h hbefore
    | clr => simp [loop, hstage] at h
    | busy i c =>
      cases c with
      | portStatus =>
        simp only [loop, hstage] at h
        split_ifs at h <;> cases h
      | config =>
        simp only [loop, hstage, configPort] at h
        split at h <;> cases h
      | _ => simp [loop, hstage] at h
    | crashed => exact absurd hstage hbefore
    | look =>
      have hloop : s.loop a = s.look := by
        simp only [loop, hstage]
      rw [hloop] at h ⊢
      unfold look at h ⊢
      cases htests : s.tests with
      | nil =>
        rw [htests] at h
        cases h
      | cons test rest =>
        obtain ⟨i, f⟩ := test
        rw [htests] at h
        dsimp only at h ⊢
        split_ifs at h ⊢ with hset
        · have hhand : (s.view i).hand f = true := by
            show (isSet s.eventValue f i && decide ((i, f) ∈ s.tests)) = true
            rw [hset, htests, decide_eq_true List.mem_cons_self]
            rfl
          cases f with
          | comlost =>
            simp only [found] at h ⊢
            cases ht : (s.port i).timer with
            -- `os_timer_start` is called with the `NULL` of a timer that was never created.
            | none => exact ⟨i, hhand, ht, rfl⟩
            | some t =>
              simp only [ht] at h
              split_ifs at h
              · exact absurd h hbefore
              · cases h
              · exact absurd h hbefore
          | pd =>
            simp only [found] at h
            split_ifs at h
            · split at h <;> exact absurd h hbefore
            · exact absurd h hbefore
          | porte | retryEstcom =>
            simp only [found] at h
            split_ifs at h
            · cases h
            · exact absurd h hbefore
        · exact absurd h hbefore

/-- A port that is not used for a communication has lost one. -/
def Misreported (mode : PortIndex → PlMode) (s : IolHandler) : Prop :=
  ∃ i, mode i ≠ .sdci ∧ .raised .comlost ∈ (s.port i).log

theorem Reaches.mode_eq (hs : Reaches mode s) (hcrashed : s.stage ≠ .crashed) (i : PortIndex) :
    (s.port i).mode = mode i :=
  hs.port_induct hcrashed i (fun v => v.port.mode = mode i) rfl fun _ _ hv h => h.mode_eq.trans hv

theorem misreported_of_crashed (hs : Reaches mode s) (hcrashed : s.stage = .crashed) :
    Misreported mode s := by
  have hboth := hs.invariant
    (fun s => Reaches mode s ∧ s.Ordered ∧ (s.stage = .crashed → Misreported mode s))
    ⟨.start, ordered_init mode, fun h => Stage.noConfusion h⟩ ?_
  · exact hboth.2.2 hcrashed
  · rintro s m ⟨hs, hordered, ih⟩ -
    refine ⟨hs.next m trivial, hordered.step m, fun hafter => ?_⟩
    by_cases hbefore : s.stage = .crashed
    · -- what has been reported stays in the log
      obtain ⟨i, hmode, hmem⟩ := ih hbefore
      exact ⟨i, hmode, (happens_step hordered m (.inl hbefore) i).log_isPrefix_log.subset hmem⟩
    · obtain ⟨i, hhand, htimer, hport⟩ := newly_crashed hbefore hafter
      have hmode : (s.port i).mode ≠ .sdci := fun h =>
        (hs.attended hbefore i).timer.mp h htimer
      have hreset := (hs.caused hbefore i).reset
      have htokens := View.tokens_of_hand hhand
      refine ⟨i, hs.mode_eq hbefore i ▸ hmode, ?_⟩
      rw [hport]
      refine List.count_pos_iff.mp (show 0 < (s.view i).port.log.count _ from ?_)
      unfold View.lossTokens at hreset
      omega

/-- No more is done at a port than there are causes for. -/
structure Port.Caused (p : Port) : Prop where
  ran : p.log.count .ran ≤ p.log.count (.raised .pd)
  started : p.log.count .started ≤ p.log.count .asked
  asked : p.log.count .asked ≤ p.log.count (.raised .porte)
  configured : p.log.count .configured ≤ p.log.count .reset
  reset : p.log.count .reset ≤ p.log.count (.raised .comlost)

/-- **Nothing is done without a cause.** Whatever the order of the steps, a port has no more cyclic
runs than reports of new process data, is set up no more often than its status has been asked for,
asked for its status no more often than this was reported to have changed, and is reset and
configured anew no more often than its communication was reported lost; and the loop ends only
after a lost communication has been reported of a port that has none. -/
theorem handler_acts_on_cause (hs : Reaches mode s) :
    (s.stage = .crashed → Misreported mode s) ∧
      (s.stage ≠ .crashed → ∀ i, (s.port i).Caused) := by
  refine ⟨misreported_of_crashed hs, fun hcrashed i => ?_⟩
  obtain ⟨hran, hasked, hstarted, hreset, hconfigured⟩ := hs.caused hcrashed i
  have hport : (s.view i).port = s.port i := rfl
  rw [hport] at hran hasked hstarted hreset hconfigured
  constructor
  · exact Nat.le_of_add_right_le hran
  · exact Nat.le_of_add_right_le (Nat.le_of_add_right_le hstarted)
  · exact Nat.le_of_add_right_le hasked
  · exact Nat.le_of_add_right_le (Nat.le_of_add_right_le hconfigured)
  · exact Nat.le_of_add_right_le hreset

theorem handler_acts_on_cause_lostAtStart :
    let s := Runs.run step (init fun _ => .sdci) lostAtStart
    s.stage ≠ .crashed ∧ (s.port 0).log.count .reset = 1 ∧ (s.port 0).Caused :=
  ⟨by decide, by decide, (handler_acts_on_cause (Runs.reaches_run_true _ _)).2 (by decide) 0⟩

end Runs

end IolHandler

end IolHat

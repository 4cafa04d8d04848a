import IolHat.Lib.Run
import Mathlib.Algebra.Group.Action.Defs
import Mathlib.Algebra.Order.BigOperators.Group.Finset
import Mathlib.Tactic.Common

/-!
# Monitors

A monitor is a state behind a mutex with one condition variable. A call takes the mutex and waits on
the variable until it is *ready*; its *body* then runs, and the mutex is released. Some calls signal
the variable, but only after they have released the mutex. A signal wakes a sleeping thread if there
is one, sleepers may also wake without a signal, and a call with a timeout may give up.

Threads hold the mutex for one piece of a call at a time, so a run of a monitor is a list of such
pieces, `Move`s, in the order in which the mutex went round. Whoever schedules the threads chooses
the moves, and everything here holds for every choice.

* `Legal`: what the calls have done is a sequential history, whatever the threads did in between.
* `tokens_le_moving` and `no_ready_sleeper`: when readiness is a matter of tokens in the state,
  every token that a sleeper could have is matched by a thread that is still moving.
* `single_sleeper`: when only one thread waits, it suffices that calls which make it ready signal.
* `length_le_of_finishing`: the threads that are moving stop after a bounded number of moves.
-/

/-- A state behind a mutex, by its calls. -/
structure Monitor (σ κ ρ : Type) where
  /-- Does the call leave its waiting loop? -/
  ready : σ → κ → Bool
  /-- What it does then, and returns. -/
  body : σ → κ → σ × ρ
  /-- What it returns when its wait has timed out. -/
  giveUp : σ → κ → ρ
  /-- May its wait time out? -/
  timed : κ → Bool
  /-- Does it signal after it has released the mutex? -/
  signals : κ → Bool

namespace Monitor

/-- Where a thread is. -/
inductive Phase (κ : Type)
  /-- In no call. -/
  | idle
  /-- Waiting on the condition variable. -/
  | asleep (c : κ)
  /-- Waiting for the mutex again, and whether the wait has timed out. -/
  | awake (c : κ) (error : Bool)
  /-- Out of the mutex, with a signal to send. -/
  | signalling
  deriving DecidableEq

/-- A monitor and its threads. -/
structure World (σ κ ρ τ : Type) where
  shared : σ
  phase : τ → Phase κ
  /-- The calls that have done what they do, in that order. -/
  history : List (τ × κ × ρ)

/-- A piece of a call. -/
inductive Move (κ τ : Type)
  /-- A thread calls. -/
  | call (t : τ) (c : κ)
  /-- A thread that is awake gets the mutex. -/
  | resume (t : τ)
  /-- A thread wakes without a signal. -/
  | wake (t : τ)
  /-- A wait times out. -/
  | timeout (t : τ)
  /-- A thread signals, and the thread that this wakes. -/
  | signal (t : τ) (woken : Option τ)

variable {σ κ ρ τ : Type} [DecidableEq τ]

/-- The world before any call. -/
def World.init (s : σ) : World σ κ ρ τ := ⟨s, fun _ => .idle, []⟩

/-- Move one thread. -/
def World.put (w : World σ κ ρ τ) (t : τ) (p : Phase κ) : World σ κ ρ τ :=
  { w with phase := Function.update w.phase t p }

variable (M : Monitor σ κ ρ)

/-- A call that has done what it does. -/
def finish (w : World σ κ ρ τ) (t : τ) (c : κ) (s : σ) (r : ρ) : World σ κ ρ τ where
  shared := s
  phase := Function.update w.phase t (if M.signals c then .signalling else .idle)
  history := w.history ++ [(t, c, r)]

section Phases

variable {w : World σ κ ρ τ} {t u : τ} {p : Phase κ}

@[simp] theorem World.put_shared : (w.put t p).shared = w.shared := rfl

@[simp] theorem World.put_self : (w.put t p).phase t = p := Function.update_self ..

theorem World.put_of_ne (h : u ≠ t) : (w.put t p).phase u = w.phase u :=
  Function.update_of_ne h ..

variable {M} {c : κ} {s : σ} {r : ρ}

@[simp] theorem finish_shared : (M.finish w t c s r).shared = s := rfl

@[simp]
theorem finish_self :
    (M.finish w t c s r).phase t = if M.signals c then .signalling else .idle :=
  Function.update_self ..

theorem finish_of_ne (h : u ≠ t) : (M.finish w t c s r).phase u = w.phase u :=
  Function.update_of_ne h ..

/-- A thread that sleeps after the move of another one slept before. -/
theorem asleep_of_put {d : κ} (h : (w.put t p).phase u = .asleep d) (hp : p ≠ .asleep d) :
    u ≠ t ∧ w.phase u = .asleep d := by
  by_cases hut : u = t
  · rw [hut, World.put_self] at h
    exact absurd h hp
  · rw [World.put_of_ne hut] at h
    exact ⟨hut, h⟩

theorem asleep_of_finish {d : κ} (h : (M.finish w t c s r).phase u = .asleep d) :
    u ≠ t ∧ w.phase u = .asleep d :=
  asleep_of_put (w := w) h (by split_ifs <;> simp)

end Phases

/-- A call that has the mutex. -/
def attempt (w : World σ κ ρ τ) (t : τ) (c : κ) : World σ κ ρ τ :=
  if M.ready w.shared c then M.finish w t c (M.body w.shared c).1 (M.body w.shared c).2
  else w.put t (.asleep c)

/-- What a move does; a move of a thread that is elsewhere does nothing. -/
def step (w : World σ κ ρ τ) : Move κ τ → World σ κ ρ τ
  | .call t c =>
    match w.phase t with
    | .idle => M.attempt w t c
    | _ => w
  | .resume t =>
    match w.phase t with
    | .awake c false => M.attempt w t c
    | .awake c true => M.finish w t c w.shared (M.giveUp w.shared c)
    | _ => w
  | .wake t =>
    match w.phase t with
    | .asleep c => w.put t (.awake c false)
    | _ => w
  | .timeout t =>
    match w.phase t with
    | .asleep c => if M.timed c then w.put t (.awake c true) else w
    | _ => w
  | .signal t woken =>
    match w.phase t with
    | .signalling =>
      match woken with
      | none => w.put t .idle
      | some u =>
        match w.phase u with
        | .asleep c => (w.put u (.awake c false)).put t .idle
        | _ => w
    | _ => w

/-- A thread in this phase waits on the condition variable. -/
def Phase.isAsleep : Phase κ → Bool
  | .asleep _ => true
  | _ => false

/-- Nobody waits on the condition variable. -/
def World.Nobody (w : World σ κ ρ τ) : Prop := ∀ t, (w.phase t).isAsleep = false

omit [DecidableEq τ] in
theorem World.Nobody.ne_asleep {w : World σ κ ρ τ} (h : w.Nobody) (t : τ) (c : κ) :
    w.phase t ≠ .asleep c := by
  intro hc
  have hasleep := h t
  rw [hc] at hasleep
  cases hasleep

/-- The choices of the scheduler: threads call what they may, and a signal wakes a thread if one
sleeps. -/
def Scheduled (may : World σ κ ρ τ → τ → κ → Prop) (w : World σ κ ρ τ) : Move κ τ → Prop
  | .call t c => may w t c
  | .signal _ none => w.Nobody
  | _ => True

instance (may : World σ κ ρ τ → τ → κ → Prop) [∀ w t c, Decidable (may w t c)] [Fintype τ]
    (w : World σ κ ρ τ) : ∀ m, Decidable (Scheduled may w m)
  | .call t c => inferInstanceAs (Decidable (may w t c))
  | .signal _ none => inferInstanceAs (Decidable (∀ t, (w.phase t).isAsleep = false))
  | .signal _ (some _) => isTrue trivial
  | .resume _ => isTrue trivial
  | .wake _ => isTrue trivial
  | .timeout _ => isTrue trivial

/-- A thread wants the mutex for a call: a new one, or one that has been woken. -/
def Wants (may : World σ κ ρ τ → τ → κ → Prop) (w : World σ κ ρ τ) (t : τ) (c : κ) : Prop :=
  (w.phase t = .idle ∧ may w t c) ∨ w.phase t = .awake c false

/-- **What one move can do.** -/
inductive Moved (may : World σ κ ρ τ → τ → κ → Prop) (w : World σ κ ρ τ) : World σ κ ρ τ → Prop
  /-- A thread gets the mutex and its call goes through. -/
  | through (t : τ) (c : κ) (h : Wants may w t c) (hready : M.ready w.shared c = true) :
      Moved may w (M.finish w t c (M.body w.shared c).1 (M.body w.shared c).2)
  /-- A thread gets the mutex and has to wait. -/
  | sleep (t : τ) (c : κ) (h : Wants may w t c) (hready : M.ready w.shared c = false) :
      Moved may w (w.put t (.asleep c))
  /-- A thread gets the mutex after its wait has timed out. -/
  | giveUp (t : τ) (c : κ) (h : w.phase t = .awake c true) :
      Moved may w (M.finish w t c w.shared (M.giveUp w.shared c))
  /-- A thread wakes. -/
  | wake (t : τ) (c : κ) (h : w.phase t = .asleep c) : Moved may w (w.put t (.awake c false))
  /-- A wait times out. -/
  | timeout (t : τ) (c : κ) (h : w.phase t = .asleep c) (htimed : M.timed c = true) :
      Moved may w (w.put t (.awake c true))
  /-- A signal finds nobody. -/
  | unheard (t : τ) (h : w.phase t = .signalling) (hnobody : w.Nobody) : Moved may w (w.put t .idle)
  /-- A signal wakes a thread. -/
  | signal (t u : τ) (c : κ) (h : w.phase t = .signalling) (hu : w.phase u = .asleep c) :
      Moved may w ((w.put u (.awake c false)).put t .idle)
  /-- Nothing. -/
  | stay : Moved may w w

variable {M} {may : World σ κ ρ τ → τ → κ → Prop} {w : World σ κ ρ τ}

theorem moved_attempt {t : τ} {c : κ} (h : Wants may w t c) :
    Moved M may w (M.attempt w t c) := by
  unfold attempt
  split_ifs with hready
  · exact .through t c h hready
  · exact .sleep t c h (Bool.eq_false_iff.mpr hready)

theorem moved_step {m : Move κ τ} (hm : Scheduled may w m) : Moved M may w (M.step w m) := by
  cases m with
  -- Each kind of move does what it says when its thread is where the move begins, or nothing.
  | call t c =>
    dsimp only [step]
    split
    · next h => exact moved_attempt (.inl ⟨h, hm⟩)
    · exact .stay
  | resume t =>
    dsimp only [step]
    split
    · next c h => exact moved_attempt (.inr h)
    · next c h => exact .giveUp t c h
    · exact .stay
  | wake t =>
    dsimp only [step]
    split
    · next c h => exact .wake t c h
    · exact .stay
  | timeout t =>
    dsimp only [step]
    split
    · next c h =>
      split_ifs with htimed
      · exact .timeout t c h htimed
      · exact .stay
    · exact .stay
  | signal t woken =>
    dsimp only [step]
    split
    · next h =>
      cases woken with
      | none => exact .unheard t h hm
      | some u =>
        dsimp only
        split
        · next c hu => exact .signal t u c h hu
        · exact .stay
    · exact .stay

variable (M may) in
/-- The worlds that the threads can reach. -/
abbrev Reaches (s₀ : σ) : World σ κ ρ τ → Prop :=
  Runs.Reaches M.step (Scheduled may) (World.init s₀)

/-- **The invariant rule**, by what a move can do. -/
theorem Reaches.induct {s₀ : σ} (hw : Reaches M may s₀ w) (I : World σ κ ρ τ → Prop)
    (h₀ : I (World.init s₀))
    (hmoved : ∀ {w w'}, Reaches M may s₀ w → I w → Moved M may w w' → I w') : I w := by
  induction hw with
  | start => exact h₀
  | next hw m hm ih => exact hmoved hw ih (moved_step hm)

/-! ### Histories -/

variable (M) in
/-- The sequential histories: the calls go through one after the other, each in a state where it is
ready, or give up where they may. -/
inductive Legal (s₀ : σ) : List (τ × κ × ρ) → σ → Prop
  /-- No call. -/
  | nil : Legal s₀ [] s₀
  /-- One more call goes through. -/
  | through {l : List (τ × κ × ρ)} {s : σ} (h : Legal s₀ l s) (t : τ) (c : κ)
      (hready : M.ready s c = true) :
      Legal s₀ (l ++ [(t, c, (M.body s c).2)]) (M.body s c).1
  /-- One more call gives up. -/
  | giveUp {l : List (τ × κ × ρ)} {s : σ} (h : Legal s₀ l s) (t : τ) (c : κ)
      (htimed : M.timed c = true) : Legal s₀ (l ++ [(t, c, M.giveUp s c)]) s

/-! ### One thread -/

variable (M may w) in
/-- What one move can make of the phase of one thread. -/
inductive Changed (u : τ) : Phase κ → Prop
  /-- Nothing. -/
  | same : Changed u (w.phase u)
  /-- Its call has done what it does. -/
  | done (c : κ) (h : Wants may w u c ∨ w.phase u = .awake c true) :
      Changed u (if M.signals c then .signalling else .idle)
  /-- Its call has to wait. -/
  | asleep (c : κ) (h : Wants may w u c) (hready : M.ready w.shared c = false) :
      Changed u (.asleep c)
  /-- It wakes. -/
  | awake (c : κ) (h : w.phase u = .asleep c) : Changed u (.awake c false)
  /-- Its wait times out. -/
  | timedOut (c : κ) (h : w.phase u = .asleep c) (htimed : M.timed c = true) :
      Changed u (.awake c true)
  /-- It has sent its signal. -/
  | sent (h : w.phase u = .signalling) : Changed u .idle

theorem Moved.changed {w' : World σ κ ρ τ} (h : Moved M may w w') (u : τ) :
    Changed M may w u (w'.phase u) := by
  have hput : ∀ {t : τ} {p : Phase κ}, Changed M may w t p →
      Changed M may w u (Function.update w.phase t p u) := by
    intro t p hp
    by_cases hut : u = t
    · rw [hut, Function.update_self]
      exact hp
    · rw [Function.update_of_ne hut]
      exact .same
  cases h with
  | through t c h hready => exact hput (.done c (.inl h))
  | sleep t c h hready => exact hput (.asleep c h hready)
  | giveUp t c h => exact hput (.done c (.inr h))
  | wake t c h => exact hput (.awake c h)
  | timeout t c h htimed => exact hput (.timedOut c h htimed)
  | unheard t h hnobody => exact hput (.sent h)
  | signal t v c h hv =>
    by_cases hut : u = t
    · rw [hut, World.put_self]
      exact .sent h
    · rw [World.put_of_ne hut]
      exact hput (.awake c hv)
  | stay => exact .same

/-- Only a call with a timeout gives up. -/
theorem timed_of_error {s₀ : σ} (hw : Reaches M may s₀ w) {t : τ} {c : κ}
    (h : w.phase t = .awake c true) : M.timed c = true := by
  refine hw.induct (fun w => ∀ t c, w.phase t = .awake c true → M.timed c = true) ?_ ?_ t c h
  · intro t c h
    exact absurd h (by simp [World.init])
  · intro w w' _ ih hmoved u d hu
    have hchanged := hmoved.changed u
    rw [hu] at hchanged
    generalize hp : Phase.awake d true = p at hchanged
    cases hchanged with
    | same => exact ih u d hp.symm
    | done c h => split_ifs at hp
    | timedOut c h htimed => exact (Phase.awake.inj hp).1 ▸ htimed
    | _ => cases hp

/-- A thread is in a call that has had to wait. -/
def World.Waiting (w : World σ κ ρ τ) (t : τ) (c : κ) : Prop :=
  w.phase t = .asleep c ∨ ∃ e, w.phase t = .awake c e

/-- A call that waits waited before, or has just begun to. -/
theorem Moved.waiting {w' : World σ κ ρ τ} (hmoved : Moved M may w w') {u : τ} {d : κ}
    (hu : w'.Waiting u d) : w.Waiting u d ∨ (may w u d ∧ M.ready w.shared d = false) := by
  have hchanged := hmoved.changed u
  unfold World.Waiting at hu
  generalize w'.phase u = p at hu hchanged
  cases hchanged with
  | same => exact .inl hu
  | done c h => split_ifs at hu <;> simp at hu
  | asleep c h hready =>
    obtain rfl : c = d := by simpa using hu
    rcases h with ⟨-, h⟩ | h
    · exact .inr ⟨h, hready⟩
    · exact .inl (.inr ⟨_, h⟩)
  | awake c h =>
    obtain rfl : c = d := by simpa using hu
    exact .inl (.inl h)
  | timedOut c h htimed =>
    obtain rfl : c = d := by simpa using hu
    exact .inl (.inl h)
  | sent h => simp at hu

omit [DecidableEq τ] in
theorem not_waiting_init {s : σ} {t : τ} {c : κ} :
    ¬ (World.init s : World σ κ ρ τ).Waiting t c := by
  simp [World.Waiting, World.init]

/-- What holds of every call when it begins to wait holds of every call that waits. -/
theorem Reaches.waiting {P : τ → κ → Prop} {s₀ : σ}
    (hsleep : ∀ {w t c}, Reaches M may s₀ w → may w t c → M.ready w.shared c = false → P t c)
    (hw : Reaches M may s₀ w) {t : τ} {c : κ} (h : w.Waiting t c) : P t c := by
  refine hw.induct (fun w => ∀ t c, w.Waiting t c → P t c)
    (fun t c h => absurd h not_waiting_init) ?_ t c h
  intro w w' hw ih hmoved u d hu
  rcases hmoved.waiting hu with hu | ⟨hmay, hready⟩
  · exact ih u d hu
  · exact hsleep hw hmay hready

/-- What holds of every call when it is made holds of every call that has done what it does. -/
theorem Reaches.called {P : τ → κ → Prop} (hcall : ∀ {w t c}, may w t c → P t c) {s₀ : σ}
    (hw : Reaches M may s₀ w) {t : τ} {c : κ} {r : ρ} (h : (t, c, r) ∈ w.history) : P t c := by
  refine hw.induct (fun w => ∀ t c r, (t, c, r) ∈ w.history → P t c) ?_ ?_ t c r h
  · intro t c r h
    cases h
  · intro w w' hw ih hmoved u d r hu
    have hwaiting : ∀ {t c}, w.Waiting t c → P t c := hw.waiting fun _ hmay _ => hcall hmay
    have hfinish : ∀ {t c s r'}, P t c → (u, d, r) ∈ (M.finish w t c s r').history → P u d := by
      intro t c s r' hp hu
      rcases List.mem_append.mp hu with hu | hu
      · exact ih u d r hu
      · obtain ⟨rfl, rfl, rfl⟩ := by simpa using hu
        exact hp
    cases hmoved with
    | through t c h hready =>
      rcases h with ⟨-, h⟩ | h
      · exact hfinish (hcall h) hu
      · exact hfinish (hwaiting (.inr ⟨_, h⟩)) hu
    | giveUp t c h => exact hfinish (hwaiting (.inr ⟨_, h⟩)) hu
    | sleep t c h hready => exact ih u d r hu
    | wake t c h => exact ih u d r hu
    | timeout t c h htimed => exact ih u d r hu
    | unheard t h hnobody => exact ih u d r hu
    | signal t v c h hv => exact ih u d r hu
    | stay => exact ih u d r hu

/-- **Every run is a sequential history**: what the calls have returned and left is what they return
and leave one after the other. -/
theorem Reaches.legal {s₀ : σ} (hw : Reaches M may s₀ w) : Legal M s₀ w.history w.shared := by
  refine hw.induct (fun w => Legal M s₀ w.history w.shared) .nil ?_
  intro w w' hw ih hmoved
  cases hmoved with
  | through t c h hready => exact ih.through t c hready
  | giveUp t c h => exact ih.giveUp t c (timed_of_error hw h)
  | sleep t c h hready => exact ih
  | wake t c h => exact ih
  | timeout t c h htimed => exact ih
  | unheard t h hnobody => exact ih
  | signal t u c h hu => exact ih
  | stay => exact ih

/-! ### One waiting thread -/

/-- A call that makes another one ready signals. -/
def Announces (M : Monitor σ κ ρ) : Prop :=
  ∀ {s : σ} {c d : κ}, M.ready s c = false → M.ready s d = true →
    M.ready (M.body s d).1 c = true → M.signals d = true

section Single

variable {t₀ : τ} {s₀ : σ}

/-- Only `t₀` waits. -/
theorem eq_of_waiting (honly : ∀ {w t c}, may w t c → t ≠ t₀ → ∀ s, M.ready s c = true)
    (hw : Reaches M may s₀ w) {t : τ} {c : κ} (h : w.Waiting t c) : t = t₀ := by
  refine hw.waiting (P := fun t _ => t = t₀) (fun {w t c} _ hmay hready => ?_) h
  by_contra hne
  rw [honly hmay hne] at hready
  exact absurd hready (by decide)

/-- **One waiting thread is never forgotten.** If only the thread `t₀` makes calls that can wait,
then it sleeps next to a state in which it is ready only as long as a signal is under way. -/
theorem single_sleeper (hannounces : Announces M)
    (honly : ∀ {w t c}, may w t c → t ≠ t₀ → ∀ s, M.ready s c = true)
    (hw : Reaches M may s₀ w) {t : τ} {c : κ} (hasleep : w.phase t = .asleep c)
    (hready : M.ready w.shared c = true) : ∃ u, w.phase u = .signalling := by
  refine hw.induct (fun w => ∀ t c, w.phase t = .asleep c → M.ready w.shared c = true →
    ∃ u, w.phase u = .signalling) ?_ ?_ t c hasleep hready
  · intro t c h
    simp [World.init] at h
  · intro w w' hw ih hmoved u d hu hready
    -- where the waiting thread slept before, the signal is still under way
    have hother : ∀ {t : τ}, w.phase t ≠ .signalling → (∀ v ≠ t, w'.phase v = w.phase v) →
        w.phase u = .asleep d → M.ready w.shared d = true → ∃ v, w'.phase v = .signalling := by
      intro t ht hsame hu hready
      obtain ⟨v, hv⟩ := ih u d hu hready
      exact ⟨v, (hsame v fun h => ht (h ▸ hv)).trans hv⟩
    cases hmoved with
    | through t c h hthrough =>
      obtain ⟨hut, hu⟩ := asleep_of_finish hu
      cases hbefore : M.ready w.shared d with
      | false =>
        refine ⟨t, ?_⟩
        rw [finish_self, if_pos (hannounces hbefore hthrough hready)]
      | true =>
        refine hother (t := t) ?_ (fun v hv => finish_of_ne hv) hu hbefore
        rcases h with ⟨h, -⟩ | h <;> simp [h]
    | sleep t c h hwait =>
      by_cases hut : u = t
      · rw [hut, World.put_self, Phase.asleep.injEq] at hu
        rw [World.put_shared, ← hu, hwait] at hready
        exact absurd hready (by decide)
      · rw [World.put_of_ne hut] at hu
        refine hother (t := t) ?_ (fun v hv => World.put_of_ne hv) hu hready
        rcases h with ⟨h, -⟩ | h <;> simp [h]
    | giveUp t c h =>
      obtain ⟨hut, hu⟩ := asleep_of_finish hu
      exact hother (t := t) (by simp [h]) (fun v hv => finish_of_ne hv) hu hready
    | wake t c h =>
      obtain ⟨hut, hu⟩ := asleep_of_put hu (by simp)
      exact hother (t := t) (by simp [h]) (fun v hv => World.put_of_ne hv) hu hready
    | timeout t c h htimed =>
      obtain ⟨hut, hu⟩ := asleep_of_put hu (by simp)
      exact hother (t := t) (by simp [h]) (fun v hv => World.put_of_ne hv) hu hready
    | unheard t h hnobody =>
      obtain ⟨hut, hu⟩ := asleep_of_put hu (by simp)
      exact absurd hu (hnobody.ne_asleep u d)
    | signal t v c h hv =>
      -- the signal has found the only thread that waits
      obtain ⟨hut, hu⟩ := asleep_of_put hu (by simp)
      obtain ⟨huv, hu⟩ := asleep_of_put hu (by simp)
      exact absurd ((eq_of_waiting honly hw (.inl hu)).trans
        (eq_of_waiting honly hw (.inl hv)).symm) huv
    | stay => exact ih u d hu hready

end Single

/-! ### Tokens -/

/-- Nothing moves: every thread is outside or sleeps. -/
def World.Quiet (w : World σ κ ρ τ) : Prop := ∀ t, w.phase t = .idle ∨ (w.phase t).isAsleep = true

omit [DecidableEq τ] in
theorem World.Quiet.ne_signalling (h : w.Quiet) (t : τ) : w.phase t ≠ .signalling := by
  intro hp
  have ht := h t
  rw [hp] at ht
  simp [Phase.isAsleep] at ht

omit [DecidableEq τ] in
theorem World.Quiet.ne_awake (h : w.Quiet) (t : τ) (c : κ) (e : Bool) : w.phase t ≠ .awake c e := by
  intro hp
  have ht := h t
  rw [hp] at ht
  simp [Phase.isAsleep] at ht

/-- The calls that wait are ready when the state has a token, and take one; other calls bring at
most as many as they send signals. -/
structure Counted (M : Monitor σ κ ρ) (waits : κ → Prop) (tokens : σ → ℕ) : Prop where
  ready_iff : ∀ {s c}, waits c → (M.ready s c = true ↔ 0 < tokens s)
  take : ∀ {s c}, waits c → M.ready s c = true →
    tokens (M.body s c).1 + 1 ≤ tokens s + if M.signals c then 1 else 0
  bring : ∀ {s c}, ¬ waits c → M.ready s c = true →
    tokens (M.body s c).1 ≤ tokens s + if M.signals c then 1 else 0

section Tokens

variable {waits : κ → Prop} {s₀ : σ}

/-- Only calls that wait do. -/
theorem waits_of_waiting
    (hmay : ∀ {w t c}, Reaches M may s₀ w → may w t c → waits c ∨ M.ready w.shared c = true)
    (hw : Reaches M may s₀ w) {t : τ} {c : κ} (h : w.Waiting t c) : waits c :=
  hw.waiting (P := fun _ c => waits c)
    (fun hw hcall hready => (hmay hw hcall).resolve_right (by simp [hready])) h

variable [Fintype τ]

/-- A sum over the threads. -/
def World.weight (f : Phase κ → ℕ) (w : World σ κ ρ τ) : ℕ := ∑ t, f (w.phase t)

theorem sum_update (f : Phase κ → ℕ) (phase : τ → Phase κ) (t : τ) (p : Phase κ) :
    (∑ u, f (Function.update phase t p u)) + f (phase t) = (∑ u, f (phase u)) + f p := by
  have hrest : ∑ u ∈ Finset.univ.erase t, f (Function.update phase t p u)
      = ∑ u ∈ Finset.univ.erase t, f (phase u) :=
    Finset.sum_congr rfl fun u hu => by rw [Function.update_of_ne (Finset.ne_of_mem_erase hu)]
  rw [← Finset.add_sum_erase _ _ (Finset.mem_univ t), hrest, Function.update_self,
    ← Finset.add_sum_erase _ (fun u => f (phase u)) (Finset.mem_univ t)]
  omega

theorem World.weight_put (f : Phase κ → ℕ) (w : World σ κ ρ τ) (t : τ) (p : Phase κ) :
    (w.put t p).weight f + f (w.phase t) = w.weight f + f p :=
  sum_update f w.phase t p

theorem weight_finish (f : Phase κ → ℕ) (w : World σ κ ρ τ) (t : τ) (c : κ) (s : σ) (r : ρ) :
    (M.finish w t c s r).weight f + f (w.phase t) =
      w.weight f + f (if M.signals c then .signalling else .idle) :=
  sum_update f w.phase t _

/-- A thread that is going to look at the state again, or to signal. -/
def moving : Phase κ → ℕ
  | .idle => 0
  | .asleep _ => 0
  | .awake _ error => if error then 0 else 1
  | .signalling => 1

theorem moving_done (c : κ) :
    moving (if M.signals c then Phase.signalling else (Phase.idle : Phase κ)) =
      if M.signals c then 1 else 0 := by
  split_ifs <;> rfl

/-- **Every token is matched.** While a thread sleeps, there are no more tokens than threads that
are moving. -/
theorem tokens_le_moving {tokens : σ → ℕ} (hcounted : Counted M waits tokens)
    (hmay : ∀ {w t c}, Reaches M may s₀ w → may w t c → waits c ∨ M.ready w.shared c = true)
    (hw : Reaches M may s₀ w) {t : τ} {c : κ} (hasleep : w.phase t = .asleep c) :
    tokens w.shared ≤ w.weight moving := by
  refine hw.induct (fun w => ∀ t c, w.phase t = .asleep c → tokens w.shared ≤ w.weight moving)
    ?_ ?_ t c hasleep
  · intro t c h
    simp [World.init] at h
  · intro w w' hw ih hmoved u d hu
    cases hmoved with
    | through t c h hready =>
      obtain ⟨hut, hu⟩ := asleep_of_finish hu
      have hbefore := ih u d hu
      have hweight := weight_finish (M := M) moving w t c (M.body w.shared c).1
        (M.body w.shared c).2
      rw [moving_done] at hweight
      rw [finish_shared]
      rcases h with ⟨hidle, hcall⟩ | hawake
      · -- a new call
        have hmoving : moving (w.phase t) = 0 := congrArg moving hidle
        by_cases hwaits : waits c
        · have htake := hcounted.take hwaits hready
          omega
        · have hbring := hcounted.bring hwaits hready
          omega
      · -- a call that has been woken takes the token it was woken for
        have hmoving : moving (w.phase t) = 1 := congrArg moving hawake
        have htake := hcounted.take (waits_of_waiting hmay hw (.inr ⟨_, hawake⟩)) hready
        omega
    | sleep t c h hwait =>
      have hwaits : waits c := by
        rcases h with ⟨-, h⟩ | h
        · exact (hmay hw h).resolve_right (by simp [hwait])
        · exact waits_of_waiting hmay hw (.inr ⟨_, h⟩)
      have hnone : ¬ 0 < tokens w.shared := by
        rw [← hcounted.ready_iff hwaits, hwait]
        decide
      rw [World.put_shared]
      omega
    | giveUp t c h =>
      obtain ⟨hut, hu⟩ := asleep_of_finish hu
      have hbefore := ih u d hu
      have hweight := weight_finish (M := M) moving w t c w.shared (M.giveUp w.shared c)
      have hmoving : moving (w.phase t) = 0 := congrArg moving h
      rw [finish_shared]
      omega
    | wake t c h =>
      have hbefore := ih t c h
      have hweight := w.weight_put moving t (.awake c false)
      have hmoving : moving (w.phase t) = 0 := congrArg moving h
      rw [World.put_shared]
      omega
    | timeout t c h htimed =>
      have hbefore := ih t c h
      have hweight := w.weight_put moving t (.awake c true)
      have hmoving : moving (w.phase t) = 0 := congrArg moving h
      rw [World.put_shared]
      omega
    | unheard t h hnobody =>
      obtain ⟨hut, hu⟩ := asleep_of_put hu (by simp)
      exact absurd hu (hnobody.ne_asleep u d)
    | signal t v c h hv =>
      have hbefore := ih v c hv
      have htv : t ≠ v := by
        rintro rfl
        simp [h] at hv
      have hwoken := w.weight_put moving v (.awake c false)
      have hsent := (w.put v (.awake c false)).weight_put moving t .idle
      rw [World.put_of_ne htv] at hsent
      rw [h] at hsent
      rw [hv] at hwoken
      simp only [moving, Bool.false_eq_true, if_false] at hwoken hsent
      rw [World.put_shared, World.put_shared]
      omega
    | stay => exact ih u d hu

omit [DecidableEq τ] in
theorem World.Quiet.moving (h : w.Quiet) : w.weight moving = 0 := by
  refine Finset.sum_eq_zero fun t _ => ?_
  cases hp : w.phase t with
  | idle => rfl
  | asleep c => rfl
  | awake c e => exact absurd hp (h.ne_awake t c e)
  | signalling => exact absurd hp (h.ne_signalling t)

/-- **No sleeper is forgotten**: when nothing moves any more, a thread that sleeps has nothing to
wake up for. -/
theorem no_ready_sleeper {tokens : σ → ℕ} (hcounted : Counted M waits tokens)
    (hmay : ∀ {w t c}, Reaches M may s₀ w → may w t c → waits c ∨ M.ready w.shared c = true)
    (hw : Reaches M may s₀ w) (hquiet : w.Quiet) {t : τ} {c : κ}
    (hasleep : w.phase t = .asleep c) : M.ready w.shared c = false := by
  have hle := tokens_le_moving hcounted hmay hw hasleep
  rw [hquiet.moving] at hle
  have hwaits := waits_of_waiting hmay hw (.inl hasleep)
  rw [Bool.eq_false_iff, Ne, hcounted.ready_iff hwaits]
  omega

/-! ### Coming to rest -/

/-- A thread that is on its way goes on. -/
def Finishing (w : World σ κ ρ τ) : Move κ τ → Prop
  | .resume t => ∃ c e, w.phase t = .awake c e
  | .signal t none => w.phase t = .signalling ∧ w.Nobody
  | .signal t (some u) => w.phase t = .signalling ∧ ∃ c, w.phase u = .asleep c
  | _ => False

/-- The threads that are on their way have stopped. -/
def World.AtRest (w : World σ κ ρ τ) : Prop := ∀ m, ¬ Finishing w m

omit [DecidableEq τ] [Fintype τ] in
theorem World.Quiet.atRest (h : w.Quiet) : w.AtRest := by
  intro m hm
  cases m with
  | resume t =>
    obtain ⟨c, e, he⟩ := hm
    exact h.ne_awake t c e he
  | signal t woken => cases woken <;> exact h.ne_signalling t hm.1
  | _ => exact hm

/-- How many moves a thread can still make. -/
def rank : Phase κ → ℕ
  | .idle => 0
  | .asleep _ => 4
  | .awake _ _ => 5
  | .signalling => 2

theorem rank_le (p : Phase κ) : rank p ≤ 5 := by
  cases p <;> simp [rank]

theorem rank_done (c : κ) :
    rank (if M.signals c then Phase.signalling else (Phase.idle : Phase κ)) ≤ 2 := by
  split_ifs <;> simp [rank]

omit [DecidableEq τ] [Fintype τ] in
/-- Where something moves, something can go on. -/
theorem World.AtRest.quiet (h : w.AtRest) : w.Quiet := by
  intro t
  cases hp : w.phase t with
  | idle => exact .inl rfl
  | asleep c => exact .inr rfl
  | awake c e => exact absurd ⟨c, e, hp⟩ (h (.resume t))
  | signalling =>
    by_cases hnobody : w.Nobody
    · exact absurd ⟨hp, hnobody⟩ (h (.signal t none))
    · obtain ⟨u, hu⟩ := not_forall.mp hnobody
      cases hpu : w.phase u with
      | asleep c => exact absurd ⟨hp, c, hpu⟩ (h (.signal t (some u)))
      | _ => simp [hpu, Phase.isAsleep] at hu

theorem rank_attempt_lt {t : τ} {c : κ} {e : Bool} (h : w.phase t = .awake c e) :
    (M.attempt w t c).weight rank < w.weight rank := by
  unfold attempt
  split_ifs with hready
  · have hweight := weight_finish (M := M) rank w t c (M.body w.shared c).1 (M.body w.shared c).2
    have hdone := rank_done (M := M) c
    rw [h, rank] at hweight
    omega
  · have hweight := w.weight_put rank t (.asleep c)
    rw [h, rank, rank] at hweight
    omega

theorem Finishing.rank_lt {m : Move κ τ} (h : Finishing w m) :
    (M.step w m).weight rank < w.weight rank := by
  cases m with
  | call t c => exact h.elim
  | wake t => exact h.elim
  | timeout t => exact h.elim
  | resume t =>
    obtain ⟨c, e, he⟩ := h
    cases e with
    | false =>
      simp only [step, he]
      exact rank_attempt_lt he
    | true =>
      simp only [step, he]
      have hweight := weight_finish (M := M) rank w t c w.shared (M.giveUp w.shared c)
      have hdone := rank_done (M := M) c
      rw [he, rank] at hweight
      omega
  | signal t woken =>
    cases woken with
    | none =>
      have hweight := w.weight_put rank t .idle
      rw [h.1, rank, rank] at hweight
      simp only [step, h.1]
      omega
    | some u =>
      obtain ⟨ht, c, hu⟩ := h
      have htu : t ≠ u := by
        rintro rfl
        simp [ht] at hu
      have hwoken := w.weight_put rank u (.awake c false)
      have hsent := (w.put u (.awake c false)).weight_put rank t .idle
      rw [World.put_of_ne htu, ht, rank, rank] at hsent
      rw [hu, rank, rank] at hwoken
      simp only [step, ht, hu]
      omega

theorem length_le_rank {ms : List (Move κ τ)} (hms : Runs.Admissible M.step Finishing w ms) :
    ms.length ≤ w.weight rank := by
  induction ms generalizing w with
  | nil => exact Nat.zero_le _
  | cons m ms ih =>
    obtain ⟨hm, hms⟩ := hms
    have hlength := ih hms
    have hlt := hm.rank_lt (M := M)
    rw [List.length_cons]
    omega

/-- **Coming to rest.** The threads that are on their way stop after at most five moves for each
thread. -/
theorem length_le_of_finishing {ms : List (Move κ τ)}
    (hms : Runs.Admissible M.step Finishing w ms) : ms.length ≤ 5 * Fintype.card τ := by
  have hle : w.weight rank ≤ ∑ _t : τ, 5 := Finset.sum_le_sum fun t _ => rank_le (w.phase t)
  rw [Finset.sum_const, Finset.card_univ, smul_eq_mul, Nat.mul_comm] at hle
  exact (length_le_rank hms).trans hle

end Tokens

end Monitor

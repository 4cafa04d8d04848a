import IolHat.Lib.Monitor
import IolHat.Osal.Mailbox
import Mathlib.Data.BitVec

/-!
# Event flags

The event flags of the operating system layer (`os_event_t` in `osal.c`) are a word behind a mutex:
`os_event_wait` waits for a flag of its mask, `os_event_set` and `os_event_clr` set and clear flags
and signal the condition variable once the mutex is free again. One signal wakes one thread, whether
or not its mask fits, so the flags serve one waiting thread.

The threads of the program that wait for events (`dl_main`, `iolink_handler`) run one loop: they
wait, clear what they were told of, and handle it. `Loops` is this discipline, and
`loop_handles_every_event` what it is worth: whatever the threads do and in whatever order, once
they have come to rest every flag that was set has been cleared, and handled, after it was set.
-/

namespace IolHat

namespace OsEvent

/-! ### Flags -/

/-- A flag is set. -/
def Has (flags : UInt32) (bit : ℕ) : Prop := flags.toBitVec.getLsbD bit = true

section Flags

variable {a b : UInt32} {bit : ℕ}

@[simp]
theorem has_or : Has (a ||| b) bit ↔ Has a bit ∨ Has b bit := by
  simp [Has]

@[simp]
theorem has_and : Has (a &&& b) bit ↔ Has a bit ∧ Has b bit := by
  simp [Has]

@[simp]
theorem has_andNot : Has (a &&& ~~~b) bit ↔ Has a bit ∧ ¬ Has b bit := by
  simp only [Has, UInt32.toBitVec_and, UInt32.toBitVec_not, BitVec.getLsbD_and,
    BitVec.getLsbD_not]
  by_cases h : bit < 32
  · simp [h]
  · have hbit : a.toBitVec.getLsbD bit = false := BitVec.getLsbD_of_ge _ _ (by omega)
    simp [hbit]

theorem not_has_zero : ¬ Has 0 bit := by
  simp [Has]

end Flags

/-! ### The calls -/

/-- A call on an `os_event_t`. -/
inductive Call
  /-- `os_event_wait`. -/
  | wait (mask time : UInt32)
  /-- `os_event_set`. -/
  | set (value : UInt32)
  /-- `os_event_clr`. -/
  | clr (value : UInt32)
  deriving DecidableEq

/-- What `os_event_wait` returns, and its `*value`. -/
structure Return where
  error : Bool := false
  value : UInt32 := 0
  deriving DecidableEq

/-- `os_event_t` and its calls. -/
def monitor : Monitor UInt32 Call Return where
  ready flags
    | .wait mask _ => flags &&& mask ≠ 0
    | _ => true
  body flags
    | .wait mask _ => (flags, { value := flags &&& mask })
    | .set value => (flags ||| value, {})
    | .clr value => (flags &&& ~~~value, {})
  giveUp flags
    | .wait mask _ => { error := true, value := flags &&& mask }
    | _ => {}
  timed
    | .wait _ time => time ≠ osWaitForever
    | _ => false
  signals
    | .wait _ _ => false
    | _ => true

/-- Only `os_event_wait` leaves the flags as they are without a signal. -/
theorem announces : monitor.Announces := by
  intro s c d hwait hready hafter
  cases d with
  | wait mask time =>
    rw [show (monitor.body s (.wait mask time)).1 = s from rfl, hwait] at hafter
    exact absurd hafter (by decide)
  | set value => rfl
  | clr value => rfl

variable {τ : Type}

/-- What the calls have returned so far. -/
abbrev History (τ : Type) := List (τ × Call × Return)

section Histories

variable {s₀ s : UInt32} {l : History τ}

/-- **What a wait returns**: flags of its mask, some flag unless it has timed out, and a wait
without a timeout does not. -/
theorem wait_returns (h : monitor.Legal s₀ l s) {t : τ} {mask time : UInt32} {r : Return}
    (hr : (t, .wait mask time, r) ∈ l) :
    (∀ bit, Has r.value bit → Has mask bit) ∧ (r.error = false → r.value ≠ 0) ∧
      (r.error = true → time ≠ osWaitForever) := by
  induction h with
  | nil => cases hr
  | @through l s h u c hready ih =>
    rcases List.mem_append.mp hr with hr | hr
    · exact ih hr
    · obtain ⟨-, rfl, rfl⟩ := by simpa using hr
      refine ⟨fun bit hbit => (has_and.mp hbit).2, fun _ => by simpa [monitor] using hready, ?_⟩
      intro herror
      cases herror
  | @giveUp l s h u c htimed ih =>
    rcases List.mem_append.mp hr with hr | hr
    · exact ih hr
    · obtain ⟨-, rfl, rfl⟩ := by simpa using hr
      refine ⟨fun bit hbit => (has_and.mp hbit).2, fun herror => ?_, fun _ => ?_⟩
      · cases herror
      · simpa [monitor] using htimed

/-- A flag stays set until a call clears it. -/
theorem has_or_cleared (h : monitor.Legal s₀ l s) {l₁ l₂ : History τ} {u : τ} {value : UInt32}
    {r : Return} (hl : l = l₁ ++ (u, .set value, r) :: l₂) {bit : ℕ} (hbit : Has value bit) :
    Has s bit ∨ ∃ t cleared r', (t, .clr cleared, r') ∈ l₂ ∧ Has cleared bit := by
  induction h generalizing l₂ with
  | nil => simp at hl
  | @through l s h t c hready ih =>
    rcases List.eq_nil_or_concat l₂ with rfl | ⟨l₃, e, rfl⟩
    · -- the flag has just been set
      obtain ⟨-, he⟩ := List.append_inj' hl rfl
      obtain ⟨rfl, rfl, rfl⟩ := by simpa using he
      exact .inl (has_or.mpr (.inr hbit))
    · rw [List.concat_eq_append] at hl ⊢
      rw [← List.cons_append, ← List.append_assoc] at hl
      obtain ⟨hbefore, he⟩ := List.append_inj' hl rfl
      obtain rfl := List.singleton_injective he
      rcases ih hbefore with hs | ⟨t', cleared, r', hmem, hcleared⟩
      · cases c with
        | wait mask time => exact .inl hs
        | set value' => exact .inl (has_or.mpr (.inl hs))
        | clr value' =>
          by_cases hbit' : Has value' bit
          · exact .inr ⟨t, value', _, List.mem_concat_self, hbit'⟩
          · exact .inl (has_andNot.mpr ⟨hs, hbit'⟩)
      · exact .inr ⟨t', cleared, r', List.mem_append_left _ hmem, hcleared⟩
  | @giveUp l s h t c htimed ih =>
    rcases List.eq_nil_or_concat l₂ with rfl | ⟨l₃, e, rfl⟩
    · obtain ⟨-, he⟩ := List.append_inj' hl rfl
      obtain ⟨rfl, rfl, rfl⟩ := by simpa using he
      cases htimed
    · rw [List.concat_eq_append] at hl ⊢
      rw [← List.cons_append, ← List.append_assoc] at hl
      obtain ⟨hbefore, -⟩ := List.append_inj' hl rfl
      rcases ih hbefore with hs | ⟨t', cleared, r', hmem, hcleared⟩
      · exact .inl hs
      · exact .inr ⟨t', cleared, r', List.mem_append_left _ hmem, hcleared⟩

end Histories

/-! ### The loop -/

section Loop

variable [DecidableEq τ] (t₀ : τ) (mask : UInt32)

/-- What one call of the loop leaves it to clear. -/
def tell (told : Option UInt32) (entry : τ × Call × Return) : Option UInt32 :=
  if entry.1 = t₀ then
    match entry.2.1 with
    | .wait _ _ => if entry.2.2.error then none else some entry.2.2.value
    | .clr _ => none
    | .set _ => told
  else told

/-- The flags that the loop has been told of and has not cleared yet. -/
def told (l : History τ) : Option UInt32 := l.foldl (tell t₀) none

/-- Who calls what: only the loop waits and clears, and it always waits for the same flags. -/
def Role (t : τ) : Call → Prop
  | .wait mask' _ => t = t₀ ∧ mask' = mask
  | .set _ => True
  | .clr _ => t = t₀

/-- **The discipline of the loop.** It waits unless it has been told of flags, and then clears
these; whoever likes sets flags. -/
def Loops (w : Monitor.World UInt32 Call Return τ) (t : τ) (c : Call) : Prop :=
  Role t₀ mask t c ∧
    match c with
    | .wait _ _ => told t₀ w.history = none
    | .set _ => True
    | .clr value => told t₀ w.history = some value

instance (w : Monitor.World UInt32 Call Return τ) (t : τ) :
    ∀ c, Decidable (Loops t₀ mask w t c)
  | .wait _ _ => inferInstanceAs (Decidable ((t = t₀ ∧ _ = mask) ∧ _ = none))
  | .set _ => isTrue ⟨trivial, trivial⟩
  | .clr _ => inferInstanceAs (Decidable (t = t₀ ∧ _ = some _))

variable {t₀ mask} {w : Monitor.World UInt32 Call Return τ}

theorem sleeps_in_wait {t : τ} {c : Call} (hmay : Loops t₀ mask w t c)
    (hready : monitor.ready w.shared c = false) : ∃ time, c = .wait mask time := by
  cases c with
  | wait mask' time =>
    obtain ⟨-, rfl⟩ := hmay.1
    exact ⟨time, rfl⟩
  | set value => exact absurd hready (by simp [monitor])
  | clr value => exact absurd hready (by simp [monitor])

theorem only_loop_waits {t : τ} {c : Call} (hmay : Loops t₀ mask w t c) (ht : t ≠ t₀)
    (flags : UInt32) : monitor.ready flags c = true := by
  cases c with
  | wait mask' time => exact absurd hmay.1.1 ht
  | set value => rfl
  | clr value => rfl

variable [Fintype τ]

/-- **No event is lost**, in any run of the loop and of the threads that set flags. What the loop is
told of are flags of its mask. The threads that are on their way come to rest after at most five
moves each. When they have, and the loop sleeps in its wait, then every flag of its mask that was
ever set has been cleared by the loop after it was set; and the loop handles what it has cleared
before it waits again. -/
theorem loop_handles_every_event (hw : monitor.Reaches (Loops t₀ mask) 0 w) :
    (∀ t mask' time r, (t, .wait mask' time, r) ∈ w.history →
      t = t₀ ∧ mask' = mask ∧ (∀ bit, Has r.value bit → Has mask bit) ∧
        (r.error = false → r.value ≠ 0) ∧ (r.error = true → time ≠ osWaitForever)) ∧
    (∀ ms, Runs.Admissible monitor.step Monitor.Finishing w ms → ms.length ≤ 5 * Fintype.card τ) ∧
    (w.AtRest → ∀ c, w.phase t₀ = .asleep c → ∀ l₁ u value r l₂ bit,
      w.history = l₁ ++ (u, .set value, r) :: l₂ → Has value bit → Has mask bit →
        ∃ cleared r', (t₀, .clr cleared, r') ∈ l₂ ∧ Has cleared bit) := by
  refine ⟨?_, fun ms hms => Monitor.length_le_of_finishing hms, ?_⟩
  · intro t mask' time r hr
    obtain ⟨rfl, rfl⟩ : t = t₀ ∧ mask' = mask :=
      hw.called (P := Role t₀ mask) (fun hmay => hmay.1) hr
    exact ⟨rfl, rfl, wait_returns hw.legal hr⟩
  · intro hrest c hasleep l₁ u value r l₂ bit hhistory hbit hmask
    -- the loop sleeps in its wait, and nothing is left of its mask
    have hnone : ¬ Has w.shared bit := by
      intro hshared
      obtain ⟨time, rfl⟩ := hw.waiting (P := fun _ c => ∃ time, c = .wait mask time)
        (fun _ => sleeps_in_wait) (.inl hasleep)
      have hready : monitor.ready w.shared (.wait mask time) = true := by
        refine decide_eq_true fun hzero => @not_has_zero bit ?_
        rw [← hzero]
        exact has_and.mpr ⟨hshared, hmask⟩
      obtain ⟨v, hv⟩ := Monitor.single_sleeper announces only_loop_waits hw hasleep hready
      exact hrest.quiet.ne_signalling v hv
    rcases has_or_cleared hw.legal hhistory hbit with hshared | ⟨t, cleared, r', hmem, hcleared⟩
    · exact absurd hshared hnone
    · have hentry : (t, .clr cleared, r') ∈ w.history := by
        rw [hhistory]
        exact List.mem_append_right _ (List.mem_cons_of_mem _ hmem)
      obtain rfl : t = t₀ := hw.called (P := Role t₀ mask) (fun hmay => hmay.1) hentry
      exact ⟨cleared, r', hmem, hcleared⟩

/-- The loop sleeps, is woken for flag 2, and sleeps again. -/
theorem loop_handles_every_event_flag2 :
    let moves : List (Monitor.Move Call Bool) :=
      [.call true (.wait 0xFF osWaitForever), .call false (.set 4), .signal false (some true),
        .resume true, .call true (.clr 4), .signal true none, .call true (.wait 0xFF osWaitForever)]
    let w := Runs.run monitor.step (.init 0) moves
    w.AtRest ∧ ∃ cleared r', (true, .clr cleared, r') ∈ w.history ∧ Has cleared 2 := by
  intro moves w
  have hreach : monitor.Reaches (Loops true 0xFF) 0 w := Runs.reaches_run (by decide)
  have hquiet : w.Quiet := by
    unfold Monitor.World.Quiet
    decide
  refine ⟨hquiet.atRest, ?_⟩
  obtain ⟨cleared, r', hmem, hcleared⟩ := (loop_handles_every_event hreach).2.2 hquiet.atRest
    (.wait 0xFF osWaitForever) (by decide) [] false 4 {} _ 2 rfl (by unfold Has; decide)
    (by unfold Has; decide)
  exact ⟨cleared, r', List.mem_cons_of_mem _ hmem, hcleared⟩

end Loop

end OsEvent

end IolHat

import IolHat.PhysicalLayer.RegStatus

/-!
# The replies to `CMD_STATUS3`

Whatever the chip, the interrupt handlers and the commands do, and in every order, a fault of the
chip is in the next reply, and in no other.

* `StatusSys.collector_refines`: the log of the driver is that of a `Collector`. The faults that a
  thread has taken are those of its place (`StatusPc.window`), the others wait in the register and
  in the driver (`StatusSys.held`).
* `StatusSys.answers`: a command that has the mutex is served by its own steps
  (`StatusSys.Serving`), and the owner of the mutex gives it back (`StatusSys.Refines.releases`).
* `StatusSys.faults_reported_once` puts them together.
-/

namespace IolHat

namespace StatusSys

variable {Thread : Type} [DecidableEq Thread]

/-- The faults that wait in the driver. -/
def held (s : StatusSys Thread) : Finset (Fin 4) :=
  match s.exclusive with
  | none => cor s.latchedRegStatus
  | some t => (s.pc t).held s.latchedRegStatus

/-- The driver keeps the collection of its log. -/
structure Refines (s : StatusSys Thread) (st : Collector.State (Fin 4) Thread) : Prop where
  run : Collector.run {} (s.log.map collected) = some st
  mutex : ∀ t, (s.pc t).critical = true ↔ s.exclusive = some t
  window : ∀ t, st.window t = (s.pc t).window s.latchedRegStatus
  found : st.found = cor s.chip ∪ s.held

variable {s s' : StatusSys Thread} {st st' : Collector.State (Fin 4) Thread} {t : Thread}
  {pc : StatusPc}

omit [DecidableEq Thread] in
theorem held_of_free (h : s.exclusive = none) : s.held = cor s.latchedRegStatus := by
  rw [held, h]

omit [DecidableEq Thread] in
theorem held_of_owner (h : s.exclusive = some t) :
    s.held = (s.pc t).held s.latchedRegStatus := by
  rw [held, h]

omit [DecidableEq Thread] in
/-- The faults that wait depend on the owner of the mutex. -/
theorem held_congr (hexclusive : s'.exclusive = s.exclusive)
    (hlatched : s'.latchedRegStatus = s.latchedRegStatus)
    (hpc : ∀ u, s.exclusive = some u → s'.pc u = s.pc u) : s'.held = s.held := by
  rcases howner : s.exclusive with _ | u
  · rw [held_of_free howner, held_of_free (hexclusive.trans howner), hlatched]
  · rw [held_of_owner howner, held_of_owner (hexclusive.trans howner), hlatched, hpc u howner]

/-- A thread that holds the mutex is the only one. -/
theorem Refines.not_critical (h : s.Refines st) (ht : s.exclusive = some t) {u : Thread}
    (hu : u ≠ t) : (s.pc u).critical = false := by
  rw [← Bool.not_eq_true]
  exact fun hcritical => hu (Option.some.inj (((h.mutex u).mp hcritical).symm.trans ht))

/-- The other threads stay where they are. -/
private theorem goto_other (hpc : s'.pc = Function.update s.pc t pc) {u : Thread} (hu : u ≠ t) :
    s'.pc u = s.pc u := by
  rw [hpc, Function.update_of_ne hu]

private theorem goto_self (hpc : s'.pc = Function.update s.pc t pc) : s'.pc t = pc := by
  rw [hpc, Function.update_self]

/-- A thread goes on while it holds the mutex. -/
theorem Refines.inside (h : s.Refines st) (ht : (s.pc t).critical = true)
    (hpc : s'.pc = Function.update s.pc t pc) (hcritical : pc.critical = true)
    (hexclusive : s'.exclusive = s.exclusive)
    (hrun : Collector.run {} (s'.log.map collected) = some st')
    (hother : ∀ u ≠ t, st'.window u = st.window u)
    (hself : st'.window t = pc.window s'.latchedRegStatus)
    (hfound : st'.found = cor s'.chip ∪ pc.held s'.latchedRegStatus) : s'.Refines st' := by
  have htaken := (h.mutex t).mp ht
  refine ⟨hrun, fun u => ?_, fun u => ?_, ?_⟩
  · rw [hexclusive, ← h.mutex u]
    rcases eq_or_ne u t with rfl | hu
    · rw [goto_self hpc, hcritical, ht]
    · rw [goto_other hpc hu]
  · rcases eq_or_ne u t with rfl | hu
    · rw [goto_self hpc, hself]
    · rw [goto_other hpc hu, hother u hu, h.window u]
      exact StatusPc.window_congr (h.not_critical htaken hu) ..
  · rw [hfound, held_of_owner (hexclusive.trans htaken), goto_self hpc]

/-- A thread goes on without the mutex, and nothing else changes but the log. -/
theorem Refines.outside (h : s.Refines st) (ht : (s.pc t).critical = false)
    (hpc : s'.pc = Function.update s.pc t pc) (hcritical : pc.critical = false)
    (hexclusive : s'.exclusive = s.exclusive) (hlatched : s'.latchedRegStatus = s.latchedRegStatus)
    (hchip : s'.chip = s.chip) (hrun : Collector.run {} (s'.log.map collected) = some st')
    (hother : ∀ u ≠ t, st'.window u = st.window u)
    (hself : st'.window t = pc.window s.latchedRegStatus) (hfound : st'.found = st.found) :
    s'.Refines st' := by
  refine ⟨hrun, fun u => ?_, fun u => ?_, ?_⟩
  · rw [hexclusive, ← h.mutex u]
    rcases eq_or_ne u t with rfl | hu
    · rw [goto_self hpc, hcritical, ht]
    · rw [goto_other hpc hu]
  · rcases eq_or_ne u t with rfl | hu
    · rw [goto_self hpc, hself, hlatched]
    · rw [goto_other hpc hu, hother u hu, h.window u, hlatched]
  · rw [hfound, h.found, hchip, held_congr hexclusive hlatched fun u howner => ?_]
    refine goto_other hpc ?_
    rintro rfl
    exact Bool.false_ne_true (ht.symm.trans ((h.mutex u).mpr howner))

/-- A thread takes the mutex. -/
theorem Refines.lock (h : s.Refines st) (ht : (s.pc t).critical = false)
    (hcritical : pc.critical = true)
    (hwindow : pc.window s.latchedRegStatus = (s.pc t).window s.latchedRegStatus)
    (hheld : pc.held s.latchedRegStatus = cor s.latchedRegStatus) : (s.lock t pc).Refines st := by
  rw [StatusSys.lock]
  split_ifs with hfree
  · have hpc : ({ s.goto t pc with exclusive := some t } : StatusSys Thread).pc =
        Function.update s.pc t pc := rfl
    refine ⟨h.run, fun u => ?_, fun u => ?_, ?_⟩
    · rcases eq_or_ne u t with rfl | hu
      · rw [goto_self hpc, hcritical]
        exact ⟨fun _ => rfl, fun _ => rfl⟩
      · have hnot : ¬ (s.pc u).critical = true := fun hu' =>
          Option.some_ne_none u (((h.mutex u).mp hu').symm.trans hfree)
        rw [goto_other hpc hu]
        exact ⟨fun hu' => absurd hu' hnot, fun hu' => absurd (Option.some.inj hu').symm hu⟩
    · rcases eq_or_ne u t with rfl | hu
      · rw [goto_self hpc, h.window u]
        exact hwindow.symm
      · rw [goto_other hpc hu]
        exact h.window u
    · rw [h.found, held_of_free hfree, held_of_owner rfl, goto_self hpc]
      exact congrArg (cor s.chip ∪ ·) hheld.symm
  · exact h

/-- A thread gives the mutex back. -/
theorem Refines.unlock (h : s.Refines st) (ht : (s.pc t).critical = true)
    (hcritical : pc.critical = false)
    (hwindow : pc.window s.latchedRegStatus = (s.pc t).window s.latchedRegStatus)
    (hheld : (s.pc t).held s.latchedRegStatus = cor s.latchedRegStatus) :
    (s.unlock t pc).Refines st := by
  have htaken := (h.mutex t).mp ht
  have hpc : (s.unlock t pc).pc = Function.update s.pc t pc := rfl
  refine ⟨h.run, fun u => ?_, fun u => ?_, ?_⟩
  · have hnot : ((s.unlock t pc).pc u).critical = false := by
      rcases eq_or_ne u t with rfl | hu
      · rw [goto_self hpc, hcritical]
      · rw [goto_other hpc hu, h.not_critical htaken hu]
    rw [hnot]
    exact ⟨fun hno => absurd hno Bool.false_ne_true,
      fun hno => absurd hno.symm (Option.some_ne_none u)⟩
  · rcases eq_or_ne u t with rfl | hu
    · rw [goto_self hpc, h.window u]
      exact hwindow.symm
    · rw [goto_other hpc hu]
      exact h.window u
  · rw [h.found, held_of_owner htaken, hheld, held_of_free rfl]
    rfl

/-- The log, with one more event. -/
theorem Refines.record (h : s.Refines st) (e : StatusEvent Thread) :
    Collector.run {} ((s.record e).log.map collected) = Collector.next st (collected e) := by
  show Collector.run {} ((s.log ++ [e]).map collected) = _
  rw [List.map_append]
  exact Collector.run_concat h.run

/-- One step of a thread. -/
theorem Refines.go (h : s.Refines st) (t : Thread) (reg : Octet) :
    ∃ st', (s.go t reg).Refines st' := by
  have hwindow := h.window t
  have hfound (ht : (s.pc t).critical = true) :
      st.found = cor s.chip ∪ (s.pc t).held s.latchedRegStatus :=
    h.found.trans (congrArg _ (held_of_owner ((h.mutex t).mp ht)))
  rw [StatusSys.go]
  cases hpc : s.pc t with
  | idle => exact ⟨st, h⟩
  | lockHandler => exact ⟨st, h.lock (by rw [hpc]; rfl) rfl (by rw [hpc]; rfl) rfl⟩
  | lockStatus => exact ⟨st, h.lock (by rw [hpc]; rfl) rfl (by rw [hpc]; rfl) rfl⟩
  | unlockHandler =>
    exact ⟨st, h.unlock (by rw [hpc]; rfl) rfl (by rw [hpc]; rfl) (by rw [hpc]; rfl)⟩
  | unlockStatus result =>
    exact ⟨st, h.unlock (by rw [hpc]; rfl) rfl (by rw [hpc]; rfl) (by rw [hpc]; rfl)⟩
  | readInterrupt =>
    have ht : (s.pc t).critical = true := by rw [hpc]; rfl
    have hfound := hfound ht
    rw [hpc] at hwindow hfound
    refine ⟨st, h.inside ht rfl ?_ rfl h.run (fun _ _ => rfl) ?_ ?_⟩
    · split_ifs <;> rfl
    · rw [hwindow]
      split_ifs <;> rfl
    · rw [hfound]
      split_ifs <;> rfl
  | readStatus =>
    have ht : (s.pc t).critical = true := by rw [hpc]; rfl
    have hfound := hfound ht
    rw [hpc] at hwindow hfound
    refine ⟨st, h.inside ht rfl rfl rfl h.run (fun _ _ => rfl) hwindow ?_⟩
    -- the faults go from the register into the handler
    show st.found = cor (s.chip &&& 0x0F) ∪ (cor s.latchedRegStatus ∪ cor s.chip)
    rw [hfound, cor_low, Finset.empty_union, Finset.union_comm]
    rfl
  | latch regStatus =>
    have ht : (s.pc t).critical = true := by rw [hpc]; rfl
    have hfound := hfound ht
    rw [hpc] at hwindow hfound
    refine ⟨st, h.inside ht rfl rfl rfl h.run (fun _ _ => rfl) hwindow ?_⟩
    show st.found = cor s.chip ∪ cor (s.latchedRegStatus ||| (regStatus &&& 0xF0))
    rw [hfound, cor_or, cor_high]
    rfl
  | readLive =>
    have ht : (s.pc t).critical = true := by rw [hpc]; rfl
    have hfound := hfound ht
    rw [hpc] at hwindow hfound
    have hnext : Collector.next st (.taken t) =
        some ⟨∅, Function.update st.window t (some st.found)⟩ := if_pos hwindow
    refine ⟨_, h.inside ht rfl rfl rfl ((h.record (.read t)).trans hnext) (fun u hu => ?_) ?_ ?_⟩
    · exact Function.update_of_ne hu _ _
    · show Function.update st.window t (some st.found) t = some (cor s.chip ∪ _)
      rw [Function.update_self, hfound]
      rfl
    · show ∅ = cor (s.chip &&& 0x0F) ∪ ∅
      rw [cor_low, Finset.empty_union]
  | result live =>
    have ht : (s.pc t).critical = true := by rw [hpc]; rfl
    have hfound := hfound ht
    rw [hpc] at hwindow hfound
    refine ⟨st, h.inside ht rfl rfl rfl h.run (fun _ _ => rfl) ?_ hfound⟩
    show st.window t = some (cor (live ||| s.latchedRegStatus))
    rw [hwindow, cor_or]
    rfl
  | clear result =>
    have ht : (s.pc t).critical = true := by rw [hpc]; rfl
    have hfound := hfound ht
    rw [hpc] at hwindow hfound
    refine ⟨st, h.inside ht rfl rfl rfl h.run (fun _ _ => rfl) hwindow ?_⟩
    show st.found = cor s.chip ∪ cor 0
    rw [hfound, cor_zero]
    rfl
  | reply result =>
    have ht : (s.pc t).critical = false := by rw [hpc]; rfl
    rw [hpc] at hwindow
    have hnext : Collector.next st (.reported t (cor result)) =
        some { st with window := Function.update st.window t none } := if_pos hwindow
    refine ⟨_, h.outside ht rfl rfl rfl rfl rfl ((h.record (.reply t result)).trans hnext)
      (fun u hu => ?_) ?_ rfl⟩
    · exact Function.update_of_ne hu _ _
    · exact Function.update_self ..

/-- A thread calls one of the two functions. -/
theorem Refines.call (h : s.Refines st) (hidle : s.pc t = .idle) (hcritical : pc.critical = false)
    (hwindow : pc.window s.latchedRegStatus = none) : (s.goto t pc).Refines st := by
  have ht : (s.pc t).critical = false := by rw [hidle]; rfl
  refine h.outside ht rfl hcritical rfl rfl rfl h.run (fun _ _ => rfl) ?_ rfl
  rw [h.window t, hidle, hwindow]
  rfl

/-- One step. -/
theorem Refines.step (h : s.Refines st) (i : StatusInput Thread) :
    ∃ st', (step s i).Refines st' := by
  cases i with
  | raise i =>
    refine ⟨{ st with found := insert i st.found }, h.record (.raised i), h.mutex, h.window, ?_⟩
    show insert i st.found = cor (s.chip ||| corMask i) ∪ s.held
    rw [h.found, cor_or, cor_mask, Finset.insert_eq, Finset.union_comm (cor s.chip) {i},
      Finset.union_assoc]
  | live v =>
    refine ⟨st, h.run, h.mutex, h.window, ?_⟩
    show st.found = cor ((s.chip &&& 0xF0) ||| (v &&& 0x0F)) ∪ s.held
    rw [h.found, cor_or, cor_high, cor_low, Finset.union_empty]
  | setIolink ch b => exact ⟨st, h.run, h.mutex, h.window, h.found⟩
  | handler t ch =>
    rw [StatusSys.step]
    split_ifs with hcall
    · exact ⟨st, h.call hcall.1 rfl rfl⟩
    · exact ⟨st, h⟩
  | status3 t =>
    rw [StatusSys.step]
    split_ifs with hcall
    · exact ⟨st, h.call hcall rfl rfl⟩
    · exact ⟨st, h⟩
  | go t reg => exact h.go t reg

/-- The driver at the start: it has been allocated with zeros. -/
theorem refines_start : ({} : StatusSys Thread).Refines {} := by
  refine ⟨rfl, fun t => ?_, fun t => rfl, ?_⟩
  · exact ⟨fun hno => absurd hno Bool.false_ne_true,
      fun hno => absurd hno.symm (Option.some_ne_none t)⟩
  · show ∅ = cor 0 ∪ cor 0
    rw [cor_zero, Finset.empty_union]

/-- **Every run** has the log of a collector. -/
theorem collector_refines (is : List (StatusInput Thread)) :
    ∃ st, (Runs.run step {} is).Refines st :=
  (Runs.reaches_run_true {} is).invariant (fun s : StatusSys Thread => ∃ st, s.Refines st)
    ⟨{}, refines_start⟩ fun _ i ⟨_, h⟩ _ => h.step i

/-! ### A command is answered -/

/-- The log of a step, with what it adds. -/
theorem step_log (s : StatusSys Thread) (i : StatusInput Thread) (t : Thread) :
    ∃ new, (s.step i).log = s.log ++ new ∧ (¬ i.Goes t → .read t ∉ new) := by
  have hsame : ∃ new, s.log = s.log ++ new ∧ (¬ i.Goes t → .read t ∉ new) :=
    ⟨[], (List.append_nil _).symm, fun _ => List.not_mem_nil⟩
  cases i with
  | raise j => exact ⟨[.raised j], rfl, fun _ h => by cases List.mem_singleton.mp h⟩
  | live v => exact hsame
  | setIolink ch b => exact hsame
  | handler u ch =>
    rw [step]
    split_ifs <;> exact hsame
  | status3 u =>
    rw [step]
    split_ifs <;> exact hsame
  | go u reg =>
    rw [step, go]
    cases hpc : s.pc u with
    | readLive =>
      refine ⟨[.read u], rfl, fun hne h => hne ?_⟩
      cases List.mem_singleton.mp h
      rfl
    | reply result => exact ⟨[.reply u result], rfl, fun _ h => by cases List.mem_singleton.mp h⟩
    | lockHandler =>
      dsimp only [lock]
      split_ifs <;> exact hsame
    | lockStatus =>
      dsimp only [lock]
      split_ifs <;> exact hsame
    | _ => exact hsame

/-- Only its own steps move a thread that is not idle. -/
theorem step_pc {i : StatusInput Thread} (hi : ¬ i.Goes t) (hbusy : s.pc t ≠ .idle) :
    (s.step i).pc t = s.pc t := by
  have hgoto {u : Thread} (hu : t ≠ u) (pc : StatusPc) : (s.goto u pc).pc t = s.pc t :=
    Function.update_of_ne hu ..
  cases i with
  | handler u ch =>
    rw [step]
    split_ifs with hcall
    · exact hgoto (fun h => hbusy (h ▸ hcall.1)) _
    · rfl
  | status3 u =>
    rw [step]
    split_ifs with hcall
    · exact hgoto (fun h => hbusy (h ▸ hcall)) _
    · rfl
  | go u reg =>
    have hu : t ≠ u := fun h => hi h.symm
    rw [step, go]
    cases s.pc u with
    | idle => rfl
    | lockHandler =>
      dsimp only [lock]
      split_ifs
      · exact hgoto hu _
      · rfl
    | lockStatus =>
      dsimp only [lock]
      split_ifs
      · exact hgoto hu _
      · rfl
    | _ => exact hgoto hu _
  | _ => rfl

/-- Since `before`, a command has read the register. -/
def Taken (t : Thread) (before log : List (StatusEvent Thread)) : Prop :=
  ∃ mid mid', log = before ++ (mid ++ .read t :: mid') ∧ .read t ∉ mid'

omit [DecidableEq Thread] in
theorem Taken.append {before log new : List (StatusEvent Thread)} (h : Taken t before log)
    (hnew : .read t ∉ new) : Taken t before (log ++ new) := by
  obtain ⟨mid, mid', rfl, hmid'⟩ := h
  refine ⟨mid, mid' ++ new, by simp, fun hmem => ?_⟩
  exact (List.mem_append.mp hmem).elim hmid' hnew

omit [DecidableEq Thread] in
theorem Answered.append {before log : List (StatusEvent Thread)} (h : Answered t before log)
    (new : List (StatusEvent Thread)) : Answered t before (log ++ new) := by
  obtain ⟨mid, mid', post, v, rfl, hmid'⟩ := h
  exact ⟨mid, mid', post ++ new, v, by simp, hmid'⟩

/-- A command that thread `t` has begun with the log `before`, with the number of its own steps
that are left. -/
inductive Serving (t : Thread) (before : List (StatusEvent Thread)) (s : StatusSys Thread) :
    ℕ → Prop
  | waiting (hpc : s.pc t = .lockStatus) (hlog : before <+: s.log) : Serving t before s 6
  | locked (hpc : s.pc t = .readLive) (hlog : before <+: s.log) : Serving t before s 5
  | taken {n : ℕ} (hpc : (s.pc t).toReply = n + 1) (hlog : Taken t before s.log) :
    Serving t before s (n + 1)
  | answered {n : ℕ} (hlog : Answered t before s.log) : Serving t before s n

variable {before : List (StatusEvent Thread)} {n : ℕ}

private theorem toReply_update (s : StatusSys Thread) (t : Thread) (pc : StatusPc) :
    (Function.update s.pc t pc t).toReply = pc.toReply := by
  rw [Function.update_self]

/-- The other threads and the chip leave a command where it is. -/
theorem Serving.other (h : Serving t before s n) {i : StatusInput Thread} (hi : ¬ i.Goes t) :
    Serving t before (s.step i) n := by
  obtain ⟨new, hnew, hread⟩ := step_log s i t
  cases h with
  | waiting hpc hlog =>
    refine .waiting ?_ (hnew ▸ hlog.trans (List.prefix_append ..))
    rw [step_pc hi (by rw [hpc]; nofun), hpc]
  | locked hpc hlog =>
    refine .locked ?_ (hnew ▸ hlog.trans (List.prefix_append ..))
    rw [step_pc hi (by rw [hpc]; nofun), hpc]
  | taken hpc hlog =>
    refine .taken ?_ (hnew ▸ hlog.append (hread hi))
    rw [step_pc hi (fun hidle => by rw [hidle] at hpc; cases hpc), hpc]
  | answered hlog => exact .answered (hnew ▸ hlog.append new)

/-- One step of its own, when it is not waiting for the mutex. -/
theorem Serving.own (h : Serving t before s (n + 1)) (hfree : n = 5 → s.exclusive = none)
    (reg : Octet) : Serving t before (s.go t reg) n := by
  obtain ⟨new, hnew, -⟩ := step_log s (.go t reg) t
  cases h with
  | waiting hpc hlog =>
    rw [go, hpc]
    dsimp only [lock]
    rw [if_pos (hfree rfl)]
    exact .locked (Function.update_self ..) hlog
  | locked hpc hlog =>
    obtain ⟨mid, hmid⟩ := hlog
    rw [go, hpc]
    refine .taken (n := 3) ?_ ⟨mid, [], ?_, List.not_mem_nil⟩
    · exact toReply_update ..
    · show s.log ++ [.read t] = _
      rw [← hmid, List.append_assoc]
  | taken hpc hlog =>
    rw [go]
    cases hat : s.pc t with
    | result live =>
      obtain rfl : n = 3 := by rw [hat] at hpc; exact (Nat.succ.inj hpc).symm
      refine .taken (n := 2) ?_ hlog
      exact toReply_update ..
    | clear result =>
      obtain rfl : n = 2 := by rw [hat] at hpc; exact (Nat.succ.inj hpc).symm
      refine .taken (n := 1) ?_ hlog
      exact toReply_update ..
    | unlockStatus result =>
      obtain rfl : n = 1 := by rw [hat] at hpc; exact (Nat.succ.inj hpc).symm
      refine .taken (n := 0) ?_ hlog
      exact toReply_update ..
    | reply result =>
      obtain ⟨mid, mid', hlog, hmid'⟩ := hlog
      refine .answered ⟨mid, mid', [], result, ?_, hmid'⟩
      show s.log ++ [.reply t result] = _
      rw [hlog]
      simp
    | _ =>
      rw [hat] at hpc
      cases hpc
  | answered hlog => exact .answered (hnew ▸ hlog.append new)

/-- Whatever happens, a command does not fall back. -/
theorem Serving.step (h : Serving t before s n) (i : StatusInput Thread) :
    ∃ m ≤ n, Serving t before (s.step i) m := by
  by_cases hi : i.Goes t
  · cases i with
    | go u reg =>
      obtain rfl : u = t := hi
      cases n with
      | zero =>
        cases h with
        | answered hlog =>
          obtain ⟨new, hnew, -⟩ := step_log s (.go u reg) u
          exact ⟨0, le_rfl, .answered (hnew ▸ hlog.append new)⟩
      | succ n =>
        by_cases hfree : n = 5 → s.exclusive = none
        · exact ⟨n, Nat.le_succ n, h.own hfree reg⟩
        · rw [Classical.not_imp] at hfree
          obtain ⟨rfl, htaken⟩ := hfree
          -- Only a command that waits has six steps left, and its step does nothing here.
          cases h with
          | waiting hpc hlog =>
            have hgo : s.step (.go u reg) = s := by
              rw [StatusSys.step, go, hpc]
              exact if_neg htaken
            rw [hgo]
            exact ⟨6, le_rfl, .waiting hpc hlog⟩
          | taken hpc hlog =>
            exfalso
            cases hat : s.pc u <;> rw [hat] at hpc <;> cases hpc
          | answered hlog =>
            obtain ⟨new, hnew, -⟩ := step_log s (.go u reg) u
            exact ⟨6, le_rfl, .answered (hnew ▸ hlog.append new)⟩
    | _ => cases hi
  · exact ⟨n, le_rfl, h.other hi⟩

/-- A run. -/
theorem Serving.run (h : Serving t before s n) (is : List (StatusInput Thread)) :
    ∃ m ≤ n, Serving t before (Runs.run StatusSys.step s is) m := by
  induction is generalizing s n with
  | nil => exact ⟨n, le_rfl, h⟩
  | cons i is ih =>
    obtain ⟨m, hm, h'⟩ := h.step i
    obtain ⟨k, hk, h''⟩ := ih h'
    exact ⟨k, hk.trans hm, h''⟩

/-- With enough steps of its own, a command that has the mutex is answered. -/
theorem Serving.finishes (h : Serving t before s n) (hn : n ≤ 5)
    {is : List (StatusInput Thread)} (his : n ≤ is.countP (StatusInput.Goes t)) :
    Answered t before (Runs.run StatusSys.step s is).log := by
  have hend : 0 ≤ 5 ∧ Serving t before (Runs.run StatusSys.step s is) 0 := by
    refine Runs.finishes (P := fun n s => n ≤ 5 ∧ Serving t before s n)
      (fun n s (i : StatusInput Thread) (hi : ¬ i.Goes t) h => ⟨h.1, h.2.other hi⟩)
      (fun n s i hi h => ?_) (fun s i hi h => ?_) ⟨hn, h⟩ his
    · cases i with
      | go u reg =>
        obtain rfl : u = t := hi
        exact ⟨Nat.le_of_succ_le h.1, h.2.own (fun h5 => absurd h.1 (by omega)) reg⟩
      | _ => cases hi
    · obtain ⟨m, hm, h'⟩ := h.2.step i
      obtain rfl : m = 0 := Nat.le_zero.mp hm
      exact ⟨Nat.zero_le 5, h'⟩
  cases hend.2 with
  | answered hlog => exact hlog

/-- **A command is answered.** -/
theorem answers (s : StatusSys Thread) (t : Thread) : s.Answers t := by
  intro hidle before after reg hfree hafter
  have hcalled : Serving t s.log (s.step (.status3 t)) 6 := by
    rw [step, if_pos hidle]
    exact .waiting (Function.update_self ..) List.prefix_rfl
  obtain ⟨n, hn, h⟩ := hcalled.run before
  rw [Runs.run_append, Runs.run_cons]
  -- The step with the mutex free is the one that lets a waiting command in; five are left then.
  cases n with
  | zero =>
    obtain ⟨m, hm, h'⟩ := h.step (.go t reg)
    exact h'.finishes (by omega) (by omega)
  | succ n => exact (h.own (fun _ => hfree) reg).finishes (by omega) (by omega)

/-! ### The mutex is given back -/

/-- The owner of the mutex keeps it while the others go on. -/
theorem Refines.step_exclusive (h : s.Refines st) (ht : s.exclusive = some t)
    {i : StatusInput Thread} (hi : ¬ i.Goes t) : (s.step i).exclusive = some t := by
  cases i with
  | go u reg =>
    have hnot : (s.pc u).critical = false := h.not_critical ht hi
    have hlock (pc : StatusPc) : (s.lock u pc).exclusive = some t := by
      rw [StatusSys.lock, ht, if_neg nofun, ht]
    rw [StatusSys.step, StatusSys.go]
    cases hpc : s.pc u with
    | idle => exact ht
    | lockHandler => exact hlock _
    | lockStatus => exact hlock _
    | reply result => exact ht
    | _ =>
      rw [hpc] at hnot
      cases hnot
  | handler u ch =>
    rw [StatusSys.step]
    split_ifs <;> exact ht
  | status3 u =>
    rw [StatusSys.step]
    split_ifs <;> exact ht
  | _ => exact ht

/-- A step of the owner: it gives the mutex back, or comes nearer to that. -/
theorem Refines.nearer (h : s.Refines st) (ht : s.exclusive = some t) (reg : Octet) :
    (s.go t reg).exclusive = none ∨
      (s.go t reg).exclusive = some t ∧ ((s.go t reg).pc t).toUnlock < (s.pc t).toUnlock := by
  have hcritical : (s.pc t).critical = true := (h.mutex t).mpr ht
  have hgoto {n : ℕ} (pc : StatusPc) (hlt : pc.toUnlock < n) :
      (Function.update s.pc t pc t).toUnlock < n := by
    rwa [Function.update_self]
  rw [StatusSys.go]
  cases hpc : s.pc t with
  | readInterrupt =>
    refine .inr ⟨ht, hgoto _ ?_⟩
    split_ifs <;> decide
  | readStatus => exact .inr ⟨ht, hgoto _ (Nat.lt_succ_self 2)⟩
  | latch regStatus => exact .inr ⟨ht, hgoto _ (Nat.lt_succ_self 1)⟩
  | unlockHandler => exact .inl rfl
  | readLive => exact .inr ⟨ht, hgoto _ (Nat.lt_succ_self 3)⟩
  | result live => exact .inr ⟨ht, hgoto _ (Nat.lt_succ_self 2)⟩
  | clear result => exact .inr ⟨ht, hgoto _ (Nat.lt_succ_self 1)⟩
  | unlockStatus result => exact .inl rfl
  | _ =>
    rw [hpc] at hcritical
    cases hcritical

/-- With enough steps of its owner, the mutex becomes free. -/
theorem Refines.releases (h : s.Refines st) (ht : s.exclusive = some t)
    {is : List (StatusInput Thread)}
    (his : (s.pc t).toUnlock ≤ is.countP (StatusInput.Goes t)) :
    ∃ js, js <+: is ∧ (Runs.run StatusSys.step s js).exclusive = none := by
  have hcritical : (s.pc t).critical = true := (h.mutex t).mpr ht
  induction is generalizing s st with
  | nil =>
    exfalso
    rw [List.countP_nil] at his
    exact absurd (StatusPc.toUnlock_pos hcritical) (Nat.not_lt.mpr his)
  | cons i is ih =>
    rw [List.countP_cons] at his
    obtain ⟨st', h'⟩ := h.step i
    have hgoes (ht' : (s.step i).exclusive = some t)
        (hleft : ((s.step i).pc t).toUnlock ≤ is.countP (StatusInput.Goes t)) :
        ∃ js, js <+: i :: is ∧ (Runs.run StatusSys.step s js).exclusive = none := by
      obtain ⟨js, hjs, hfree⟩ := ih h' ht' hleft ((h'.mutex t).mpr ht')
      exact ⟨i :: js, List.cons_prefix_cons.mpr ⟨rfl, hjs⟩, hfree⟩
    by_cases hi : i.Goes t
    · rw [if_pos (decide_eq_true hi)] at his
      cases i with
      | go u reg =>
        obtain rfl : u = t := hi
        rcases h.nearer ht reg with hfree | ⟨ht', hlt⟩
        · exact ⟨[.go u reg], List.cons_prefix_cons.mpr ⟨rfl, List.nil_prefix⟩, hfree⟩
        · exact hgoes ht' (Nat.le_of_lt_succ (hlt.trans_le his))
      | _ => cases hi
    · rw [if_neg (by simpa using hi)] at his
      have hbusy : s.pc t ≠ .idle := fun hidle => by rw [hidle] at hcritical; cases hcritical
      refine hgoes (h.step_exclusive ht hi) ?_
      rwa [step_pc hi hbusy]

/-- **No fault is lost or reported twice**, whatever the chip, the handlers and the commands do, and
in every order: the replies have each fault once, and every command has its reply. -/
theorem faults_reported_once (is : List (StatusInput Thread)) :
    ReportedOnce (Runs.run step {} is).log ∧
      ∀ t, (Runs.run step {} is).Answers t ∧ (Runs.run step {} is).Releases t := by
  obtain ⟨st, h⟩ := collector_refines is
  refine ⟨reportedOnce_of_run h.run, fun t => ⟨answers _ t, fun ht js hjs => ?_⟩⟩
  exact h.releases ht (((Runs.run step {} is).pc t).toUnlock_le.trans hjs)

/-- A fault is raised, and the handler of the first channel keeps it; two commands follow. -/
private def latchedFault : List (StatusInput Bool) :=
  [.setIolink .a true, .raise 2, .handler false .a] ++
    List.replicate 5 (.go false interruptStatus) ++
    .status3 true :: List.replicate 6 (.go true 0) ++ .status3 true :: List.replicate 6 (.go true 0)

/-- The first of the commands has the fault in its reply, the second has not. -/
theorem faults_reported_once_latched :
    (Runs.run step {} latchedFault).log =
      [.raised 2, .read true, .reply true (corMask 2), .read true, .reply true 0] ∧
    ReportedOnce (Runs.run step {} latchedFault).log ∧
      ∀ t, (Runs.run step {} latchedFault).Answers t ∧ (Runs.run step {} latchedFault).Releases t :=
  ⟨by decide +kernel, faults_reported_once latchedFault⟩

end StatusSys

end IolHat

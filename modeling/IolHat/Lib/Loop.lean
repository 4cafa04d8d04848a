import IolHat.Lib.Fsm

/-!
# The loop of a driver, round by round

A machine carries a rank, and its driver is a total function because of it. Here the loop is looked
at without the rank: `Loop` relates a context and an event to the rows that the loop takes and to
the context in which it ends, and it holds only of a loop that does end.

* `Closed`: an action never hands back an event that has no row in the state it is raised in.
* `Steady`: the state is changed by the driver only, not by an action.
* `settles` is the rule for such a machine: the loop ends (`Settles`) within the bound that the rank
  gives, no row is taken twice in the same state, and the state at the end is that of the last row.
-/

namespace Fsm

namespace Machine

variable {σ S E A : Type} [DecidableEq E]

/-- The loop ends: every event of it has a row, and the last action hands back the idle event. The
list has the rows that are taken, each with the state it is taken in. -/
inductive Loop (M : Machine σ S E A) : σ → E → List (S × Transition S E A) → σ → Prop
  | last {c : σ} {e : E} {t : Transition S E A} (hrow : M.row c e = some t)
      (hidle : (M.round t c e).2 = M.idle) : Loop M c e [(M.state c, t)] (M.round t c e).1
  | next {c c' : σ} {e : E} {t : Transition S E A} {rows : List (S × Transition S E A)}
      (hrow : M.row c e = some t) (hnext : (M.round t c e).2 ≠ M.idle)
      (hloop : Loop M (M.round t c e).1 (M.round t c e).2 rows c') :
      Loop M c e ((M.state c, t) :: rows) c'

/-- Every follow-up event has a row in the state it is raised in. -/
def Closed (M : Machine σ S E A) : Prop :=
  ∀ c e t, M.row c e = some t → (M.round t c e).2 ≠ M.idle →
    ∃ t', M.row (M.round t c e).1 (M.round t c e).2 = some t'

/-- No action changes the state of the machine. -/
def Steady (M : Machine σ S E A) : Prop := ∀ a c e, M.state (M.perform a c e).1 = M.state c

/-- What an event should lead to, with `n` rounds at most. -/
structure Settles (M : Machine σ S E A) (n : ℕ) (c : σ) (e : E) : Prop where
  /-- An event without a row is dropped. -/
  dropped : M.row c e = none → M.drive c e = c
  /-- An action hands back the idle event, or one that has a row in the state it is raised in. -/
  followUp : ∀ t, M.row c e = some t → (M.round t c e).2 = M.idle ∨
    ∃ t', M.row (M.round t c e).1 (M.round t c e).2 = some t'
  /-- The loop of an event with a row ends, in the state of the last row it takes. -/
  ends : ∀ t, M.row c e = some t → ∃ rows, M.Loop c e rows (M.drive c e) ∧ rows.length ≤ n ∧
    rows.Nodup ∧ rows.getLast?.map (·.2.next) = some (M.state (M.drive c e))

variable {M : Machine σ S E A} {c c' : σ} {e : E} {rows : List (S × Transition S E A)}

omit [DecidableEq E] in
/-- The state after a round is that of its row. -/
theorem state_round (hsteady : M.Steady) (t : Transition S E A) (c : σ) (e : E) :
    M.state (M.round t c e).1 = t.next :=
  (hsteady t.action (M.enter t.next c) e).trans (M.state_enter t.next c)

/-- In a steady machine it is enough to look at the rows of the state that is entered. -/
theorem closed_of_steady (hsteady : M.Steady)
    (hrows : ∀ c, ∀ t ∈ M.table (M.state c), (M.round t c t.event).2 ≠ M.idle →
      ∃ t', lookup (M.table t.next) (M.round t c t.event).2 = some t') : M.Closed := by
  intro c e t hrow hnext
  obtain ⟨hmem, rfl⟩ := mem_of_row hrow
  obtain ⟨t', ht'⟩ := hrows c t hmem hnext
  exact ⟨t', row_of_state (state_round hsteady t c t.event) ht'⟩

namespace Loop

/-- The driver computes what the loop ends in. -/
theorem drive_eq (h : M.Loop c e rows c') : M.drive c e = c' := by
  induction h with
  | last hrow hidle => rw [drive_of_row hrow, if_pos hidle]
  | next hrow hnext _ ih => rw [drive_of_row hrow, if_neg hnext, ih]

/-- The rank of a row that has been taken. -/
theorem rank_le (h : M.Loop c e rows c') :
    ∀ r ∈ rows, M.rank r.1 r.2.event ≤ M.rank (M.state c) e := by
  have hfirst : ∀ {c : σ} {e : E} {t : Transition S E A}, M.row c e = some t →
      M.rank (M.state c) t.event ≤ M.rank (M.state c) e :=
    fun hrow => Nat.le_of_eq (congrArg _ (mem_of_row hrow).2)
  induction h with
  | last hrow _ =>
    intro r hr
    rw [List.mem_singleton.mp hr]
    exact hfirst hrow
  | next hrow hnext _ ih =>
    intro r hr
    obtain rfl | hr := List.mem_cons.mp hr
    · exact hfirst hrow
    · exact Nat.le_trans (ih r hr) (Nat.le_of_lt (rank_round_lt hrow hnext))

/-- The rank bounds the number of rounds. -/
theorem length_le (h : M.Loop c e rows c') : rows.length ≤ M.rank (M.state c) e + 1 := by
  induction h with
  | last _ _ => exact Nat.succ_le_succ (Nat.zero_le _)
  | next hrow hnext _ ih =>
    have hlt := rank_round_lt hrow hnext
    rw [List.length_cons]
    omega

/-- **No cycle.** No row is taken twice in the same state. -/
theorem nodup (h : M.Loop c e rows c') : rows.Nodup := by
  induction h with
  | last _ _ => exact List.pairwise_singleton _ _
  | next hrow hnext hloop ih =>
    refine List.nodup_cons.mpr ⟨fun hmem => ?_, ih⟩
    -- the ranks of the later rows are below that of the first one
    have hle := hloop.rank_le _ hmem
    rw [(mem_of_row hrow).2] at hle
    exact absurd (rank_round_lt hrow hnext) (Nat.not_lt.mpr hle)

/-- The state at the end is that of the last row. -/
theorem state_eq (hsteady : M.Steady) (h : M.Loop c e rows c') :
    rows.getLast?.map (·.2.next) = some (M.state c') := by
  induction h with
  | last hrow _ =>
    rw [state_round hsteady]
    rfl
  | next _ _ _ ih =>
    obtain ⟨r, hr, hstate⟩ := Option.map_eq_some_iff.mp ih
    rw [List.getLast?_cons, hr]
    exact congrArg some hstate

end Loop

/-- **The loop ends** in a closed machine, for every event that has a row. -/
theorem exists_loop (hclosed : M.Closed) {t : Transition S E A} (hrow : M.row c e = some t) :
    ∃ rows c', M.Loop c e rows c' := by
  -- strong induction on the rank, which the follow-up event lowers
  induction hk : M.rank (M.state c) e using Nat.strongRecOn generalizing c e t with
  | ind k ih =>
    by_cases hidle : (M.round t c e).2 = M.idle
    · exact ⟨_, _, .last hrow hidle⟩
    · obtain ⟨t', hrow'⟩ := hclosed c e t hrow hidle
      obtain ⟨rows, c', hloop⟩ := ih _ (hk ▸ rank_round_lt hrow hidle) hrow' rfl
      exact ⟨_, _, .next hrow hidle hloop⟩

/-- **The rule for a closed machine.** -/
theorem settles (hclosed : M.Closed) (hsteady : M.Steady) {n : ℕ}
    (hrank : M.rank (M.state c) e < n) : M.Settles n c e where
  dropped := drive_of_none
  followUp t hrow := or_iff_not_imp_left.mpr (hclosed c e t hrow)
  ends t hrow := by
    obtain ⟨rows, c', hloop⟩ := exists_loop hclosed hrow
    have hlength : rows.length ≤ n := Nat.le_trans hloop.length_le hrank
    rw [hloop.drive_eq]
    exact ⟨rows, hloop, hlength, hloop.nodup, hloop.state_eq hsteady⟩

end Machine

end Fsm

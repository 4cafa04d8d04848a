import Mathlib.Tactic.Common

/-!
# Table-driven state machines with follow-up events

The state machines of an embedded stack are often tables: each state has a list of rows
`(event, next state, action)`, and a driver takes the first row that matches the event, enters the
next state and performs the action. The action may hand back a *follow-up event*, which the
driver feeds into the table again, until an action hands back the idle event or no row matches.

`Machine` is such a table over a context `σ`. A loop of follow-up events need not stop by
itself, so a machine also carries a `rank` of its state and event that every follow-up event
lowers; `drive` is the driver loop, a total function.

* `drive_of_row` and `drive_of_none` are the two ways one round of the loop can go; together
  they are the loop of the source, and everything about a driver is proved from them.
* `drive_rule` and `drive_induction` are the rules for what a whole loop preserves: it is enough
  to look at one round.
-/

namespace Fsm

/-- One row of a transition table. -/
structure Transition (S E A : Type) where
  event : E
  next : S
  action : A
  deriving DecidableEq

/-- The first row for an event. -/
def lookup {S E A : Type} [DecidableEq E] (rows : List (Transition S E A)) (e : E) :
    Option (Transition S E A) :=
  rows.find? fun t => decide (t.event = e)

/-- A state machine over a context `σ`: its states `S`, events `E` and actions `A`. -/
structure Machine (σ S E A : Type) where
  /-- The state kept in the context. -/
  state : σ → S
  /-- Entering a state. -/
  enter : S → σ → σ
  /-- The rows of a state. -/
  table : S → List (Transition S E A)
  /-- What an action does, and its follow-up event. -/
  perform : A → σ → E → σ × E
  /-- The event that ends the loop. -/
  idle : E
  /-- How many rounds a state and an event can still cause. -/
  rank : S → E → ℕ
  state_enter : ∀ s c, state (enter s c) = s
  /-- Every follow-up event lowers the rank. -/
  rank_lt : ∀ c e, ∀ t ∈ table (state c), t.event = e →
    (perform t.action (enter t.next c) e).2 ≠ idle →
      rank (state (perform t.action (enter t.next c) e).1)
        (perform t.action (enter t.next c) e).2 < rank (state c) e

namespace Machine

variable {σ S E A : Type} [DecidableEq E] (M : Machine σ S E A)

/-- The row the driver takes in a context. -/
def row (c : σ) (e : E) : Option (Transition S E A) := lookup (M.table (M.state c)) e

/-- One round with a row: enter its state, perform its action. -/
def round (t : Transition S E A) (c : σ) (e : E) : σ × E :=
  M.perform t.action (M.enter t.next c) e

/-- At most `n` rounds of the driver loop. -/
def driveWithin : ℕ → σ → E → σ
  | 0, c, _ => c
  | n + 1, c, e =>
    match M.row c e with
    | none => c
    | some t =>
      if (M.round t c e).2 = M.idle then (M.round t c e).1
      else driveWithin n (M.round t c e).1 (M.round t c e).2

/-- The driver: rounds until an action is followed by the idle event or no row matches. -/
def drive (c : σ) (e : E) : σ := M.driveWithin (M.rank (M.state c) e + 1) c e

variable {M}

/-- The row is the one listed for the state the context is in. -/
theorem row_of_state {c : σ} {s : S} {e : E} {r : Option (Transition S E A)} (h : M.state c = s)
    (hr : lookup (M.table s) e = r) : M.row c e = r := by
  rw [row, h, hr]

/-- A row that is taken belongs to the state and carries the event. -/
theorem mem_of_row {c : σ} {e : E} {t : Transition S E A} (h : M.row c e = some t) :
    t ∈ M.table (M.state c) ∧ t.event = e :=
  ⟨List.mem_of_find?_eq_some h, of_decide_eq_true (List.find?_some h :)⟩

theorem rank_round_lt {c : σ} {e : E} {t : Transition S E A} (h : M.row c e = some t)
    (hidle : (M.round t c e).2 ≠ M.idle) :
    M.rank (M.state (M.round t c e).1) (M.round t c e).2 < M.rank (M.state c) e :=
  M.rank_lt c e t (mem_of_row h).1 (mem_of_row h).2 hidle

/-- More rounds than the rank allows are never used. -/
theorem driveWithin_eq {n m : ℕ} {c : σ} {e : E} (hn : M.rank (M.state c) e < n)
    (hm : M.rank (M.state c) e < m) : M.driveWithin n c e = M.driveWithin m c e := by
  -- on the first bound; the rank of the follow-up event is below both predecessors
  induction n generalizing m c e with
  | zero => omega
  | succ n ih =>
    obtain ⟨m, rfl⟩ : ∃ k, m = k + 1 := ⟨m - 1, by omega⟩
    rcases hrow : M.row c e with _ | t
    · simp only [driveWithin, hrow]
    · simp only [driveWithin, hrow]
      split_ifs with hidle
      · rfl
      · have hlt := rank_round_lt hrow hidle
        exact ih (by omega) (by omega)

/-- **No row.** The event is dropped. -/
theorem drive_of_none {c : σ} {e : E} (h : M.row c e = none) : M.drive c e = c := by
  simp only [drive, driveWithin, h]

/-- **A row.** Its action is performed, and a follow-up event is driven in turn. -/
theorem drive_of_row {c : σ} {e : E} {t : Transition S E A} (h : M.row c e = some t) :
    M.drive c e =
      if (M.round t c e).2 = M.idle then (M.round t c e).1
      else M.drive (M.round t c e).1 (M.round t c e).2 := by
  simp only [drive, driveWithin, h]
  split_ifs with hidle
  · rfl
  · exact driveWithin_eq (rank_round_lt h hidle) (Nat.lt_succ_self _)

/-- A row whose action is followed by the idle event. -/
theorem drive_of_row_idle {c c' : σ} {e : E} {t : Transition S E A} (h : M.row c e = some t)
    (hround : M.round t c e = (c', M.idle)) : M.drive c e = c' := by
  rw [drive_of_row h, hround, if_pos rfl]

/-- A row whose action is followed by another event. -/
theorem drive_of_row_next {c c' : σ} {e e' : E} {t : Transition S E A} (h : M.row c e = some t)
    (hround : M.round t c e = (c', e')) (he' : e' ≠ M.idle) : M.drive c e = M.drive c' e' := by
  rw [drive_of_row h, hround, if_neg he']

/-- Two rounds: the second row's action is followed by the idle event. -/
theorem drive_of_rows {c c' c'' : σ} {e e' : E} {t t' : Transition S E A} (h : M.row c e = some t)
    (hround : M.round t c e = (c', e')) (he' : e' ≠ M.idle) (h' : M.row c' e' = some t')
    (hround' : M.round t' c' e' = (c'', M.idle)) : M.drive c e = c'' := by
  rw [drive_of_row_next h hround he', drive_of_row_idle h' hround']

/-- **The loop rule with events.** `P` speaks of a context and the event that is driven next; every
round keeps it or ends the loop in `Q`. -/
theorem drive_rule {P : σ → E → Prop} {Q : σ → Prop}
    (hnone : ∀ c e, M.row c e = none → P c e → Q c)
    (hlast : ∀ c e t, M.row c e = some t → P c e → (M.round t c e).2 = M.idle →
      Q (M.round t c e).1)
    (hnext : ∀ c e t, M.row c e = some t → P c e → (M.round t c e).2 ≠ M.idle →
      P (M.round t c e).1 (M.round t c e).2)
    {c : σ} {e : E} (h : P c e) : Q (M.drive c e) := by
  -- strong induction on the rank
  induction hk : M.rank (M.state c) e using Nat.strongRecOn generalizing c e with
  | ind k ih =>
    rcases hrow : M.row c e with _ | t
    · rw [drive_of_none hrow]
      exact hnone c e hrow h
    · rw [drive_of_row hrow]
      split_ifs with hidle
      · exact hlast c e t hrow h hidle
      · exact ih _ (hk ▸ rank_round_lt hrow hidle) (hnext c e t hrow h hidle) rfl

/-- **The loop rule.** What one round preserves, from any context and event, the whole loop
preserves. -/
theorem drive_induction {P : σ → Prop}
    (hround : ∀ c e t, M.row c e = some t → P c → P (M.round t c e).1) {c : σ} {e : E}
    (hc : P c) : P (M.drive c e) :=
  drive_rule (fun _ _ _ h => h) (fun c e t hrow h _ => hround c e t hrow h)
    (P := fun c _ => P c) (fun c e t hrow h _ => hround c e t hrow h) hc

end Machine

end Fsm

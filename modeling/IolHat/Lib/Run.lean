import Mathlib.Data.Nat.Notation
import Mathlib.Logic.Relation

/-!
# Runs of a deterministic step function

A component that reacts to inputs is a step function `step : σ → ι → σ`. Its runs are the
folds of `step` over input lists, and a state is *reached* when some run leads to it.

Many guarantees hold only while the environment keeps a side condition, and the condition may
speak about the state the input arrives in. `Reaches step ok s₀ s` therefore carries a
predicate `ok : σ → ι → Prop` and collects the states reached by inputs that were admissible
where they arrived; with `ok := fun _ _ => True` it is plain reachability.

* `run` is a run's last state and `trace` what it puts out.
* `Reaches.invariant` is the induction rule: what holds at the start and is kept by every
  admissible step holds of every reached state.
* `finishes` is the rule for progress: a component that is somewhere between others comes to an end
  by steps of its own, each of which brings it nearer.
* `Admissible` is the same condition for one concrete list of inputs. It is decidable when `ok`
  is, so a run can be checked by evaluation (`reaches_run`).
-/

namespace Runs

variable {σ ι : Type} (step : σ → ι → σ) (ok : σ → ι → Prop)

/-- The state after a list of inputs. -/
def run (s : σ) (inputs : List ι) : σ := inputs.foldl step s

@[simp] theorem run_nil (s : σ) : run step s [] = s := rfl

@[simp]
theorem run_cons (s : σ) (i : ι) (is : List ι) :
    run step s (i :: is) = run step (step s i) is := rfl

theorem run_append (s : σ) (is js : List ι) : run step s (is ++ js) = run step (run step s is) js :=
  List.foldl_append

variable {ο : Type} (out : σ → ι → List ο)

/-- The outputs of a run, step by step, when `out s i` is what the step puts out. -/
def trace : σ → List ι → List ο
  | _, [] => []
  | s, i :: is => out s i ++ trace (step s i) is

@[simp] theorem trace_nil (s : σ) : trace step out s [] = [] := rfl

@[simp]
theorem trace_cons (s : σ) (i : ι) (is : List ι) :
    trace step out s (i :: is) = out s i ++ trace step out (step s i) is := rfl

theorem trace_append (s : σ) (is js : List ι) :
    trace step out s (is ++ js) = trace step out s is ++ trace step out (run step s is) js := by
  induction is generalizing s with
  | nil => rfl
  | cons i is ih => rw [List.cons_append, trace_cons, ih, trace_cons, run_cons, List.append_assoc]

/-- The states reached from `s₀` by inputs that are admissible in the state they arrive in. -/
inductive Reaches (s₀ : σ) : σ → Prop
  /-- The start state. -/
  | start : Reaches s₀ s₀
  /-- One more admissible input. -/
  | next {s : σ} (h : Reaches s₀ s) (i : ι) (hi : ok s i) : Reaches s₀ (step s i)

variable {step ok}

/-- **The invariant rule.** A property of the start state that every admissible step keeps
holds of every reached state. -/
theorem Reaches.invariant {s₀ s : σ} (hs : Reaches step ok s₀ s) (I : σ → Prop) (h₀ : I s₀)
    (hstep : ∀ s i, I s → ok s i → I (step s i)) : I s := by
  induction hs with
  | start => exact h₀
  | next _ i hi ih => exact hstep _ i ih hi

/-- Weaker admissibility reaches more states. -/
theorem Reaches.mono {ok' : σ → ι → Prop} (hok : ∀ s i, ok s i → ok' s i) {s₀ s : σ}
    (hs : Reaches step ok s₀ s) : Reaches step ok' s₀ s := by
  induction hs with
  | start => exact .start
  | next _ i hi ih => exact .next ih i (hok _ i hi)

theorem Reaches.trans {s₀ s t : σ} (hs : Reaches step ok s₀ s) (ht : Reaches step ok s t) :
    Reaches step ok s₀ t := by
  induction ht with
  | start => exact hs
  | next _ i hi ih => exact .next ih i hi

/-- **The progress rule.** `P n` says that at most `n` of some steps, `mine`, are left. Each of them
takes one away, the others none; then `n` of them bring the end, whatever happens in between. -/
theorem finishes {P : ℕ → σ → Prop} {mine : ι → Prop} [DecidablePred mine]
    (hother : ∀ n s i, ¬ mine i → P n s → P n (step s i))
    (hown : ∀ n s i, mine i → P (n + 1) s → P n (step s i))
    (hend : ∀ s i, mine i → P 0 s → P 0 (step s i)) {n : ℕ} {s : σ} {is : List ι} (h : P n s)
    (hn : n ≤ is.countP mine) : P 0 (run step s is) := by
  induction is generalizing s n with
  | nil =>
    obtain rfl : n = 0 := Nat.le_zero.mp hn
    exact h
  | cons i is ih =>
    rw [List.countP_cons] at hn
    by_cases hi : mine i
    · rw [if_pos (decide_eq_true hi)] at hn
      cases n with
      | zero => exact ih (hend s i hi h) (Nat.zero_le _)
      | succ n => exact ih (hown n s i hi h) (Nat.le_of_succ_le_succ hn)
    · rw [if_neg (by simpa using hi)] at hn
      exact ih (hother n s i hi h) hn

variable (step ok)

/-- Every input of the list is admissible in the state it arrives in. -/
def Admissible : σ → List ι → Prop
  | _, [] => True
  | s, i :: is => ok s i ∧ Admissible (step s i) is

instance decidableAdmissible [∀ s i, Decidable (ok s i)] :
    ∀ (s : σ) (is : List ι), Decidable (Admissible step ok s is)
  | _, [] => isTrue trivial
  | s, i :: is =>
    have := decidableAdmissible (step s i) is
    inferInstanceAs (Decidable (ok s i ∧ Admissible step ok (step s i) is))

variable {step ok}

/-- The condition matters only as far as what it says of each step. -/
theorem admissible_congr {ok' : σ → ι → Prop} (hok : ∀ s i, ok s i ↔ ok' s i) (s : σ)
    (is : List ι) : Admissible step ok s is ↔ Admissible step ok' s is := by
  induction is generalizing s with
  | nil => exact Iff.rfl
  | cons i is ih => exact and_congr (hok s i) (ih _)

/-- Two conditions that agree where an invariant holds, and keep it, admit the same runs. -/
theorem admissible_iff_of_invariant {ok' : σ → ι → Prop} {I : σ → Prop}
    (hok : ∀ s i, I s → (ok s i ↔ ok' s i)) (hI : ∀ s i, I s → ok s i → I (step s i)) {s : σ}
    (hs : I s) (is : List ι) : Admissible step ok s is ↔ Admissible step ok' s is := by
  induction is generalizing s with
  | nil => exact Iff.rfl
  | cons i is ih =>
    constructor
    · rintro ⟨hi, his⟩
      exact ⟨(hok s i hs).mp hi, (ih (hI s i hs hi)).mp his⟩
    · rintro ⟨hi, his⟩
      have hi := (hok s i hs).mpr hi
      exact ⟨hi, (ih (hI s i hs hi)).mpr his⟩

/-- A concrete admissible run ends in a reached state. -/
theorem reaches_run {s : σ} {is : List ι} (h : Admissible step ok s is) :
    Reaches step ok s (run step s is) := by
  induction is generalizing s with
  | nil => exact .start
  | cons i is ih => exact (Reaches.start.next i h.1).trans (ih h.2)

/-- Without a side condition every list of inputs is admissible. -/
theorem reaches_run_true (s : σ) (is : List ι) :
    Reaches step (fun _ _ => True) s (run step s is) := by
  induction is generalizing s with
  | nil => exact .start
  | cons i is ih => exact (Reaches.start.next i trivial).trans (ih _)

end Runs

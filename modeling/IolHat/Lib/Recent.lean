import IolHat.Lib.Run
import Mathlib.Data.List.DropRight
import Mathlib.Tactic.Common

/-!
# Logs that keep the newest entries

A component records entries and hands them on in batches, but keeps no more than the newest `k` of
those not handed on yet. Its purpose is the log of all entries: `step` is what recording and handing
on do to the entries that are waiting, and `handed` what a batch then consists of.

* `push_rtake`: a bounded queue that forgets its first entry when it gets too long holds the newest
  entries of the log.
* `handed_sublist`: a component that hands on what the log does never changes the order of the
  entries and hands none on twice.
-/

namespace Recent

variable {α : Type} {k : ℕ}

/-! ### Bounded queues -/

/-- A new entry in a queue of at most `k` entries. -/
def push (k : ℕ) (queue : List α) (entry : α) : List α :=
  if queue.length < k then queue ++ [entry] else (queue ++ [entry]).tail

theorem length_rtake (k : ℕ) (log : List α) : (log.rtake k).length = min k log.length := by
  rw [List.rtake, List.length_drop]
  omega

/-- The queue holds the newest entries of the log, also after one more. -/
theorem push_rtake (hk : 0 < k) (log : List α) (entry : α) :
    push k (log.rtake k) entry = (log ++ [entry]).rtake k := by
  obtain ⟨m, rfl⟩ := Nat.exists_eq_succ_of_ne_zero (Nat.ne_of_gt hk)
  rw [List.rtake_concat_succ, push, length_rtake]
  rcases Nat.lt_or_ge log.length (m + 1) with hshort | hlong
  · -- nothing has been forgotten
    have hlt : min (m + 1) log.length < m + 1 := by omega
    have hall : log.length - (m + 1) = log.length - m := by omega
    rw [if_pos hlt, List.rtake, List.rtake, hall]
  · have hge : ¬ min (m + 1) log.length < m + 1 := by omega
    have hne : log.rtake (m + 1) ≠ [] := by
      intro h
      have hlength := length_rtake (m + 1) log
      rw [h, List.length_nil] at hlength
      omega
    have hnext : log.length - (m + 1) + 1 = log.length - m := by omega
    rw [if_neg hge, List.tail_append_of_ne_nil hne, List.rtake, List.rtake, List.tail_drop, hnext]

/-! ### The log -/

/-- What happens to a log. -/
inductive Event (α : Type)
  /-- Entries are recorded. -/
  | record (entries : List α)
  /-- The newest entries are handed on, and all are removed. -/
  | handOn

/-- The entries that wait. -/
def step (waiting : List α) : Event α → List α
  | .record entries => waiting ++ entries
  | .handOn => []

/-- The entries that an event records. -/
def recorded : Event α → List α
  | .record entries => entries
  | .handOn => []

/-- The entries that an event hands on. -/
def handed (k : ℕ) (waiting : List α) : Event α → List α
  | .record _ => []
  | .handOn => waiting.rtake k

/-! ### Components with a log -/

section Component

variable {σ ι : Type} (next : σ → ι → σ) (event : σ → ι → Event α)

/-- A component next to the log of what it should keep. -/
def logStep (w : σ × List α) (i : ι) : σ × List α := (next w.1 i, step w.2 (event w.1 i))

variable {next event} {out : σ → ι → List α} {ok : σ → ι → Prop} {R : σ → List α → Prop}

/-- A simulation holds along the run of a component and its log. -/
theorem admissible_logStep {good : σ × List α → ι → Prop}
    (hgood : ∀ s log i, R s log → ok s i → good (s, log) i)
    (hstep : ∀ s log i, R s log → ok s i → R (next s i) (step log (event s i)))
    {s : σ} {log : List α} (h : R s log) {is : List ι} (his : Runs.Admissible next ok s is) :
    Runs.Admissible (logStep next event) good (s, log) is := by
  induction is generalizing s log with
  | nil => trivial
  | cons i is ih =>
    obtain ⟨hi, his⟩ := his
    exact ⟨hgood s log i h hi, ih (hstep s log i h hi) his⟩

/-- **Nothing is handed on twice or out of order** by a component that hands on what its log
does. -/
theorem handed_sublist (hout : ∀ s log i, R s log → ok s i → out s i = handed k log (event s i))
    (hstep : ∀ s log i, R s log → ok s i → R (next s i) (step log (event s i)))
    {s : σ} {log : List α} (h : R s log) {is : List ι} (his : Runs.Admissible next ok s is) :
    (Runs.trace next out s is).Sublist
      (log ++ Runs.trace next (fun s i => recorded (event s i)) s is) := by
  induction is generalizing s log with
  | nil => exact List.nil_sublist _
  | cons i is ih =>
    obtain ⟨hi, his⟩ := his
    have hrest := ih (hstep s log i h hi) his
    rw [Runs.trace_cons, Runs.trace_cons, hout s log i h hi]
    cases hevent : event s i with
    | record entries =>
      rw [hevent, step, List.append_assoc] at hrest
      exact hrest
    | handOn =>
      rw [hevent, step, List.nil_append] at hrest
      exact (List.drop_sublist _ log).append hrest

end Component

end Recent

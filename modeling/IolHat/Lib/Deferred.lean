import Mathlib.Data.List.Basic
import Mathlib.Data.List.Infix
import Mathlib.Logic.Function.Iterate

/-!
# Values handed over by reference

A producer announces values and queues, for each of them, a reference to the place in its memory
where the value lies. A consumer takes the references out of the queue one by one and delivers what
the memory holds at that time. Between the two the producer may have changed the memory.

* `Deferred` is the state of both sides, `post` a step of the producer and `serve` one of the
  consumer.
* `Current` says that every reference in the queue still leads to the value that was announced. The
  consumer keeps it, and then delivers the announced values in order.
* `inOrder_post_iff` says when a step of the producer keeps it: when it changes no value that is
  waiting.
-/

/-- A memory with a queue of references into it, the values announced and the values delivered. -/
structure Deferred (μ ρ α : Type*) where
  memory : μ
  queue : List ρ
  announced : List α
  delivered : List α

namespace Deferred

variable {μ ρ α : Type*}

/-- The producer changes the memory, announces values and queues a reference to each. -/
@[simps] def post (s : Deferred μ ρ α) (memory : μ) (entries : List (ρ × α)) : Deferred μ ρ α where
  memory := memory
  queue := s.queue ++ entries.map Prod.fst
  announced := s.announced ++ entries.map Prod.snd
  delivered := s.delivered

/-- What has been delivered is what was announced first. -/
def InOrder (s : Deferred μ ρ α) : Prop := s.delivered <+: s.announced

instance [DecidableEq α] (s : Deferred μ ρ α) : Decidable s.InOrder :=
  inferInstanceAs (Decidable (s.delivered <+: s.announced))

section Read

variable (read : μ → ρ → α)

/-- The consumer takes the first reference and delivers what it leads to. -/
def serve (s : Deferred μ ρ α) : Deferred μ ρ α :=
  match s.queue with
  | [] => s
  | r :: rest => { s with queue := rest, delivered := s.delivered ++ [read s.memory r] }

/-- Every reference in the queue leads to the value that was announced with it. -/
def Current (s : Deferred μ ρ α) : Prop :=
  s.delivered ++ s.queue.map (read s.memory) = s.announced

end Read

variable {read : μ → ρ → α} {s : Deferred μ ρ α}

theorem serve_memory : (s.serve read).memory = s.memory := by
  unfold serve
  split <;> rfl

theorem mem_queue_of_serve {r : ρ} (h : r ∈ (s.serve read).queue) : r ∈ s.queue := by
  cases hqueue : s.queue with
  | nil =>
    rw [serve, hqueue] at h
    exact hqueue ▸ h
  | cons r' rest =>
    rw [serve, hqueue] at h
    exact List.mem_cons_of_mem r' h

namespace Current

theorem inOrder (h : s.Current read) : s.InOrder := ⟨_, h⟩

theorem serve (h : s.Current read) : (s.serve read).Current read := by
  cases hqueue : s.queue with
  | nil =>
    rw [Deferred.serve, hqueue]
    exact h
  | cons r rest =>
    rw [Current, hqueue, List.map_cons] at h
    rw [Deferred.serve, hqueue, Current, ← h]
    exact List.append_assoc ..

theorem iterate (h : s.Current read) (n : ℕ) : ((Deferred.serve read)^[n] s).Current read := by
  induction n with
  | zero => exact h
  | succ n ih =>
    rw [Function.iterate_succ_apply']
    exact ih.serve

/-- The producer leaves the values alone that are waiting. -/
theorem post (h : s.Current read) {memory : μ} {entries : List (ρ × α)}
    (hnew : ∀ e ∈ entries, read memory e.1 = e.2)
    (hkept : ∀ r ∈ s.queue, read memory r = read s.memory r) :
    (s.post memory entries).Current read := by
  have hentries : (entries.map Prod.fst).map (read memory) = entries.map Prod.snd := by
    rw [List.map_map]
    exact List.map_congr_left hnew
  rw [Current, post_delivered, post_queue, post_announced, post_memory, List.map_append, hentries,
    List.map_congr_left hkept, ← List.append_assoc, h]

end Current

/-- The references at the front of the queue are served. -/
theorem iterate_serve {front rest : List ρ} (hqueue : s.queue = front ++ rest) :
    (serve read)^[front.length] s = { s with
      queue := rest, delivered := s.delivered ++ front.map (read s.memory) } := by
  induction front generalizing s with
  | nil =>
    rw [List.map_nil, List.append_nil]
    exact congrArg (fun q => { s with queue := q }) hqueue
  | cons r front ih =>
    have hfirst : s.serve read =
        { s with queue := front ++ rest, delivered := s.delivered ++ [read s.memory r] } := by
      rw [serve, hqueue]
      rfl
    rw [List.length_cons, Function.iterate_succ_apply, hfirst, ih rfl]
    simp only [List.map_cons, List.append_assoc, List.cons_append, List.nil_append]

/-- **When may the producer change its memory?** Everything is delivered in order afterwards,
however many references are served, exactly when no value that is waiting has changed. -/
theorem inOrder_post_iff (h : s.Current read) {memory : μ} {entries : List (ρ × α)}
    (hnew : ∀ e ∈ entries, read memory e.1 = e.2) :
    (∀ n, ((serve read)^[n] (s.post memory entries)).InOrder) ↔
      ∀ r ∈ s.queue, read memory r = read s.memory r := by
  constructor
  · intro hall
    have hserved := hall s.queue.length
    rw [iterate_serve (post_queue ..), InOrder, post_announced, post_delivered, post_memory,
      ← h, List.append_assoc, List.prefix_append_right_inj] at hserved
    -- as many values as were waiting
    have hlen : (s.queue.map (read memory)).length = (s.queue.map (read s.memory)).length := by
      rw [List.length_map, List.length_map]
    exact List.map_inj_left.mp
      ((List.prefix_of_prefix_length_le hserved (List.prefix_append _ _) hlen.le).eq_of_length hlen)
  · intro hkept n
    exact ((h.post hnew hkept).iterate n).inOrder

end Deferred

import Mathlib.Data.Finset.Insert
import Mathlib.Logic.Function.Basic
import Mathlib.Tactic.Common

/-!
# Collections that are emptied when they are read

Faults are collected, and a reader that takes the collection leaves it empty and reports what it has
taken at some later time. Several readers may be under way at once, so `State` keeps for each of
them what it has taken and not reported yet.

A log of what happened is that of a collection when `run` accepts it. Such a log loses nothing and
repeats nothing: a fault is in the report of the first reader that takes after it (`mem_of_run`), a
report has nothing but the faults since the take before it (`raised_of_run`), and every report has
its own take (`taken_of_run`, `taken_between`).
-/

namespace Collector

/-- What happens to a collection of faults of type `β` with readers of type `τ`. -/
inductive Event (β τ : Type)
  | raised (x : β)
  /-- A reader takes the collection. -/
  | taken (t : τ)
  /-- A reader reports what it has taken. -/
  | reported (t : τ) (xs : Finset β)

/-- The collection, and what the readers have taken. -/
structure State (β τ : Type) where
  found : Finset β := ∅
  window : τ → Option (Finset β) := fun _ => none

variable {β τ : Type} [DecidableEq β] [DecidableEq τ]

/-- One event; `none` when a collection does not do that. -/
def next (s : State β τ) : Event β τ → Option (State β τ)
  | .raised x => some { s with found := insert x s.found }
  | .taken t =>
    if s.window t = none then some ⟨∅, Function.update s.window t (some s.found)⟩ else none
  | .reported t xs =>
    if s.window t = some xs then some { s with window := Function.update s.window t none } else none

/-- A log. -/
def run (s : State β τ) : List (Event β τ) → Option (State β τ)
  | [] => some s
  | e :: es => (next s e).bind (run · es)

variable {s s' : State β τ} {es es' : List (Event β τ)}

theorem run_append : run s (es ++ es') = (run s es).bind (run · es') := by
  induction es generalizing s with
  | nil => rfl
  | cons e es ih =>
    rw [List.cons_append, run, run]
    cases next s e with
    | none => rfl
    | some s' => exact ih

/-- A log goes on with one more event. -/
theorem run_concat {e : Event β τ} (h : run s es = some s') : run s (es ++ [e]) = next s' e := by
  rw [run_append, h]
  show (next s' e).bind _ = _
  cases next s' e <;> rfl

/-- A log that is accepted comes to each of its events. -/
theorem run_split {e : Event β τ} (h : run s (es ++ e :: es') = some s') :
    ∃ st st', run s es = some st ∧ next st e = some st' ∧ run st' es' = some s' := by
  rw [run_append] at h
  obtain ⟨st, hst, h⟩ := Option.bind_eq_some_iff.mp h
  obtain ⟨st', hst', h⟩ := Option.bind_eq_some_iff.mp h
  exact ⟨st, st', hst, hst', h⟩

/-! ### Single events -/

theorem next_taken {t : τ} (h : next s (.taken t) = some s') :
    s' = ⟨∅, Function.update s.window t (some s.found)⟩ := by
  rw [next] at h
  split_ifs at h
  exact (Option.some.inj h).symm

theorem next_reported {t : τ} {xs : Finset β} (h : next s (.reported t xs) = some s') :
    s.window t = some xs ∧ s' = { s with window := Function.update s.window t none } := by
  rw [next] at h
  split_ifs at h with hxs
  exact ⟨hxs, (Option.some.inj h).symm⟩

/-- Only a take empties the collection. -/
theorem mem_found_next {e : Event β τ} (h : next s e = some s') (he : ∀ t, e ≠ .taken t) {x : β}
    (hx : x ∈ s.found) : x ∈ s'.found := by
  cases e with
  | raised y => exact Option.some.inj h ▸ Finset.mem_insert_of_mem hx
  | taken t => exact absurd rfl (he t)
  | reported t xs => rwa [(next_reported h).2]

/-- A reader that does not take has no more than before. -/
theorem window_next {e : Event β τ} (h : next s e = some s') {t : τ} (he : e ≠ .taken t) :
    s'.window t = s.window t ∨ s'.window t = none := by
  cases e with
  | raised y => exact .inl (Option.some.inj h ▸ rfl)
  | taken u =>
    have hne : t ≠ u := fun htu => he (htu ▸ rfl)
    rw [next_taken h]
    exact .inl (Function.update_of_ne hne _ _)
  | reported u xs =>
    rw [(next_reported h).2]
    rcases eq_or_ne t u with rfl | hne
    · exact .inr (Function.update_self _ _ _)
    · exact .inl (Function.update_of_ne hne _ _)

/-! ### Logs -/

/-- What has been raised stays until a reader takes it. -/
theorem mem_found_run (h : run s es = some s') (hes : ∀ t, .taken t ∉ es) {x : β}
    (hx : x ∈ s.found) : x ∈ s'.found := by
  induction es generalizing s with
  | nil => exact Option.some.inj h ▸ hx
  | cons e es ih =>
    obtain ⟨st, hst, h⟩ := Option.bind_eq_some_iff.mp h
    refine ih h (fun t ht => hes t (List.mem_cons_of_mem _ ht)) (mem_found_next hst ?_ hx)
    exact fun t he => hes t (he ▸ List.mem_cons_self)

/-- What a reader has, when it has not taken again. -/
theorem window_run (h : run s es = some s') {t : τ} (hes : .taken t ∉ es) :
    s'.window t = s.window t ∨ s'.window t = none := by
  induction es generalizing s with
  | nil => exact .inl (Option.some.inj h ▸ rfl)
  | cons e es ih =>
    obtain ⟨st, hst, h⟩ := Option.bind_eq_some_iff.mp h
    have hrest := ih h fun ht => hes (List.mem_cons_of_mem _ ht)
    have hfirst := window_next hst fun he => hes (he ▸ List.mem_cons_self)
    rcases hrest with hrest | hrest
    · exact hfirst.imp hrest.trans hrest.trans
    · exact .inr hrest

/-- The collection holds what has been raised since the last take. -/
theorem raised_of_found (h : run {} es = some s') {x : β} (hx : x ∈ s'.found) :
    ∃ p q, es = p ++ .raised x :: q ∧ ∀ t, .taken t ∉ q := by
  induction es using List.reverseRecOn generalizing s' with
  | nil =>
    obtain rfl := Option.some.inj h
    exact absurd hx (Finset.notMem_empty x)
  | append_singleton es e ih =>
    obtain ⟨st, hst, h⟩ := Option.bind_eq_some_iff.mp (run_append.symm.trans h)
    have hnext : next st e = some s' := (run_concat hst).symm.trans (run_append.trans (hst ▸ h))
    have hkept (hx' : x ∈ st.found) (he : ∀ t, e ≠ .taken t) :
        ∃ p q, es ++ [e] = p ++ .raised x :: q ∧ ∀ t, .taken t ∉ q := by
      obtain ⟨p, q, rfl, hq⟩ := ih hst hx'
      refine ⟨p, q ++ [e], by simp, fun t ht => ?_⟩
      obtain ht | ht := List.mem_append.mp ht
      · exact hq t ht
      · exact he t (List.mem_singleton.mp ht).symm
    cases e with
    | raised y =>
      obtain rfl := Option.some.inj hnext
      obtain rfl | hx' := Finset.mem_insert.mp hx
      · exact ⟨es, [], rfl, fun t => List.not_mem_nil⟩
      · refine hkept hx' ?_
        rintro t ⟨⟩
    | taken t =>
      rw [next_taken hnext] at hx
      exact absurd hx (Finset.notMem_empty x)
    | reported t xs =>
      rw [(next_reported hnext).2] at hx
      refine hkept hx ?_
      rintro u ⟨⟩

/-- A report is what the reader has taken. -/
theorem eq_found_of_run {pre mid post : List (Event β τ)} {t : τ} {xs : Finset β}
    (h : run s (pre ++ .taken t :: (mid ++ .reported t xs :: post)) = some s')
    (hmid : .taken t ∉ mid) : ∃ st, run s pre = some st ∧ xs = st.found := by
  obtain ⟨st, st₁, hpre, htaken, h⟩ := run_split h
  obtain ⟨st₂, st₃, hrun, hreported, -⟩ := run_split h
  refine ⟨st, hpre, ?_⟩
  have hwindow : st₁.window t = some st.found := by
    rw [next_taken htaken]
    exact Function.update_self ..
  have hxs := (next_reported hreported).1
  rcases window_run hrun hmid with hsame | hnone
  · exact (Option.some.inj ((hwindow.symm.trans hsame.symm).trans hxs)).symm
  · exact absurd (hxs.symm.trans hnone) (Option.some_ne_none xs)

/-- **Nothing is lost**: a fault is in the report of the first reader that takes after it. -/
theorem mem_of_run {pre mid mid' post : List (Event β τ)} {x : β} {t : τ} {xs : Finset β}
    (h : run s (pre ++ .raised x :: (mid ++ .taken t :: (mid' ++ .reported t xs :: post))) =
      some s')
    (hmid : ∀ u, .taken u ∉ mid) (hmid' : .taken t ∉ mid') : x ∈ xs := by
  obtain ⟨st, st₁, -, hraised, h⟩ := run_split h
  obtain ⟨st₂, hst₂, rfl⟩ := eq_found_of_run h hmid'
  refine mem_found_run hst₂ hmid ?_
  obtain rfl := Option.some.inj hraised
  exact Finset.mem_insert_self ..

/-- **Nothing is repeated**: what is reported was raised since the take before. -/
theorem raised_of_run {pre mid post : List (Event β τ)} {x : β} {t : τ} {xs : Finset β}
    (h : run {} (pre ++ .taken t :: (mid ++ .reported t xs :: post)) = some s')
    (hmid : .taken t ∉ mid) (hx : x ∈ xs) :
    ∃ p q, pre = p ++ .raised x :: q ∧ ∀ u, .taken u ∉ q := by
  obtain ⟨st, hst, rfl⟩ := eq_found_of_run h hmid
  exact raised_of_found hst hx

/-- A report has a take before it. -/
theorem taken_of_run {mid post : List (Event β τ)} {t : τ} {xs : Finset β}
    (h : run s (mid ++ .reported t xs :: post) = some s') (hs : s.window t = none) :
    .taken t ∈ mid := by
  by_contra hmid
  obtain ⟨st, st', hrun, hreported, -⟩ := run_split h
  have hxs := (next_reported hreported).1
  rcases window_run hrun hmid with hsame | hnone
  · exact absurd (hxs.symm.trans (hsame.trans hs)) (Option.some_ne_none xs)
  · exact absurd (hxs.symm.trans hnone) (Option.some_ne_none xs)

/-- **Every report has its own take.** -/
theorem taken_between {pre mid post : List (Event β τ)} {t : τ} {xs ys : Finset β}
    (h : run s (pre ++ .reported t xs :: (mid ++ .reported t ys :: post)) = some s') :
    .taken t ∈ mid := by
  obtain ⟨st, st', -, hreported, h⟩ := run_split h
  refine taken_of_run h ?_
  rw [(next_reported hreported).2]
  exact Function.update_self ..

end Collector

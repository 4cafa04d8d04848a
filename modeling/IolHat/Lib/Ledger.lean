import Mathlib.Data.List.Perm.Basic
import Mathlib.Data.List.Range
import Mathlib.Data.List.Nodup
import Mathlib.Tactic.Common

/-!
# Ledgers of requests and answers

A server that answers every request exactly once can be described without saying how it works:
requests are numbered in the order in which they are accepted, and at any time each number is
either pending or has been answered. `Ledger` is the book of such a server, and `Balanced` says
that pending and answered numbers together are the numbers of all requests, each once.

The three entries of the book, `issue`, `settle` and `refuse`, keep it balanced. To show that a
server answers exactly once it is enough that each of its steps makes one of these entries or
none.

Where requests are not numbered because some of them are answered together, a log tells whether each
has been answered at all: `Log.Followed`. `Log.Only` says what may come after an entry, and
`Log.Justified` that each entry is what the entries before it allow. `Log.Passes` says what a reader
has found in the log at several moments, one after the other. `Log.switch` is the position of a
switch that entries put on and off.
-/

/-- The book of a server: the requests by number, the numbers that are pending, and the answers
with the numbers they belong to. -/
structure Ledger (ρ α : Type) where
  requests : List ρ
  pending : List ℕ
  answers : List (ℕ × α)

namespace Ledger

variable {ρ α : Type} (L : Ledger ρ α)

/-- Every request is pending or answered, and only once. -/
def Balanced : Prop :=
  (L.pending ++ L.answers.map Prod.fst).Perm (List.range L.requests.length)

/-- How often a number has been answered. -/
def answerCount (t : ℕ) : ℕ := (L.answers.map Prod.fst).count t

/-- Accept a request. -/
def issue (r : ρ) : Ledger ρ α :=
  { L with requests := L.requests ++ [r], pending := L.pending ++ [L.requests.length] }

/-- Answer a pending request. -/
def settle (t : ℕ) (a : α) : Ledger ρ α :=
  { L with pending := L.pending.erase t, answers := L.answers ++ [(t, a)] }

/-- Accept a request and answer it at once. -/
def refuse (r : ρ) (a : α) : Ledger ρ α :=
  { L with requests := L.requests ++ [r], answers := L.answers ++ [(L.requests.length, a)] }

variable {L}

theorem balanced_nil : (⟨[], [], []⟩ : Ledger ρ α).Balanced := .refl _

/-- **Exactly once.** In a balanced ledger a request is pending, or answered once. -/
theorem Balanced.count_eq_one (h : L.Balanced) {t : ℕ} (ht : t < L.requests.length) :
    L.pending.count t + L.answerCount t = 1 := by
  have hcount := h.count_eq t
  rw [List.count_append] at hcount
  rw [answerCount, hcount]
  exact List.count_eq_one_of_mem List.nodup_range (List.mem_range.mpr ht)

/-- Only requests have numbers. -/
theorem Balanced.lt_of_pending (h : L.Balanced) {t : ℕ} (ht : t ∈ L.pending) :
    t < L.requests.length :=
  List.mem_range.mp (h.mem_iff.mp (List.mem_append_left _ ht))

theorem Balanced.lt_of_answered (h : L.Balanced) {t : ℕ} {a : α} (ht : (t, a) ∈ L.answers) :
    t < L.requests.length :=
  List.mem_range.mp (h.mem_iff.mp (List.mem_append_right _ (List.mem_map_of_mem ht)))

/-- What is pending has not been answered. -/
theorem Balanced.not_answered (h : L.Balanced) {t : ℕ} (ht : t ∈ L.pending) (a : α) :
    (t, a) ∉ L.answers := by
  intro ha
  have hcount := h.count_eq_one (h.lt_of_pending ht)
  have hpending : 0 < L.pending.count t := List.count_pos_iff.mpr ht
  have hanswered : 0 < L.answerCount t := List.count_pos_iff.mpr (List.mem_map_of_mem ha)
  omega

theorem Balanced.issue (h : L.Balanced) (r : ρ) : (L.issue r).Balanced := by
  rw [Balanced, Ledger.issue, List.length_append, List.length_singleton, List.range_succ]
  refine List.Perm.trans ?_ (h.append_right [L.requests.length])
  rw [List.append_assoc, List.append_assoc]
  exact List.perm_append_comm.append_left L.pending

theorem Balanced.settle (h : L.Balanced) {t : ℕ} (ht : t ∈ L.pending) (a : α) :
    (L.settle t a).Balanced := by
  refine List.Perm.trans ?_ h
  show (L.pending.erase t ++ (L.answers ++ [(t, a)]).map Prod.fst).Perm _
  have herase : (L.pending.erase t ++ [t]).Perm L.pending :=
    List.perm_append_comm.trans (List.perm_cons_erase ht).symm
  rw [List.map_append, List.map_singleton, ← List.append_assoc]
  refine List.Perm.trans ?_ (herase.append_right _)
  rw [List.append_assoc, List.append_assoc]
  exact List.perm_append_comm.append_left _

theorem Balanced.refuse (h : L.Balanced) (r : ρ) (a : α) : (L.refuse r a).Balanced := by
  rw [Balanced, Ledger.refuse, List.length_append, List.length_singleton, List.range_succ,
    List.map_append, List.map_singleton, ← List.append_assoc]
  exact h.append_right _

end Ledger

/-! ### Logs -/

namespace Log

variable {α : Type} {P : α → Prop} {e x : α} {l : List α}

/-- Every entry `e` of a log has one that answers it behind it. -/
def Followed (P : α → Prop) (e : α) (l : List α) : Prop :=
  ∀ l₁ l₂, l = l₁ ++ e :: l₂ → ∃ x ∈ l₂, P x

@[simp]
theorem followed_nil : Followed P e [] := fun _ _ h => absurd h (by simp)

/-- One more entry. -/
theorem followed_concat_iff : Followed P e (l ++ [x]) ↔ x ≠ e ∧ (P x ∨ Followed P e l) := by
  constructor
  · intro h
    have hne : x ≠ e := by
      rintro rfl
      obtain ⟨y, hy, -⟩ := h l [] rfl
      cases hy
    refine ⟨hne, or_iff_not_imp_left.mpr fun hx l₁ l₂ hl => ?_⟩
    obtain ⟨y, hy, hP⟩ := h l₁ (l₂ ++ [x]) (by rw [hl, List.append_assoc, List.cons_append])
    rcases List.mem_append.mp hy with hy | hy
    · exact ⟨y, hy, hP⟩
    · exact absurd (List.mem_singleton.mp hy ▸ hP) hx
  · rintro ⟨hne, h⟩ l₁ l₂ hl
    rcases List.eq_nil_or_concat l₂ with rfl | ⟨l₃, y, rfl⟩
    · exact absurd (List.singleton_injective (List.append_inj' hl rfl).2) hne
    · rw [List.concat_eq_append, ← List.cons_append, ← List.append_assoc] at hl
      obtain ⟨hbefore, hxy⟩ := List.append_inj' hl rfl
      obtain rfl := List.singleton_injective hxy
      rw [List.concat_eq_append]
      rcases h with hP | h
      · exact ⟨x, List.mem_append_right _ List.mem_cons_self, hP⟩
      · obtain ⟨z, hz, hP⟩ := h l₁ l₃ hbefore
        exact ⟨z, List.mem_append_left _ hz, hP⟩

/-- An entry that asks for nothing. -/
theorem Followed.concat (h : Followed P e l) (hx : x ≠ e) : Followed P e (l ++ [x]) :=
  followed_concat_iff.mpr ⟨hx, .inr h⟩

/-- Behind an entry `e` there are only entries of one kind. -/
def Only (P : α → Prop) (e : α) (l : List α) : Prop := ∀ l₁ l₂, l = l₁ ++ e :: l₂ → ∀ x ∈ l₂, P x

@[simp]
theorem only_nil : Only P e [] := fun _ _ h => absurd h (by simp)

theorem only_of_not_mem (h : e ∉ l) : Only P e l := by
  rintro l₁ l₂ rfl
  exact absurd (List.mem_append_right _ List.mem_cons_self) h

/-- More entries. -/
theorem Only.append (h : Only P e l) {m : List α} (hm : e ∈ l → ∀ x ∈ m, P x) (he : e ∉ m) :
    Only P e (l ++ m) := by
  intro l₁ l₂ hl x hx
  rcases List.append_eq_append_iff.mp hl with ⟨r, rfl, hr⟩ | ⟨r, rfl, hr⟩
  · exact absurd (hr ▸ List.mem_append_right _ List.mem_cons_self) he
  · cases r with
    | nil =>
      rw [List.nil_append] at hr
      exact absurd (hr ▸ List.mem_cons_self) he
    | cons y r =>
      obtain ⟨rfl, rfl⟩ := List.cons.inj hr
      rcases List.mem_append.mp hx with hx | hx
      · exact h l₁ r rfl x hx
      · exact hm (List.mem_append_right _ List.mem_cons_self) x hx

/-- Each entry is one that the entries before it allow. -/
def Justified (Q : List α → α → Prop) (l : List α) : Prop := ∀ l₁ x l₂, l = l₁ ++ x :: l₂ → Q l₁ x

variable {Q : List α → α → Prop}

@[simp]
theorem justified_nil : Justified Q [] := fun _ _ _ h => absurd h (by simp)

/-- One more entry. -/
theorem Justified.concat (h : Justified Q l) (hx : Q l x) : Justified Q (l ++ [x]) := by
  intro l₁ y l₂ hl
  rcases List.eq_nil_or_concat l₂ with rfl | ⟨l₃, z, rfl⟩
  · obtain ⟨rfl, hxy⟩ := List.append_inj' hl rfl
    obtain rfl := List.singleton_injective hxy
    exact hx
  · rw [List.concat_eq_append, ← List.cons_append, ← List.append_assoc] at hl
    obtain ⟨hbefore, -⟩ := List.append_inj' hl rfl
    exact h l₁ y l₃ hbefore

/-- More entries, each allowed by what is in front of it. -/
theorem Justified.append (h : Justified Q l) {m : List α}
    (hm : Justified (fun m₁ x => Q (l ++ m₁) x) m) : Justified Q (l ++ m) := by
  intro l₁ x l₂ hl
  rcases List.append_eq_append_iff.mp hl with ⟨r, rfl, hr⟩ | ⟨r, rfl, hr⟩
  · exact hm r x l₂ hr
  · cases r with
    | nil => simpa using hm [] x l₂ hr.symm
    | cons y r =>
      obtain ⟨rfl, rfl⟩ := List.cons.inj hr
      exact h l₁ x r rfl

/-- The entries behind the first one. -/
theorem Justified.tail (h : Justified Q (x :: l)) : Justified (fun l₁ y => Q (x :: l₁) y) l :=
  fun l₁ y l₂ hl => h (x :: l₁) y l₂ (by rw [hl, List.cons_append])

/-- What is allowed more often. -/
theorem Justified.mono (h : Justified Q l) {Q' : List α → α → Prop}
    (hQ : ∀ l x, Q l x → Q' l x) : Justified Q' l :=
  fun l₁ x l₂ hl => hQ l₁ x (h l₁ x l₂ hl)

/-- Behind the entries `l`, while the entries `m` are made, the view of the log passes through the
conditions one after the other. -/
def Passes {σ : Type} (view : List α → σ) : List α → List (σ → Prop) → List α → Prop
  | _, [], _ => True
  | l, C :: Cs, m => ∃ m₁ m₂, m = m₁ ++ m₂ ∧ C (view (l ++ m₁)) ∧ Passes view (l ++ m₁) Cs m₂

section Passes

variable {σ : Type} {view : List α → σ} {C D : σ → Prop} {Cs : List (σ → Prop)} {m : List α}

@[simp] theorem passes_nil : Passes view l [] m := trivial

/-- More entries. -/
theorem Passes.append (h : Passes view l Cs m) (m' : List α) : Passes view l Cs (m ++ m') := by
  induction Cs generalizing l m with
  | nil => trivial
  | cons C Cs ih =>
    obtain ⟨m₁, m₂, rfl, hC, h⟩ := h
    exact ⟨m₁, m₂ ++ m', by rw [List.append_assoc], hC, ih h⟩

/-- One more condition, which holds now. -/
theorem Passes.concat (h : Passes view l Cs m) (hC : C (view (l ++ m))) :
    Passes view l (Cs ++ [C]) m := by
  induction Cs generalizing l m with
  | nil => exact ⟨m, [], (List.append_nil m).symm, hC, trivial⟩
  | cons D Cs ih =>
    obtain ⟨m₁, m₂, rfl, hD, h⟩ := h
    exact ⟨m₁, m₂, rfl, hD, ih h (by rwa [List.append_assoc])⟩

/-- A weaker condition in the first place. -/
theorem Passes.imp (h : Passes view l (C :: Cs) m) (hCD : ∀ i, C i → D i) :
    Passes view l (D :: Cs) m := by
  obtain ⟨m₁, m₂, hm, hC, h⟩ := h
  exact ⟨m₁, m₂, hm, hCD _ hC, h⟩

end Passes

/-- A switch that some of the entries put on or off. -/
def switch (f : α → Option Bool) (b : Bool) (l : List α) : Bool :=
  l.foldl (fun b x => (f x).getD b) b

section Switch

variable {f : α → Option Bool} {b : Bool} {m : List α}

@[simp] theorem switch_nil : switch f b [] = b := rfl

@[simp] theorem switch_cons : switch f b (x :: l) = switch f ((f x).getD b) l := rfl

@[simp]
theorem switch_append : switch f b (l ++ m) = switch f (switch f b l) m := List.foldl_append

/-- Entries that leave the switch alone. -/
theorem switch_of_none (h : ∀ x ∈ l, f x = none) : switch f b l = b := by
  induction l generalizing b with
  | nil => rfl
  | cons x l ih =>
    rw [switch_cons, h x List.mem_cons_self, Option.getD_none]
    exact ih fun y hy => h y (List.mem_cons_of_mem x hy)

end Switch

end Log

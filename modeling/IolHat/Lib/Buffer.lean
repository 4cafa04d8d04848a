import Mathlib.Data.List.Basic
import Mathlib.Tactic.Common

/-!
# Fixed-size buffers and block writes

A C array that a program fills with `memcpy` is modelled by a list that carries its own
length: `Buffer α n` is a list of cells together with the proof that there are exactly `n` of
them, so a buffer of the wrong size cannot be built and no later lemma re-proves its length.

* `Octets.overwrite`: the block write on plain lists. Cells that would fall behind the end are
  dropped, so the operation is total; whether a write stays inside is a separate, decidable
  question (`Buffer.Fits`), which the model of a program asks next to each write.
* `Octets.Buffer`: the sized buffer with `get`, `set`, `write`, the tail `suffix` (what a C
  pointer into the array can reach) and the window `slice`.
* `Octets.records`: the records of one length that a block consists of.
* `Octets.xorSum`: the exclusive-or of all octets, the check sum of many field buses.

The lemmas say what a window of a buffer contains after a write: the written block inside it
(`slice_write_self`, `slice_write`), the old cells outside it (`get_write_of_lt`,
`get_write_of_ge`).
-/

namespace Octets

/-! ### Block writes on lists -/

section Overwrite

variable {α : Type}

/-- Overwrite `dst` with `src` from index `off` on. Cells beyond the end are dropped. -/
def overwrite : List α → ℕ → List α → List α
  | [], _, _ => []
  | d :: ds, off + 1, src => d :: overwrite ds off src
  | d :: ds, 0, [] => d :: ds
  | _ :: ds, 0, s :: ss => s :: overwrite ds 0 ss

@[simp]
theorem overwrite_nil (off : ℕ) (src : List α) : overwrite [] off src = [] := by
  simp [overwrite]

@[simp]
theorem overwrite_cons_succ (d : α) (ds : List α) (off : ℕ) (src : List α) :
    overwrite (d :: ds) (off + 1) src = d :: overwrite ds off src := by
  simp [overwrite]

@[simp]
theorem overwrite_src_nil (dst : List α) (off : ℕ) : overwrite dst off [] = dst := by
  induction dst generalizing off with
  | nil => simp
  | cons d ds ih => cases off <;> simp [overwrite, ih]

theorem mem_overwrite {dst src : List α} {off : ℕ} {a : α} (h : a ∈ overwrite dst off src) :
    a ∈ dst ∨ a ∈ src := by
  induction dst, off, src using overwrite.induct with
  | case1 => simp at h
  | case2 d ds off src ih =>
    rw [overwrite_cons_succ, List.mem_cons] at h
    rcases h with rfl | h
    · exact .inl List.mem_cons_self
    · exact (ih h).imp_left (List.mem_cons_of_mem d)
  | case3 d ds => exact .inl h
  | case4 d ds s ss ih =>
    rw [overwrite, List.mem_cons] at h
    rcases h with rfl | h
    · exact .inr List.mem_cons_self
    · exact (ih h).imp (List.mem_cons_of_mem d) (List.mem_cons_of_mem s)

@[simp]
theorem length_overwrite (dst : List α) (off : ℕ) (src : List α) :
    (overwrite dst off src).length = dst.length := by
  induction dst generalizing off src with
  | nil => simp
  | cons d ds ih =>
    cases off with
    | succ off => simp [ih]
    | zero => cases src <;> simp [overwrite, ih]

/-- A write that stays inside splits the list into the cells before it, the written block and
the cells after it. -/
theorem overwrite_eq_of_fits {dst src : List α} {off : ℕ} (h : off + src.length ≤ dst.length) :
    overwrite dst off src = dst.take off ++ (src ++ dst.drop (off + src.length)) := by
  induction dst generalizing off src with
  | nil =>
    obtain ⟨rfl, hs⟩ : off = 0 ∧ src.length = 0 := by simpa using h
    simp [List.length_eq_zero_iff.mp hs]
  | cons d ds ih =>
    cases off with
    | succ off =>
      have h' : off + src.length ≤ ds.length := by simp only [List.length_cons] at h; omega
      have hdrop : off + 1 + src.length = off + src.length + 1 := by omega
      simp [ih h', hdrop]
    | zero =>
      cases src with
      | nil => simp [overwrite]
      | cons s ss =>
        have h' : 0 + ss.length ≤ ds.length := by simp only [List.length_cons] at h; omega
        simp [overwrite, ih h']

/-- The cells before the written block are the old ones, whether or not the block fits. -/
theorem take_overwrite_of_le (dst src : List α) {off k : ℕ} (h : k ≤ off) :
    (overwrite dst off src).take k = dst.take k := by
  induction dst generalizing off k with
  | nil => simp
  | cons d ds ih =>
    cases k with
    | zero => simp
    | succ k =>
      obtain ⟨off, rfl⟩ : ∃ o, off = o + 1 := ⟨off - 1, by omega⟩
      simp [ih (by omega : k ≤ off)]

/-- The cells up to the end of a written block that fits. -/
theorem take_overwrite (dst src : List α) {off : ℕ} (h : off + src.length ≤ dst.length) :
    (overwrite dst off src).take (off + src.length) = dst.take off ++ src := by
  have hlen : (dst.take off ++ src).length = off + src.length := by
    rw [List.length_append, List.length_take, Nat.min_eq_left (by omega)]
  rw [overwrite_eq_of_fits h, ← List.append_assoc, ← hlen, List.take_left]

/-- The cells behind the written block are the old ones, whether or not the block fits. -/
theorem drop_overwrite_of_le (dst src : List α) {off k : ℕ} (h : off + src.length ≤ k) :
    (overwrite dst off src).drop k = dst.drop k := by
  induction dst generalizing off src k with
  | nil => simp
  | cons d ds ih =>
    cases off with
    | succ off =>
      obtain ⟨k, rfl⟩ : ∃ m, k = m + 1 := ⟨k - 1, by omega⟩
      simpa using ih src (by omega : off + src.length ≤ k)
    | zero =>
      cases src with
      | nil => simp
      | cons s ss =>
        rw [List.length_cons] at h
        obtain ⟨k, rfl⟩ : ∃ m, k = m + 1 := ⟨k - 1, by omega⟩
        simpa [overwrite] using ih ss (by omega : 0 + ss.length ≤ k)

/-- Two adjacent writes are one. -/
theorem overwrite_overwrite (dst s t : List α) (off : ℕ) :
    overwrite (overwrite dst off s) (off + s.length) t = overwrite dst off (s ++ t) := by
  induction dst generalizing off s with
  | nil => simp
  | cons d ds ih =>
    cases off with
    | succ off =>
      have hoff : off + 1 + s.length = off + s.length + 1 := by omega
      simp only [overwrite_cons_succ, hoff, ih]
    | zero =>
      cases s with
      | nil => simp
      | cons a s =>
        have hoff : 0 + (a :: s).length = 0 + s.length + 1 := by simp
        simp only [overwrite, List.cons_append, hoff, overwrite_cons_succ, ih]

/-- The written block itself. -/
theorem take_drop_overwrite (dst src : List α) {off : ℕ} (h : off + src.length ≤ dst.length) :
    ((overwrite dst off src).drop off).take src.length = src := by
  have hoff : (dst.take off).length = off := by
    rw [List.length_take, Nat.min_eq_left (by omega)]
  rw [overwrite_eq_of_fits h]
  nth_rewrite 1 [← hoff]
  rw [List.drop_left, List.take_left]

/-- A write at the front leaves the first `k` cells as they were exactly if the block and these
cells agree as far as both go. -/
theorem take_overwrite_zero_eq_iff {dst src : List α} {k : ℕ} (h : src.length ≤ dst.length) :
    (overwrite dst 0 src).take k = dst.take k ↔ src <+: dst.take k ∨ dst.take k <+: src := by
  rw [overwrite_eq_of_fits (by omega), List.take_zero, List.nil_append, Nat.zero_add]
  rcases Nat.le_total src.length k with hk | hk
  · obtain ⟨j, rfl⟩ := Nat.exists_eq_add_of_le hk
    have hfront : (dst.take (src.length + j)).take src.length = dst.take src.length := by
      rw [List.take_take, Nat.min_eq_left hk]
    rw [List.take_length_add_append, List.take_add, List.append_left_inj]
    rw [← List.take_add]
    constructor
    · intro heq
      exact .inl (List.prefix_iff_eq_take.mpr (heq.trans hfront.symm))
    · rintro (hpre | hpre)
      · exact (List.prefix_iff_eq_take.mp hpre).trans hfront
      · have hlen : src.length ≤ (dst.take (src.length + j)).length := by
          rw [List.length_take]; omega
        rw [← hfront, hpre.eq_of_length_le hlen, List.take_length]
  · have hlen : (dst.take k).length = k := by rw [List.length_take]; omega
    rw [List.take_append_of_le_length hk]
    constructor
    · intro heq
      exact .inr (heq ▸ List.take_prefix k src)
    · rintro (hpre | hpre)
      · have heq : src = dst.take k := hpre.eq_of_length_le (by omega)
        rw [List.take_of_length_le (Nat.le_of_eq (heq ▸ hlen)), ← heq]
      · exact (hlen ▸ List.prefix_iff_eq_take.mp hpre).symm

/-- Inside the written block nothing of the old list is left. -/
theorem getElem?_overwrite_of_mem {dst dst' : List α} (src : List α) {off i : ℕ}
    (hlen : dst.length = dst'.length) (hlo : off ≤ i) (hhi : i < off + src.length) :
    (overwrite dst off src)[i]? = (overwrite dst' off src)[i]? := by
  induction dst generalizing dst' off i src with
  | nil =>
    obtain rfl := List.length_eq_zero_iff.mp hlen.symm
    rfl
  | cons d ds ih =>
    cases dst' with
    | nil => exact absurd hlen (Nat.succ_ne_zero _)
    | cons d' ds' =>
      have hlen' : ds.length = ds'.length := Nat.succ.inj hlen
      cases off with
      | succ off =>
        obtain ⟨j, rfl⟩ : ∃ j, i = j + 1 := Nat.exists_eq_succ_of_ne_zero (by omega)
        simp only [overwrite_cons_succ, List.getElem?_cons_succ]
        exact ih src hlen' (by omega) (by omega)
      | zero =>
        cases src with
        | nil => exact absurd hhi (by simp)
        | cons a src =>
          cases i with
          | zero => simp [overwrite]
          | succ j =>
            simp only [overwrite, List.getElem?_cons_succ]
            exact ih src hlen' (Nat.zero_le j) (by simpa using hhi)

end Overwrite

/-! ### Records of one length -/

section Records

variable {α : Type}

/-- The first `count` records of length `len`. -/
def records (len : ℕ) : ℕ → List α → List (List α)
  | 0, _ => []
  | count + 1, l => l.take len :: records len count (l.drop len)

/-- Records laid out one after the other are found again. -/
theorem records_flatten {len : ℕ} {rs : List (List α)} (h : ∀ r ∈ rs, r.length = len) :
    records len rs.length rs.flatten = rs := by
  induction rs with
  | nil => rfl
  | cons r rs ih =>
    have hr : r.length = len := h r List.mem_cons_self
    rw [List.length_cons, List.flatten_cons, records, List.take_left' hr, List.drop_left' hr,
      ih fun r' hr' => h r' (List.mem_cons_of_mem r hr')]

end Records

/-! ### Sized buffers -/

/-- A C array of `n` cells: a list that carries the proof of its length. -/
structure Buffer (α : Type) (n : ℕ) where
  /-- The cells, first to last. -/
  cells : List α
  /-- There are exactly `n` of them. -/
  length_cells : cells.length = n
  deriving DecidableEq

namespace Buffer

variable {α : Type} {n : ℕ}

attribute [simp] length_cells

@[ext]
theorem ext {b c : Buffer α n} (h : b.cells = c.cells) : b = c := by
  cases b; cases c; simpa using h

/-- All cells equal: `memset` of the whole array. -/
def fill (a : α) : Buffer α n := ⟨List.replicate n a, by simp⟩

instance [Inhabited α] : Inhabited (Buffer α n) := ⟨fill default⟩

/-- The cell at an index; the default value behind the end. -/
def get [Inhabited α] (b : Buffer α n) (i : ℕ) : α := b.cells.getD i default

/-- A cell of a buffer whose cells are all equal. -/
theorem get_fill [Inhabited α] (a : α) {i : ℕ} (hi : i < n) : (fill a : Buffer α n).get i = a := by
  simp [get, fill, List.getD_eq_getElem?_getD, hi]

/-- What a pointer to cell `off` can reach. -/
def suffix (b : Buffer α n) (off : ℕ) : List α := b.cells.drop off

/-- The window of `len` cells from `off` on. -/
def slice (b : Buffer α n) (off len : ℕ) : List α := (b.suffix off).take len

/-- Write a block from `off` on; cells behind the end are dropped. -/
def write (b : Buffer α n) (off : ℕ) (src : List α) : Buffer α n :=
  ⟨overwrite b.cells off src, by simp⟩

/-- Write one cell. -/
def set (b : Buffer α n) (i : ℕ) (a : α) : Buffer α n := b.write i [a]

/-- An access of `len` cells from `off` on stays inside an array of `n` cells. -/
abbrev Fits (n off len : ℕ) : Prop := off + len ≤ n

theorem length_suffix (b : Buffer α n) (off : ℕ) : (b.suffix off).length = n - off := by
  simp [suffix]

theorem length_slice (b : Buffer α n) {off len : ℕ} (h : Fits n off len) :
    (b.slice off len).length = len := by
  have : off + len ≤ n := h
  simp [slice, length_suffix]; omega

@[simp]
theorem write_nil (b : Buffer α n) (off : ℕ) : b.write off [] = b := by
  ext1; simp [write]

/-- The front of a buffer up to the end of a block just written. -/
theorem slice_write (b : Buffer α n) (off : ℕ) (src : List α) (h : Fits n off src.length) :
    (b.write off src).slice 0 (off + src.length) = b.slice 0 off ++ src := by
  simpa [slice, suffix, write] using take_overwrite b.cells src (by simpa using h)

/-- A write leaves the cells before it alone. -/
theorem slice_write_of_le (b : Buffer α n) {off k : ℕ} (src : List α) (h : k ≤ off) :
    (b.write off src).slice 0 k = b.slice 0 k := by
  simpa [slice, suffix, write] using take_overwrite_of_le b.cells src h

/-- A write leaves a window before it or behind it alone. -/
theorem slice_write_of_disjoint (b : Buffer α n) {off at_ len : ℕ} (src : List α)
    (h : off + src.length ≤ at_ ∨ at_ + len ≤ off) :
    (b.write off src).slice at_ len = b.slice at_ len := by
  rcases h with h | h
  · simp only [slice, suffix, write, drop_overwrite_of_le b.cells src h]
  · have hfront := take_overwrite_of_le b.cells src h
    simp only [slice, suffix, write, List.take_drop, hfront]

/-- The window just written holds the block. -/
theorem slice_write_self (b : Buffer α n) (off : ℕ) (src : List α) (h : Fits n off src.length) :
    (b.write off src).slice off src.length = src := by
  simpa [slice, suffix, write] using take_drop_overwrite b.cells src (by simpa using h)

/-- What a write leaves in a buffer was there before or has been written. -/
theorem mem_cells_write {b : Buffer α n} {off : ℕ} {src : List α} {a : α}
    (h : a ∈ (b.write off src).cells) : a ∈ b.cells ∨ a ∈ src :=
  mem_overwrite h

theorem mem_cells_of_mem_slice {b : Buffer α n} {off len : ℕ} {a : α} (h : a ∈ b.slice off len) :
    a ∈ b.cells :=
  List.mem_of_mem_drop (List.mem_of_mem_take h)

/-- Two adjacent writes are one. -/
theorem write_write (b : Buffer α n) (off : ℕ) (s t : List α) :
    (b.write off s).write (off + s.length) t = b.write off (s ++ t) := by
  ext1
  exact overwrite_overwrite b.cells s t off

/-- A window over two adjacent blocks is one window over each. -/
theorem slice_eq_append {b : Buffer α n} {off : ℕ} {s t : List α}
    (h : b.slice off (s ++ t).length = s ++ t) :
    b.slice off s.length = s ∧ b.slice (off + s.length) t.length = t := by
  rw [slice, List.length_append, List.take_add] at h
  have hlen : ((b.suffix off).take s.length).length = s.length := by
    have htotal := congrArg List.length h
    simp only [List.length_append, List.length_take, List.length_drop] at htotal ⊢
    omega
  obtain ⟨hs, ht⟩ := List.append_inj h hlen
  refine ⟨hs, ?_⟩
  simpa [slice, suffix, List.drop_drop] using ht

/-- A write at the front leaves the front window as it was exactly if the block and the window
agree as far as both go. -/
theorem slice_zero_write_eq_iff (b : Buffer α n) {src : List α} {k : ℕ} (h : src.length ≤ n) :
    (b.write 0 src).slice 0 k = b.slice 0 k ↔ src <+: b.slice 0 k ∨ b.slice 0 k <+: src := by
  simpa [slice, suffix, write] using take_overwrite_zero_eq_iff (k := k) (by simpa using h)

/-- A window is split at any place. -/
theorem slice_add (b : Buffer α n) (off k m : ℕ) :
    b.slice off (k + m) = b.slice off k ++ b.slice (off + k) m := by
  simp [slice, suffix, List.take_add, List.drop_drop]

/-- A window is a piece of any longer window from the same start. -/
theorem slice_of_slice (b : Buffer α n) {k m : ℕ} (h : k ≤ m) :
    (b.slice 0 m).take k = b.slice 0 k := by
  simp [slice, suffix, List.take_take, h]

/-- Cells inside a window. -/
theorem get_add_of_slice [Inhabited α] (b : Buffer α n) {l : List α} {off k i : ℕ}
    (h : b.slice off k = l) (hi : i < k) : b.get (off + i) = l.getD i default := by
  subst h
  simp [slice, suffix, get, List.getD_eq_getElem?_getD, hi]

/-- Cells inside the front window. -/
theorem get_of_slice [Inhabited α] (b : Buffer α n) {l : List α} {k i : ℕ}
    (h : b.slice 0 k = l) (hi : i < k) : b.get i = l.getD i default := by
  simpa using b.get_add_of_slice h hi

/-- The front window grows by one cell. -/
theorem slice_zero_succ [Inhabited α] (b : Buffer α n) {k : ℕ} (h : k < n) :
    b.slice 0 (k + 1) = b.slice 0 k ++ [b.get k] := by
  have hk : k < b.cells.length := by rw [b.length_cells]; exact h
  have hcell : b.cells[k]? = some (b.get k) := by
    simp only [get, List.getD_eq_getElem?_getD, List.getElem?_eq_getElem hk, Option.getD_some]
  simp [slice, suffix, List.take_add_one, hcell]

/-- A write at the front fills the front window. -/
theorem slice_zero_write (b : Buffer α n) {src : List α} (h : src.length ≤ n) :
    (b.write 0 src).slice 0 src.length = src :=
  slice_write_self b 0 src (by simpa [Fits] using h)

/-- The front of a buffer into which a block has been written: the block, and the old cells
behind it. -/
theorem slice_zero_write_append (b : Buffer α n) {src : List α} (h : src.length ≤ n) (k : ℕ) :
    (b.write 0 src).slice 0 k = src.take k ++ b.slice src.length (k - src.length) := by
  have hwrite : overwrite b.cells 0 src = src ++ b.cells.drop src.length := by
    simpa using overwrite_eq_of_fits (by simpa using h : 0 + src.length ≤ b.cells.length)
  simp only [slice, suffix, write, hwrite, List.drop_zero, List.take_append]

/-- A write leaves each cell before it alone. -/
theorem get_write_of_lt [Inhabited α] (b : Buffer α n) {off i : ℕ} (src : List α) (hi : i < off) :
    (b.write off src).get i = b.get i := by
  rw [get_of_slice _ (slice_write_of_le b src (Nat.le_refl off)) hi, get_of_slice b rfl hi]

/-- A write leaves the cells behind it alone. -/
theorem get_write_of_ge [Inhabited α] (b : Buffer α n) {off i : ℕ} {src : List α}
    (hi : off + src.length ≤ i) : (b.write off src).get i = b.get i := by
  have hdrop := drop_overwrite_of_le b.cells src hi
  have hget := congrArg (fun l => l[0]?) hdrop
  simp only [List.getElem?_drop, Nat.add_zero] at hget
  simp only [get, write, List.getD_eq_getElem?_getD, hget]

/-- Two windows agree exactly if their cells do. -/
theorem slice_eq_slice_iff [Inhabited α] {b c : Buffer α n} {off len : ℕ} :
    b.slice off len = c.slice off len ↔ ∀ i, off ≤ i → i < off + len → b.get i = c.get i := by
  constructor
  · intro h i hlo hhi
    obtain ⟨j, rfl⟩ := Nat.exists_eq_add_of_le hlo
    have hj : j < len := by omega
    exact (b.get_add_of_slice h hj).trans (c.get_add_of_slice rfl hj).symm
  · intro h
    refine List.ext_getElem (by simp [slice, length_suffix]) fun j hj hj' => ?_
    have hlen : j < len := Nat.lt_of_lt_of_le hj (List.length_take_le _ _)
    have hget := h (off + j) (Nat.le_add_right off j) (by omega)
    rw [b.get_add_of_slice rfl hlen, c.get_add_of_slice rfl hlen] at hget
    simpa [List.getD_eq_getElem?_getD, hj, hj'] using hget

/-- After the same write two buffers agree in the block written and where they agreed before. -/
theorem get_write_eq_iff [Inhabited α] {b c : Buffer α n} {off i : ℕ} {src : List α} :
    (b.write off src).get i = (c.write off src).get i ↔
      off ≤ i ∧ i < off + src.length ∨ b.get i = c.get i := by
  rcases Nat.lt_or_ge i off with hlt | hge
  · rw [b.get_write_of_lt src hlt, c.get_write_of_lt src hlt]
    exact ⟨.inr, fun h => h.resolve_left fun hmem => absurd hmem.1 (Nat.not_le.mpr hlt)⟩
  · rcases Nat.lt_or_ge i (off + src.length) with hin | hbehind
    · refine iff_of_true ?_ (.inl ⟨hge, hin⟩)
      have hlen : b.cells.length = c.cells.length := by rw [b.length_cells, c.length_cells]
      simp only [get, write, List.getD_eq_getElem?_getD,
        getElem?_overwrite_of_mem src hlen hge hin]
    · rw [b.get_write_of_ge hbehind, c.get_write_of_ge hbehind]
      exact ⟨.inr, fun h => h.resolve_left fun hmem => absurd hmem.2 (Nat.not_lt.mpr hbehind)⟩

/-- A cell that has been set. -/
theorem get_set_self [Inhabited α] (b : Buffer α n) {i : ℕ} (hi : i < n) (a : α) :
    (b.set i a).get i = a := by
  have hwin := b.slice_write_self i [a] hi
  exact (b.write i [a]).get_add_of_slice hwin (Nat.lt_succ_self 0)

end Buffer

/-! ### The exclusive-or check sum -/

/-- The exclusive-or of all octets. -/
def xorSum (l : List UInt8) : UInt8 := l.foldr (· ^^^ ·) 0

@[simp] theorem xorSum_nil : xorSum [] = 0 := rfl

@[simp]
theorem xorSum_cons (a : UInt8) (l : List UInt8) : xorSum (a :: l) = a ^^^ xorSum l := rfl

/-- A check sum accumulated from the left, as a loop over the octets does it. -/
theorem foldl_xor (a : UInt8) (l : List UInt8) : l.foldl (· ^^^ ·) a = a ^^^ xorSum l := by
  induction l generalizing a with
  | nil => simp
  | cons b l ih => rw [List.foldl_cons, ih, xorSum_cons, UInt8.xor_assoc]

theorem xorSum_append (l m : List UInt8) : xorSum (l ++ m) = xorSum l ^^^ xorSum m := by
  induction l with
  | nil => simp
  | cons a l ih => simp [ih, UInt8.xor_assoc]

/-- Appending its own check sum brings a block to zero. -/
theorem xorSum_append_self (l : List UInt8) : xorSum (l ++ [xorSum l]) = 0 := by
  simp [xorSum_append]

end Octets

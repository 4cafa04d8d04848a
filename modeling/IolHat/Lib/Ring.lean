import IolHat.Lib.Buffer

/-!
# Ring buffers

A bounded queue kept in an array of `n` cells: a read index, a write index and a counter, the
indices wrapping around at the end of the array. `Ring` carries the relation between the three as
fields, so a ring that has lost or doubled an entry cannot be built.

`toList` is the queue, oldest entry first. `post` appends to it unless the array is full, `fetch`
takes the first entry unless there is none (`toList_post`, `toList_fetch`, `post_eq_none_iff`,
`fetch_eq_none_iff`).
-/

namespace Rings

open Octets

/-- An index below `n` moved on by one, wrapping around. -/
def advance (n i : ℕ) : ℕ := if i + 1 = n then 0 else i + 1

theorem advance_mod {n : ℕ} (hn : 0 < n) (i : ℕ) : advance n (i % n) = (i + 1) % n := by
  rw [← Nat.mod_add_mod i n 1, advance]
  split_ifs with hlast
  · rw [hlast, Nat.mod_self]
  · have hlt : i % n < n := Nat.mod_lt i hn
    exact (Nat.mod_eq_of_lt (by omega)).symm

/-- A ring buffer of `n` cells. -/
structure Ring (α : Type) (n : ℕ) where
  msg : Buffer α n
  r : ℕ
  w : ℕ
  count : ℕ
  r_lt : r < n
  count_le : count ≤ n
  w_eq : w = (r + count) % n

namespace Ring

variable {α : Type} [Inhabited α] {n : ℕ}

/-- The empty ring. -/
def empty (hn : 0 < n) : Ring α n where
  msg := .fill default
  r := 0
  w := 0
  count := 0
  r_lt := hn
  count_le := Nat.zero_le n
  w_eq := (Nat.zero_mod n).symm

/-- Append an entry; `none` when the ring is full. -/
def post (q : Ring α n) (a : α) : Option (Ring α n) :=
  if h : q.count = n then none
  else some
    { msg := q.msg.set q.w a
      r := q.r
      w := advance n q.w
      count := q.count + 1
      r_lt := q.r_lt
      count_le := Nat.lt_of_le_of_ne q.count_le h
      w_eq := by
        rw [q.w_eq, advance_mod (Nat.zero_lt_of_lt q.r_lt)]
        rfl }

/-- Take the oldest entry; `none` when the ring is empty. -/
def fetch (q : Ring α n) : Option (α × Ring α n) :=
  if h : q.count = 0 then none
  else some (q.msg.get q.r,
    { msg := q.msg
      r := advance n q.r
      w := q.w
      count := q.count - 1
      r_lt := by
        have hr := q.r_lt
        unfold advance
        split_ifs <;> omega
      count_le := Nat.le_trans (Nat.sub_le _ _) q.count_le
      w_eq := by
        have hr : advance n q.r = (q.r + 1) % n := by
          have hmod := advance_mod (Nat.zero_lt_of_lt q.r_lt) q.r
          rw [Nat.mod_eq_of_lt q.r_lt] at hmod
          exact hmod
        have hsum : q.r + 1 + (q.count - 1) = q.r + q.count := by omega
        rw [q.w_eq, hr, Nat.mod_add_mod, hsum] })

/-- The queue, oldest entry first. -/
def toList (q : Ring α n) : List α :=
  (List.range q.count).map fun k => q.msg.get ((q.r + k) % n)

@[simp]
theorem length_toList (q : Ring α n) : q.toList.length = q.count := by
  simp [toList]

@[simp]
theorem toList_empty (hn : 0 < n) : (empty hn : Ring α n).toList = [] := rfl

theorem length_toList_le (q : Ring α n) : q.toList.length ≤ n := by
  rw [length_toList]
  exact q.count_le

/-- The cells in use are not the one written next. -/
private theorem cell_ne {r k count : ℕ} (hr : r < n) (hk : k < count) (hcount : count < n) :
    (r + k) % n ≠ (r + count) % n := by
  have hwrap : ∀ i, i < 2 * n → i % n = if i < n then i else i - n := by
    intro i hi
    split_ifs with hlt
    · exact Nat.mod_eq_of_lt hlt
    · rw [Nat.mod_eq_sub_mod (Nat.not_lt.mp hlt)]
      exact Nat.mod_eq_of_lt (by omega)
  rw [hwrap (r + k) (by omega), hwrap (r + count) (by omega)]
  split_ifs <;> omega

/-- **Posting** appends. -/
theorem toList_post {q q' : Ring α n} {a : α} (h : q.post a = some q') :
    q'.toList = q.toList ++ [a] := by
  unfold post at h
  split_ifs at h with hfull
  obtain rfl := Option.some.inj h
  have hlt : q.count < n := Nat.lt_of_le_of_ne q.count_le hfull
  have hw : q.w < n := by
    rw [q.w_eq]
    exact Nat.mod_lt _ (Nat.zero_lt_of_lt hlt)
  have hlast : (q.msg.set q.w a).get ((q.r + q.count) % n) = a := by
    rw [← q.w_eq]
    exact q.msg.get_set_self hw a
  have hold : ∀ k ∈ List.range q.count, (q.msg.set q.w a).get ((q.r + k) % n) =
      q.msg.get ((q.r + k) % n) := by
    intro k hk
    have hne := cell_ne q.r_lt (List.mem_range.mp hk) hlt
    rw [← q.w_eq] at hne
    rcases Nat.lt_or_gt_of_ne hne with hbefore | hbehind
    · exact q.msg.get_write_of_lt [a] hbefore
    · exact q.msg.get_write_of_ge hbehind
  simp only [toList, List.range_succ, List.map_append, List.map_singleton, hlast]
  rw [List.map_congr_left hold]

theorem post_eq_none_iff {q : Ring α n} {a : α} : q.post a = none ↔ q.toList.length = n := by
  rw [length_toList]
  rcases Decidable.em (q.count = n) with hfull | hfull
  · exact iff_of_true (dif_pos hfull) hfull
  · refine iff_of_false ?_ hfull
    rw [post, dif_neg hfull]
    exact Option.some_ne_none _

/-- **Fetching** takes the first entry. -/
theorem toList_fetch {q q' : Ring α n} {a : α} (h : q.fetch = some (a, q')) :
    q.toList = a :: q'.toList := by
  unfold fetch at h
  split_ifs at h with hempty
  obtain ⟨rfl, rfl⟩ := Prod.mk.injEq .. ▸ Option.some.inj h
  obtain ⟨k, hk⟩ : ∃ k, q.count = k + 1 := Nat.exists_eq_succ_of_ne_zero hempty
  have hr : advance n q.r = (q.r + 1) % n := by
    have hmod := advance_mod (Nat.zero_lt_of_lt q.r_lt) q.r
    rw [Nat.mod_eq_of_lt q.r_lt] at hmod
    exact hmod
  simp only [toList, hk, List.range_succ_eq_map, List.map_cons, List.map_map, Nat.add_zero,
    Nat.mod_eq_of_lt q.r_lt, Nat.add_sub_cancel, hr]
  congr 1
  refine List.map_congr_left fun i _ => ?_
  simp only [Function.comp, Nat.mod_add_mod]
  congr 2
  omega

theorem fetch_eq_none_iff {q : Ring α n} : q.fetch = none ↔ q.toList = [] := by
  rw [← List.length_eq_zero_iff, length_toList]
  rcases Decidable.em (q.count = 0) with hempty | hempty
  · exact iff_of_true (dif_pos hempty) hempty
  · refine iff_of_false ?_ hempty
    rw [fetch, dif_neg hempty]
    exact Option.some_ne_none _

end Ring

end Rings

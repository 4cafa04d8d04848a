import IolHat.DataStorage.Replay
import Mathlib.Data.Nat.Find

/-!
# The answer that carries the index list

The loop that takes an index list apart counts in the octets it has consumed and never looks at
the length of the answer; the number of entries is assigned only where the loop meets the
termination entry. What an answer leaves behind is compared here with what the device has sent.

* `parse_cases`: the loop either meets the end of a list of fewer than 70 entries, or keeps the
  number of entries of an earlier upload.
* `listReadExactly_iff`: the octets of an answer decide what the upload goes through exactly if
  they begin with a terminated list of fewer than 70 entries.
-/

namespace IolHat

open Octets

namespace IndexList

/-- The entries an upload goes through. -/
def listed (list : IndexList) : List IndexEntry := list.entries.slice 0 list.count

theorem length_listed (list : IndexList) : list.listed.length = list.count := by
  refine list.entries.length_slice ?_
  rw [Buffer.Fits, Nat.zero_add]
  exact Nat.le_of_lt list.count_lt

/-- The entries are known from their number and from each of them. -/
theorem listed_eq {list : IndexList} {entries : List IndexEntry}
    (hcount : list.count = entries.length)
    (hget : ∀ j < entries.length, list.entries.get j = entries.getD j default) :
    list.listed = entries := by
  have hlen : list.listed.length = entries.length := by rw [length_listed, hcount]
  refine List.ext_getElem hlen fun j hj hj' => ?_
  have hcell : list.entries.get j = list.listed.getD j default :=
    Buffer.get_of_slice _ rfl (by rw [hcount]; exact hj')
  rw [hget j hj', List.getD_eq_getElem _ _ hj, List.getD_eq_getElem _ _ hj'] at hcell
  exact hcell.symm

/-! ### The two ways the loop can end -/

/-- The entries in front of a position, as the buffer has them. -/
def entriesBefore (data : Buffer Octet isduMaxSize) (i : ℕ) : List IndexEntry :=
  (List.range i).map fun j => ⟨indexAt data j, data.get (3 * j + 2)⟩

@[simp]
theorem length_entriesBefore (data : Buffer Octet isduMaxSize) (i : ℕ) :
    (entriesBefore data i).length = i := by
  simp [entriesBefore]

private theorem getD_entriesBefore {data : Buffer Octet isduMaxSize} {i j : ℕ} (hj : j < i) :
    (entriesBefore data i).getD j default = ⟨indexAt data j, data.get (3 * j + 2)⟩ := by
  rw [List.getD_eq_getElem _ _ (by rw [length_entriesBefore]; exact hj)]
  simp [entriesBefore]

/-- The termination entry stands at a position, and none stands before it. -/
structure TerminatesAt (data : Buffer Octet isduMaxSize) (i : ℕ) : Prop where
  last : indexAt data i = 0
  index_ne : ∀ j < i, indexAt data j ≠ 0

theorem TerminatesAt.holds {data : Buffer Octet isduMaxSize} {i : ℕ} (h : TerminatesAt data i) :
    Holds data (entriesBefore data i) := by
  refine ⟨fun j hj => ?_, fun j hj => ?_, fun j hj => ?_, ?_⟩
  · rw [getD_entriesBefore (length_entriesBefore data i ▸ hj)]
  · rw [getD_entriesBefore (length_entriesBefore data i ▸ hj)]
  · rw [length_entriesBefore] at hj
    rw [getD_entriesBefore hj]
    exact h.index_ne j hj
  · rw [length_entriesBefore]
    exact h.last

/-- One round of the loop that does not meet the termination entry. -/
private theorem parseFrom_more {data : Buffer Octet isduMaxSize} {n : ℕ}
    {hn : n + 1 ≤ dsIndexListMaxEntries} (list : IndexList)
    (hne : indexAt data (dsIndexListMaxEntries - (n + 1)) ≠ 0) :
    ∃ list' : IndexList, list'.count = list.count ∧
      list.parseFrom data (n + 1) hn = list'.parseFrom data n (Nat.le_of_succ_le hn) := by
  refine ⟨_, ?_, if_neg hne⟩
  rfl

/-- Without a termination entry the number of entries stays. -/
private theorem parseFrom_count {data : Buffer Octet isduMaxSize}
    (hne : ∀ j < 70, indexAt data j ≠ 0) (n : ℕ) (hn : n ≤ dsIndexListMaxEntries)
    (list : IndexList) : (list.parseFrom data n hn).count = list.count := by
  induction n generalizing list with
  | zero => rfl
  | succ n ih =>
    obtain ⟨list', hcount, hmore⟩ :=
      parseFrom_more list (hne _ (Nat.sub_lt (Nat.succ_pos 69) (Nat.succ_pos n)))
    rw [hmore, ih, hcount]

/-- **The two ways the loop can end.** -/
theorem parse_cases (data : Buffer Octet isduMaxSize) :
    (∃ i < 70, TerminatesAt data i) ∨
      ∀ list : IndexList, (list.parse data).count = list.count := by
  by_cases hzero : ∃ i, i < 70 ∧ indexAt data i = 0
  · -- the first termination entry
    have hfirst := Nat.find_spec hzero
    refine .inl ⟨Nat.find hzero, hfirst.1, hfirst.2, fun j hj heq => ?_⟩
    exact Nat.find_min hzero hj ⟨Nat.lt_trans hj hfirst.1, heq⟩
  · exact .inr fun list => parseFrom_count (fun j hj heq => hzero ⟨j, hj, heq⟩) _ _ list

/-! ### Lists in an answer -/

/-- An answer that begins with a list leaves it in the buffer. -/
theorem holds_of_prefix {c : ReadCnf} {entries : List IndexEntry}
    (h : indexListOctets entries <+: c.value) (hne : ∀ e ∈ entries, e.index ≠ 0) :
    Holds c.buffer entries := by
  have hlen : (indexListOctets entries).length ≤ c.len := by
    simpa [ReadCnf.length_value] using h.length_le
  -- the same octets, announced with the length of the list
  have hfront : c.buffer.slice 0 (indexListOctets entries).length = indexListOctets entries := by
    rw [← c.buffer.slice_of_slice hlen]
    exact (List.prefix_iff_eq_take.mp h).symm
  exact holds_of_value (c := ⟨c.errortype, some c.buffer, _, Nat.le_trans hlen c.len_le, nofun⟩)
    hfront hne

/-- The octets of an entry are the ones it has been put together from. -/
private theorem octets_entry (x y z : Octet) :
    IndexEntry.octets ⟨(x.toUInt16 <<< 8) + y.toUInt16, z⟩ = [x, y, z] := by
  have hx := x.toNat_lt
  have hy := y.toNat_lt
  have hsum : ((x.toUInt16 <<< 8) + y.toUInt16).toNat = 256 * x.toNat + y.toNat := by
    simp only [UInt16.toNat_add, UInt16.toNat_shiftLeft, UInt8.toNat_toUInt16,
      show (8 : UInt16).toNat % 16 = 8 from rfl, Nat.shiftLeft_eq]
    omega
  have hhi : (((x.toUInt16 <<< 8) + y.toUInt16) >>> 8).toUInt8 = x := by
    rw [← UInt8.toNat_inj, UInt16.toNat_toUInt8, UInt16.toNat_shiftRight, hsum,
      show (8 : UInt16).toNat % 16 = 8 from rfl, Nat.shiftRight_eq_div_pow]
    omega
  have hlo : ((x.toUInt16 <<< 8) + y.toUInt16).toUInt8 = y := by
    rw [← UInt8.toNat_inj, UInt16.toNat_toUInt8, hsum]
    omega
  rw [IndexEntry.octets, hhi, hlo]

/-- The octets of the entries in front of a position. -/
theorem octets_entriesBefore {data : Buffer Octet isduMaxSize} {i : ℕ} (hi : i ≤ 70) :
    (entriesBefore data i).flatMap IndexEntry.octets = data.slice 0 (3 * i) := by
  induction i with
  | zero => rfl
  | succ i ih =>
    have hsize : 3 * i + 2 < isduMaxSize := show 3 * i + 2 < 241 by omega
    have hlast : entriesBefore data (i + 1) =
        entriesBefore data i ++ [⟨indexAt data i, data.get (3 * i + 2)⟩] := by
      simp [entriesBefore, List.range_succ]
    have hoctets := octets_entry (data.get (3 * i)) (data.get (3 * i + 1)) (data.get (3 * i + 2))
    rw [hlast, List.flatMap_append, ih (Nat.le_of_succ_le hi), List.flatMap_singleton, indexAt,
      hoctets, Nat.mul_succ]
    rw [data.slice_zero_succ (k := 3 * i + 2) hsize,
      data.slice_zero_succ (k := 3 * i + 1) (Nat.lt_of_succ_lt hsize),
      data.slice_zero_succ (k := 3 * i) (Nat.lt_of_succ_lt (Nat.lt_of_succ_lt hsize))]
    simp

/-- The two octets of the termination entry. -/
theorem TerminatesAt.get_eq {data : Buffer Octet isduMaxSize} {i : ℕ} (h : TerminatesAt data i) :
    data.get (3 * i) = 0 ∧ data.get (3 * i + 1) = 0 := by
  have hzero := octets_entry (data.get (3 * i)) (data.get (3 * i + 1)) 0
  have hlast : ((data.get (3 * i)).toUInt16 <<< 8) + (data.get (3 * i + 1)).toUInt16 = 0 := h.last
  rw [hlast] at hzero
  exact ⟨(List.cons.inj hzero).1.symm, (List.cons.inj (List.cons.inj hzero).2).1.symm⟩

/-- The octets of a whole list, with its termination entry. -/
theorem TerminatesAt.octets {data : Buffer Octet isduMaxSize} {i : ℕ} (h : TerminatesAt data i)
    (hi : i ≤ 70) : indexListOctets (entriesBefore data i) = data.slice 0 (3 * i + 2) := by
  have hsize : 3 * i + 1 < isduMaxSize := show 3 * i + 1 < 241 by omega
  obtain ⟨h0, h1⟩ := h.get_eq
  rw [indexListOctets, octets_entriesBefore hi, data.slice_zero_succ hsize,
    data.slice_zero_succ (Nat.lt_of_succ_lt hsize), h0, h1]
  simp

/-- A list of fewer than 70 entries in the buffer is what the upload goes through. -/
theorem parse_of_holds {data : Buffer Octet isduMaxSize} {entries : List IndexEntry}
    (hd : Holds data entries) (h : entries.length < 70) (list : IndexList) :
    (list.parse data).count = entries.length ∧ (list.parse data).listed = entries := by
  obtain ⟨hcount, hget⟩ := parse_short hd h list
  exact ⟨hcount, listed_eq hcount hget⟩

/-- A buffer that holds a list of fewer than 70 entries holds no longer one. -/
theorem Holds.length_le {data : Buffer Octet isduMaxSize} {entries others : List IndexEntry}
    (hd : Holds data entries) (ho : Holds data others) : others.length ≤ entries.length := by
  refine Nat.not_lt.mp fun hlt => ?_
  refine ho.index_ne entries.length hlt ?_
  rw [← ho.index entries.length hlt]
  exact hd.last

end IndexList

/-! ### What an answer leaves behind -/

namespace Ds

/-- The machine waits for the index list of the device, after some run of the layer. -/
structure ReadsList (ds : Ds) : Prop where
  reached : Runs.Reaches step (fun _ _ => True) {} ds
  state : ds.state = .readParameter
  index : ds.currentIndex = dsParamIndex
  subindex : ds.currentSubindex = dsParamSubindexIndexList

/-- What the machine makes of an answer: the entries the upload goes through, nothing if the
upload has been left. -/
def listAfter (ds : Ds) (c : ReadCnf) : Option (List IndexEntry) :=
  if (ds.step (.readCnf c)).Uploading then some (ds.step (.readCnf c)).indexList.listed else none

/-- An answer with an error ends the upload. -/
theorem listAfter_of_error {ds : Ds} {c : ReadCnf} (h : ds.ReadsList)
    (herr : c.errortype ≠ SmiErrorType.none) : ds.listAfter c = none := by
  have hnot : ¬ (ds.step (.readCnf c)).Uploading := by
    rw [step_answer_error h.state herr]
    rintro (hstate | hstate) <;> cases hstate
  exact if_neg hnot

/-- Any other answer is taken apart, and the upload goes on with what the loop has left. -/
theorem listAfter_of_answer {ds : Ds} {c : ReadCnf} (h : ds.ReadsList)
    (herr : c.errortype = SmiErrorType.none) :
    (ds.step (.readCnf c)).indexList.count = (ds.indexList.parse c.buffer).count ∧
      ds.listAfter c = some (ds.indexList.parse c.buffer).listed := by
  have htake : ds.fresh.takeAnswer c = ds.fresh.modList fun list => list.parse c.buffer :=
    if_pos ⟨h.index, h.subindex⟩
  have hstate : (ds.fresh.takeAnswer c).state = .readParameter := by
    rw [htake]
    exact h.state
  have hstep := step_answer h.state herr
  rw [event_readDone hstate, htake] at hstep
  rw [listAfter, hstep]
  -- the list only changes in its position from here on
  split_ifs with hmore hup hup
  · exact ⟨rfl, rfl⟩
  · exact absurd (.inl rfl) hup
  · exact ⟨rfl, rfl⟩
  · exact absurd (.inr rfl) hup

/-- The octets of an answer decide what the upload goes through: a terminated list of at most 70
entries is taken as it is, and any other answer leaves the same whatever an earlier upload has
left in the list and whatever stands behind the answer in the receive buffer. -/
structure ListReadExactly (c : ReadCnf) : Prop where
  exact : ∀ entries : List IndexEntry, c.errortype = SmiErrorType.none → entries.length ≤ 70 →
    (∀ e ∈ entries, e.index ≠ 0) → indexListOctets entries <+: c.value →
    ∀ ds : Ds, ds.ReadsList → (ds.step (.readCnf c)).indexList.count = entries.length ∧
      ds.listAfter c = some entries
  determined : ∀ c' : ReadCnf, c'.errortype = c.errortype → c'.value = c.value →
    ∀ ds ds' : Ds, ds.ReadsList → ds'.ReadsList → ds.listAfter c = ds'.listAfter c'

/-- The octets of an answer begin with a list of fewer than 70 entries and its end. -/
def BeginsWithList (c : ReadCnf) : Prop :=
  ∃ entries : List IndexEntry, entries.length < 70 ∧ (∀ e ∈ entries, e.index ≠ 0) ∧
    indexListOctets entries <+: c.value

/-- The same answer in a receive buffer that holds `0xFF` behind it. -/
def padded (c : ReadCnf) : ReadCnf :=
  { c with data := some ((Buffer.fill 0xFF).write 0 c.value), null := nofun }

theorem value_padded (c : ReadCnf) : (padded c).value = c.value := by
  have hlen : c.value.length ≤ isduMaxSize := by
    rw [ReadCnf.length_value]
    exact c.len_le
  have hslice := (Buffer.fill 0xFF : Buffer Octet isduMaxSize).slice_zero_write hlen
  rwa [ReadCnf.length_value] at hslice

/-- Behind the answer the padded buffer has no termination entry. -/
theorem beginsWithList_of_terminates {c : ReadCnf} {i : ℕ} (hi : i < 70)
    (h : IndexList.TerminatesAt (padded c).buffer i) : BeginsWithList c := by
  have hoctets := h.octets (Nat.le_of_lt hi)
  have hinside : 3 * i + 2 ≤ c.len := by
    refine Nat.not_lt.mp fun hlt => ?_
    have hsize : 3 * i + 1 < isduMaxSize := show 3 * i + 1 < 241 by omega
    have hbehind : (padded c).buffer.get (3 * i + 1) = 0xFF := by
      refine (Buffer.get_write_of_ge _ ?_).trans (Buffer.get_fill _ hsize)
      rw [ReadCnf.length_value]
      omega
    rw [h.get_eq.2] at hbehind
    exact absurd hbehind (by decide)
  refine ⟨IndexList.entriesBefore (padded c).buffer i, ?_, ?_, ?_⟩
  · rw [IndexList.length_entriesBefore]
    exact hi
  · intro e he
    obtain ⟨j, hj, rfl⟩ := List.mem_map.mp he
    exact h.index_ne j (List.mem_range.mp hj)
  · rw [hoctets, ← value_padded c]
    exact (padded c).buffer.slice_of_slice hinside ▸ List.take_prefix _ _

/-- The list of an earlier upload: none, or one entry. -/
theorem readsList_startUpload : beforeUpload.startUpload.ReadsList ∧
    beforeSecondUpload.startUpload.ReadsList := by
  have hfirst : Runs.Reaches step (fun _ _ => True) {} beforeUpload := Runs.reaches_run_true _ _
  have hsecond : Runs.Reaches step (fun _ _ => True) {} beforeSecondUpload :=
    hfirst.trans (Runs.reaches_run_true _ _)
  refine ⟨⟨hfirst.next _ trivial, ?_, ?_, ?_⟩, ⟨hsecond.next _ trivial, ?_, ?_, ?_⟩⟩ <;>
    decide +kernel

/-- Of an answer with an error nothing is taken. -/
theorem listReadExactly_of_error {c : ReadCnf} (herr : c.errortype ≠ SmiErrorType.none) :
    ListReadExactly c := by
  refine ⟨fun _ hnone => absurd hnone herr, fun c' herr' _ ds ds' hds hds' => ?_⟩
  rw [listAfter_of_error hds herr, listAfter_of_error hds' (herr' ▸ herr)]

/-- A terminated list of fewer than 70 entries is taken as it is. -/
theorem listReadExactly_of_list {c : ReadCnf} {entries : List IndexEntry}
    (hlt : entries.length < 70) (hne : ∀ e ∈ entries, e.index ≠ 0)
    (hpre : indexListOctets entries <+: c.value) : ListReadExactly c := by
  have hd := IndexList.holds_of_prefix hpre hne
  refine ⟨fun others herr _ hne' hpre' ds hds => ?_, fun c' herr' hvalue ds ds' hds hds' => ?_⟩
  · have ho := IndexList.holds_of_prefix hpre' hne'
    have hshort := Nat.lt_of_le_of_lt (hd.length_le ho) hlt
    obtain ⟨hcount, hlist⟩ := IndexList.parse_of_holds ho hshort ds.indexList
    obtain ⟨hcount', hlist'⟩ := listAfter_of_answer hds herr
    exact ⟨hcount'.trans hcount, hlist'.trans (congrArg some hlist)⟩
  · by_cases herr : c.errortype = SmiErrorType.none
    · have hd' := IndexList.holds_of_prefix (hvalue ▸ hpre) hne
      rw [(listAfter_of_answer hds herr).2, (listAfter_of_answer hds' (herr'.trans herr)).2,
        (IndexList.parse_of_holds hd hlt _).2, (IndexList.parse_of_holds hd' hlt _).2]
    · rw [listAfter_of_error hds herr, listAfter_of_error hds' (herr' ▸ herr)]

/-- **When an index list is read exactly.** The octets of an answer decide what the upload goes
through exactly if the answer is an error or begins with a terminated list of fewer than 70
entries. -/
theorem listReadExactly_iff (c : ReadCnf) :
    ListReadExactly c ↔ c.errortype ≠ SmiErrorType.none ∨ BeginsWithList c := by
  constructor
  · intro h
    by_contra hnot
    obtain ⟨herr, hopen⟩ := not_or.mp hnot
    have herr : c.errortype = SmiErrorType.none := Decidable.not_not.mp herr
    -- the same octets, read after an upload with no entry and after one with one entry
    obtain ⟨hds, hds'⟩ := readsList_startUpload
    have hstays := (IndexList.parse_cases (padded c).buffer).resolve_left
      fun ⟨i, hi, hterm⟩ => hopen (beginsWithList_of_terminates hi hterm)
    have hsame := h.determined (padded c) rfl (value_padded c)
    have heq := (hsame _ _ hds hds).symm.trans (hsame _ _ hds hds')
    rw [(listAfter_of_answer (c := padded c) hds herr).2,
      (listAfter_of_answer (c := padded c) hds' herr).2] at heq
    have hlen := congrArg List.length (Option.some.inj heq)
    rw [IndexList.length_listed, IndexList.length_listed, hstays, hstays] at hlen
    exact absurd hlen (by decide +kernel)
  · rintro (herr | ⟨entries, hlt, hne, hpre⟩)
    · exact listReadExactly_of_error herr
    · exact listReadExactly_of_list hlt hne hpre

/-- **Seventy entries are not counted.** The list fits the array of the index list and is sent
with its termination entry, and the upload goes through none of its entries. -/
theorem seventy_entries_are_not_counted : ¬ ListReadExactly listOf70Entries := by
  intro h
  have hread := h.exact (someEntries 70) rfl (by decide) (by decide +kernel)
    (by decide +kernel) _ readsList_startUpload.1
  exact absurd hread.1 (by decide +kernel)

end Ds

end IolHat

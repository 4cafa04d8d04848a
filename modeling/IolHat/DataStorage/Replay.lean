import IolHat.DataStorage.Upload

/-!
# When a download replays an upload

A set that has been uploaded is meant to be written back later, parameter by parameter. Both
directions are followed here through the whole exchange with the device.

* `parse_short` and `parse_long`: what the machine makes of a received index list. A list of 70
  entries or more leaves the number of entries at its old value.
* `download_trace`: the requests of a download are those of the stored records, followed by
  `DL_END`.
* `download_replays_iff`: the download restores every parameter of the index list exactly if the
  list has fewer than 70 entries, none of them is the index list itself, and the records fit the
  array. In every other case the set is marked valid all the same.
-/

namespace IolHat

open Octets

/-! ### Index lists -/

/-- One entry of an index list as the device sends it. -/
def IndexEntry.octets (e : IndexEntry) : List Octet :=
  [(e.index >>> 8).toUInt8, e.index.toUInt8, e.subindex]

/-- An index list with its termination entry. -/
def indexListOctets (entries : List IndexEntry) : List Octet :=
  entries.flatMap IndexEntry.octets ++ [0, 0]

theorem indexListOctets_cons (e : IndexEntry) (es : List IndexEntry) :
    indexListOctets (e :: es) = e.octets ++ indexListOctets es := by
  simp [indexListOctets]

theorem drop_indexListOctets {entries : List IndexEntry} {j : ℕ} (h : j ≤ entries.length) :
    (indexListOctets entries).drop (3 * j) = indexListOctets (entries.drop j) := by
  induction j generalizing entries with
  | zero => simp
  | succ j ih =>
    rcases entries with _ | ⟨e, es⟩
    · simp at h
    · have hlen : e.octets.length = 3 := rfl
      rw [indexListOctets_cons, List.drop_succ_cons, ← ih (Nat.le_of_succ_le_succ h), ← hlen,
        Nat.mul_succ, Nat.add_comm, List.drop_length_add_append]

namespace IndexList

/-- The index of entry `j` in a received list. -/
def indexAt (data : Buffer Octet isduMaxSize) (j : ℕ) : UInt16 :=
  ((data.get (3 * j)).toUInt16 <<< 8) + (data.get (3 * j + 1)).toUInt16

/-- The buffer holds an index list of these entries. -/
structure Holds (data : Buffer Octet isduMaxSize) (entries : List IndexEntry) : Prop where
  index : ∀ j < entries.length, indexAt data j = (entries.getD j default).index
  subindex : ∀ j < entries.length, data.get (3 * j + 2) = (entries.getD j default).subindex
  index_ne : ∀ j < entries.length, (entries.getD j default).index ≠ 0
  last : indexAt data entries.length = 0

/-- An answer that consists of an index list. -/
theorem holds_of_value {c : ReadCnf} {entries : List IndexEntry}
    (h : c.value = indexListOctets entries) (hne : ∀ e ∈ entries, e.index ≠ 0) :
    Holds c.buffer entries := by
  have hlen : c.len = (indexListOctets entries).length := by rw [← h, ReadCnf.length_value]
  -- a cell of entry `j` is a cell of the list that begins there
  have hcell (j r : ℕ) (hj : j ≤ entries.length)
      (hr : r < (indexListOctets (entries.drop j)).length) :
      c.buffer.get (3 * j + r) = (indexListOctets (entries.drop j)).getD r default := by
    rw [← drop_indexListOctets hj] at hr ⊢
    rw [List.length_drop] at hr
    rw [Buffer.get_of_slice _ h (by omega)]
    simp [List.getD_eq_getElem?_getD, List.getElem?_drop]
  have hentry (j : ℕ) (hj : j < entries.length) :
      indexListOctets (entries.drop j) = (entries.getD j default).octets ++
        indexListOctets (entries.drop (j + 1)) := by
    rw [List.drop_eq_getElem_cons hj, indexListOctets_cons, List.getD_eq_getElem _ _ hj]
  have hlong (j r : ℕ) (hj : j < entries.length) (hr : r < 3) :
      c.buffer.get (3 * j + r) = (entries.getD j default).octets.getD r default := by
    have hlen3 : (entries.getD j default).octets.length = 3 := rfl
    rw [hcell j r (Nat.le_of_lt hj) (by rw [hentry j hj, List.length_append]; omega), hentry j hj]
    exact List.getD_append _ _ _ _ (by omega)
  have hnil : indexListOctets (entries.drop entries.length) = [0, 0] := by
    rw [List.drop_length]; rfl
  refine ⟨fun j hj => ?_, fun j hj => hlong j 2 hj (by decide), fun j hj => ?_, ?_⟩
  · have h0 := hlong j 0 hj (by decide)
    have h1 := hlong j 1 hj (by decide)
    rw [Nat.add_zero] at h0
    rw [indexAt, h0, h1]
    exact Ds.index_octets _
  · rw [List.getD_eq_getElem _ _ hj]
    exact hne _ (List.getElem_mem hj)
  · have h0 := hcell entries.length 0 (Nat.le_refl _) (by rw [hnil]; decide)
    have h1 := hcell entries.length 1 (Nat.le_refl _) (by rw [hnil]; decide)
    rw [hnil] at h0 h1
    rw [Nat.add_zero] at h0
    rw [indexAt, h0, h1]
    rfl

/-- Parsing does not touch the position. -/
@[simp]
theorem parse_pos (list : IndexList) (data : Buffer Octet isduMaxSize) :
    (list.parse data).pos = list.pos := by
  suffices h : ∀ (n : ℕ) (hn : n ≤ dsIndexListMaxEntries) (list : IndexList),
      (list.parseFrom data n hn).pos = list.pos from h _ _ list
  intro n
  induction n with
  | zero => exact fun _ _ => rfl
  | succ n ih =>
    intro hn list
    simp only [parseFrom]
    split_ifs
    · rfl
    · exact ih _ _

/-- The loop over a received list, `n` entries before the end of the array: the entries in front
are stored already. -/
private theorem parseFrom_spec {data : Buffer Octet isduMaxSize} {entries : List IndexEntry}
    (hd : Holds data entries) (n : ℕ) (hn : n ≤ dsIndexListMaxEntries) (list : IndexList)
    (hi : 70 - n ≤ entries.length)
    (hfront : ∀ j < 70 - n, list.entries.get j = entries.getD j default) :
    (70 ≤ entries.length → (list.parseFrom data n hn).count = list.count) ∧
    (entries.length < 70 → (list.parseFrom data n hn).count = entries.length ∧
      ∀ j < entries.length, (list.parseFrom data n hn).entries.get j = entries.getD j default) := by
  induction n generalizing list with
  | zero =>
    refine ⟨fun _ => rfl, fun hlt => ?_⟩
    omega
  | succ n ih =>
    have h70 : n + 1 ≤ 70 := hn
    obtain ⟨i, hin⟩ : ∃ i, i = 70 - (n + 1) := ⟨_, rfl⟩
    have hindex : ((data.get (3 * (70 - (n + 1)))).toUInt16 <<< 8) +
        (data.get (3 * (70 - (n + 1)) + 1)).toUInt16 = indexAt data (70 - (n + 1)) := rfl
    simp only [parseFrom, dsIndexListMaxEntries, hindex]
    rw [← hin] at hi hfront
    simp only [← hin]
    rcases Nat.lt_or_eq_of_le hi with hlt | heq
    · -- one more entry
      rw [hd.index i hlt, if_neg (hd.index_ne i hlt), hd.subindex i hlt]
      refine ih _ _ (by omega) fun j hjn => ?_
      by_cases hlast : j = i
      · subst hlast
        exact Buffer.get_set_self _ (show j < 70 by omega) _
      · exact (Buffer.get_write_of_lt _ _ (by omega)).trans (hfront j (by omega))
    · -- the termination entry
      have hlast : indexAt data i = 0 := heq ▸ hd.last
      rw [if_pos hlast]
      exact ⟨fun hle => by omega, fun _ => ⟨heq, fun j hj => hfront j (by omega)⟩⟩

variable {data : Buffer Octet isduMaxSize} {entries : List IndexEntry}

/-- A list of fewer than 70 entries is taken as it is. -/
theorem parse_short (hd : Holds data entries) (h : entries.length < 70) (list : IndexList) :
    (list.parse data).count = entries.length ∧
      ∀ j < entries.length, (list.parse data).entries.get j = entries.getD j default :=
  (parseFrom_spec hd 70 (Nat.le_refl _) list (Nat.zero_le _) nofun).2 h

/-- A longer list leaves the number of entries as it was. -/
theorem parse_long (hd : Holds data entries) (h : 70 ≤ entries.length) (list : IndexList) :
    (list.parse data).count = list.count :=
  (parseFrom_spec hd 70 (Nat.le_refl _) list (Nat.zero_le _) nofun).1 h

end IndexList

/-! ### The account of an answered upload -/

namespace Upload

/-- The account after a sequence of answers. -/
def answers (u : Upload) (values : List ReadCnf) : Upload := values.foldl answer u

/-- Every answer arrives while a parameter is asked for. -/
def Waiting : Upload → List ReadCnf → Prop
  | _, [] => True
  | u, c :: cs => u.complete = false ∧ Waiting (u.answer c) cs

/-- What holds of every account: the index list itself is never stored, and the position has
not run past the entries. -/
structure Sound (u : Upload) : Prop where
  notList : ∀ r ∈ u.records, ⟨r.index, r.subindex⟩ ≠ indexListEntry
  pos_lt : u.complete = false → u.list.pos < dsIndexListMaxEntries
  fits : (encodeAll u.records).length ≤ dsMaxSize

theorem sound_start (list : IndexList) : (start list).Sound :=
  ⟨nofun, fun _ => Nat.succ_pos 69, Nat.zero_le _⟩

/-- Asking for the next entry. -/
theorem sound_next {u : Upload} (hlist : ∀ r ∈ u.records, ⟨r.index, r.subindex⟩ ≠ indexListEntry)
    (hfits : (encodeAll u.records).length ≤ dsMaxSize) : u.next.Sound := by
  refine ⟨by rwa [next_records], fun hc => ?_, by rwa [next_records]⟩
  rw [next] at hc ⊢
  split_ifs at hc ⊢ with hmore
  have hcount := u.list.count_lt
  exact Nat.lt_of_le_of_lt hmore hcount

theorem sound_answer {u : Upload} (h : u.Sound) (c : ReadCnf) : (u.answer c).Sound := by
  rw [answer]
  split_ifs with hc hasked
  · exact h
  · exact sound_next h.notList h.fits
  · refine sound_next ?_ (length_store_le h.fits c)
    rw [store]
    split_ifs
    · intro r hr
      rcases List.mem_append.mp hr with hr | hr
      · exact h.notList r hr
      · rw [List.mem_singleton.mp hr]
        exact hasked
    · exact h.notList

theorem sound_answers {u : Upload} (h : u.Sound) (values : List ReadCnf) :
    (u.answers values).Sound := by
  induction values generalizing u with
  | nil => exact h
  | cons c cs ih => exact ih (sound_answer h c)

@[simp] theorem store_list (u : Upload) (c : ReadCnf) : (u.store c).list = u.list := by
  rw [store]; split <;> rfl

@[simp]
theorem store_complete (u : Upload) (c : ReadCnf) : (u.store c).complete = u.complete := by
  rw [store]; split <;> rfl

/-- Asking for another entry moves the position on. -/
theorem next_pos {u : Upload} (h : u.next.complete = false) :
    u.next.list.pos = u.list.pos + 1 := by
  rw [next] at h ⊢
  split_ifs at h ⊢
  rfl

/-- The position moves on with every answer to an upload that then goes on. -/
theorem pos_answer {u : Upload} {c : ReadCnf} (hc : u.complete = false)
    (hnext : (u.answer c).complete = false) : (u.answer c).list.pos = u.list.pos + 1 := by
  rw [answer, if_neg (Bool.eq_false_iff.mp hc)] at hnext ⊢
  split_ifs at hnext ⊢ with hasked
  · rw [next_pos hnext, IndexList.parse_pos]
  · rw [next_pos hnext, store_list]

/-- There are no more answers than the array of entries has room for. -/
theorem Waiting.length_le {u : Upload} {c : ReadCnf} {cs : List ReadCnf}
    (hw : u.Waiting (c :: cs)) (h : u.Sound) :
    u.list.pos + (c :: cs).length ≤ dsIndexListMaxEntries := by
  induction cs generalizing u c with
  | nil => exact h.pos_lt hw.1
  | cons c' cs ih =>
    have hpos := pos_answer hw.1 hw.2.1
    have hrest := ih hw.2 (sound_answer h c)
    rw [hpos] at hrest
    simp only [List.length_cons] at hrest ⊢
    omega

/-- Each answer stores at most one record. -/
theorem length_records_answers (u : Upload) (values : List ReadCnf) :
    (u.answers values).records.length ≤ u.records.length + values.length := by
  induction values generalizing u with
  | nil => exact Nat.le_refl _
  | cons c cs ih =>
    have hone : (u.answer c).records.length ≤ u.records.length + 1 := by
      rw [answer]
      split_ifs
      · omega
      · simp
      · rw [next_records, store]
        split_ifs <;> simp
    have hrest := ih (u.answer c)
    simp only [answers, List.foldl_cons, List.length_cons] at hrest ⊢
    omega

/-- How many octets the records of these values take. -/
def encodedSize : List ReadCnf → ℕ
  | [] => 0
  | c :: cs => 4 + c.len + encodedSize cs

/-- The index list holds these entries, and the first `k` have been asked for. -/
structure Listed (entries : List IndexEntry) (u : Upload) (k : ℕ) : Prop where
  complete : u.complete = false
  count : u.list.count = entries.length
  entry : ∀ j < entries.length, u.list.entries.get j = entries.getD j default
  pos : u.list.pos = k
  pos_le : k ≤ entries.length

/-- **An upload without surprises.** When the index list is never read again and all records
fit, the answers are stored in the order of the list, one for each entry. -/
theorem answers_of_listed {entries : List IndexEntry} (hne : ∀ e ∈ entries, e ≠ indexListEntry)
    {values : List ReadCnf} {u : Upload} {k : ℕ} (h : u.Listed entries k)
    (hw : u.next.Waiting values) (hend : (u.next.answers values).complete = true)
    (hfits : (encodeAll u.records).length + encodedSize values ≤ dsMaxSize) :
    values.length = entries.length - k ∧
      (u.next.answers values).records =
        u.records ++ List.zipWith Ds.recordOf (entries.drop k) values := by
  induction values generalizing u k with
  -- All values have been read, so nothing of the list is left.
  | nil =>
    have hk : ¬ k < entries.length := by
      intro hlt
      simp [answers, next, h.pos, h.count, hlt, h.complete] at hend
    simp [answers, next_records]
    omega
  | cons c cs ih =>
    have hlt : k < entries.length := by
      by_contra hle
      have hcomplete := hw.1
      simp [next, h.pos, h.count, hle] at hcomplete
    have hnext : u.next = { u with
        asked := entries.getD k default, list := { u.list with pos := k + 1 } } := by
      rw [next, h.pos, h.count, if_pos hlt, h.entry k hlt]
    have hentry : entries.getD k default = entries[k] := List.getD_eq_getElem _ _ hlt
    have hask : u.next.asked ≠ indexListEntry := by
      rw [hnext, hentry]
      exact hne _ (List.getElem_mem hlt)
    have hanswer : u.next.answer c = (u.next.store c).next := by
      rw [answer, if_neg (Bool.eq_false_iff.mp hw.1), if_neg hask]
    -- The room for the rest is room for this value.
    have hroom : (encodeAll u.next.records).length + (4 + c.len) ≤ dsMaxSize := by
      rw [next_records]
      simp only [encodedSize] at hfits
      omega
    have hstore : (u.next.store c).records = u.records ++ [Ds.recordOf entries[k] c] := by
      rw [store, if_pos hroom, hnext, hentry]
    have hlisted : (u.next.store c).Listed entries (k + 1) := by
      refine ⟨by rw [store_complete]; exact hw.1, ?_, ?_, ?_, hlt⟩ <;>
        rw [store_list, hnext]
      exacts [h.count, h.entry]
    obtain ⟨hlen, hrecords⟩ := ih hlisted (hanswer ▸ hw.2)
      (by rw [← hanswer]; exact hend) (by
        rw [hstore]
        simp only [encodeAll_append, encodeAll_cons, encodeAll_nil, List.append_nil,
          List.length_append, Record.length_encode, Ds.recordOf, ReadCnf.length_value,
          encodedSize] at hfits ⊢
        omega)
    refine ⟨by rw [List.length_cons, hlen]; omega, ?_⟩
    rw [List.drop_eq_getElem_cons hlt, List.zipWith_cons_cons]
    calc (u.next.answers (c :: cs)).records
        = ((u.next.store c).next.answers cs).records := by
          rw [← hanswer]; rfl
      _ = u.records ++ [Ds.recordOf entries[k] c] ++
            List.zipWith Ds.recordOf (entries.drop (k + 1)) cs := by rw [hrecords, hstore]
      _ = _ := by rw [List.append_assoc]; rfl

end Upload

namespace Ds

/-! ### Answered uploads -/

/-- The state when the index list has been answered. -/
def afterList (ds : Ds) (list : ReadCnf) : Ds := ds.startUpload.step (.readCnf list)

/-- The state when all parameters have been answered. -/
def afterValues (ds : Ds) (list : ReadCnf) (values : List ReadCnf) : Ds :=
  Runs.run step (ds.afterList list) (values.map .readCnf)

/-- The state at the end of the upload: the checksum has been answered and the end confirmed. -/
def afterUpload (ds : Ds) (list : ReadCnf) (values : List ReadCnf) (checksum : ReadCnf) : Ds :=
  ((ds.afterValues list values).step (.readCnf checksum)).step (.writeCnf SmiErrorType.none)

/-- A device that answers an upload: the index list, each parameter it is asked for, and the
checksum when there is nothing more to ask. -/
structure UploadSession (ds : Ds) (list : ReadCnf) (values : List ReadCnf) (checksum : ReadCnf) :
    Prop where
  start : ds.state = .checkUpload ∨ ds.state = .checkDsValidity
  list_ok : list.errortype = SmiErrorType.none
  values_ok : ∀ c ∈ values, c.errortype = SmiErrorType.none
  asked : Runs.Admissible step (fun ds _ => ds.state = .readParameter) (ds.afterList list)
    (values.map .readCnf)
  finished : (ds.afterValues list values).state = .storeDataSet
  checksum_ok : checksum.errortype ≠ SmiErrorType.comErr
  checksum_len : 4 ≤ checksum.len

/-- The account of the upload once the index list has been answered. -/
def listAccount (ds : Ds) (list : ReadCnf) : Upload := (Upload.start ds.indexList).answer list

/-- Answered parameters, in the machine and in the account. -/
private theorem follows_values {m₀ : MasterDs} {ds : Ds} {u : Upload} (h : ds.Follows m₀ u)
    {values : List ReadCnf} (hok : ∀ c ∈ values, c.errortype = SmiErrorType.none)
    (hasked : Runs.Admissible step (fun ds _ => ds.state = .readParameter) ds
      (values.map .readCnf)) :
    u.Waiting values ∧ (Runs.run step ds (values.map .readCnf)).Follows m₀ (u.answers values) := by
  induction values generalizing ds u with
  | nil => exact ⟨trivial, h⟩
  | cons c cs ih =>
    have hc : u.complete = false := by rw [h.complete_eq, hasked.1]; rfl
    have hstep : (ds.step (.readCnf c)).Follows m₀ (u.answer c) := by
      rw [step_answer hasked.1 (hok c List.mem_cons_self)]
      exact h.answered c hc
    obtain ⟨hw, hfollows⟩ := ih hstep (fun d hd => hok d (List.mem_cons_of_mem c hd)) hasked.2
    exact ⟨⟨hc, hw⟩, hfollows⟩

namespace UploadSession

variable {ds : Ds} {list checksum : ReadCnf} {values : List ReadCnf}

/-- The account of an answered upload. -/
theorem account (h : ds.UploadSession list values checksum) :
    (ds.listAccount list).Waiting values ∧
      (ds.afterValues list values).Follows ds.masterDs ((ds.listAccount list).answers values) := by
  have hstart := startUpload_follows h.start
  have hlist : (ds.afterList list).Follows ds.masterDs (ds.listAccount list) := by
    rw [afterList, step_answer hstart.state h.list_ok]
    exact hstart.answered list rfl
  exact follows_values hlist h.values_ok h.asked

/-- The list is exhausted at the end. -/
theorem complete (h : ds.UploadSession list values checksum) :
    ((ds.listAccount list).answers values).complete = true := by
  rw [h.account.2.complete_eq, h.finished]
  rfl

theorem sound (ds : Ds) (list : ReadCnf) (values : List ReadCnf) :
    ((ds.listAccount list).answers values).Sound :=
  Upload.sound_answers (Upload.sound_answer (Upload.sound_start _) _) _

/-- **What an answered upload leaves.** The set is valid and consists of the account's records. -/
theorem stored (h : ds.UploadSession list values checksum) :
    (ds.afterUpload list values checksum).masterDs.valid = true ∧
      (ds.afterUpload list values checksum).masterDs.stored =
        encodeAll ((ds.listAccount list).answers values).records ∧
      (ds.afterUpload list values checksum).masterDs.size =
        (encodeAll ((ds.listAccount list).answers values).records).length := by
  have hfollows := h.account.2.waits
    (step_checksum h.finished h.checksum_ok h.checksum_len)
  have hstate := hfollows.state
  rw [h.complete] at hstate
  have hmaster := hfollows.masterDs
  rw [h.complete, if_pos rfl] at hmaster
  have hend : (ds.afterUpload list values checksum).masterDs =
      ((ds.afterValues list values).step (.readCnf checksum)).acceptSet.masterDs := by
    rw [afterUpload, step_ulEnd hstate, event_ulDone ((acceptSet_state _).trans hstate)]
    rfl
  simp only [hend, acceptSet, modMaster_masterDs, fresh_masterDs, hmaster, MasterDs.stored]
  exact ⟨trivial, Buffer.slice_zero_write _ (sound ds list values).fits, trivial⟩

/-- There are at most 69 values. -/
theorem length_values_lt (h : ds.UploadSession list values checksum) :
    values.length < dsIndexListMaxEntries := by
  rcases values with _ | ⟨c, cs⟩
  · exact Nat.succ_pos 69
  · have hw := h.account.1
    have hsound := Upload.sound_answer (Upload.sound_start ds.indexList) list
    have hpos : (ds.listAccount list).list.pos = 1 := Upload.pos_answer rfl hw.1
    have hle := hw.length_le hsound
    rw [hpos] at hle
    omega

end UploadSession

/-! ### Downloads -/

/-- The request for the end of a download. -/
def dlEndReq : DsCall (List Octet) :=
  .alWriteReq dsParamIndex dsParamSubindexCmd [DsCommand.dlEnd.code]

/-- The request for the device's checksum. -/
def checksumReq : DsCall (List Octet) := .alReadReq dsParamIndex dsParamSubindexChecksum

/-- A device that confirms every write request. -/
def confirmations (n : ℕ) : List DsInput := List.replicate n (.writeCnf SmiErrorType.none)

/-- The octets from the position on are these records, and the set ends behind them. -/
structure Restoring (ds : Ds) (rs : List Record) : Prop where
  data : ds.masterDs.data.slice ds.masterDs.pos (encodeAll rs).length = encodeAll rs
  size : ds.masterDs.size = ds.masterDs.pos + (encodeAll rs).length

/-- The machine writes the next record, or ends the download. -/
def proceed (ds : Ds) : Ds :=
  if ds.masterDs.size ≤ ds.masterDs.pos then (ds.enter .downloadDone).alWriteDsCmdReq .dlEnd
  else (ds.enter .writeParameter).writeParam

/-- T38, then T37 or T41. -/
theorem event_wrDone {ds : Ds} (h : ds.state = .writeParameter) :
    ds.event .wrDone = (ds.enter .decomposeSet).proceed := by
  have hrow : fsm.row ds .wrDone = some ⟨.wrDone, .decomposeSet, .decomposeSet⟩ :=
    Fsm.Machine.row_of_state h rfl
  have hround : fsm.round ⟨.wrDone, .decomposeSet, .decomposeSet⟩ ds .wrDone =
      (ds.enter .decomposeSet,
        if ds.masterDs.size ≤ ds.masterDs.pos then .dlDone else .moreData) := rfl
  rw [proceed]
  simp only [enter_masterDs]
  split_ifs at hround ⊢
  · exact Fsm.Machine.drive_of_rows hrow hround (by decide) (Fsm.Machine.row_of_state rfl rfl) rfl
  · exact Fsm.Machine.drive_of_rows hrow hround (by decide) (Fsm.Machine.row_of_state rfl rfl) rfl

/-- T24, then T37 or T41. -/
theorem event_download {ds : Ds} (h : ds.state = .decomposeSet) :
    ds.event .download =
      ((ds.enter .decomposeSet).modMaster ({ · with pos := 0 })).proceed := by
  have hrow : fsm.row ds .download = some ⟨.download, .decomposeSet, .decomposeSet⟩ :=
    Fsm.Machine.row_of_state h rfl
  have hround : fsm.round ⟨.download, .decomposeSet, .decomposeSet⟩ ds .download =
      ((ds.enter .decomposeSet).modMaster ({ · with pos := 0 }),
        if ds.masterDs.size ≤ 0 then .dlDone else .moreData) := rfl
  rw [proceed]
  simp only [modMaster_masterDs, enter_masterDs]
  split_ifs at hround ⊢
  · exact Fsm.Machine.drive_of_rows hrow hround (by decide) (Fsm.Machine.row_of_state rfl rfl) rfl
  · exact Fsm.Machine.drive_of_rows hrow hround (by decide) (Fsm.Machine.row_of_state rfl rfl) rfl

/-- The next confirmation lets the machine write the first of these records. -/
def Restores (ds : Ds) (rs : List Record) : Prop :=
  ds.state = .writeParameter ∧ ds.Restoring rs ∨
    ds.state = .decomposeSet ∧ (ds.modMaster ({ · with pos := 0 })).Restoring rs

/-- A confirmation moves a download on. -/
private theorem step_of_restores {ds : Ds} {rs : List Record} (h : ds.Restores rs) :
    ∃ ds' : Ds, ds'.calls = [] ∧ ds'.Restoring rs ∧
      ds.step (.writeCnf SmiErrorType.none) = ds'.proceed := by
  rcases h with ⟨hstate, hrs⟩ | ⟨hstate, hrs⟩
  · have hfresh : ds.fresh.state = .writeParameter := hstate
    refine ⟨ds.fresh.enter .decomposeSet, rfl, ⟨hrs.data, hrs.size⟩, ?_⟩
    rw [← event_wrDone hfresh]
    show ds.fresh.writeCnfCb SmiErrorType.none = _
    simp [writeCnfCb, hstate]
  · have hfresh : ds.fresh.state = .decomposeSet := hstate
    refine ⟨(ds.fresh.enter .decomposeSet).modMaster ({ · with pos := 0 }), rfl,
      ⟨hrs.data, hrs.size⟩, ?_⟩
    rw [← event_download hfresh]
    show ds.fresh.writeCnfCb SmiErrorType.none = _
    simp [writeCnfCb, hstate]

/-- With a record left, its write request is sent. -/
theorem outputs_restores_cons {ds : Ds} {r : Record} {rs : List Record}
    (h : ds.Restores (r :: rs)) :
    ds.outputs (.writeCnf SmiErrorType.none) = [r.write] ∧
      (ds.step (.writeCnf SmiErrorType.none)).Restores rs := by
  obtain ⟨ds', hcalls, hrs, hstep⟩ := step_of_restores h
  have hmore : ¬ ds'.masterDs.size ≤ ds'.masterDs.pos := by
    rw [hrs.size, encodeAll_cons, List.length_append, Record.length_encode]
    omega
  obtain ⟨hrecord, hrest⟩ := Buffer.slice_eq_append hrs.data
  have hrecord' : (ds'.enter .writeParameter).masterDs.data.slice
      (ds'.enter .writeParameter).masterDs.pos r.encode.length = r.encode := hrecord
  obtain ⟨hwrite, hvalue⟩ := writeParam_of_record hrecord'
  have hproceed : ds'.proceed = (ds'.enter .writeParameter).writeParam := if_neg hmore
  rw [outputs, hstep, hproceed, hwrite]
  constructor
  · simp only [call_calls, setCurrent_calls, modMaster_calls, access_calls, enter_calls, hcalls,
      List.nil_append, List.map_cons, List.map_nil, DsCall.map, Record.write]
    exact congrArg (fun v => [DsCall.alWriteReq r.index r.subindex v]) hvalue
  · refine .inl ⟨rfl, ⟨hrest, ?_⟩⟩
    simp only [call_masterDs, setCurrent_masterDs, modMaster_masterDs, access_masterDs,
      enter_masterDs, hrs.size, encodeAll_cons, List.length_append]
    omega

/-- After the last record, the end of the download is requested. -/
theorem outputs_restores_nil {ds : Ds} (h : ds.Restores []) :
    ds.outputs (.writeCnf SmiErrorType.none) = [dlEndReq] ∧
      (ds.step (.writeCnf SmiErrorType.none)).state = .downloadDone := by
  obtain ⟨ds', hcalls, hrs, hstep⟩ := step_of_restores h
  have hend : ds'.masterDs.size ≤ ds'.masterDs.pos := Nat.le_of_eq hrs.size
  have hproceed : ds'.proceed = (ds'.enter .downloadDone).alWriteDsCmdReq .dlEnd := if_pos hend
  rw [outputs, hstep, hproceed]
  refine ⟨?_, rfl⟩
  simp only [alWriteDsCmdReq, call_calls, setCommand_calls, setCurrent_calls, enter_calls, hcalls,
    List.nil_append, List.map_cons, List.map_nil, DsCall.map]
  rfl

/-- Confirmations after the end make the machine ask for the checksum. -/
private theorem trace_downloadDone {ds : Ds} (h : ds.state = .downloadDone) (n : ℕ) :
    Runs.trace step outputs ds (confirmations n) = List.replicate n checksumReq := by
  induction n generalizing ds with
  | zero => rfl
  | succ n ih =>
    have hstep : ds.step (.writeCnf SmiErrorType.none) =
        ds.fresh.alReadReq dsParamIndex dsParamSubindexChecksum := by
      show ds.fresh.writeCnfCb SmiErrorType.none = _
      simp [writeCnfCb, h]
    have hout : ds.outputs (.writeCnf SmiErrorType.none) = [checksumReq] := by
      rw [outputs, hstep]; rfl
    have hnext : (ds.step (.writeCnf SmiErrorType.none)).state = .downloadDone := by
      rw [hstep]; exact h
    simp only [confirmations, List.replicate_succ, Runs.trace_cons, hout]
    exact congrArg _ (ih hnext)

/-- **The requests of a download**: those of the records, the end of the download, and, when
more writes are confirmed than there were, requests for the checksum. -/
theorem download_trace {ds : Ds} {rs : List Record} (h : ds.Restores rs) (n : ℕ) :
    Runs.trace step outputs ds (confirmations (rs.length + (1 + n))) =
      rs.map Record.write ++ dlEndReq :: List.replicate n checksumReq := by
  induction rs generalizing ds with
  | nil =>
    obtain ⟨hout, hstate⟩ := outputs_restores_nil h
    have htail := trace_downloadDone hstate n
    rw [show [].length + (1 + n) = n + 1 by simp [Nat.add_comm]]
    simp only [confirmations, List.replicate_succ, Runs.trace_cons, hout] at htail ⊢
    rw [htail]
    rfl
  | cons r rs ih =>
    obtain ⟨hout, hrest⟩ := outputs_restores_cons h
    have htail := ih hrest
    rw [show (r :: rs).length + (1 + n) = rs.length + (1 + n) + 1 by
      rw [List.length_cons]; omega]
    simp only [confirmations, List.replicate_succ, Runs.trace_cons, hout] at htail ⊢
    rw [htail]
    rfl

/-! ### The round trip -/

/-- A download of the set of `uploaded` has been started: the machine waits for the confirmation
of `DL_START`. -/
structure DownloadOf (uploaded later : Ds) : Prop where
  state : later.state = .decomposeSet
  stored : later.masterDs.stored = uploaded.masterDs.stored
  size : later.masterDs.size = uploaded.masterDs.size

/-- The device that confirms every write receives the value of each entry of the list, in
order, then `DL_END`, and nothing else. -/
def Replays (later : Ds) (entries : List IndexEntry) (values : List ReadCnf) : Prop :=
  values.length = entries.length ∧
    Runs.trace step outputs later (confirmations (entries.length + 1)) =
      (List.zipWith recordOf entries values).map Record.write ++ [dlEndReq]

/-- The list has fewer than 70 entries, none of them is the index list, and the records fit. -/
def Storable (entries : List IndexEntry) (values : List ReadCnf) : Prop :=
  entries.length < dsIndexListMaxEntries ∧ (∀ e ∈ entries, e ≠ Upload.indexListEntry) ∧
    Upload.encodedSize values ≤ dsMaxSize

/-- A download is a replay exactly if the stored records are those of the list. -/
private theorem replays_iff {later : Ds} {entries : List IndexEntry} {values : List ReadCnf}
    {rs : List Record} (h : later.Restores rs) (hlen : rs.length ≤ values.length) :
    later.Replays entries values ↔
      values.length = entries.length ∧ rs = List.zipWith recordOf entries values := by
  refine and_congr_right fun heq => ?_
  obtain ⟨n, hn⟩ := Nat.exists_eq_add_of_le (heq ▸ hlen)
  rw [hn, show rs.length + n + 1 = rs.length + (1 + n) by omega, download_trace h n]
  constructor
  · intro htrace
    -- the last request is `DL_END`, so no confirmation was left over
    rcases n with _ | n
    · have hwrites := List.append_cancel_right htrace
      exact List.map_injective_iff.mpr (fun _ _ => Record.eq_of_write) hwrites
    · have hlast := congrArg List.getLast? htrace
      rw [List.getLast?_append, List.getLast?_append, List.replicate_succ'] at hlast
      simp [dlEndReq, checksumReq, List.getLast?_cons] at hlast
  · intro hrs
    have hzip : (List.zipWith recordOf entries values).length = entries.length := by
      rw [List.length_zipWith, heq, Nat.min_self]
    have hn0 : n = 0 := by rw [← hrs] at hzip; omega
    rw [← hrs, hn0]
    rfl

/-- Each stored record takes four octets and the value. -/
private theorem length_encodeAll_zipWith {entries : List IndexEntry} {values : List ReadCnf}
    (h : values.length = entries.length) :
    (encodeAll (List.zipWith recordOf entries values)).length = Upload.encodedSize values := by
  induction values generalizing entries with
  | nil => simp [Upload.encodedSize]
  | cons c cs ih =>
    rcases entries with _ | ⟨e, es⟩
    · simp at h
    · rw [List.zipWith_cons_cons, encodeAll_cons, List.length_append, ih (by simpa using h),
        Record.length_encode, recordOf, ReadCnf.length_value, Upload.encodedSize]

/-- A stored record of each entry. -/
private theorem exists_record {entries : List IndexEntry} {values : List ReadCnf}
    (h : values.length = entries.length) {e : IndexEntry} (he : e ∈ entries) :
    ∃ r ∈ List.zipWith recordOf entries values, ⟨r.index, r.subindex⟩ = e := by
  obtain ⟨j, hj, rfl⟩ := List.getElem_of_mem he
  have hzip : j < (List.zipWith recordOf entries values).length := by
    rw [List.length_zipWith]; omega
  exact ⟨_, List.getElem_mem hzip, by rw [List.getElem_zipWith]; rfl⟩

/-- **When a download replays an upload.** A device answers an upload with this index list and
these values. The set is marked valid, and a download of it restores every entry of the list
exactly if the list is `Storable`. -/
theorem download_replays_iff {ds later : Ds} {list checksum : ReadCnf} {values : List ReadCnf}
    {entries : List IndexEntry} (h : ds.UploadSession list values checksum)
    (hlist : list.value = indexListOctets entries) (hne : ∀ e ∈ entries, e.index ≠ 0)
    (hlater : DownloadOf (ds.afterUpload list values checksum) later) :
    ((ds.afterUpload list values checksum).masterDs.valid = true →
      later.Replays entries values) ↔ Storable entries values := by
  obtain ⟨hvalid, hstored, hsize⟩ := h.stored
  have hsound := UploadSession.sound ds list values
  have hrestores : later.Restores ((ds.listAccount list).answers values).records := by
    refine .inr ⟨hlater.state, ⟨?_, ?_⟩⟩
    · have hset := hlater.stored.trans hstored
      rwa [MasterDs.stored, hlater.size, hsize] at hset
    · show later.masterDs.size = 0 + _
      rw [hlater.size, hsize, Nat.zero_add]
  have hcount : ((ds.listAccount list).answers values).records.length ≤ values.length := by
    have hle := Upload.length_records_answers (ds.listAccount list) values
    have hnil : (ds.listAccount list).records = [] := by
      rw [listAccount, Upload.answer]
      exact Upload.next_records _
    rwa [hnil, List.length_nil, Nat.zero_add] at hle
  rw [replays_iff hrestores hcount, imp_iff_right hvalid]
  constructor
  · rintro ⟨hlen, hrecords⟩
    refine ⟨hlen ▸ h.length_values_lt, fun e he heq => ?_, ?_⟩
    · obtain ⟨r, hr, hentry⟩ := exists_record hlen he
      exact hsound.notList r (hrecords ▸ hr) (hentry.trans heq)
    · rw [← length_encodeAll_zipWith hlen, ← hrecords]
      exact hsound.fits
  · rintro ⟨hshort, hnotList, hfits⟩
    -- the index list has been taken as it is, and is never read again
    have hd := IndexList.holds_of_value hlist hne
    obtain ⟨hcnt, hentries⟩ := IndexList.parse_short hd hshort (Upload.start ds.indexList).list
    obtain ⟨u, hu⟩ : ∃ u, u = { Upload.start ds.indexList with
        list := (Upload.start ds.indexList).list.parse list.buffer } := ⟨_, rfl⟩
    have hlisted : u.Listed entries 0 := by
      subst hu
      exact ⟨rfl, hcnt, hentries, IndexList.parse_pos _ _, Nat.zero_le _⟩
    have hnext : ds.listAccount list = u.next := by subst hu; rfl
    have hrecs : u.records = [] := by subst hu; rfl
    obtain ⟨hlen, hrecords⟩ := Upload.answers_of_listed hnotList hlisted (hnext ▸ h.account.1)
      (hnext ▸ h.complete)
      (by rw [hrecs, encodeAll_nil, List.length_nil, Nat.zero_add]; exact hfits)
    rw [← hnext, hrecs, List.nil_append, List.drop_zero] at hrecords
    exact ⟨hlen, hrecords⟩

/-! ### A set that is marked valid and empty -/

/-- `n` parameters with the indices 0x0040, 0x0041, ... -/
def someEntries (n : ℕ) : List IndexEntry :=
  (List.range n).map fun i => ⟨0x40 + UInt16.ofNat i, 0⟩

/-- An index list of as many entries as the array holds. -/
def listOf70Entries : ReadCnf := .ofValue (indexListOctets (someEntries 70)) (by decide +kernel)

/-- An index list of two entries. -/
def listOf2Entries : ReadCnf := .ofValue (indexListOctets (someEntries 2)) (by decide)

/-- After an upload, the device starts up with the checksum 2. -/
def restart (uploaded : Ds) : Ds :=
  Runs.run step uploaded
    [.startup, .readCnf (wordValue 8 0), .readCnf (.ofOctet 0), .readCnf (wordValue 0 2)]

instance (later : Ds) (entries : List IndexEntry) (values : List ReadCnf) :
    Decidable (later.Replays entries values) :=
  inferInstanceAs (Decidable (_ ∧ _))

/-- **Seventy parameters are missing.** An index list of 70 entries leaves the number of entries
at zero: no parameter is read, the empty set is marked valid, and its download writes nothing. -/
theorem seventy_parameters_are_missing :
    beforeUpload.UploadSession listOf70Entries [] (wordValue 0 1) ∧
      listOf70Entries.value = indexListOctets (someEntries 70) ∧
      (beforeUpload.afterUpload listOf70Entries [] (wordValue 0 1)).masterDs.valid = true ∧
      DownloadOf (beforeUpload.afterUpload listOf70Entries [] (wordValue 0 1))
        (restart (beforeUpload.afterUpload listOf70Entries [] (wordValue 0 1))) ∧
      ¬ (restart (beforeUpload.afterUpload listOf70Entries [] (wordValue 0 1))).Replays
        (someEntries 70) [] := by
  refine ⟨⟨?_, ?_, ?_, ?_, ?_, ?_, ?_⟩, ?_, ?_, ⟨?_, ?_, ?_⟩, ?_⟩ <;> decide +kernel

/-- Two parameters are uploaded and restored. -/
theorem two_parameters_are_replayed :
    (restart (beforeUpload.afterUpload listOf2Entries [.ofOctet 7, .ofOctet 8]
      (wordValue 0 1))).Replays (someEntries 2) [.ofOctet 7, .ofOctet 8] := by
  have hsession : beforeUpload.UploadSession listOf2Entries [.ofOctet 7, .ofOctet 8]
      (wordValue 0 1) := by
    refine ⟨?_, ?_, ?_, ?_, ?_, ?_, ?_⟩ <;> decide +kernel
  refine (download_replays_iff hsession ?_ ?_ ⟨?_, ?_, ?_⟩).mpr ⟨?_, ?_, ?_⟩ ?_ <;> decide +kernel

end Ds

end IolHat

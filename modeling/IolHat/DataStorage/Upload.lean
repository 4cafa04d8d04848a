import IolHat.DataStorage.ParameterSet

/-!
# What an upload does to the stored set

An upload overwrites `master_ds.data` in place, record by record, while the set that is being
overwritten stays marked valid. `Upload` is the abstract account of it: which parameter has been
asked for, and which records have been stored so far. It is a function of the device's answers
alone (`Upload.after`), and `Follows` says that the state machine keeps to it: the data is the old
data with the records written over its front, and the size changes when the list is exhausted.

`uploading_step` says once what any input can do during an upload. From it follow

* `Follows.step` and `follows_run`: the machine follows the account for a whole run;
* `failed_upload_intact_iff`: a failed upload leaves the stored set as it was exactly if the
  octets of the records received agree with the stored ones as far as both go, and, when the
  failure strikes after the last record, have the same length.
-/

namespace IolHat

open Octets

namespace Ds

/-! ### Rows of the upload states -/

/-- An event without a row is dropped. -/
theorem event_dropped {ds : Ds} {s : DsState} {e : DsEvent} (h : ds.state = s)
    (hrow : Fsm.lookup (transitions s) e = none) : ds.event e = ds :=
  Fsm.Machine.drive_of_none (Fsm.Machine.row_of_state (M := fsm) h hrow)

/-- The upload asks for the entry at the position of the list. -/
def askNext (ds : Ds) : Ds :=
  let entry := ds.indexList.entries.get ds.indexList.pos
  ((((ds.enter .decomposeIl).setCurrent entry.index entry.subindex).modList
    ({ · with pos := ds.indexList.pos + 1 })).enter .readParameter).alReadReq
      entry.index entry.subindex

/-- The upload has read all entries: the size is set and the checksum is read. -/
def finishReading (ds : Ds) : Ds :=
  (((ds.enter .decomposeIl).modMaster ({ · with size := ds.masterDs.pos })).alReadReq
    dsParamIndex dsParamSubindexChecksum).enter .storeDataSet

/-- The machine leaves the upload with an error. -/
def failUpload (ds : Ds) : Ds :=
  { (ds.enter .uploadFault).enter .dsFault with fault := .up }.alWriteDsCmdReq .break_

/-- T31, then T30 or T35. -/
theorem event_readDone {ds : Ds} (h : ds.state = .readParameter) :
    ds.event .readDone =
      if ds.indexList.pos < ds.indexList.count then ds.askNext else ds.finishReading := by
  have hrow : fsm.row ds .readDone = some ⟨.readDone, .decomposeIl, .upload⟩ :=
    Fsm.Machine.row_of_state h rfl
  split_ifs with hmore
  · exact Fsm.Machine.drive_of_rows hrow (if_pos hmore) (by decide)
      (Fsm.Machine.row_of_state rfl rfl) rfl
  · exact Fsm.Machine.drive_of_rows hrow (if_neg hmore) (by decide)
      (Fsm.Machine.row_of_state rfl rfl) rfl

/-- The machine waits for an answer to a read request of an upload. -/
def Uploading (ds : Ds) : Prop := ds.state = .readParameter ∨ ds.state = .storeDataSet

/-- T33 or T36, then T23. -/
theorem event_comErr {ds : Ds} (h : ds.Uploading) : ds.event .comErr = ds.failUpload := by
  have hrow : fsm.row ds .comErr = some ⟨.comErr, .uploadFault, .ulFault⟩ := by
    rcases h with h | h <;> exact Fsm.Machine.row_of_state h rfl
  exact Fsm.Machine.drive_of_rows hrow rfl (by decide) (Fsm.Machine.row_of_state rfl rfl) rfl

/-- T32, then T23. -/
theorem event_devErr {ds : Ds} (h : ds.state = .readParameter) :
    ds.event .devErr = ds.failUpload := by
  have hrow : fsm.row ds .devErr = some ⟨.devErr, .uploadFault, .ulFault⟩ :=
    Fsm.Machine.row_of_state h rfl
  exact Fsm.Machine.drive_of_rows hrow rfl (by decide) (Fsm.Machine.row_of_state rfl rfl) rfl

/-- T19 or T21, then T30: the upload begins with the index list. -/
theorem event_doUpload {ds : Ds} (h : ds.state = .checkUpload ∨ ds.state = .checkDsValidity) :
    ds.event .doUpload =
      (((((ds.enter .decomposeIl).modMaster ({ · with pos := 0 })).modList
        ({ · with pos := 0 })).setCurrent dsParamIndex dsParamSubindexIndexList).enter
          .readParameter).alReadReq dsParamIndex dsParamSubindexIndexList := by
  have hrow : fsm.row ds .doUpload = some ⟨.doUpload, .decomposeIl, .upload⟩ := by
    rcases h with h | h <;> exact Fsm.Machine.row_of_state h rfl
  exact Fsm.Machine.drive_of_rows hrow rfl (by decide) (Fsm.Machine.row_of_state rfl rfl) rfl

/-- T26, then T3: the upload has succeeded. -/
theorem event_ulDone {ds : Ds} (h : ds.state = .storeDataSet) :
    ds.event .ulDone = ((ds.enter .dsReady).call .dsReady).enter .waitingOnDsActivity := by
  have hrow : fsm.row ds .ulDone = some ⟨.ulDone, .dsReady, .ready⟩ :=
    Fsm.Machine.row_of_state h rfl
  exact Fsm.Machine.drive_of_rows hrow rfl (by decide) (Fsm.Machine.row_of_state rfl rfl) rfl

/-! ### What an input can do during an upload -/

/-- The application has replaced the stored set. -/
def Replaces (ds : Ds) : DsInput → Prop
  | .parServToDs exp argBlockLen block =>
    exp = ArgBlockId.voidBlock ∧ block.id = ArgBlockId.dsData ∧
      narrow8 (argBlockLen + 256 - sizeofArgBlockDsData) ≤ ds.masterDs.sizeMax
  | _ => False

instance (ds : Ds) : (i : DsInput) → Decidable (ds.Replaces i)
  | .parServToDs .. => inferInstanceAs (Decidable (_ ∧ _ ∧ _))
  | .readCnf _ | .writeCnf _ | .startup | .delete | .init _ | .upload | .portInfo _
  | .setModeType11 => inferInstanceAs (Decidable False)

/-- The upload has got no answer: it still waits, for the same parameter. -/
structure Waits (ds ds' : Ds) : Prop where
  state : ds'.state = ds.state
  masterDs : ds'.masterDs = ds.masterDs
  indexList : ds'.indexList = ds.indexList
  currentIndex : ds.state = .readParameter → ds'.currentIndex = ds.currentIndex
  currentSubindex : ds.state = .readParameter → ds'.currentSubindex = ds.currentSubindex

/-- A fresh job starts without calls. -/
@[simps] def fresh (ds : Ds) : Ds := { ds with calls := [] }

/-- What the upload makes of the value of a parameter. -/
def takeAnswer (ds : Ds) (c : ReadCnf) : Ds :=
  if ds.currentIndex = dsParamIndex ∧ ds.currentSubindex = dsParamSubindexIndexList then
    ds.modList fun list => list.parse c.buffer
  else ds.storeParam c

/-- The set becomes valid, with the identity of the configuration and the device's checksum. -/
def acceptSet (ds : Ds) : Ds :=
  ds.fresh.modMaster fun m => { m with
    vid := ds.pendingId.vendorid
    did := ds.pendingId.deviceid
    cs := ds.deviceDs.cs
    valid := true }

theorem acceptSet_state (ds : Ds) : ds.acceptSet.state = ds.state := rfl

/-- What an input can do during an upload. -/
inductive UploadStep (ds : Ds) (i : DsInput) : Ds → Prop
  /-- The upload fails; the set is as the answers so far have left it. -/
  | failed {ds' : Ds} (hstate : ds'.state = .dsFault) (hmaster : ds'.masterDs = ds.masterDs) :
      UploadStep ds i ds'
  /-- The upload goes on waiting. -/
  | waits {ds' : Ds} (hwaits : ds.Waits ds')
      (hread : ∀ c, i = .readCnf c → ds.state = .storeDataSet) : UploadStep ds i ds'
  /-- The parameter asked for has arrived. -/
  | answered (c : ReadCnf) (hi : i = .readCnf c) (herr : c.errortype = SmiErrorType.none)
      (hstate : ds.state = .readParameter) :
      UploadStep ds i ((ds.fresh.takeAnswer c).event .readDone)
  /-- The end of the upload has been confirmed. -/
  | done (hi : i = .writeCnf SmiErrorType.none) (hstate : ds.state = .storeDataSet) :
      UploadStep ds i (ds.acceptSet.event .ulDone)

private theorem uploadStep_of_error {ds : Ds} {i : DsInput} {ds' : Ds}
    (h : ds' = ds.fresh.failUpload) : UploadStep ds i ds' := by
  subst h
  exact .failed rfl rfl

private theorem uploadStep_of_nothing {ds : Ds} {i : DsInput} {ds' : Ds} (h : ds' = ds.fresh)
    (hread : ∀ c, i ≠ .readCnf c) : UploadStep ds i ds' := by
  subst h
  exact .waits ⟨rfl, rfl, rfl, fun _ => rfl, fun _ => rfl⟩ fun c hc => absurd hc (hread c)

private theorem event_dropped_of_uploading {ds : Ds} (h : ds.Uploading) {e : DsEvent}
    (h₁ : Fsm.lookup (transitions .readParameter) e = none)
    (h₂ : Fsm.lookup (transitions .storeDataSet) e = none) : ds.event e = ds := by
  rcases h with h | h
  · exact event_dropped h h₁
  · exact event_dropped h h₂

/-- The answer to the parameter asked for. -/
theorem step_answer {ds : Ds} {c : ReadCnf} (h : ds.state = .readParameter)
    (herr : c.errortype = SmiErrorType.none) :
    ds.step (.readCnf c) = (ds.fresh.takeAnswer c).event .readDone := by
  show ds.fresh.readCnfCb c = _
  rw [readCnfCb, if_neg (by rw [herr]; decide)]
  simp only [fresh_state, h, herr, takeAnswer, follow_of_success herr]
  split_ifs <;> first | rfl | contradiction

/-- An answer with an error. -/
theorem step_answer_error {ds : Ds} {c : ReadCnf} (h : ds.state = .readParameter)
    (herr : c.errortype ≠ SmiErrorType.none) :
    ds.step (.readCnf c) = ds.fresh.failUpload := by
  have hstate : ds.fresh.state = .readParameter := h
  show ds.fresh.readCnfCb c = _
  by_cases hcom : c.errortype = SmiErrorType.comErr
  · rw [readCnfCb, if_pos hcom, event_comErr (.inl hstate)]
  · simp only [readCnfCb, if_neg hcom, hstate, if_pos herr, event_devErr hstate]

/-- The answer to the request for the checksum. -/
theorem step_checksum {ds : Ds} {c : ReadCnf} (h : ds.state = .storeDataSet)
    (herr : c.errortype ≠ SmiErrorType.comErr) (hlen : 4 ≤ c.len) :
    ds.Waits (ds.step (.readCnf c)) := by
  have hne : ds.state ≠ .readParameter := by rw [h]; decide
  have hstep : ds.step (.readCnf c) =
      (ds.fresh.modDevice ({ · with cs := wordOf c.buffer })).alWriteDsCmdReq .ulEnd := by
    show ds.fresh.readCnfCb c = _
    simp only [readCnfCb, if_neg herr, fresh_state, h, readChecksum_of_le hlen]
  rw [hstep]
  exact ⟨rfl, rfl, rfl, fun hr => absurd hr hne, fun hr => absurd hr hne⟩

/-- The confirmation of the end of the upload. -/
theorem step_ulEnd {ds : Ds} (h : ds.state = .storeDataSet) :
    ds.step (.writeCnf SmiErrorType.none) = ds.acceptSet.event .ulDone := by
  show ds.fresh.writeCnfCb SmiErrorType.none = _
  simp [writeCnfCb, h, acceptSet]

private theorem readCnfCb_uploading {ds : Ds} (h : ds.Uploading) (c : ReadCnf) :
    UploadStep ds (.readCnf c) (ds.fresh.readCnfCb c) := by
  have hfresh : ds.fresh.Uploading := h
  by_cases hcom : c.errortype = SmiErrorType.comErr
  · exact uploadStep_of_error (by rw [readCnfCb, if_pos hcom, event_comErr hfresh])
  rcases h with h | h
  · by_cases herr : c.errortype = SmiErrorType.none
    · rw [show ds.fresh.readCnfCb c = _ from step_answer h herr]
      exact .answered c rfl herr h
    · exact uploadStep_of_error (step_answer_error h herr)
  · by_cases hlen : c.len < 4
    · -- the machine leaves the upload, and requests its end all the same
      have hcb : ds.fresh.readCnfCb c = ds.fresh.readChecksum c (·.alWriteDsCmdReq .ulEnd) := by
        simp only [readCnfCb, if_neg hcom, fresh_state, h]
      rw [hcb]
      cases hdata : c.data with
      | none =>
        rw [readChecksum_of_null hdata, event_comErr hfresh]
        exact .failed rfl rfl
      | some data =>
        rw [readChecksum_of_short hlen hdata, event_comErr hfresh]
        exact .failed rfl rfl
    · exact .waits (step_checksum h hcom (Nat.not_lt.mp hlen)) fun _ _ => h

private theorem writeCnfCb_uploading {ds : Ds} (h : ds.Uploading) (e : SmiErrorType) :
    UploadStep ds (.writeCnf e) (ds.fresh.writeCnfCb e) := by
  have hfresh : ds.fresh.Uploading := h
  by_cases herr : e = SmiErrorType.none
  · subst herr
    rcases h with h | h
    · exact uploadStep_of_nothing (by simp [writeCnfCb, h]) nofun
    · rw [show ds.fresh.writeCnfCb SmiErrorType.none = _ from step_ulEnd h]
      exact .done rfl h
  · exact uploadStep_of_error (by rw [writeCnfCb, if_pos herr, event_comErr hfresh])

/-- **One input during an upload**, unless the application replaces the set meanwhile. -/
theorem uploading_step {ds : Ds} (h : ds.Uploading) (i : DsInput) (hset : ¬ ds.Replaces i) :
    UploadStep ds i (ds.step i) := by
  have hfresh : ds.fresh.Uploading := h
  cases i with
  | readCnf c => exact readCnfCb_uploading h c
  | writeCnf e => exact writeCnfCb_uploading h e
  | startup => exact uploadStep_of_nothing (event_dropped_of_uploading hfresh rfl rfl) nofun
  | delete => exact uploadStep_of_nothing (event_dropped_of_uploading hfresh rfl rfl) nofun
  | upload => exact uploadStep_of_nothing (event_dropped_of_uploading hfresh rfl rfl) nofun
  | portInfo id => exact .waits ⟨rfl, rfl, rfl, fun _ => rfl, fun _ => rfl⟩ nofun
  | setModeType11 => exact .waits ⟨rfl, rfl, rfl, fun _ => rfl, fun _ => rfl⟩ nofun
  | init cfg =>
    -- the configuration changes, the event is dropped
    have hcfg : (ds.fresh.configure cfg).Uploading := h
    have hstep : ds.step (.init cfg) = ds.fresh.configure cfg :=
      event_dropped_of_uploading hcfg rfl rfl
    rw [hstep]
    exact .waits ⟨rfl, rfl, rfl, fun _ => rfl, fun _ => rfl⟩ nofun
  | parServToDs exp argBlockLen block =>
    -- the application's set has been refused
    refine .waits ?_ nofun
    show ds.Waits (ds.fresh.smiParServToDsReq exp argBlockLen block)
    rw [smiParServToDsReq]
    split_ifs with hid hsize
    · exact ⟨rfl, rfl, rfl, fun _ => rfl, fun _ => rfl⟩
    · exact ⟨rfl, rfl, rfl, fun _ => rfl, fun _ => rfl⟩
    · rw [not_or, not_not, not_not] at hid
      exact absurd ⟨hid.1, hid.2, Nat.not_lt.mp hsize⟩ hset

end Ds

/-! ### The account of an upload -/

/-- How far an upload has come: the index list and the position in it, the parameter asked for,
the records stored, and whether the list is exhausted. -/
structure Upload where
  list : IndexList
  asked : IndexEntry
  records : List Record
  complete : Bool

namespace Upload

/-- The entry of the index list itself. -/
def indexListEntry : IndexEntry := ⟨dsParamIndex, dsParamSubindexIndexList⟩

/-- An upload that has just asked for the index list. -/
def start (list : IndexList) : Upload :=
  { list := { list with pos := 0 }, asked := indexListEntry, records := [], complete := false }

/-- Ask for the next entry, or finish. -/
def next (u : Upload) : Upload :=
  if u.list.pos < u.list.count then
    { u with
      asked := u.list.entries.get u.list.pos, list := { u.list with pos := u.list.pos + 1 } }
  else { u with complete := true }

/-- Store a value, if there is room for its record. -/
def store (u : Upload) (c : ReadCnf) : Upload :=
  if (encodeAll u.records).length + (4 + c.len) ≤ dsMaxSize then
    { u with records := u.records ++ [Ds.recordOf u.asked c] }
  else u

/-- The device's answer to the parameter asked for. -/
def answer (u : Upload) (c : ReadCnf) : Upload :=
  if u.complete then u
  else if u.asked = indexListEntry then { u with list := u.list.parse c.buffer }.next
  else (u.store c).next

/-- Only answers count. -/
def input (u : Upload) : DsInput → Upload
  | .readCnf c => u.answer c
  | _ => u

/-- The account of a run, from the index list of an earlier upload. -/
def after (list : IndexList) (inputs : List DsInput) : Upload := Runs.run input (start list) inputs

/-- The stored records fit the array. -/
theorem length_store_le {u : Upload} (h : (encodeAll u.records).length ≤ dsMaxSize) (c : ReadCnf) :
    (encodeAll (u.store c).records).length ≤ dsMaxSize := by
  rw [store]
  split_ifs with hfits
  · simpa [Ds.recordOf, ReadCnf.length_value] using hfits
  · exact h

@[simp] theorem next_records (u : Upload) : u.next.records = u.records := by
  rw [next]; split <;> rfl

end Upload

namespace Ds

/-- The machine is where the account says: `m₀` is the set before the upload. -/
structure Follows (m₀ : MasterDs) (ds : Ds) (u : Upload) : Prop where
  indexList : ds.indexList = u.list
  state : ds.state = if u.complete then .storeDataSet else .readParameter
  asked : u.complete = false → ⟨ds.currentIndex, ds.currentSubindex⟩ = u.asked
  masterDs : ds.masterDs = { m₀ with
    data := m₀.data.write 0 (encodeAll u.records), pos := (encodeAll u.records).length,
    size := if u.complete then (encodeAll u.records).length else m₀.size }
  fits : (encodeAll u.records).length ≤ dsMaxSize

namespace Follows

variable {m₀ : MasterDs} {ds : Ds} {u : Upload}

theorem uploading (h : ds.Follows m₀ u) : ds.Uploading := by
  have hstate := h.state
  cases hc : u.complete <;> simp only [hc, Bool.false_eq_true, if_false, if_true] at hstate
  · exact .inl hstate
  · exact .inr hstate

theorem complete_eq (h : ds.Follows m₀ u) : u.complete = decide (ds.state = .storeDataSet) := by
  rw [h.state]
  cases u.complete <;> rfl

/-- An input that leaves the upload waiting does not change the account. -/
theorem waits (h : ds.Follows m₀ u) {ds' : Ds} (hw : ds.Waits ds') : ds'.Follows m₀ u where
  indexList := hw.indexList.trans h.indexList
  state := hw.state.trans h.state
  asked hc := by
    have hstate : ds.state = .readParameter := by rw [h.state, hc]; rfl
    rw [hw.currentIndex hstate, hw.currentSubindex hstate, h.asked hc]
  masterDs := hw.masterDs.trans h.masterDs
  fits := h.fits

/-- After an answer has been taken, the next entry is asked for or the upload finishes. -/
theorem next (h : ds.Follows m₀ u) (hc : u.complete = false) :
    (ds.event .readDone).Follows m₀ u.next := by
  have hstate : ds.state = .readParameter := by rw [h.state, hc]; rfl
  rw [event_readDone hstate, Upload.next, h.indexList]
  split_ifs with hmore
  · refine ⟨?_, ?_, fun _ => ?_, ?_, h.fits⟩
    · simp [askNext, alReadReq, h.indexList]
    · simp [askNext, alReadReq, hc]
    · simp [askNext, alReadReq, h.indexList]
    · simp [askNext, alReadReq, h.masterDs, hc]
  · refine ⟨?_, ?_, fun hnot => Bool.noConfusion hnot, ?_, h.fits⟩
    · simp [finishReading, alReadReq, h.indexList]
    · simp [finishReading, alReadReq]
    · simp [finishReading, alReadReq, h.masterDs]

/-- The answer to the parameter asked for. -/
theorem answered (h : ds.Follows m₀ u) (c : ReadCnf) (hc : u.complete = false) :
    ((ds.fresh.takeAnswer c).event .readDone).Follows m₀ (u.answer c) := by
  have hasked := h.asked hc
  have hfresh : ds.fresh.Follows m₀ u := h.waits ⟨rfl, rfl, rfl, fun _ => rfl, fun _ => rfl⟩
  have hlist : (ds.currentIndex = dsParamIndex ∧ ds.currentSubindex = dsParamSubindexIndexList) ↔
      u.asked = Upload.indexListEntry := by
    rw [← hasked, Upload.indexListEntry, IndexEntry.mk.injEq]
  rw [takeAnswer, Upload.answer, if_neg (Bool.eq_false_iff.mp hc)]
  simp only [fresh_currentIndex, fresh_currentSubindex, hlist]
  split_ifs with hil
  · refine Follows.next ?_ hc
    exact ⟨by simp [h.indexList], hfresh.state, hfresh.asked, hfresh.masterDs, h.fits⟩
  · refine Follows.next ?_ (by rw [Upload.store]; split <;> exact hc)
    have hpos : ds.fresh.masterDs.pos = (encodeAll u.records).length := by
      rw [hfresh.masterDs]
    by_cases hfits : (encodeAll u.records).length + (4 + c.len) ≤ dsMaxSize
    · rw [storeParam_of_fits (by rw [hpos]; exact hfits), Upload.store, if_pos hfits]
      refine ⟨hfresh.indexList, hfresh.state, hfresh.asked, ?_, ?_⟩
      · simp only [modMaster_masterDs, fresh_currentIndex, fresh_currentSubindex, hasked]
        rw [MasterDs.append_of_front hfresh.masterDs]
        simp [hc]
      · simpa [recordOf, ReadCnf.length_value] using hfits
    · rw [storeParam_of_not_fits (by rw [hpos]; exact hfits), Upload.store, if_neg hfits]
      exact hfresh

/-- **The machine follows the account**, as long as the upload goes on. -/
theorem step (h : ds.Follows m₀ u) (i : DsInput) (hset : ¬ ds.Replaces i)
    (hup : (ds.step i).Uploading) : (ds.step i).Follows m₀ (u.input i) := by
  have hcase := uploading_step h.uploading i hset
  revert hup hcase
  generalize ds.step i = ds'
  rintro hup (⟨hstate, -⟩ | ⟨hw, hread⟩ | ⟨c, rfl, herr, hstate⟩ | ⟨rfl, hstate⟩)
  · exact absurd hup (by rw [Uploading, hstate]; decide)
  · have hu : u.input i = u := by
      cases i with
      | readCnf c =>
        have hc : u.complete = true := by rw [h.complete_eq, hread c rfl]; rfl
        rw [Upload.input, Upload.answer, if_pos hc]
      | _ => rfl
    rw [hu]
    exact h.waits hw
  · have hc : u.complete = false := by rw [h.complete_eq, hstate]; rfl
    exact h.answered c hc
  · rw [event_ulDone ((acceptSet_state ds).trans hstate)] at hup
    exact absurd hup (by simp [Uploading])

end Follows

/-- Inputs that leave an upload going. -/
def KeepsUploading (ds : Ds) (i : DsInput) : Prop := ¬ ds.Replaces i ∧ (ds.step i).Uploading

instance (ds : Ds) : Decidable ds.Uploading := inferInstanceAs (Decidable (_ ∨ _))

instance (ds : Ds) (i : DsInput) : Decidable (ds.KeepsUploading i) :=
  inferInstanceAs (Decidable (_ ∧ _))

/-- The state after the confirmation that starts an upload. -/
def startUpload (ds : Ds) : Ds := ds.step (.writeCnf SmiErrorType.none)

theorem startUpload_follows {ds : Ds} (h : ds.state = .checkUpload ∨ ds.state = .checkDsValidity) :
    ds.startUpload.Follows ds.masterDs (Upload.start ds.indexList) := by
  have hcb : ds.startUpload = ds.fresh.event .doUpload := by
    show ds.fresh.writeCnfCb SmiErrorType.none = _
    rcases h with h | h <;> simp [writeCnfCb, h]
  have hfresh : ds.fresh.state = .checkUpload ∨ ds.fresh.state = .checkDsValidity := h
  rw [hcb, event_doUpload hfresh]
  exact ⟨rfl, rfl, fun _ => rfl, by simp [alReadReq, Upload.start], Nat.zero_le _⟩

/-- The machine follows the account for a whole run. -/
theorem follows_run {m₀ : MasterDs} {ds : Ds} {u : Upload} (h : ds.Follows m₀ u)
    {is : List DsInput} (his : Runs.Admissible Ds.step KeepsUploading ds is) :
    (Runs.run Ds.step ds is).Follows m₀ (Runs.run Upload.input u is) := by
  induction is generalizing ds u with
  | nil => exact h
  | cons i is ih => exact ih (h.step i his.1.1 his.1.2) his.2

/-- An upload from `ds` that is left with an error: its start is confirmed, the inputs `is` keep
it going, and `fail` makes it fail. -/
structure FailedUpload (ds : Ds) (is : List DsInput) (fail : DsInput) : Prop where
  start : ds.state = .checkUpload ∨ ds.state = .checkDsValidity
  goesOn : Runs.Admissible Ds.step KeepsUploading ds.startUpload is
  notReplaced : ¬ (Runs.run Ds.step ds.startUpload is).Replaces fail
  fails : ((Runs.run Ds.step ds.startUpload is).step fail).state = .dsFault

/-- The state in which a failed upload is left. -/
def afterFailure (ds : Ds) (is : List DsInput) (fail : DsInput) : Ds :=
  (Runs.run Ds.step ds.startUpload is).step fail

/-- The stored set is no longer valid, or it is what it was. -/
def Intact (before after : MasterDs) : Prop :=
  after.valid = false ∨
    after.stored = before.stored ∧ after.size = before.size ∧ after.vid = before.vid ∧
      after.did = before.did ∧ after.cs = before.cs

instance (before after : MasterDs) : Decidable (Intact before after) :=
  inferInstanceAs (Decidable (_ ∨ _ ∧ _ ∧ _ ∧ _ ∧ _))

/-- The octets of the records the device has returned agree with the stored set as far as both
go; if no parameter is missing, they have its length. -/
def ReturnsStored (ds : Ds) (is : List DsInput) : Prop :=
  let u := Upload.after ds.indexList is
  (encodeAll u.records <+: ds.masterDs.stored ∨ ds.masterDs.stored <+: encodeAll u.records) ∧
    (u.complete = true → (encodeAll u.records).length = ds.masterDs.size)

instance (ds : Ds) (is : List DsInput) : Decidable (ds.ReturnsStored is) :=
  inferInstanceAs (Decidable ((_ ∨ _) ∧ (_ → _)))

/-- A failure leaves the set as the answers so far have left it. -/
theorem FailedUpload.masterDs {ds : Ds} {is : List DsInput} {fail : DsInput}
    (h : ds.FailedUpload is fail) :
    (ds.afterFailure is fail).masterDs = (Runs.run Ds.step ds.startUpload is).masterDs := by
  have hfollows := follows_run (startUpload_follows h.start) h.goesOn
  have hcase := uploading_step hfollows.uploading fail h.notReplaced
  have hfails := h.fails
  rw [afterFailure]
  revert hcase hfails
  generalize (Runs.run Ds.step ds.startUpload is).step fail = ds'
  rintro (⟨-, hmaster⟩ | ⟨hw, -⟩ | ⟨c, rfl, -, hstate⟩ | ⟨rfl, hstate⟩) hfails
  · exact hmaster
  · exact hw.masterDs
  · have hc : (Runs.run Upload.input (Upload.start ds.indexList) is).complete = false := by
      rw [hfollows.complete_eq, hstate]; rfl
    have hnot := (hfollows.answered c hc).uploading
    rw [Uploading, hfails] at hnot
    exact absurd hnot (by decide)
  · rw [event_ulDone ((acceptSet_state _).trans hstate)] at hfails
    exact absurd hfails (by simp)

/-- **A failed upload and the stored set.** When an upload over a valid set fails, the set is
still what it was exactly if the device has returned what was stored. -/
theorem failed_upload_intact_iff {ds : Ds} {is : List DsInput} {fail : DsInput}
    (hvalid : ds.masterDs.valid = true) (h : ds.FailedUpload is fail) :
    Intact ds.masterDs (ds.afterFailure is fail).masterDs ↔ ds.ReturnsStored is := by
  have hfollows : (Runs.run Ds.step ds.startUpload is).Follows ds.masterDs
      (Upload.after ds.indexList is) := follows_run (startUpload_follows h.start) h.goesOn
  rw [h.masterDs, hfollows.masterDs, Intact, ReturnsStored]
  simp only [MasterDs.stored, hvalid, Bool.true_eq_false, false_or, and_true]
  rw [← Buffer.slice_zero_write_eq_iff _ hfollows.fits]
  cases hc : (Upload.after ds.indexList is).complete with
  | false => simp
  | true =>
    -- both sides fix the length, and then speak about the same window
    simp only [if_true, true_imp_iff]
    refine and_congr_left fun hlen => ?_
    rw [hlen]

/-! ### A set damaged by a failed upload -/

/-- A value below 2^16, as a 32-bit number. -/
def wordValue (hi lo : Octet) : ReadCnf := .ofValue [0, 0, hi, lo] (Nat.le_add_left 4 237)

/-- A device whose index list has the one entry 0x0040, subindex 0. -/
def listOfOneEntry : DsInput := .readCnf (.ofValue [0x00, 0x40, 0, 0, 0] (by decide))

/-- The port is configured for backup and restore, and the device asks for an upload, which is
about to start. -/
def beforeUpload : Ds :=
  Runs.run step {}
    [.portInfo ⟨0x1234, 0x56⟩,
     .init { portmode := .iolMan, validationBackup := .v11BakRestore,
             vendorid := 0x1234, deviceid := 0x56 },
     .startup, .readCnf (wordValue 8 0), .readCnf (.ofOctet 0x80)]

/-- The value 7 has been uploaded, and another upload is about to start. -/
def beforeSecondUpload : Ds :=
  Runs.run step beforeUpload
    [.writeCnf SmiErrorType.none, listOfOneEntry, .readCnf (.ofOctet 7), .readCnf (wordValue 0 1),
     .writeCnf SmiErrorType.none, .upload, .readCnf (wordValue 8 0), .readCnf (.ofOctet 0x80)]

/-- The reading of the checksum fails. -/
def checksumFails : DsInput := .readCnf (.ofError SmiErrorType.comErr)

/-- **A failed upload damages the stored set.** The device returns 9 for the parameter stored as
7, and then the communication is lost: the set is still valid, with the old checksum, and holds
the new value. -/
theorem failed_upload_damages :
    beforeSecondUpload.masterDs.valid = true ∧
      beforeSecondUpload.FailedUpload [listOfOneEntry, .readCnf (.ofOctet 9)] checksumFails ∧
      ¬ Intact beforeSecondUpload.masterDs
        (beforeSecondUpload.afterFailure [listOfOneEntry, .readCnf (.ofOctet 9)]
          checksumFails).masterDs := by
  refine ⟨?_, ⟨?_, ?_, ?_, ?_⟩, ?_⟩ <;> decide +kernel

/-- The same failure when the device returns 7 again. -/
theorem failed_upload_of_same_value :
    Intact beforeSecondUpload.masterDs
      (beforeSecondUpload.afterFailure [listOfOneEntry, .readCnf (.ofOctet 7)]
        checksumFails).masterDs := by
  have h : beforeSecondUpload.FailedUpload [listOfOneEntry, .readCnf (.ofOctet 7)]
      checksumFails := by
    refine ⟨?_, ?_, ?_, ?_⟩ <;> decide +kernel
  exact (failed_upload_intact_iff (by decide +kernel) h).mpr (by decide +kernel)

end Ds

end IolHat

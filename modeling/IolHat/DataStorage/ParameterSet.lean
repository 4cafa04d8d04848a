import IolHat.DataStorage.Machine
import Mathlib.Data.List.GetD
import Mathlib.Data.List.TakeDrop

/-!
# Parameter sets

What `master_ds.data` holds is a sequence of records: index, subindex, length and value of one
parameter each. `Record` is one of them, `Record.encode` its octets and `encodeAll` those of a
whole set. The encoder of the source is spread over the confirmations of an upload and the
decoder over those of a download; both are related to records here, each in one lemma:

* `storeParam_of_fits`: storing a value appends the record of the parameter asked for;
* `writeParam_of_record`: the next write request of a download is that of the record at the
  position, and its data pointer reaches the value.

The application can also bring a set of its own, with `ds_SMI_ParServToDS_req`;
`storesWholeOrRefuses_iff` says which lengths the service handles as intended.
-/

namespace IolHat

open Octets

/-- One stored parameter. -/
structure Record where
  index : UInt16
  subindex : Octet
  value : List Octet
  /-- One octet holds the length. -/
  value_lt : value.length < 256

namespace Record

/-- What stands before the value. -/
def header (r : Record) : List Octet :=
  [(r.index >>> 8).toUInt8, r.index.toUInt8, r.subindex, UInt8.ofNat r.value.length]

/-- The octets of a record. -/
def encode (r : Record) : List Octet := r.header ++ r.value

@[simp]
theorem length_encode (r : Record) : r.encode.length = 4 + r.value.length :=
  List.length_append

/-- The write request that restores the parameter. -/
def write (r : Record) : DsCall (List Octet) := .alWriteReq r.index r.subindex r.value

/-- A record is known from its write request. -/
theorem eq_of_write {r s : Record} (h : r.write = s.write) : r = s := by
  cases r; cases s
  simpa [write] using h

end Record

/-- The octets of a parameter set. -/
def encodeAll (rs : List Record) : List Octet := rs.flatMap Record.encode

@[simp] theorem encodeAll_nil : encodeAll [] = [] := rfl

@[simp]
theorem encodeAll_cons (r : Record) (rs : List Record) :
    encodeAll (r :: rs) = r.encode ++ encodeAll rs := rfl

@[simp]
theorem encodeAll_append (rs ss : List Record) :
    encodeAll (rs ++ ss) = encodeAll rs ++ encodeAll ss := by
  simp [encodeAll]

/-! ### Storing -/

namespace MasterDs

@[simp]
theorem append_append (m : MasterDs) (s t : List Octet) :
    (m.append s).append t = m.append (s ++ t) := by
  simp [append, Buffer.write_write, Nat.add_assoc]

/-- The position and the octets when a set has been stored from the front on. -/
theorem append_of_front {m m₀ : MasterDs} {s : List Octet} {k : ℕ}
    (h : m = { m₀ with data := m₀.data.write 0 s, pos := s.length, size := k }) (t : List Octet) :
    m.append t =
      { m₀ with data := m₀.data.write 0 (s ++ t), pos := (s ++ t).length, size := k } := by
  subst h
  have hwrite := Buffer.write_write m₀.data 0 s t
  rw [Nat.zero_add] at hwrite
  simp [append, hwrite]

end MasterDs

namespace Ds

/-- The record of a confirmed value of the parameter asked for. -/
def recordOf (entry : IndexEntry) (c : ReadCnf) : Record where
  index := entry.index
  subindex := entry.subindex
  value := c.value
  value_lt := by
    have hlen : c.len ≤ 241 := c.len_le
    rw [ReadCnf.length_value]
    omega

/-- Storing a value that fits appends its record. -/
theorem storeParam_of_fits {ds : Ds} {c : ReadCnf}
    (h : ds.masterDs.pos + (4 + c.len) ≤ dsMaxSize) :
    ds.storeParam c = ds.modMaster fun m =>
      m.append (recordOf ⟨ds.currentIndex, ds.currentSubindex⟩ c).encode := by
  have hfits : ds.masterDs.pos + 2 + 1 + c.len < dsMaxSize := by omega
  rw [storeParam, if_pos hfits]
  simp [Record.encode, Record.header, recordOf, ReadCnf.length_value]

/-- A value that does not fit is dropped. -/
theorem storeParam_of_not_fits {ds : Ds} {c : ReadCnf}
    (h : ¬ ds.masterDs.pos + (4 + c.len) ≤ dsMaxSize) : ds.storeParam c = ds := by
  have hfits : ¬ ds.masterDs.pos + 2 + 1 + c.len < dsMaxSize := by omega
  rw [storeParam, if_neg hfits]

/-! ### Reading back -/

/-- Two octets of an index put together again. -/
theorem index_octets (x : UInt16) : (x >>> 8).toUInt8.toUInt16 <<< 8 + x.toUInt8.toUInt16 = x := by
  rw [← UInt16.toNat_inj]
  have hx : x.toNat < 65536 := x.toNat_lt
  simp only [UInt16.toNat_add, UInt16.toNat_shiftLeft, UInt8.toNat_toUInt16,
    UInt16.toNat_toUInt8, UInt16.toNat_shiftRight]
  simp only [show (8 : UInt16).toNat % 16 = 8 from rfl, Nat.shiftRight_eq_div_pow,
    Nat.shiftLeft_eq]
  omega

/-- **The next write request of a download.** With a record at the position, the request names
its parameter, its pointer reaches its value, and the position moves behind it. -/
theorem writeParam_of_record {ds : Ds} {r : Record}
    (h : ds.masterDs.data.slice ds.masterDs.pos r.encode.length = r.encode) :
    ds.writeParam =
        (((ds.access (decide (ds.masterDs.pos + 4 + r.value.length ≤ dsMaxSize))).modMaster
          ({ · with pos := ds.masterDs.pos + r.encode.length })).setCurrent dsParamIndex
            r.subindex).call
          (.alWriteReq r.index r.subindex (.data (ds.masterDs.pos + 4) r.value.length)) ∧
      ds.masterDs.data.slice (ds.masterDs.pos + 4) r.value.length = r.value := by
  have hcell (i : ℕ) (hi : i < 4) :
      ds.masterDs.data.get (ds.masterDs.pos + i) = r.header.getD i default := by
    rw [Buffer.get_add_of_slice _ h (by rw [Record.length_encode]; omega)]
    exact List.getD_append _ _ _ _ (by simpa [Record.header] using hi)
  have h0 := hcell 0 (by decide)
  have h1 := hcell 1 (by decide)
  have h2 := hcell 2 (by decide)
  have h3 := hcell 3 (by decide)
  simp only [Nat.add_zero, Record.header, List.getD_cons_zero, List.getD_cons_succ] at h0 h1 h2 h3
  have hlen : (UInt8.ofNat r.value.length).toNat = r.value.length :=
    UInt8.toNat_ofNat_of_lt' r.value_lt
  constructor
  · simp only [writeParam, h0, h1, h2, h3, hlen, index_octets, Record.length_encode,
      Nat.add_assoc]
  · have hvalue := (Buffer.slice_eq_append (s := r.header) (t := r.value) h).2
    simpa [Record.header] using hvalue

/-! ### A set from the application -/

/-- The block is one the service takes. -/
def TakesBlock (exp : ArgBlockId) (block : ArgBlockDsData) : Prop :=
  exp = ArgBlockId.voidBlock ∧ block.id = ArgBlockId.dsData

instance (exp : ArgBlockId) (block : ArgBlockDsData) : Decidable (TakesBlock exp block) :=
  inferInstanceAs (Decidable (_ ∧ _))

/-- The octets behind the header of the block fit the array. -/
def BlockFits (ds : Ds) (argBlockLen : ℕ) : Prop :=
  sizeofArgBlockDsData ≤ argBlockLen ∧ argBlockLen - sizeofArgBlockDsData ≤ ds.masterDs.sizeMax

instance (ds : Ds) (argBlockLen : ℕ) : Decidable (ds.BlockFits argBlockLen) :=
  inferInstanceAs (Decidable (_ ∧ _))

/-- The service stores the octets behind the header, all of them, if they fit the array.
Otherwise it reports an error and leaves the stored set as it was. -/
def StoresWholeOrRefuses (ds : Ds) (exp : ArgBlockId) (argBlockLen : ℕ)
    (block : ArgBlockDsData) : Prop :=
  if TakesBlock exp block ∧ ds.BlockFits argBlockLen then
    (ds.step (.parServToDs exp argBlockLen block)).masterDs.size =
        argBlockLen - sizeofArgBlockDsData ∧
      (ds.step (.parServToDs exp argBlockLen block)).masterDs.stored =
        block.dsData.takeD (argBlockLen - sizeofArgBlockDsData) 0
  else
    (ds.step (.parServToDs exp argBlockLen block)).masterDs = ds.masterDs ∧
      ∃ error, .smiJoberrorInd exp block.id error ∈
        (ds.step (.parServToDs exp argBlockLen block)).calls

theorem step_parServToDs_refused {ds : Ds} {exp : ArgBlockId} {block : ArgBlockDsData}
    (h : ¬ TakesBlock exp block) (argBlockLen : ℕ) :
    ds.step (.parServToDs exp argBlockLen block) = { ds with calls := [
      .smiJoberrorInd exp block.id SmiErrorType.argblockNotSupported] } := by
  have hother : exp ≠ ArgBlockId.voidBlock ∨ block.id ≠ ArgBlockId.dsData := by
    rwa [TakesBlock, Decidable.not_and_iff_or_not] at h
  exact if_pos hother

/-- The length that is compared with the capacity is below 256, so every block is taken. -/
theorem step_parServToDs_taken {ds : Ds} {exp : ArgBlockId} {block : ArgBlockDsData}
    (h : TakesBlock exp block) (hmax : 255 ≤ ds.masterDs.sizeMax) (argBlockLen : ℕ) :
    (ds.step (.parServToDs exp argBlockLen block)).masterDs.size =
        narrow8 (argBlockLen + 256 - sizeofArgBlockDsData) ∧
      (ds.step (.parServToDs exp argBlockLen block)).masterDs.data =
        ds.masterDs.data.write 0
          (block.dsData.takeD (narrow8 (argBlockLen + 256 - sizeofArgBlockDsData)) 0) ∧
      (ds.step (.parServToDs exp argBlockLen block)).calls = [.smiVoidblockCnf block.id] := by
  have htakes : ¬ (exp ≠ ArgBlockId.voidBlock ∨ block.id ≠ ArgBlockId.dsData) := by
    rintro (hne | hne)
    · exact hne h.1
    · exact hne h.2
  have hsmall : ¬ ds.masterDs.sizeMax < narrow8 (argBlockLen + 256 - sizeofArgBlockDsData) := by
    have hlt := narrow8_lt (argBlockLen + 256 - sizeofArgBlockDsData)
    omega
  have hstep : ds.step (.parServToDs exp argBlockLen block) = _ :=
    (if_neg htakes).trans (if_neg hsmall)
  rw [hstep]
  exact ⟨rfl, rfl, rfl⟩

/-- A block that is taken has been stored whole exactly if its length fits a `uint8_t`. -/
private theorem storesWhole_iff {ds : Ds} {exp : ArgBlockId} {argBlockLen : ℕ}
    {block : ArgBlockDsData} (htakes : TakesBlock exp block)
    (hmax : ds.masterDs.sizeMax = dsMaxSize) :
    StoresWholeOrRefuses ds exp argBlockLen block ↔ 14 ≤ argBlockLen ∧ argBlockLen ≤ 269 := by
  have hcap : 255 ≤ ds.masterDs.sizeMax := by
    rw [hmax]
    decide
  obtain ⟨hsize, hdata, hcalls⟩ := step_parServToDs_taken htakes hcap argBlockLen
  have hnarrow : narrow8 (argBlockLen + 256 - sizeofArgBlockDsData) = (argBlockLen + 242) % 256 :=
    rfl
  rw [hnarrow] at hsize hdata
  rw [StoresWholeOrRefuses]
  by_cases hfits : TakesBlock exp block ∧ ds.BlockFits argBlockLen
  · have hlen : 14 ≤ argBlockLen ∧ argBlockLen - 14 ≤ 2048 := by
      rw [BlockFits, hmax] at hfits
      exact hfits.2
    rw [if_pos hfits, hsize, MasterDs.stored, hsize, hdata]
    constructor
    · rintro ⟨heq, -⟩
      have heq : (argBlockLen + 242) % 256 = argBlockLen - 14 := heq
      omega
    · rintro ⟨hlo, hhi⟩
      have heq : (argBlockLen + 242) % 256 = argBlockLen - 14 := by omega
      refine ⟨heq, ?_⟩
      rw [heq]
      have hcells : (block.dsData.takeD (argBlockLen - 14) 0).length ≤ dsMaxSize := by
        rw [List.takeD_length]
        exact hlen.2
      have hslice := ds.masterDs.data.slice_zero_write hcells
      rwa [List.takeD_length] at hslice
  · rw [if_neg hfits]
    refine iff_of_false ?_ ?_
    · -- the block is acknowledged
      rintro ⟨-, error, hmem⟩
      rw [hcalls, List.mem_singleton] at hmem
      cases hmem
    · rintro ⟨hlo, hhi⟩
      refine hfits ⟨htakes, hlo, ?_⟩
      rw [hmax]
      show argBlockLen - 14 ≤ 2048
      omega

theorem sizeMax_run (inputs : List DsInput) :
    (Runs.run step {} inputs).masterDs.sizeMax = dsMaxSize :=
  (Runs.reaches_run_true {} inputs).invariant (fun ds : Ds => ds.masterDs.sizeMax = dsMaxSize)
    rfl fun ds i h _ => (ds.sizeMax_step i).trans h

/-- **When a set from the application is stored whole or refused.** In any run of the layer, the
service does what it is meant to exactly if the block is not its own, or the set behind the
header is not longer than a `uint8_t` can say. -/
theorem storesWholeOrRefuses_iff (inputs : List DsInput) (exp : ArgBlockId)
    (argBlockLen : UInt16) (block : ArgBlockDsData) :
    StoresWholeOrRefuses (Runs.run step {} inputs) exp argBlockLen.toNat block ↔
      (TakesBlock exp block → 14 ≤ argBlockLen.toNat ∧ argBlockLen.toNat ≤ 269) := by
  by_cases htakes : TakesBlock exp block
  · rw [storesWhole_iff htakes (sizeMax_run inputs)]
    exact ⟨fun h _ => h, fun h => h htakes⟩
  · refine iff_of_true ?_ fun h => absurd h htakes
    rw [StoresWholeOrRefuses, if_neg fun h => htakes h.1, step_parServToDs_refused htakes]
    exact ⟨rfl, SmiErrorType.argblockNotSupported, List.mem_singleton.mpr rfl⟩

/-- **A set of 256 octets is stored as an empty one.** The service acknowledges it. -/
theorem set_of_256_octets_is_lost :
    ¬ StoresWholeOrRefuses (Runs.run step {} []) ArgBlockId.voidBlock 270
      ⟨ArgBlockId.dsData, 1, 2, 0, List.replicate 256 7⟩ := by
  intro h
  rw [StoresWholeOrRefuses, if_pos (by decide)] at h
  exact absurd h.1 (by decide +kernel)

end Ds

end IolHat

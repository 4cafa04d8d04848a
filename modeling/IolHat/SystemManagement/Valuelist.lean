import IolHat.DataLink.Thread
import IolHat.PhysicalLayer.Max14819

/-!
# The message sequence of a device

`populate_valuelist` derives the M-sequence type and the lengths of a message from the octets of
the device's direct parameter page. This module follows these lengths to the places where they
are used as bounds: the message buffers of the data link layer and the arrays of the driver.

* `populateValuelist` is the decision tree, one definition for each of its parts.
* `MessageFits` are the bounds that the buffers impose on a value list, and `AccessesInside` what
  they are for: every access of a layer configured with the value list stays inside.
* `selected_fits_iff` says for which devices a selected message does not fit: those of revision
  1.1 with 32 octets of on-request data and nearly 32 octets of process data (`Oversized`).
-/

namespace IolHat

namespace Sm

/-! ### Selecting the message sequence -/

/-- `set_valuelist`. -/
def setValuelist (onreqdatalength pdinputlength pdoutputlength : ℕ) (time : Octet)
    (type : MSequenceType) : ModeVl where
  time := time
  type := type
  pdinputlength := pdinputlength
  pdoutputlength := pdoutputlength
  onreqdatalengthpermessage := onreqdatalength

/-- `set_type_0_or_type_1_2`; `none` where its assertion fails. -/
def setType0OrType12 (operate : ℕ) (cycbyte : Octet) : Option ModeVl :=
  if operate = 0 ∨ operate = 1 then
    some (setValuelist (operate + 1) 0 0 cycbyte (if operate = 0 then .type0 else .type12))
  else none

/-- The octets of process data of a length given in octets or in bits. -/
def pdLength (isbytes : Bool) (n : ℕ) : ℕ := if isbytes then n + 1 else (n + 7) >>> 3

/-- A process data length that TYPE_2_V takes. -/
def type2VLength (isbytes : Bool) (n : ℕ) : Prop :=
  (isbytes = true ∧ n ≠ 1) ∨ (isbytes = false ∧ n < 17)

instance (isbytes : Bool) (n : ℕ) : Decidable (type2VLength isbytes n) :=
  inferInstanceAs (Decidable (_ ∨ _))

/-- `set_type_2_V`. -/
def setType2V (pdinIsbytes pdoutIsbytes : Bool) (pdin pdout onreqdatalength : ℕ)
    (valuelist : ModeVl) : ModeVl :=
  if type2VLength pdinIsbytes pdin then
    let valuelist := { valuelist with pdinputlength := pdLength pdinIsbytes pdin }
    if type2VLength pdoutIsbytes pdout then
      { valuelist with
        pdoutputlength := pdLength pdoutIsbytes pdout
        onreqdatalengthpermessage := onreqdatalength
        type := .type2V }
    else valuelist
  else valuelist

/-- `populate_valuelist`, for PREOPERATE. -/
def populatePreop (mscapa cycbyte : Octet) : Option ModeVl :=
  let preopM := ((mscapa >>> 4) &&& 0x03).toNat
  if preopM < 2 then setType0OrType12 preopM cycbyte
  else some (setValuelist (if preopM = 2 then 8 else 32) 0 0 cycbyte .type1V)

/-- `populate_valuelist`, for a device of revision 1.0 with process data. -/
def populateLegacy (pdinIsbytes pdoutIsbytes : Bool) (pdin pdout : ℕ) (cycbyte : Octet)
    (valuelist : ModeVl) : ModeVl :=
  if (pdinIsbytes ∨ pdoutIsbytes) ∧ (pdin ≥ 3 ∨ pdout ≥ 3) then
    setValuelist 2 0 0 cycbyte .type11
  else if pdout = 0 then
    if pdin > 0 ∧ pdin ≤ 8 then setValuelist 1 1 0 cycbyte .type21
    else if pdin ≥ 9 ∧ pdin ≤ 16 then setValuelist 1 2 0 cycbyte .type22
    else valuelist
  else if pdin = 0 then
    if pdout > 0 ∧ pdout ≤ 8 then setValuelist 1 0 1 cycbyte .type23
    else if pdout ≥ 9 ∧ pdout ≤ 16 then setValuelist 1 0 2 cycbyte .type24
    else valuelist
  else if pdin ≥ 1 ∧ pdin ≤ 8 ∧ pdout ≥ 1 ∧ pdout ≤ 8 then setValuelist 1 1 1 cycbyte .type25
  else if pdin = 16 ∧ pdout = 16 then setValuelist 1 2 2 cycbyte .type26
  else valuelist

/-- `populate_valuelist`, for the M-sequence code 0. -/
def populateCode0 (pdinIsbytes pdoutIsbytes : Bool) (pdin pdout : ℕ) (cycbyte : Octet)
    (valuelist : ModeVl) : ModeVl :=
  if pdin = 0 ∧ pdout = 0 then setValuelist 1 0 0 cycbyte .type0
  else if pdinIsbytes = false ∧ pdoutIsbytes = false then
    if pdout = 0 then
      if pdin ≥ 1 ∧ pdin ≤ 8 then setValuelist 1 1 0 cycbyte .type21
      else if pdin ≥ 9 ∧ pdin ≤ 16 then setValuelist 1 2 0 cycbyte .type22
      else valuelist
    else if pdin = 0 then
      if pdout ≥ 1 ∧ pdout ≤ 8 then setValuelist 1 0 1 cycbyte .type23
      else if pdout ≥ 9 ∧ pdout ≤ 16 then setValuelist 1 0 2 cycbyte .type24
      else valuelist
    else if pdin ≥ 1 ∧ pdin ≤ 8 ∧ pdout ≥ 1 ∧ pdout ≤ 8 then
      setValuelist 1 1 1 cycbyte .type25
    else if (pdin ≥ 9 ∧ pdin ≤ 16 ∧ pdout ≥ 1 ∧ pdout ≤ 16) ∨
        (pdin ≥ 1 ∧ pdin ≤ 16 ∧ pdout ≥ 9 ∧ pdout ≤ 16) then
      setValuelist 1 (if pdin ≥ 9 then 2 else 1) (if pdout ≥ 9 then 2 else 1) cycbyte .type2V
    else valuelist
  else setValuelist 2 0 0 cycbyte .type11

/-- `populate_valuelist`, for the M-sequence codes 5 to 7. -/
def populateCode567 (operM : ℕ) (pdinIsbytes pdoutIsbytes : Bool) (pdin pdout : ℕ)
    (cycbyte : Octet) (valuelist : ModeVl) : ModeVl :=
  let onreqdatalength := 1 <<< (2 * operM - 9)
  if pdin > 0 ∨ pdout > 0 then
    setType2V pdinIsbytes pdoutIsbytes pdin pdout onreqdatalength valuelist
  else if operM ≠ 5 then setValuelist onreqdatalength 0 0 cycbyte .type1V
  else valuelist

/-- `populate_valuelist`, for a device of revision 1.1. -/
def populateOperate (operM : ℕ) (pdinIsbytes pdoutIsbytes : Bool) (pdin pdout : ℕ)
    (cycbyte : Octet) (valuelist : ModeVl) : ModeVl :=
  match operM with
  | 0 => populateCode0 pdinIsbytes pdoutIsbytes pdin pdout cycbyte valuelist
  | 1 => if pdin = 0 ∧ pdout = 0 then setValuelist 2 0 0 cycbyte .type12 else valuelist
  | 4 =>
    if pdinIsbytes ∧ pdoutIsbytes then
      if pdout ≥ 3 ∨ pdin ≥ 3 then setValuelist 1 (pdin + 1) (pdout + 1) cycbyte .type2V
      else valuelist
    else setType2V pdinIsbytes pdoutIsbytes pdin pdout 1 valuelist
  | 5 | 6 | 7 => populateCode567 operM pdinIsbytes pdoutIsbytes pdin pdout cycbyte valuelist
  | _ => valuelist

/-- `IOLINK_REVISION_1_1`. -/
abbrev revision11 : Octet := 0x11

/-- The code for OPERATE in the M-sequence capability. -/
def operM (mscapa : Octet) : ℕ := ((mscapa >>> 1) &&& 0x07).toNat

/-- The length field of a process data descriptor. -/
def pdField (pd : Octet) : ℕ := (pd &&& 0x1F).toNat

/-- The length field of a process data descriptor counts octets. -/
def pdIsbytes (pd : Octet) : Bool := pd &&& 0x80 ≠ 0

/-- `populate_valuelist`; `none` where an assertion fails. -/
def populateValuelist (mscapa revid pdin pdout cycbyte : Octet) (operate : Bool)
    (valuelist : ModeVl) : Option ModeVl :=
  let valuelist := { valuelist with type := .none }
  if !operate then populatePreop mscapa cycbyte
  else if revid ≠ revision11 then
    if pdField pdin = 0 ∧ pdField pdout = 0 then setType0OrType12 (operM mscapa) cycbyte
    else some (populateLegacy (pdIsbytes pdin) (pdIsbytes pdout) (pdField pdin) (pdField pdout)
      cycbyte valuelist)
  else
    some (populateOperate (operM mscapa) (pdIsbytes pdin) (pdIsbytes pdout) (pdField pdin)
      (pdField pdout) cycbyte valuelist)

/-! ### The bounds of a message -/

/-- The lengths of a value list fit the message buffers and the SPI array of the driver. -/
structure MessageFits (vl : ModeVl) : Prop where
  /-- The two head octets, the output octets and the on-request octets. -/
  txbuffer : 2 + vl.pdoutputlength + vl.onreqdatalengthpermessage ≤ rxtxBufferSize
  /-- The same, behind the command octet and two length octets. -/
  dataTx : 1 + 2 + (2 + vl.pdoutputlength + vl.onreqdatalengthpermessage) ≤
    Max14819.burstWriteSize
  /-- The input octets, the on-request octets and the check/stat octet. -/
  rxbuffer : vl.pdinputlength + vl.onreqdatalengthpermessage + 1 ≤ rxtxBufferSize

instance (vl : ModeVl) : Decidable (MessageFits vl) :=
  decidable_of_iff (_ ∧ _ ∧ _) ⟨fun h => ⟨h.1, h.2.1, h.2.2⟩, fun h => ⟨h.1, h.2, h.3⟩⟩

/-- A data link layer that works with the lengths of a value list, after `DL_SetMode_req` and
`set_mseq_change` without interleave. -/
structure Configured (vl : ModeVl) (dl : Dl) : Prop where
  odLen : dl.messageHandler.odLen = vl.onreqdatalengthpermessage
  mhPdRxlen : dl.messageHandler.pdRxlen = vl.pdinputlength
  pdRxlen : dl.pdHandler.pdRxlen = vl.pdinputlength
  pdTxlen : dl.pdHandler.pdTxlen = vl.pdoutputlength
  pdoutBuffer : dl.pdHandler.pdoutBuffer = 2
  odoutBuffer : dl.odHandler.odoutBuffer = 2 + vl.pdoutputlength

/-- The lengths with which `OD_req` leaves the on-request data of a message. -/
def OdLengths (dl : Dl) : Prop :=
  dl.odHandler.odRxlen ≤ dl.messageHandler.odLen ∧ dl.odHandler.odTxlen ≤ dl.messageHandler.odLen

/-- The accesses that the lengths of a message decide: of `OD_req` and `PD_req` to `txbuffer`, of
the check/stat octet and of `iolink_pl_get_data` to `rxbuffer`, and of the driver to its
arrays. -/
structure AccessesInside (dl : Dl) : Prop where
  odReq : ∀ rw ch a len p, len ≤ dl.messageHandler.odLen → p.array ≠ .txbuffer →
    Fault.txbuffer ∈ (dl.odReq rw ch a len p).2.faults → Fault.txbuffer ∈ dl.faults
  pdReq : ∀ rxlen a p, p.array ≠ .txbuffer →
    Fault.txbuffer ∈ (dl.pdReq rxlen (some p) a dl.pdHandler.pdTxlen).2.faults →
      Fault.txbuffer ∈ dl.faults
  cks : OdLengths dl → Fault.rxbuffer ∈ dl.readCks.faults → Fault.rxbuffer ∈ dl.faults
  getData : ∀ fifo, (Max14819.getData fifo
    (narrow8 (dl.messageHandler.odLen + dl.messageHandler.pdRxlen + 1))).Inside
  burst : OdLengths dl → ∀ command, ∃ t, Max14819.setMasterMessage command dl.txbuffer.cells
    dl.pdMessageLengths.2 dl.pdMessageLengths.1 = some t ∧ t.Inside

/-- Devices of revision 1.1 with 32 octets of on-request data in OPERATE whose process data, given
in octets, has at least 29 output octets or 32 input octets. -/
def Oversized (mscapa revid pdin pdout : Octet) (operate : Bool) : Prop :=
  operate = true ∧ revid = revision11 ∧ operM mscapa = 7 ∧
    (pdIsbytes pdout = true ∧ 28 ≤ pdField pdout ∨ pdIsbytes pdin = true ∧ pdField pdin = 31)

instance (mscapa revid pdin pdout : Octet) (operate : Bool) :
    Decidable (Oversized mscapa revid pdin pdout operate) :=
  inferInstanceAs (Decidable (_ ∧ _))

/-! ### What the lengths are for -/

theorem pdField_le (pd : Octet) : pdField pd ≤ 31 := by
  simp only [pdField, UInt8.toNat_and]
  exact Nat.and_le_right

/-- On-request data whose place ends inside `txbuffer`. -/
private theorem odReq_txbuffer {dl : Dl} {rw : RwDirection} {ch : ComChannel} {a len : ℕ}
    {p : OctetPtr}
    (hfit : dl.odHandler.odoutBuffer + max len dl.messageHandler.odLen ≤ rxtxBufferSize)
    (hp : p.array ≠ .txbuffer) (hf : Fault.txbuffer ∈ (dl.odReq rw ch a len p).2.faults) :
    Fault.txbuffer ∈ dl.faults := by
  cases rw with
  | read => simpa using hf
  | write =>
    simp only [Dl.odReq] at hf
    split_ifs at hf
    · exact hf
    · exact hf
    · cases ch with
      | process => exact hf
      | _ => simpa [hp.symm, Nat.not_lt.mpr hfit] using hf

/-- **A message that fits is harmless.** -/
theorem MessageFits.accessesInside {vl : ModeVl} (h : MessageFits vl) {dl : Dl}
    (hc : Configured vl dl) : AccessesInside dl := by
  have htx : 2 + vl.pdoutputlength + vl.onreqdatalengthpermessage ≤ 64 := h.txbuffer
  have hrx : vl.pdinputlength + vl.onreqdatalengthpermessage + 1 ≤ 64 := h.rxbuffer
  have htx' : 1 + 2 + (2 + vl.pdoutputlength + vl.onreqdatalengthpermessage) ≤ 65 := h.dataTx
  have hod := hc.odLen
  -- The on-request octets, the process data, the check octet, the FIFO and the message.
  refine ⟨?_, ?_, ?_, ?_, ?_⟩
  · intro rw ch a len p hlen hp hf
    exact odReq_txbuffer (by rw [hc.odoutBuffer, Nat.max_eq_right hlen, hod]; exact htx) hp hf
  · intro rxlen a p hp hf
    simp only [Dl.pdReq] at hf
    split_ifs at hf
    · exact hf
    · exact hf
    · have hfit : dl.pdHandler.pdoutBuffer + dl.pdHandler.pdTxlen ≤ 64 := by
        rw [hc.pdoutBuffer, hc.pdTxlen]
        omega
      simpa [hp.symm, Nat.not_lt.mpr hfit] using hf
  · rintro ⟨hlen, -⟩ hf
    have hfit : dl.odHandler.odRxlen + dl.pdHandler.pdRxlen < 64 := by
      rw [hc.pdRxlen]
      omega
    simpa [Dl.readCks, Nat.not_le.mpr hfit] using hf
  · intro fifo
    refine Max14819.getData_inside fifo ?_
    rw [hod, hc.mhPdRxlen, narrow8_of_lt (by omega)]
    change _ ≤ 64
    omega
  · rintro ⟨hrxlen, htxlen⟩ command
    have htxl : dl.pdMessageLengths.2 = dl.odHandler.odTxlen + dl.pdHandler.pdTxlen + 2 :=
      narrow8_of_lt (by rw [hc.pdTxlen]; omega)
    have hrxl : dl.pdMessageLengths.1 = dl.odHandler.odRxlen + dl.pdHandler.pdRxlen + 1 :=
      narrow8_of_lt (by rw [hc.pdRxlen]; omega)
    refine Max14819.setMasterMessage_inside _ _ (by omega) ?_ (by omega)
    rw [htxl, hc.pdTxlen]
    change _ ≤ 65
    omega

/-! ### Which devices fit -/

/-- A small message. -/
private def Small (vl : ModeVl) : Prop :=
  vl.type ≠ .none → vl.pdinputlength ≤ 2 ∧ vl.pdoutputlength ≤ 2 ∧ vl.onreqdatalengthpermessage ≤ 32

private theorem small_setValuelist {od pdin pdout : ℕ} {time : Octet} {type : MSequenceType}
    (hin : pdin ≤ 2) (hout : pdout ≤ 2) (hod : od ≤ 32) :
    Small (setValuelist od pdin pdout time type) := fun _ => ⟨hin, hout, hod⟩

private theorem Small.fits {vl : ModeVl} (h : Small vl) (hsel : vl.type ≠ .none) :
    MessageFits vl := by
  obtain ⟨hin, hout, hod⟩ := h hsel
  refine ⟨?_, ?_, ?_⟩
  · change _ ≤ 64; omega
  · change _ ≤ 65; omega
  · change _ ≤ 64; omega

private theorem small_setType0OrType12 {n : ℕ} {cycbyte : Octet} {vl : ModeVl}
    (h : setType0OrType12 n cycbyte = some vl) : Small vl := by
  simp only [setType0OrType12] at h
  by_cases hn : n = 0 ∨ n = 1
  · rw [if_pos hn] at h
    obtain rfl := Option.some.inj h
    exact small_setValuelist (by omega) (by omega) (by omega)
  · rw [if_neg hn] at h
    cases h

private theorem small_populatePreop {mscapa cycbyte : Octet} {vl : ModeVl}
    (h : populatePreop mscapa cycbyte = some vl) : Small vl := by
  simp only [populatePreop] at h
  split_ifs at h
  · exact small_setType0OrType12 h
  · obtain rfl := Option.some.inj h
    exact small_setValuelist (by omega) (by omega) (by omega)
  · obtain rfl := Option.some.inj h
    exact small_setValuelist (by omega) (by omega) (by omega)

section

variable {bin bout : Bool} {pdin pdout : ℕ} {cycbyte : Octet} {vl : ModeVl}

private theorem small_populateLegacy (h : vl.type = .none) :
    Small (populateLegacy bin bout pdin pdout cycbyte vl) := by
  have hnone : Small vl := fun hsel => absurd h hsel
  simp only [populateLegacy]
  split_ifs
  all_goals first
    | exact hnone
    | exact small_setValuelist (by omega) (by omega) (by omega)

private theorem small_populateCode0 (h : vl.type = .none) :
    Small (populateCode0 bin bout pdin pdout cycbyte vl) := by
  have hnone : Small vl := fun hsel => absurd h hsel
  simp only [populateCode0]
  split_ifs
  all_goals first
    | exact hnone
    | exact small_setValuelist (by omega) (by omega) (by omega)

/-- What TYPE_2_V selects. -/
private theorem setType2V_of_selected {od : ℕ} (h : vl.type = .none)
    (hsel : (setType2V bin bout pdin pdout od vl).type ≠ .none) :
    type2VLength bin pdin ∧ type2VLength bout pdout ∧
      (setType2V bin bout pdin pdout od vl).pdinputlength = pdLength bin pdin ∧
      (setType2V bin bout pdin pdout od vl).pdoutputlength = pdLength bout pdout ∧
      (setType2V bin bout pdin pdout od vl).onreqdatalengthpermessage = od := by
  simp only [setType2V] at hsel ⊢
  split_ifs at hsel ⊢ with hin hout
  · exact ⟨hin, hout, rfl, rfl, rfl⟩
  · exact absurd h hsel
  · exact absurd h hsel

end

/-- The bounds of a message, by its lengths. -/
theorem messageFits_iff {vl : ModeVl} : MessageFits vl ↔
    5 + vl.pdoutputlength + vl.onreqdatalengthpermessage ≤ 65 ∧
      vl.pdinputlength + vl.onreqdatalengthpermessage + 1 ≤ 64 := by
  constructor
  · rintro ⟨-, h2, h3⟩
    have h2' : 1 + 2 + (2 + vl.pdoutputlength + vl.onreqdatalengthpermessage) ≤ 65 := h2
    exact ⟨by omega, h3⟩
  · rintro ⟨h2, h3⟩
    refine ⟨?_, ?_, h3⟩
    · change _ ≤ 64; omega
    · change _ ≤ 65; omega

/-- A length that TYPE_2_V takes, in octets. -/
private theorem pdLength_cases {isbytes : Bool} {n : ℕ} (h : type2VLength isbytes n) :
    (isbytes = true ∧ pdLength isbytes n = n + 1) ∨
      (isbytes = false ∧ pdLength isbytes n ≤ 2) := by
  rcases h with ⟨rfl, -⟩ | ⟨rfl, hn⟩
  · exact .inl ⟨rfl, rfl⟩
  · refine .inr ⟨rfl, ?_⟩
    simp only [pdLength, Bool.false_eq_true, if_false, Nat.shiftRight_eq_div_pow]
    omega

/-- The M-sequence codes 5 to 7. -/
private theorem populateCode567_fits_iff {m pdin pdout : ℕ} {bin bout : Bool} {cycbyte : Octet}
    {vl : ModeVl} (hm : m = 5 ∨ m = 6 ∨ m = 7) (h : vl.type = .none) (hin : pdin ≤ 31)
    (hout : pdout ≤ 31)
    (hsel : (populateCode567 m bin bout pdin pdout cycbyte vl).type ≠ .none) :
    MessageFits (populateCode567 m bin bout pdin pdout cycbyte vl) ↔
      ¬ (m = 7 ∧ (bout = true ∧ 28 ≤ pdout ∨ bin = true ∧ pdin = 31)) := by
  simp only [populateCode567] at hsel ⊢
  have hod : 1 <<< (2 * m - 9) = 2 ∧ m = 5 ∨ 1 <<< (2 * m - 9) = 8 ∧ m = 6 ∨
      1 <<< (2 * m - 9) = 32 ∧ m = 7 := by
    rcases hm with rfl | rfl | rfl <;> decide
  split_ifs at hsel ⊢ with hpd hfive
  · obtain ⟨hpin, hpout, hlin, hlout, hlod⟩ := setType2V_of_selected h hsel
    rw [messageFits_iff, hlin, hlout, hlod]
    rcases pdLength_cases hpin with ⟨rfl, hi⟩ | ⟨rfl, hi⟩ <;>
      rcases pdLength_cases hpout with ⟨rfl, ho⟩ | ⟨rfl, ho⟩ <;>
      simp only [true_and, Bool.false_eq_true, false_and, false_or, or_false, and_false,
        not_false_eq_true, iff_true] <;> omega
  · have hfits := (small_setValuelist (by omega) (by omega) (by omega)).fits hsel
    exact iff_of_true hfits (by omega)
  · exact absurd h hsel

/-- A device of revision 1.1 in OPERATE. -/
private theorem populateOperate_fits_iff {m pdin pdout : ℕ} {bin bout : Bool} {cycbyte : Octet}
    {vl : ModeVl} (h : vl.type = .none) (hin : pdin ≤ 31) (hout : pdout ≤ 31)
    (hsel : (populateOperate m bin bout pdin pdout cycbyte vl).type ≠ .none) :
    MessageFits (populateOperate m bin bout pdin pdout cycbyte vl) ↔
      ¬ (m = 7 ∧ (bout = true ∧ 28 ≤ pdout ∨ bin = true ∧ pdin = 31)) := by
  simp only [populateOperate] at hsel ⊢
  split at hsel
  · exact iff_of_true ((small_populateCode0 h).fits hsel) (by omega)
  · split_ifs at hsel ⊢
    · exact iff_of_true ((small_setValuelist (by omega) (by omega) (by omega)).fits hsel) (by omega)
    · exact absurd h hsel
  · refine iff_of_true ?_ (by omega)
    split_ifs at hsel ⊢
    · rw [messageFits_iff]
      simp only [setValuelist]
      omega
    · exact absurd h hsel
    · obtain ⟨hpin, hpout, hlin, hlout, hlod⟩ := setType2V_of_selected h hsel
      rw [messageFits_iff, hlin, hlout, hlod]
      rcases pdLength_cases hpin with ⟨-, hi⟩ | ⟨-, hi⟩ <;>
        rcases pdLength_cases hpout with ⟨-, ho⟩ | ⟨-, ho⟩ <;> omega
  · exact populateCode567_fits_iff (by omega) h hin hout hsel
  · exact populateCode567_fits_iff (by omega) h hin hout hsel
  · exact populateCode567_fits_iff (by omega) h hin hout hsel
  · exact absurd h hsel

/-- **The messages that fit.** For every device and both target modes, a selected message fits
the buffers, and no access decided by its lengths leaves its array, unless the device has 32
octets of on-request data and nearly as many octets of process data. -/
theorem selected_fits_iff (mscapa revid pdin pdout cycbyte : Octet) (operate : Bool)
    (start vl : ModeVl)
    (h : populateValuelist mscapa revid pdin pdout cycbyte operate start = some vl)
    (hsel : vl.type ≠ .none) :
    (MessageFits vl ∧ ∀ dl, Configured vl dl → AccessesInside dl) ↔
      ¬ Oversized mscapa revid pdin pdout operate := by
  have hred : (MessageFits vl ∧ ∀ dl, Configured vl dl → AccessesInside dl) ↔ MessageFits vl :=
    ⟨And.left, fun hf => ⟨hf, fun _ hc => hf.accessesInside hc⟩⟩
  rw [hred]
  have hin := pdField_le pdin
  have hout := pdField_le pdout
  simp only [populateValuelist] at h
  split_ifs at h with hop hrev hzero
  · have hnot : ¬ Oversized mscapa revid pdin pdout operate := by
      rintro ⟨h1, -⟩
      simp [h1] at hop
    exact iff_of_true ((small_populatePreop h).fits hsel) hnot
  · exact iff_of_true ((small_setType0OrType12 h).fits hsel) fun ho => hrev ho.2.1
  · obtain rfl := Option.some.inj h
    exact iff_of_true ((small_populateLegacy rfl).fits hsel) fun ho => hrev ho.2.1
  · obtain rfl := Option.some.inj h
    have hrev' : revid = revision11 := not_not.mp hrev
    have hop' : operate = true := by simpa using hop
    simp only [Oversized, hrev', hop', true_and]
    exact populateOperate_fits_iff rfl hin hout hsel

private theorem Small.regular {vl : ModeVl} (h : Small vl) (hsel : vl.type ≠ .none) :
    vl.Regular := by
  obtain ⟨hin, hout, hod⟩ := h hsel
  exact ⟨by omega, by omega, hod⟩

/-- A length of process data that TYPE_2_V takes is one of at most 32 octets. -/
private theorem regular_setType2V {bin bout : Bool} {pdin pdout od : ℕ} {vl : ModeVl}
    (h : vl.type = .none) (hin : pdin ≤ 31) (hout : pdout ≤ 31) (hod : od ≤ 32)
    (hsel : (setType2V bin bout pdin pdout od vl).type ≠ .none) :
    (setType2V bin bout pdin pdout od vl).Regular := by
  obtain ⟨hpin, hpout, hlin, hlout, hlod⟩ := setType2V_of_selected h hsel
  refine ⟨?_, ?_, Nat.le_trans (Nat.le_of_eq hlod) hod⟩
  · rw [hlin]
    rcases pdLength_cases hpin with ⟨-, hi⟩ | ⟨-, hi⟩ <;> omega
  · rw [hlout]
    rcases pdLength_cases hpout with ⟨-, ho⟩ | ⟨-, ho⟩ <;> omega

private theorem regular_populateOperate {m pdin pdout : ℕ} {bin bout : Bool} {cycbyte : Octet}
    {vl : ModeVl} (h : vl.type = .none) (hin : pdin ≤ 31) (hout : pdout ≤ 31)
    (hsel : (populateOperate m bin bout pdin pdout cycbyte vl).type ≠ .none) :
    (populateOperate m bin bout pdin pdout cycbyte vl).Regular := by
  have hcode567 : ∀ m, m = 5 ∨ m = 6 ∨ m = 7 →
      (populateCode567 m bin bout pdin pdout cycbyte vl).type ≠ .none →
      (populateCode567 m bin bout pdin pdout cycbyte vl).Regular := by
    intro m hm hsel
    have hod : 1 <<< (2 * m - 9) ≤ 32 := by
      rcases hm with rfl | rfl | rfl <;> decide
    simp only [populateCode567] at hsel ⊢
    split_ifs at hsel ⊢
    · exact regular_setType2V h hin hout hod hsel
    · exact (small_setValuelist (by omega) (by omega) hod).regular hsel
    · exact absurd h hsel
  simp only [populateOperate] at hsel ⊢
  split at hsel
  · exact (small_populateCode0 h).regular hsel
  · split_ifs at hsel ⊢
    · exact (small_setValuelist (by omega) (by omega) (by omega)).regular hsel
    · exact absurd h hsel
  · split_ifs at hsel ⊢
    · exact ⟨show pdin + 1 ≤ 32 by omega, show pdout + 1 ≤ 32 by omega, show 1 ≤ 32 by decide⟩
    · exact absurd h hsel
    · exact regular_setType2V h hin hout (by omega) hsel
  · exact hcode567 5 (by omega) hsel
  · exact hcode567 6 (by omega) hsel
  · exact hcode567 7 (by omega) hsel
  · exact absurd h hsel

/-- Every message that is selected has at most 32 octets of each kind. -/
theorem regular_of_selected {mscapa revid pdin pdout cycbyte : Octet} {operate : Bool}
    {start vl : ModeVl}
    (h : populateValuelist mscapa revid pdin pdout cycbyte operate start = some vl)
    (hsel : vl.type ≠ .none) : vl.Regular := by
  simp only [populateValuelist] at h
  split_ifs at h
  · exact (small_populatePreop h).regular hsel
  · exact (small_setType0OrType12 h).regular hsel
  · obtain rfl := Option.some.inj h
    exact (small_populateLegacy rfl).regular hsel
  · obtain rfl := Option.some.inj h
    exact regular_populateOperate rfl (pdField_le pdin) (pdField_le pdout) hsel

section Instances

/-- A device of revision 1.1 with 32 octets of on-request data and 32 octets of output data: the
message is longer than `txbuffer`, and the driver, whose assertion it passes, leaves its array. -/
theorem oversized_message : ∃ vl,
    populateValuelist 0x0E revision11 0x00 0x9F 0 true default = some vl ∧ vl.type ≠ .none ∧
      ¬ MessageFits vl ∧
      ∀ command data rxlen t, Max14819.setMasterMessage command data
        (2 + vl.pdoutputlength + vl.onreqdatalengthpermessage) rxlen = some t → ¬ t.Inside := by
  refine ⟨⟨0, .type2V, 0, 32, 32⟩, by decide, by decide, by decide, ?_⟩
  intro command data rxlen t ht
  exact Max14819.setMasterMessage_outside command data ht (by decide)

/-- With 28 octets of output data it fits. -/
theorem fits_of_28_octets :
    MessageFits ⟨0, .type2V, 0, 28, 32⟩ ∧
      ∀ dl, Configured ⟨0, .type2V, 0, 28, 32⟩ dl → AccessesInside dl :=
  (selected_fits_iff 0x0E revision11 0x00 0x9B 0 true default _ (by decide) (by decide)).mpr
    (by decide)

end Instances

end Sm

end IolHat

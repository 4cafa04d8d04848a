import IolHat.DataLink.Isdu
import IolHat.Lib.Run

/-!
# Response ISDUs and message exchanges

What the ISDU handler is given, and what it makes of a response that has arrived completely.

* `ResponseIsdu` is a well-formed response: direction, length field and check sum agree with
  its octets.
* `Dl.exchange` is one message exchange as the handler sees it: it is called to prepare the
  master message, and again with the device's answer in `rxbuffer`. The log of calls only grows
  (`exchange_out`).
* `getIsduTotalLen_of_arrived` and `getIsduTotalLen_of_stale` say what the length field reads
  as, depending on whether its octets have arrived; `isduHSmReceptionComplete_of_arrived` is the
  positive confirmation.
-/

namespace IolHat

/-! ### Well-formed responses -/

/-- The I-service nibble of an ISDU. -/
def iservOf (isdu : List Octet) : Octet := (isdu.getD 0 0 >>> 4) &&& 0x0F

/-- The length nibble of an ISDU. -/
def lenNibbleOf (isdu : List Octet) : ℕ := (isdu.getD 0 0 &&& 0x0F).toNat

/-- A well-formed response ISDU to a request of the given direction: a response I-service of
that direction, a short (2 to 15) or an extended (17 to 238) length that counts the octets, and
a check sum that brings their exclusive-or to zero. -/
structure ResponseIsdu (dirRead : Bool) where
  octets : List Octet
  extended : Bool
  iserv_eq : iservOf octets = (bif dirRead then iserviceReadResponseNeg
      else iserviceWriteResponseNeg) ∨
    iservOf octets = (bif dirRead then iserviceReadResponsePos else iserviceWriteResponsePos)
  short_len : extended = false →
    lenNibbleOf octets = octets.length ∧ 2 ≤ octets.length ∧ octets.length ≤ 15
  extended_len : extended = true →
    lenNibbleOf octets = 1 ∧ (octets.getD 1 0).toNat = octets.length ∧
      17 ≤ octets.length ∧ octets.length ≤ 238
  xor_eq : Octets.xorSum octets = 0

namespace ResponseIsdu

variable {dirRead : Bool} (r : ResponseIsdu dirRead)

/-- The octets in front of the payload. -/
def headerLength : ℕ := bif r.extended then 2 else 1

/-- The number of payload octets: without the header and the check sum octet. -/
def payloadLength : ℕ := r.octets.length - (r.headerLength + 1)

/-- The payload. -/
def payload : List Octet := (r.octets.drop r.headerLength).take r.payloadLength

theorem two_le_length : 2 ≤ r.octets.length := by
  cases h : r.extended with
  | false => exact (r.short_len h).2.1
  | true => have := (r.extended_len h).2.2.1; omega

theorem length_le : r.octets.length ≤ 238 := by
  cases h : r.extended with
  | false => have := (r.short_len h).2.2; omega
  | true => exact (r.extended_len h).2.2.2

theorem headerLength_le : r.headerLength + 1 ≤ r.octets.length := by
  cases h : r.extended with
  | false => have := (r.short_len h).2.1; simp [headerLength, h]; omega
  | true => have := (r.extended_len h).2.2.1; simp [headerLength, h]; omega

theorem iserv_ne_noService : iservOf r.octets ≠ iserviceNoService := by
  have h := r.iserv_eq
  intro h0
  rw [h0] at h
  cases dirRead <;> revert h <;> decide

end ResponseIsdu

/-! ### One message exchange -/

/-- What the ISDU handler sees of one message exchange: the clock when the master message is
prepared, the clock when the device message is evaluated, and the on-request data octets of the
device message. -/
structure Exchange where
  sent : UInt32
  received : UInt32
  octets : List Octet
  deriving DecidableEq, Repr

namespace Dl

/-- The handler is called to prepare a master message. -/
def masterMessage (dl : Dl) (now : UInt32) : Dl :=
  ((dl.atTime now).modOd ({ · with trigger := .masterMessage })).isduHSm

/-- A device message is in `rxbuffer`, and the OD handler is triggered by it. -/
def arrive (dl : Dl) (now : UInt32) (octets : List Octet) : Dl :=
  ((dl.atTime now).writeRx octets).modOd ({ · with trigger := .deviceMessage })

/-- The handler is called with a device message in `rxbuffer`. -/
def deviceMessage (dl : Dl) (now : UInt32) (octets : List Octet) : Dl :=
  (dl.arrive now octets).isduHSm

/-- One exchange: a master message and the device's answer to it. -/
def exchange (dl : Dl) (x : Exchange) : Dl :=
  (dl.masterMessage x.sent).deviceMessage x.received x.octets

/-! ### The log only grows -/

private theorem isduHSmIsduError4_out (dl : Dl) : dl.out <+: dl.isduHSmIsduError4.out := by
  unfold isduHSmIsduError4 isduTransportCnfNull
  split_ifs <;> simp

private theorem isduHSmEnterIsduerror4_out (dl : Dl) :
    dl.out <+: dl.isduHSmEnterIsduerror4.out := by
  unfold isduHSmEnterIsduerror4 isduTransportCnfNull
  split_ifs
  · simp
  · exact isduHSmIsduError4_out dl
  · simp

private theorem isduHSmReceptionComplete_out (dl : Dl) :
    dl.out <+: dl.isduHSmReceptionComplete.out := by
  unfold isduHSmReceptionComplete isduResponseCnf isduTransportCnfData
  cases dl.getIsduDataLength <;> simp

private theorem isduHSmIdle1_out (dl : Dl) : dl.out <+: dl.isduHSmIdle1.out := by
  unfold isduHSmIdle1 isduIdle1Deactivate isduIdle1MasterMessage isduIdle1DeviceMessage
    isduTransportCnfNull
  split_ifs
  · simp
  · simp
  · split
    · split <;> simp
    · split <;> simp
    · simp

private theorem isduHSmIsduRequest2_out (dl : Dl) : dl.out <+: dl.isduHSmIsduRequest2.out := by
  unfold isduHSmIsduRequest2
  split_ifs with h
  · exact isduHSmEnterIsduerror4_out dl
  · split <;> simp [isduTimerStart]
  · split <;> simp

private theorem isduWait3Response_out (dl : Dl) : dl.out <+: dl.isduWait3Response.out := by
  unfold isduWait3Response
  simp only
  split_ifs
  · refine List.IsPrefix.trans ?_ (isduHSmReceptionComplete_out _)
    simp
  · simp

private theorem isduWait3Stored_out (dl : Dl) : dl.out <+: dl.isduWait3Stored.out := by
  unfold isduWait3Stored
  split_ifs
  · simp
  · exact isduHSmEnterIsduerror4_out dl.isduTimerReset
  · exact isduWait3Response_out dl
  · exact isduHSmEnterIsduerror4_out dl.isduTimerReset

private theorem isduHSmIsduWait3_out (dl : Dl) : dl.out <+: dl.isduHSmIsduWait3.out := by
  unfold isduHSmIsduWait3
  split_ifs
  · exact isduHSmEnterIsduerror4_out dl.isduTimerReset
  · exact isduHSmEnterIsduerror4_out dl
  · split
    · simp
    · exact isduWait3Stored_out dl.storeSegment
    · simp

private theorem isduResponse5Stored_out (dl : Dl) : dl.out <+: dl.isduResponse5Stored.out := by
  unfold isduResponse5Stored
  simp only
  split_ifs
  · refine List.IsPrefix.trans ?_ (isduHSmReceptionComplete_out _)
    simp
  · simp

private theorem isduHSmIsduResponse5_out (dl : Dl) :
    dl.out <+: dl.isduHSmIsduResponse5.out := by
  unfold isduHSmIsduResponse5
  split_ifs
  · exact isduHSmEnterIsduerror4_out dl
  · split
    · simp
    · have hstored := isduResponse5Stored_out dl.readTotalLen.readTotalSeg.storeSegment
      rwa [storeSegment_out, readTotalSeg_out, readTotalLen_out] at hstored
    · simp

/-- The ISDU handler adds to the log and takes nothing back. -/
theorem isduHSm_out (dl : Dl) : dl.out <+: dl.isduHSm.out := by
  unfold isduHSm
  split
  · unfold isduHSmInactive0; split <;> simp
  · exact isduHSmIdle1_out dl
  · exact isduHSmIsduRequest2_out dl
  · exact isduHSmIsduWait3_out dl
  · exact isduHSmIsduError4_out dl
  · exact isduHSmIsduResponse5_out dl

theorem masterMessage_out (dl : Dl) (now : UInt32) :
    dl.out <+: (dl.masterMessage now).out := by
  unfold masterMessage
  exact List.IsPrefix.trans (by simp) (isduHSm_out _)

theorem deviceMessage_out (dl : Dl) (now : UInt32) (octets : List Octet) :
    dl.out <+: (dl.deviceMessage now octets).out := by
  unfold deviceMessage
  exact List.IsPrefix.trans (by simp [arrive]) (isduHSm_out _)

theorem exchange_out (dl : Dl) (x : Exchange) : dl.out <+: (dl.exchange x).out :=
  (masterMessage_out dl x.sent).trans (deviceMessage_out _ x.received x.octets)

/-! ### Reading the header of what has arrived -/

section Header

variable {dl : Dl} {dirRead : Bool} {r : ResponseIsdu dirRead}

theorem getIsduLen_of_arrived (h0 : dl.isduHandler.isduData.get 0 = r.octets.getD 0 0) :
    dl.getIsduLen = lenNibbleOf r.octets := by
  simp only [getIsduLen, lenNibbleOf, h0]

theorem getIsduIserv_of_arrived (h0 : dl.isduHandler.isduData.get 0 = r.octets.getD 0 0) :
    dl.getIsduIserv = iservOf r.octets := by
  simp only [getIsduIserv, iservOf, h0]

/-- With all length octets in the buffer, the total length is that of the response. -/
theorem getIsduTotalLen_of_arrived (h0 : dl.isduHandler.isduData.get 0 = r.octets.getD 0 0)
    (h1 : r.extended = true → dl.isduHandler.isduData.get 1 = r.octets.getD 1 0) :
    dl.getIsduTotalLen = some r.octets.length := by
  unfold getIsduTotalLen
  rw [getIsduLen_of_arrived h0]
  cases hx : r.extended with
  | false =>
    obtain ⟨hn, h2, h15⟩ := r.short_len hx
    have hne : ¬ r.octets.length = 1 := by omega
    simp only [hn, hne, if_false]
    rw [if_neg (by omega)]
  | true =>
    obtain ⟨hn, hl, h17, -⟩ := r.extended_len hx
    simp only [hn, h1 hx, hl, if_true]
    rw [if_neg (by omega)]

/-- With the extended length octet still to come, the total length is whatever the buffer
holds in its place. -/
theorem getIsduTotalLen_of_stale (h0 : dl.isduHandler.isduData.get 0 = r.octets.getD 0 0)
    (hx : r.extended = true) :
    dl.getIsduTotalLen =
      if (dl.isduHandler.isduData.get 1).toNat < 2 ∨ (dl.isduHandler.isduData.get 1).toNat = 16
      then none else some (dl.isduHandler.isduData.get 1).toNat := by
  unfold getIsduTotalLen
  rw [getIsduLen_of_arrived h0, (r.extended_len hx).1]
  simp only [if_true]

theorem lenNibble_bounds (r : ResponseIsdu dirRead) :
    1 ≤ lenNibbleOf r.octets ∧ lenNibbleOf r.octets ≤ 15 := by
  cases hx : r.extended with
  | false => obtain ⟨hn, h2, h15⟩ := r.short_len hx; omega
  | true => have := (r.extended_len hx).1; omega

theorem validIsduHeader_of_arrived (h0 : dl.isduHandler.isduData.get 0 = r.octets.getD 0 0)
    (hdir : dl.isduHandler.dataDirRead = dirRead) : dl.validIsduHeader = true := by
  have hlen := lenNibble_bounds r
  unfold validIsduHeader
  rw [getIsduLen_of_arrived h0, getIsduIserv_of_arrived h0, hdir]
  have hl : ¬ (lenNibbleOf r.octets = 0 ∨ lenNibbleOf r.octets > 15) := by omega
  cases dirRead <;> rcases r.iserv_eq with h | h <;> simp only [cond_true, cond_false] at h <;>
    rw [h] <;> simp +decide [hl]

/-- The first octet of a response is neither the busy reply nor "no service". -/
theorem first_octet_ne (r : ResponseIsdu dirRead) :
    r.octets.getD 0 0 ≠ (iserviceNoService <<< 4) ||| 0x01 ∧ r.octets.getD 0 0 ≠ 0 := by
  have h := r.iserv_ne_noService
  constructor
  · intro h0
    exact h (by rw [iservOf, h0]; decide)
  · intro h0
    exact h (by rw [iservOf, h0]; decide)

/-- **Completion.** With the whole response in the buffer and its length known, the handler
confirms the payload. -/
theorem isduHSmReceptionComplete_of_arrived
    (hdata : dl.isduHandler.isduData.slice 0 r.octets.length = r.octets)
    (htot : dl.isduHandler.totalIsduLen = r.octets.length) :
    dl.isduHSmReceptionComplete.out = dl.out ++ [.isduTransportCnf (some r.payload)
        r.payloadLength (iservOf r.octets) .noError] ∧
      dl.isduHSmReceptionComplete.faults = dl.faults := by
  have h2 := r.two_le_length
  have hmax := r.length_le
  have hget (i : ℕ) (hi : i < r.octets.length) :
      dl.isduHandler.isduData.get i = r.octets.getD i 0 :=
    Octets.Buffer.get_of_slice _ hdata hi
  have h0 := hget 0 (by omega)
  have h1 := hget 1 (by omega)
  have htotal := getIsduTotalLen_of_arrived (r := r) h0 (fun _ => h1)
  have hohlen : dl.isduOhlen = r.headerLength + 1 := by
    unfold isduOhlen ResponseIsdu.headerLength
    rw [getIsduLen_of_arrived h0]
    cases hx : r.extended with
    | false => rw [if_neg (by obtain ⟨hn, h2, -⟩ := r.short_len hx; omega)]; rfl
    | true => rw [if_pos (r.extended_len hx).1]; rfl
  have hoff : dl.getIsduResponseData = r.headerLength := by
    unfold isduOhlen at hohlen
    unfold getIsduResponseData
    split_ifs at hohlen ⊢ <;> omega
  have hhdr := r.headerLength_le
  have hlen : narrow8 (r.octets.length + 256 - (r.headerLength + 1)) = r.payloadLength := by
    unfold narrow8 ResponseIsdu.payloadLength
    omega
  have hslice : dl.isduHandler.isduData.slice r.headerLength r.payloadLength = r.payload := by
    have hpl : r.payloadLength ≤ r.octets.length - r.headerLength := by
      unfold ResponseIsdu.payloadLength; omega
    unfold ResponseIsdu.payload
    conv_rhs => rw [← hdata]
    simp only [Octets.Buffer.slice, Octets.Buffer.suffix, List.drop_zero, List.drop_take,
      List.take_take, Nat.min_eq_left hpl]
  have hchk : dl.validIsduChecksum = true := by
    unfold validIsduChecksum
    have htake : dl.isduHandler.isduData.cells.take r.octets.length = r.octets := by
      simpa [Octets.Buffer.slice, Octets.Buffer.suffix] using hdata
    rw [calcCHKPDU_eq, htot, htake, r.xor_eq]
    rfl
  have hcnf : dl.isduResponseCnf = dl.emit (.isduTransportCnf (some r.payload)
      r.payloadLength (iservOf r.octets) .noError) := by
    rw [isduResponseCnf_of_some htotal]
    rw [access_of_inside dl .isduLength (by simp [hohlen]; omega),
      access_of_inside dl .isduData (by simpa [htot] using Nat.le_trans hmax (by decide))]
    simp only [hchk, if_true, isduTransportCnfData, hohlen, hlen, hoff, hslice,
      getIsduIserv_of_arrived h0]
  rw [isduHSmReceptionComplete, hcnf]
  constructor
  · rw [modIsdu_out, modMessage_out, modIsdu_out, emit_out]
  · rw [modIsdu_faults, modMessage_faults, modIsdu_faults, emit_faults]

end Header

end Dl

end IolHat

import IolHat.DataLink.Footprint
import IolHat.DataLink.IsduBounds
import IolHat.DataLink.IsduDecoding

/-!
# The verdict on a response

The ISDU handler is called for one message after the other, and whatever else the layer does
between two calls, it is the handler that confirms a service. This module says what a single call
can come to.

* `heardAfter` collects the octets of the device messages that the handler takes for a response.
* `Gathers` is what the handler keeps to while it collects them, and `Verdict` what a call can come
  to: nothing yet, a confirmation with an error, or a confirmation of a complete ISDU that has been
  heard.
* `isduHSm_verdict` holds as long as the call is `Unspoiled`: the segment stays within `isdu_data`,
  it does not complete a negative response with the error code zero, and the second octet of a
  response does not pass for a check sum.
-/

namespace IolHat

open Octets

/-! ### Complete ISDUs -/

/-- The length field of an ISDU: the length nibble, or the extended length octet. -/
def lengthFieldOf (isdu : List Octet) : ℕ :=
  if lenNibbleOf isdu = 1 then (isdu.getD 1 0).toNat else lenNibbleOf isdu

/-- The number of octets in front of the payload. -/
def headerLengthOf (isdu : List Octet) : ℕ := if lenNibbleOf isdu = 1 then 2 else 1

/-- The payload: what lies between the header and the check sum octet. -/
def payloadOf (isdu : List Octet) : List Octet :=
  (isdu.drop (headerLengthOf isdu)).take (isdu.length - (headerLengthOf isdu + 1))

/-- A complete ISDU: the length field counts its octets, and the check sum octet brings their
exclusive-or to zero. -/
structure CompleteIsdu (isdu : List Octet) : Prop where
  counted : lengthFieldOf isdu = isdu.length
  header_lt : headerLengthOf isdu < isdu.length
  xor_eq : xorSum isdu = 0

/-- The I-services of the responses to a request of the given direction. -/
def AnswersDirection (dirRead : Bool) (iserv : Octet) : Prop :=
  iserv = (bif dirRead then iserviceReadResponseNeg else iserviceWriteResponseNeg) ∨
    iserv = (bif dirRead then iserviceReadResponsePos else iserviceWriteResponsePos)

instance (dirRead : Bool) (iserv : Octet) : Decidable (AnswersDirection dirRead iserv) :=
  inferInstanceAs (Decidable (_ ∨ _))

/-- A negative response with the error code zero. -/
def ZeroErrorCode (isdu : List Octet) : Prop :=
  (iservOf isdu = iserviceReadResponseNeg ∨ iservOf isdu = iserviceWriteResponseNeg) ∧
    payloadOf isdu = [0, 0]

instance (isdu : List Octet) : Decidable (ZeroErrorCode isdu) :=
  inferInstanceAs (Decidable (_ ∧ _))

theorem length_payloadOf (isdu : List Octet) :
    (payloadOf isdu).length = isdu.length - (headerLengthOf isdu + 1) := by
  rw [payloadOf, List.length_take, List.length_drop]
  omega

/-- The confirmation of an ISDU service. -/
def DlCall.IsIsduCnf : DlCall → Prop
  | .isduTransportCnf .. => True
  | _ => False

/-- The confirmation of an ISDU service with the octets of a response. -/
def DlCall.HasResponse : DlCall → Prop
  | .isduTransportCnf (some _) .. => True
  | _ => False

namespace Dl

/-! ### What is heard -/

/-- The on-request data octets of the device message in `rxbuffer`. -/
def segment (dl : Dl) : List Octet := dl.rxbuffer.slice 0 dl.messageHandler.odLen

/-- The octets heard since the handler has last waited for a response, once it is called: the
message that ends the waiting, and those that follow. -/
def heardAfter (dl : Dl) (heard : List Octet) : List Octet :=
  if dl.odHandler.trigger = .deviceMessage then
    match dl.isduHandler.state with
    | .isduwait3 => dl.segment
    | .isduresponse5 => heard ++ dl.segment
    | .inactive0 | .idle1 | .isdurequest2 | .isduerror4 => heard
  else heard

/-- The octets of the buffer that the length field in it counts. -/
def countedOctets (dl : Dl) : List Octet :=
  dl.isduHandler.isduData.slice 0 (dl.getIsduTotalLen.getD 0)

/-! ### Calls that go wrong -/

/-- The call stores the segment of a device message. -/
def TakesSegment (dl : Dl) : Prop :=
  dl.odHandler.trigger = .deviceMessage ∧ dl.messageHandler.rwcmd ≠ .isduabort ∧
    dl.modeHandler.mhinfo ≠ .comlost ∧
    (dl.isduHandler.state = .isduwait3 ∧ dl.isduTimerElapsed = false ∨
      dl.isduHandler.state = .isduresponse5)

instance (dl : Dl) : Decidable dl.TakesSegment := inferInstanceAs (Decidable (_ ∧ _))

/-- The segment lies within `isdu_data`. -/
def SegmentInside (dl : Dl) : Prop :=
  dl.isduHandler.currentIsduSeg * dl.messageHandler.odLen + dl.messageHandler.odLen ≤ isduMaxSize

instance (dl : Dl) : Decidable dl.SegmentInside := inferInstanceAs (Decidable (_ ≤ _))

/-- With the segment, the buffer holds a complete negative response with the error code zero. -/
def BringsZeroError (dl : Dl) : Prop :=
  dl.storeSegment.countedOctets.length ≤
      (dl.isduHandler.currentIsduSeg + 1) * dl.messageHandler.odLen ∧
    ZeroErrorCode dl.storeSegment.countedOctets

instance (dl : Dl) : Decidable dl.BringsZeroError := inferInstanceAs (Decidable (_ ∧ _))

/-- With one octet per message, the octet that the request has left in the place of the extended
length is two, and the extended length repeats the first octet of the response. -/
def EndsUnread (dl : Dl) : Prop :=
  dl.messageHandler.odLen = 1 ∧ dl.isduHandler.currentIsduSeg = 1 ∧ dl.getIsduLen = 1 ∧
    dl.getIsduTotalLen = some 2 ∧ dl.segment = [dl.isduHandler.isduData.get 0]

instance (dl : Dl) : Decidable dl.EndsUnread := inferInstanceAs (Decidable (_ ∧ _))

/-- Nothing goes wrong with the segment that the call stores. -/
def Unspoiled (dl : Dl) : Prop :=
  dl.TakesSegment → dl.SegmentInside ∧ ¬ dl.BringsZeroError ∧ ¬ dl.EndsUnread

instance (dl : Dl) : Decidable dl.Unspoiled := inferInstanceAs (Decidable (_ → _))

/-! ### The invariant -/

/-- A response has begun, and the octets heard of it are in the buffer. -/
structure Gathering (dl : Dl) (dirRead : Bool) (heard : List Octet) : Prop where
  seg : 1 ≤ dl.isduHandler.currentIsduSeg
  length : heard.length = dl.isduHandler.currentIsduSeg * dl.messageHandler.odLen
  fits : heard.length ≤ isduMaxSize
  data : dl.isduHandler.isduData.slice 0 heard.length = heard
  answers : AnswersDirection dirRead dl.getIsduIserv
  /-- A response without a length would have ended with its first segment. -/
  counted : dl.isduHandler.currentIsduSeg = 1 → dl.messageHandler.odLen = 1 →
    dl.getIsduTotalLen ≠ none

/-- What the handler keeps to while a service of the given direction is in progress. -/
structure Gathers (dl : Dl) (dirRead : Bool) (heard : List Octet) : Prop where
  odLen : StackOdLen dl.messageHandler.odLen
  dir : dl.isduHandler.dataDirRead = dirRead
  waiting : dl.isduHandler.state = .isduwait3 → dl.isduHandler.currentIsduSeg = 0
  receiving : dl.isduHandler.state = .isduresponse5 → dl.Gathering dirRead heard

/-- No service is in progress, and none is to begin. -/
structure Resting (dl : Dl) : Prop where
  state : dl.isduHandler.state = .idle1 ∨ dl.isduHandler.state = .inactive0
  rwcmd : dl.messageHandler.rwcmd ≠ .isdutransport

/-- What a call of the handler can come to. -/
inductive Verdict (dl : Dl) (dirRead : Bool) (heard : List Octet) : Prop
  /-- The service goes on. -/
  | quiet (hout : ∀ c ∈ dl.out, ¬ c.IsIsduCnf) (h : dl.Gathers dirRead heard)
  /-- The service has failed. -/
  | refused (data : Option (List Octet)) (length : ℕ) (qualifier : Octet) (stat : Status)
      (hout : dl.out = [.isduTransportCnf data length qualifier stat]) (hstat : stat ≠ .noError)
  /-- A complete ISDU has been heard. -/
  | confirmed (isdu : List Octet)
      (hout : dl.out = [.isduTransportCnf (some (payloadOf isdu)) (payloadOf isdu).length
        (iservOf isdu) .noError])
      (hisdu : CompleteIsdu isdu) (hheard : isdu <+: heard) (hfits : isdu.length ≤ isduMaxSize)
      (hanswers : AnswersDirection dirRead (iservOf isdu))
      (hcode : ¬ ZeroErrorCode isdu) (hrest : dl.Resting)

/-- A handler that is in none of the two receiving states. -/
theorem Gathers.elsewhere {dl : Dl} {dirRead : Bool} {heard : List Octet} (s : IsduhSt)
    (hs : s ≠ .isduwait3 ∧ s ≠ .isduresponse5) (hod : StackOdLen dl.messageHandler.odLen)
    (hdir : dl.isduHandler.dataDirRead = dirRead)
    (hstate : dl.isduHandler.state = s) : dl.Gathers dirRead heard :=
  ⟨hod, hdir, fun h => absurd (hstate.symm.trans h) hs.1,
    fun h => absurd (hstate.symm.trans h) hs.2⟩

variable {dl : Dl} {dirRead : Bool} {heard : List Octet}

/-- The invariant looks at the ISDU handler and the length of a segment. -/
theorem Gathers.congr {d : Dl} (h : dl.Gathers dirRead heard) (hi : d.isduHandler = dl.isduHandler)
    (hod : d.messageHandler.odLen = dl.messageHandler.odLen) : d.Gathers dirRead heard := by
  refine ⟨hod ▸ h.odLen, hi ▸ h.dir, fun hs => ?_, fun hs => ?_⟩
  · rw [hi] at hs ⊢
    exact h.waiting hs
  · rw [hi] at hs
    have hg := h.receiving hs
    have hserv : d.getIsduIserv = dl.getIsduIserv := by rw [getIsduIserv, getIsduIserv, hi]
    have htot : d.getIsduTotalLen = dl.getIsduTotalLen :=
      getIsduTotalLen_congr (congrArg IsduHandler.isduData hi)
    refine ⟨?_, ?_, hg.fits, ?_, ?_, ?_⟩
    · rw [hi]
      exact hg.seg
    · rw [hi, hod]
      exact hg.length
    · rw [hi]
      exact hg.data
    · rw [hserv]
      exact hg.answers
    · rw [hi, hod, htot]
      exact hg.counted

theorem Verdict.silent (hout : dl.out = []) (h : dl.Gathers dirRead heard) :
    dl.Verdict dirRead heard := by
  refine .quiet ?_ h
  rw [hout]
  exact fun c hc => absurd hc List.not_mem_nil

/-! ### Errors -/

theorem isduHSmIsduError4_verdict (hod : StackOdLen dl.messageHandler.odLen)
    (hdir : dl.isduHandler.dataDirRead = dirRead) (hout : dl.out = []) :
    dl.isduHSmIsduError4.Verdict dirRead heard := by
  cases hcmd : dl.isduHandler.ihcmd with
  | inactive =>
    rw [isduHSmIsduError4, if_pos hcmd]
    exact .silent hout (.elsewhere .inactive0 (by decide) hod hdir rfl)
  | active =>
    obtain ⟨qualifier, stat, hstat, hcnf⟩ := isduHSmIsduError4_spoiled dl hcmd
    rw [hout] at hcnf
    exact .refused none 0 qualifier stat hcnf hstat

theorem isduHSmEnterIsduerror4_verdict (hod : StackOdLen dl.messageHandler.odLen)
    (hdir : dl.isduHandler.dataDirRead = dirRead)
    (hout : dl.out = []) : dl.isduHSmEnterIsduerror4.Verdict dirRead heard := by
  unfold isduHSmEnterIsduerror4
  split_ifs
  · refine .refused none 0 0 .noComm ?_ (by decide)
    simp [isduTransportCnfNull, hout]
  · exact isduHSmIsduError4_verdict hod hdir hout
  · exact .silent hout (.elsewhere .isduerror4 (by decide) hod hdir rfl)

/-! ### Completion -/

section Counted

variable {t : ℕ} (htot : dl.getIsduTotalLen = some t)

include htot

theorem getD_countedOctets {i : ℕ} (hi : i < t) :
    dl.countedOctets.getD i 0 = dl.isduHandler.isduData.get i := by
  rw [countedOctets, htot, Option.getD_some]
  exact (Buffer.get_of_slice _ rfl hi).symm

theorem lenNibbleOf_countedOctets : lenNibbleOf dl.countedOctets = dl.getIsduLen := by
  have h2 := (getIsduTotalLen_eq_some htot).1
  rw [lenNibbleOf, getD_countedOctets htot (by omega)]
  rfl

theorem iservOf_countedOctets : iservOf dl.countedOctets = dl.getIsduIserv := by
  have h2 := (getIsduTotalLen_eq_some htot).1
  rw [iservOf, getD_countedOctets htot (by omega)]
  rfl

theorem headerLengthOf_countedOctets :
    headerLengthOf dl.countedOctets = dl.getIsduResponseData := by
  rw [headerLengthOf, lenNibbleOf_countedOctets htot]
  rfl

theorem isduOhlen_eq : dl.isduOhlen = headerLengthOf dl.countedOctets + 1 := by
  rw [headerLengthOf_countedOctets htot, isduOhlen, getIsduResponseData]
  split_ifs <;> rfl

theorem lengthFieldOf_countedOctets : lengthFieldOf dl.countedOctets = t := by
  obtain ⟨h2, ⟨hone, hL⟩ | ⟨hone, hL⟩⟩ := getIsduTotalLen_eq_some htot
  · rw [lengthFieldOf, lenNibbleOf_countedOctets htot, if_pos hone,
      getD_countedOctets htot (by omega), hL]
  · rw [lengthFieldOf, lenNibbleOf_countedOctets htot, if_neg hone, hL]

variable (ht : t ≤ isduMaxSize)

include ht

theorem length_countedOctets : dl.countedOctets.length = t := by
  rw [countedOctets, htot, Option.getD_some]
  exact Buffer.length_slice _ (show 0 + t ≤ 241 from (Nat.zero_add t).symm ▸ ht)

theorem payloadOf_countedOctets : payloadOf dl.countedOctets =
    dl.isduHandler.isduData.slice dl.getIsduResponseData (t - dl.isduOhlen) := by
  have hoh := isduOhlen_eq htot
  rw [headerLengthOf_countedOctets htot] at hoh
  rw [payloadOf, length_countedOctets htot ht, headerLengthOf_countedOctets htot, ← hoh,
    countedOctets, htot, Option.getD_some, Buffer.slice, Buffer.slice, Buffer.suffix, Buffer.suffix,
    List.drop_zero, List.drop_take, List.take_take, Nat.min_eq_left (by omega)]

/-- The check sum of two octets does not come out right when the second one is the length. -/
theorem header_lt_of_checksum (hsum : xorSum dl.countedOctets = 0) :
    headerLengthOf dl.countedOctets < t := by
  obtain ⟨h2, ⟨hone, hL⟩ | ⟨hone, hL⟩⟩ := getIsduTotalLen_eq_some htot
  · rw [headerLengthOf, lenNibbleOf_countedOctets htot, if_pos hone]
    refine Nat.lt_of_le_of_ne h2 ?_
    rintro rfl
    obtain ⟨a, b, hab⟩ := List.length_eq_two.mp (length_countedOctets htot ht)
    have ha : dl.isduHandler.isduData.get 0 = a := by
      rw [← getD_countedOctets htot Nat.zero_lt_two, hab]
      rfl
    have hb : dl.isduHandler.isduData.get 1 = b := by
      rw [← getD_countedOctets htot Nat.one_lt_two, hab]
      rfl
    have htwo : b = 2 := UInt8.toNat.inj (hb ▸ hL.symm)
    have heq : a = b := by
      simpa [hab, xorSum] using hsum
    rw [getIsduLen, ha, heq, htwo] at hone
    exact absurd hone (by decide)
  · rw [headerLengthOf, lenNibbleOf_countedOctets htot, if_neg hone]
    omega

end Counted

/-- The end of a response, whatever it is the end of: the octets heard are in the buffer, and a
total length that the handler knows counts some of them. -/
theorem isduHSmReceptionComplete_verdict (hout : dl.out = [])
    (hdata : dl.isduHandler.isduData.slice 0 heard.length = heard)
    (hfits : heard.length ≤ isduMaxSize)
    (hlen : ∀ t, dl.getIsduTotalLen = some t → dl.validIsduChecksum = true →
      dl.isduHandler.totalIsduLen = t ∧ t ≤ heard.length)
    (hanswers : AnswersDirection dirRead dl.getIsduIserv)
    (hcode : dl.countedOctets.length ≤ heard.length → ¬ ZeroErrorCode dl.countedOctets) :
    dl.isduHSmReceptionComplete.Verdict dirRead heard := by
  cases htot : dl.getIsduTotalLen with
  | none =>
    refine .refused (some (dl.isduHandler.isduData.slice dl.getIsduResponseData 0)) 0
      dl.getIsduIserv .invalid ?_ (by decide)
    simp [isduHSmReceptionComplete, isduResponseCnf_of_none htot, isduTransportCnfData, hout]
  | some t =>
    have hcnf : dl.isduHSmReceptionComplete.out = [.isduTransportCnf
        (some (dl.isduHandler.isduData.slice dl.getIsduResponseData
          (narrow8 (t + 256 - dl.isduOhlen))))
        (narrow8 (t + 256 - dl.isduOhlen)) dl.getIsduIserv
        (if dl.validIsduChecksum then .noError else .isduChecksumError)] := by
      simp [isduHSmReceptionComplete, isduResponseCnf_of_some htot, isduTransportCnfData, hout]
      exact ⟨rfl, rfl⟩
    -- A check sum that does not fit is an error, whatever has been received.
    cases hsum : dl.validIsduChecksum with
    | false =>
      rw [hsum] at hcnf
      exact .refused _ _ _ _ hcnf (by decide)
    | true =>
      obtain ⟨htl, hle⟩ := hlen t htot hsum
      have ht : t ≤ isduMaxSize := Nat.le_trans hle hfits
      have hxor : xorSum dl.countedOctets = 0 := by
        have htake : dl.countedOctets = dl.isduHandler.isduData.cells.take t := by
          simp [countedOctets, htot, Buffer.slice, Buffer.suffix]
        rw [htake, ← htl, ← calcCHKPDU_eq]
        simpa [validIsduChecksum] using hsum
      have hlength := length_countedOctets htot ht
      have hheader := header_lt_of_checksum htot ht hxor
      have hn : narrow8 (t + 256 - dl.isduOhlen) = t - dl.isduOhlen := by
        have h255 := getIsduTotalLen_le dl
        have hoh := isduOhlen_eq htot
        rw [htot, Option.getD_some] at h255
        unfold narrow8
        omega
      have hpayload := payloadOf_countedOctets htot ht
      have hpl : (payloadOf dl.countedOctets).length = t - dl.isduOhlen := by
        rw [length_payloadOf, hlength, isduOhlen_eq htot]
      rw [hsum, hn, ← hpayload, ← hpl, ← iservOf_countedOctets htot] at hcnf
      refine .confirmed dl.countedOctets hcnf ?_ ?_ (hlength ▸ ht) ?_
        (hcode (hlength ▸ hle)) ⟨.inl rfl, MHRWCmd.noConfusion⟩
      · exact ⟨(lengthFieldOf_countedOctets htot).trans hlength.symm, hlength ▸ hheader, hxor⟩
      · rw [countedOctets, htot, Option.getD_some, ← Buffer.slice_of_slice _ hle, hdata]
        exact List.take_prefix _ _
      · rw [iservOf_countedOctets htot]
        exact hanswers

/-! ### The first segment -/

/-- An octet is made of its two nibbles. -/
theorem toNat_eq_nibbles (o : Octet) :
    o.toNat = 16 * ((o >>> 4) &&& 0x0F).toNat + (o &&& 0x0F).toNat := by
  have ho := o.toNat_lt
  have hhigh : ((o >>> 4) &&& 0x0F).toNat = o.toNat / 16 % 16 := by
    rw [UInt8.toNat_and, UInt8.toNat_shiftRight, Nat.shiftRight_eq_div_pow]
    exact Nat.and_two_pow_sub_one_eq_mod _ 4
  have hlow : (o &&& 0x0F).toNat = o.toNat % 16 := by
    rw [UInt8.toNat_and]
    exact Nat.and_two_pow_sub_one_eq_mod _ 4
  omega

/-- A header without a service is the busy reply or an empty octet. -/
theorem answers_of_validIsduHeader (hbusy : dl.isduHandler.isduData.get 0 ≠
      (iserviceNoService <<< 4) ||| 0x01) (hnone : dl.isduHandler.isduData.get 0 ≠ 0)
    (hvalid : dl.validIsduHeader = true) :
    AnswersDirection dl.isduHandler.dataDirRead dl.getIsduIserv := by
  unfold validIsduHeader at hvalid
  dsimp only at hvalid
  split_ifs at hvalid with hserv hiserv
  · have hnat := toNat_eq_nibbles (dl.isduHandler.isduData.get 0)
    have hlen : (dl.isduHandler.isduData.get 0 &&& 0x0F).toNat ≤ 1 := by
      simpa [getIsduLen] using hvalid
    rw [getIsduIserv] at hserv
    rw [hserv, UInt8.toNat_zero] at hnat
    obtain h | h : (dl.isduHandler.isduData.get 0).toNat = 0 ∨
        (dl.isduHandler.isduData.get 0).toNat = 1 := by omega
    · exact absurd (UInt8.toNat.inj h) hnone
    · exact absurd (UInt8.toNat.inj h) hbusy
  · unfold AnswersDirection
    cases hdir : dl.isduHandler.dataDirRead with
    | true =>
      simp only [hdir, cond_true] at hvalid ⊢
      simp at hvalid
      tauto
    | false =>
      simp only [hdir, cond_false] at hvalid ⊢
      simp at hvalid
      tauto

/-- A segment that has been stored at the front of the buffer. -/
theorem isduWait3Stored_verdict {seg : List Octet} (hod : StackOdLen dl.messageHandler.odLen)
    (hdir : dl.isduHandler.dataDirRead = dirRead)
    (hout : dl.out = []) (hstate : dl.isduHandler.state = .isduwait3)
    (hcur : dl.isduHandler.currentIsduSeg = 0) (hlen : seg.length = dl.messageHandler.odLen)
    (hdata : dl.isduHandler.isduData.slice 0 seg.length = seg)
    (hcode : dl.countedOctets.length ≤ seg.length → ¬ ZeroErrorCode dl.countedOctets) :
    dl.isduWait3Stored.Verdict dirRead seg := by
  obtain ⟨hpos, h32⟩ := hod.pos
  have hfits : seg.length ≤ isduMaxSize := Nat.le_trans (by omega) (by decide : 32 ≤ 241)
  unfold isduWait3Stored
  split_ifs with hbusy hnone hvalid
  · exact .silent hout
      ⟨hod, hdir, fun _ => hcur, fun h => absurd (hstate.symm.trans h) IsduhSt.noConfusion⟩
  · exact isduHSmEnterIsduerror4_verdict hod hdir hout
  · have hanswers := hdir ▸ answers_of_validIsduHeader hbusy hnone hvalid
    have hseg := totalSegments_le_iff hpos (getIsduTotalLen_le dl) 1
    rw [isduWait3Response_eq]
    dsimp only
    split_ifs with hdone
    · -- the whole response is in the first segment
      have hle : dl.getIsduTotalLen.getD 0 ≤ seg.length := by
        have := hseg.mp hdone
        omega
      refine isduHSmReceptionComplete_verdict hout hdata hfits ?_ hanswers hcode
      intro t ht _
      have htot : dl.getIsduTotalLen = some t := ht
      rw [htot, Option.getD_some] at hle
      exact ⟨by simp [htot], hle⟩
    · refine .silent hout ⟨hod, hdir, IsduhSt.noConfusion, fun _ => ?_⟩
      refine ⟨Nat.le_refl 1, hlen.trans (Nat.one_mul _).symm, hfits, hdata, hanswers, ?_⟩
      intro _ _ (hno : dl.getIsduTotalLen = none)
      rw [hno, Option.getD_none] at hseg hdone
      exact hdone (hseg.mpr (Nat.zero_le _))
  · exact isduHSmEnterIsduerror4_verdict hod hdir hout

/-- `iolink_dl_isdu_h_sm_isdu_wait3`. -/
theorem isduHSmIsduWait3_verdict (hg : dl.Gathers dirRead heard)
    (hstate : dl.isduHandler.state = .isduwait3)
    (hu : dl.Unspoiled) (hout : dl.out = []) :
    dl.isduHSmIsduWait3.Verdict dirRead (dl.heardAfter heard) := by
  have hcur := hg.waiting hstate
  have hstay : dl.Gathers dirRead (dl.heardAfter heard) :=
    ⟨hg.odLen, hg.dir, hg.waiting, fun h => absurd (hstate.symm.trans h) IsduhSt.noConfusion⟩
  unfold isduHSmIsduWait3
  split_ifs with habort hlost
  · exact isduHSmEnterIsduerror4_verdict hg.odLen hg.dir hout
  · exact isduHSmEnterIsduerror4_verdict hg.odLen hg.dir hout
  · rw [not_or, Bool.not_eq_true] at hlost
    cases htrigger : dl.odHandler.trigger with
    | masterMessage =>
      exact .silent (by rw [odReq_out, hout])
        (hstay.congr (odReq_isduHandler ..) (by rw [odReq_messageHandler]))
    | deviceMessage =>
      obtain ⟨hpos, h32⟩ := hg.odLen.pos
      obtain ⟨hinside, hzero, -⟩ := hu ⟨htrigger, habort, hlost.2, .inl ⟨hstate, hlost.1⟩⟩
      have hstore := storeSegment_of_fits dl dl.segment h32 rfl rfl hinside
      have hlen : dl.segment.length = dl.messageHandler.odLen :=
        Buffer.length_slice _ (show 0 + dl.messageHandler.odLen ≤ 64 by omega)
      have hself := Buffer.slice_write_self dl.isduHandler.isduData 0 dl.segment (by
        rw [hlen]
        exact show 0 + dl.messageHandler.odLen ≤ 241 by omega)
      rw [heardAfter, if_pos htrigger, hstate]
      rw [BringsZeroError, hcur, Nat.zero_add, Nat.one_mul, ← hlen, not_and] at hzero
      rw [hstore, hcur, Nat.zero_mul] at hzero ⊢
      exact isduWait3Stored_verdict hg.odLen hg.dir hout hstate hcur hlen hself hzero
    | none => exact .silent hout hstay

/-! ### The following segments -/

theorem countedOctets_congr {d : Dl} (h : d.isduHandler.isduData = dl.isduHandler.isduData) :
    d.countedOctets = dl.countedOctets := by
  rw [countedOctets, countedOctets, getIsduTotalLen_congr h, h]

/-- The header is read again before a segment is stored. Its length octet is still the old one
only when the second message of one octet each arrives. -/
theorem getIsduTotalLen_write {d : Dl} {k od : ℕ} {seg : List Octet} (hk : 1 ≤ k) (hod : 1 ≤ od)
    (hmany : k = 1 → od = 1 → dl.getIsduLen ≠ 1)
    (hd : d.isduHandler.isduData = dl.isduHandler.isduData.write (k * od) seg) :
    d.getIsduTotalLen = dl.getIsduTotalLen := by
  have hpos : 0 < k * od := Nat.mul_pos hk hod
  have hlen : d.getIsduLen = dl.getIsduLen := by
    rw [getIsduLen, getIsduLen, hd, Buffer.get_write_of_lt _ _ hpos]
  rw [getIsduTotalLen, getIsduTotalLen, hlen]
  by_cases hone : dl.getIsduLen = 1
  · have hlt : 1 < k * od := by
      refine Nat.lt_of_le_of_ne hpos fun heq => ?_
      exact hmany (Nat.eq_one_of_mul_eq_one_right heq.symm)
        (Nat.eq_one_of_mul_eq_one_left heq.symm) hone
    rw [hd, Buffer.get_write_of_lt _ _ hlt]
  · rw [if_neg hone, if_neg hone]

/-- A segment that has been stored behind the others. -/
theorem isduResponse5Stored_verdict {k od : ℕ} {seg : List Octet} (hod : StackOdLen od)
    (hdir : dl.isduHandler.dataDirRead = dirRead)
    (hodLen : dl.messageHandler.odLen = od) (hout : dl.out = [])
    (hstate : dl.isduHandler.state = .isduresponse5) (hk : 1 ≤ k)
    (hcur : dl.isduHandler.currentIsduSeg = k) (hlen : heard.length = k * od)
    (hseg : seg.length = od) (hfits : (k + 1) * od ≤ isduMaxSize)
    (hdata : dl.isduHandler.isduData.slice 0 (heard ++ seg).length = heard ++ seg)
    (hanswers : AnswersDirection dirRead dl.getIsduIserv)
    (htot : dl.isduHandler.totalIsduSeg ≤ k + 1 → ∀ t, dl.getIsduTotalLen = some t →
      dl.validIsduChecksum = true →
      dl.isduHandler.totalIsduLen = t ∧ t ≤ (k + 1) * od)
    (hcode : dl.countedOctets.length ≤ (k + 1) * od → ¬ ZeroErrorCode dl.countedOctets) :
    dl.isduResponse5Stored.Verdict dirRead (heard ++ seg) := by
  obtain ⟨hpos, h32⟩ := hod.pos
  have hlength : (heard ++ seg).length = (k + 1) * od := by
    rw [List.length_append, hlen, hseg, Nat.succ_mul]
  have hk255 : k + 1 < 256 := by
    have h1 : (k + 1) * 1 ≤ (k + 1) * od := Nat.mul_le_mul_left _ hpos
    have h241 : (k + 1) * od ≤ 241 := hfits
    omega
  have hset : dl.modIsdu (fun h => { h with currentIsduSeg := narrow8 (h.currentIsduSeg + 1) }) =
      dl.modIsdu ({ · with currentIsduSeg := k + 1 }) := by
    rw [modIsdu, modIsdu, hcur, narrow8_of_lt hk255]
  have heq : dl.isduResponse5Stored = if k + 1 ≥ dl.isduHandler.totalIsduSeg then
      (dl.modIsdu ({ · with currentIsduSeg := k + 1 })).isduHSmReceptionComplete
      else dl.modIsdu ({ · with currentIsduSeg := k + 1 }) := by
    rw [isduResponse5Stored, hset]
    rfl
  rw [heq]
  rw [← hlength] at hcode hfits htot
  split_ifs with hdone
  · exact isduHSmReceptionComplete_verdict hout hdata hfits (htot hdone) hanswers hcode
  · refine .silent hout
      ⟨?_, hdir, fun h => absurd (hstate.symm.trans h) IsduhSt.noConfusion, fun _ => ?_⟩
    · rw [modIsdu_messageHandler, hodLen]
      exact hod
    · refine ⟨Nat.le_add_left 1 k, ?_, hfits, hdata, hanswers, fun hone => ?_⟩
      · rw [hlength, modIsdu_messageHandler, hodLen]
        rfl
      · exact absurd hone (show k + 1 ≠ 1 by omega)

/-- The end of a response, as far as the total length read before the last segment goes. -/
theorem totalIsduLen_eq {d : Dl} {k od : ℕ} (hod : 1 ≤ od) (hk : 1 ≤ k)
    (hlen : heard.length = k * od) (hfits : (k + 1) * od ≤ isduMaxSize)
    (hcounted : k = 1 → od = 1 → dl.getIsduTotalLen ≠ none)
    (hunread : ¬ (od = 1 ∧ k = 1 ∧ dl.getIsduLen = 1 ∧ dl.getIsduTotalLen = some 2 ∧
      dl.segment = [dl.isduHandler.isduData.get 0]))
    (hdata : dl.isduHandler.isduData.slice 0 heard.length = heard)
    (hseg : dl.segment.length = od)
    (hd : d.isduHandler.isduData = dl.isduHandler.isduData.write (k * od) dl.segment)
    (htotal : d.isduHandler.totalIsduLen = dl.getIsduTotalLen.getD 0)
    (hdone : dl.getIsduTotalLen.getD 0 ≤ (k + 1) * od) {t : ℕ}
    (ht : d.getIsduTotalLen = some t) (hsum : d.validIsduChecksum = true) :
    d.isduHandler.totalIsduLen = t ∧ t ≤ (k + 1) * od := by
  by_cases hmany : k = 1 → od = 1 → dl.getIsduLen ≠ 1
  · rw [getIsduTotalLen_write hk hod hmany hd] at ht
    rw [ht, Option.getD_some] at htotal hdone
    exact ⟨htotal, hdone⟩
  · -- the length is still the octet of the request, and ends the response if it is two
    push Not at hmany
    obtain ⟨rfl, rfl, hone⟩ := hmany
    obtain ⟨s, hs⟩ := Option.ne_none_iff_exists'.mp (hcounted rfl rfl)
    have htwo : s = 2 := by
      have h2 := (getIsduTotalLen_eq_some hs).1
      rw [hs, Option.getD_some] at hdone
      omega
    obtain ⟨a, rfl⟩ := List.length_eq_one_iff.mp hlen
    obtain ⟨b, hb⟩ := List.length_eq_one_iff.mp hseg
    have ha : dl.isduHandler.isduData.get 0 = a := Buffer.get_of_slice _ hdata Nat.zero_lt_one
    have hfront : d.isduHandler.isduData.slice 0 2 = [a, b] := by
      have hw := Buffer.slice_write dl.isduHandler.isduData 1 [b] (show 1 + 1 ≤ 241 by decide)
      rw [show dl.isduHandler.isduData.slice 0 1 = [a] from hdata] at hw
      rw [hd, hb]
      exact hw
    have hxor : xorSum [a, b] = 0 := by
      rw [← hfront, Buffer.slice, Buffer.suffix, List.drop_zero, ← calcCHKPDU_eq]
      rw [hs, Option.getD_some, htwo] at htotal
      rw [validIsduChecksum, htotal] at hsum
      simpa using hsum
    have heq : a = b := by
      simpa [xorSum] using hxor
    exact absurd ⟨rfl, rfl, hone, htwo ▸ hs, by rw [hb, ha, heq]⟩ hunread

/-- A segment of a response that has begun. -/
theorem isduResponse5_segment_verdict (hg : dl.Gathering dirRead heard)
    (hod : StackOdLen dl.messageHandler.odLen)
    (hdir : dl.isduHandler.dataDirRead = dirRead) (hstate : dl.isduHandler.state = .isduresponse5)
    (hout : dl.out = []) (hinside : dl.SegmentInside) (hzero : ¬ dl.BringsZeroError)
    (hunread : ¬ dl.EndsUnread) :
    dl.readTotalLen.readTotalSeg.storeSegment.isduResponse5Stored.Verdict dirRead
      (heard ++ dl.segment) := by
  obtain ⟨hpos, h32⟩ := hod.pos
  have hseg : dl.segment.length = dl.messageHandler.odLen :=
    Buffer.length_slice _ (show 0 + dl.messageHandler.odLen ≤ 64 by omega)
  have hfits : (dl.isduHandler.currentIsduSeg + 1) * dl.messageHandler.odLen ≤ isduMaxSize := by
    rw [Nat.succ_mul]
    exact hinside
  obtain ⟨d, hd⟩ : ∃ d, d = dl.readTotalLen.readTotalSeg.storeSegment := ⟨_, rfl⟩
  have hhandler : d.isduHandler = { dl.isduHandler with
      totalIsduLen := dl.getIsduTotalLen.getD 0
      totalIsduSeg := dl.readTotalLen.getIsduTotalSegments
      isduData := dl.isduHandler.isduData.write
        (dl.isduHandler.currentIsduSeg * dl.messageHandler.odLen) dl.segment } := by
    rw [hd, storeSegment_of_fits dl.readTotalLen.readTotalSeg dl.segment h32 rfl rfl hinside]
    rfl
  have hmessage : d.messageHandler = dl.messageHandler := by
    rw [hd, storeSegment_messageHandler, readTotalSeg_messageHandler, readTotalLen_messageHandler]
  have hdata := congrArg IsduHandler.isduData hhandler
  have hcounted : d.countedOctets = dl.storeSegment.countedOctets := by
    refine countedOctets_congr (hdata.trans ?_)
    rw [storeSegment_of_fits dl dl.segment h32 rfl rfl hinside]
    rfl
  have hout' : d.out = [] := by
    rw [hd, storeSegment_out, readTotalSeg_out, readTotalLen_out, hout]
  rw [← hd]
  refine isduResponse5Stored_verdict hod (by rw [hhandler]; exact hdir) (by rw [hmessage]) hout'
    (by rw [hhandler]; exact hstate) hg.seg (by rw [hhandler]) hg.length hseg hfits ?_ ?_ ?_ ?_
  · have hwrite := Buffer.slice_write dl.isduHandler.isduData heard.length dl.segment
      (by rw [hg.length, hseg]; exact hinside)
    rw [hg.data] at hwrite
    rw [hdata, ← hg.length, List.length_append]
    exact hwrite
  · have hserv : d.getIsduIserv = dl.getIsduIserv := by
      rw [getIsduIserv, getIsduIserv, hdata,
        Buffer.get_write_of_lt _ _ (Nat.mul_pos hg.seg hpos)]
    rw [hserv]
    exact hg.answers
  · intro hdone t ht hsum
    refine totalIsduLen_eq hpos hg.seg hg.length hfits hg.counted hunread hg.data hseg hdata
      (by rw [hhandler]) ?_ ht hsum
    rw [hhandler] at hdone
    exact (totalSegments_le_iff hpos (getIsduTotalLen_le dl) _).mp hdone
  · intro hle hcode
    rw [hcounted] at hle hcode
    exact hzero ⟨hle, hcode⟩

/-- `iolink_dl_isdu_h_sm_isdu_response5`. -/
theorem isduHSmIsduResponse5_verdict (hg : dl.Gathers dirRead heard)
    (hstate : dl.isduHandler.state = .isduresponse5) (hu : dl.Unspoiled) (hout : dl.out = []) :
    dl.isduHSmIsduResponse5.Verdict dirRead (dl.heardAfter heard) := by
  unfold isduHSmIsduResponse5
  split_ifs with hlost
  · exact isduHSmEnterIsduerror4_verdict hg.odLen hg.dir hout
  · rw [not_or] at hlost
    cases htrigger : dl.odHandler.trigger with
    | masterMessage =>
      refine .silent (by rw [odReq_out, hout]) ?_
      rw [heardAfter, htrigger, if_neg (by decide)]
      exact hg.congr (odReq_isduHandler ..) (by rw [odReq_messageHandler])
    | none =>
      refine .silent hout ?_
      rw [heardAfter, htrigger, if_neg (by decide)]
      exact hg
    | deviceMessage =>
      obtain ⟨hinside, hzero, hunread⟩ := hu ⟨htrigger, hlost.1, hlost.2, .inr hstate⟩
      rw [heardAfter, if_pos htrigger, hstate]
      exact isduResponse5_segment_verdict (hg.receiving hstate) hg.odLen hg.dir hstate hout
        hinside hzero hunread

/-! ### Every call -/

/-- `iolink_dl_isdu_h_sm_inactive0`. -/
theorem isduHSmInactive0_verdict (hod : StackOdLen dl.messageHandler.odLen)
    (hdir : dl.isduHandler.dataDirRead = dirRead)
    (hstate : dl.isduHandler.state = .inactive0) (hout : dl.out = []) :
    dl.isduHSmInactive0.Verdict dirRead heard := by
  unfold isduHSmInactive0
  split
  · exact .silent hout (.elsewhere .idle1 (by decide) hod hdir rfl)
  · exact .silent hout (.elsewhere .inactive0 (by decide) hod hdir hstate)

/-- `iolink_dl_isdu_h_sm_idle1`, the handler being deactivated. -/
theorem isduIdle1Deactivate_verdict (hod : StackOdLen dl.messageHandler.odLen)
    (hdir : dl.isduHandler.dataDirRead = dirRead)
    (hout : dl.out = []) : dl.isduIdle1Deactivate.Verdict dirRead heard := by
  unfold isduIdle1Deactivate
  dsimp only
  split_ifs
  · refine .refused none 0 0 .noComm ?_ (by decide)
    simp [isduTransportCnfNull, hout]
  · exact .silent hout (.elsewhere .inactive0 (by decide) hod hdir rfl)

/-- `iolink_dl_isdu_h_sm_idle1`, a master message being prepared. -/
theorem isduIdle1MasterMessage_verdict (hod : StackOdLen dl.messageHandler.odLen)
    (hdir : dl.isduHandler.dataDirRead = dirRead)
    (hstate : dl.isduHandler.state = .idle1) (hout : dl.out = []) :
    dl.isduIdle1MasterMessage.Verdict dirRead heard := by
  have hidle : dl.Gathers dirRead heard := .elsewhere .idle1 (by decide) hod hdir hstate
  have hread : ∀ rw ch a len p, (dl.odReq rw ch a len p).2.Verdict dirRead heard :=
    fun rw ch a len p => .silent ((dl.odReq_out rw ch a len p).trans hout)
      (hidle.congr (odReq_isduHandler ..) (by rw [odReq_messageHandler]))
  unfold isduIdle1MasterMessage
  split
  · refine .silent ?_ (.elsewhere .isdurequest2 (by decide) ?_ ?_ rfl)
    · rw [modIsdu_out, odReq_out, hout]
    · rw [modIsdu_messageHandler, odReq_messageHandler]
      exact hod
    · rw [modIsdu_isduHandler, odReq_isduHandler]
      exact hdir
  · exact hread _ _ _ _ _
  · exact hread _ _ _ _ _
  · exact hread _ _ _ _ _

/-- `iolink_dl_isdu_h_sm_idle1`, a device message having been received. -/
theorem isduIdle1DeviceMessage_verdict (hod : StackOdLen dl.messageHandler.odLen)
    (hdir : dl.isduHandler.dataDirRead = dirRead)
    (hstate : dl.isduHandler.state = .idle1) (hout : dl.out = []) :
    dl.isduIdle1DeviceMessage.Verdict dirRead heard := by
  unfold isduIdle1DeviceMessage
  split
  · refine .quiet ?_ (.elsewhere .idle1 (by decide) hod hdir hstate)
    simp [hout, DlCall.IsIsduCnf]
  · refine .quiet ?_ (.elsewhere .idle1 (by decide) hod hdir hstate)
    simp [hout, DlCall.IsIsduCnf]
  · exact .silent hout (.elsewhere .idle1 (by decide) hod hdir hstate)

/-- `iolink_dl_isdu_h_sm_idle1`. -/
theorem isduHSmIdle1_verdict (hod : StackOdLen dl.messageHandler.odLen)
    (hdir : dl.isduHandler.dataDirRead = dirRead)
    (hstate : dl.isduHandler.state = .idle1) (hout : dl.out = []) :
    dl.isduHSmIdle1.Verdict dirRead heard := by
  unfold isduHSmIdle1
  split_ifs
  · exact isduIdle1Deactivate_verdict hod hdir hout
  · split
    · exact isduIdle1MasterMessage_verdict hod hdir hstate hout
    · exact isduIdle1DeviceMessage_verdict hod hdir hstate hout
    · exact .silent hout (.elsewhere .idle1 (by decide) hod hdir hstate)

/-- `iolink_dl_isdu_h_sm_isdu_request2`. -/
theorem isduHSmIsduRequest2_verdict (hod : StackOdLen dl.messageHandler.odLen)
    (hdir : dl.isduHandler.dataDirRead = dirRead)
    (hstate : dl.isduHandler.state = .isdurequest2) (hout : dl.out = []) :
    dl.isduHSmIsduRequest2.Verdict dirRead heard := by
  have hsending : dl.Gathers dirRead heard := .elsewhere .isdurequest2 (by decide) hod hdir hstate
  have hsent : ∀ rw ch a len p n, ((dl.odReq rw ch a len p).2.modIsdu
      ({ · with currentIsduSeg := n })).Verdict dirRead heard := by
    intro rw' ch a len p n
    refine .silent ?_ (.elsewhere .isdurequest2 (by decide) ?_ ?_ ?_)
    · rw [modIsdu_out, odReq_out, hout]
    · rw [modIsdu_messageHandler, odReq_messageHandler]
      exact hod
    · rw [modIsdu_isduHandler, odReq_isduHandler]
      exact hdir
    · rw [modIsdu_isduHandler, odReq_isduHandler]
      exact hstate
  unfold isduHSmIsduRequest2
  split_ifs with hlost hlast
  · exact isduHSmEnterIsduerror4_verdict hod hdir hout
  · split
    · exact hsent _ _ _ _ _ _
    · exact .silent hout ⟨hod, hdir, fun _ => rfl, IsduhSt.noConfusion⟩
    · exact .silent hout hsending
  · split
    · exact hsent _ _ _ _ _ _
    · exact .silent hout hsending
    · exact .silent hout hsending

/-- **The verdict of a call**, whatever the layer is doing when the handler is called. -/
theorem isduHSm_verdict (hg : dl.Gathers dirRead heard) (hu : dl.Unspoiled) (hout : dl.out = []) :
    dl.isduHSm.Verdict dirRead (dl.heardAfter heard) := by
  unfold isduHSm
  cases hstate : dl.isduHandler.state with
  | inactive0 => exact isduHSmInactive0_verdict hg.odLen hg.dir hstate hout
  | idle1 => exact isduHSmIdle1_verdict hg.odLen hg.dir hstate hout
  | isdurequest2 => exact isduHSmIsduRequest2_verdict hg.odLen hg.dir hstate hout
  | isduwait3 => exact isduHSmIsduWait3_verdict hg hstate hu hout
  | isduerror4 => exact isduHSmIsduError4_verdict hg.odLen hg.dir hout
  | isduresponse5 => exact isduHSmIsduResponse5_verdict hg hstate hu hout

/-! ### Between two services -/

theorem isduHSm_odLen (dl : Dl) : dl.isduHSm.messageHandler.odLen = dl.messageHandler.odLen := by
  have hclosed : IsduClosed fun d : Dl =>
      d.messageHandler.odLen = dl.messageHandler.odLen := by
    refine ⟨fun _ h => h, fun _ h => h, fun _ h => h, fun _ _ h => h, ?_⟩
    rintro d rw' ch a len p h
    rw [odReq_messageHandler]
    exact h
  exact hclosed.isduHSm rfl

theorem Resting.heardAfter (h : dl.Resting) : dl.heardAfter heard = heard := by
  unfold Dl.heardAfter
  obtain hs | hs := h.state
  · rw [hs, ite_self]
  · rw [hs, ite_self]

/-- A resting handler prepares messages of other services. -/
theorem Resting.isduIdle1MasterMessage (h : dl.Resting) (hout : dl.out = []) :
    dl.isduIdle1MasterMessage.Resting ∧ ∀ c ∈ dl.isduIdle1MasterMessage.out, ¬ c.HasResponse := by
  have hreq : ∀ rw ch a len p, (dl.odReq rw ch a len p).2.Resting ∧
      ∀ c ∈ (dl.odReq rw ch a len p).2.out, ¬ c.HasResponse := by
    intro rw' ch a len p
    refine ⟨⟨?_, ?_⟩, ?_⟩
    · rw [odReq_isduHandler]
      exact h.state
    · rw [odReq_messageHandler]
      exact h.rwcmd
    · rw [odReq_out, hout]
      exact fun c hc => absurd hc List.not_mem_nil
  unfold Dl.isduIdle1MasterMessage
  split
  next hrwcmd => exact absurd hrwcmd h.rwcmd
  · exact hreq _ _ _ _ _
  · exact hreq _ _ _ _ _
  · exact hreq _ _ _ _ _

/-- A resting handler goes on resting, and confirms no response. -/
theorem Resting.isduHSm (h : dl.Resting) (hout : dl.out = []) :
    dl.isduHSm.Resting ∧ ∀ c ∈ dl.isduHSm.out, ¬ c.HasResponse := by
  have hsilent : ∀ c ∈ dl.out, ¬ c.HasResponse := by
    rw [hout]
    exact fun c hc => absurd hc List.not_mem_nil
  unfold Dl.isduHSm
  obtain hs | hs := h.state
  · rw [hs]
    dsimp only
    unfold isduHSmIdle1
    split_ifs
    · unfold isduIdle1Deactivate
      dsimp only
      split_ifs
      · refine ⟨⟨.inr rfl, h.rwcmd⟩, ?_⟩
        simp [isduTransportCnfNull, hout, DlCall.HasResponse]
      · exact ⟨⟨.inr rfl, h.rwcmd⟩, hsilent⟩
    · split
      · exact h.isduIdle1MasterMessage hout
      · unfold isduIdle1DeviceMessage
        split
        · exact ⟨⟨.inl hs, MHRWCmd.noConfusion⟩, by simp [hout, DlCall.HasResponse]⟩
        · exact ⟨⟨.inl hs, MHRWCmd.noConfusion⟩, by simp [hout, DlCall.HasResponse]⟩
        · exact ⟨h, hsilent⟩
      · exact ⟨h, hsilent⟩
  · rw [hs]
    dsimp only
    unfold isduHSmInactive0
    split
    · exact ⟨⟨.inl rfl, h.rwcmd⟩, hsilent⟩
    · exact ⟨h, hsilent⟩

/-! ### Requests -/

/-- An accepted request is waiting to be sent. -/
theorem gathers_isduTransportReq {dl : Dl} {vl : IsduVl} (h : dl.TakesIsdu vl)
    (hod : StackOdLen dl.messageHandler.odLen) (heard : List Octet) :
    (dl.isduTransportReq vl).2.out = dl.out ∧
      (dl.isduTransportReq vl).2.Gathers (decide (vl.readwrite = .read)) heard := by
  have hmode : ¬ (dl.modeHandler.state = .idle0 ∨ dl.modeHandler.state = .estcom1) :=
    not_or.mpr h.mode
  have hindex : ¬ vl.index < 2 := by
    rw [UInt16.lt_iff_toNat_lt, Nat.not_lt]
    exact h.index
  have hidle : ¬ dl.isduHandler.state ≠ .idle1 := not_not.mpr h.idle
  obtain ⟨buf, fs, henc⟩ := encodeIsdu_frame
    (dl.modIsdu ({ · with dataDirRead := decide (vl.readwrite = RwDirection.read) })) vl
  simp only [isduTransportReq, if_neg hmode, if_neg hindex, if_neg hidle, henc]
  split_ifs
  · refine ⟨by simp, .elsewhere .idle1 (by decide) ?_ ?_ ?_⟩
    · simpa using hod
    · simp
    · simpa using h.idle
  · refine ⟨by simp, .elsewhere .idle1 (by decide) ?_ ?_ ?_⟩
    · simpa using hod
    · simp
    · simpa using h.idle
  · refine ⟨by simp, .elsewhere .idle1 (by decide) ?_ ?_ ?_⟩
    · simpa using hod
    · simp
    · simpa using h.idle

end Dl

end IolHat

import IolHat.DataLink.IsduEncoding
import IolHat.DataLink.IsduReception

/-!
# The bounds of `isdu_data`

The request and the response of an ISDU service share the array `isdu_data`, which is longer
than the longest ISDU by one octet only. Segments are copied whole, so a request or a response
whose length is not a multiple of `od_len` is rounded up, and the device chooses the length of
the response.

* `IsduInput` lists what can happen to the ISDU handler: a request, a message exchange with any
  octets in the device's answer, an answer to a message of another handler, an exchange cut off
  by a lost connection, and changes of the state around the handler.
* `SegmentsBounded` is the invariant that links the current segment, the number of segments and
  `od_len`; `BoundedSent` is the same invariant while a master message is under way.
* `isduInside_of_reaches` states that no access leaves `isdu_data` and no length wraps around as
  long as every request and every announced response length, rounded up to whole segments, fits
  (`Fitting`). `isduInside_fails` shows that the handler does not check this itself.
-/

namespace IolHat

namespace Dl

/-! ### What can happen to the ISDU handler -/

/-- No access has left `isdu_data`, and `get_isdu_data_length` has not wrapped around. -/
def IsduInside (dl : Dl) : Prop :=
  Fault.isduData ∉ dl.faults ∧ Fault.isduLength ∉ dl.faults

instance (dl : Dl) : Decidable dl.IsduInside :=
  inferInstanceAs (Decidable (_ ∧ _))

/-- The inputs of the ISDU handler. -/
inductive IsduInput
  /-- `DL_ISDUTransport_req`. -/
  | request (vl : IsduVl)
  /-- A message exchange with any octets in the device's answer. -/
  | exchange (x : Exchange)
  /-- A device message that answers a master message of another handler. -/
  | answer (now : UInt32) (octets : List Octet)
  /-- A master message without an answer: communication is lost and the handler deactivated. -/
  | lost (now : UInt32)
  /-- `IH_Conf`, between two messages. -/
  | conf (now : UInt32) (cmd : HandlerCmd)
  /-- The mode handler and `rwcmd` change, between two messages. -/
  | surroundings (mode : ModeHandler) (rwcmd : MHRWCmd)

/-- One input. -/
def isduStep (dl : Dl) : IsduInput → Dl
  | .request vl => (dl.isduTransportReq vl).2
  | .exchange x => dl.exchange x
  | .answer now octets => dl.deviceMessage now octets
  | .lost now =>
    (((dl.masterMessage now).modOd ({ · with trigger := .none })).modMode
      ({ · with mhinfo := .comlost })).ihConf .inactive
  | .conf now cmd => ((dl.atTime now).modOd ({ · with trigger := .none })).ihConf cmd
  | .surroundings mode rwcmd => (dl.modMode fun _ => mode).modMessage ({ · with rwcmd := rwcmd })

/-- `DL_ISDUTransport_req` accepts a request. -/
def AcceptsIsdu (dl : Dl) (vl : IsduVl) : Prop :=
  ¬ (dl.modeHandler.state = .idle0 ∨ dl.modeHandler.state = .estcom1) ∧ ¬ vl.index < 2 ∧
    dl.isduHandler.state = .idle1

instance (dl : Dl) (vl : IsduVl) : Decidable (dl.AcceptsIsdu vl) :=
  inferInstanceAs (Decidable (_ ∧ _))

/-- The octets of the whole segments of `od` octets that `isdu_data` has room for. -/
def segmentRoom (od : ℕ) : ℕ := isduMaxSize / od * od

/-- A response begins with the octets in the buffer: not the busy reply, and a header that
`isdu_wait3` takes. -/
def BeginsResponse (dl : Dl) : Prop :=
  dl.isduHandler.isduData.get 0 ≠ (iserviceNoService <<< 4) ||| 0x01 ∧
    dl.isduHandler.isduData.get 0 ≠ 0 ∧ dl.validIsduHeader = true

instance (dl : Dl) : Decidable dl.BeginsResponse := inferInstanceAs (Decidable (_ ∧ _))

/-- The device message in `rxbuffer` holds the extended length octet of a response: the octets
of one message reach it, or it is the second message of one octet each. -/
def HoldsLength (dl : Dl) : Prop :=
  dl.isduHandler.state = .isduwait3 ∧ 2 ≤ dl.messageHandler.odLen ∧
      dl.storeSegment.BeginsResponse ∨
    dl.isduHandler.state = .isduresponse5 ∧ dl.messageHandler.odLen = 1 ∧
      dl.isduHandler.currentIsduSeg = 1

instance (dl : Dl) : Decidable dl.HoldsLength := inferInstanceAs (Decidable (_ ∨ _))

/-- The extended length that the device message in `rxbuffer` announces. -/
def announced (dl : Dl) : Option ℕ :=
  if dl.HoldsLength ∧ dl.storeSegment.getIsduLen = 1 then
    some (dl.storeSegment.isduHandler.isduData.get 1).toNat
  else none

/-- An announced length that can be received: it covers its own header, and its segments fit. -/
def AnnouncesFitting (dl : Dl) : Prop :=
  ∀ L ∈ dl.announced, L ≠ 2 ∧ L ≤ segmentRoom dl.messageHandler.odLen

instance (dl : Dl) : Decidable dl.AnnouncesFitting :=
  inferInstanceAs (Decidable (∀ L ∈ dl.announced, _))

/-- The requests that are accepted, and the response lengths that are announced, fit when rounded
up to whole segments. -/
def Fitting (dl : Dl) : IsduInput → Prop
  | .request vl => dl.AcceptsIsdu vl →
      vl.data.length + vl.totalOverhead ≤ segmentRoom dl.messageHandler.odLen
  | .exchange x =>
      ((dl.masterMessage x.sent).arrive x.received x.octets).AnnouncesFitting
  | .answer now octets => (dl.arrive now octets).AnnouncesFitting
  | .lost _ => True
  | .conf _ _ => True
  | .surroundings _ _ => True

instance (dl : Dl) : (i : IsduInput) → Decidable (dl.Fitting i)
  | .request _ => inferInstanceAs (Decidable (_ → _))
  | .exchange _ => inferInstanceAs (Decidable (AnnouncesFitting _))
  | .answer _ _ => inferInstanceAs (Decidable (AnnouncesFitting _))
  | .lost _ => inferInstanceAs (Decidable True)
  | .conf _ _ => inferInstanceAs (Decidable True)
  | .surroundings _ _ => inferInstanceAs (Decidable True)

/-- The handler before its first service. -/
structure Unused (dl : Dl) : Prop where
  odLen : StackOdLen dl.messageHandler.odLen
  state : dl.isduHandler.state = .inactive0 ∨ dl.isduHandler.state = .idle1
  seg : dl.isduHandler.totalIsduSeg = 0
  inside : dl.IsduInside

/-! ### The invariant -/

/-- The total length the buffer holds covers its own header, and its segments fit. -/
def LengthFits (dl : Dl) : Prop :=
  ∀ L, dl.getIsduTotalLen = some L →
    dl.isduOhlen ≤ L ∧ L ≤ segmentRoom dl.messageHandler.odLen

/-- How far the segments of the service in progress reach, by the state of the handler. With one
octet per message nothing is known of the length before its octet has arrived, but then only the
second octet is written. -/
def SegmentsBounded (dl : Dl) : Prop :=
  match dl.isduHandler.state with
  | .inactive0 | .isduerror4 => True
  | .idle1 | .isdurequest2 =>
    dl.isduHandler.totalIsduSeg * dl.messageHandler.odLen ≤ isduMaxSize
  | .isduwait3 => dl.isduHandler.currentIsduSeg = 0
  | .isduresponse5 =>
    1 ≤ dl.isduHandler.currentIsduSeg ∧
      (dl.isduHandler.currentIsduSeg + 1) * dl.messageHandler.odLen ≤ isduMaxSize ∧
      (dl.messageHandler.odLen = 1 ∧ dl.isduHandler.currentIsduSeg = 1 ∨ dl.LengthFits)

/-- What every function of the handler keeps. -/
structure Bounded (dl : Dl) : Prop where
  odLen : StackOdLen dl.messageHandler.odLen
  inside : dl.IsduInside

/-- The invariant while a master message is under way. -/
structure BoundedSent (dl : Dl) : Prop extends Bounded dl where
  segs : dl.SegmentsBounded

/-- The invariant between two messages: there is a segment left to be sent. -/
structure BoundedIdle (dl : Dl) : Prop extends BoundedSent dl where
  left : dl.isduHandler.state = .isdurequest2 →
    dl.isduHandler.currentIsduSeg < dl.isduHandler.totalIsduSeg

/-- Outside a transfer only a request still to be sent matters. -/
private theorem Bounded.idle {dl : Dl} (h : dl.Bounded)
    (hs : dl.isduHandler.state = .inactive0 ∨ dl.isduHandler.state = .isduerror4 ∨
      dl.isduHandler.state = .idle1 ∧
        dl.isduHandler.totalIsduSeg * dl.messageHandler.odLen ≤ isduMaxSize) :
    dl.BoundedIdle := by
  rcases hs with hs | hs | ⟨hs, hroom⟩
  · exact ⟨⟨h, by simp only [SegmentsBounded, hs]⟩, fun h' => by rw [hs] at h'; cases h'⟩
  · exact ⟨⟨h, by simp only [SegmentsBounded, hs]⟩, fun h' => by rw [hs] at h'; cases h'⟩
  · exact ⟨⟨h, by simpa only [SegmentsBounded, hs] using hroom⟩,
      fun h' => by rw [hs] at h'; cases h'⟩

theorem Unused.boundedIdle {dl : Dl} (h : dl.Unused) : dl.BoundedIdle := by
  refine Bounded.idle ⟨h.odLen, h.inside⟩ ?_
  rcases h.state with hs | hs
  · exact .inl hs
  · exact .inr (.inr ⟨hs, by simp [h.seg]⟩)

/-- What changes neither `od_len` nor the log of faults keeps `Bounded`. -/
private theorem Bounded.of_eq {dl dl' : Dl} (h : dl.Bounded)
    (hod : dl'.messageHandler.odLen = dl.messageHandler.odLen)
    (hf : dl'.faults = dl.faults) : dl'.Bounded :=
  ⟨hod ▸ h.odLen, by simpa only [IsduInside, hf] using h.inside⟩

theorem segmentRoom_le (od : ℕ) : segmentRoom od ≤ isduMaxSize := Nat.div_mul_le_self _ _

/-- The room holds the longest ISDU with a short length field. -/
theorem le_segmentRoom {od : ℕ} (h : StackOdLen od) : 224 ≤ segmentRoom od := by
  rcases h with rfl | rfl | rfl | rfl <;> decide

/-- A length that fits leaves room for every segment that begins before it ends. -/
theorem segment_fits {od k L : ℕ} (hL : L ≤ segmentRoom od) (hk : k * od < L) :
    (k + 1) * od ≤ isduMaxSize := by
  have hlt : k * od < isduMaxSize / od * od := Nat.lt_of_lt_of_le hk hL
  have hk' : k < isduMaxSize / od := Nat.lt_of_mul_lt_mul_right hlt
  exact Nat.le_trans (Nat.mul_le_mul_right od hk') (segmentRoom_le od)

/-- The segments of a length that fits end in the buffer. -/
theorem totalSegments_mul_le {od L : ℕ} (h : StackOdLen od) (hL : L ≤ segmentRoom od) :
    narrow8 ((L + od - 1) / od) * od ≤ isduMaxSize := by
  have h241 : segmentRoom od ≤ 241 := segmentRoom_le od
  have hle := (totalSegments_le_iff h.pos.1 (by omega) (isduMaxSize / od)).mpr hL
  exact Nat.le_trans (Nat.mul_le_mul_right od hle) (segmentRoom_le od)

/-! ### The total length -/

/-- What `get_isdu_total_len` can return: a length nibble, or the octet behind it. -/
theorem getIsduTotalLen_eq_some {dl : Dl} {L : ℕ} (h : dl.getIsduTotalLen = some L) :
    2 ≤ L ∧ (dl.getIsduLen = 1 ∧ L = (dl.isduHandler.isduData.get 1).toNat ∨
      dl.getIsduLen ≠ 1 ∧ L = dl.getIsduLen) := by
  simp only [getIsduTotalLen] at h
  split_ifs at h with hone hbad hbad
  · simp only [Option.some.injEq] at h
    refine ⟨by omega, .inl ⟨hone, h.symm⟩⟩
  · simp only [Option.some.injEq] at h
    refine ⟨by omega, .inr ⟨hone, h.symm⟩⟩

/-- The length nibble. -/
theorem getIsduLen_lt (dl : Dl) : dl.getIsduLen < 16 := by
  have h : dl.getIsduLen ≤ 15 := by
    simp only [getIsduLen, UInt8.toNat_and]
    exact Nat.and_le_right
  omega

theorem getIsduTotalLen_le (dl : Dl) : dl.getIsduTotalLen.getD 0 ≤ 255 := by
  cases hL : dl.getIsduTotalLen with
  | none => simp
  | some L =>
    have hlt := getIsduLen_lt dl
    have hlt' := (dl.isduHandler.isduData.get 1).toNat_lt
    rw [Option.getD_some]
    obtain ⟨-, ⟨-, rfl⟩ | ⟨-, rfl⟩⟩ := getIsduTotalLen_eq_some hL <;> omega

/-- An extended length that is not 2 and fits is all the reception needs. -/
theorem lengthFits_of_extended {dl : Dl} (hod : StackOdLen dl.messageHandler.odLen)
    (h : dl.getIsduLen = 1 → (dl.isduHandler.isduData.get 1).toNat ≠ 2 ∧
      (dl.isduHandler.isduData.get 1).toNat ≤ segmentRoom dl.messageHandler.odLen) :
    dl.LengthFits := by
  intro L hL
  have hroom := le_segmentRoom hod
  have hlen := getIsduLen_lt dl
  obtain ⟨h2, ⟨hone, rfl⟩ | ⟨hone, rfl⟩⟩ := getIsduTotalLen_eq_some hL
  · obtain ⟨hne, hle⟩ := h hone
    rw [isduOhlen, if_pos hone]
    exact ⟨by omega, hle⟩
  · rw [isduOhlen, if_neg hone]
    exact ⟨h2, by omega⟩

/-- Both depend on the first two octets only. -/
private theorem LengthFits.congr {dl dl' : Dl} (h : dl.LengthFits)
    (h0 : dl'.isduHandler.isduData.get 0 = dl.isduHandler.isduData.get 0)
    (h1 : dl'.isduHandler.isduData.get 1 = dl.isduHandler.isduData.get 1)
    (hod : dl'.messageHandler.odLen = dl.messageHandler.odLen) : dl'.LengthFits := by
  intro L hL
  have hlen : dl'.getIsduLen = dl.getIsduLen := by simp only [getIsduLen, h0]
  have htot : dl'.getIsduTotalLen = dl.getIsduTotalLen := by
    simp only [getIsduTotalLen, hlen, h1]
  have hohlen : dl'.isduOhlen = dl.isduOhlen := by simp only [isduOhlen, hlen]
  rw [hohlen, hod]
  exact h L (htot ▸ hL)

/-! ### Leaving a transfer -/

private theorem isduHSmIsduError4_bounded {dl : Dl} (h : dl.Bounded) :
    dl.isduHSmIsduError4.BoundedIdle := by
  simp only [isduHSmIsduError4]
  split_ifs
  · exact (h.of_eq (by simp) (by simp)).idle (.inl (by simp))
  · refine (h.of_eq ?_ ?_).idle (.inr (.inr ⟨by simp, ?_⟩))
    · simp [isduTransportCnfNull]
    · simp [isduTransportCnfNull]
    · simp [isduTransportCnfNull]

private theorem isduHSmEnterIsduerror4_bounded {dl : Dl} (h : dl.Bounded) :
    dl.isduHSmEnterIsduerror4.BoundedIdle := by
  simp only [isduHSmEnterIsduerror4]
  split_ifs
  · exact (h.of_eq (by simp [isduTransportCnfNull]) (by simp [isduTransportCnfNull])).idle
      (.inl (by simp))
  · exact isduHSmIsduError4_bounded h
  · exact (h.of_eq (by simp) (by simp)).idle (.inr (.inl (by simp)))

private theorem isduHSmReceptionComplete_bounded {dl : Dl} (h : dl.Bounded)
    (hlen : ∀ L, dl.getIsduTotalLen = some L → dl.isduOhlen ≤ L)
    (htot : dl.getIsduTotalLen ≠ none → dl.isduHandler.totalIsduLen ≤ isduMaxSize) :
    dl.isduHSmReceptionComplete.BoundedIdle := by
  have hcnf : dl.isduResponseCnf.faults = dl.faults ∧
      dl.isduResponseCnf.messageHandler = dl.messageHandler := by
    cases hL : dl.getIsduTotalLen with
    | none => simp [isduResponseCnf_of_none hL, isduTransportCnfData]
    | some L =>
      have hle := hlen L hL
      have hmax := htot (by rw [hL]; exact Option.some_ne_none L)
      rw [isduResponseCnf_of_some hL]
      rw [access_of_inside dl .isduLength (by simpa using hle),
        access_of_inside dl .isduData (by simpa using hmax)]
      simp [isduTransportCnfData]
  simp only [isduHSmReceptionComplete]
  refine (h.of_eq ?_ ?_).idle (.inr (.inr ⟨by simp, by simp⟩))
  · simp [hcnf.2]
  · simp [hcnf.1]

/-! ### A master message -/

/-- A write request that finds its octets stays inside. -/
private theorem odReq_write_inside {dl : Dl} (h : dl.IsduInside) {ch : ComChannel} {a len : ℕ}
    {p : OctetPtr} (hp : p.array = .txbuffer ∨ p.array = .isduData ∧ len ≤ p.reach.length) :
    (dl.odReq .write ch a len p).2.IsduInside := by
  constructor
  · intro hf
    rcases mem_odReq_write_faults dl ch a len p hf with hf | ⟨hf, hout⟩ | hf
    · exact h.1 hf
    · rcases hp with hp | ⟨-, hp⟩
      · rw [hp] at hf; cases hf
      · exact hout hp
    · cases hf
  · intro hf
    rcases mem_odReq_write_faults dl ch a len p hf with hf | ⟨hf, -⟩ | hf
    · exact h.2 hf
    · rcases hp with hp | ⟨hp, -⟩ <;> rw [hp] at hf <;> cases hf
    · cases hf

private theorem isduHSmInactive0_bounded {dl : Dl} (h : dl.Bounded)
    (hs : dl.isduHandler.state = .inactive0) : dl.isduHSmInactive0.BoundedIdle := by
  simp only [isduHSmInactive0]
  split
  · exact (h.of_eq (by simp) (by simp)).idle (.inr (.inr ⟨by simp, by simp⟩))
  · exact h.idle (.inl hs)

private theorem isduIdle1Deactivate_bounded {dl : Dl} (h : dl.Bounded) :
    dl.isduIdle1Deactivate.BoundedIdle := by
  simp only [isduIdle1Deactivate]
  split_ifs
  · exact (h.of_eq (by simp [isduTransportCnfNull]) (by simp [isduTransportCnfNull])).idle
      (.inl (by simp))
  · exact (h.of_eq (by simp) (by simp)).idle (.inl (by simp))

private theorem isduIdle1MasterMessage_bounded {dl : Dl} (h : dl.BoundedIdle)
    (hs : dl.isduHandler.state = .idle1) : dl.isduIdle1MasterMessage.BoundedSent := by
  have hroom : dl.isduHandler.totalIsduSeg * dl.messageHandler.odLen ≤ isduMaxSize := by
    simpa only [SegmentsBounded, hs] using h.segs
  have h32 : dl.messageHandler.odLen ≤ 241 := Nat.le_trans h.odLen.pos.2 (by decide)
  simp only [isduIdle1MasterMessage]
  split
  · -- the first segment of the request
    refine ⟨⟨by simpa using h.odLen, ?_⟩, by simpa [SegmentsBounded] using hroom⟩
    exact odReq_write_inside h.inside (.inr ⟨rfl, by simpa [Octets.Buffer.length_suffix] using h32⟩)
  · refine ⟨h.toBounded.of_eq (by simp) (by simp), ?_⟩
    simpa [SegmentsBounded, hs] using hroom
  · refine ⟨⟨by simpa using h.odLen, odReq_write_inside h.inside (.inl rfl)⟩, ?_⟩
    simpa [SegmentsBounded, hs] using hroom
  · refine ⟨h.toBounded.of_eq (by simp) (by simp), ?_⟩
    simpa [SegmentsBounded, hs] using hroom

private theorem isduHSmIsduRequest2_master {dl : Dl} (h : dl.BoundedIdle)
    (hs : dl.isduHandler.state = .isdurequest2) (ht : dl.odHandler.trigger = .masterMessage) :
    dl.isduHSmIsduRequest2.BoundedSent := by
  simp only [isduHSmIsduRequest2, ht]
  split_ifs
  · exact (isduHSmEnterIsduerror4_bounded h.toBounded).toBoundedSent
  · have hroom : dl.isduHandler.totalIsduSeg * dl.messageHandler.odLen ≤ isduMaxSize := by
      simpa only [SegmentsBounded, hs] using h.segs
    have hseg : (dl.isduHandler.currentIsduSeg + 1) * dl.messageHandler.odLen ≤ 241 :=
      Nat.le_trans (Nat.mul_le_mul_right _ (h.left hs)) hroom
    have hmul : (dl.isduHandler.currentIsduSeg + 1) * dl.messageHandler.odLen =
        dl.messageHandler.odLen * dl.isduHandler.currentIsduSeg + dl.messageHandler.odLen := by
      rw [Nat.succ_mul, Nat.mul_comm]
    refine ⟨⟨by simpa using h.odLen, ?_⟩, by simpa [SegmentsBounded, hs] using hroom⟩
    refine odReq_write_inside h.inside (.inr ⟨rfl, ?_⟩)
    have hsuffix : dl.messageHandler.odLen ≤
        241 - dl.messageHandler.odLen * dl.isduHandler.currentIsduSeg := by omega
    simpa [Octets.Buffer.length_suffix] using hsuffix

/-- What the master message of a read asks for does not touch the ISDU handler. -/
private theorem BoundedIdle.odReq_read {dl : Dl} (h : dl.BoundedIdle) (a len : ℕ) (p : OctetPtr) :
    (dl.odReq .read .isdu a len p).2.BoundedIdle := by
  have hlen : dl.LengthFits → (dl.odReq .read .isdu a len p).2.LengthFits := fun hl =>
    hl.congr (by simp) (by simp) (by simp)
  refine ⟨⟨h.toBounded.of_eq (by simp) (by simp), ?_⟩, by simpa using h.left⟩
  have hsegs := h.segs
  simp only [SegmentsBounded, odReq_isduHandler, odReq_messageHandler] at hsegs ⊢
  split at hsegs
  · trivial
  · trivial
  · exact hsegs
  · exact hsegs
  · exact hsegs
  · exact ⟨hsegs.1, hsegs.2.1, hsegs.2.2.imp_right hlen⟩

/-- **A master message.** Preparing it reads no octet behind the buffer. -/
theorem isduHSm_master {dl : Dl} (h : dl.BoundedIdle)
    (ht : dl.odHandler.trigger = .masterMessage) : dl.isduHSm.BoundedSent := by
  simp only [isduHSm]
  split
  case h_1 hs => exact (isduHSmInactive0_bounded h.toBounded hs).toBoundedSent
  case h_2 hs =>
    simp only [isduHSmIdle1, ht]
    split_ifs
    · exact (isduIdle1Deactivate_bounded h.toBounded).toBoundedSent
    · exact isduIdle1MasterMessage_bounded h hs
  case h_3 hs => exact isduHSmIsduRequest2_master h hs ht
  case h_4 hs =>
    simp only [isduHSmIsduWait3, ht]
    split_ifs
    · have hreset : dl.isduTimerReset.Bounded := h.toBounded.of_eq rfl rfl
      exact (isduHSmEnterIsduerror4_bounded hreset).toBoundedSent
    · exact (isduHSmEnterIsduerror4_bounded h.toBounded).toBoundedSent
    · exact (h.odReq_read _ _ _).toBoundedSent
  case h_5 => exact (isduHSmIsduError4_bounded h.toBounded).toBoundedSent
  case h_6 hs =>
    simp only [isduHSmIsduResponse5, ht]
    split_ifs
    · exact (isduHSmEnterIsduerror4_bounded h.toBounded).toBoundedSent
    · exact (h.odReq_read _ _ _).toBoundedSent

/-! ### A device message -/

/-- The octets in front of a segment are still there when it has been stored, and its own are
those of the message. -/
private theorem storeSegment_spec {dl : Dl} (h : dl.Bounded)
    (hfit : (dl.isduHandler.currentIsduSeg + 1) * dl.messageHandler.odLen ≤ isduMaxSize) :
    dl.storeSegment.Bounded ∧ ∃ buf, dl.storeSegment.isduHandler =
      { dl.isduHandler with isduData := buf } ∧
      ∀ i < dl.isduHandler.currentIsduSeg * dl.messageHandler.odLen,
        buf.get i = dl.isduHandler.isduData.get i := by
  have hstore := storeSegment_of_fits dl _ h.odLen.pos.2 rfl rfl
    (by simpa only [Nat.succ_mul] using hfit)
  rw [hstore]
  refine ⟨h.of_eq rfl rfl, _, rfl, fun i hi => ?_⟩
  exact Octets.Buffer.get_write_of_lt _ _ hi

/-- The octets of a message that holds an extended length make it a length that fits. -/
private theorem lengthFits_storeSegment {dl : Dl} (hod : StackOdLen dl.messageHandler.odLen)
    (ha : dl.AnnouncesFitting) (hh : dl.HoldsLength) : dl.storeSegment.LengthFits := by
  refine lengthFits_of_extended hod fun hone => ?_
  exact ha _ (by rw [announced, if_pos ⟨hh, hone⟩]; rfl)

/-- The first segment of a response. -/
private theorem isduWait3Response_bounded {st : Dl} (h : st.Bounded)
    (hlen : st.messageHandler.odLen = 1 ∨ st.LengthFits) :
    st.isduWait3Response.BoundedIdle := by
  obtain ⟨hpos, h32⟩ := h.odLen.pos
  have hseg := totalSegments_le_iff hpos (getIsduTotalLen_le st) 1
  rw [isduWait3Response_eq]
  simp only
  split_ifs with hdone
  · -- the whole response has arrived
    have hle : st.getIsduTotalLen.getD 0 ≤ st.messageHandler.odLen := by
      simpa only [Nat.one_mul] using hseg.mp hdone
    refine isduHSmReceptionComplete_bounded (h.of_eq rfl rfl) ?_ fun _ => ?_
    · intro L (hL : st.getIsduTotalLen = some L)
      rcases hlen with hone | hfits
      · have h2 := (getIsduTotalLen_eq_some hL).1
        rw [hL, Option.getD_some] at hle
        omega
      · exact (hfits L hL).1
    · exact Nat.le_trans hle (Nat.le_trans h32 (by decide : 32 ≤ 241))
  · refine ⟨⟨h.of_eq rfl rfl, ?_⟩, fun hs => by simp at hs⟩
    have h64 : (1 + 1) * st.messageHandler.odLen ≤ 241 := by omega
    refine ⟨Nat.le_refl 1, h64, ?_⟩
    exact hlen.imp (fun hone => ⟨hone, rfl⟩) fun hfits => hfits.congr rfl rfl rfl

private theorem isduHSmIsduWait3_device {dl : Dl} (h : dl.BoundedSent)
    (hs : dl.isduHandler.state = .isduwait3) (ht : dl.odHandler.trigger = .deviceMessage)
    (ha : dl.AnnouncesFitting) : dl.isduHSmIsduWait3.BoundedIdle := by
  have hcur : dl.isduHandler.currentIsduSeg = 0 := by
    simpa only [SegmentsBounded, hs] using h.segs
  have hreset : dl.isduTimerReset.Bounded := h.toBounded.of_eq rfl rfl
  simp only [isduHSmIsduWait3, ht]
  split_ifs
  · exact isduHSmEnterIsduerror4_bounded hreset
  · exact isduHSmEnterIsduerror4_bounded h.toBounded
  · obtain ⟨hpos, h32⟩ := h.odLen.pos
    have hfit : (0 + 1) * dl.messageHandler.odLen ≤ 241 := by omega
    obtain ⟨hst, buf, hih, -⟩ := storeSegment_spec h.toBounded (by rw [hcur]; exact hfit)
    have hstreset : dl.storeSegment.isduTimerReset.Bounded := hst.of_eq rfl rfl
    simp only [isduWait3Stored]
    split_ifs with hbusy hzero hvalid
    · refine ⟨⟨hst, ?_⟩, fun hs' => by rw [hih] at hs'; simp [hs] at hs'⟩
      simp only [SegmentsBounded, hih, hs, hcur]
    · exact isduHSmEnterIsduerror4_bounded hstreset
    · refine isduWait3Response_bounded hst ?_
      by_cases hone : dl.messageHandler.odLen = 1
      · exact .inl hone
      · refine .inr (lengthFits_storeSegment h.odLen ha (.inl ⟨hs, by omega, ?_⟩))
        exact ⟨hbusy, hzero, hvalid⟩
    · exact isduHSmEnterIsduerror4_bounded hstreset

/-- The length a received segment is judged by: the one read before it was stored. -/
private theorem isduResponse5Stored_bounded {st : Dl} {k tot : ℕ} (h : st.Bounded)
    (hs : st.isduHandler.state = .isduresponse5) (hk : st.isduHandler.currentIsduSeg = k)
    (hfit : (k + 1) * st.messageHandler.odLen ≤ isduMaxSize)
    (hlen : st.LengthFits) (htot : st.isduHandler.totalIsduLen = tot)
    (hseg : st.isduHandler.totalIsduSeg =
      narrow8 ((tot + st.messageHandler.odLen - 1) / st.messageHandler.odLen))
    (h255 : tot ≤ 255)
    (hjudge : st.messageHandler.odLen = 1 ∧ k = 1 ∨ tot ≤ segmentRoom st.messageHandler.odLen) :
    st.isduResponse5Stored.BoundedIdle := by
  obtain ⟨hpos, h32⟩ := h.odLen.pos
  have hk241 : k + 1 ≤ 241 := Nat.le_trans (Nat.le_mul_of_pos_right _ hpos) hfit
  have hcur : narrow8 (st.isduHandler.currentIsduSeg + 1) = k + 1 := by
    rw [hk, narrow8_of_lt (by omega)]
  have hiff := totalSegments_le_iff hpos h255 (k + 1)
  simp only [isduResponse5Stored, modIsdu_isduHandler, hcur, hseg]
  split_ifs with hdone
  · refine isduHSmReceptionComplete_bounded (h.of_eq rfl rfl) (fun L hL => (hlen L hL).1)
      fun _ => ?_
    have hle := hiff.mp hdone
    change st.isduHandler.totalIsduLen ≤ 241
    rw [htot]
    rcases hjudge with ⟨hone, rfl⟩ | hroom
    · rw [hone] at hle
      omega
    · exact Nat.le_trans hroom (segmentRoom_le _)
  · refine ⟨⟨h.of_eq rfl rfl, ?_⟩, fun hs' => by simp [hs] at hs'⟩
    simp only [SegmentsBounded, modIsdu_isduHandler, modIsdu_messageHandler, hs, hcur]
    refine ⟨by omega, ?_, .inr (hlen.congr rfl rfl rfl)⟩
    rcases hjudge with ⟨hone, rfl⟩ | hroom
    · rw [hone]
      decide
    · exact segment_fits hroom (Nat.lt_of_not_le fun hle => hdone (hiff.mpr hle))

private theorem isduHSmIsduResponse5_device {dl : Dl} (h : dl.BoundedSent)
    (hs : dl.isduHandler.state = .isduresponse5) (ht : dl.odHandler.trigger = .deviceMessage)
    (ha : dl.AnnouncesFitting) : dl.isduHSmIsduResponse5.BoundedIdle := by
  have hsegs := h.segs
  simp only [SegmentsBounded, hs] at hsegs
  obtain ⟨hcur, hfit, hlen⟩ := hsegs
  obtain ⟨hpos, h32⟩ := h.odLen.pos
  simp only [isduHSmIsduResponse5, ht]
  split_ifs
  · exact isduHSmEnterIsduerror4_bounded h.toBounded
  have hread : dl.readTotalLen.readTotalSeg.Bounded := h.toBounded.of_eq rfl rfl
  obtain ⟨hst, buf, hih, hbuf⟩ := storeSegment_spec hread hfit
  have hdata : dl.storeSegment.isduHandler.isduData = buf := congrArg IsduHandler.isduData hih
  have h255 : dl.getIsduTotalLen.getD 0 ≤ 255 := getIsduTotalLen_le dl
  refine isduResponse5Stored_bounded hst (by rw [hih]; exact hs) (by rw [hih]; rfl) hfit ?_
    (by rw [hih]; rfl) (by rw [hih]; rfl) h255 ?_
  · rcases hlen with ⟨hone, hk⟩ | hlen
    · -- the second octet of an extended header has just arrived
      have hstored := lengthFits_storeSegment h.odLen ha (.inr ⟨hs, hone, hk⟩)
      exact hstored.congr (by rw [hih, hdata]) (by rw [hih, hdata]) rfl
    · by_cases hone : dl.messageHandler.odLen = 1 ∧ dl.isduHandler.currentIsduSeg = 1
      · have hstored := lengthFits_storeSegment h.odLen ha (.inr ⟨hs, hone⟩)
        exact hstored.congr (by rw [hih, hdata]) (by rw [hih, hdata]) rfl
      · have hoff : 2 ≤ dl.isduHandler.currentIsduSeg * dl.messageHandler.odLen := by
          rcases h.odLen with ho | ho | ho | ho <;> rw [ho] at hone ⊢ <;> omega
        exact hlen.congr (by rw [hih]; exact hbuf 0 (Nat.lt_of_lt_of_le (by omega) hoff))
          (by rw [hih]; exact hbuf 1 (Nat.lt_of_lt_of_le (by omega) hoff)) rfl
  · rcases hlen with hone | hlen
    · exact .inl hone
    · refine .inr ?_
      cases hL : dl.getIsduTotalLen with
      | none => exact Nat.zero_le _
      | some L => exact (hlen L hL).2

/-- **A device message.** Evaluating it writes no octet behind the buffer, if the length it
announces fits. -/
theorem isduHSm_device {dl : Dl} (h : dl.BoundedSent)
    (ht : dl.odHandler.trigger = .deviceMessage) (ha : dl.AnnouncesFitting) :
    dl.isduHSm.BoundedIdle := by
  simp only [isduHSm]
  split
  case h_1 hs => exact isduHSmInactive0_bounded h.toBounded hs
  case h_2 hs =>
    have hroom : dl.isduHandler.totalIsduSeg * dl.messageHandler.odLen ≤ isduMaxSize := by
      simpa only [SegmentsBounded, hs] using h.segs
    simp only [isduHSmIdle1, ht]
    split_ifs
    · exact isduIdle1Deactivate_bounded h.toBounded
    · refine Bounded.idle (h.toBounded.of_eq ?_ ?_) (.inr (.inr ⟨?_, ?_⟩)) <;>
        simp only [isduIdle1DeviceMessage] <;> split <;> simp [hs, hroom]
  case h_3 hs =>
    have hroom : dl.isduHandler.totalIsduSeg * dl.messageHandler.odLen ≤ isduMaxSize := by
      simpa only [SegmentsBounded, hs] using h.segs
    simp only [isduHSmIsduRequest2, ht]
    split_ifs with hab hdone
    · exact isduHSmEnterIsduerror4_bounded h.toBounded
    · refine ⟨⟨h.toBounded.of_eq rfl rfl, ?_⟩, fun hs' => by simp at hs'⟩
      simp only [SegmentsBounded, modIsdu_isduHandler]
    · exact ⟨h, fun _ => Nat.lt_of_not_le hdone⟩
  case h_4 hs => exact isduHSmIsduWait3_device h hs ht ha
  case h_5 => exact isduHSmIsduError4_bounded h.toBounded
  case h_6 hs => exact isduHSmIsduResponse5_device h hs ht ha

/-! ### Calls between messages -/

private theorem isduHSm_conf {dl : Dl} (h : dl.BoundedIdle)
    (ht : dl.odHandler.trigger = .none) : dl.isduHSm.BoundedIdle := by
  have hreset : dl.isduTimerReset.Bounded := h.toBounded.of_eq rfl rfl
  simp only [isduHSm]
  split
  case h_1 hs => exact isduHSmInactive0_bounded h.toBounded hs
  case h_2 =>
    simp only [isduHSmIdle1, ht]
    split_ifs
    · exact isduIdle1Deactivate_bounded h.toBounded
    · exact h
  case h_3 =>
    simp only [isduHSmIsduRequest2, ht]
    split_ifs
    · exact isduHSmEnterIsduerror4_bounded h.toBounded
    · exact h
  case h_4 =>
    simp only [isduHSmIsduWait3, ht]
    split_ifs
    · exact isduHSmEnterIsduerror4_bounded hreset
    · exact isduHSmEnterIsduerror4_bounded h.toBounded
    · exact h
  case h_5 => exact isduHSmIsduError4_bounded h.toBounded
  case h_6 =>
    simp only [isduHSmIsduResponse5, ht]
    split_ifs
    · exact isduHSmEnterIsduerror4_bounded h.toBounded
    · exact h

/-- A lost connection leaves no transfer behind. -/
private theorem isduHSm_lost {dl : Dl} (h : dl.BoundedSent)
    (hmode : dl.modeHandler.mhinfo = .comlost) (hcmd : dl.isduHandler.ihcmd = .inactive) :
    dl.isduHSm.BoundedIdle := by
  have hreset : dl.isduTimerReset.Bounded := h.toBounded.of_eq rfl rfl
  simp only [isduHSm]
  split
  case h_1 hs => exact isduHSmInactive0_bounded h.toBounded hs
  case h_2 =>
    rw [isduHSmIdle1, if_pos hcmd]
    exact isduIdle1Deactivate_bounded h.toBounded
  case h_3 =>
    rw [isduHSmIsduRequest2, if_pos (.inr hmode)]
    exact isduHSmEnterIsduerror4_bounded h.toBounded
  case h_4 =>
    simp only [isduHSmIsduWait3]
    split_ifs with hab hel
    · exact isduHSmEnterIsduerror4_bounded hreset
    · exact isduHSmEnterIsduerror4_bounded h.toBounded
    · exact absurd (.inr hmode) hel
  case h_5 => exact isduHSmIsduError4_bounded h.toBounded
  case h_6 =>
    rw [isduHSmIsduResponse5, if_pos (.inr hmode)]
    exact isduHSmEnterIsduerror4_bounded h.toBounded

/-- The invariant speaks of the ISDU handler, without its command, of `od_len` and of the log of
faults. -/
private theorem BoundedSent.congr {dl dl' : Dl} (h : dl.BoundedSent)
    (hih : dl'.isduHandler = { dl.isduHandler with ihcmd := dl'.isduHandler.ihcmd })
    (hod : dl'.messageHandler.odLen = dl.messageHandler.odLen)
    (hf : dl'.faults = dl.faults) : dl'.BoundedSent := by
  refine ⟨h.toBounded.of_eq hod hf, ?_⟩
  have hstate : dl'.isduHandler.state = dl.isduHandler.state := by rw [hih]
  have hcur : dl'.isduHandler.currentIsduSeg = dl.isduHandler.currentIsduSeg := by rw [hih]
  have htotal : dl'.isduHandler.totalIsduSeg = dl.isduHandler.totalIsduSeg := by rw [hih]
  have hdata : dl'.isduHandler.isduData = dl.isduHandler.isduData := by rw [hih]
  have hlen : dl.LengthFits → dl'.LengthFits := fun hl =>
    hl.congr (by rw [hdata]) (by rw [hdata]) hod
  have hsegs := h.segs
  simp only [SegmentsBounded, hstate, hcur, htotal, hod] at hsegs ⊢
  split at hsegs
  · trivial
  · trivial
  · exact hsegs
  · exact hsegs
  · exact hsegs
  · exact ⟨hsegs.1, hsegs.2.1, hsegs.2.2.imp_right hlen⟩

private theorem BoundedIdle.congr {dl dl' : Dl} (h : dl.BoundedIdle)
    (hih : dl'.isduHandler = { dl.isduHandler with ihcmd := dl'.isduHandler.ihcmd })
    (hod : dl'.messageHandler.odLen = dl.messageHandler.odLen)
    (hf : dl'.faults = dl.faults) : dl'.BoundedIdle :=
  ⟨h.toBoundedSent.congr hih hod hf, by rw [hih]; exact h.left⟩

/-! ### A request -/

/-- A request that fits is encoded inside the buffer, and its segments end there. -/
private theorem isduTransportReq_bounded {dl : Dl} (h : dl.BoundedIdle) (vl : IsduVl)
    (hfit : dl.Fitting (.request vl)) : (dl.isduTransportReq vl).2.BoundedIdle := by
  simp only [isduTransportReq]
  split_ifs with hmode hindex hstate hkills hpre
  · exact h.congr rfl rfl rfl
  · exact h.congr rfl rfl rfl
  · exact h.congr rfl rfl rfl
  all_goals
    have hroom := hfit ⟨hmode, hindex, not_not.mp hstate⟩
    have h241 : segmentRoom dl.messageHandler.odLen ≤ 241 := segmentRoom_le _
    have hfront := vl.length_front
    have htot : narrow8 (vl.data.length + vl.totalOverhead) =
        vl.data.length + vl.totalOverhead := narrow8_of_lt (by omega)
    have hsegs := totalSegments_mul_le h.odLen hroom
    have hlt : vl.encodedSize ≤ 241 := by
      rw [IsduVl.encodedSize]
      omega
    have hsurvives : ¬ vl.Kills := IsduVl.not_kills_of_fits hlt
  · exact absurd hkills hsurvives
  all_goals
    obtain ⟨buf, henc, -⟩ := encodeIsdu_of_fits
      (dl.modIsdu ({ · with dataDirRead := decide (vl.readwrite = RwDirection.read) })) vl hlt
    rw [henc]
    refine Bounded.idle (h.toBounded.of_eq (by simp) (by simp)) (.inr (.inr ⟨?_, ?_⟩))
    · simpa using not_not.mp hstate
    · simpa [getIsduTotalSegments, htot] using hsegs

/-! ### Runs -/

/-- One input that fits keeps the invariant. -/
theorem isduStep_bounded {dl : Dl} (h : dl.BoundedIdle) (i : IsduInput) (hi : dl.Fitting i) :
    (dl.isduStep i).BoundedIdle := by
  have hmaster (now : UInt32) : (dl.masterMessage now).BoundedSent :=
    isduHSm_master (h.congr rfl rfl rfl) rfl
  cases i with
  | request vl => exact isduTransportReq_bounded h vl hi
  | exchange x => exact isduHSm_device ((hmaster x.sent).congr rfl rfl rfl) rfl hi
  | answer now octets => exact isduHSm_device (h.toBoundedSent.congr rfl rfl rfl) rfl hi
  | lost now =>
    refine isduHSm_lost ?_ rfl rfl
    exact (hmaster now).congr rfl rfl rfl
  | conf now cmd =>
    refine isduHSm_conf ?_ rfl
    exact h.congr rfl rfl rfl
  | surroundings mode rwcmd => exact h.congr rfl rfl rfl

/-- **ISDU traffic stays inside `isdu_data`.** From a handler that has not been used, as long as
every accepted request and every announced response length fits in whole segments, no segment is
read or written behind the buffer and no data length wraps around. -/
theorem isduInside_of_reaches {dl₀ dl : Dl} (h₀ : dl₀.Unused)
    (hs : Runs.Reaches isduStep Fitting dl₀ dl) : dl.IsduInside :=
  (hs.invariant BoundedIdle h₀.boundedIdle fun _ i h hi => isduStep_bounded h i hi).inside

section Instances

/-- A handler in OPERATE, before its first service. -/
def unusedHandler (od : ℕ) : Dl :=
  { modeHandler := { state := .operate4, dlMode := .operate }
    messageHandler := { odLen := od }
    isduHandler := { state := .idle1, ihcmd := .active } }

/-- Write 221 octets to index 24, subindex 0: an ISDU of 225 octets, eight segments of 32. -/
def writeOf221Octets : IsduVl where
  index := 24
  subindex := 0
  data := List.replicate 221 0
  length_lt := by rw [List.length_replicate]; decide
  readwrite := .write

/-- The request is sent with eight messages. -/
def eightExchanges : List IsduInput := List.replicate 8 (.exchange ⟨0, 0, []⟩)

/-- A read request of three octets goes out in one message of 32 octets, and the device answers
with the given octets. -/
def readAnswered (octets : List Octet) : List IsduInput :=
  [.request readOfIndex24, .exchange ⟨1, 1, []⟩, .exchange ⟨2, 2, octets⟩]

theorem unused_unusedHandler : (unusedHandler 32).Unused :=
  ⟨.inr (.inr (.inr rfl)), .inr rfl, rfl, by decide⟩

/-- The handler checks neither length. The last segment of a request of 225 octets is read from
behind the buffer, and a response that announces the extended length 2 makes
`get_isdu_data_length` wrap around. -/
theorem isduInside_fails :
    (unusedHandler 32).Unused ∧
      ¬ (Runs.run isduStep (unusedHandler 32)
        (.request writeOf221Octets :: eightExchanges)).IsduInside ∧
      ¬ (Runs.run isduStep (unusedHandler 32) (readAnswered [0xD1, 2, 0xD3])).IsduInside :=
  ⟨unused_unusedHandler, by decide +kernel, by decide +kernel⟩

/-- A read request and its response of four octets. -/
theorem isduInside_of_read :
    (Runs.run isduStep (unusedHandler 32) (readAnswered [0xD4, 7, 7, 0xD4])).IsduInside := by
  refine isduInside_of_reaches unused_unusedHandler (Runs.reaches_run ?_)
  decide +kernel

end Instances

end Dl

end IolHat

import IolHat.DataLink.IsduResponse

/-!
# Reception of a response ISDU

A device answers an ISDU request with `od_len` octets per message, until the response ISDU has
been delivered; the last message is padded. Before the response it may answer any number of
times that it is busy. This module follows the master ISDU handler through such a delivery.

* `Waiting` is the state in which a response is expected, `Receiving` the invariant after the
  octets `got`: the front of `isdu_data` is what has been received and nothing has been
  confirmed. `exchange_busy`, `exchange_first` and `exchange_next` are the steps.
* The handler reads the total length again before it copies a segment, so with one octet per
  message the extended length octet is read before it has arrived (`StaleLength`), and the last
  of the 32-octet segments of a long response ends behind the buffer (`exchange_overflow`).
* `run_receiving` and `run_overflow` follow the octets to the last segment.
-/

namespace IolHat

namespace Dl

/-! ### The states of a reception -/

/-- The on-request data lengths the stack configures. -/
def StackOdLen (od : ℕ) : Prop := od = 1 ∨ od = 2 ∨ od = 8 ∨ od = 32

theorem StackOdLen.pos {od : ℕ} (h : StackOdLen od) : 1 ≤ od ∧ od ≤ 32 := by
  rcases h with rfl | rfl | rfl | rfl <;> omega

/-- An ISDU service is in progress and has not been disturbed. -/
structure InService (dl : Dl) (od : ℕ) (dirRead : Bool) : Prop where
  ihcmd : dl.isduHandler.ihcmd = .active
  rwcmd : dl.messageHandler.rwcmd = .isdutransport
  mhinfo : dl.modeHandler.mhinfo ≠ .comlost
  odLen : dl.messageHandler.odLen = od
  dir : dl.isduHandler.dataDirRead = dirRead

/-- The request has been sent and a response is expected. -/
structure Waiting (dl : Dl) (od : ℕ) (dirRead : Bool) : Prop extends InService dl od dirRead where
  state : dl.isduHandler.state = .isduwait3
  seg : dl.isduHandler.currentIsduSeg = 0

/-- A value of the extended length octet with which the reception ends early. -/
def Misleading (o : Octet) : Prop := o.toNat ≤ 2 ∨ o.toNat = 16

/-- The extended length octet is read before it arrives, and what the buffer holds in its place
ends the reception early. -/
def StaleLength (dl : Dl) (od : ℕ) {dirRead : Bool} (r : ResponseIsdu dirRead) : Prop :=
  od = 1 ∧ r.extended = true ∧ Misleading (dl.isduHandler.isduData.get 1)

/-- The octets `got` of the response `r` have been received, in `k` segments. -/
structure Receiving (dl : Dl) (od : ℕ) {dirRead : Bool} (r : ResponseIsdu dirRead) (k : ℕ)
    (got : List Octet) : Prop extends InService dl od dirRead where
  state : dl.isduHandler.state = .isduresponse5
  seg : dl.isduHandler.currentIsduSeg = k
  length : got.length = k * od
  data : dl.isduHandler.isduData.slice 0 got.length = got
  notStale : k = 1 → ¬ StaleLength dl od r

/-- The response timer has run out by the clock reading `now`. -/
def TimedOut (timer now : UInt32) : Prop := now - timer > isduResponseTime ∧ timer ≠ 0

theorem isduTimerElapsed_iff (dl : Dl) :
    dl.isduTimerElapsed = true ↔ TimedOut dl.isduHandler.isduTimer dl.pl.now := by
  simp [isduTimerElapsed, TimedOut]

/-! ### Preparing the master message -/

/-- While a response is expected in time, the master message asks for the next segment and
touches neither the ISDU handler nor the log. -/
theorem masterMessage_inService {dl : Dl} {od : ℕ} {dirRead : Bool} (now : UInt32)
    (h : InService dl od dirRead)
    (hstate : dl.isduHandler.state = .isduwait3 ∧ ¬ TimedOut dl.isduHandler.isduTimer now ∨
      dl.isduHandler.state = .isduresponse5) :
    (dl.masterMessage now).isduHandler = dl.isduHandler ∧
      (dl.masterMessage now).messageHandler = dl.messageHandler ∧
      (dl.masterMessage now).modeHandler = dl.modeHandler ∧
      (dl.masterMessage now).out = dl.out ∧ (dl.masterMessage now).faults = dl.faults := by
  have hab : dl.messageHandler.rwcmd ≠ .isduabort := by rw [h.rwcmd]; decide
  rcases hstate with ⟨hs, ht⟩ | hs
  · have hel : ((dl.atTime now).modOd ({ · with trigger := .masterMessage })).isduTimerElapsed =
        false := by
      rw [Bool.eq_false_iff, ne_eq, isduTimerElapsed_iff]
      simpa using ht
    simp [masterMessage, isduHSm, hs, isduHSmIsduWait3, hab, hel, h.mhinfo]
  · simp [masterMessage, isduHSm, hs, isduHSmIsduResponse5, hab, h.mhinfo]

/-! ### Storing a segment -/

section

variable {dl : Dl} {od : ℕ} {dirRead : Bool} {now : UInt32} {octets : List Octet}

@[simp] theorem arrive_isduHandler : (dl.arrive now octets).isduHandler = dl.isduHandler := by
  simp [arrive]
@[simp] theorem arrive_messageHandler :
    (dl.arrive now octets).messageHandler = dl.messageHandler := by
  simp [arrive]
@[simp] theorem arrive_modeHandler : (dl.arrive now octets).modeHandler = dl.modeHandler := by
  simp [arrive]
@[simp] theorem arrive_out : (dl.arrive now octets).out = dl.out := by
  simp [arrive]
@[simp] theorem arrive_faults : (dl.arrive now octets).faults = dl.faults := by
  simp [arrive]

theorem arrive_rxbuffer (hlen : octets.length ≤ rxtxBufferSize) :
    (dl.arrive now octets).rxbuffer.slice 0 octets.length = octets := by
  have h := Octets.Buffer.slice_write_self dl.rxbuffer 0 octets (by
    simpa [Octets.Buffer.Fits] using hlen)
  simpa [arrive] using h

/-- A segment that fits is copied behind those already received. -/
theorem storeSegment_of_fits (dl : Dl) (octets : List Octet) (hod : od ≤ 32)
    (hodLen : dl.messageHandler.odLen = od)
    (hrx : dl.rxbuffer.slice 0 od = octets)
    (hfit : dl.isduHandler.currentIsduSeg * od + od ≤ isduMaxSize) :
    dl.storeSegment = dl.modIsdu fun h => { h with
      isduData := h.isduData.write (dl.isduHandler.currentIsduSeg * od) octets } := by
  subst hodLen
  have hle : dl.messageHandler.odLen ≤ rxtxBufferSize := Nat.le_trans hod (by decide)
  unfold storeSegment
  simp only [access_messageHandler]
  rw [access_of_inside dl .rxbuffer (by simpa using hle),
    access_of_inside dl .isduData (by simpa using hfit), hrx]

/-- A segment that does not fit leaves `isdu_data`. -/
theorem storeSegment_fault (dl : Dl) (hodLen : dl.messageHandler.odLen = od)
    (hfit : ¬ dl.isduHandler.currentIsduSeg * od + od ≤ isduMaxSize) :
    ∃ fs, dl.storeSegment.faults = dl.faults ++ fs ∧ fs ≠ [] := by
  subst hodLen
  refine ⟨_, List.append_assoc .., ?_⟩
  simpa using fun _ => Nat.lt_of_not_le hfit

end

/-! ### Steps of a reception -/

/-- The number of segments is the least `k` with `k * od` octets in `k` segments. -/
theorem totalSegments_le_iff {od tot : ℕ} (hod : 1 ≤ od) (htot : tot ≤ 255) (k : ℕ) :
    narrow8 ((tot + od - 1) / od) ≤ k ↔ tot ≤ k * od := by
  have hle : (tot + od - 1) / od ≤ 255 := by
    rw [Nat.div_le_iff_le_mul_add_pred hod]
    omega
  rw [narrow8_of_lt (by omega), Nat.div_le_iff_le_mul_add_pred hod, Nat.mul_comm od k]
  omega

section

variable {dl m : Dl} {od : ℕ} {dirRead : Bool} {now : UInt32} {octets : List Octet}

theorem InService.of_eq (h : InService dl od dirRead) (hi : m.isduHandler = dl.isduHandler)
    (hm : m.messageHandler = dl.messageHandler) (hmode : m.modeHandler = dl.modeHandler) :
    InService m od dirRead :=
  ⟨by rw [hi]; exact h.ihcmd, by rw [hm]; exact h.rwcmd, by rw [hmode]; exact h.mhinfo,
    by rw [hm]; exact h.odLen, by rw [hi]; exact h.dir⟩

theorem deviceMessage_wait3 (h : InService dl od dirRead)
    (hstate : dl.isduHandler.state = .isduwait3)
    (ht : ¬ TimedOut dl.isduHandler.isduTimer now) :
    dl.deviceMessage now octets = (dl.arrive now octets).storeSegment.isduWait3Stored := by
  have hab : dl.messageHandler.rwcmd ≠ .isduabort := by rw [h.rwcmd]; decide
  have hel : (dl.arrive now octets).isduTimerElapsed = false := by
    rw [Bool.eq_false_iff, ne_eq, isduTimerElapsed_iff]
    exact ht
  have htrig : (dl.arrive now octets).odHandler.trigger = .deviceMessage := rfl
  simp [deviceMessage, isduHSm, hstate, isduHSmIsduWait3, hab, hel, h.mhinfo, htrig]

theorem deviceMessage_response5 (h : InService dl od dirRead)
    (hstate : dl.isduHandler.state = .isduresponse5) :
    dl.deviceMessage now octets =
      (dl.arrive now octets).readTotalLen.readTotalSeg.storeSegment.isduResponse5Stored := by
  have hab : dl.messageHandler.rwcmd ≠ .isduabort := by rw [h.rwcmd]; decide
  have htrig : (dl.arrive now octets).odHandler.trigger = .deviceMessage := rfl
  simp [deviceMessage, isduHSm, hstate, isduHSmIsduResponse5, hab, h.mhinfo, htrig]

/-- While a response is awaited in time, an exchange stores its octets at the front of the
buffer before it looks at them. -/
theorem exchange_waiting {x : Exchange} (hod : StackOdLen od) (h : Waiting dl od dirRead)
    (hlen : x.octets.length = od)
    (hs : ¬ TimedOut dl.isduHandler.isduTimer x.sent)
    (hr : ¬ TimedOut dl.isduHandler.isduTimer x.received) :
    ∃ st : Dl, dl.exchange x = st.isduWait3Stored ∧ InService st od dirRead ∧
      st.isduHandler = { dl.isduHandler with
        isduData := dl.isduHandler.isduData.write 0 x.octets } ∧
      st.out = dl.out ∧ st.faults = dl.faults := by
  obtain ⟨hi, hmsg, hmode, hout, hfaults⟩ :=
    masterMessage_inService x.sent h.toInService (.inl ⟨h.state, hs⟩)
  have hm := h.toInService.of_eq hi hmsg hmode
  obtain ⟨hpos, h32⟩ := hod.pos
  have hstore := storeSegment_of_fits ((dl.masterMessage x.sent).arrive x.received x.octets)
    x.octets h32 hm.odLen
    (by rw [← hlen]; exact arrive_rxbuffer (Nat.le_trans (by omega) (by decide : 32 ≤ 64)))
    (by simpa [hi, h.seg] using Nat.le_trans h32 (by decide : 32 ≤ 241))
  refine ⟨_, deviceMessage_wait3 hm (by rw [hi]; exact h.state) (by rw [hi]; exact hr), ?_⟩
  rw [hstore]
  exact ⟨⟨hm.ihcmd, hm.rwcmd, hm.mhinfo, hm.odLen, hm.dir⟩, by simp [hi, h.seg], by simp [hout],
    by simp [hfaults]⟩

/-- A busy reply changes nothing but the front of the buffer. -/
theorem exchange_busy {x : Exchange} (hod : StackOdLen od) (h : Waiting dl od dirRead)
    (hlen : x.octets.length = od) (hbusy : x.octets.getD 0 0 = 0x01)
    (hs : ¬ TimedOut dl.isduHandler.isduTimer x.sent)
    (hr : ¬ TimedOut dl.isduHandler.isduTimer x.received) :
    Waiting (dl.exchange x) od dirRead ∧ (dl.exchange x).out = dl.out ∧
      (dl.exchange x).faults = dl.faults ∧
      (dl.exchange x).isduHandler.isduTimer = dl.isduHandler.isduTimer ∧
      (od = 1 → (dl.exchange x).isduHandler.isduData.get 1 = dl.isduHandler.isduData.get 1) := by
  obtain ⟨st, hx, hst, hih, hout, hfaults⟩ := exchange_waiting hod h hlen hs hr
  obtain ⟨hpos, h32⟩ := hod.pos
  have hfits : x.octets.length ≤ isduMaxSize := Nat.le_trans (by omega) (by decide : 32 ≤ 241)
  have h0 : st.isduHandler.isduData.get 0 = x.octets.getD 0 0 := by
    rw [hih]
    exact Octets.Buffer.get_of_slice _ (Octets.Buffer.slice_zero_write _ hfits) (by omega)
  have hstay : dl.exchange x = st := by
    rw [hx, isduWait3Stored, h0, hbusy, if_pos (by decide)]
  rw [hstay]
  refine ⟨⟨hst, by rw [hih]; exact h.state, by rw [hih]; exact h.seg⟩, hout, hfaults,
    by rw [hih], ?_⟩
  rintro rfl
  rw [hih]
  exact Octets.Buffer.get_write_of_ge _ (by omega)

end

/-! ### The first segment -/

section

variable {dl : Dl} {od : ℕ} {dirRead : Bool} {r : ResponseIsdu dirRead} {x : Exchange}

/-- What the total length reads as while the header arrives: that of the response, or a value of
at least 3 found in the place of the extended length octet. -/
theorem getIsduTotalLen_cases (dl : Dl) (od : ℕ)
    (h0 : dl.isduHandler.isduData.get 0 = r.octets.getD 0 0)
    (h1 : (r.extended = true → dl.isduHandler.isduData.get 1 = r.octets.getD 1 0) ∨
      od = 1 ∧ r.extended = true ∧ ¬ Misleading (dl.isduHandler.isduData.get 1)) :
    dl.getIsduTotalLen.getD 0 ≤ 255 ∧ (dl.getIsduTotalLen.getD 0 = r.octets.length ∨
      od = 1 ∧ r.extended = true ∧ 3 ≤ dl.getIsduTotalLen.getD 0) := by
  have hmax := r.length_le
  rcases h1 with h1 | ⟨hone, hx, h1⟩
  · rw [getIsduTotalLen_of_arrived h0 h1, Option.getD_some]
    exact ⟨by omega, .inl rfl⟩
  · have hlt := (dl.isduHandler.isduData.get 1).toNat_lt
    simp only [Misleading, not_or] at h1
    rw [getIsduTotalLen_of_stale h0 hx, if_neg (by omega), Option.getD_some]
    exact ⟨by omega, .inr ⟨hone, hx, by omega⟩⟩

/-- `isduWait3Response` with its assignments collected. -/
theorem isduWait3Response_eq (st : Dl) :
    st.isduWait3Response =
      let tot := st.getIsduTotalLen.getD 0
      let nseg := narrow8 ((tot + st.messageHandler.odLen - 1) / st.messageHandler.odLen)
      let d := st.modIsdu ({ · with
        totalIsduLen := tot, currentIsduSeg := 1, totalIsduSeg := nseg, isduTimer := 0 })
      if 1 ≥ nseg then d.isduHSmReceptionComplete
      else d.modIsdu ({ · with state := .isduresponse5 }) := by
  have hset :
      (st.readTotalLen.modIsdu ({ · with currentIsduSeg := 1 })).readTotalSeg.isduTimerReset =
      st.modIsdu ({ · with
        totalIsduLen := st.getIsduTotalLen.getD 0
        currentIsduSeg := 1
        totalIsduSeg := narrow8 ((st.getIsduTotalLen.getD 0 + st.messageHandler.odLen - 1) /
          st.messageHandler.odLen)
        isduTimer := 0 }) := by
    rw [readTotalLen, readTotalSeg, isduTimerReset]
    rfl
  rw [isduWait3Response, hset]
  rfl

/-- What has been received of a response is its front. -/
theorem get_of_received {data : Octets.Buffer Octet isduMaxSize} {got pad : List Octet} {n i : ℕ}
    (hslice : data.slice 0 n = got) (hlen : got.length = n) (hpre : got <+: r.octets ++ pad)
    (hi : i < n) (hr : i < r.octets.length) : data.get i = r.octets.getD i 0 := by
  obtain ⟨rest, hrest⟩ := hpre
  have hsame : (got ++ rest)[i]? = (r.octets ++ pad)[i]? := by rw [hrest]
  rw [List.getElem?_append_left (by omega), List.getElem?_append_left hr] at hsame
  rw [Octets.Buffer.get_of_slice _ hslice hi, List.getD_eq_getElem?_getD,
    List.getD_eq_getElem?_getD, hsame]
  rfl

/-- What has been received holds the response, once it is long enough. -/
theorem take_of_received {got pad : List Octet} (hpre : got <+: r.octets ++ pad)
    (hle : r.octets.length ≤ got.length) : got.take r.octets.length = r.octets := by
  have hfront : r.octets <+: got :=
    List.prefix_of_prefix_length_le (List.prefix_append r.octets pad) hpre hle
  exact (List.prefix_iff_eq_take.mp hfront).symm

/-- A response begins: its first segment is stored, and the header in it is looked at. -/
theorem exchange_begins {pad : List Octet} (hod : StackOdLen od) (h : Waiting dl od dirRead)
    (hlen : x.octets.length = od) (hpre : x.octets <+: r.octets ++ pad)
    (hs : ¬ TimedOut dl.isduHandler.isduTimer x.sent)
    (hr : ¬ TimedOut dl.isduHandler.isduTimer x.received) :
    ∃ st : Dl, dl.exchange x = st.isduWait3Response ∧ InService st od dirRead ∧
      st.isduHandler.isduData.slice 0 od = x.octets ∧
      st.isduHandler.isduData.get 0 = r.octets.getD 0 0 ∧
      (od = 1 → st.isduHandler.isduData.get 1 = dl.isduHandler.isduData.get 1) ∧
      st.out = dl.out ∧ st.faults = dl.faults := by
  obtain ⟨st, hx, hst, hih, hout, hfaults⟩ := exchange_waiting hod h hlen hs hr
  obtain ⟨hpos, h32⟩ := hod.pos
  have h2 := r.two_le_length
  have hfits : x.octets.length ≤ isduMaxSize := Nat.le_trans (by omega) (by decide : 32 ≤ 241)
  have hslice : st.isduHandler.isduData.slice 0 od = x.octets := by
    rw [hih, ← hlen]
    exact Octets.Buffer.slice_zero_write _ hfits
  have h0 : st.isduHandler.isduData.get 0 = r.octets.getD 0 0 :=
    get_of_received hslice hlen hpre (by omega) (by omega)
  obtain ⟨hbusy, hnone⟩ := first_octet_ne r
  refine ⟨st, ?_, hst, hslice, h0, fun hone => ?_, hout, hfaults⟩
  · rw [hx, isduWait3Stored, h0, if_neg hbusy, if_neg hnone,
      if_pos (validIsduHeader_of_arrived h0 hst.dir)]
  · rw [hih]
    exact Octets.Buffer.get_write_of_ge _ (by omega)

/-- The first segment of a response is stored; if it is the whole response, it is confirmed. -/
theorem exchange_first {pad : List Octet} (hod : StackOdLen od) (h : Waiting dl od dirRead)
    (hlen : x.octets.length = od) (hpre : x.octets <+: r.octets ++ pad)
    (hs : ¬ TimedOut dl.isduHandler.isduTimer x.sent)
    (hr : ¬ TimedOut dl.isduHandler.isduTimer x.received) (hstale : ¬ StaleLength dl od r) :
    (r.octets.length ≤ od → (dl.exchange x).out = dl.out ++ [.isduTransportCnf (some r.payload)
        r.payloadLength (iservOf r.octets) .noError] ∧ (dl.exchange x).faults = dl.faults) ∧
      (od < r.octets.length → Receiving (dl.exchange x) od r 1 x.octets ∧
        (dl.exchange x).out = dl.out ∧ (dl.exchange x).faults = dl.faults) := by
  obtain ⟨st, hresp, hst, hslice, h0, hold, hout, hfaults⟩ := exchange_begins hod h hlen hpre hs hr
  obtain ⟨hpos, h32⟩ := hod.pos
  have h2 := r.two_le_length
  have hcases := getIsduTotalLen_cases st od h0 (by
    by_cases h1 : 1 < od
    · exact .inl fun _ => get_of_received hslice hlen hpre h1 (by omega)
    · by_cases hext : r.extended = true
      · have hone : od = 1 := by omega
        exact .inr ⟨hone, hext, fun hm => hstale ⟨hone, hext, by rwa [hold hone] at hm⟩⟩
      · exact .inl fun hext' => absurd hext' hext)
  obtain ⟨h255, htot⟩ := hcases
  have hseg := totalSegments_le_iff hpos h255 1
  rw [Nat.one_mul] at hseg
  rw [hresp, isduWait3Response_eq, hst.odLen]
  simp only
  constructor
  · intro hle
    have htot' : st.getIsduTotalLen.getD 0 = r.octets.length := by
      rcases htot with htot | ⟨rfl, hext, -⟩
      · exact htot
      · have := (r.extended_len hext).2.2.1
        omega
    rw [if_pos (hseg.mpr (by omega)), htot']
    rw [← hout, ← hfaults]
    refine isduHSmReceptionComplete_of_arrived ?_ rfl
    simp only [modIsdu_isduHandler]
    rw [← Octets.Buffer.slice_of_slice _ hle, hslice, take_of_received hpre (by omega)]
  · intro hlt
    have hmore : ¬ 1 ≥ narrow8 ((st.getIsduTotalLen.getD 0 + od - 1) / od) := by
      have hT : od < st.getIsduTotalLen.getD 0 := by
        rcases htot with htot | ⟨rfl, -, h3⟩ <;> omega
      exact fun hle => absurd (hseg.mp hle) (by omega)
    rw [if_neg hmore]
    exact ⟨⟨⟨hst.ihcmd, hst.rwcmd, hst.mhinfo, hst.odLen, hst.dir⟩, rfl, rfl, by omega,
      by rw [hlen]; exact hslice,
      fun _ ⟨hone, hext, hm⟩ => hstale ⟨hone, hext, by rwa [← hold hone]⟩⟩, hout, hfaults⟩

/-! ### The following segments -/

/-- While a response is being received, an exchange reads the total length and stores its octets
behind those already received. -/
theorem exchange_receiving {k : ℕ} (hod : StackOdLen od) (h : InService dl od dirRead)
    (hstate : dl.isduHandler.state = .isduresponse5)
    (hseg : dl.isduHandler.currentIsduSeg = k) (hlen : x.octets.length = od)
    (hfit : (k + 1) * od ≤ isduMaxSize) :
    ∃ st : Dl, dl.exchange x = st.isduResponse5Stored ∧ InService st od dirRead ∧
      st.isduHandler = { dl.isduHandler with
        totalIsduLen := dl.getIsduTotalLen.getD 0
        totalIsduSeg := narrow8 ((dl.getIsduTotalLen.getD 0 + od - 1) / od)
        isduData := dl.isduHandler.isduData.write (k * od) x.octets } ∧
      st.out = dl.out ∧ st.faults = dl.faults := by
  obtain ⟨hi, hmsg, hmode, hout, hfaults⟩ :=
    masterMessage_inService x.sent h (.inr hstate)
  have hm := h.of_eq hi hmsg hmode
  obtain ⟨hpos, h32⟩ := hod.pos
  have htot : ((dl.masterMessage x.sent).arrive x.received x.octets).getIsduTotalLen =
      dl.getIsduTotalLen := getIsduTotalLen_congr (by simp [hi])
  have hstore := storeSegment_of_fits
    ((dl.masterMessage x.sent).arrive x.received x.octets).readTotalLen.readTotalSeg
    x.octets h32 (by simpa using hm.odLen)
    (by
      rw [readTotalSeg_rxbuffer, readTotalLen_rxbuffer, ← hlen]
      exact arrive_rxbuffer (Nat.le_trans (by omega) (by decide : 32 ≤ 64)))
    (by simpa [hi, hseg, Nat.succ_mul] using hfit)
  refine ⟨_, deviceMessage_response5 hm (by rw [hi]; exact hstate), ?_⟩
  rw [hstore]
  refine ⟨⟨by simpa using hm.ihcmd, by simpa using hm.rwcmd, by simpa using hm.mhinfo,
    by simpa using hm.odLen, by simpa using hm.dir⟩, ?_, by simp [hout], by simp [hfaults]⟩
  simp [getIsduTotalSegments, htot, hi, hm.odLen, hseg]

/-- A following segment is stored; if it is the last one, the response is confirmed. -/
theorem exchange_next {k : ℕ} {got pad : List Octet} (hod : StackOdLen od) (hk : 1 ≤ k)
    (h : Receiving dl od r k got) (hlen : x.octets.length = od)
    (hpre : got ++ x.octets <+: r.octets ++ pad) (hfit : (k + 1) * od ≤ isduMaxSize) :
    (r.octets.length ≤ (k + 1) * od →
      (dl.exchange x).out = dl.out ++ [.isduTransportCnf (some r.payload)
        r.payloadLength (iservOf r.octets) .noError] ∧ (dl.exchange x).faults = dl.faults) ∧
      ((k + 1) * od < r.octets.length →
        Receiving (dl.exchange x) od r (k + 1) (got ++ x.octets) ∧
        (dl.exchange x).out = dl.out ∧ (dl.exchange x).faults = dl.faults) := by
  obtain ⟨st, hx, hst, hih, hout, hfaults⟩ :=
    exchange_receiving hod h.toInService h.state h.seg hlen hfit
  obtain ⟨hpos, h32⟩ := hod.pos
  have hk255 : k + 1 < 256 := by
    have h1 : (k + 1) * 1 ≤ (k + 1) * od := Nat.mul_le_mul_left _ hpos
    have h241 : (k + 1) * od ≤ 241 := hfit
    omega
  have hkod : k * od + od = (k + 1) * od := (Nat.succ_mul k od).symm
  have hgot : (got ++ x.octets).length = (k + 1) * od := by
    rw [List.length_append, h.length, hlen, hkod]
  have hslice : st.isduHandler.isduData.slice 0 ((k + 1) * od) = got ++ x.octets := by
    have hw := Octets.Buffer.slice_write dl.isduHandler.isduData (k * od) x.octets
      (by simpa [Octets.Buffer.Fits, hlen, hkod] using hfit)
    rw [hlen, hkod, ← h.length, h.data] at hw
    rw [hih, ← h.length]
    exact hw
  -- what the header read as before this segment was stored
  have hgetD (i : ℕ) (hi : i < k * od) (hL : i < r.octets.length) :
      dl.isduHandler.isduData.get i = r.octets.getD i 0 :=
    get_of_received (h.length ▸ h.data) h.length ((List.prefix_append got x.octets).trans hpre)
      hi hL
  have h2 := r.two_le_length
  have hkpos : od ≤ k * od := Nat.le_mul_of_pos_left od hk
  have hcases := getIsduTotalLen_cases dl od (hgetD 0 (by omega) (by omega)) (by
    by_cases h1 : 1 < k * od
    · exact .inl fun _ => hgetD 1 h1 (by omega)
    · by_cases hext : r.extended = true
      · have hone : od = 1 := by omega
        have hk1 : k = 1 := by subst hone; omega
        exact .inr ⟨hone, hext, fun hm => h.notStale hk1 ⟨hone, hext, hm⟩⟩
      · exact .inl fun hext' => absurd hext' hext)
  obtain ⟨h255, htot⟩ := hcases
  have hseg := totalSegments_le_iff hpos h255 (k + 1)
  have hcur : narrow8 (st.isduHandler.currentIsduSeg + 1) = k + 1 := by
    rw [hih, h.seg, narrow8_of_lt hk255]
  rw [hx, isduResponse5Stored]
  simp only [modIsdu_isduHandler, hcur]
  constructor
  · intro hle
    have htot' : dl.getIsduTotalLen.getD 0 = r.octets.length := by
      rcases htot with htot | ⟨rfl, hext, h3⟩
      · exact htot
      · -- the second segment of one octet is not the last one of an extended response
        have h17 := (r.extended_len hext).2.2.1
        have h1 : 1 < k * 1 := by omega
        rw [getIsduTotalLen_of_arrived (hgetD 0 (by omega) (by omega))
          (fun _ => hgetD 1 h1 (by omega)), Option.getD_some]
    rw [if_pos (by rw [hih]; exact hseg.mpr (by omega)), ← hout, ← hfaults]
    refine isduHSmReceptionComplete_of_arrived ?_ (by simp [hih, htot'])
    simp only [modIsdu_isduHandler]
    rw [← Octets.Buffer.slice_of_slice _ hle, hslice, take_of_received hpre (by omega)]
  · intro hlt
    have hmore : ¬ k + 1 ≥ st.isduHandler.totalIsduSeg := by
      rw [hih]
      have hT : (k + 1) * od < dl.getIsduTotalLen.getD 0 := by
        rcases htot with htot | ⟨rfl, hext, h3⟩
        · omega
        · by_cases h1 : 1 < k * 1
          · rw [getIsduTotalLen_of_arrived (hgetD 0 (by omega) (by omega))
              (fun _ => hgetD 1 h1 (by omega)), Option.getD_some]
            exact hlt
          · omega
      exact fun hle => absurd (hseg.mp hle) (by omega)
    rw [if_neg hmore]
    refine ⟨⟨⟨hst.ihcmd, hst.rwcmd, hst.mhinfo, hst.odLen, hst.dir⟩, ?_, hcur, hgot, ?_, ?_⟩,
      hout, hfaults⟩
    · simp [hih, h.state]
    · rw [hgot]; exact hslice
    · intro hk1; omega

private theorem isduResponseCnf_faults (dl : Dl) : dl.faults <+: dl.isduResponseCnf.faults := by
  cases h : dl.getIsduTotalLen with
  | none =>
    rw [isduResponseCnf_of_none h]
    exact List.prefix_refl _
  | some tot =>
    rw [isduResponseCnf_of_some h]
    exact ⟨_, (List.append_assoc _ _ _).symm⟩

theorem isduResponse5Stored_faults (dl : Dl) : dl.faults <+: dl.isduResponse5Stored.faults := by
  unfold isduResponse5Stored
  simp only
  split_ifs
  · exact isduResponseCnf_faults (dl.modIsdu fun h =>
      { h with currentIsduSeg := narrow8 (h.currentIsduSeg + 1) })
  · exact List.prefix_refl _

/-- A segment that ends behind the buffer is recorded as a fault. -/
theorem exchange_overflow {k : ℕ} {got : List Octet} (h : Receiving dl od r k got)
    (hfit : ¬ (k + 1) * od ≤ isduMaxSize) : (dl.exchange x).faults ≠ dl.faults := by
  obtain ⟨hi, hmsg, hmode, hout, hfaults⟩ :=
    masterMessage_inService x.sent h.toInService (.inr h.state)
  have hm := h.toInService.of_eq hi hmsg hmode
  obtain ⟨fs, hfs, hne⟩ := storeSegment_fault
    ((dl.masterMessage x.sent).arrive x.received x.octets).readTotalLen.readTotalSeg
    (by simpa using hm.odLen) (by simpa [hi, h.seg, Nat.succ_mul] using hfit)
  have hgrow := isduResponse5Stored_faults
    ((dl.masterMessage x.sent).arrive x.received x.octets).readTotalLen.readTotalSeg.storeSegment
  rw [← deviceMessage_response5 hm (by rw [hi]; exact h.state), hfs] at hgrow
  intro heq
  have hlen := hgrow.length_le
  rw [show (dl.masterMessage x.sent).deviceMessage x.received x.octets = dl.exchange x from rfl,
    heq] at hlen
  simp only [readTotalSeg_faults, readTotalLen_faults, arrive_faults, hfaults,
    List.length_append] at hlen
  exact hne (List.length_eq_zero_iff.mp (by omega))

end

/-! ### Whole deliveries -/

/-- The exchanges deliver the response in order, `od` octets each, the last one padded. -/
structure Delivery (od : ℕ) {dirRead : Bool} (r : ResponseIsdu dirRead)
    (segs : List Exchange) : Prop where
  each : ∀ x ∈ segs, x.octets.length = od
  padded : ∃ pad, pad.length < od ∧ (segs.map Exchange.octets).flatten = r.octets ++ pad

/-- The positive confirmation of a response. -/
def confirmation {dirRead : Bool} (r : ResponseIsdu dirRead) : DlCall :=
  .isduTransportCnf (some r.payload) r.payloadLength (iservOf r.octets) .noError

theorem length_flatten_segments {od : ℕ} {segs : List Exchange}
    (h : ∀ x ∈ segs, x.octets.length = od) :
    (segs.map Exchange.octets).flatten.length = segs.length * od := by
  induction segs with
  | nil => simp
  | cons x xs ih =>
    simp only [List.map_cons, List.flatten_cons, List.length_append, List.length_cons]
    rw [ih fun y hy => h y (List.mem_cons_of_mem _ hy), h x List.mem_cons_self, Nat.succ_mul]
    omega

section

variable {dl : Dl} {od : ℕ} {dirRead : Bool} {r : ResponseIsdu dirRead}

/-- **The run of a reception.** The remaining segments, if they fit, end in the confirmation of
the response, and nothing is confirmed before the last one. -/
theorem run_receiving (hod : StackOdLen od) {k : ℕ} (hk : 1 ≤ k) {got pad : List Octet}
    {rest : List Exchange} (h : Receiving dl od r k got)
    (heach : ∀ x ∈ rest, x.octets.length = od) (hpad : pad.length < od)
    (hrest : got ++ (rest.map Exchange.octets).flatten = r.octets ++ pad)
    (hmore : k * od < r.octets.length) (hfit : (k + rest.length) * od ≤ isduMaxSize) :
    (∀ j < rest.length, (Runs.run exchange dl (rest.take j)).out = dl.out) ∧
      (Runs.run exchange dl rest).out = dl.out ++ [confirmation r] ∧
      (Runs.run exchange dl rest).faults = dl.faults := by
  induction rest generalizing dl k got with
  -- Nothing more arrives, but the response is longer than what has been received.
  | nil =>
    have hlen := congrArg List.length hrest
    simp only [List.map_nil, List.flatten_nil, List.append_nil, List.length_append,
      h.length] at hlen
    omega
  | cons x xs ih =>
    have hx := heach x List.mem_cons_self
    have hxs : ∀ y ∈ xs, y.octets.length = od := fun y hy => heach y (List.mem_cons_of_mem _ hy)
    have hlen := congrArg List.length hrest
    simp only [List.map_cons, List.flatten_cons, List.length_append, h.length, hx,
      length_flatten_segments hxs] at hlen
    have hsucc : (k + 1) * od = k * od + od := Nat.succ_mul k od
    have hfit1 : (k + 1) * od ≤ isduMaxSize :=
      Nat.le_trans (Nat.mul_le_mul_right _ (by simp only [List.length_cons]; omega)) hfit
    have hpre : got ++ x.octets <+: r.octets ++ pad := by
      rw [← hrest, List.map_cons, List.flatten_cons, ← List.append_assoc]
      exact List.prefix_append _ _
    obtain ⟨hlast, hnext⟩ := exchange_next hod hk h hx hpre hfit1
    -- Is this the last segment?
    by_cases hL : r.octets.length ≤ (k + 1) * od
    · have hnil : xs = [] := by
        have hlt : xs.length * od < 1 * od := by omega
        have := Nat.lt_of_mul_lt_mul_right hlt
        exact List.length_eq_zero_iff.mp (by omega)
      subst hnil
      obtain ⟨ho, hf⟩ := hlast hL
      refine ⟨fun j hj => ?_, ho, hf⟩
      have hj0 : j = 0 := by simpa using hj
      subst hj0
      rfl
    · obtain ⟨hrec, ho, hf⟩ := hnext (by omega)
      obtain ⟨hbefore, hafter, hfaults⟩ := ih (by omega) hrec hxs
        (by rw [← hrest, List.map_cons, List.flatten_cons, List.append_assoc]) (by omega)
        (by
          have hadd : k + 1 + xs.length = k + (x :: xs).length := by
            simp only [List.length_cons]; omega
          rw [hadd]
          exact hfit)
      refine ⟨fun j hj => ?_, by rw [Runs.run_cons, hafter, ho], by rw [Runs.run_cons, hfaults, hf]⟩
      cases j with
      | zero => rfl
      | succ j =>
        rw [List.take_succ_cons, Runs.run_cons, hbefore j (by simpa using hj), ho]

/-- A delivery that ends behind the buffer is recorded as a fault. -/
theorem run_overflow (hod : StackOdLen od) {k : ℕ} (hk : 1 ≤ k) {got pad : List Octet}
    {rest : List Exchange} (h : Receiving dl od r k got)
    (heach : ∀ x ∈ rest, x.octets.length = od) (hpad : pad.length < od)
    (hrest : got ++ (rest.map Exchange.octets).flatten = r.octets ++ pad)
    (hmore : k * od < r.octets.length) (hfit : ¬ (k + rest.length) * od ≤ isduMaxSize) :
    (Runs.run exchange dl rest).faults ≠ dl.faults := by
  induction rest generalizing dl k got with
  | nil =>
    have hlen := congrArg List.length hrest
    simp only [List.map_nil, List.flatten_nil, List.append_nil, List.length_append,
      h.length] at hlen
    omega
  | cons x xs ih =>
    have hx := heach x List.mem_cons_self
    have hxs : ∀ y ∈ xs, y.octets.length = od := fun y hy => heach y (List.mem_cons_of_mem _ hy)
    have hlen := congrArg List.length hrest
    simp only [List.map_cons, List.flatten_cons, List.length_append, h.length, hx,
      length_flatten_segments hxs] at hlen
    have hmax := r.length_le
    have hsucc : (k + 1) * od = k * od + od := Nat.succ_mul k od
    have hnil (hL : r.octets.length ≤ (k + 1) * od) : xs = [] := by
      have hlt : xs.length * od < 1 * od := by omega
      have := Nat.lt_of_mul_lt_mul_right hlt
      exact List.length_eq_zero_iff.mp (by omega)
    by_cases hfit1 : (k + 1) * od ≤ isduMaxSize
    · by_cases hL : r.octets.length ≤ (k + 1) * od
      · rw [hnil hL] at hfit
        exact absurd hfit1 hfit
      · have hpre : got ++ x.octets <+: r.octets ++ pad := by
          rw [← hrest, List.map_cons, List.flatten_cons, ← List.append_assoc]
          exact List.prefix_append _ _
        obtain ⟨hrec, -, hf⟩ := (exchange_next hod hk h hx hpre hfit1).2 (by omega)
        rw [Runs.run_cons, ← hf]
        refine ih (by omega) hrec hxs
          (by rw [← hrest, List.map_cons, List.flatten_cons, List.append_assoc]) (by omega) ?_
        have hadd : k + 1 + xs.length = k + (x :: xs).length := by
          simp only [List.length_cons]; omega
        rw [hadd]
        exact hfit
    · have h241 : ¬ (k + 1) * od ≤ 241 := hfit1
      rw [hnil (by omega)]
      exact exchange_overflow h hfit1

end

end Dl

end IolHat

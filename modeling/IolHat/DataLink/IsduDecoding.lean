import IolHat.DataLink.IsduReception

/-!
# When a response ISDU is decoded

`Decodes` is what a delivery should end in: one positive confirmation with the response's
I-service and payload, given only after the last segment, without leaving the buffer. The three
things that prevent it are found to be

* the response timer running out while the device is busy (`Spoiled`), which is what the timer
  is for;
* `StaleLength`: with one octet per message the total length is taken from the octet the buffer
  happens to hold in the place of the extended length, and 0, 1, 2 and 16 end the reception
  early;
* a response of 225 octets or more in 32-octet segments, whose last segment ends behind
  `isdu_data`.

`decodes_iff` says that there is nothing else. The stale octet is one the program leaves there
itself: a read of index 16 puts the index into `isdu_data[1]`
(`stale_length_after_read_of_index_16`).
-/

namespace IolHat

namespace Dl

/-- **A delivery is decoded.** Nothing is confirmed before the last segment; after it there is
exactly one confirmation, positive, with the I-service and the payload of the response; and no
access has left the buffer. -/
def Decodes (dl : Dl) {dirRead : Bool} (r : ResponseIsdu dirRead)
    (busy segs : List Exchange) : Prop :=
  (∀ k < segs.length, (Runs.run exchange dl (busy ++ segs.take k)).out = dl.out) ∧
    (Runs.run exchange dl (busy ++ segs)).out = dl.out ++ [confirmation r] ∧
    (Runs.run exchange dl (busy ++ segs)).faults = dl.faults

/-- A busy reply: an ISDU of length 1 without service. -/
def BusyReply (od : ℕ) (x : Exchange) : Prop :=
  x.octets.length = od ∧ x.octets.getD 0 0 = 0x01

/-- The response timer does not run out before the response has begun: neither when a master
message is prepared nor when the answer to it is evaluated. -/
def WithinResponseTime (dl : Dl) (busy segs : List Exchange) : Prop :=
  ∀ x ∈ busy ++ segs.take 1, ¬ TimedOut dl.isduHandler.isduTimer x.sent ∧
    ¬ TimedOut dl.isduHandler.isduTimer x.received

section

variable {dl : Dl} {od : ℕ} {dirRead : Bool} {r : ResponseIsdu dirRead}

/-! ### Busy replies -/

/-- Busy replies in time leave a waiting handler waiting. -/
theorem run_busy (hod : StackOdLen od) (h : Waiting dl od dirRead) {busy : List Exchange}
    (hbusy : ∀ x ∈ busy, BusyReply od x)
    (ht : ∀ x ∈ busy, ¬ TimedOut dl.isduHandler.isduTimer x.sent ∧
      ¬ TimedOut dl.isduHandler.isduTimer x.received) :
    Waiting (Runs.run exchange dl busy) od dirRead ∧
      (Runs.run exchange dl busy).out = dl.out ∧ (Runs.run exchange dl busy).faults = dl.faults ∧
      (Runs.run exchange dl busy).isduHandler.isduTimer = dl.isduHandler.isduTimer ∧
      (od = 1 → (Runs.run exchange dl busy).isduHandler.isduData.get 1 =
        dl.isduHandler.isduData.get 1) := by
  induction busy generalizing dl with
  | nil => exact ⟨h, rfl, rfl, rfl, fun _ => rfl⟩
  | cons x xs ih =>
    obtain ⟨hlen, hone⟩ := hbusy x List.mem_cons_self
    obtain ⟨hs, hr⟩ := ht x List.mem_cons_self
    obtain ⟨hw, ho, hf, htm, hd⟩ := exchange_busy hod h hlen hone hs hr
    obtain ⟨hw', ho', hf', htm', hd'⟩ := ih hw (fun y hy => hbusy y (List.mem_cons_of_mem _ hy))
      (fun y hy => by rw [htm]; exact ht y (List.mem_cons_of_mem _ hy))
    exact ⟨hw', ho'.trans ho, hf'.trans hf, htm'.trans htm, fun h1 => (hd' h1).trans (hd h1)⟩

/-! ### The response timer -/

/-- The service has failed, or will as soon as the handler is called again: the confirmation
that follows the log `out` is a negative one. -/
def Spoiled (out : List DlCall) (dl : Dl) : Prop :=
  (∃ q e, e ≠ .noError ∧ out ++ [.isduTransportCnf none 0 q e] <+: dl.out) ∨
    (dl.isduHandler.state = .isduerror4 ∧ dl.isduHandler.ihcmd = .active ∧ dl.out = out)

theorem isduErrorInfo_ne (dl : Dl) : dl.isduErrorInfo.2 ≠ .noError := by
  unfold isduErrorInfo
  split_ifs <;> simp

theorem isduHSmIsduError4_spoiled (dl : Dl) (h : dl.isduHandler.ihcmd = .active) :
    ∃ q e, e ≠ .noError ∧ dl.isduHSmIsduError4.out = dl.out ++ [.isduTransportCnf none 0 q e] := by
  have hcmd : ¬ dl.isduHandler.ihcmd = .inactive := by rw [h]; decide
  obtain ⟨d, hd⟩ : ∃ d, d = ((dl.modIsdu ({ · with totalIsduSeg := 0 })).odReq .read .isdu
    flowctrlAbort 0 .null).2 := ⟨_, rfl⟩
  refine ⟨d.isduErrorInfo.1, d.isduErrorInfo.2, isduErrorInfo_ne d, ?_⟩
  subst hd
  simp only [isduHSmIsduError4, if_neg hcmd, isduTransportCnfNull, modIsdu_out, modMessage_out,
    emit_out, odReq_out]

theorem spoiled_exchange {out : List DlCall} (h : Spoiled out dl) (x : Exchange) :
    Spoiled out (dl.exchange x) := by
  rcases h with ⟨q, e, he, hout⟩ | ⟨hstate, hcmd, hout⟩
  · exact .inl ⟨q, e, he, hout.trans (exchange_out dl x)⟩
  · have hm : dl.masterMessage x.sent =
        ((dl.atTime x.sent).modOd ({ · with trigger := .masterMessage })).isduHSmIsduError4 := by
      simp [masterMessage, isduHSm, hstate]
    obtain ⟨q, e, he, ho⟩ := isduHSmIsduError4_spoiled
      ((dl.atTime x.sent).modOd ({ · with trigger := .masterMessage })) (by simpa using hcmd)
    refine .inl ⟨q, e, he, List.IsPrefix.trans ?_ (deviceMessage_out _ x.received x.octets)⟩
    rw [hm, ho, ← hout]
    simp

theorem spoiled_run {out : List DlCall} (h : Spoiled out dl) (xs : List Exchange) :
    Spoiled out (Runs.run exchange dl xs) := by
  induction xs generalizing dl with
  | nil => exact h
  | cons x xs ih => exact ih (spoiled_exchange h x)

theorem Spoiled.ne_confirmation {out : List DlCall} (h : Spoiled out dl) :
    dl.out ≠ out ++ [confirmation r] := by
  intro heq
  rcases h with ⟨q, e, he, hout⟩ | ⟨-, -, hout⟩
  · rw [heq, List.prefix_append_right_inj] at hout
    simp [confirmation] at hout
  · rw [hout] at heq
    simp at heq

/-- When the timer has run out at one of the two calls of an exchange, the service is
spoiled. -/
theorem exchange_timedOut (h : Waiting dl od dirRead) {x : Exchange}
    (ht : TimedOut dl.isduHandler.isduTimer x.sent ∨ TimedOut dl.isduHandler.isduTimer x.received) :
    Spoiled dl.out (dl.exchange x) := by
  have hab : dl.messageHandler.rwcmd ≠ .isduabort := by rw [h.rwcmd]; decide
  have hcmd : dl.isduHandler.ihcmd ≠ .inactive := by rw [h.ihcmd]; decide
  by_cases hs : TimedOut dl.isduHandler.isduTimer x.sent
  · have hel : ((dl.atTime x.sent).modOd ({ · with trigger := .masterMessage })).isduTimerElapsed =
        true := by
      rw [isduTimerElapsed_iff]
      exact hs
    have hm : dl.masterMessage x.sent =
        ((dl.atTime x.sent).modOd ({ · with trigger := .masterMessage })).isduHSmIsduError4 := by
      simp [masterMessage, isduHSm, h.state, isduHSmIsduWait3, hab, hel, isduHSmEnterIsduerror4,
        hcmd]
    obtain ⟨q, e, he, ho⟩ := isduHSmIsduError4_spoiled
      ((dl.atTime x.sent).modOd ({ · with trigger := .masterMessage }))
      (by simpa using h.ihcmd)
    refine .inl ⟨q, e, he, List.IsPrefix.trans ?_ (deviceMessage_out _ x.received x.octets)⟩
    rw [hm, ho]
    simp
  · have hr := ht.resolve_left hs
    obtain ⟨hi, hmsg, hmode, hout, -⟩ :=
      masterMessage_inService x.sent h.toInService (.inl ⟨h.state, hs⟩)
    have hm := h.toInService.of_eq hi hmsg hmode
    have hel : ((dl.masterMessage x.sent).arrive x.received x.octets).isduTimerElapsed = true := by
      rw [isduTimerElapsed_iff, arrive_isduHandler, hi]
      exact hr
    have hx : dl.exchange x = ((dl.masterMessage x.sent).arrive x.received x.octets).modIsdu
        ({ · with state := .isduerror4 }) := by
      have htrig : ((dl.masterMessage x.sent).arrive x.received x.octets).odHandler.trigger =
          .deviceMessage := rfl
      simp [exchange, deviceMessage, isduHSm, hi, h.state, isduHSmIsduWait3, hmsg, hab, hel,
        isduHSmEnterIsduerror4, hcmd, htrig]
    exact .inr (by rw [hx]; exact ⟨rfl, hm.ihcmd, hout⟩)

/-- If the timer runs out before the response has begun, the delivery is not decoded. -/
theorem spoiled_of_timedOut (hod : StackOdLen od) (h : Waiting dl od dirRead)
    {busy segs : List Exchange} (hbusy : ∀ x ∈ busy, BusyReply od x)
    (ht : ¬ WithinResponseTime dl busy segs) :
    Spoiled dl.out (Runs.run exchange dl (busy ++ segs)) := by
  induction busy generalizing dl with
  | nil =>
    cases segs with
    | nil => exact absurd (by simp [WithinResponseTime]) ht
    | cons x xs =>
      have hx : TimedOut dl.isduHandler.isduTimer x.sent ∨
          TimedOut dl.isduHandler.isduTimer x.received := by
        by_contra hin
        rw [not_or] at hin
        refine ht fun y hy => ?_
        obtain rfl : y = x := by simpa using hy
        exact hin
      exact spoiled_run (exchange_timedOut h hx) xs
  | cons x xs ih =>
    by_cases hx : TimedOut dl.isduHandler.isduTimer x.sent ∨
        TimedOut dl.isduHandler.isduTimer x.received
    · exact spoiled_run (exchange_timedOut h hx) (xs ++ segs)
    · rw [not_or] at hx
      obtain ⟨hlen, hone⟩ := hbusy x List.mem_cons_self
      obtain ⟨hw, ho, -, htm, -⟩ := exchange_busy hod h hlen hone hx.1 hx.2
      rw [List.cons_append, Runs.run_cons, ← ho]
      refine ih hw (fun y hy => hbusy y (List.mem_cons_of_mem _ hy)) fun hin => ht ?_
      intro y hy
      rcases List.mem_cons.mp hy with rfl | hy
      · exact hx
      · have := hin y hy
        rwa [htm] at this

/-! ### The stale length octet -/

theorem isduHSmReceptionComplete_ne (dl : Dl) : dl.isduHSmReceptionComplete.out ≠ dl.out := by
  unfold isduHSmReceptionComplete isduResponseCnf isduTransportCnfData
  cases dl.getIsduDataLength <;> simp

/-- With a misleading octet in the place of the extended length, a confirmation is given after
at most two octets. -/
theorem early_of_stale (h : Waiting dl od dirRead) {segs : List Exchange}
    (hd : Delivery od r segs)
    (ht : ∀ x ∈ segs.take 1, ¬ TimedOut dl.isduHandler.isduTimer x.sent ∧
      ¬ TimedOut dl.isduHandler.isduTimer x.received)
    (hstale : StaleLength dl od r) :
    ∃ k < segs.length, (Runs.run exchange dl (segs.take k)).out ≠ dl.out := by
  obtain ⟨rfl, hext, hmis⟩ := hstale
  obtain ⟨pad, hpad, hflat⟩ := hd.padded
  have h17 := (r.extended_len hext).2.2.1
  have hcount : segs.length = r.octets.length := by
    have hlen := congrArg List.length hflat
    rw [length_flatten_segments hd.each, List.length_append] at hlen
    omega
  obtain ⟨x, y, rest, rfl⟩ : ∃ x y rest, segs = x :: y :: rest := by
    match segs, hcount with
    | x :: y :: rest, _ => exact ⟨x, y, rest, rfl⟩
    | [_], hc => simp at hc; omega
    | [], hc => simp at hc; omega
  have hx := hd.each x (by simp)
  obtain ⟨hs, hr⟩ := ht x (by simp)
  have hpre : x.octets <+: r.octets ++ pad := by
    rw [← hflat, List.map_cons, List.flatten_cons]
    exact List.prefix_append _ _
  obtain ⟨st, hresp, hst, -, h0, hold, hout, -⟩ := exchange_begins (.inl rfl) h hx hpre hs hr
  have htot := getIsduTotalLen_of_stale h0 hext
  rw [hold rfl] at htot
  by_cases h2 : (dl.isduHandler.isduData.get 1).toNat = 2
  · -- the second octet seems to be the last one
    refine ⟨2, by simp only [hcount]; omega, ?_⟩
    rw [if_neg (by omega), h2] at htot
    have hnow := isduWait3Response_eq st
    rw [htot, hst.odLen] at hnow
    simp only [Option.getD_some] at hnow
    rw [if_neg (by decide), ← hresp] at hnow
    have hser : InService (dl.exchange x) 1 dirRead := by
      rw [hnow]
      exact ⟨hst.ihcmd, hst.rwcmd, hst.mhinfo, hst.odLen, hst.dir⟩
    obtain ⟨st', hex', -, hih', hout', -⟩ := exchange_receiving (k := 1) (x := y) (.inl rfl) hser
      (by rw [hnow]; rfl) (by rw [hnow]; rfl) (hd.each y (by simp)) (by decide)
    have htot' : (dl.exchange x).getIsduTotalLen = some 2 := by
      rw [← htot]
      exact getIsduTotalLen_congr (by rw [hnow]; rfl)
    rw [htot'] at hih'
    have hsame : (dl.exchange x).out = dl.out := by rw [hnow]; exact hout
    simp only [List.take_succ_cons, List.take_zero, Runs.run_cons, Runs.run_nil]
    rw [hex', isduResponse5Stored]
    rw [if_pos (by simp [hih', hnow]), ← hsame, ← hout']
    exact isduHSmReceptionComplete_ne _
  · -- the length field is not accepted, so nothing seems to be missing
    refine ⟨1, by simp, ?_⟩
    have hmis' : (dl.isduHandler.isduData.get 1).toNat < 2 ∨
        (dl.isduHandler.isduData.get 1).toNat = 16 := by
      unfold Misleading at hmis; omega
    rw [if_pos hmis'] at htot
    have hnow := isduWait3Response_eq st
    rw [htot, hst.odLen] at hnow
    simp only [Option.getD_none] at hnow
    rw [if_pos (by decide)] at hnow
    simp only [List.take_succ_cons, List.take_zero, Runs.run_cons, Runs.run_nil]
    rw [hresp, hnow, ← hout]
    exact isduHSmReceptionComplete_ne _

/-! ### The exact condition -/

/-- The last segment of a delivery ends behind the buffer only for long responses in 32-octet
segments. -/
theorem delivery_fits_iff (hod : StackOdLen od) {segs : List Exchange} (hd : Delivery od r segs) :
    segs.length * od ≤ isduMaxSize ↔ ¬ (od = 32 ∧ 225 ≤ r.octets.length) := by
  obtain ⟨pad, hpad, hflat⟩ := hd.padded
  have hlen := congrArg List.length hflat
  rw [length_flatten_segments hd.each, List.length_append] at hlen
  have hmax := r.length_le
  have h241 : isduMaxSize = 241 := rfl
  rw [h241]
  rcases hod with rfl | rfl | rfl | rfl <;> omega

/-- A delivery that begins in time is decoded unless its length is misread or its last segment
does not fit. -/
theorem decodes_inTime_iff (hod : StackOdLen od) (h : Waiting dl od dirRead)
    {segs : List Exchange} (hd : Delivery od r segs)
    (ht : ∀ x ∈ segs.take 1, ¬ TimedOut dl.isduHandler.isduTimer x.sent ∧
      ¬ TimedOut dl.isduHandler.isduTimer x.received) :
    Decodes dl r [] segs ↔ ¬ StaleLength dl od r ∧ segs.length * od ≤ isduMaxSize := by
  obtain ⟨hpos, h32⟩ := hod.pos
  -- A length octet of the answer before ends the reception early.
  by_cases hstale : StaleLength dl od r
  · simp only [hstale, not_true, false_and, iff_false]
    intro hdec
    obtain ⟨k, hk, hne⟩ := early_of_stale h hd ht hstale
    exact hne (hdec.1 k hk)
  · simp only [hstale, not_false_iff, true_and]
    obtain ⟨pad, hpad, hflat⟩ := hd.padded
    have h2 := r.two_le_length
    obtain ⟨x, xs, rfl⟩ : ∃ x xs, segs = x :: xs := by
      cases segs with
      | nil =>
        have hlen := congrArg List.length hflat
        simp only [List.map_nil, List.flatten_nil, List.length_nil, List.length_append] at hlen
        omega
      | cons x xs => exact ⟨x, xs, rfl⟩
    have hx := hd.each x List.mem_cons_self
    have hxs : ∀ y ∈ xs, y.octets.length = od := fun y hy => hd.each y (List.mem_cons_of_mem _ hy)
    rw [List.map_cons, List.flatten_cons] at hflat
    obtain ⟨hs, hr⟩ := ht x (by simp)
    obtain ⟨hlast, hnext⟩ := exchange_first hod h hx (hflat ▸ List.prefix_append _ _) hs hr hstale
    -- The first segment says whether there are more.
    by_cases hL : r.octets.length ≤ od
    · have hnil : xs = [] := by
        have hlen := congrArg List.length hflat
        rw [List.length_append, List.length_append, hx, length_flatten_segments hxs] at hlen
        have hlt : xs.length * od < 1 * od := by omega
        have := Nat.lt_of_mul_lt_mul_right hlt
        exact List.length_eq_zero_iff.mp (by omega)
      subst hnil
      obtain ⟨ho, hf⟩ := hlast hL
      have hfit : [x].length * od ≤ isduMaxSize := by
        simpa using Nat.le_trans h32 (by decide : 32 ≤ 241)
      simp only [hfit, iff_true]
      refine ⟨fun k hk => ?_, ho, hf⟩
      obtain rfl : k = 0 := by simpa using hk
      rfl
    · obtain ⟨hrec, ho, hf⟩ := hnext (by omega)
      have hcount : (1 + xs.length) * od = (x :: xs).length * od := by
        rw [List.length_cons, Nat.add_comm]
      rw [← hcount]
      constructor
      · intro hdec
        by_contra hfit
        exact run_overflow hod (Nat.le_refl 1) hrec hxs hpad hflat (by omega) hfit
          (hdec.2.2.trans hf.symm)
      · intro hfit
        obtain ⟨hbefore, hafter, hfaults⟩ :=
          run_receiving hod (Nat.le_refl 1) hrec hxs hpad hflat (by omega) hfit
        refine ⟨fun k hk => ?_, hafter.trans (by rw [ho]), hfaults.trans hf⟩
        cases k with
        | zero => rfl
        | succ k => exact (hbefore k (by simpa using hk)).trans ho

/-- **When a response is decoded.** A well-formed response, delivered after any number of busy
replies over whatever an earlier request has left in the buffer, is decoded if and only if the
response timer does not run out before it begins, no misleading octet stands in for the extended
length, and it is not one of 225 octets or more in 32-octet segments. -/
theorem decodes_iff (hod : StackOdLen od) (h : Waiting dl od dirRead) {busy segs : List Exchange}
    (hbusy : ∀ x ∈ busy, BusyReply od x) (hd : Delivery od r segs) :
    Decodes dl r busy segs ↔
      WithinResponseTime dl busy segs ∧ ¬ StaleLength dl od r ∧
        ¬ (od = 32 ∧ 225 ≤ r.octets.length) := by
  rw [← delivery_fits_iff hod hd]
  by_cases ht : WithinResponseTime dl busy segs
  · simp only [ht, true_and]
    obtain ⟨hw, ho, hf, htm, hd1⟩ := run_busy hod h hbusy fun x hx =>
      ht x (List.mem_append_left _ hx)
    have hskip : Decodes dl r busy segs ↔ Decodes (Runs.run exchange dl busy) r [] segs := by
      simp only [Decodes, List.nil_append, Runs.run_append, ho, hf]
    have hstale : StaleLength (Runs.run exchange dl busy) od r ↔ StaleLength dl od r := by
      constructor
      · rintro ⟨hone, hext, hm⟩
        exact ⟨hone, hext, hd1 hone ▸ hm⟩
      · rintro ⟨hone, hext, hm⟩
        exact ⟨hone, hext, (hd1 hone).symm ▸ hm⟩
    rw [hskip, ← hstale]
    refine decodes_inTime_iff hod hw hd fun x hx => ?_
    rw [htm]
    exact ht x (List.mem_append_right _ hx)
  · simp only [ht, false_and, iff_false]
    exact fun hdec => (spoiled_of_timedOut hod h hbusy ht).ne_confirmation hdec.2.1

end

/-! ### A failing and a successful delivery -/

section Instances

/-- A layer in OPERATE with an idle ISDU handler and `od` octets of on-request data. -/
def operating (od : ℕ) : Dl :=
  { modeHandler := { state := .operate4 }
    messageHandler := { state := .awReply16, odLen := od }
    odHandler := { state := .isdu1, ohcmd := .active }
    isduHandler := { state := .idle1, ihcmd := .active } }

/-- A read request for an index below 256. -/
def readRequest (index : UInt16) : IsduVl := ⟨index, 0, [], Nat.succ_pos 255, .read⟩

/-- `n` exchanges in which the device has nothing to say. -/
def quiet (n : ℕ) : List Exchange := List.replicate n ⟨1, 1, []⟩

/-- The layer after the three request octets of a read of index 16 have been sent. -/
def afterReadOfIndex16 : Dl :=
  Runs.run exchange ((operating 1).isduTransportReq (readRequest 16)).2 (quiet 3)

/-- A positive read response in extended form, with 14 zero octets. -/
def extendedResponse : ResponseIsdu true where
  octets := [0xD1, 17] ++ List.replicate 14 0 ++ [0xC0]
  extended := true
  iserv_eq := by decide
  short_len := by decide
  extended_len := by decide
  xor_eq := by decide

/-- **A response lost to a stale octet.** After a read of index 16 the index is left where the
extended length octet will arrive; a well-formed response delivered in time, one octet per
message, is confirmed as invalid after its first octet. -/
theorem stale_length_after_read_of_index_16 :
    Waiting afterReadOfIndex16 1 true ∧
      Delivery 1 extendedResponse (extendedResponse.octets.map fun o => ⟨2, 2, [o]⟩) ∧
      WithinResponseTime afterReadOfIndex16 []
        (extendedResponse.octets.map fun o => ⟨2, 2, [o]⟩) ∧
      ¬ Decodes afterReadOfIndex16 extendedResponse []
        (extendedResponse.octets.map fun o => ⟨2, 2, [o]⟩) := by
  refine ⟨⟨⟨?_, ?_, ?_, ?_, ?_⟩, ?_, ?_⟩, ⟨?_, [], by decide, ?_⟩, ?_, fun hdec => ?_⟩
  iterate 9 · decide +kernel
  · unfold WithinResponseTime TimedOut
    decide +kernel
  · exact absurd (hdec.1 1 (by decide)) (by decide +kernel)

/-- The layer after a read request for index 24, sent in one segment of eight octets. -/
def afterReadOfIndex24 : Dl :=
  Runs.run exchange ((operating 8).isduTransportReq (readRequest 24)).2 (quiet 1)

/-- A positive read response with the single octet 0x42. -/
def shortResponse : ResponseIsdu true where
  octets := [0xD3, 0x42, 0x91]
  extended := false
  iserv_eq := by decide
  short_len := by decide
  extended_len := by decide
  xor_eq := by decide

/-- A response that comes after one busy reply is decoded. -/
theorem decodes_read_of_index_24 :
    Decodes afterReadOfIndex24 shortResponse [⟨2, 2, [1, 0, 0, 0, 0, 0, 0, 0]⟩]
      [⟨3, 3, [0xD3, 0x42, 0x91, 0, 0, 0, 0, 0]⟩] := by
  have hod : StackOdLen 8 := .inr (.inr (.inl rfl))
  refine (decodes_iff hod ⟨⟨?_, ?_, ?_, ?_, ?_⟩, ?_, ?_⟩ ?_
    ⟨?_, [0, 0, 0, 0, 0], by decide, ?_⟩).mpr ⟨?_, ?_, by decide⟩
  iterate 7 · decide +kernel
  · unfold BusyReply
    decide
  · decide
  · decide
  · unfold WithinResponseTime TimedOut
    decide +kernel
  · rintro ⟨h, -, -⟩
    exact absurd h (by decide)

end Instances

end Dl

end IolHat

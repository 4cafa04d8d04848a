import IolHat.DataLink.IsduTransmission
import IolHat.Lib.Run

/-!
# Segmentation of a request

An encoded request leaves in segments of `od_len` octets, one in each ISDU write message. The OD
handler is called alternately to prepare a master message and with the device's answer, and on
the way it may turn to a master command or to events. `OdRun` is such a run, with the ISDU
segments of the messages that were sent.

`OdRun.Segmented` says what a transmission should look like at any moment: the segments so far
carry the front of the request, START and then the segment numbers as flow control, and the
handler waits for the response exactly after the last of them.

The run can leave this path in two ways, both at a master message, and `OdRun.Undiverted` excludes
no more than these. No message is prepared while `txbuffer` still holds the segment before, which
is then sent again. Or an event flag is found while the last segment is being prepared: the OD
handler turns to the event handler, the ISDU handler misses the answer in which it would have
seen the end of the request, and it sends a segment too many.
-/

namespace IolHat

open Octets

/-! ### Runs of the OD handler -/

/-- What can happen while a request is being sent. -/
inductive OdInput
  /-- A master message is prepared and sent. -/
  | master (now : UInt32)
  /-- The device answers. -/
  | device (now : UInt32) (eventflag : Bool) (octets : List Octet)
  /-- The PD handler is called. -/
  | pd (trigger : Trigger)
  | control (controlcode : ControlCode)
  | writeDevicemode (devicemode : DlMode)
  | pdOutputUpdate (outputdata : List Octet)
  | eventConf

/-- The data link layer, with the ISDU segments it has sent. -/
structure OdRun where
  dl : Dl
  /-- A master message has been sent and not been answered. -/
  underway : Bool := false
  /-- Flow control and octets of the ISDU write messages, oldest first. -/
  sent : List (ℕ × List Octet) := []

namespace OdRun

/-- One input. Master and device messages alternate, and the run is over when the handler waits
for the response. -/
def step (r : OdRun) (i : OdInput) : OdRun :=
  if r.dl.isduHandler.state = .isduwait3 then r
  else match i with
  | .master now =>
    if r.underway then r
    else
      let dl := (r.dl.atTime now).odMaster
      { dl := dl, underway := true, sent := r.sent ++ dl.writeSegment.toList }
  | .device now eventflag octets =>
    if r.underway then
      { r with dl := ((r.dl.arrive now octets).eventFlagInd eventflag).odDevice, underway := false }
    else r
  | .pd trigger => { r with dl := (r.dl.modPd ({ · with trigger := trigger })).pdHSm }
  | .control controlcode => { r with dl := (r.dl.controlReq controlcode).2 }
  | .writeDevicemode devicemode => { r with dl := (r.dl.writeDevicemodeReq devicemode).2 }
  | .pdOutputUpdate outputdata => { r with dl := (r.dl.pdOutputUpdateReq outputdata).2 }
  | .eventConf => { r with dl := r.dl.modEvent ({ · with eventConfirmation := true }) }

/-- The segment prepared next is the last one. -/
def LastSegment (r : OdRun) : Prop :=
  r.dl.isduHandler.totalIsduSeg ≤
    (if r.dl.isduHandler.state = .idle1 then 0 else r.dl.isduHandler.currentIsduSeg) + 1

/-- The input does not lead away from the request: a master message is prepared, or the one in
the buffer is no ISDU write; and no event flag is found with the last segment. -/
def Undiverted (r : OdRun) : OdInput → Prop
  | .master _ => r.underway = false → (r.dl.Prepares ∨ ¬ r.dl.WritesIsdu) ∧
      ¬ (r.dl.CarriesIsdu ∧ r.dl.eventHandler.eventFlag = true ∧ r.LastSegment)
  | _ => True

instance (r : OdRun) : Decidable r.LastSegment := by unfold LastSegment; infer_instance

instance (r : OdRun) : (i : OdInput) → Decidable (r.Undiverted i)
  | .master _ => inferInstanceAs (Decidable (_ → _))
  | .device _ _ _ | .pd _ | .control _ | .writeDevicemode _ | .pdOutputUpdate _ | .eventConf =>
    inferInstanceAs (Decidable True)

/-- **The segments of a request**, `request` being its encoding. -/
structure Segmented (request : List Octet) (od : ℕ) (r : OdRun) : Prop where
  /-- Each segment has been sent once, in its turn. -/
  flow : r.sent.map Prod.fst = (List.range r.sent.length).map Dl.flowControl
  lengths : ∀ s ∈ r.sent, s.2.length = od
  /-- The segments carry the front of the request, and padding behind its end. -/
  octets : (r.sent.map Prod.snd).flatten.take request.length = request.take (r.sent.length * od)
  count : r.sent.length ≤ (request.length + od - 1) / od
  /-- The handler waits for the response when the last segment has been answered. -/
  done : r.dl.isduHandler.state = .isduwait3 ↔
    r.sent.length = (request.length + od - 1) / od ∧ r.underway = false

/-- The invariant of a transmission. -/
structure Tracks (dl₀ : Dl) (request : List Octet) (od : ℕ) (r : OdRun) : Prop where
  sending : Dl.Sending dl₀ od r.dl
  flow : r.sent.map Prod.fst = (List.range r.sent.length).map Dl.flowControl
  lengths : ∀ s ∈ r.sent, s.2.length = od
  octets : (r.sent.map Prod.snd).flatten.take request.length = request.take (r.sent.length * od)
  count : r.sent.length ≤ dl₀.isduHandler.totalIsduSeg
  phase : r.dl.isduHandler.state = .isduwait3 ∧
      r.sent.length = dl₀.isduHandler.totalIsduSeg ∧ r.underway = false ∨
    r.dl.NextSegment r.sent.length ∧ (r.sent.length = dl₀.isduHandler.totalIsduSeg →
      r.underway = true ∧ r.dl.odHandler.state = .isdu1)

/-- The encoded request of `dl₀` and the number of its segments. -/
structure Encoded (dl₀ : Dl) (request : List Octet) (od : ℕ) : Prop where
  octets : dl₀.isduHandler.isduData.slice 0 request.length = request
  fits : request.length ≤ isduMaxSize
  odLen : od ≤ 32
  segments : dl₀.isduHandler.totalIsduSeg = (request.length + od - 1) / od
  bounds : 0 < dl₀.isduHandler.totalIsduSeg ∧ dl₀.isduHandler.totalIsduSeg < 255

/-- Another segment behind segments of equal length. -/
private theorem take_flatten_append {segments : List (List Octet)} {request segment : List Octet}
    {od : ℕ} (hlengths : ∀ s ∈ segments, s.length = od)
    (h : segments.flatten.take request.length = request.take (segments.length * od))
    (hsegment : segment.take (request.length - segments.length * od) =
      (request.drop (segments.length * od)).take od) :
    (segments ++ [segment]).flatten.take request.length =
      request.take ((segments.length + 1) * od) := by
  have hmap : segments.map List.length = List.replicate segments.length od :=
    List.map_eq_replicate_iff.mpr hlengths
  have hlen : segments.flatten.length = segments.length * od := by
    rw [List.length_flatten, hmap, List.sum_replicate_nat]
  rw [List.flatten_append, List.flatten_singleton, List.take_append, hlen, h, hsegment,
    Nat.succ_mul, List.take_add]

section

variable {dl₀ : Dl} {request : List Octet} {od : ℕ} {r : OdRun}

/-- A step of another part of the layer. -/
theorem Tracks.beside (h : r.Tracks dl₀ request od) {dl : Dl} (hk : r.dl.RequestKept dl) :
    ({ r with dl := dl } : OdRun).Tracks dl₀ request od := by
  have hnext : r.dl.NextSegment r.sent.length → dl.NextSegment r.sent.length := by
    unfold Dl.NextSegment
    rw [hk.isdu]
    exact id
  refine ⟨h.sending.of_kept hk, h.flow, h.lengths, h.octets, h.count, ?_⟩
  rcases h.phase with ⟨hstate, hdone⟩ | ⟨hseg, hlast⟩
  · refine .inl ⟨?_, hdone⟩
    rw [hk.isdu]
    exact hstate
  · refine .inr ⟨hnext hseg, fun hall => ⟨(hlast hall).1, ?_⟩⟩
    rw [hk.od.1]
    exact (hlast hall).2

/-- A master message of another handler. -/
theorem Tracks.diverted (h : r.Tracks dl₀ request od) {dl : Dl}
    (hseg : r.dl.NextSegment r.sent.length)
    (hlt : r.sent.length < dl₀.isduHandler.totalIsduSeg) (hwrites : ¬ dl.WritesIsdu)
    (hisdu : dl.isduHandler = r.dl.isduHandler) (hsending : Dl.Sending dl₀ od dl) :
    ({ dl := dl, underway := true, sent := r.sent ++ dl.writeSegment.toList } : OdRun).Tracks
      dl₀ request od := by
  have hnone : dl.writeSegment.toList = [] := by rw [Dl.writeSegment, if_neg hwrites]; rfl
  have hnext : dl.NextSegment r.sent.length := by
    unfold Dl.NextSegment
    rw [hisdu]
    exact hseg
  rw [hnone, List.append_nil]
  exact ⟨hsending, h.flow, h.lengths, h.octets, h.count,
    .inr ⟨hnext, fun hall => absurd hall (Nat.ne_of_lt hlt)⟩⟩

/-- A master message with a segment. -/
theorem Tracks.carried (h : r.Tracks dl₀ request od) (he : Encoded dl₀ request od) {dl : Dl}
    {segment : List Octet} (hlt : r.sent.length < dl₀.isduHandler.totalIsduSeg)
    (hsegment : dl.writeSegment = some (Dl.flowControl r.sent.length, segment))
    (hlen : segment.length = od)
    (hoctets : segment.take (isduMaxSize - od * r.sent.length) =
      (dl₀.isduHandler.isduData.suffix (od * r.sent.length)).take od)
    (hsending : Dl.Sending dl₀ od dl) (hstate : dl.isduHandler.state = .isdurequest2)
    (hseg : dl.isduHandler.currentIsduSeg = r.sent.length + 1)
    (hlast : r.sent.length + 1 = dl₀.isduHandler.totalIsduSeg → dl.odHandler.state = .isdu1) :
    ({ dl := dl, underway := true, sent := r.sent ++ dl.writeSegment.toList } : OdRun).Tracks
      dl₀ request od := by
  obtain ⟨k, hk⟩ : ∃ k, r.sent.length = k := ⟨_, rfl⟩
  have hlength : (r.sent.map Prod.snd).length = k := by rw [List.length_map, hk]
  have hsent : (r.sent ++ dl.writeSegment.toList).length = k + 1 := by
    rw [hsegment, Option.toList_some, List.length_append, List.length_singleton, hk]
  have hfits : request.length ≤ isduMaxSize := he.fits
  -- the part of the segment inside the request
  have hinside : segment.take (request.length - k * od) = (request.drop (k * od)).take od := by
    have hsource : (request.drop (k * od)) =
        (dl₀.isduHandler.isduData.suffix (od * k)).take (request.length - k * od) := by
      conv_lhs => rw [← he.octets]
      rw [Buffer.slice, Buffer.suffix, Buffer.suffix, List.drop_zero, List.drop_take, Nat.mul_comm]
    have hle : request.length - k * od ≤ isduMaxSize - od * k := by
      rw [Nat.mul_comm od k]
      exact Nat.sub_le_sub_right hfits _
    rw [hsource, List.take_take, Nat.min_comm, ← List.take_take, ← hk, ← hoctets, hk,
      List.take_take, Nat.min_eq_left hle]
  refine ⟨hsending, ?_, ?_, ?_, ?_, .inr ⟨.inr ⟨hstate, ?_, ?_⟩, ?_⟩⟩
  · rw [hsent, List.map_append, h.flow, hsegment, hk, List.range_succ, List.map_append]
    rfl
  · intro s hs
    rcases List.mem_append.mp hs with hs | hs
    · exact h.lengths s hs
    · rw [hsegment] at hs
      rw [List.mem_singleton.mp hs]
      exact hlen
  · rw [hsent, hsegment, Option.toList_some, List.map_append, List.map_singleton, ← hlength]
    refine take_flatten_append ?_ ?_ ?_
    · simpa using fun s n hs => h.lengths (n, s) hs
    · rw [hlength, ← hk]
      exact h.octets
    · rw [hlength]
      exact hinside
  · rw [hsent, ← hk]
    exact hlt
  · rw [hsent, hseg, hk]
  · rw [hsent]
    exact Nat.succ_ne_zero k
  · rw [hsent, ← hk]
    exact fun hall => ⟨rfl, hlast hall⟩

/-- **A master message** of a run that is not diverted. -/
theorem Tracks.master (h : r.Tracks dl₀ request od) (he : Encoded dl₀ request od)
    (hstate : r.dl.isduHandler.state ≠ .isduwait3) (hidle : r.underway = false) {now : UInt32}
    (hok : r.Undiverted (.master now)) :
    ({ dl := (r.dl.atTime now).odMaster, underway := true,
       sent := r.sent ++ (r.dl.atTime now).odMaster.writeSegment.toList } : OdRun).Tracks
      dl₀ request od := by
  obtain ⟨hprepares, hlast⟩ := hok hidle
  obtain ⟨hseg, hall⟩ := h.phase.resolve_left fun hwait => hstate hwait.1
  have hlt : r.sent.length < dl₀.isduHandler.totalIsduSeg := by
    refine Nat.lt_of_le_of_ne h.count fun heq => ?_
    rw [hidle] at hall
    exact absurd (hall heq).1 Bool.false_ne_true
  obtain ⟨dl, hdl⟩ : ∃ dl, dl = (r.dl.atTime now).modOd ({ · with trigger := .masterMessage }) :=
    ⟨_, rfl⟩
  have hsending : Dl.Sending dl₀ od dl := by
    rw [hdl]
    exact h.sending.of_kept ⟨rfl, rfl, rfl, rfl, rfl, rfl⟩
  have htrigger : dl.odHandler.trigger = .masterMessage := by rw [hdl]; rfl
  have hmaster : (r.dl.atTime now).odMaster = dl.odHSm := by rw [hdl]; rfl
  rw [hmaster]
  rcases Decidable.em r.dl.CarriesIsdu with hc | hc
  · obtain ⟨segment, hsegment, hlen, hoctets, hreq, hcur, hod, hsent⟩ :=
      Dl.isduHSm_masterMessage hsending he.odLen (k := r.sent.length) (by rw [hdl]; exact hseg)
        (Nat.lt_trans hlt he.bounds.2) htrigger
    have hcarries : dl.CarriesIsdu := by
      rw [hdl]
      exact hc
    rw [Dl.odHSm_of_carriesIsdu hsending hcarries htrigger]
    split_ifs with hflag
    · refine h.carried he hlt hsegment hlen hoctets (hsent.odState _) hreq hcur fun heq => ?_
      -- the events would be read before the end of the request is seen
      have hevent : r.dl.eventHandler.eventFlag = true := by
        rw [hdl] at hflag
        exact hflag
      refine absurd ⟨hc, hevent, ?_⟩ hlast
      rw [LastSegment, h.sending.totalIsduSeg, ← heq]
      rcases hseg with ⟨hidle1, hzero⟩ | ⟨hrequest, hnumber, -⟩
      · exact Nat.le_of_eq (by rw [if_pos hidle1, hzero])
      · have hne : r.dl.isduHandler.state ≠ .idle1 := by
          rw [hrequest]
          exact IsduhSt.noConfusion
        exact Nat.le_of_eq (by rw [if_neg hne, hnumber])
    · exact h.carried he hlt hsegment hlen hoctets (hsent.odTrigger _) hreq hcur
        fun _ => hod.trans hcarries.1
  · obtain ⟨hwrites, hisdu, hsent⟩ := Dl.odHSm_of_diverted hsending (by rw [hdl]; exact hc) htrigger
      (by rw [hdl]; exact hprepares)
    refine h.diverted hseg hlt hwrites ?_ hsent
    rw [hisdu, hdl]
    rfl

/-- **A device message.** -/
theorem Tracks.device (h : r.Tracks dl₀ request od) (he : Encoded dl₀ request od)
    (hstate : r.dl.isduHandler.state ≠ .isduwait3) (now : UInt32) (eventflag : Bool)
    (octets : List Octet) :
    ({ r with
       dl := ((r.dl.arrive now octets).eventFlagInd eventflag).odDevice
       underway := false } : OdRun).Tracks dl₀ request od := by
  obtain ⟨hseg, hall⟩ := h.phase.resolve_left fun hwait => hstate hwait.1
  obtain ⟨dl, hdl⟩ : ∃ dl, dl = (((r.dl.arrive now octets).eventFlagInd eventflag).modOd
    ({ · with trigger := .deviceMessage })) := ⟨_, rfl⟩
  have hsending : Dl.Sending dl₀ od dl := by
    rw [hdl]
    exact h.sending.of_kept ⟨rfl, rfl, rfl, rfl, rfl, rfl⟩
  have htrigger : dl.odHandler.trigger = .deviceMessage := by rw [hdl]; rfl
  have hnext : dl.NextSegment r.sent.length := by
    rw [hdl]
    exact hseg
  have hodState : dl.odHandler.state = r.dl.odHandler.state := by rw [hdl]; rfl
  have hdevice : ((r.dl.arrive now octets).eventFlagInd eventflag).odDevice = dl.odHSm := by
    rw [hdl]
    rfl
  obtain ⟨-, hsent, hafter⟩ := Dl.isduHSm_deviceMessage hsending hnext htrigger
  obtain ⟨hisdu, hkeeps⟩ := Dl.odHSm_deviceMessage hsending htrigger
  rw [hdevice]
  refine ⟨hkeeps hsent, h.flow, h.lengths, h.octets, h.count, ?_⟩
  rw [hodState] at hisdu
  split_ifs at hisdu hafter with hos hend hend
  · refine .inl ⟨?_, Nat.le_antisymm h.count hend.2, rfl⟩
    show dl.odHSm.isduHandler.state = .isduwait3
    rw [hisdu]
    exact hafter
  · refine .inr ⟨?_, fun heq => ?_⟩
    · show dl.odHSm.NextSegment r.sent.length
      unfold Dl.NextSegment
      rw [hisdu]
      exact hafter
    · have hpos : r.sent.length ≠ 0 := by
        intro hzero
        exact absurd (hzero ▸ heq).symm (Nat.ne_of_gt he.bounds.1)
      exact absurd ⟨hpos, Nat.le_of_eq heq.symm⟩ hend
  · refine .inr ⟨?_, fun heq => absurd (hall heq).2 hos⟩
    show dl.odHSm.NextSegment r.sent.length
    unfold Dl.NextSegment
    rw [hisdu]
    exact hnext
  · refine .inr ⟨?_, fun heq => absurd (hall heq).2 hos⟩
    show dl.odHSm.NextSegment r.sent.length
    unfold Dl.NextSegment
    rw [hisdu]
    exact hnext

/-- **One input.** -/
theorem Tracks.step (h : r.Tracks dl₀ request od) (he : Encoded dl₀ request od) {i : OdInput}
    (hok : r.Undiverted i) : (r.step i).Tracks dl₀ request od := by
  unfold OdRun.step
  rcases Decidable.em (r.dl.isduHandler.state = .isduwait3) with hstate | hstate
  · rw [if_pos hstate]
    exact h
  · rw [if_neg hstate]
    cases i with
    | master now =>
      cases hunderway : r.underway with
      | true => exact h
      | false => exact h.master he hstate hunderway hok
    | device now eventflag octets =>
      cases hunderway : r.underway with
      | true => exact h.device he hstate now eventflag octets
      | false => exact h
    | pd trigger => exact h.beside (Dl.RequestKept.pdHSm ((Dl.RequestKept.refl _).modPd _))
    | control controlcode =>
      exact h.beside ((Dl.requestKept_closed _).controlReq (.refl _) controlcode)
    | writeDevicemode devicemode => exact h.beside (.writeDevicemodeReq _ devicemode)
    | pdOutputUpdate outputdata => exact h.beside (.pdOutputUpdateReq _ outputdata)
    | eventConf => exact h.beside ⟨rfl, rfl, rfl, rfl, rfl, rfl⟩

/-- The invariant says that the request is segmented as it should be. -/
theorem Tracks.segmented (h : r.Tracks dl₀ request od) (he : Encoded dl₀ request od) :
    r.Segmented request od := by
  refine ⟨h.flow, h.lengths, h.octets, he.segments ▸ h.count, ?_⟩
  rw [← he.segments]
  rcases h.phase with ⟨hwait, hdone⟩ | ⟨hseg, hall⟩
  · exact iff_of_true hwait hdone
  · refine iff_of_false ?_ ?_
    · rcases hseg with ⟨hstate, -⟩ | ⟨hstate, -⟩
      · rw [hstate]
        exact IsduhSt.noConfusion
      · rw [hstate]
        exact IsduhSt.noConfusion
    · rintro ⟨heq, hidle⟩
      rw [(hall heq).1] at hidle
      exact Bool.noConfusion hidle

end

/-! ### The start of a transmission -/

/-- The handlers that carry a request are active, communication has not been lost, and the
on-request data of a message fits in `txbuffer`. -/
structure ReadyToSend (dl : Dl) (od : ℕ) : Prop where
  ihcmd : dl.isduHandler.ihcmd = .active
  ohcmd : dl.odHandler.ohcmd = .active
  mhinfo : dl.modeHandler.mhinfo ≠ .comlost
  room : dl.OdRoom od

/-- A request that is taken. -/
private theorem started {dl : Dl} {vl : IsduVl} {od : ℕ} (htakes : dl.TakesIsdu vl)
    (hfit : vl.encodedSize ≤ isduMaxSize) (hready : ReadyToSend dl od) :
    Dl.Sending (dl.isduTransportReq vl).2 od (dl.isduTransportReq vl).2 ∧
      (dl.isduTransportReq vl).2.isduHandler.state = .idle1 ∧
      (dl.isduTransportReq vl).2.isduHandler.totalIsduSeg =
        narrow8 ((narrow8 vl.encodedSize + od - 1) / od) := by
  have hmode : ¬ (dl.modeHandler.state = .idle0 ∨ dl.modeHandler.state = .estcom1) :=
    not_or.mpr htakes.mode
  have hindex : ¬ vl.index < 2 := by
    rw [UInt16.lt_iff_toNat_lt, Nat.not_lt]
    exact htakes.index
  have hidle : ¬ dl.isduHandler.state ≠ .idle1 := not_not.mpr htakes.idle
  obtain ⟨buf, henc, -⟩ := Dl.encodeIsdu_of_fits
    (dl.modIsdu ({ · with dataDirRead := decide (vl.readwrite = RwDirection.read) })) vl hfit
  have hroom := hready.room
  have hsegments : ∀ d : Dl, d.messageHandler.odLen = od →
      d.isduHandler.totalIsduLen = narrow8 vl.encodedSize →
      d.getIsduTotalSegments = narrow8 ((narrow8 vl.encodedSize + od - 1) / od) := by
    intro d hod hlen
    rw [Dl.getIsduTotalSegments, hod, hlen]
  simp only [Dl.isduTransportReq, if_neg hmode, if_neg hindex, if_neg hidle, henc,
    if_neg (IsduVl.not_kills_of_fits hfit)]
  split_ifs
  · exact ⟨⟨rfl, rfl, hready.ihcmd, hready.ohcmd, rfl, hready.mhinfo, hroom.odLen, hroom.front,
      hroom.back⟩, htakes.idle, hsegments _ hroom.odLen rfl⟩
  · exact ⟨⟨rfl, rfl, hready.ihcmd, hready.ohcmd, rfl, hready.mhinfo, hroom.odLen, hroom.front,
      hroom.back⟩, htakes.idle, hsegments _ hroom.odLen rfl⟩

/-- The number of segments of a request that fits. -/
private theorem segments_bounds {n od : ℕ} (hod : Dl.StackOdLen od) (hpos : 0 < n) (hn : n ≤ 241) :
    0 < (n + od - 1) / od ∧ (n + od - 1) / od < 255 := by
  rcases hod with rfl | rfl | rfl | rfl
  · omega
  · omega
  · omega
  · omega

/-- **Segmentation.** As long as nothing diverts it, a request that fits is sent segment by
segment, exactly as it was encoded. -/
theorem segmented_of_undiverted {dl : Dl} {vl : IsduVl} {od : ℕ} (htakes : dl.TakesIsdu vl)
    (hfit : vl.encodedSize ≤ isduMaxSize) (hod : Dl.StackOdLen od) (hready : ReadyToSend dl od)
    {underway : Bool} {r : OdRun}
    (hr : Runs.Reaches step Undiverted ⟨(dl.isduTransportReq vl).2, underway, []⟩ r) :
    r.Segmented vl.octets od := by
  obtain ⟨hsending, hidle, hsegments⟩ := started htakes hfit hready
  obtain ⟨hlen, hoctets, -⟩ := Dl.isduTransportReq_of_takes htakes hfit
  have hsize : narrow8 vl.encodedSize = vl.encodedSize :=
    narrow8_of_lt (Nat.lt_of_le_of_lt hfit (by decide))
  have hpos : 0 < vl.encodedSize := by
    rw [IsduVl.encodedSize, ← vl.length_front]
    omega
  have hbounds := segments_bounds hod hpos hfit
  have he : Encoded (dl.isduTransportReq vl).2 vl.octets od := by
    rw [hsize, narrow8_of_lt (Nat.lt_trans hbounds.2 (by decide))] at hsegments
    refine ⟨?_, ?_, hod.pos.2, ?_, hsegments ▸ hbounds⟩
    · rw [vl.length_octets, ← hlen]
      exact hoctets
    · rw [vl.length_octets]
      exact hfit
    · rw [vl.length_octets]
      exact hsegments
  have hstart : Tracks (dl.isduTransportReq vl).2 vl.octets od
      ⟨(dl.isduTransportReq vl).2, underway, []⟩ := by
    refine ⟨hsending, rfl, by simp, by simp, Nat.zero_le _, .inr ⟨.inl ⟨hidle, rfl⟩, ?_⟩⟩
    intro hzero
    exact absurd hzero (Nat.ne_of_lt he.bounds.1)
  have htracks := hr.invariant (Tracks (dl.isduTransportReq vl).2 vl.octets od) hstart
    fun _ _ h hi => h.step he hi
  exact htracks.segmented he

/-- One on-request octet and one input octet in a message of OPERATE. -/
def operateVl : ModeVl where
  time := 0
  type := .type2V
  pdinputlength := 1
  pdoutputlength := 0
  onreqdatalengthpermessage := 1

/-- The on-request octets of a message of PREOPERATE. -/
def preoperateVl (od : ℕ) : ModeVl where
  time := 0
  type := .type12
  pdinputlength := 0
  pdoutputlength := 0
  onreqdatalengthpermessage := od

/-- Communication is established, and the port goes to PREOPERATE. -/
def intoPreoperate (od : ℕ) : List LinkInput :=
  [.dl (.surroundings { initSdci := true, baudrate := .com2 }), .dl (.setMode .startup operateVl),
    .dl .mdh, .dl .wurq, .dl .mh, .dl (.setMode .preoperate (preoperateVl od)), .dl .mdh]

/-- The device has reported an event in OPERATE, and the port is deactivated. -/
def eventInOperate : List LinkInput :=
  [.dl (.surroundings { initSdci := true, baudrate := .com2 }), .dl (.setMode .startup operateVl),
    .dl .mdh, .dl .wurq, .dl .mh, .dl (.setMode .operate operateVl), .dl .mdh, .dl .timeout,
    .dl (.rxrdy [0x00, 0x00, 0x80]), .dl (.setMode .inactive operateVl), .dl .mdh]

/-- The layer takes the request. -/
private theorem takes_readOfIndex24 (dl : Dl) (hmode : dl.modeHandler.state = .preoperate3)
    (hidle : dl.isduHandler.state = .idle1) : dl.TakesIsdu Dl.readOfIndex24 := by
  refine ⟨?_, by decide, hidle⟩
  rw [hmode]
  exact ⟨MdhSt.noConfusion, MdhSt.noConfusion⟩

/-- Two octets in a message: START with two octets, segment 1 with the third. -/
theorem segmented_readOfIndex24 : ∃ r : OdRun,
    r.dl.isduHandler.state = .isduwait3 ∧ r.sent.map Prod.fst = [flowctrlStart, 1] ∧
      r.Segmented Dl.readOfIndex24.octets 2 := by
  have hready : ReadyToSend (Runs.run Dl.linkStep {} (intoPreoperate 2)) 2 :=
    ⟨by decide +kernel, by decide +kernel, by decide +kernel,
      by decide +kernel, by decide +kernel, by decide +kernel⟩
  have htakes := takes_readOfIndex24 (Runs.run Dl.linkStep {} (intoPreoperate 2))
    (by decide +kernel) (by decide +kernel)
  have hok : Runs.Admissible step Undiverted
      ⟨((Runs.run Dl.linkStep {} (intoPreoperate 2)).isduTransportReq Dl.readOfIndex24).2, false,
        []⟩
      [.master 0, .device 0 false [], .master 0, .device 0 false []] := by
    decide +kernel
  have hreaches := Runs.reaches_run hok
  exact ⟨_, by decide +kernel, by decide +kernel,
    segmented_of_undiverted htakes (by decide) (.inr (.inl rfl)) hready hreaches⟩

/-- **A segment too many.** A device reports an event in OPERATE; the port is deactivated and
started again, with eight on-request octets in a message. The event flag is still set, so the three
octets of a request are followed by a second ISDU write message. -/
theorem second_message_sent :
    (∀ i ∈ eventInOperate ++ intoPreoperate 8, i.Regular) ∧
      ∃ dl r, dl = Runs.run Dl.linkStep {} (eventInOperate ++ intoPreoperate 8) ∧
        dl.TakesIsdu Dl.readOfIndex24 ∧ ReadyToSend dl 8 ∧
        r = Runs.run step ⟨(dl.isduTransportReq Dl.readOfIndex24).2, false, []⟩
          [.master 0, .device 0 false [], .master 0] ∧
        Dl.readOfIndex24.octets.length = 3 ∧ r.sent.map Prod.fst = [flowctrlStart, 1] ∧
        ¬ r.Segmented Dl.readOfIndex24.octets 8 := by
  refine ⟨by decide, _, _, rfl, ?_, ?_, rfl, by decide, by decide +kernel, ?_⟩
  · exact takes_readOfIndex24 _ (by decide +kernel) (by decide +kernel)
  · exact ⟨by decide +kernel, by decide +kernel, by decide +kernel, by decide +kernel,
      by decide +kernel, by decide +kernel⟩
  · intro hseg
    exact absurd hseg.count (by decide +kernel)

end OdRun

end IolHat

import IolHat.DataLink.State

/-!
# The ISDU handler

The master ISDU handler of `iolink_dl.c`, with the two services it is driven by:
`OD_req`, which places on-request data into the next master message, and
`DL_ISDUTransport_req`, which encodes a request into `isdu_data`.

The handler is a state machine (`isduHSm`) called once for every master message to be sent and
once for every device message received; which of the two is told by the trigger of the OD
handler. A request leaves in segments of `od_len` octets (`isduHSmIdle1`,
`isduHSmIsduRequest2`), the response comes back the same way (`isduHSmIsduWait3`,
`isduHSmIsduResponse5`) into the same buffer `isdu_data`.
-/

namespace IolHat

/-- A `uint8_t *` argument: the array it points into and the octets it can reach there. -/
structure OctetPtr where
  array : Fault
  reach : List Octet

/-- The null pointer. -/
def OctetPtr.null : OctetPtr := ⟨.txbuffer, []⟩

namespace Dl

/-! ### `OD_req` -/

/-- The M-sequence control and type octets at the head of `txbuffer`. -/
def mHeader (dl : Dl) (rwdirection : RwDirection) (comchannel : ComChannel) (addressctrl : ℕ) :
    List Octet :=
  [rwdirection.code ||| comchannel.code ||| UInt8.ofNat addressctrl,
    (dl.vars.mseq.code &&& 0xF0) <<< 2]

/-- `OD_req`. -/
def odReq (dl : Dl) (rwdirection : RwDirection) (comchannel : ComChannel) (addressctrl : ℕ)
    (length : ℕ) (data : OctetPtr) : IolinkError × Dl :=
  if length > 32 then (.odlength, dl)
  else if addressctrl > 31 then (.addressInvalid, dl)
  else
    let odLen := dl.messageHandler.odLen
    let dl := dl.writeTx 0 (dl.mHeader rwdirection comchannel addressctrl)
    match comchannel, rwdirection with
    | .process, _ => (.none, dl)
    | _, .write =>
      let dl := dl.modOd ({ · with odTxlen := odLen, odRxlen := 0 })
      let dl := dl.access data.array (length ≤ data.reach.length)
      let dl := dl.access .txbuffer (dl.odHandler.odoutBuffer + max length odLen ≤ rxtxBufferSize)
      (.none, dl.writeTx dl.odHandler.odoutBuffer
        (data.reach.take length ++ List.replicate (odLen - length) 0))
    | _, .read => (.none, dl.modOd ({ · with odTxlen := 0, odRxlen := odLen }))

section OdReq

variable (dl : Dl) (rw : RwDirection) (ch : ComChannel) (a len : ℕ) (p : OctetPtr)

/-- `OD_req` writes the message and its lengths, and reads the octets it is handed; nothing
else of the layer changes. -/
theorem odReq_frame : ∃ tx rx txl fs, (dl.odReq rw ch a len p).2 =
    { dl with
      txbuffer := tx
      odHandler := { dl.odHandler with odRxlen := rx, odTxlen := txl }
      faults := fs } := by
  unfold odReq
  split_ifs
  · exact ⟨_, _, _, _, rfl⟩
  · exact ⟨_, _, _, _, rfl⟩
  · cases ch <;> cases rw <;> exact ⟨_, _, _, _, rfl⟩

@[simp] theorem odReq_modeHandler : (dl.odReq rw ch a len p).2.modeHandler = dl.modeHandler := by
  obtain ⟨_, _, _, _, h⟩ := dl.odReq_frame rw ch a len p; rw [h]

@[simp]
theorem odReq_messageHandler :
    (dl.odReq rw ch a len p).2.messageHandler = dl.messageHandler := by
  obtain ⟨_, _, _, _, h⟩ := dl.odReq_frame rw ch a len p; rw [h]

@[simp] theorem odReq_pdHandler : (dl.odReq rw ch a len p).2.pdHandler = dl.pdHandler := by
  obtain ⟨_, _, _, _, h⟩ := dl.odReq_frame rw ch a len p; rw [h]

@[simp] theorem odReq_cmdHandler : (dl.odReq rw ch a len p).2.cmdHandler = dl.cmdHandler := by
  obtain ⟨_, _, _, _, h⟩ := dl.odReq_frame rw ch a len p; rw [h]

@[simp] theorem odReq_isduHandler : (dl.odReq rw ch a len p).2.isduHandler = dl.isduHandler := by
  obtain ⟨_, _, _, _, h⟩ := dl.odReq_frame rw ch a len p; rw [h]

@[simp]
theorem odReq_eventHandler : (dl.odReq rw ch a len p).2.eventHandler = dl.eventHandler := by
  obtain ⟨_, _, _, _, h⟩ := dl.odReq_frame rw ch a len p; rw [h]

@[simp] theorem odReq_vars : (dl.odReq rw ch a len p).2.vars = dl.vars := by
  obtain ⟨_, _, _, _, h⟩ := dl.odReq_frame rw ch a len p; rw [h]

@[simp] theorem odReq_objects : (dl.odReq rw ch a len p).2.objects = dl.objects := by
  obtain ⟨_, _, _, _, h⟩ := dl.odReq_frame rw ch a len p; rw [h]

@[simp] theorem odReq_rxbuffer : (dl.odReq rw ch a len p).2.rxbuffer = dl.rxbuffer := by
  obtain ⟨_, _, _, _, h⟩ := dl.odReq_frame rw ch a len p; rw [h]

@[simp] theorem odReq_pl : (dl.odReq rw ch a len p).2.pl = dl.pl := by
  obtain ⟨_, _, _, _, h⟩ := dl.odReq_frame rw ch a len p; rw [h]

@[simp] theorem odReq_out : (dl.odReq rw ch a len p).2.out = dl.out := by
  obtain ⟨_, _, _, _, h⟩ := dl.odReq_frame rw ch a len p; rw [h]

@[simp] theorem odReq_odHandler_state :
    (dl.odReq rw ch a len p).2.odHandler.state = dl.odHandler.state := by
  obtain ⟨_, _, _, _, h⟩ := dl.odReq_frame rw ch a len p; rw [h]

@[simp] theorem odReq_odHandler_ohcmd :
    (dl.odReq rw ch a len p).2.odHandler.ohcmd = dl.odHandler.ohcmd := by
  obtain ⟨_, _, _, _, h⟩ := dl.odReq_frame rw ch a len p; rw [h]

@[simp] theorem odReq_odHandler_trigger :
    (dl.odReq rw ch a len p).2.odHandler.trigger = dl.odHandler.trigger := by
  obtain ⟨_, _, _, _, h⟩ := dl.odReq_frame rw ch a len p; rw [h]

/-- A read request hands over no octets, so it cannot leave an array. -/
@[simp]
theorem odReq_read_faults : (dl.odReq .read ch a len p).2.faults = dl.faults := by
  unfold odReq
  split_ifs
  · rfl
  · rfl
  · cases ch <;> rfl

/-- A write request leaves an array only when the octets run out or do not fit the message. -/
theorem mem_odReq_write_faults {f : Fault} (hf : f ∈ (dl.odReq .write ch a len p).2.faults) :
    f ∈ dl.faults ∨ (f = p.array ∧ ¬ len ≤ p.reach.length) ∨ f = .txbuffer := by
  unfold odReq at hf
  split_ifs at hf
  · exact .inl hf
  · exact .inl hf
  · cases ch <;> simp at hf <;> grind

end OdReq

/-- The head octet after a request. -/
theorem odReq_head {dl : Dl} (hroom : 2 ≤ dl.odHandler.odoutBuffer) (rw' : RwDirection)
    (ch : ComChannel) {a len : ℕ} (ha : a ≤ 31) (hlen : len ≤ 32) (p : OctetPtr) :
    (dl.odReq rw' ch a len p).2.txbuffer.get 0 = rw'.code ||| ch.code ||| UInt8.ofNat a := by
  have hhead : ∀ b : Octets.Buffer Octet rxtxBufferSize,
      (b.write 0 (dl.mHeader rw' ch a)).get 0 = rw'.code ||| ch.code ||| UInt8.ofNat a := by
    intro b
    exact (b.write 0 (dl.mHeader rw' ch a)).get_of_slice
      (b.slice_zero_write (show 2 ≤ 64 by decide)) (show 0 < 2 by decide)
  unfold Dl.odReq
  rw [if_neg (Nat.not_lt.mpr hlen), if_neg (Nat.not_lt.mpr ha)]
  cases ch with
  | process => exact hhead _
  | page | diagnosis | isdu =>
    cases rw' with
    | read => exact hhead _
    | write =>
      exact (Octets.Buffer.get_write_of_lt _ _ (Nat.lt_of_lt_of_le Nat.two_pos hroom)).trans
        (hhead _)

/-! ### Reading the ISDU header -/

/-- `calcCHKPDU`. -/
def calcCHKPDU (data : List Octet) (length : ℕ) : Octet :=
  match data.take length with
  | [] => 0
  | d :: ds => ds.foldl (· ^^^ ·) d

theorem calcCHKPDU_eq (data : List Octet) (length : ℕ) :
    calcCHKPDU data length = Octets.xorSum (data.take length) := by
  unfold calcCHKPDU
  cases data.take length with
  | nil => rfl
  | cons d ds => simp [Octets.foldl_xor]

/-- `valid_isdu_checksum`. -/
def validIsduChecksum (dl : Dl) : Bool :=
  calcCHKPDU dl.isduHandler.isduData.cells dl.isduHandler.totalIsduLen = 0

/-- `get_isdu_iserv`. -/
def getIsduIserv (dl : Dl) : Octet := (dl.isduHandler.isduData.get 0 >>> 4) &&& 0x0F

/-- `get_isdu_len`. -/
def getIsduLen (dl : Dl) : ℕ := (dl.isduHandler.isduData.get 0 &&& 0x0F).toNat

/-- `get_isdu_total_len`; `none` where the source returns false. -/
def getIsduTotalLen (dl : Dl) : Option ℕ :=
  let len := if dl.getIsduLen = 1 then (dl.isduHandler.isduData.get 1).toNat else dl.getIsduLen
  if len < 2 ∨ len = 16 then none else some len

/-- The header octets and the check sum octet that `get_isdu_data_length` takes off. -/
def isduOhlen (dl : Dl) : ℕ := if dl.getIsduLen = 1 then 3 else 2

/-- `get_isdu_data_length`: a `uint8_t` subtraction. -/
def getIsduDataLength (dl : Dl) : Option ℕ :=
  dl.getIsduTotalLen.map fun tot => narrow8 (tot + 256 - dl.isduOhlen)

/-- `get_isdu_response_data`, as an offset into `isdu_data`. -/
def getIsduResponseData (dl : Dl) : ℕ := if dl.getIsduLen = 1 then 2 else 1

/-- `get_isdu_total_segments`. -/
def getIsduTotalSegments (dl : Dl) : ℕ :=
  narrow8 ((dl.isduHandler.totalIsduLen + dl.messageHandler.odLen - 1) / dl.messageHandler.odLen)

theorem getIsduTotalLen_congr {dl dl' : Dl}
    (h : dl.isduHandler.isduData = dl'.isduHandler.isduData) :
    dl.getIsduTotalLen = dl'.getIsduTotalLen := by
  unfold getIsduTotalLen getIsduLen
  rw [h]

/-- `valid_isdu_header`. -/
def validIsduHeader (dl : Dl) : Bool :=
  let iserv := dl.getIsduIserv
  let len := dl.getIsduLen
  if iserv = iserviceNoService then !decide (len > 1)
  else if iserv = iserviceWriteResponseNeg ∨ iserv = iserviceWriteResponsePos ∨
      iserv = iserviceReadResponseNeg ∨ iserv = iserviceReadResponsePos then
    !decide ((len = 0 ∨ len > 15) ∨
      (dl.isduHandler.dataDirRead = true ∧
        (iserv = iserviceWriteResponseNeg ∨ iserv = iserviceWriteResponsePos)) ∨
      (dl.isduHandler.dataDirRead = false ∧
        (iserv = iserviceReadResponseNeg ∨ iserv = iserviceReadResponsePos)))
  else false

/-! ### The response timer -/

/-- `IOLINK_ISDU_RESPONSE_TIME`, in microseconds. -/
abbrev isduResponseTime : UInt32 := 5000 * 1000

/-- `isdu_timer_reset`. -/
def isduTimerReset (dl : Dl) : Dl := dl.modIsdu ({ · with isduTimer := 0 })

/-- `isdu_timer_start`: the value 0 means that the timer is off. -/
def isduTimerStart (dl : Dl) : Dl :=
  dl.modIsdu ({ · with isduTimer := if dl.pl.now = 0 then 1 else dl.pl.now })

/-- `isdu_timer_elapsed`. -/
def isduTimerElapsed (dl : Dl) : Bool :=
  dl.pl.now - dl.isduHandler.isduTimer > isduResponseTime && dl.isduHandler.isduTimer != 0

/-! ### Confirmations -/

/-- `DL_ISDUTransport_cnf` without data. -/
def isduTransportCnfNull (dl : Dl) (qualifier : Octet) (errinfo : Status) : Dl :=
  dl.emit (.isduTransportCnf none 0 qualifier errinfo)

/-- `DL_ISDUTransport_cnf` with `length` octets of the response. -/
def isduTransportCnfData (dl : Dl) (length : ℕ) (errinfo : Status) : Dl :=
  dl.emit (.isduTransportCnf
    (some (dl.isduHandler.isduData.slice dl.getIsduResponseData length)) length
    dl.getIsduIserv errinfo)

/-! ### The states -/

/-- The error information `iolink_dl_isdu_h_sm_isdu_error4` reports. -/
def isduErrorInfo (dl : Dl) : Octet × Status :=
  if dl.isduTimerElapsed then (iserviceNoService, .isduTimeout)
  else if dl.modeHandler.mhinfo = .comlost then (iserviceNoService, .noComm)
  else if dl.messageHandler.rwcmd = .isduabort then (iserviceNoService, .isduAbort)
  else if !dl.validIsduHeader then (dl.getIsduIserv, .isduIllegalServicePrimitive)
  else (iserviceNoService, .invalid)

/-- `iolink_dl_isdu_h_sm_isdu_error4`. -/
def isduHSmIsduError4 (dl : Dl) : Dl :=
  if dl.isduHandler.ihcmd = .inactive then dl.modIsdu ({ · with state := .inactive0 })
  else
    let dl := dl.modIsdu ({ · with totalIsduSeg := 0 })
    let dl := (dl.odReq .read .isdu flowctrlAbort 0 .null).2
    let dl := dl.isduTransportCnfNull dl.isduErrorInfo.1 dl.isduErrorInfo.2
    let dl := dl.modMessage ({ · with rwcmd := .none })
    dl.modIsdu ({ · with state := .idle1 })

/-- `iolink_dl_isdu_h_sm_enter_isduerror4`. -/
def isduHSmEnterIsduerror4 (dl : Dl) : Dl :=
  if dl.isduHandler.ihcmd = .inactive then
    let dl := dl.modIsdu ({ · with totalIsduSeg := 0 })
    let dl := dl.isduTransportCnfNull 0 .noComm
    dl.modIsdu ({ · with state := .inactive0 })
  else if dl.odHandler.trigger = .masterMessage then dl.isduHSmIsduError4
  else dl.modIsdu ({ · with state := .isduerror4 })

/-- The confirmation `iolink_dl_isdu_h_sm_reception_complete` gives for what is in the
buffer. -/
def isduResponseCnf (dl : Dl) : Dl :=
  match dl.getIsduDataLength with
  | none => dl.isduTransportCnfData 0 .invalid
  | some length =>
    let dl := dl.access .isduLength (dl.isduOhlen ≤ dl.getIsduTotalLen.getD 0)
    let dl := dl.access .isduData (dl.isduHandler.totalIsduLen ≤ isduMaxSize)
    let errinfo : Status := if dl.validIsduChecksum then .noError else .isduChecksumError
    dl.isduTransportCnfData length errinfo

theorem isduResponseCnf_of_none {dl : Dl} (h : dl.getIsduTotalLen = none) :
    dl.isduResponseCnf = dl.isduTransportCnfData 0 .invalid := by
  rw [isduResponseCnf, getIsduDataLength, h]
  rfl

theorem isduResponseCnf_of_some {dl : Dl} {tot : ℕ} (h : dl.getIsduTotalLen = some tot) :
    dl.isduResponseCnf = ((dl.access .isduLength (dl.isduOhlen ≤ tot)).access .isduData
      (dl.isduHandler.totalIsduLen ≤ isduMaxSize)).isduTransportCnfData
        (narrow8 (tot + 256 - dl.isduOhlen))
        (if dl.validIsduChecksum then .noError else .isduChecksumError) := by
  rw [isduResponseCnf, getIsduDataLength, h]
  rfl

/-- `iolink_dl_isdu_h_sm_reception_complete`. -/
def isduHSmReceptionComplete (dl : Dl) : Dl :=
  let dl := dl.isduResponseCnf
  let dl := dl.modIsdu ({ · with currentIsduSeg := 0, totalIsduSeg := 0 })
  let dl := dl.modMessage ({ · with rwcmd := .none })
  dl.modIsdu ({ · with state := .idle1 })

/-- `iolink_dl_isdu_h_sm_inactive0`. -/
def isduHSmInactive0 (dl : Dl) : Dl :=
  match dl.isduHandler.ihcmd with
  | .active => dl.modIsdu ({ · with totalIsduSeg := 0, currentIsduSeg := 0, state := .idle1 })
  | .inactive => dl

/-- `iolink_dl_isdu_h_sm_idle1`, the handler being deactivated. -/
def isduIdle1Deactivate (dl : Dl) : Dl :=
  let dl :=
    if dl.isduHandler.totalIsduSeg ≠ 0 then
      (dl.isduTransportCnfNull 0 .noComm).modIsdu ({ · with totalIsduSeg := 0 })
    else dl
  dl.modIsdu ({ · with state := .inactive0 })

/-- `iolink_dl_isdu_h_sm_idle1`, a master message being prepared. -/
def isduIdle1MasterMessage (dl : Dl) : Dl :=
  match dl.messageHandler.rwcmd with
  | .isdutransport =>
    let dl := (dl.odReq .write .isdu flowctrlStart dl.messageHandler.odLen
      ⟨.isduData, dl.isduHandler.isduData.suffix 0⟩).2
    dl.modIsdu ({ · with currentIsduSeg := 1, state := .isdurequest2 })
  | .readparam => (dl.odReq .read .page dl.odHandler.dataAddr 0 .null).2
  | .writeparam =>
    (dl.odReq .write .page dl.odHandler.dataAddr 1 ⟨.txbuffer, [dl.odHandler.dataValue]⟩).2
  | _ => (dl.odReq .read .isdu flowctrlIdle1 0 .null).2

/-- `iolink_dl_isdu_h_sm_idle1`, a device message having been received. -/
def isduIdle1DeviceMessage (dl : Dl) : Dl :=
  match dl.messageHandler.rwcmd with
  | .readparam =>
    (dl.emit (.readParamCnf (dl.rxbuffer.get 0) .noError)).modMessage ({ · with rwcmd := .none })
  | .writeparam => (dl.emit (.writeParamCnf .noError)).modMessage ({ · with rwcmd := .none })
  | _ => dl

/-- `iolink_dl_isdu_h_sm_idle1`. -/
def isduHSmIdle1 (dl : Dl) : Dl :=
  if dl.isduHandler.ihcmd = .inactive then dl.isduIdle1Deactivate
  else match dl.odHandler.trigger with
  | .masterMessage => dl.isduIdle1MasterMessage
  | .deviceMessage => dl.isduIdle1DeviceMessage
  | .none => dl

/-- `iolink_dl_isdu_h_sm_isdu_request2`. -/
def isduHSmIsduRequest2 (dl : Dl) : Dl :=
  if dl.messageHandler.rwcmd = .isduabort ∨ dl.modeHandler.mhinfo = .comlost then
    dl.isduHSmEnterIsduerror4
  else match dl.odHandler.trigger with
  | .masterMessage =>
    let seg := dl.isduHandler.currentIsduSeg
    let odLen := dl.messageHandler.odLen
    let dl := (dl.odReq .write .isdu (seg % 16) odLen
      ⟨.isduData, dl.isduHandler.isduData.suffix (odLen * seg)⟩).2
    dl.modIsdu ({ · with currentIsduSeg := narrow8 (seg + 1) })
  | .deviceMessage =>
    if dl.isduHandler.currentIsduSeg ≥ dl.isduHandler.totalIsduSeg then
      dl.isduTimerStart.modIsdu ({ · with currentIsduSeg := 0, state := .isduwait3 })
    else dl
  | .none => dl

/-- The `memcpy` of one received segment into `isdu_data`. -/
def storeSegment (dl : Dl) : Dl :=
  let off := dl.isduHandler.currentIsduSeg * dl.messageHandler.odLen
  let dl := dl.access .rxbuffer (dl.messageHandler.odLen ≤ rxtxBufferSize)
  let dl := dl.access .isduData (off + dl.messageHandler.odLen ≤ isduMaxSize)
  let segment := dl.rxbuffer.slice 0 dl.messageHandler.odLen
  dl.modIsdu fun h => { h with isduData := h.isduData.write off segment }

/-- `get_isdu_total_len` into `total_isdu_len`, by way of a variable that starts at 0. -/
def readTotalLen (dl : Dl) : Dl :=
  let len := dl.getIsduTotalLen.getD 0
  dl.modIsdu ({ · with totalIsduLen := len })

/-- `get_isdu_total_segments` into `total_isdu_seg`. -/
def readTotalSeg (dl : Dl) : Dl :=
  let seg := dl.getIsduTotalSegments
  dl.modIsdu ({ · with totalIsduSeg := seg })

section

variable (dl : Dl)

@[simp] theorem storeSegment_out : dl.storeSegment.out = dl.out := rfl
@[simp] theorem storeSegment_modeHandler : dl.storeSegment.modeHandler = dl.modeHandler := rfl
@[simp] theorem storeSegment_messageHandler :
    dl.storeSegment.messageHandler = dl.messageHandler := rfl
@[simp] theorem readTotalLen_out : dl.readTotalLen.out = dl.out := rfl
@[simp] theorem readTotalLen_faults : dl.readTotalLen.faults = dl.faults := rfl
@[simp] theorem readTotalLen_messageHandler :
    dl.readTotalLen.messageHandler = dl.messageHandler := rfl
@[simp] theorem readTotalLen_modeHandler : dl.readTotalLen.modeHandler = dl.modeHandler := rfl
@[simp] theorem readTotalLen_rxbuffer : dl.readTotalLen.rxbuffer = dl.rxbuffer := rfl
@[simp] theorem readTotalLen_isduHandler : dl.readTotalLen.isduHandler =
    { dl.isduHandler with totalIsduLen := dl.getIsduTotalLen.getD 0 } := rfl
@[simp] theorem readTotalSeg_modeHandler : dl.readTotalSeg.modeHandler = dl.modeHandler := rfl
@[simp] theorem readTotalSeg_rxbuffer : dl.readTotalSeg.rxbuffer = dl.rxbuffer := rfl
@[simp] theorem readTotalSeg_isduHandler : dl.readTotalSeg.isduHandler =
    { dl.isduHandler with totalIsduSeg := dl.getIsduTotalSegments } := rfl
@[simp] theorem readTotalSeg_out : dl.readTotalSeg.out = dl.out := rfl
@[simp] theorem readTotalSeg_faults : dl.readTotalSeg.faults = dl.faults := rfl
@[simp] theorem readTotalSeg_messageHandler :
    dl.readTotalSeg.messageHandler = dl.messageHandler := rfl
@[simp] theorem isduTimerReset_out : dl.isduTimerReset.out = dl.out := rfl
@[simp] theorem isduTimerReset_faults : dl.isduTimerReset.faults = dl.faults := rfl

end

/-- `iolink_dl_isdu_h_sm_isdu_wait3`, a response having begun: the total length is read, though
its octet may not have arrived yet. -/
def isduWait3Response (dl : Dl) : Dl :=
  let dl := dl.readTotalLen
  let dl := (dl.modIsdu ({ · with currentIsduSeg := 1 })).readTotalSeg
  let dl := dl.isduTimerReset
  if dl.isduHandler.currentIsduSeg ≥ dl.isduHandler.totalIsduSeg then dl.isduHSmReceptionComplete
  else dl.modIsdu ({ · with state := .isduresponse5 })

/-- `iolink_dl_isdu_h_sm_isdu_wait3`, a segment having been stored. -/
def isduWait3Stored (dl : Dl) : Dl :=
  if dl.isduHandler.isduData.get 0 = (iserviceNoService <<< 4) ||| 0x01 then dl
  else if dl.isduHandler.isduData.get 0 = 0 then dl.isduTimerReset.isduHSmEnterIsduerror4
  else if dl.validIsduHeader then dl.isduWait3Response
  else dl.isduTimerReset.isduHSmEnterIsduerror4

/-- `iolink_dl_isdu_h_sm_isdu_wait3`. -/
def isduHSmIsduWait3 (dl : Dl) : Dl :=
  if dl.messageHandler.rwcmd = .isduabort then dl.isduTimerReset.isduHSmEnterIsduerror4
  else if dl.isduTimerElapsed ∨ dl.modeHandler.mhinfo = .comlost then dl.isduHSmEnterIsduerror4
  else match dl.odHandler.trigger with
  | .masterMessage =>
    (dl.odReq .read .isdu flowctrlStart dl.messageHandler.odLen
      ⟨.isduData, dl.isduHandler.isduData.suffix 0⟩).2
  | .deviceMessage => dl.storeSegment.isduWait3Stored
  | .none => dl

/-- `iolink_dl_isdu_h_sm_isdu_response5`, a segment having been stored. -/
def isduResponse5Stored (dl : Dl) : Dl :=
  let dl := dl.modIsdu fun h => { h with currentIsduSeg := narrow8 (h.currentIsduSeg + 1) }
  if dl.isduHandler.currentIsduSeg ≥ dl.isduHandler.totalIsduSeg then dl.isduHSmReceptionComplete
  else dl

/-- `iolink_dl_isdu_h_sm_isdu_response5`. -/
def isduHSmIsduResponse5 (dl : Dl) : Dl :=
  if dl.messageHandler.rwcmd = .isduabort ∨ dl.modeHandler.mhinfo = .comlost then
    dl.isduHSmEnterIsduerror4
  else match dl.odHandler.trigger with
  | .masterMessage =>
    (dl.odReq .read .isdu (dl.isduHandler.currentIsduSeg % 16) dl.messageHandler.odLen
      ⟨.isduData, dl.isduHandler.isduData.suffix
        (dl.messageHandler.odLen * dl.isduHandler.currentIsduSeg)⟩).2
  | .deviceMessage =>
    -- the total length is read again before the segment is copied
    dl.readTotalLen.readTotalSeg.storeSegment.isduResponse5Stored
  | .none => dl

/-- `iolink_dl_isdu_h_sm`. -/
def isduHSm (dl : Dl) : Dl :=
  match dl.isduHandler.state with
  | .inactive0 => dl.isduHSmInactive0
  | .idle1 => dl.isduHSmIdle1
  | .isdurequest2 => dl.isduHSmIsduRequest2
  | .isduwait3 => dl.isduHSmIsduWait3
  | .isduerror4 => dl.isduHSmIsduError4
  | .isduresponse5 => dl.isduHSmIsduResponse5

/-- `IH_Conf`: the mode handler activates or deactivates the ISDU handler. -/
def ihConf (dl : Dl) (cmd : HandlerCmd) : Dl := (dl.modIsdu ({ · with ihcmd := cmd })).isduHSm

/-! ### `DL_ISDUTransport_req` -/

end Dl

/-- A `size_t`, of 64 bits, made of an `int`. -/
def sizeOfInt (n : Int) : ℕ := (n % 0x10000000000000000).toNat

namespace IsduVl

/-- `overheadlen` before the extended length octet is counted: I-service, index, subindex and
check sum. -/
def overheadlen (vl : IsduVl) : ℕ :=
  if vl.index < 256 then (if vl.subindex = 0 then 3 else 4) else 5

/-- `iserv`: the direction bit and the form of the index. -/
def iserv (vl : IsduVl) : Octet :=
  (match vl.readwrite with | .read => 0x08 | .write => 0x00) |||
    (if vl.index < 256 then (if vl.subindex = 0 then 0x01 else 0x02) else 0x03)

/-- The length does not fit the nibble, so an extended length octet is needed. -/
def Extended (vl : IsduVl) : Prop := ¬ vl.data.length ≤ 15 - vl.overheadlen

instance (vl : IsduVl) : Decidable vl.Extended := by unfold Extended; infer_instance

/-- The final `overheadlen`. -/
def totalOverhead (vl : IsduVl) : ℕ :=
  if vl.Extended then vl.overheadlen + 1 else vl.overheadlen

/-- The index and subindex octets. -/
def indexOctets (vl : IsduVl) : List Octet :=
  if vl.index > 255 then
    [((vl.index >>> 8) &&& 0xFF).toUInt8, (vl.index &&& 0xFF).toUInt8, vl.subindex]
  else (vl.index &&& 0xFF).toUInt8 :: (if vl.subindex > 0 then [vl.subindex] else [])

/-- The octets in front of the data: I-service and length, extended length, index. -/
def front (vl : IsduVl) : List Octet :=
  if vl.Extended then
    ((vl.iserv <<< 4) ||| 1) :: UInt8.ofNat (vl.data.length + vl.totalOverhead) :: vl.indexOctets
  else
    ((vl.iserv <<< 4) ||| (UInt8.ofNat (vl.data.length + vl.overheadlen) &&& 0x0F)) ::
      vl.indexOctets

/-- `dataoffset`, a `uint8_t`, where the check octet is written. -/
def dataoffset (vl : IsduVl) : ℕ := narrow8 (vl.front.length + vl.data.length)

/-- The length of the last `memset`. -/
def clearedLength (vl : IsduVl) : ℕ := sizeOfInt (isduMaxSize - (vl.dataoffset + 1))

/-- The last `memset` leaves the memory of the process, which is killed by a signal: no address
space has 2 ^ 48 octets. -/
def Kills (vl : IsduVl) : Prop := 0x1000000000000 ≤ vl.clearedLength

instance (vl : IsduVl) : Decidable vl.Kills := inferInstanceAs (Decidable (_ ≤ _))

/-- A negative length becomes a huge one. -/
theorem kills_iff (vl : IsduVl) : vl.Kills ↔ isduMaxSize < vl.dataoffset + 1 := by
  have hlt : vl.dataoffset < 256 := Nat.mod_lt _ (by decide)
  have hmax : isduMaxSize = 241 := rfl
  rw [Kills, clearedLength, sizeOfInt, hmax]
  omega

end IsduVl

namespace Dl

/-- The encoding of a request into `isdu_data`: the front octets and the data over 32 cleared
octets, the check sum behind them, and zeros up to the end of the buffer, if the process survives
the `memset`. The offset of the check sum is a `uint8_t`. -/
def encodeIsdu (dl : Dl) (vl : IsduVl) : Dl :=
  let dataoffset := vl.dataoffset
  let buf := dl.isduHandler.isduData.write 0 (List.replicate odMaxSize 0)
  let buf := buf.write 0 (vl.front ++ vl.data)
  let buf := buf.write dataoffset [calcCHKPDU buf.cells dataoffset]
  let buf :=
    if vl.Kills then buf else buf.write (dataoffset + 1) (List.replicate vl.clearedLength 0)
  let dl := dl.access .isduData (vl.front.length + vl.data.length ≤ isduMaxSize)
  let dl := dl.access .isduData (dataoffset + 1 ≤ isduMaxSize)
  dl.modIsdu ({ · with isduData := buf })

/-- The encoding changes the octets of the buffer only. -/
theorem encodeIsdu_frame (dl : Dl) (vl : IsduVl) : ∃ buf fs, dl.encodeIsdu vl =
    { dl with isduHandler := { dl.isduHandler with isduData := buf }, faults := fs } :=
  ⟨_, _, rfl⟩

/-- `DL_ISDUTransport_req`; without a result if the process is killed before the function
returns. -/
def isduTransportReq (dl : Dl) (vl : IsduVl) : Option IolinkError × Dl :=
  if dl.modeHandler.state = .idle0 ∨ dl.modeHandler.state = .estcom1 then
    (some .comchannelInvalid, dl.isduTransportCnfNull 0 .noComm)
  else if vl.index < 2 then (some .addressInvalid, dl.isduTransportCnfNull 0 .valueOutOfRange)
  else if dl.isduHandler.state ≠ .idle1 then
    (some .incorrectData, dl.isduTransportCnfNull 0 .stateConflict)
  else
    let dl := dl.modIsdu ({ · with dataDirRead := decide (vl.readwrite = RwDirection.read) })
    let dl := dl.encodeIsdu vl
    if vl.Kills then (none, dl)
    else
      let dl := dl.modIsdu ({ · with totalIsduLen := narrow8 (vl.data.length + vl.totalOverhead) })
      let dl := dl.readTotalSeg
      let dl := dl.modIsdu ({ · with currentIsduSeg := 0 })
      let dl := dl.modMessage ({ · with rwcmd := .isdutransport })
      (some .none,
        if dl.modeHandler.state = .preoperate3 then dl.modObjects ({ · with mhEvent := true })
        else dl)

end Dl

end IolHat

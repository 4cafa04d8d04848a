import IolHat.DataLink.Isdu
import IolHat.Lib.IsduFormat

/-!
# The encoding of a request

`DL_ISDUTransport_req` lays a request out in `isdu_data`: three forms of the address, two forms of
the length, data and check octet share running offsets. `IsduVl.octets` is the ISDU it should lay
out. For every request that fits in the buffer the octets in `isdu_data` are these
(`Dl.encodeIsdu_of_fits`), and the standard's reader gets back the request it was made from
(`Dl.isduTransportReq_encodes`).
-/

namespace IolHat

open Octets IsduFormat

/-! ### The layout -/

/-- The direction of a request. -/
def RwDirection.direction : RwDirection → Direction
  | .read => .read
  | .write => .write

namespace IsduVl

variable (vl : IsduVl)

/-- The form of the address. -/
def form : Form :=
  if vl.index < 256 then (if vl.subindex = 0 then .index8 else .index8Sub) else .index16

/-- The request that is meant. -/
def request : Request := ⟨vl.readwrite.direction, vl.index, vl.subindex, vl.data⟩

/-- The size of the encoded request. -/
def encodedSize : ℕ := vl.data.length + vl.totalOverhead

/-- The encoded request: front octets, data and check octet. -/
def octets : List Octet := vl.front ++ vl.data ++ [xorSum (vl.front ++ vl.data)]

/-- An index in one octet. -/
theorem not_gt_of_lt {n : UInt16} (h : n < 256) : ¬ n > 255 := by
  simp only [UInt16.lt_iff_toNat_lt, gt_iff_lt] at h ⊢
  exact Nat.not_lt.mpr (Nat.le_of_lt_succ h)

/-- An index in two octets. -/
theorem gt_of_not_lt {n : UInt16} (h : ¬ n < 256) : n > 255 := by
  simp only [UInt16.lt_iff_toNat_lt, gt_iff_lt] at h ⊢
  exact Nat.lt_of_succ_le (Nat.not_lt.mp h)

theorem pos_of_ne_zero {s : Octet} (h : s ≠ 0) : s > 0 := by
  simp only [UInt8.lt_iff_toNat_lt, gt_iff_lt]
  exact Nat.pos_of_ne_zero fun hz => h (UInt8.toNat_inj.mp hz)

/-- The octets in front of the data and the check sum octet make up the overhead. -/
theorem length_front : vl.front.length + 1 = vl.totalOverhead := by
  have hindex : vl.indexOctets.length + 2 = vl.overheadlen := by
    rw [indexOctets, overheadlen]
    by_cases h : vl.index < 256
    · rw [if_neg (not_gt_of_lt h), if_pos h]
      by_cases h0 : vl.subindex = 0
      · simp [h0]
      · simp [h0, pos_of_ne_zero h0]
    · simp [if_pos (gt_of_not_lt h), if_neg h]
  simp only [front, totalOverhead]
  split_ifs
  · simp only [List.length_cons]; omega
  · simp only [List.length_cons]; omega

/-- The size is that of the format. -/
theorem encodedSize_eq : vl.encodedSize = vl.request.size := by
  obtain ⟨a, ha⟩ : ∃ a, a = if vl.index < 256 then (if vl.subindex = 0 then 1 else 2) else 3 :=
    ⟨_, rfl⟩
  have hoverhead : vl.overheadlen = a + 2 := by
    rw [overheadlen, ha]
    split_ifs <;> rfl
  have hle : a ≤ 3 := by
    rw [ha]
    split_ifs <;> decide
  have hsize : vl.request.size =
      if vl.data.length + a + 2 < 16 then vl.data.length + a + 2
      else vl.data.length + a + 2 + 1 := by
    rw [ha]
    rfl
  have hext : vl.Extended ↔ ¬ vl.data.length ≤ 15 - (a + 2) := by rw [Extended, hoverhead]
  rw [hsize, encodedSize, totalOverhead, if_congr hext rfl rfl, hoverhead]
  split_ifs <;> omega

/-- A request that fits leaves room for its check octet. -/
theorem not_kills_of_fits {vl : IsduVl} (hfit : vl.encodedSize ≤ isduMaxSize) : ¬ vl.Kills := by
  have hfront := vl.length_front
  have hmax : isduMaxSize = 241 := rfl
  rw [encodedSize, hmax] at hfit
  rw [kills_iff, dataoffset, hmax, narrow8_of_lt (by omega)]
  omega

theorem length_octets : vl.octets.length = vl.encodedSize := by
  have hfront := vl.length_front
  simp only [octets, encodedSize, List.length_append, List.length_singleton]
  omega

/-- The I-service is that of the direction and the form. -/
theorem iserv_eq : vl.iserv = service vl.readwrite.direction vl.form := by
  rw [iserv, form]
  split_ifs <;> cases vl.readwrite <;> rfl

/-- A mask of one octet does nothing before the conversion to one. -/
private theorem toUInt8_and (n : UInt16) : (n &&& 0xFF).toUInt8 = n.toUInt8 := by
  refine UInt8.toNat_inj.mp ?_
  have hmask : (0xFF : UInt16).toNat = 2 ^ 8 - 1 := rfl
  rw [UInt16.toNat_toUInt8, UInt16.toNat_and, hmask, Nat.and_two_pow_sub_one_eq_mod,
    UInt16.toNat_toUInt8, Nat.mod_mod]

/-- The address octets are read back. -/
theorem parseAddress_indexOctets (rest : List Octet) :
    parseAddress vl.form (vl.indexOctets ++ rest) = some (vl.index, vl.subindex, rest) := by
  simp only [form, indexOctets, toUInt8_and]
  by_cases h : vl.index < 256
  · have hindex : vl.index.toUInt8.toUInt16 = vl.index := by
      rw [UInt16.lt_iff_toNat_lt] at h
      refine UInt16.toNat_inj.mp ?_
      rw [UInt8.toNat_toUInt16, UInt16.toNat_toUInt8]
      exact Nat.mod_eq_of_lt h
    rw [if_pos h, if_neg (not_gt_of_lt h)]
    by_cases h0 : vl.subindex = 0
    · simp [h0, parseAddress, hindex]
    · simp [h0, pos_of_ne_zero h0, parseAddress, hindex]
  · rw [if_neg h, if_pos (gt_of_not_lt h)]
    simp only [List.cons_append, List.nil_append, parseAddress, ofNat_octets]

/-- A header octet holds the service and the nibble. -/
private theorem header_nibbles (d : Direction) (f : Form) (n : Fin 16) :
    (service d f <<< 4 ||| UInt8.ofNat n) >>> 4 = service d f ∧
      (service d f <<< 4 ||| UInt8.ofNat n) &&& 0x0F = UInt8.ofNat n := by
  revert n
  cases d <;> cases f <;> decide

private theorem ofNat_and (n : Fin 16) : UInt8.ofNat n &&& 0x0F = UInt8.ofNat n := by
  revert n
  decide

/-- **The length field** counts the octets, and the address comes after it. -/
theorem parseLength_octets (hfit : vl.encodedSize < 256) :
    vl.octets.headD 0 >>> 4 = service vl.readwrite.direction vl.form ∧
      parseLength vl.octets = some (vl.octets.length,
        vl.indexOctets ++ (vl.data ++ [xorSum (vl.front ++ vl.data)])) := by
  have hoverhead : 3 ≤ vl.overheadlen ∧ vl.overheadlen ≤ 5 := by
    rw [overheadlen]
    split_ifs <;> decide
  rw [length_octets, octets]
  generalize xorSum (vl.front ++ vl.data) = check
  -- The length is in the low nibble, or in an octet of its own behind a 1.
  by_cases hext : vl.Extended
  · have hlow : (service vl.readwrite.direction vl.form <<< 4 ||| 1) &&& 0x0F = 1 :=
      (header_nibbles _ _ 1).2
    have hsize : vl.encodedSize = vl.data.length + (vl.overheadlen + 1) := by
      rw [encodedSize, totalOverhead, if_pos hext]
    have hlen : (UInt8.ofNat vl.encodedSize).toNat = vl.encodedSize := by
      rw [UInt8.toNat_ofNat']
      exact Nat.mod_eq_of_lt hfit
    have hlong : 17 ≤ (UInt8.ofNat vl.encodedSize).toNat := by
      rw [Extended] at hext
      omega
    have hfront : vl.front ++ vl.data ++ [check] = ((vl.iserv <<< 4) ||| 1) ::
        UInt8.ofNat vl.encodedSize :: (vl.indexOctets ++ (vl.data ++ [check])) := by
      rw [front, if_pos hext, encodedSize, List.cons_append, List.cons_append, List.cons_append,
        List.cons_append, List.append_assoc]
    rw [hfront, iserv_eq]
    refine ⟨(header_nibbles _ _ 1).1, ?_⟩
    simp only [parseLength]
    rw [if_pos hlow, if_pos hlong, hlen]
  · have hsize : vl.encodedSize = vl.data.length + vl.overheadlen := by
      rw [encodedSize, totalOverhead, if_neg hext]
    have hshort : vl.encodedSize < 16 := by
      rw [Extended] at hext
      omega
    obtain ⟨hhigh, hlow⟩ := header_nibbles vl.readwrite.direction vl.form ⟨_, hshort⟩
    have hlen : (UInt8.ofNat vl.encodedSize).toNat = vl.encodedSize := by
      rw [UInt8.toNat_ofNat']
      exact Nat.mod_eq_of_lt hfit
    have hone : UInt8.ofNat vl.encodedSize ≠ 1 := by
      intro h
      have h1 := congrArg UInt8.toNat h
      rw [hlen] at h1
      change vl.encodedSize = 1 at h1
      omega
    have hfront : vl.front ++ vl.data ++ [check] = ((vl.iserv <<< 4) |||
        UInt8.ofNat vl.encodedSize) :: (vl.indexOctets ++ (vl.data ++ [check])) := by
      rw [front, if_neg hext, ← hsize, ofNat_and ⟨_, hshort⟩, List.cons_append, List.cons_append,
        List.append_assoc]
    rw [hfront, iserv_eq]
    refine ⟨hhigh, ?_⟩
    have hthree : 3 ≤ (UInt8.ofNat vl.encodedSize).toNat := by omega
    simp only [parseLength]
    rw [hlow, if_neg hone, if_pos hthree, hlen]

/-- **The encoding is read back.** -/
theorem parse_octets (hfit : vl.encodedSize < 256) : parse vl.octets = some vl.request := by
  obtain ⟨hservice, hlen⟩ := vl.parseLength_octets hfit
  exact parse_of_layout hservice hlen (vl.parseAddress_indexOctets _) (xorSum_append_self _)

end IsduVl

namespace Dl

variable (dl : Dl) (vl : IsduVl)

/-- **A request that fits** is laid out in the buffer, and nothing is written behind it. -/
theorem encodeIsdu_of_fits (hfit : vl.encodedSize ≤ isduMaxSize) :
    ∃ buf, dl.encodeIsdu vl = dl.modIsdu ({ · with isduData := buf }) ∧
      buf.slice 0 vl.encodedSize = vl.octets := by
  have hfront := vl.length_front
  obtain ⟨n, hn⟩ : ∃ n, n = vl.front.length + vl.data.length := ⟨_, rfl⟩
  have hsize : vl.encodedSize = n + 1 := by
    rw [IsduVl.encodedSize]
    omega
  have hlt : n < 241 := by
    have : n + 1 ≤ 241 := hsize ▸ hfit
    omega
  have hnarrow : vl.dataoffset = n := by
    rw [IsduVl.dataoffset, ← hn]
    exact narrow8_of_lt (by omega)
  have hlen : (vl.front ++ vl.data).length = n := by rw [List.length_append, hn]
  simp only [encodeIsdu, hnarrow, if_neg (IsduVl.not_kills_of_fits hfit)]
  rw [access_of_inside dl .isduData (decide_eq_true (hn ▸ Nat.le_of_lt hlt)),
    access_of_inside dl .isduData (decide_eq_true (show n + 1 ≤ 241 from hlt))]
  refine ⟨_, rfl, ?_⟩
  generalize dl.isduHandler.isduData.write 0 (List.replicate odMaxSize 0) = cleared
  have hdata : (cleared.write 0 (vl.front ++ vl.data)).slice 0 n = vl.front ++ vl.data := by
    rw [← hlen]
    exact Buffer.slice_zero_write _ (by rw [hlen]; exact Nat.le_of_lt hlt)
  have hcheck : calcCHKPDU (cleared.write 0 (vl.front ++ vl.data)).cells n =
      xorSum (vl.front ++ vl.data) := by
    rw [calcCHKPDU_eq]
    exact congrArg xorSum hdata
  rw [hsize, Buffer.slice_write_of_le _ _ (Nat.le_refl _), hcheck]
  have hwrite := Buffer.slice_write (cleared.write 0 (vl.front ++ vl.data)) n
    [xorSum (vl.front ++ vl.data)] hlt
  rw [hdata] at hwrite
  exact hwrite

/-- The states in which a request is taken. -/
structure TakesIsdu : Prop where
  mode : dl.modeHandler.state ≠ .idle0 ∧ dl.modeHandler.state ≠ .estcom1
  index : 2 ≤ vl.index
  idle : dl.isduHandler.state = .idle1

instance : Decidable (dl.TakesIsdu vl) :=
  decidable_of_iff ((dl.modeHandler.state ≠ .idle0 ∧ dl.modeHandler.state ≠ .estcom1) ∧
    2 ≤ vl.index ∧ dl.isduHandler.state = .idle1)
    ⟨fun h => ⟨h.1, h.2.1, h.2.2⟩, fun h => ⟨h.mode, h.index, h.idle⟩⟩

/-- The octets of the request that is being sent. -/
def isduOctets : List Octet := dl.isduHandler.isduData.slice 0 dl.isduHandler.totalIsduLen

/-- The result in these states. -/
theorem isduTransportReq_result_of_takes (h : dl.TakesIsdu vl) :
    (dl.isduTransportReq vl).1 = if vl.Kills then none else some .none := by
  have hmode : ¬ (dl.modeHandler.state = .idle0 ∨ dl.modeHandler.state = .estcom1) :=
    not_or.mpr h.mode
  have hindex : ¬ vl.index < 2 := by
    rw [UInt16.lt_iff_toNat_lt, Nat.not_lt]
    exact h.index
  simp only [isduTransportReq, if_neg hmode, if_neg hindex, if_neg (not_not.mpr h.idle)]
  split_ifs
  · rfl
  · rfl
  · rfl

/-- In the other states a request is confirmed negatively at once, and nothing else happens. -/
theorem isduTransportReq_of_refused (h : ¬ dl.TakesIsdu vl) :
    (∃ e, e ≠ IolinkError.none ∧ (dl.isduTransportReq vl).1 = some e) ∧
      ∃ errinfo ∈ [Status.noComm, .valueOutOfRange, .stateConflict],
        (dl.isduTransportReq vl).2 = dl.isduTransportCnfNull 0 errinfo := by
  rw [isduTransportReq]
  split_ifs with hmode hlow hstate
  · exact ⟨⟨_, IolinkError.noConfusion, rfl⟩, .noComm, by decide, rfl⟩
  · exact ⟨⟨_, IolinkError.noConfusion, rfl⟩, .valueOutOfRange, by decide, rfl⟩
  · exact ⟨⟨_, IolinkError.noConfusion, rfl⟩, .stateConflict, by decide, rfl⟩
  all_goals
    refine absurd ⟨not_or.mp hmode, ?_, not_not.mp hstate⟩ h
    rwa [UInt16.lt_iff_toNat_lt, Nat.not_lt] at hlow

/-- A request is accepted in these states only, if the process survives it. -/
theorem isduTransportReq_accepts_iff :
    (dl.isduTransportReq vl).1 = some .none ↔ dl.TakesIsdu vl ∧ ¬ vl.Kills := by
  by_cases h : dl.TakesIsdu vl
  · rw [isduTransportReq_result_of_takes dl vl h]
    split_ifs with hkills
    · exact iff_of_false nofun fun hand => hand.2 hkills
    · exact iff_of_true rfl ⟨h, hkills⟩
  · obtain ⟨⟨e, he, hresult⟩, -⟩ := isduTransportReq_of_refused dl vl h
    rw [hresult]
    exact iff_of_false (fun heq => he (Option.some.inj heq)) fun hand => h hand.1

variable {dl vl}

/-- The ISDU handler of an accepted request, and the log of faults. -/
private theorem isduTransportReq_accepted (h : (dl.isduTransportReq vl).1 = some .none) :
    ∃ d : Dl, d = (dl.modIsdu ({ · with
        dataDirRead := decide (vl.readwrite = RwDirection.read) })).encodeIsdu vl ∧
      (dl.isduTransportReq vl).2.isduHandler.totalIsduLen = narrow8 vl.encodedSize ∧
      (dl.isduTransportReq vl).2.isduHandler.isduData = d.isduHandler.isduData ∧
      (dl.isduTransportReq vl).2.faults = d.faults := by
  obtain ⟨htakes, hkills⟩ := (isduTransportReq_accepts_iff dl vl).mp h
  have hmode : ¬ (dl.modeHandler.state = .idle0 ∨ dl.modeHandler.state = .estcom1) :=
    not_or.mpr htakes.mode
  have hindex : ¬ vl.index < 2 := by
    rw [UInt16.lt_iff_toNat_lt, Nat.not_lt]
    exact htakes.index
  have hidle : ¬ dl.isduHandler.state ≠ .idle1 := not_not.mpr htakes.idle
  refine ⟨_, rfl, ?_⟩
  simp only [isduTransportReq, if_neg hmode, if_neg hindex, if_neg hidle, if_neg hkills]
  split_ifs <;> simp [IsduVl.encodedSize]

/-- The length of an accepted request goes into a `uint8_t`. -/
theorem isduTransportReq_totalIsduLen (h : (dl.isduTransportReq vl).1 = some .none) :
    (dl.isduTransportReq vl).2.isduHandler.totalIsduLen = narrow8 vl.encodedSize := by
  obtain ⟨-, -, hlen, -, -⟩ := isduTransportReq_accepted h
  exact hlen

/-- What an accepted request leaves in the ISDU handler. -/
theorem isduTransportReq_of_takes (h : dl.TakesIsdu vl) (hfit : vl.encodedSize ≤ isduMaxSize) :
    (dl.isduTransportReq vl).2.isduHandler.totalIsduLen = vl.encodedSize ∧
      (dl.isduTransportReq vl).2.isduOctets = vl.octets ∧
      (dl.isduTransportReq vl).2.faults = dl.faults := by
  obtain ⟨d, hd, hlen, hdata, hfaults⟩ := isduTransportReq_accepted
    ((isduTransportReq_accepts_iff dl vl).mpr ⟨h, IsduVl.not_kills_of_fits hfit⟩)
  obtain ⟨buf, henc, hbuf⟩ := encodeIsdu_of_fits
    (dl.modIsdu ({ · with dataDirRead := decide (vl.readwrite = RwDirection.read) })) vl hfit
  rw [henc] at hd
  have hsize : narrow8 vl.encodedSize = vl.encodedSize :=
    narrow8_of_lt (Nat.lt_of_le_of_lt hfit (by decide))
  refine ⟨hlen.trans hsize, ?_, ?_⟩
  · rw [isduOctets, hlen, hsize, hdata, hd]
    exact hbuf
  · rw [hfaults, hd]
    rfl

/-- **The encoding of a request.** A request that fits is encoded by octets whose exclusive-or is
0, whose I-service is that of its direction and address, whose length field counts them, and from
which it can be read back; no octet is written outside the buffer. -/
theorem isduTransportReq_encodes (h : dl.TakesIsdu vl) (hfit : vl.encodedSize ≤ isduMaxSize) :
    (dl.isduTransportReq vl).1 = some .none ∧
      (dl.isduTransportReq vl).2.isduHandler.totalIsduLen = vl.encodedSize ∧
      (dl.isduTransportReq vl).2.isduOctets.length = vl.encodedSize ∧
      xorSum (dl.isduTransportReq vl).2.isduOctets = 0 ∧
      (dl.isduTransportReq vl).2.isduOctets.headD 0 >>> 4 =
        service vl.readwrite.direction vl.form ∧
      (parseLength (dl.isduTransportReq vl).2.isduOctets).map Prod.fst =
        some (dl.isduTransportReq vl).2.isduHandler.totalIsduLen ∧
      parse (dl.isduTransportReq vl).2.isduOctets = some vl.request ∧
      (dl.isduTransportReq vl).2.faults = dl.faults := by
  obtain ⟨hlen, hoctets, hfaults⟩ := isduTransportReq_of_takes h hfit
  have hlt : vl.encodedSize < 256 := Nat.lt_of_le_of_lt hfit (by decide)
  obtain ⟨hservice, hlength⟩ := vl.parseLength_octets hlt
  rw [hlen, hoctets, hlength]
  refine ⟨(isduTransportReq_accepts_iff dl vl).mpr ⟨h, IsduVl.not_kills_of_fits hfit⟩, rfl,
    vl.length_octets, ?_, hservice, ?_, vl.parse_octets hlt, hfaults⟩
  · exact xorSum_append_self _
  · rw [Option.map_some, vl.length_octets]

/-- Write eleven octets to index 0x134, subindex 2: the shortest ISDU with an extended length. -/
def writeOf11Octets : IsduVl where
  index := 0x134
  subindex := 2
  data := List.replicate 11 7
  length_lt := Nat.le_of_ble_eq_true rfl
  readwrite := .write

/-- Read index 24, subindex 0. -/
def readOfIndex24 : IsduVl where
  index := 24
  subindex := 0
  data := []
  length_lt := by decide
  readwrite := .read

/-- A handler in OPERATE that takes requests. -/
def operatingHandler : Dl where
  modeHandler := { state := .operate4, dlMode := .operate }
  isduHandler := { state := .idle1, ihcmd := .active }

/-- The request is encoded in 17 octets and read back. -/
theorem encodes_writeOf11Octets :
    (operatingHandler.isduTransportReq writeOf11Octets).2.isduHandler.totalIsduLen = 17 ∧
      parse (operatingHandler.isduTransportReq writeOf11Octets).2.isduOctets =
        some ⟨.write, 0x134, 2, List.replicate 11 7⟩ := by
  have htakes : operatingHandler.TakesIsdu writeOf11Octets :=
    ⟨⟨MdhSt.noConfusion, MdhSt.noConfusion⟩, by decide, rfl⟩
  obtain ⟨-, hlen, -, -, -, -, hparse, -⟩ := isduTransportReq_encodes htakes (by decide)
  exact ⟨hlen, hparse⟩

end Dl

end IolHat

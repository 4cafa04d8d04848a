import IolHat.Application.Clients

/-!
# The other calls of the clients

What `iol-hat.c` and `iolhat.py` offer besides reading and writing parameters: power, LEDs, process
data and the three status commands. Every call sends one message to the server of one chip and
decodes one reply; most calls take every reply they do not know for a success.

The status record travels as it lies in the memory of the server, packed and little-endian.
`IolStatus.ofOctets` and `PyStatus.fromBuffer` are how the clients read it (`ofOctets_octets`,
`fromBuffer_octets`).
-/

namespace IolHat

open Octets

/-- What comes of a message that is sent to a TCP port. -/
inductive Recv
  /-- `socket`, `connect` or `send` has failed. -/
  | unreachable
  /-- `recv` has failed. -/
  | lost
  /-- The octets received, none if the connection was closed. -/
  | received (octets : List Octet)

/-- The network, and what it does to the servers. -/
abbrev Wire (σ : Type) := ℕ → List Octet → σ → Recv × σ

/-! ### The status record -/

/-- One octet of a word, at its place. -/
theorem getLsbD_octet {w : ℕ} (v : BitVec w) {k i : ℕ} (hi : i < w) :
    ((((v >>> k).setWidth 8).setWidth w) <<< k).getLsbD i =
      (v.getLsbD i && decide (k ≤ i ∧ i < k + 8)) := by
  by_cases hk : k ≤ i
  · have h : k + (i - k) = i := by omega
    have hw : i - k < w := by omega
    have h8 : i - k < 8 ↔ i < k + 8 := by omega
    simp [hk, hi, h, hw, h8, Nat.not_lt.mpr hk, Bool.and_comm]
  · simp [hk, Nat.lt_of_not_le hk]

namespace IolStatus

/-- The packed record read from memory. -/
def ofOctets (octets : List Octet) : IolStatus where
  pdInValid := octetOf octets 0
  pdOutValid := octetOf octets 1
  transmissionRate := octetOf octets 2
  masterCycleTime := octetOf octets 3
  pdInLength := octetOf octets 4
  pdOutLength := octetOf octets 5
  vendorId := (octetOf octets 6).toUInt16 ||| ((octetOf octets 7).toUInt16 <<< 8)
  deviceId := (octetOf octets 8).toUInt32 ||| ((octetOf octets 9).toUInt32 <<< 8) |||
    ((octetOf octets 10).toUInt32 <<< 16) ||| ((octetOf octets 11).toUInt32 <<< 24)
  power := octetOf octets 12
  error := octetOf octets 13

theorem vendorId_octets (v : UInt16) :
    v.toUInt8.toUInt16 ||| ((v >>> 8).toUInt8.toUInt16 <<< 8) = v := by
  apply UInt16.toBitVec_inj.mp
  apply BitVec.eq_of_getLsbD_eq
  intro i hi
  have hlow := getLsbD_octet v.toBitVec (k := 0) hi
  rw [BitVec.ushiftRight_zero, BitVec.shiftLeft_zero] at hlow
  have hbits : (v.toUInt8.toUInt16 ||| ((v >>> 8).toUInt8.toUInt16 <<< 8)).toBitVec =
      (v.toBitVec.setWidth 8).setWidth 16 |||
        (((v.toBitVec >>> 8).setWidth 8).setWidth 16) <<< 8 := rfl
  rw [hbits, BitVec.getLsbD_or, hlow, getLsbD_octet v.toBitVec hi, ← Bool.and_or_distrib_left]
  simp
  omega

theorem deviceId_octets (v : UInt32) :
    v.toUInt8.toUInt32 ||| ((v >>> 8).toUInt8.toUInt32 <<< 8) |||
      ((v >>> 16).toUInt8.toUInt32 <<< 16) ||| ((v >>> 24).toUInt8.toUInt32 <<< 24) = v := by
  apply UInt32.toBitVec_inj.mp
  apply BitVec.eq_of_getLsbD_eq
  intro i hi
  have hoctet {k : ℕ} := getLsbD_octet v.toBitVec (k := k) hi
  have hlow := hoctet (k := 0)
  rw [BitVec.ushiftRight_zero, BitVec.shiftLeft_zero] at hlow
  have hbits : (v.toUInt8.toUInt32 ||| ((v >>> 8).toUInt8.toUInt32 <<< 8) |||
      ((v >>> 16).toUInt8.toUInt32 <<< 16) ||| ((v >>> 24).toUInt8.toUInt32 <<< 24)).toBitVec =
      (v.toBitVec.setWidth 8).setWidth 32 |||
        (((v.toBitVec >>> 8).setWidth 8).setWidth 32) <<< 8 |||
        (((v.toBitVec >>> 16).setWidth 8).setWidth 32) <<< 16 |||
          (((v.toBitVec >>> 24).setWidth 8).setWidth 32) <<< 24 := rfl
  rw [hbits, BitVec.getLsbD_or, BitVec.getLsbD_or, BitVec.getLsbD_or, hlow, hoctet, hoctet, hoctet,
    ← Bool.and_or_distrib_left, ← Bool.and_or_distrib_left, ← Bool.and_or_distrib_left]
  simp
  omega

/-- The record is read as it was written. -/
theorem ofOctets_octets (st : IolStatus) : ofOctets st.octets = st := by
  obtain ⟨i, o, t, c, il, ol, v, d, p, e⟩ := st
  simp only [ofOctets, octets, octetOf, List.getD_cons_zero, List.getD_cons_succ]
  rw [vendorId_octets, deviceId_octets]

/-- The same without its last octet. -/
theorem ofOctets_dropLast (st : IolStatus) :
    ofOctets st.octets.dropLast = { st with error := 0 } := by
  obtain ⟨i, o, t, c, il, ol, v, d, p, e⟩ := st
  simp only [ofOctets, octets, octetOf, List.dropLast_cons_cons, List.dropLast_singleton,
    List.getD_cons_zero, List.getD_cons_succ, List.getD_nil]
  rw [vendorId_octets, deviceId_octets]

end IolStatus

/-- `IolStatus` of the Python module. -/
structure PyStatus where
  pdInValid : ℕ
  pdOutValid : ℕ
  transmissionRate : ℕ
  masterCycleTime : ℕ
  pdInLength : ℕ
  pdOutLength : ℕ
  vendorId : ℕ
  deviceId : ℕ
  power : ℕ
  /-- `None` after `CMD_STATUS`. -/
  error : Option ℕ
  deriving DecidableEq

namespace PyStatus

/-- `int.from_bytes` with `byteorder='little'`. -/
def fromBytes (octets : List Octet) : ℕ := octets.foldr (fun a n => a.toNat + 256 * n) 0

/-- `IolStatus.from_buffer`; `none` when it raises. -/
def fromBuffer (buffer : List Octet) : Option PyStatus :=
  if buffer.length < 13 then none
  else some {
    pdInValid := (octetOf buffer 0).toNat
    pdOutValid := (octetOf buffer 1).toNat
    transmissionRate := (octetOf buffer 2).toNat
    masterCycleTime := (octetOf buffer 3).toNat
    pdInLength := (octetOf buffer 4).toNat
    pdOutLength := (octetOf buffer 5).toNat
    vendorId := fromBytes ((buffer.drop 6).take 2)
    deviceId := fromBytes ((buffer.drop 8).take 4)
    power := (octetOf buffer 12).toNat
    error := if 14 ≤ buffer.length then some (octetOf buffer 13).toNat else none }

/-- A status record as the Python module shows it. -/
def ofStatus (st : IolStatus) (error : Option ℕ) : PyStatus where
  pdInValid := st.pdInValid.toNat
  pdOutValid := st.pdOutValid.toNat
  transmissionRate := st.transmissionRate.toNat
  masterCycleTime := st.masterCycleTime.toNat
  pdInLength := st.pdInLength.toNat
  pdOutLength := st.pdOutLength.toNat
  vendorId := st.vendorId.toNat
  deviceId := st.deviceId.toNat
  power := st.power.toNat
  error := error

theorem fromBytes_vendorId (v : UInt16) : fromBytes [v.toUInt8, (v >>> 8).toUInt8] = v.toNat := by
  have hv := v.toNat_lt
  have hhigh : (v >>> 8).toUInt8.toNat = v.toNat / 256 % 256 := by
    rw [UInt16.toNat_toUInt8, UInt16.toNat_shiftRight, Nat.shiftRight_eq_div_pow]
    rfl
  have hlow : v.toUInt8.toNat = v.toNat % 256 := UInt16.toNat_toUInt8 v
  simp only [fromBytes, List.foldr_cons, List.foldr_nil, hhigh, hlow]
  omega

theorem fromBytes_deviceId (v : UInt32) :
    fromBytes [v.toUInt8, (v >>> 8).toUInt8, (v >>> 16).toUInt8, (v >>> 24).toUInt8] = v.toNat := by
  have hv := v.toNat_lt
  have h0 : v.toUInt8.toNat = v.toNat % 256 := UInt32.toNat_toUInt8 v
  have h8 : (v >>> 8).toUInt8.toNat = v.toNat / 256 % 256 := by
    rw [UInt32.toNat_toUInt8, UInt32.toNat_shiftRight, Nat.shiftRight_eq_div_pow]
    rfl
  have h16 : (v >>> 16).toUInt8.toNat = v.toNat / 65536 % 256 := by
    rw [UInt32.toNat_toUInt8, UInt32.toNat_shiftRight, Nat.shiftRight_eq_div_pow]
    rfl
  have h24 : (v >>> 24).toUInt8.toNat = v.toNat / 16777216 % 256 := by
    rw [UInt32.toNat_toUInt8, UInt32.toNat_shiftRight, Nat.shiftRight_eq_div_pow]
    rfl
  simp only [fromBytes, List.foldr_cons, List.foldr_nil, h0, h8, h16, h24]
  omega

/-- The record is read as it was written, with or without its last octet. -/
theorem fromBuffer_octets (st : IolStatus) :
    fromBuffer st.octets = some (ofStatus st (some st.error.toNat)) ∧
      fromBuffer st.octets.dropLast = some (ofStatus st none) := by
  have hvendor := fromBytes_vendorId st.vendorId
  have hdevice := fromBytes_deviceId st.deviceId
  constructor
  · have hlen : ¬ st.octets.length < 13 := Nat.not_lt.mpr (Nat.le_of_ble_eq_true rfl)
    rw [fromBuffer, if_neg hlen, ofStatus, ← hvendor, ← hdevice]
    rfl
  · have hlen : ¬ st.octets.dropLast.length < 13 := Nat.not_lt.mpr (Nat.le_of_ble_eq_true rfl)
    rw [fromBuffer, if_neg hlen, ofStatus, ← hvendor, ← hdevice]
    rfl

end PyStatus

/-! ### The C client -/

namespace CClient

variable {σ : Type} (wire : Wire σ)

/-- `_port`, as the server of its chip numbers it. -/
def chipPort (port : Octet) : Octet := if 2 ≤ port then port - 2 else port

/-- `power` and `led`: a message of three octets. A reply of two octets is reported and taken for a
success all the same. -/
def setChannel (command maxStatus port status : Octet) (s : σ) : ℤ × σ :=
  if 3 < port then (cmdFail, s)
  else if maxStatus < status then (cmdFail, s)
  else
    match wire (tcpPort port) [command, chipPort port, status] s with
    | (.unreachable, s) => (cmdFail, s)
    | (.lost, s) => (cmdSuccess, s)
    | (.received _, s) => (cmdSuccess, s)

/-- `power`. -/
def power (port status : Octet) : σ → ℤ × σ := setChannel wire Cmd.pwr 1 port status

/-- `led`. -/
def led (port status : Octet) : σ → ℤ × σ := setChannel wire Cmd.led 2 port status

/-- `pd`, and what it writes to `_pd_in`. `stack` is what `buffer` holds before. -/
def pd (stack : Buffer Octet 1024) (port lenOut lenIn : Octet) (pdOut : List Octet) (s : σ) :
    (ℤ × List Octet) × σ :=
  if 3 < port then ((cmdFail, []), s)
  else
    match wire (tcpPort port)
      ([Cmd.pd, chipPort port, lenOut, lenIn] ++ pdOut.take lenOut.toNat) s with
    | (.unreachable, s) => ((cmdFail, []), s)
    | (.lost, s) => ((cmdSuccess, []), s)
    | (.received reply, s) => ((cmdSuccess, (stack.write 0 reply).slice 4 lenIn.toNat), s)

/-- `readStatus`, and what it writes to `status_data`. -/
def readStatus (port : Octet) (s : σ) : (ℤ × Option IolStatus) × σ :=
  if 3 < port then ((cmdFail, none), s)
  else
    match wire (tcpPort port) [Cmd.status, chipPort port] s with
    | (.unreachable, s) => ((cmdFail, none), s)
    | (.lost, s) => ((cmdFail, none), s)
    | (.received reply, s) =>
      if reply.length ≠ 15 then ((cmdFail, none), s)
      else ((cmdSuccess, some { IolStatus.ofOctets (reply.drop 2) with error := 0 }), s)

/-- `readStatus2`. -/
def readStatus2 (port : Octet) (s : σ) : (ℤ × Option IolStatus) × σ :=
  if 3 < port then ((cmdFail, none), s)
  else
    match wire (tcpPort port) [Cmd.status2, chipPort port] s with
    | (.unreachable, s) => ((cmdFail, none), s)
    | (.lost, s) => ((cmdFail, none), s)
    | (.received reply, s) =>
      if reply.length = 2 then ((cmdFail, none), s)
      else if reply.length ≠ 16 then ((cmdFail, none), s)
      else ((cmdSuccess, some (IolStatus.ofOctets (reply.drop 2))), s)

/-- `readStatus3`. -/
def readStatus3 (chip : Octet) (s : σ) : ℤ × σ :=
  if 1 < chip then (cmdFail, s)
  else
    match wire (if chip = 0 then tcpPort1 else tcpPort2) [Cmd.status3] s with
    | (.unreachable, s) => (cmdFail, s)
    | (.lost, s) => (cmdFail, s)
    | (.received reply, s) =>
      if reply.length ≠ 2 then (cmdFail, s)
      else if octetOf reply 0 = Ret.error then (cmdFail, s)
      else ((octetOf reply 1).toNat, s)

end CClient

/-! ### The Python client -/

namespace PyClient

variable {σ : Type} (wire : Wire σ)

/-- `port`, as the server of its chip numbers it. -/
def chipPort (port : ℤ) : ℤ := if port < 2 then port else port - 2

/-- `power`: an error is printed, and what is not of two octets has to be of three. -/
def power (port status : ℤ) (s : σ) : PyResult × σ :=
  if port ∉ [0, 1, 2, 3] then (.raises, s)
  else if status ∉ [0, 1] then (.raises, s)
  else
    match wire (tcpPort port) [Cmd.pwr, packB (chipPort port), packB status] s with
    | (.received reply, s) =>
      if reply.length = 2 then (.int cmdSuccess, s)
      else if reply.length = 3 then (.int cmdSuccess, s)
      else (.raises, s)
    | (_, s) => (.raises, s)

/-- `led`: an error raises. -/
def led (port status : ℤ) (s : σ) : PyResult × σ :=
  if port ∉ [0, 1, 2, 3] then (.raises, s)
  else if status ∉ [0, 1, 2, 3] then (.raises, s)
  else
    match wire (tcpPort port) [Cmd.led, packB (chipPort port), packB status] s with
    | (.received reply, s) =>
      if reply.length = 2 then (.raises, s)
      else if reply.length = 3 then (.int cmdSuccess, s)
      else (.raises, s)
    | (_, s) => (.raises, s)

/-- `pd`; the lengths have to fit the octets they are packed into. -/
def pd (port lenOut lenIn : ℤ) (pdOut : List Octet) (s : σ) : PyResult × σ :=
  if port ∉ [0, 1, 2, 3] then (.raises, s)
  else if ¬ (0 ≤ lenOut ∧ lenOut ≤ 0xFF ∧ 0 ≤ lenIn ∧ lenIn ≤ 0xFF) then (.raises, s)
  else
    match wire (tcpPort port) ([Cmd.pd, packB (chipPort port), packB lenOut, packB lenIn] ++
      if 0 < lenOut then pdOut else []) s with
    | (.received reply, s) => (.bytes (reply.drop 4), s)
    | (_, s) => (.raises, s)

/-- `readStatus` and `readStatus2`: the message, and the length of the reply; `none` when the
function raises. -/
def readRecord (command : Octet) (expected : ℕ) (port : ℤ) (s : σ) : Option PyStatus × σ :=
  if port ∉ [0, 1, 2, 3] then (none, s)
  else
    match wire (tcpPort port) [command, packB (chipPort port)] s with
    | (.received reply, s) =>
      if reply.length = 2 then (none, s)
      else if reply.length ≠ expected then (none, s)
      else (PyStatus.fromBuffer (reply.drop 2), s)
    | (_, s) => (none, s)

/-- `readStatus`. -/
def readStatus (port : ℤ) : σ → Option PyStatus × σ := readRecord wire Cmd.status 15 port

/-- `readStatus2`. -/
def readStatus2 (port : ℤ) : σ → Option PyStatus × σ := readRecord wire Cmd.status2 16 port

/-- `readStatus3`. -/
def readStatus3 (chip : ℤ) (s : σ) : PyResult × σ :=
  if chip ∉ [0, 1] then (.raises, s)
  else
    match wire (if chip = 0 then tcpPort1 else tcpPort2) [Cmd.status3] s with
    | (.received reply, s) =>
      if reply.length ≠ 2 then (.raises, s)
      else if octetOf reply 0 = Ret.error then (.raises, s)
      else (.int (octetOf reply 1).toNat, s)
    | (_, s) => (.raises, s)

end PyClient

end IolHat

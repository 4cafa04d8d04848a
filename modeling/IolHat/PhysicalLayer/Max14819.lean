import IolHat.Types

/-!
# Messages on the way to the MAX14819

The part of the MAX14819 driver that copies messages: a master message is put behind its two
length octets into a local array, and this behind the SPI command octet into another one; a device
message comes back the same way. The arrays have fixed sizes, so every copy is recorded as an
`ArrayAccess`, and a transfer is harmless when all of them are inside.
-/

namespace IolHat

/-- An access to the first `upTo` cells of an array of `size` cells. -/
structure ArrayAccess where
  size : ℕ
  upTo : ℕ
  deriving DecidableEq, Repr

/-- The access stays inside its array. -/
def ArrayAccess.Inside (a : ArrayAccess) : Prop := a.upTo ≤ a.size

instance (a : ArrayAccess) : Decidable a.Inside := inferInstanceAs (Decidable (_ ≤ _))

/-- The octets of a copy, and the accesses it took. -/
structure Transfer where
  octets : List Octet
  accesses : List ArrayAccess
  deriving DecidableEq, Repr

/-- All accesses of a transfer stay inside their arrays. -/
def Transfer.Inside (t : Transfer) : Prop := ∀ a ∈ t.accesses, a.Inside

instance (t : Transfer) : Decidable t.Inside :=
  inferInstanceAs (Decidable (∀ a ∈ t.accesses, a.Inside))

namespace Max14819

/-- `sizeof (data_tx)` and `sizeof (data_rx)` in `iolink_14819_burst_write_tx`. -/
abbrev burstWriteSize : ℕ := rxtxBufferSize + 1

/-- `sizeof (txdata)` and `sizeof (rxdata)` in `iolink_14819_burst_read_rx`. -/
abbrev burstReadSize : ℕ := rxtxBufferSize + 2

/-- `sizeof (buffer)` in `iolink_14819_set_master_message`. -/
abbrev messageSize : ℕ := 100

/-- `IOLINK14819_TX_MAX`. -/
abbrev txMax : ℕ := 66

/-- `iolink_14819_burst_write_tx`: what crosses the SPI bus. -/
def burstWriteTx (command : Octet) (data : List Octet) (size : ℕ) : Transfer where
  octets := command :: data.take size
  accesses := [⟨burstWriteSize, size + 1⟩, ⟨burstWriteSize, size + 1⟩]

/-- `iolink_14819_set_master_message`; `none` where an assertion fails. -/
def setMasterMessage (command : Octet) (data : List Octet) (txlen rxlen : ℕ) : Option Transfer :=
  if txlen ≠ 0 ∧ txlen ≤ txMax ∧ rxlen ≠ 0 then
    let buffer := UInt8.ofNat rxlen :: UInt8.ofNat txlen :: data.take txlen
    let burst := burstWriteTx command buffer (txlen + 2)
    some { burst with accesses := ⟨messageSize, txlen + 2⟩ :: burst.accesses }
  else none

/-- `iolink_14819_burst_read_rx` into `rxbuffer`. -/
def burstReadRx (fifo : List Octet) (rxbytes : ℕ) : Transfer where
  octets := fifo.take rxbytes
  accesses := [⟨burstReadSize, rxbytes + 1⟩, ⟨burstReadSize, rxbytes + 1⟩,
    ⟨rxtxBufferSize, rxbytes⟩]

/-- `iolink_pl_max14819_get_data`, the octets in the receive FIFO being counted alike by both
registers: at most `len` of them are read. -/
def getData (fifo : List Octet) (len : ℕ) : Transfer :=
  burstReadRx fifo (if len < fifo.length then len else fifo.length)

/-- A message of up to 62 octets passes the assertions and fits every array of the driver. -/
theorem setMasterMessage_inside (command : Octet) (data : List Octet) {txlen rxlen : ℕ}
    (htx : 0 < txlen) (hmax : txlen + 3 ≤ burstWriteSize) (hrx : 0 < rxlen) :
    ∃ t, setMasterMessage command data txlen rxlen = some t ∧ t.Inside := by
  have h65 : txlen + 3 ≤ 65 := hmax
  refine ⟨_, if_pos ⟨by omega, Nat.le_trans (by omega) (by decide : 62 ≤ 66), by omega⟩, ?_⟩
  intro a ha
  simp only [burstWriteTx, List.mem_cons, List.not_mem_nil, or_false] at ha
  rcases ha with rfl | rfl | rfl
  · change txlen + 2 ≤ 100
    omega
  · exact hmax
  · exact hmax

/-- A longer message that passes the assertions leaves the SPI array. -/
theorem setMasterMessage_outside (command : Octet) (data : List Octet) {txlen rxlen : ℕ}
    {t : Transfer} (h : setMasterMessage command data txlen rxlen = some t)
    (hlong : burstWriteSize < txlen + 3) : ¬ t.Inside := by
  simp only [setMasterMessage, burstWriteTx] at h
  split_ifs at h
  obtain rfl := Option.some.inj h
  intro hin
  exact absurd (hin ⟨burstWriteSize, txlen + 2 + 1⟩ (by simp)) (Nat.not_le.mpr hlong)

theorem getData_inside (fifo : List Octet) {len : ℕ} (h : len ≤ rxtxBufferSize) :
    (getData fifo len).Inside := by
  have h64 : len ≤ 64 := h
  have hle : (if len < fifo.length then len else fifo.length) ≤ 64 := by
    split_ifs <;> omega
  intro a ha
  simp only [getData, burstReadRx, List.mem_cons, List.not_mem_nil, or_false] at ha
  rcases ha with rfl | rfl | rfl
  · change _ + 1 ≤ 66
    omega
  · change _ + 1 ≤ 66
    omega
  · exact hle

end Max14819

end IolHat

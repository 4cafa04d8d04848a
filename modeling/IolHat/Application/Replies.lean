import IolHat.Application.Server
import Mathlib.Tactic.Ring

/-!
# Is every reply of the server bounded and well formed?

A reply is `[0xFF, code]`, `[0xFF, 5, hi, lo]`, or the success frame of the command, whose length
is the one that its own octets declare (`declaredLength`). `BoundedReply` says that a connection
has sent exactly one reply, of this form, and that no access has left its array.

The declared length, the copied length and the sent length are computed in different places, and
`boundedReply_handle_iff` says for which frames they agree: the port must be 0 or 1, a history
must fit the buffer, in SIO mode the input must have the length that is announced, and a value
that is written must fit the arg block that is built for it.
-/

namespace IolHat

open Octets

/-- The length that a success frame declares, read off its octets. -/
def declaredLength (octet : ℕ → Octet) : Option ℕ :=
  let c := octet 0
  if c = Cmd.pwr ∨ c = Cmd.led then some 3
  else if c = Cmd.pd then some (4 + (octet 3).toNat)
  else if c = Cmd.pdHistory then some (5 + (octet 4).toNat * (octet 3).toNat)
  else if c = Cmd.read then some (6 + (octet 5).toNat)
  else if c = Cmd.write then some 6
  else if c = Cmd.status then some 15
  else if c = Cmd.status2 then some 16
  else if c = Cmd.status3 then some 2
  else none

/-- The octets of a frame or a reply, by index. -/
def octetOf (octets : List Octet) (i : ℕ) : Octet := octets.getD i 0

/-- The port of a frame. -/
def Frame.port (f : Frame) : PortIndex := portOf (octetOf f.octets 1)

/-- The success frame of a command. -/
def SuccessFrame (c : Octet) (reply : List Octet) : Prop :=
  octetOf reply 0 = c ∧ declaredLength (octetOf reply) = some reply.length

/-- An allowed reply to a command. -/
def IsReply (c : Octet) (reply : List Octet) : Prop :=
  (∃ code, reply = [Ret.error, code]) ∨
    (∃ hi lo, reply = [Ret.error, Ret.errorInternal, hi, lo]) ∨ SuccessFrame c reply

namespace Server

/-- **One well-formed reply, and no access outside.** -/
def BoundedReply (c : Octet) (s : Server) : Prop :=
  s.inside = true ∧ ∃ reply, s.sent = [reply] ∧ s.lengths = [reply.length] ∧ IsReply c reply

/-- The command of a frame and its data, for which the reply will be in order. The data are: the
input a port in SIO mode delivers, how much of it the history holds, and how much is to be
written. -/
def CommandServed (b : Backend) (p : PortIndex) (f : Frame) (s : Server) : Prop :=
  let n := f.octets.length
  let c := octetOf f.octets 0
  let lenOut := (octetOf f.octets 2).toNat
  let lenIn := (octetOf f.octets 3).toNat
  let readLen := (b.pdInData p).length
  (c = Cmd.pd → 4 ≤ n → b.appPortState p ≠ .running → readLen = 0 ∨ readLen = lenIn) ∧
  (c = Cmd.pdHistory → 4 ≤ n → b.appPortState p = .running →
    5 + (s.queue p).items.length * lenIn ≤ 1024) ∧
  (c = Cmd.pdHistory → 4 ≤ n → b.appPortState p ≠ .running →
    if 0 < lenIn then readLen = 1 else 0 < lenOut) ∧
  (c = Cmd.write → n = (octetOf f.octets 5).toNat + 6 → (octetOf f.octets 5).toNat ≤ 250)

/-- The frames that are served as they should. -/
def Served (b : Backend) (f : Frame) (s : Server) : Prop :=
  2 ≤ f.octets.length → octetOf f.octets 1 ≤ 1 ∧ s.CommandServed b f.port f

/-! ### Sending -/

variable {s : Server} {c : Octet} {b : Backend} {p : PortIndex}

/-- Nothing has been sent yet, and every access has stayed inside. -/
structure Fresh (s : Server) : Prop where
  inside : s.inside = true
  sent : s.sent = []
  lengths : s.lengths = []

theorem send_of_ne {octets : List Octet} (h : octets ≠ []) (s : Server) :
    s.send octets = { s with
      sent := s.sent ++ [octets]
      lengths := s.lengths ++ [octets.length] } := if_neg h

/-- A frame that the buffer has room for is sent whole. -/
theorem sendBuffer_eq {n : ℕ} (hn : n ≤ 1024) (s : Server) :
    s.sendBuffer n = s.send (s.buffer.slice 0 n) := by
  have hlen : (s.buffer.slice 0 n).length = n := s.buffer.length_slice (by simpa using hn)
  rw [sendBuffer, send, hlen]

theorem boundedReply_send (hs : s.Fresh) {reply : List Octet} (h : reply ≠ []) :
    (s.send reply).BoundedReply c ↔ IsReply c reply := by
  rw [send_of_ne h, BoundedReply, hs.sent, hs.lengths]
  constructor
  · rintro ⟨-, reply', hsent, -, hreply⟩
    obtain rfl : reply = reply' := List.singleton_inj.mp hsent
    exact hreply
  · exact fun hreply => ⟨hs.inside, reply, rfl, rfl, hreply⟩

theorem boundedReply_sendError (hs : s.Fresh) (code : Octet) : (s.sendError code).BoundedReply c :=
  (boundedReply_send hs (List.cons_ne_nil _ _)).mpr (.inl ⟨code, rfl⟩)

theorem boundedReply_sendInternal (hs : s.Fresh) (e : SmiErrorType) :
    (s.sendInternal e).BoundedReply c :=
  (boundedReply_send hs (List.cons_ne_nil _ _)).mpr (.inr (.inl ⟨_, _, rfl⟩))

/-- Without a reply nothing is in order. -/
theorem not_boundedReply_of_sent (hs : s.sent = []) : ¬ s.BoundedReply c := by
  rintro ⟨-, reply, hsent, -, -⟩
  rw [hs] at hsent
  exact List.cons_ne_nil _ _ hsent.symm

/-- A frame from the front of the buffer that starts with its command. -/
theorem boundedReply_sendBuffer (hs : s.Fresh) (hc : s.buffer.get 0 = c) (hne : c ≠ Ret.error)
    {n : ℕ} (hpos : 0 < n) (hn : n ≤ 1024) :
    (s.sendBuffer n).BoundedReply c ↔ declaredLength (octetOf (s.buffer.slice 0 n)) = some n := by
  have hlen : (s.buffer.slice 0 n).length = n := s.buffer.length_slice (by simpa using hn)
  have hnil : s.buffer.slice 0 n ≠ [] := by
    intro h
    rw [h] at hlen
    exact absurd hlen (by simpa using hpos.ne)
  have hfirst : octetOf (s.buffer.slice 0 n) 0 = c := by
    rw [← hc]
    exact (s.buffer.get_of_slice rfl hpos).symm
  rw [sendBuffer_eq hn, boundedReply_send hs hnil, IsReply, SuccessFrame, hlen]
  constructor
  · -- an error frame starts with another octet
    rintro (⟨code, h⟩ | ⟨hi, lo, h⟩ | ⟨-, h⟩)
    · exact absurd (hfirst.symm.trans (by rw [h]; rfl)) hne
    · exact absurd (hfirst.symm.trans (by rw [h]; rfl)) hne
    · exact h
  · exact fun h => .inr (.inr ⟨hfirst, h⟩)

/-- Octets inside the front of the buffer. -/
theorem octetOf_slice {n i : ℕ} (h : i < n) (s : Server) :
    octetOf (s.buffer.slice 0 n) i = s.buffer.get i :=
  (s.buffer.get_of_slice rfl h).symm

/-! ### Writing -/

@[simp] theorem setCmd_buffer (s : Server) (p : PortIndex) (d : IolCmd) :
    (s.setCmd p d).buffer = s.buffer := rfl

@[simp] theorem call_buffer (s : Server) (d : ServerCall) : (s.call d).buffer = s.buffer := rfl

@[simp] theorem setStatus_buffer (s : Server) (p : PortIndex) (st : IolStatus) :
    (s.setStatus p st).buffer = s.buffer := rfl

theorem Fresh.setCmd (hs : s.Fresh) (p : PortIndex) (d : IolCmd) : (s.setCmd p d).Fresh :=
  ⟨hs.inside, hs.sent, hs.lengths⟩

theorem Fresh.setStatus (hs : s.Fresh) (p : PortIndex) (st : IolStatus) :
    (s.setStatus p st).Fresh := ⟨hs.inside, hs.sent, hs.lengths⟩

theorem Fresh.call (hs : s.Fresh) (d : ServerCall) : (s.call d).Fresh :=
  ⟨hs.inside, hs.sent, hs.lengths⟩

theorem Fresh.put (hs : s.Fresh) {off : ℕ} {src : List Octet} (h : off + src.length ≤ 1024) :
    (s.put off src).Fresh := by
  refine ⟨?_, hs.sent, hs.lengths⟩
  rw [Server.put, hs.inside, Bool.true_and]
  exact decide_eq_true h

/-- One octet of the header. -/
theorem fits_octet {off : ℕ} (h : off < 5) (a : Octet) : off + [a].length ≤ 1024 := by
  rw [List.length_singleton]
  omega

theorem get_put_of_lt {off i : ℕ} (h : i < off) (s : Server) (src : List Octet) :
    (s.put off src).buffer.get i = s.buffer.get i := s.buffer.get_write_of_lt src h

theorem get_put_of_ne {off i : ℕ} (h : i ≠ off) (s : Server) (a : Octet) :
    (s.put off [a]).buffer.get i = s.buffer.get i := by
  rcases Nat.lt_or_gt_of_ne h with hlt | hgt
  · exact get_put_of_lt hlt s [a]
  · exact Buffer.get_write_of_ge s.buffer hgt

theorem get_put_self {off : ℕ} (hoff : off < 1024) (s : Server) (a : Octet) :
    (s.put off [a]).buffer.get off = a := s.buffer.get_set_self hoff a

/-- An access that has left its array is not forgotten. -/
theorem not_boundedReply_of_outside (hs : s.inside = false) : ¬ s.BoundedReply c :=
  fun h => Bool.false_ne_true (hs.symm.trans h.1)

@[simp]
theorem sendLen_inside (s : Server) (octets : List Octet) (len : ℕ) :
    (s.sendLen octets len).inside = s.inside := by
  rw [sendLen]
  split_ifs <;> rfl

@[simp]
theorem send_inside (s : Server) (octets : List Octet) : (s.send octets).inside = s.inside :=
  s.sendLen_inside octets _

@[simp]
theorem sendBuffer_inside (s : Server) (n : ℕ) : (s.sendBuffer n).inside = s.inside :=
  s.sendLen_inside _ n

/-! ### The declared lengths -/

section Declared

variable {octet : ℕ → Octet}

theorem declaredLength_pwr (h : octet 0 = Cmd.pwr) : declaredLength octet = some 3 := by
  rw [declaredLength, h]
  rfl

theorem declaredLength_led (h : octet 0 = Cmd.led) : declaredLength octet = some 3 := by
  rw [declaredLength, h]
  rfl

theorem declaredLength_pd (h : octet 0 = Cmd.pd) :
    declaredLength octet = some (4 + (octet 3).toNat) := by
  rw [declaredLength, h]
  rfl

theorem declaredLength_pdHistory (h : octet 0 = Cmd.pdHistory) :
    declaredLength octet = some (5 + (octet 4).toNat * (octet 3).toNat) := by
  rw [declaredLength, h]
  rfl

theorem declaredLength_read (h : octet 0 = Cmd.read) :
    declaredLength octet = some (6 + (octet 5).toNat) := by
  rw [declaredLength, h]
  rfl

theorem declaredLength_write (h : octet 0 = Cmd.write) : declaredLength octet = some 6 := by
  rw [declaredLength, h]
  rfl

theorem declaredLength_status (h : octet 0 = Cmd.status) : declaredLength octet = some 15 := by
  rw [declaredLength, h]
  rfl

theorem declaredLength_status2 (h : octet 0 = Cmd.status2) : declaredLength octet = some 16 := by
  rw [declaredLength, h]
  rfl

theorem declaredLength_status3 (h : octet 0 = Cmd.status3) : declaredLength octet = some 2 := by
  rw [declaredLength, h]
  rfl

end Declared

/-! ### Commands with a fixed length -/

theorem boundedReply_cmdPwr (hs : s.Fresh) (hc : s.buffer.get 0 = Cmd.pwr) :
    (cmdPwr p s).BoundedReply Cmd.pwr := by
  refine (boundedReply_sendBuffer (hs.call _) hc (by decide) (by omega) (by omega)).mpr ?_
  exact declaredLength_pwr ((octetOf_slice (by omega) _).trans hc)

theorem boundedReply_cmdLed (hs : s.Fresh) (hc : s.buffer.get 0 = Cmd.led) :
    (cmdLed p s).BoundedReply Cmd.led := by
  refine (boundedReply_sendBuffer (hs.call _) hc (by decide) (by omega) (by omega)).mpr ?_
  exact declaredLength_led ((octetOf_slice (by omega) _).trans hc)

/-- The status record has fourteen octets. -/
theorem length_octets (st : IolStatus) : st.octets.length = 14 := rfl

private theorem boundedReply_putStatus (hs : s.Fresh) (hc : s.buffer.get 0 = c)
    (hne : c ≠ Ret.error) {octets : List Octet} (hlen : octets.length ≤ 1022)
    (hdeclared : ∀ octet : ℕ → Octet, octet 0 = c → declaredLength octet = some (2 + octets.length))
    (st : IolStatus) :
    (((s.setStatus p st).put 2 octets).sendBuffer (2 + octets.length)).BoundedReply c := by
  have hget : ((s.setStatus p st).put 2 octets).buffer.get 0 = c :=
    (get_put_of_lt (by omega) _ octets).trans hc
  have hn : 2 + octets.length ≤ 1024 := by omega
  refine (boundedReply_sendBuffer ((hs.setStatus p st).put hn) hget hne (by omega) hn).mpr ?_
  exact hdeclared _ ((octetOf_slice (by omega) _).trans hget)

theorem boundedReply_cmdStatus (hs : s.Fresh)
    (hc : s.buffer.get 0 = Cmd.status ∨ s.buffer.get 0 = Cmd.status2) :
    (cmdStatus b p s).BoundedReply (s.buffer.get 0) := by
  rcases hc with hc | hc
  · -- without the error octet
    have h : (freshStatus b p (s.status p)).octets.dropLast.length = 13 := rfl
    rw [cmdStatus, if_pos hc, hc]
    refine boundedReply_putStatus hs hc (by decide) (by rw [h]; decide) (fun _ h0 => ?_) _
    rw [declaredLength_status h0, h]
  · have h : (freshStatus b p (s.status p)).octets.length = 14 := rfl
    have hne : s.buffer.get 0 ≠ Cmd.status := by rw [hc]; decide
    rw [cmdStatus, if_neg hne, hc]
    refine boundedReply_putStatus hs hc (by decide) (by rw [h]; decide) (fun _ h0 => ?_) _
    rw [declaredLength_status2 h0, h]

/-! ### Device access -/

/-- The length of a read is in its own octet 5. -/
theorem boundedReply_cmdRead (hs : s.Fresh) (hc : s.buffer.get 0 = Cmd.read) :
    (cmdRead b p s).BoundedReply Cmd.read := by
  rw [cmdRead]
  generalize b.deviceRead p s.index (s.buffer.get 4) (s.buffer.get 5) = r
  split_ifs with herr
  · exact boundedReply_sendInternal hs r.errortype
  have hasked : (s.buffer.get 5).toNat < 256 := (s.buffer.get 5).toNat_lt
  -- the actual length goes to octet 5, whether or not a value has been copied
  have key : ∀ (s' : Server) (a : Octet), s'.Fresh → s'.buffer.get 0 = Cmd.read →
      ((s'.put 5 [a]).sendBuffer (6 + a.toNat)).BoundedReply Cmd.read := by
    intro s' a hs' hc'
    have ha : a.toNat < 256 := a.toNat_lt
    have hget : (s'.put 5 [a]).buffer.get 0 = Cmd.read :=
      (get_put_of_lt (by omega) s' [a]).trans hc'
    have hfits : 5 + [a].length ≤ 1024 := Nat.le_of_ble_eq_true rfl
    refine (boundedReply_sendBuffer (hs'.put hfits) hget (by decide) (by omega) (by omega)).mpr ?_
    rw [declaredLength_read ((octetOf_slice (by omega) _).trans hget), octetOf_slice (by omega),
      get_put_self (by omega)]
  cases r.copied with
  | none => exact key s 0 hs hc
  | some d =>
    have hfits : 6 + d.1.cells.length ≤ 1024 := by
      rw [d.1.length_cells]
      omega
    exact key _ d.2 (hs.put hfits) ((get_put_of_lt (by omega) s d.1.cells).trans hc)

/-- The arg block of a write holds its value exactly if the length has not been narrowed. -/
theorem fits_argBlock_iff {n : ℕ} (h : n < 256) :
    Buffer.Fits (narrow8 (sizeofArgBlockOd + n)) sizeofArgBlockOd n ↔ n ≤ 250 := by
  simp only [Buffer.Fits, narrow8, sizeofArgBlockOd]
  omega

/-- The value of a frame stays inside its arg block if it has at most 250 octets. -/
theorem buildArgBlock_inside (s : Server) :
    (s.buildArgBlock (s.buffer.slice 6 (s.buffer.get 5).toNat)).inside =
      (s.inside && decide ((s.buffer.get 5).toNat ≤ 250)) := by
  have hlt : (s.buffer.get 5).toNat < 256 := (s.buffer.get 5).toNat_lt
  have hdata : (s.buffer.slice 6 (s.buffer.get 5).toNat).length = (s.buffer.get 5).toNat := by
    rw [Buffer.length_slice]
    show 6 + (s.buffer.get 5).toNat ≤ 1024
    omega
  rw [buildArgBlock, hdata]
  exact congrArg (s.inside && ·) (decide_eq_decide.mpr (fits_argBlock_iff hlt))

/-- A write has one reply, but a value of more than 250 octets leaves its arg block. -/
theorem boundedReply_cmdWrite_iff (hs : s.Fresh) (hc : s.buffer.get 0 = Cmd.write) :
    (cmdWrite b p s).BoundedReply Cmd.write ↔ (s.buffer.get 5).toNat ≤ 250 := by
  have hinside := buildArgBlock_inside s
  rw [hs.inside, Bool.true_and] at hinside
  rw [cmdWrite]
  generalize b.deviceWrite p s.index (s.buffer.get 4) _ = e
  generalize s.buffer.slice 6 (s.buffer.get 5).toNat = data at hinside
  by_cases hfits : (s.buffer.get 5).toNat ≤ 250
  · refine iff_of_true ?_ hfits
    have hs' : (s.buildArgBlock data).Fresh :=
      ⟨hinside.trans (decide_eq_true hfits), hs.sent, hs.lengths⟩
    split_ifs
    · exact boundedReply_sendInternal hs' e
    · refine (boundedReply_sendBuffer hs' hc (by decide) (by omega) (by omega)).mpr ?_
      exact declaredLength_write ((octetOf_slice (by omega) _).trans hc)
  · refine iff_of_false (not_boundedReply_of_outside ?_) hfits
    have hout : (s.buildArgBlock data).inside = false := hinside.trans (decide_eq_false hfits)
    split_ifs
    · exact (send_inside _ _).trans hout
    · exact (sendBuffer_inside _ _).trans hout

/-! ### Process data -/

theorem length_pdInData_le (b : Backend) (p : PortIndex) : (b.pdInData p).length ≤ 32 := by
  rw [Backend.pdInData]
  split
  · exact AppPdin.length_le _
  · exact Nat.zero_le 32

theorem toNat_ofNat {n : ℕ} (h : n < 256) : (UInt8.ofNat n).toNat = n :=
  UInt8.toNat_ofNat_of_lt' h

/-- A reply with process data declares the length in its octet 3. -/
private theorem boundedReply_pd_iff (hs : s.Fresh) (hc : s.buffer.get 0 = Cmd.pd) {n : ℕ}
    (hn : n < 256) : (s.sendBuffer (n + 4)).BoundedReply Cmd.pd ↔ (s.buffer.get 3).toNat = n := by
  rw [boundedReply_sendBuffer hs hc (by decide) (by omega) (by omega),
    declaredLength_pd ((octetOf_slice (by omega) s).trans hc), octetOf_slice (by omega),
    Option.some_inj]
  omega

/-- In SIO mode the announced length is that of the input, but the sent length is the one the
client has asked for. -/
theorem boundedReply_cmdPd_iff (hs : s.Fresh) (hc : s.buffer.get 0 = Cmd.pd) :
    (cmdPd b p s).BoundedReply Cmd.pd ↔ (b.appPortState p ≠ .running →
      (b.pdInData p).length = 0 ∨ (b.pdInData p).length = (s.buffer.get 3).toNat) := by
  have hlenIn : (s.buffer.get 3).toNat < 256 := (s.buffer.get 3).toNat_lt
  have hread : (b.pdInData p).length ≤ 32 := length_pdInData_le b p
  have hout : ∀ c, (s.setOutput p c).Fresh := fun c => (hs.setCmd p (s.copyOut c)).call _
  have hc3 : (s.clearedPdCmd p).lenIn = s.buffer.get 3 := rfl
  rw [cmdPd, hc3]
  by_cases hrunning : b.appPortState p = .running
  · refine iff_of_true ?_ fun h => absurd hrunning h
    rw [if_pos hrunning]
    -- the requested length is copied, announced and sent
    have hcopied : ∀ data : Buffer Octet 256, (data.slice 0 (s.buffer.get 3).toNat).length =
        (s.buffer.get 3).toNat := fun data => data.length_slice (show 0 + _ ≤ 256 by omega)
    have hfresh : (s.pdRunning p (s.clearedPdCmd p)).Fresh := by
      refine ((hs.setCmd p _).put ?_).put (Nat.le_of_ble_eq_true rfl)
      show 4 + (Buffer.slice _ 0 (s.buffer.get 3).toNat).length ≤ 1024
      rw [hcopied]
      omega
    refine (boundedReply_pd_iff hfresh ?_ hlenIn).mpr ?_
    · exact (get_put_of_ne (by omega) _ _).trans
        ((get_put_of_lt (by omega) _ _).trans hc)
    · exact congrArg UInt8.toNat (get_put_self (by omega) _ _)
  · rw [if_neg hrunning, pdSio]
    by_cases hpos : 0 < (b.pdInData p).length
    · -- the length of the input is announced
      rw [if_pos hpos]
      have hcopied : ∀ data : Buffer Octet 256, (data.slice 0 (b.pdInData p).length).length =
          (b.pdInData p).length := fun data => data.length_slice (show 0 + _ ≤ 256 by omega)
      have hfresh : ∀ c : IolCmd, (((s.setCmd p c).put 4
          (c.dataIn.slice 0 (b.pdInData p).length)).put 3
          [UInt8.ofNat (b.pdInData p).length]).Fresh := by
        intro c
        refine ((hs.setCmd p c).put ?_).put (Nat.le_of_ble_eq_true rfl)
        rw [hcopied]
        omega
      rw [boundedReply_pd_iff (hfresh _) ?_ hlenIn, get_put_self (by omega),
        toNat_ofNat (by omega)]
      · constructor
        · exact fun h _ => .inr h
        · exact fun h => (h hrunning).resolve_left hpos.ne'
      · exact (get_put_of_ne (by omega) _ _).trans
          ((get_put_of_lt (by omega) _ _).trans hc)
    · -- no input: the requested length stays where the client has put it
      rw [if_neg hpos]
      refine iff_of_true ?_ fun _ => .inl (Nat.eq_zero_of_not_pos hpos)
      split_ifs
      · exact (boundedReply_pd_iff (hout _) hc hlenIn).mpr rfl
      · exact (boundedReply_pd_iff (hs.setCmd p _) hc hlenIn).mpr rfl

theorem copyQueue_cons {lenIn pos : ℕ} (h : pos + 1 < 256) (item : Buffer Octet 256)
    (items : List (Buffer Octet 256)) (s : Server) :
    copyQueue lenIn (item :: items) pos s =
      copyQueue lenIn items (pos + 1) (s.put (5 + pos * lenIn) (item.slice 0 lenIn)) := by
  rw [copyQueue, narrow8_of_lt h]

/-- An input is at least as long as what is asked of it. -/
theorem length_slice_item {lenIn : ℕ} (h : lenIn < 256) (item : Buffer Octet 256) :
    (item.slice 0 lenIn).length = lenIn := by
  rw [Buffer.length_slice]
  show 0 + lenIn ≤ 256
  omega

/-- What the copy of a queue does: it fails if the queue is longer than the buffer, and does not
touch the header. -/
theorem copyQueue_spec {lenIn : ℕ} (hlen : lenIn < 256) (items : List (Buffer Octet 256)) :
    ∀ (pos : ℕ) (s : Server), pos + items.length ≤ 255 →
      ((copyQueue lenIn items pos s).inside =
        (s.inside && decide (items = [] ∨ 5 + (pos + items.length) * lenIn ≤ 1024))) ∧
      (copyQueue lenIn items pos s).sent = s.sent ∧
      (copyQueue lenIn items pos s).lengths = s.lengths ∧
      ∀ i < 5, (copyQueue lenIn items pos s).buffer.get i = s.buffer.get i := by
  induction items with
  | nil =>
    intro pos s _
    exact ⟨by simp [copyQueue], rfl, rfl, fun _ _ => rfl⟩
  | cons item items ih =>
    intro pos s hpos
    rw [List.length_cons] at hpos
    have hitem := length_slice_item hlen item
    obtain ⟨hin, hsent, hlengths, hget⟩ :=
      ih (pos + 1) (s.put (5 + pos * lenIn) (item.slice 0 lenIn)) (by omega)
    rw [copyQueue_cons (by omega)]
    refine ⟨?_, hsent, hlengths, fun i hi => (hget i hi).trans (get_put_of_lt (by omega) s _)⟩
    rw [hin, put, hitem, Bool.and_assoc, ← Bool.decide_and]
    congr 1
    refine decide_eq_decide.mpr ?_
    -- the last input decides
    have hstep : 5 + pos * lenIn + lenIn = 5 + (pos + 1) * lenIn := by ring
    have hall : pos + 1 + items.length = pos + (items.length + 1) := by omega
    rw [Buffer.Fits, hstep, List.length_cons, hall]
    constructor
    · rintro ⟨hfirst, rfl | hrest⟩
      · exact .inr hfirst
      · exact .inr hrest
    · rintro (h | h)
      · exact absurd h (List.cons_ne_nil _ _)
      · have hle : (pos + 1) * lenIn ≤ (pos + (items.length + 1)) * lenIn :=
          Nat.mul_le_mul_right lenIn (by omega)
        exact ⟨by omega, .inr h⟩

/-- A history declares its length as count times length of one input. -/
private theorem boundedReply_history (hs : s.Fresh) (hc : s.buffer.get 0 = Cmd.pdHistory) {n : ℕ}
    (h5 : 5 ≤ n) (hn : n ≤ 1024) : (s.sendBuffer n).BoundedReply Cmd.pdHistory ↔
      5 + (s.buffer.get 4).toNat * (s.buffer.get 3).toNat = n := by
  rw [boundedReply_sendBuffer hs hc (by decide) (by omega) hn,
    declaredLength_pdHistory ((octetOf_slice (by omega) s).trans hc), octetOf_slice (by omega),
    octetOf_slice (by omega), Option.some_inj]

/-- A history is copied behind the header, whatever its length. -/
theorem boundedReply_historyRunning_iff (hs : s.Fresh) (hc : s.buffer.get 0 = Cmd.pdHistory) :
    (historyRunning p s).BoundedReply Cmd.pdHistory ↔
      5 + (s.queue p).items.length * (s.buffer.get 3).toNat ≤ 1024 := by
  have hlenIn : (s.buffer.get 3).toNat < 256 := (s.buffer.get 3).toNat_lt
  have hq : (s.queue p).items.length ≤ 255 := (s.queue p).length_le
  have hs' : (s.setCmd p (s.copyOut (s.clearedPdCmd p))).Fresh := hs.setCmd p _
  obtain ⟨hin, hsent, hlengths, hget⟩ := copyQueue_spec hlenIn (s.queue p).items 0
    (s.setCmd p (s.copyOut (s.clearedPdCmd p))) (by omega)
  rw [hs'.inside, Bool.true_and, Nat.zero_add] at hin
  have hc3 : (s.copyOut (s.clearedPdCmd p)).lenIn = s.buffer.get 3 := rfl
  rw [historyRunning, hc3]
  generalize copyQueue (s.buffer.get 3).toNat (s.queue p).items 0 _ = s'
    at hin hsent hlengths hget ⊢
  -- The records are copied before anything is sent, so a copy beyond the buffer shows in `inside`.
  by_cases hfits : 5 + (s.queue p).items.length * (s.buffer.get 3).toNat ≤ 1024
  · refine iff_of_true ?_ hfits
    have hfresh : s'.Fresh :=
      ⟨hin.trans (decide_eq_true (.inr hfits)), hsent.trans hs'.sent, hlengths.trans hs'.lengths⟩
    have hheader := (hfresh.put (fits_octet (show 3 < 5 by omega) (s.buffer.get 3))).put
      (fits_octet (show 4 < 5 by omega) (UInt8.ofNat (s.queue p).items.length))
    refine (boundedReply_history hheader ?_ (by omega) hfits).mpr ?_
    · rw [get_put_of_ne (by omega), get_put_of_ne (by omega),
        hget 0 (by decide)]
      exact hc
    · rw [get_put_self (by omega), get_put_of_ne (by omega), get_put_self (by omega),
        toNat_ofNat (by omega)]
  · refine iff_of_false (not_boundedReply_of_outside ?_) hfits
    have hout : s'.inside = false := by
      refine hin.trans (decide_eq_false ?_)
      rintro (hnil | h)
      · rw [hnil, List.length_nil, Nat.zero_mul] at hfits
        exact hfits (by decide)
      · exact hfits h
    show (Server.sendBuffer _ _).inside = false
    rw [sendBuffer_inside, put, put, hout]
    rfl

/-- In SIO mode the history has one input of one octet, or there is no reply. -/
theorem boundedReply_historySio_iff (hs : s.Fresh) (hc : s.buffer.get 0 = Cmd.pdHistory) :
    (historySio b p s).BoundedReply Cmd.pdHistory ↔
      if 0 < (s.buffer.get 3).toNat then (b.pdInData p).length = 1
      else 0 < (s.buffer.get 2).toNat := by
  have hread : (b.pdInData p).length ≤ 32 := length_pdInData_le b p
  have hin : (s.pdCmd p).lenIn = s.buffer.get 3 := rfl
  have hout : (s.pdCmd p).lenOut = s.buffer.get 2 := rfl
  -- nothing is sent when there is nothing to send
  have hnone : ∀ c, ¬ ((s.setCmd p c).sendBuffer 0).BoundedReply Cmd.pdHistory :=
    fun c => not_boundedReply_of_sent hs.sent
  rw [historySio, hin, hout]
  by_cases hlenIn : 0 < s.buffer.get 3
  · have hlenIn' : 0 < (s.buffer.get 3).toNat := UInt8.lt_iff_toNat_lt.mp hlenIn
    rw [if_pos hlenIn, if_pos hlenIn']
    by_cases hpos : 0 < (b.pdInData p).length
    · -- the count is one and six octets are sent, so the input must have one octet
      have hcopied : ∀ data : Buffer Octet 256, 5 + (data.slice 0 (b.pdInData p).length).length ≤
          1024 := by
        intro data
        rw [data.length_slice (show 0 + _ ≤ 256 by omega)]
        omega
      have hheader := (((hs.setCmd p (copyIn b p (s.pdCmd p))).put
        (hcopied (copyIn b p (s.pdCmd p)).dataIn)).put
        (fits_octet (show 3 < 5 by omega) (UInt8.ofNat (b.pdInData p).length))).put
        (fits_octet (show 4 < 5 by omega) 1)
      simp only [if_pos hpos]
      rw [boundedReply_history hheader ?_ (by omega) (by omega), get_put_self (by omega),
        get_put_of_ne (by omega), get_put_self (by omega), toNat_ofNat (by omega)]
      · show 5 + 1 * _ = 6 ↔ _
        omega
      · rw [get_put_of_ne (by omega), get_put_of_ne (by omega),
          get_put_of_lt (by omega)]
        exact hc
    · simp only [if_neg hpos]
      exact iff_of_false (hnone _) (by omega)
  · have hlenIn' : ¬ 0 < (s.buffer.get 3).toNat := fun h => hlenIn (UInt8.lt_iff_toNat_lt.mpr h)
    rw [if_neg hlenIn, if_neg hlenIn']
    by_cases hlenOut : 0 < s.buffer.get 2
    · -- no input is announced
      rw [if_pos hlenOut]
      refine iff_of_true ?_ (UInt8.lt_iff_toNat_lt.mp hlenOut)
      have hset : (s.setOutput p (s.pdCmd p)).Fresh := (hs.setCmd p _).call _
      have hheader := hset.put (fits_octet (show 4 < 5 by omega) 0)
      refine (boundedReply_history hheader ?_ (by omega) (by omega)).mpr ?_
      · rw [get_put_of_ne (by omega)]
        exact hc
      · rw [get_put_self (by omega)]
        show 5 + 0 * _ = 5
        rw [Nat.zero_mul]
    · rw [if_neg hlenOut]
      exact iff_of_false (hnone _) fun h => hlenOut (UInt8.lt_iff_toNat_lt.mpr h)

/-! ### A connection -/

section Served

variable {f : Frame}

theorem commandServed_of_other (hpd : octetOf f.octets 0 ≠ Cmd.pd)
    (hhistory : octetOf f.octets 0 ≠ Cmd.pdHistory) (hwrite : octetOf f.octets 0 ≠ Cmd.write) :
    s.CommandServed b p f :=
  ⟨fun h => absurd h hpd, fun h => absurd h hhistory, fun h => absurd h hhistory,
    fun h => absurd h hwrite⟩

theorem commandServed_pd_iff (h : octetOf f.octets 0 = Cmd.pd) :
    s.CommandServed b p f ↔ (4 ≤ f.octets.length → b.appPortState p ≠ .running →
      (b.pdInData p).length = 0 ∨
        (b.pdInData p).length = (octetOf f.octets 3).toNat) := by
  have hhistory : octetOf f.octets 0 ≠ Cmd.pdHistory := by rw [h]; decide
  have hwrite : octetOf f.octets 0 ≠ Cmd.write := by rw [h]; decide
  constructor
  · exact fun hserved => hserved.1 h
  · exact fun hpd => ⟨fun _ => hpd, fun h => absurd h hhistory, fun h => absurd h hhistory,
      fun h => absurd h hwrite⟩

theorem commandServed_pdHistory_iff (h : octetOf f.octets 0 = Cmd.pdHistory) :
    s.CommandServed b p f ↔ (4 ≤ f.octets.length →
      if b.appPortState p = .running then
        5 + (s.queue p).items.length * (octetOf f.octets 3).toNat ≤ 1024
      else if 0 < (octetOf f.octets 3).toNat then (b.pdInData p).length = 1
      else 0 < (octetOf f.octets 2).toNat) := by
  have hpd : octetOf f.octets 0 ≠ Cmd.pd := by rw [h]; decide
  have hwrite : octetOf f.octets 0 ≠ Cmd.write := by rw [h]; decide
  constructor
  · intro hserved hn
    split_ifs with hrunning hlenIn
    · exact hserved.2.1 h hn hrunning
    · exact (if_pos hlenIn).mp (hserved.2.2.1 h hn hrunning)
    · exact (if_neg hlenIn).mp (hserved.2.2.1 h hn hrunning)
  · intro hhistory
    refine ⟨fun h => absurd h hpd, fun _ hn hrunning => ?_, fun _ hn hsio => ?_,
      fun h => absurd h hwrite⟩
    · exact (if_pos hrunning).mp (hhistory hn)
    · exact (if_neg hsio).mp (hhistory hn)

theorem commandServed_write_iff (h : octetOf f.octets 0 = Cmd.write) :
    s.CommandServed b p f ↔ (f.octets.length = (octetOf f.octets 5).toNat + 6 →
      (octetOf f.octets 5).toNat ≤ 250) := by
  have hpd : octetOf f.octets 0 ≠ Cmd.pd := by rw [h]; decide
  have hhistory : octetOf f.octets 0 ≠ Cmd.pdHistory := by rw [h]; decide
  constructor
  · exact fun hserved => hserved.2.2.2 h
  · exact fun hwrite => ⟨fun h => absurd h hpd, fun h => absurd h hhistory,
      fun h => absurd h hhistory, fun _ => hwrite⟩

end Served

/-- The second check of the port never fails. -/
theorem checked_eq (hport : s.buffer.get 1 ≤ 1) (lengthOk : Bool) (body : Server → Server) :
    s.checked lengthOk body = if lengthOk then body s else s.sendError Ret.errorLen := by
  have hle : ¬ portNumber < (s.buffer.get 1).toNat := by
    have hnat : (s.buffer.get 1).toNat ≤ 1 := UInt8.le_iff_toNat_le.mp hport
    exact not_lt.mpr (hnat.trans (by decide))
  rw [checked, if_neg hle]
  cases lengthOk <;> rfl

/-- A command that is in order whenever its length is. -/
theorem boundedReply_checked_iff (hs : s.Fresh) (hport : s.buffer.get 1 ≤ 1) {lengthOk : Bool}
    {body : Server → Server} {good : Prop} (hbody : (body s).BoundedReply c ↔ good) :
    (s.checked lengthOk body).BoundedReply c ↔ (lengthOk = true → good) := by
  rw [checked_eq hport]
  cases lengthOk with
  | false => exact iff_of_true (boundedReply_sendError hs _) (fun h => absurd h Bool.false_ne_true)
  | true => exact hbody.trans (by simp)

/-- A command with process data is in order if its data are. -/
private theorem boundedReply_command_pd_iff (hs : s.Fresh) {f : Frame}
    (hget : ∀ i < f.octets.length, s.buffer.get i = octetOf f.octets i)
    (hport : s.buffer.get 1 ≤ 1) (hc : s.buffer.get 0 = Cmd.pd) (h : octetOf f.octets 0 = Cmd.pd) :
    (s.command b p f.octets.length).BoundedReply Cmd.pd ↔ s.CommandServed b p f := by
  rw [command_pd hc, boundedReply_checked_iff hs hport (boundedReply_cmdPd_iff hs hc),
    commandServed_pd_iff h, decide_eq_true_iff]
  refine forall_congr' fun hn => ?_
  rw [hget 3 (by omega)]

private theorem boundedReply_command_pdHistory_iff (hs : s.Fresh) {f : Frame}
    (hget : ∀ i < f.octets.length, s.buffer.get i = octetOf f.octets i)
    (hport : s.buffer.get 1 ≤ 1) (hc : s.buffer.get 0 = Cmd.pdHistory)
    (h : octetOf f.octets 0 = Cmd.pdHistory) :
    (s.command b p f.octets.length).BoundedReply Cmd.pdHistory ↔ s.CommandServed b p f := by
  have hbody : (cmdPdHistory b p s).BoundedReply Cmd.pdHistory ↔
      if b.appPortState p = .running then
        5 + (s.queue p).items.length * (s.buffer.get 3).toNat ≤ 1024
      else if 0 < (s.buffer.get 3).toNat then (b.pdInData p).length = 1
      else 0 < (s.buffer.get 2).toNat := by
    rw [cmdPdHistory]
    by_cases hrunning : b.appPortState p = .running
    · rw [if_pos hrunning, if_pos hrunning, boundedReply_historyRunning_iff hs hc]
    · rw [if_neg hrunning, if_neg hrunning, boundedReply_historySio_iff hs hc]
  rw [command_pdHistory hc, boundedReply_checked_iff hs hport hbody,
    commandServed_pdHistory_iff h, decide_eq_true_iff]
  refine forall_congr' fun hn => ?_
  rw [hget 3 (by omega), hget 2 (by omega)]

private theorem boundedReply_command_write_iff (hs : s.Fresh) {f : Frame}
    (hget : ∀ i < f.octets.length, s.buffer.get i = octetOf f.octets i)
    (hport : s.buffer.get 1 ≤ 1) (hc : s.buffer.get 0 = Cmd.write)
    (h : octetOf f.octets 0 = Cmd.write) :
    (s.command b p f.octets.length).BoundedReply Cmd.write ↔ s.CommandServed b p f := by
  rw [command_write hc, boundedReply_checked_iff hs hport (boundedReply_cmdWrite_iff hs hc),
    commandServed_write_iff h, decide_eq_true_iff]
  by_cases hn : 6 ≤ f.octets.length
  · rw [hget 5 (by omega)]
    exact ⟨fun hok hlen => hok ⟨hn, hlen⟩, fun hok hlen => hok hlen.2⟩
  · exact ⟨fun _ hlen => absurd (by omega) hn, fun _ hlen => absurd hlen.1 hn⟩

/-- The other commands are always in order. -/
private theorem boundedReply_command_other (hs : s.Fresh) (hport : s.buffer.get 1 ≤ 1) (n : ℕ)
    (hpd : s.buffer.get 0 ≠ Cmd.pd) (hhistory : s.buffer.get 0 ≠ Cmd.pdHistory)
    (hwrite : s.buffer.get 0 ≠ Cmd.write) :
    (s.command b p n).BoundedReply (s.buffer.get 0) := by
  have hchecked : ∀ {lengthOk : Bool} {body : Server → Server},
      (body s).BoundedReply (s.buffer.get 0) →
        (s.checked lengthOk body).BoundedReply (s.buffer.get 0) :=
    fun hbody => (boundedReply_checked_iff hs hport (iff_true_intro hbody)).mpr fun _ => trivial
  rw [command]
  split_ifs with hempty hpwr hled hread hstatus
  · exact boundedReply_sendError hs _
  · exact hchecked (hpwr ▸ boundedReply_cmdPwr hs hpwr)
  · exact hchecked (hled ▸ boundedReply_cmdLed hs hled)
  · exact hchecked (hread ▸ boundedReply_cmdRead hs hread)
  · exact hchecked (boundedReply_cmdStatus hs hstatus)
  · exact boundedReply_sendError hs _

/-- The command of a frame. -/
theorem boundedReply_command_iff (hs : s.Fresh) {f : Frame}
    (hget : ∀ i < f.octets.length, s.buffer.get i = octetOf f.octets i)
    (hf : 2 ≤ f.octets.length) (hport : s.buffer.get 1 ≤ 1) :
    (s.command b p f.octets.length).BoundedReply (octetOf f.octets 0) ↔ s.CommandServed b p f := by
  have hc : s.buffer.get 0 = octetOf f.octets 0 := hget 0 (by omega)
  by_cases hpd : octetOf f.octets 0 = Cmd.pd
  · rw [hpd]
    exact boundedReply_command_pd_iff hs hget hport (hc.trans hpd) hpd
  by_cases hhistory : octetOf f.octets 0 = Cmd.pdHistory
  · rw [hhistory]
    exact boundedReply_command_pdHistory_iff hs hget hport (hc.trans hhistory) hhistory
  by_cases hwrite : octetOf f.octets 0 = Cmd.write
  · rw [hwrite]
    exact boundedReply_command_write_iff hs hget hport (hc.trans hwrite) hwrite
  · refine iff_of_true ?_ (commandServed_of_other hpd hhistory hwrite)
    rw [← hc]
    exact boundedReply_command_other hs hport f.octets.length (hc ▸ hpd) (hc ▸ hhistory)
      (hc ▸ hwrite)

/-- The text that reports a port out of range is no reply. -/
theorem not_isReply_portOutOfRange (c : Octet) : ¬ IsReply c portOutOfRange := by
  have hfirst : octetOf portOutOfRange 0 = 0x45 := by decide
  have hnone : declaredLength (octetOf portOutOfRange) = none := by
    rw [declaredLength, hfirst]
    rfl
  rintro (⟨code, h⟩ | ⟨hi, lo, h⟩ | ⟨-, h⟩)
  · exact absurd (hfirst.symm.trans (by rw [h]; rfl)) (show (0x45 : Octet) ≠ Ret.error by decide)
  · exact absurd (hfirst.symm.trans (by rw [h]; rfl)) (show (0x45 : Octet) ≠ Ret.error by decide)
  · exact absurd (hnone.symm.trans h) (by simp)

/-- The octets of a frame are in the buffer. -/
theorem get_receive (s : Server) (f : Frame) {i : ℕ} (h : i < f.octets.length) :
    (s.receive f).buffer.get i = octetOf f.octets i :=
  Buffer.get_of_slice _ (s.buffer.slice_zero_write f.length_le) h

/-- The front of a frame is in the buffer. -/
theorem slice_receive (s : Server) (f : Frame) {n : ℕ} (h : n ≤ f.octets.length) :
    (s.receive f).buffer.slice 0 n = f.octets.take n := by
  have hzero : n - f.octets.length = 0 := Nat.sub_eq_zero_of_le h
  refine (s.buffer.slice_zero_write_append f.length_le n).trans ?_
  rw [hzero]
  exact List.append_nil _

/-- A frame with a port that exists. -/
theorem handle_of_port (hn : 2 ≤ f.octets.length) (hport : octetOf f.octets 1 ≤ 1) (b : Backend)
    (s : Server) :
    s.handle b f = (s.receive f).command b f.port f.octets.length := by
  have hget : (s.receive f).buffer.get 1 = octetOf f.octets 1 := s.get_receive f hn
  have hone : ¬ (f.octets.length = 1 ∧ (s.receive f).buffer.get 0 = Cmd.status3) := by omega
  rw [handle, if_neg hone, if_neg (by omega), hget, if_neg (UInt8.not_lt.mpr hport), port, hget,
    Frame.port]

/-- **Every reply is bounded and well formed**, exactly for the frames that are served as they
should: any frame of up to 1024 octets, any contents of the server's records, any queue, and
anything the chip and the stack may answer. -/
theorem boundedReply_handle_iff (b : Backend) (f : Frame) (s : Server) :
    (s.handle b f).BoundedReply (octetOf f.octets 0) ↔ s.Served b f := by
  have hs : (s.receive f).Fresh := ⟨rfl, rfl, rfl⟩
  have hget : ∀ i < f.octets.length, (s.receive f).buffer.get i = octetOf f.octets i :=
    fun i hi => s.get_receive f hi
  rw [handle]
  split_ifs with hstatus3 hshort hport
  · -- one octet that asks for the chip status
    refine iff_of_true ?_ fun h => absurd h (by omega)
    have hc : (s.receive f).buffer.get 0 = octetOf f.octets 0 := hget 0 (by omega)
    have h3 : octetOf f.octets 0 = Cmd.status3 := hc.symm.trans hstatus3.2
    have hget0 : ((s.receive f).put 1 [b.regStatus]).buffer.get 0 = Cmd.status3 :=
      (get_put_of_lt (by omega) _ _).trans hstatus3.2
    rw [h3]
    refine (boundedReply_sendBuffer (hs.put (fits_octet (by omega) _)) hget0 (by decide)
      (by decide) (by decide)).mpr ?_
    exact declaredLength_status3 ((octetOf_slice (by omega) _).trans hget0)
  · exact iff_of_true (boundedReply_sendError hs _) fun h => absurd h (by omega)
  · -- the text is none of the replies
    rw [hget 1 (by omega)] at hport
    refine iff_of_false ?_ fun h => absurd (h (by omega)).1 (UInt8.not_le.mpr hport)
    have hnil : portOutOfRange ≠ [] := by decide
    exact fun h => not_isReply_portOutOfRange _ ((boundedReply_send hs hnil).mp h)
  · rw [hget 1 (by omega), UInt8.not_lt] at hport
    have hframe : (s.receive f).port = f.port := by
      rw [port, Frame.port, hget 1 (by omega)]
    rw [hframe, boundedReply_command_iff hs hget (by omega) (by rwa [hget 1 (by omega)])]
    exact ⟨fun h _ => ⟨hport, h⟩, fun h => (h (by omega)).2⟩

/-! ### Replies that are not in order -/

/-- Four process data inputs. -/
private def fourInputs : PdInQueue :=
  ⟨[.fill 1, .fill 2, .fill 3, .fill 4], Nat.le_of_ble_eq_true rfl⟩

/-- **A history that is longer than the buffer.** Four inputs of the 255 octets the client asks
for need 1025 octets. -/
theorem history_leaves_buffer :
    ¬ (({ queue := fun _ => fourInputs } : Server).handle (.quiet .running)
      ⟨[Cmd.pdHistory, 0, 0, 255], Nat.le_of_ble_eq_true rfl⟩).BoundedReply Cmd.pdHistory :=
  not_boundedReply_of_outside (by decide +kernel)

/-- **No reply at all.** The history of a port in SIO mode without an input. -/
theorem history_without_reply :
    ¬ (({} : Server).handle (.quiet .inactive)
      ⟨[Cmd.pdHistory, 0, 0, 1], Nat.le_of_ble_eq_true rfl⟩).BoundedReply Cmd.pdHistory :=
  not_boundedReply_of_sent (by decide +kernel)

end Server

end IolHat

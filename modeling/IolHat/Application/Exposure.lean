import IolHat.Application.Replies

/-!
# What a request reads behind its frame

All connections share one buffer, and a frame overwrites only the front of it: what an earlier
request has left behind it is still there. The commands take the lengths of their data from the
frame without comparing them with what has been read, and so they can hand on octets from behind
it: to a port as output data, or to the client in the reply.

`Outcome` collects what a connection hands on. Two servers that have received the same frame and
agree in everything but the octets behind it are `Same`; a command has the same outcome on both
exactly if they also agree at the places it is `Exposed` to (`outcome_command_eq_iff`).
-/

namespace IolHat

open Octets

/-- What the server shares with the threads that run the ports. -/
structure Shared where
  cmd : PortIndex → IolCmd
  status : PortIndex → IolStatus
  queue : PortIndex → PdInQueue

/-- What a connection hands on: the output data of the ports in their command records, what is asked
of the layers below, and the replies. -/
@[ext]
structure Outcome where
  dataOut : PortIndex → Buffer Octet 256
  calls : List ServerCall
  sent : List (List Octet)

namespace Server

def shared (s : Server) : Shared := ⟨s.cmd, s.status, s.queue⟩

def outcome (s : Server) : Outcome := ⟨fun p => (s.cmd p).dataOut, s.calls, s.sent⟩

end Server

/-! ### Outcomes, operation by operation -/

namespace Outcome

def setOut (o : Outcome) (p : PortIndex) (d : Buffer Octet 256) : Outcome :=
  { o with dataOut := Function.update o.dataOut p d }

def call (o : Outcome) (c : ServerCall) : Outcome := { o with calls := o.calls ++ [c] }

def send (o : Outcome) (octets : List Octet) : Outcome :=
  if octets = [] then o else { o with sent := o.sent ++ [octets] }

theorem setOut_eq_iff {o : Outcome} {p : PortIndex} {d d' : Buffer Octet 256} :
    o.setOut p d = o.setOut p d' ↔ d = d' := by
  constructor
  · intro h
    have hp : Function.update o.dataOut p d p = Function.update o.dataOut p d' p :=
      congrFun (congrArg Outcome.dataOut h) p
    rwa [Function.update_self, Function.update_self] at hp
  · rintro rfl
    rfl

theorem call_eq_iff {o o' : Outcome} {c c' : ServerCall} :
    o.call c = o'.call c' ↔ o = o' ∧ c = c' := by
  constructor
  · intro h
    obtain ⟨hout, hcalls, hsent⟩ := Outcome.ext_iff.mp h
    obtain ⟨hold, hnew⟩ := List.append_inj' hcalls rfl
    exact ⟨Outcome.ext hout hold hsent, List.singleton_inj.mp hnew⟩
  · rintro ⟨rfl, rfl⟩
    rfl

theorem send_eq_iff {o o' : Outcome} {reply reply' : List Octet} (h : reply ≠ [])
    (h' : reply' ≠ []) : o.send reply = o'.send reply' ↔ o = o' ∧ reply = reply' := by
  rw [send, send, if_neg h, if_neg h']
  constructor
  · intro heq
    obtain ⟨hout, hcalls, hsent⟩ := Outcome.ext_iff.mp heq
    obtain ⟨hold, hnew⟩ := List.append_inj' hsent rfl
    exact ⟨Outcome.ext hout hcalls hold, List.singleton_inj.mp hnew⟩
  · rintro ⟨rfl, rfl⟩
    rfl

end Outcome

namespace Server

variable {s t : Server} {b : Backend} {p : PortIndex} {n i : ℕ}

@[simp] theorem outcome_put (s : Server) (off : ℕ) (src : List Octet) :
    (s.put off src).outcome = s.outcome := rfl

@[simp] theorem outcome_call (s : Server) (c : ServerCall) :
    (s.call c).outcome = s.outcome.call c := rfl

@[simp] theorem outcome_setQueue (s : Server) (p : PortIndex) (q : PdInQueue) :
    (s.setQueue p q).outcome = s.outcome := rfl

@[simp] theorem outcome_setStatus (s : Server) (p : PortIndex) (st : IolStatus) :
    (s.setStatus p st).outcome = s.outcome := rfl

@[simp]
theorem outcome_setCmd (s : Server) (p : PortIndex) (c : IolCmd) :
    (s.setCmd p c).outcome = s.outcome.setOut p c.dataOut :=
  congrArg (fun dataOut => Outcome.mk dataOut s.calls s.sent)
    (Function.comp_update IolCmd.dataOut s.cmd p c)

@[simp]
theorem outcome_send (s : Server) (octets : List Octet) :
    (s.send octets).outcome = s.outcome.send octets := by
  rw [send, sendLen, Outcome.send]
  split_ifs <;> rfl

/-- A reply from the buffer shows its octets. -/
theorem outcome_sendBuffer_eq_iff {k : ℕ} (hpos : 0 < k) (hk : k ≤ 1024) :
    (s.sendBuffer k).outcome = (t.sendBuffer k).outcome ↔
      s.outcome = t.outcome ∧ ∀ i < k, s.buffer.get i = t.buffer.get i := by
  have hnil : ∀ r : Server, r.buffer.slice 0 k ≠ [] := by
    intro r h
    have hfits : Buffer.Fits 1024 0 k := show 0 + k ≤ 1024 by omega
    have hlen := r.buffer.length_slice hfits
    rw [h] at hlen
    exact absurd hlen (Nat.ne_of_lt hpos)
  rw [sendBuffer_eq hk, sendBuffer_eq hk, outcome_send, outcome_send,
    Outcome.send_eq_iff (hnil s) (hnil t), Buffer.slice_eq_slice_iff]
  simp

/-- Two servers that have received the same frame of `n` octets and share the same records. -/
structure Same (n : ℕ) (s t : Server) : Prop where
  shared : s.shared = t.shared
  outcome : s.outcome = t.outcome
  buffer : ∀ i < n, s.buffer.get i = t.buffer.get i

namespace Same

theorem cmd (h : Same n s t) : s.cmd = t.cmd := congrArg Shared.cmd h.shared

theorem status (h : Same n s t) : s.status = t.status := congrArg Shared.status h.shared

theorem queue (h : Same n s t) : s.queue = t.queue := congrArg Shared.queue h.shared

theorem pdCmd (h : Same n s t) (hn : 4 ≤ n) (p : PortIndex) : s.pdCmd p = t.pdCmd p := by
  rw [Server.pdCmd, Server.pdCmd, h.cmd, h.buffer 1 (by omega), h.buffer 2 (by omega),
    h.buffer 3 (by omega)]

theorem clearedPdCmd (h : Same n s t) (hn : 4 ≤ n) (p : PortIndex) :
    s.clearedPdCmd p = t.clearedPdCmd p := by
  rw [Server.clearedPdCmd, Server.clearedPdCmd, h.pdCmd hn]

end Same

/-! ### What a command reads of the octets behind its header -/

/-- Both servers after the same write. -/
theorem get_put_eq_iff {off i : ℕ} {src : List Octet} :
    (s.put off src).buffer.get i = (t.put off src).buffer.get i ↔
      off ≤ i ∧ i < off + src.length ∨ s.buffer.get i = t.buffer.get i :=
  Buffer.get_write_eq_iff

/-- The output data that a frame leaves in the command record show its octets. -/
theorem copyOut_eq_iff (c : IolCmd) :
    (s.copyOut c).dataOut = (t.copyOut c).dataOut ↔
      ∀ i, 4 ≤ i → i < 4 + c.lenOut.toNat → s.buffer.get i = t.buffer.get i := by
  have hlen : ∀ r : Server, (r.buffer.slice 4 c.lenOut.toNat).length = c.lenOut.toNat := by
    intro r
    have hlt : c.lenOut.toNat < 256 := c.lenOut.toNat_lt
    refine r.buffer.length_slice ?_
    show 4 + c.lenOut.toNat ≤ 1024
    omega
  have hout : ∀ r : Server, (r.copyOut c).dataOut.slice 0 c.lenOut.toNat =
      r.buffer.slice 4 c.lenOut.toNat := by
    intro r
    have hlt : c.lenOut.toNat < 256 := c.lenOut.toNat_lt
    have hle : (r.buffer.slice 4 c.lenOut.toNat).length ≤ 256 := by
      rw [hlen]
      omega
    have hwrite := c.dataOut.slice_zero_write hle
    rwa [hlen] at hwrite
  rw [← Buffer.slice_eq_slice_iff]
  constructor
  · intro h
    rw [← hout s, ← hout t, h]
  · intro h
    rw [copyOut, copyOut, h]

/-- The octets behind the header that `CMD_PD` hands on in SIO mode. -/
def SioExposed (b : Backend) (p : PortIndex) (lenOut lenIn i : ℕ) : Prop :=
  if 0 < (b.pdInData p).length then 4 + (b.pdInData p).length ≤ i ∧ i < 4 + lenIn
  else i < 4 + lenOut ∨ i < 4 + lenIn

/-- The octets behind the header that `CMD_PD` hands on. -/
def PdExposed (b : Backend) (p : PortIndex) (lenOut lenIn i : ℕ) : Prop :=
  if b.appPortState p = .running then i < 4 + lenOut else SioExposed b p lenOut lenIn i

theorem outcome_pdRunning_eq_iff (h : Same n s t) (hn : 4 ≤ n) (c : IolCmd) :
    ((s.pdRunning p c).sendBuffer (c.lenIn.toNat + 4)).outcome =
        ((t.pdRunning p c).sendBuffer (c.lenIn.toNat + 4)).outcome ↔
      ∀ i, 4 ≤ i → i < 4 + c.lenOut.toNat → s.buffer.get i = t.buffer.get i := by
  have hlt : c.lenIn.toNat < 256 := c.lenIn.toNat_lt
  have hdata : (c.dataIn.slice 0 c.lenIn.toNat).length = c.lenIn.toNat := by
    refine c.dataIn.length_slice ?_
    show 0 + c.lenIn.toNat ≤ 256
    omega
  rw [outcome_sendBuffer_eq_iff (by omega) (by omega), pdRunning, pdRunning, outcome_put,
    outcome_put, outcome_put, outcome_put, outcome_setCmd, outcome_setCmd, h.outcome,
    Outcome.setOut_eq_iff, copyOut_eq_iff]
  refine and_iff_left_of_imp fun _ i hi => ?_
  rw [get_put_eq_iff, get_put_eq_iff, hdata]
  rcases Nat.lt_or_ge i 4 with hheader | hinput
  · exact .inr (.inr (h.buffer i (by omega)))
  · exact .inr (.inl ⟨hinput, by omega⟩)

theorem pdSio_of_input (hpos : 0 < (b.pdInData p).length) (c : IolCmd) (s : Server) :
    s.pdSio b p c = ((s.setCmd p (copyIn b p c)).put 4
      ((copyIn b p c).dataIn.slice 0 (b.pdInData p).length)).put 3
        [UInt8.ofNat (b.pdInData p).length] := if_pos hpos

theorem pdSio_of_output (hzero : (b.pdInData p).length = 0) {c : IolCmd} (hout : 0 < c.lenOut)
    (s : Server) : s.pdSio b p c = s.setOutput p (copyIn b p c) :=
  (if_neg (Nat.not_lt.mpr (Nat.le_of_eq hzero))).trans (if_pos hout)

theorem pdSio_of_neither (hzero : (b.pdInData p).length = 0) {c : IolCmd} (hout : ¬0 < c.lenOut)
    (s : Server) : s.pdSio b p c = s.setCmd p (copyIn b p c) :=
  (if_neg (Nat.not_lt.mpr (Nat.le_of_eq hzero))).trans (if_neg hout)

/-- With an input, the reply shows what is behind it. -/
private theorem outcome_pdSio_of_input (h : Same n s t) (hn : 4 ≤ n)
    (hpos : 0 < (b.pdInData p).length) (c : IolCmd) :
    ((s.pdSio b p c).sendBuffer (c.lenIn.toNat + 4)).outcome =
        ((t.pdSio b p c).sendBuffer (c.lenIn.toNat + 4)).outcome ↔
      ∀ i, 4 ≤ i → 4 + (b.pdInData p).length ≤ i ∧ i < 4 + c.lenIn.toNat →
        s.buffer.get i = t.buffer.get i := by
  have hlt : c.lenIn.toNat < 256 := c.lenIn.toNat_lt
  have hdata : ((copyIn b p c).dataIn.slice 0 (b.pdInData p).length).length =
      (b.pdInData p).length := by
    have hle := length_pdInData_le b p
    refine (copyIn b p c).dataIn.length_slice ?_
    show 0 + (b.pdInData p).length ≤ 256
    omega
  rw [outcome_sendBuffer_eq_iff (by omega) (by omega), pdSio_of_input hpos, pdSio_of_input hpos,
    outcome_put, outcome_put, outcome_put, outcome_put, outcome_setCmd, outcome_setCmd, h.outcome,
    and_iff_right rfl]
  constructor
  · rintro hreply i hi ⟨hlo, hhi⟩
    have hget := hreply i (by omega)
    rw [get_put_eq_iff, get_put_eq_iff, hdata] at hget
    rcases hget with ⟨-, hthree⟩ | ⟨-, hinput⟩ | hsame
    · rw [List.length_singleton] at hthree
      omega
    · omega
    · exact hsame
  · intro hall i hi
    rw [get_put_eq_iff, get_put_eq_iff, hdata]
    rcases Nat.lt_or_ge i 4 with hlo | hge
    · exact .inr (.inr (h.buffer i (by omega)))
    · rcases Nat.lt_or_ge i (4 + (b.pdInData p).length) with hin | hbehind
      · exact .inr (.inl ⟨hge, hin⟩)
      · exact .inr (.inr (hall i hge ⟨hbehind, by omega⟩))

/-- The first octets of the buffer are the same if they are the same behind the header. -/
private theorem get_eq_of_behind (h : Same n s t) (hn : 4 ≤ n) {m : ℕ}
    (hall : ∀ i, 4 ≤ i → i < m → s.buffer.get i = t.buffer.get i) :
    ∀ i < m, s.buffer.get i = t.buffer.get i := by
  intro i hi
  rcases Nat.lt_or_ge i 4 with hheader | hge
  · exact h.buffer i (by omega)
  · exact hall i hge hi

/-- With output data only, the port is set from the frame, and the reply shows what is behind its
header. -/
private theorem outcome_pdSio_of_output (h : Same n s t) (hn : 4 ≤ n)
    (hzero : (b.pdInData p).length = 0) {c : IolCmd} (hout : 0 < c.lenOut) :
    ((s.pdSio b p c).sendBuffer (c.lenIn.toNat + 4)).outcome =
        ((t.pdSio b p c).sendBuffer (c.lenIn.toNat + 4)).outcome ↔
      ∀ i, 4 ≤ i → i < 4 + c.lenOut.toNat ∨ i < 4 + c.lenIn.toNat →
        s.buffer.get i = t.buffer.get i := by
  have hlt : c.lenIn.toNat < 256 := c.lenIn.toNat_lt
  rw [outcome_sendBuffer_eq_iff (by omega) (by omega), pdSio_of_output hzero hout,
    pdSio_of_output hzero hout, setOutput, setOutput, outcome_call, outcome_call, outcome_setCmd,
    outcome_setCmd, h.outcome, Outcome.call_eq_iff, Outcome.setOut_eq_iff]
  constructor
  · rintro ⟨⟨hdata, -⟩, hreply⟩ i hi (hlo | hlo)
    · exact (copyOut_eq_iff (copyIn b p c)).mp hdata i hi hlo
    · exact hreply i (by omega)
  · intro hall
    have hdata := (copyOut_eq_iff (copyIn b p c)).mpr fun i hi hlo => hall i hi (.inl hlo)
    refine ⟨⟨hdata, by rw [hdata]⟩, ?_⟩
    exact get_eq_of_behind h hn fun i hge hi => hall i hge (.inr (by omega))

/-- With neither, only the reply shows octets. -/
private theorem outcome_pdSio_of_neither (h : Same n s t) (hn : 4 ≤ n)
    (hzero : (b.pdInData p).length = 0) {c : IolCmd} (hout : ¬ 0 < c.lenOut) :
    ((s.pdSio b p c).sendBuffer (c.lenIn.toNat + 4)).outcome =
        ((t.pdSio b p c).sendBuffer (c.lenIn.toNat + 4)).outcome ↔
      ∀ i, 4 ≤ i → i < 4 + c.lenOut.toNat ∨ i < 4 + c.lenIn.toNat →
        s.buffer.get i = t.buffer.get i := by
  have hlt : c.lenIn.toNat < 256 := c.lenIn.toNat_lt
  have hout0 : c.lenOut.toNat = 0 := by
    have hle : c.lenOut.toNat ≤ 0 := UInt8.le_iff_toNat_le.mp (UInt8.not_lt.mp hout)
    omega
  rw [outcome_sendBuffer_eq_iff (by omega) (by omega), pdSio_of_neither hzero hout,
    pdSio_of_neither hzero hout, outcome_setCmd, outcome_setCmd, h.outcome, and_iff_right rfl]
  constructor
  · rintro hreply i hi (hlo | hlo)
    · omega
    · exact hreply i (by omega)
  · intro hall
    exact get_eq_of_behind h hn fun i hge hi => hall i hge (.inr (by omega))

theorem outcome_pdSio_eq_iff (h : Same n s t) (hn : 4 ≤ n) (c : IolCmd) :
    ((s.pdSio b p c).sendBuffer (c.lenIn.toNat + 4)).outcome =
        ((t.pdSio b p c).sendBuffer (c.lenIn.toNat + 4)).outcome ↔
      ∀ i, 4 ≤ i → SioExposed b p c.lenOut.toNat c.lenIn.toNat i →
        s.buffer.get i = t.buffer.get i := by
  rcases Nat.eq_zero_or_pos (b.pdInData p).length with hzero | hpos
  · simp only [SioExposed, if_neg (show ¬ 0 < (b.pdInData p).length by omega)]
    rcases Decidable.em (0 < c.lenOut) with hout | hout
    · exact outcome_pdSio_of_output h hn hzero hout
    · exact outcome_pdSio_of_neither h hn hzero hout
  · simp only [SioExposed, if_pos hpos]
    exact outcome_pdSio_of_input h hn hpos c

theorem outcome_cmdPd_eq_iff (h : Same n s t) (hn : 4 ≤ n) :
    (cmdPd b p s).outcome = (cmdPd b p t).outcome ↔
      ∀ i, 4 ≤ i → PdExposed b p (s.buffer.get 2).toNat (s.buffer.get 3).toNat i →
        s.buffer.get i = t.buffer.get i := by
  rw [cmdPd, cmdPd, ← h.clearedPdCmd hn p]
  rcases Decidable.em (b.appPortState p = .running) with hrunning | hsio
  · simp only [PdExposed, if_pos hrunning]
    exact outcome_pdRunning_eq_iff h hn _
  · simp only [PdExposed, if_neg hsio]
    exact outcome_pdSio_eq_iff h hn _

/-- A queue that has been copied hides what was in its place. -/
theorem get_copyQueue_eq_iff {lenIn : ℕ} (hlen : lenIn < 256) (items : List (Buffer Octet 256)) :
    ∀ (pos : ℕ) (s t : Server) (i : ℕ), pos + items.length ≤ 255 →
      ((copyQueue lenIn items pos s).buffer.get i = (copyQueue lenIn items pos t).buffer.get i ↔
        5 + pos * lenIn ≤ i ∧ i < 5 + (pos + items.length) * lenIn ∨
          s.buffer.get i = t.buffer.get i) := by
  induction items with
  | nil =>
    intro pos s t i _
    rw [copyQueue, copyQueue, List.length_nil, Nat.add_zero]
    exact ⟨.inr, fun h => h.resolve_left fun hmem => absurd hmem.2 (Nat.not_lt.mpr hmem.1)⟩
  | cons item items ih =>
    intro pos s t i hpos
    rw [List.length_cons] at hpos
    have hitem := length_slice_item hlen item
    rw [copyQueue_cons (by omega), copyQueue_cons (by omega), ih (pos + 1) _ _ i (by omega),
      get_put_eq_iff, hitem, List.length_cons, ← or_assoc]
    refine or_congr_left ?_
    -- the first input and the others are adjacent
    have hstep : 5 + pos * lenIn + lenIn = 5 + (pos + 1) * lenIn := by ring
    have hall : pos + 1 + items.length = pos + (items.length + 1) := by omega
    have hle : (pos + 1) * lenIn ≤ (pos + (items.length + 1)) * lenIn :=
      Nat.mul_le_mul_right lenIn (by omega)
    rw [hstep, hall]
    omega

theorem copyQueue_outcome {lenIn : ℕ} (items : List (Buffer Octet 256)) :
    ∀ (pos : ℕ) (s : Server), (copyQueue lenIn items pos s).outcome = s.outcome := by
  induction items with
  | nil => exact fun _ _ => rfl
  | cons item items ih => exact fun pos s => ih _ _

theorem outcome_historyRunning_eq_iff (h : Same n s t) (hn : 4 ≤ n)
    (hfits : 5 + (s.queue p).items.length * (s.buffer.get 3).toNat ≤ 1024) :
    (historyRunning p s).outcome = (historyRunning p t).outcome ↔
      ∀ i, 4 ≤ i → i < 4 + (s.buffer.get 2).toNat → s.buffer.get i = t.buffer.get i := by
  have hlt : (s.buffer.get 3).toNat < 256 := (s.buffer.get 3).toNat_lt
  have hqueue := (s.queue p).length_le
  have hlenIn : ∀ r : Server, (r.copyOut (s.clearedPdCmd p)).lenIn = s.buffer.get 3 := fun _ => rfl
  rw [historyRunning, historyRunning, ← h.clearedPdCmd hn p, ← h.queue, outcome_setQueue,
    outcome_setQueue, hlenIn, hlenIn, outcome_sendBuffer_eq_iff (by omega) hfits, outcome_put,
    outcome_put, outcome_put, outcome_put, copyQueue_outcome, copyQueue_outcome, outcome_setCmd,
    outcome_setCmd, h.outcome, Outcome.setOut_eq_iff, copyOut_eq_iff]
  refine and_iff_left_of_imp fun _ i hi => ?_
  rw [get_put_eq_iff, get_put_eq_iff,
    get_copyQueue_eq_iff hlt _ 0 _ _ i (by rw [Nat.zero_add]; exact hqueue), List.length_singleton,
    List.length_singleton]
  rcases Nat.lt_or_ge i 4 with hheader | hge
  · exact .inr (.inr (.inr (h.buffer i (by omega))))
  · rcases Nat.lt_or_ge i 5 with hcount | hinput
    · exact .inl ⟨hge, hcount⟩
    · exact .inr (.inr (.inl ⟨by omega, by rwa [Nat.zero_add]⟩))

/-- No message. -/
theorem sendBuffer_zero (s : Server) : s.sendBuffer 0 = s := by
  have hnil : s.buffer.slice 0 0 = [] := List.take_zero
  rw [sendBuffer, sendLen, if_pos hnil]

/-- In SIO mode an input hides what was in its place. -/
theorem outcome_historyInput_eq (h : Same n s t) (hn : 4 ≤ n) (hin : 0 < (s.buffer.get 3)) :
    (historySio b p s).outcome = (historySio b p t).outcome := by
  have hin' : 0 < (t.buffer.get 3) := h.buffer 3 (by omega) ▸ hin
  have hlenIn : ∀ r : Server, (r.pdCmd p).lenIn = r.buffer.get 3 := fun _ => rfl
  rw [historySio, historySio, hlenIn, hlenIn, if_pos hin, if_pos hin', ← h.pdCmd hn p]
  rcases Nat.eq_zero_or_pos (b.pdInData p).length with hzero | hpos
  · have hno : ¬0 < (b.pdInData p).length := Nat.not_lt.mpr (Nat.le_of_eq hzero)
    dsimp only
    rw [if_neg hno, if_neg hno, sendBuffer_zero, sendBuffer_zero, outcome_setCmd, outcome_setCmd,
      h.outcome]
  · have hdata : ((copyIn b p (s.pdCmd p)).dataIn.slice 0 (b.pdInData p).length).length =
        (b.pdInData p).length := by
      have hle := length_pdInData_le b p
      refine (copyIn b p (s.pdCmd p)).dataIn.length_slice ?_
      show 0 + (b.pdInData p).length ≤ 256
      omega
    dsimp only
    rw [if_pos hpos, if_pos hpos]
    refine (outcome_sendBuffer_eq_iff (by decide) (by decide)).mpr ⟨?_, fun i hi => ?_⟩
    · rw [outcome_put, outcome_put, outcome_put, outcome_put, outcome_put, outcome_put,
        outcome_setCmd, outcome_setCmd, h.outcome]
    · rw [get_put_eq_iff, get_put_eq_iff, get_put_eq_iff, hdata, List.length_singleton,
        List.length_singleton]
      rcases Nat.lt_or_ge i 3 with hheader | hge
      · exact .inr (.inr (.inr (h.buffer i (by omega))))
      · omega

theorem outcome_historySio_eq_iff (h : Same n s t) (hn : 4 ≤ n) :
    (historySio b p s).outcome = (historySio b p t).outcome ↔
      ∀ i, 4 ≤ i → ¬0 < s.buffer.get 3 ∧ i < 4 + (s.buffer.get 2).toNat →
        s.buffer.get i = t.buffer.get i := by
  rcases Decidable.em (0 < s.buffer.get 3) with hin | hin
  · exact iff_of_true (outcome_historyInput_eq h hn hin) fun i _ hi => absurd hin hi.1
  have hin' : ¬0 < t.buffer.get 3 := h.buffer 3 (by omega) ▸ hin
  have hlenIn : ∀ r : Server, (r.pdCmd p).lenIn = r.buffer.get 3 := fun _ => rfl
  have hlenOut : ∀ r : Server, (r.pdCmd p).lenOut = r.buffer.get 2 := fun _ => rfl
  rw [historySio, historySio, hlenIn, hlenIn, if_neg hin, if_neg hin', hlenOut, hlenOut,
    ← h.buffer 2 (by omega), ← h.pdCmd hn p]
  rcases Decidable.em (0 < s.buffer.get 2) with hout | hout
  · rw [if_pos hout, if_pos hout, outcome_sendBuffer_eq_iff (by decide) (by decide), outcome_put,
      outcome_put, setOutput, setOutput, outcome_call, outcome_call, outcome_setCmd,
      outcome_setCmd, h.outcome, Outcome.call_eq_iff, Outcome.setOut_eq_iff]
    constructor
    · rintro ⟨⟨hdata, -⟩, -⟩ i hi ⟨-, hlo⟩
      exact (copyOut_eq_iff (s.pdCmd p)).mp hdata i hi hlo
    · intro hall
      have hdata := (copyOut_eq_iff (s.pdCmd p)).mpr fun i hi hlo => hall i hi ⟨hin, hlo⟩
      refine ⟨⟨hdata, by rw [hdata]⟩, fun i hi => ?_⟩
      rw [get_put_eq_iff, List.length_singleton]
      rcases Nat.lt_or_ge i 4 with hheader | hge
      · exact .inr (h.buffer i (by omega))
      · exact .inl ⟨hge, hi⟩
  · rw [if_neg hout, if_neg hout, sendBuffer_zero, sendBuffer_zero, outcome_setCmd, outcome_setCmd,
      h.outcome]
    refine iff_of_true rfl fun i hi hlo => ?_
    have hzero : (s.buffer.get 2).toNat ≤ 0 := UInt8.le_iff_toNat_le.mp (UInt8.not_lt.mp hout)
    omega

/-! ### Device access -/

theorem outcome_sendError (s : Server) (code : Octet) :
    (s.sendError code).outcome = s.outcome.send [Ret.error, code] := outcome_send s _

theorem outcome_sendInternal (s : Server) (e : SmiErrorType) : (s.sendInternal e).outcome =
    s.outcome.send [Ret.error, Ret.errorInternal, (e >>> 8).toUInt8, e.toUInt8] := outcome_send s _

/-- The octets behind the value asked for that `CMD_READ` sends. -/
def ReadExposed {len : ℕ} (r : ReadReturn len) (i : ℕ) : Prop :=
  r.errortype = SmiErrorType.none ∧
    ∃ d, r.copied = some d ∧ 6 + len ≤ i ∧ i < 6 + d.2.toNat

theorem index_eq (h : Same n s t) (hn : 6 ≤ n) : s.index = t.index := by
  rw [index, index, h.buffer 2 (by omega), h.buffer 3 (by omega)]

/-- The reply of `CMD_READ` to what the stack has answered. -/
def replyRead {len : ℕ} (r : ReadReturn len) (s : Server) : Server :=
  if r.errortype ≠ SmiErrorType.none then s.sendInternal r.errortype
  else
    match r.copied with
    | some (data, actualLen) =>
      ((s.put 6 data.cells).put 5 [actualLen]).sendBuffer (6 + actualLen.toNat)
    | none => (s.put 5 [0]).sendBuffer 6

theorem cmdRead_eq (b : Backend) (p : PortIndex) (s : Server) : cmdRead b p s =
    replyRead (b.deviceRead p s.index (s.buffer.get 4) (s.buffer.get 5)) s := by
  rw [cmdRead, replyRead]
  generalize b.deviceRead p s.index (s.buffer.get 4) (s.buffer.get 5) = r
  cases r.copied <;> rfl

theorem outcome_replyRead_eq_iff (h : Same n s t) (hn : 6 ≤ n) {len : ℕ} (r : ReadReturn len) :
    (replyRead r s).outcome = (replyRead r t).outcome ↔
      ∀ i, ReadExposed r i → s.buffer.get i = t.buffer.get i := by
  rcases Decidable.em (r.errortype = SmiErrorType.none) with hok | herr
  swap
  · rw [replyRead, replyRead, if_pos herr, if_pos herr, outcome_sendInternal,
      outcome_sendInternal, h.outcome]
    exact iff_of_true rfl fun i hi => absurd hi.1 herr
  rw [replyRead, replyRead, if_neg (not_not.mpr hok), if_neg (not_not.mpr hok)]
  rcases hcopied : r.copied with _ | ⟨data, actualLen⟩
  · refine iff_of_true ?_ ?_
    · refine (outcome_sendBuffer_eq_iff (by decide) (by decide)).mpr ⟨h.outcome, fun i hi => ?_⟩
      exact get_put_eq_iff.mpr (.inr (h.buffer i (by omega)))
    · rintro i ⟨-, d, hd, -⟩
      exact absurd (hcopied.symm.trans hd) (Option.some_ne_none d).symm
  · have hactual : actualLen.toNat < 256 := actualLen.toNat_lt
    dsimp only
    rw [outcome_sendBuffer_eq_iff (by omega) (by omega), outcome_put, outcome_put, outcome_put,
      outcome_put, and_iff_right h.outcome]
    constructor
    · rintro hreply i ⟨-, d, hd, hlo, hhi⟩
      obtain rfl := Option.some.inj (hcopied.symm.trans hd)
      have hget := hreply i hhi
      rw [get_put_eq_iff, get_put_eq_iff, List.length_singleton, data.length_cells] at hget
      rcases hget with hfive | hvalue | hsame
      · omega
      · omega
      · exact hsame
    · intro hall i hi
      rw [get_put_eq_iff, get_put_eq_iff, List.length_singleton, data.length_cells]
      rcases Nat.lt_or_ge i 6 with hheader | hge
      · exact .inr (.inr (h.buffer i (by omega)))
      · rcases Nat.lt_or_ge i (6 + len) with hin | hbehind
        · exact .inr (.inl ⟨hge, hin⟩)
        · exact .inr (.inr (hall i ⟨hok, _, hcopied, hbehind, hi⟩))

theorem outcome_cmdRead_eq_iff (h : Same n s t) (hn : 6 ≤ n) :
    (cmdRead b p s).outcome = (cmdRead b p t).outcome ↔
      ∀ i, ReadExposed (b.deviceRead p s.index (s.buffer.get 4) (s.buffer.get 5)) i →
        s.buffer.get i = t.buffer.get i := by
  rw [cmdRead_eq, cmdRead_eq, ← index_eq h hn, ← h.buffer 4 (by omega), ← h.buffer 5 (by omega)]
  exact outcome_replyRead_eq_iff h hn _

/-- A write reads its frame only. -/
theorem outcome_cmdWrite_eq (h : Same n s t) (hn : n = (s.buffer.get 5).toNat + 6) :
    (cmdWrite b p s).outcome = (cmdWrite b p t).outcome := by
  have hdata : s.buffer.slice 6 (s.buffer.get 5).toNat = t.buffer.slice 6 (s.buffer.get 5).toNat :=
    Buffer.slice_eq_slice_iff.mpr fun i _ hi => h.buffer i (by omega)
  rw [cmdWrite, cmdWrite, ← index_eq h (by omega), ← h.buffer 4 (by omega), ← h.buffer 5 (by omega),
    ← hdata]
  have hbuild : ∀ r : Server, (r.buildArgBlock (s.buffer.slice 6 (s.buffer.get 5).toNat)).outcome =
      r.outcome := fun _ => rfl
  split_ifs with herr
  · rw [outcome_sendInternal, outcome_sendInternal, hbuild, hbuild, h.outcome]
  · refine (outcome_sendBuffer_eq_iff (by decide) (by decide)).mpr ⟨?_, fun i hi => ?_⟩
    · rw [hbuild, hbuild, h.outcome]
    · exact h.buffer i (by omega)

/-! ### The other commands -/

/-- What the power and the light commands do: they echo three octets. -/
theorem outcome_echo_eq (h : Same n s t) (hn : 3 ≤ n) (c : ServerCall) :
    ((s.call c).sendBuffer 3).outcome = ((t.call c).sendBuffer 3).outcome := by
  refine (outcome_sendBuffer_eq_iff (by decide) (by decide)).mpr ⟨?_, fun i hi => ?_⟩
  · rw [outcome_call, outcome_call, h.outcome]
  · exact h.buffer i (by omega)

theorem outcome_cmdStatus_eq (h : Same n s t) (hn : 2 ≤ n) :
    (cmdStatus b p s).outcome = (cmdStatus b p t).outcome := by
  rw [cmdStatus, cmdStatus, ← h.status, ← h.buffer 0 (by omega)]
  have hlen : (if s.buffer.get 0 = Cmd.status then
      (freshStatus b p (s.status p)).octets.dropLast
        else (freshStatus b p (s.status p)).octets).length ≤ 14 := by
    split_ifs
    · exact Nat.le_of_ble_eq_true rfl
    · exact Nat.le_of_ble_eq_true rfl
  generalize (if s.buffer.get 0 = Cmd.status then
      (freshStatus b p (s.status p)).octets.dropLast
        else (freshStatus b p (s.status p)).octets) = octets at hlen
  refine (outcome_sendBuffer_eq_iff (by omega) (by omega)).mpr ⟨?_, fun i hi => ?_⟩
  · rw [outcome_put, outcome_put, outcome_setStatus, outcome_setStatus, h.outcome]
  · rw [get_put_eq_iff]
    rcases Nat.lt_or_ge i 2 with hheader | hge
    · exact .inr (h.buffer i (by omega))
    · exact .inl ⟨hge, hi⟩

/-! ### A connection -/

/-- The octets behind the header that `CMD_PD_HISTORY` hands on. -/
def HistoryExposed (b : Backend) (p : PortIndex) (lenOut : ℕ) (lenIn : Octet) (i : ℕ) : Prop :=
  if b.appPortState p = .running then i < 4 + lenOut else ¬0 < lenIn ∧ i < 4 + lenOut

/-- What the stack answers to the read of a frame. -/
def readAnswer (b : Backend) (p : PortIndex) (f : Frame) : ReadReturn (octetOf f.octets 5).toNat :=
  b.deviceRead p (((octetOf f.octets 2).toUInt16 <<< 8) ||| (octetOf f.octets 3).toUInt16)
    (octetOf f.octets 4) (octetOf f.octets 5)

/-- The octets behind the header that a command hands on. -/
def Exposed (b : Backend) (f : Frame) (i : ℕ) : Prop :=
  let n := f.octets.length
  let p := f.port
  let lenOut := (octetOf f.octets 2).toNat
  let lenIn := octetOf f.octets 3
  if octetOf f.octets 0 = Cmd.pd then 4 ≤ n ∧ 4 ≤ i ∧ PdExposed b p lenOut lenIn.toNat i
  else if octetOf f.octets 0 = Cmd.pdHistory then 4 ≤ n ∧ 4 ≤ i ∧ HistoryExposed b p lenOut lenIn i
  else if octetOf f.octets 0 = Cmd.read then n = 6 ∧ ReadExposed (readAnswer b p f) i
  else False

/-- A history fits the buffer, and a value the arg block that is built for it. -/
def Fitting (b : Backend) (f : Frame) (d : Shared) : Prop :=
  let n := f.octets.length
  (octetOf f.octets 0 = Cmd.pdHistory → 4 ≤ n → b.appPortState f.port = .running →
    5 + (d.queue f.port).items.length * (octetOf f.octets 3).toNat ≤ 1024) ∧
  (octetOf f.octets 0 = Cmd.write → n = (octetOf f.octets 5).toNat + 6 →
    (octetOf f.octets 5).toNat ≤ 250)

theorem outcome_checked_eq_iff (h : Same n s t) (hn : 2 ≤ n) (hport : s.buffer.get 1 ≤ 1)
    {lengthOk : Bool} {body : Server → Server} :
    (s.checked lengthOk body).outcome = (t.checked lengthOk body).outcome ↔
      (lengthOk = true → (body s).outcome = (body t).outcome) := by
  rw [checked_eq hport, checked_eq (h.buffer 1 (by omega) ▸ hport)]
  cases lengthOk with
  | true => exact ⟨fun heq _ => heq, fun heq => heq rfl⟩
  | false =>
    refine iff_of_true ?_ fun htrue => absurd htrue Bool.false_ne_true
    exact (outcome_sendError s _).trans (h.outcome ▸ (outcome_sendError t _).symm)

variable {f : Frame}

/-- A command that reads nothing behind its frame. -/
private theorem outcome_command_other (h : Same f.octets.length s t) (hn : 2 ≤ f.octets.length)
    (hport : s.buffer.get 1 ≤ 1) (hpd : s.buffer.get 0 ≠ Cmd.pd)
    (hhistory : s.buffer.get 0 ≠ Cmd.pdHistory) (hread : s.buffer.get 0 ≠ Cmd.read) :
    (s.command b p f.octets.length).outcome = (t.command b p f.octets.length).outcome := by
  have herror : ∀ code, (s.sendError code).outcome = (t.sendError code).outcome := by
    intro code
    rw [outcome_sendError, outcome_sendError, h.outcome]
  have hlength : decide (6 ≤ f.octets.length ∧ f.octets.length = (t.buffer.get 5).toNat + 6) =
      decide (6 ≤ f.octets.length ∧ f.octets.length = (s.buffer.get 5).toNat + 6) := by
    refine decide_eq_decide.mpr (and_congr_right fun hsix => ?_)
    rw [h.buffer 5 (by omega)]
  rw [command, command, ← h.buffer 0 (by omega), hlength, if_neg hpd, if_neg hpd, if_neg hhistory,
    if_neg hhistory, if_neg hread, if_neg hread]
  split_ifs with hempty hpwr hled hwrite hstatus
  · exact herror _
  · refine (outcome_checked_eq_iff h hn hport).mpr fun hok => ?_
    have hthree : f.octets.length = 3 := of_decide_eq_true hok
    rw [cmdPwr, cmdPwr, ← h.buffer 2 (by omega)]
    exact outcome_echo_eq h (by omega) _
  · refine (outcome_checked_eq_iff h hn hport).mpr fun hok => ?_
    have hthree : f.octets.length = 3 := of_decide_eq_true hok
    rw [cmdLed, cmdLed, ← h.buffer 2 (by omega)]
    exact outcome_echo_eq h (by omega) _
  · refine (outcome_checked_eq_iff h hn hport).mpr fun hok => ?_
    exact outcome_cmdWrite_eq h (of_decide_eq_true hok).2
  · exact (outcome_checked_eq_iff h hn hport).mpr fun _ => outcome_cmdStatus_eq h hn
  · exact herror _

theorem outcome_cmdPdHistory_eq_iff (h : Same n s t) (hn : 4 ≤ n)
    (hfits : b.appPortState p = .running →
      5 + (s.queue p).items.length * (s.buffer.get 3).toNat ≤ 1024) :
    (cmdPdHistory b p s).outcome = (cmdPdHistory b p t).outcome ↔
      ∀ i, 4 ≤ i → HistoryExposed b p (s.buffer.get 2).toNat (s.buffer.get 3) i →
        s.buffer.get i = t.buffer.get i := by
  rw [cmdPdHistory, cmdPdHistory]
  rcases Decidable.em (b.appPortState p = .running) with hrunning | hsio
  · simp only [HistoryExposed, if_pos hrunning]
    exact outcome_historyRunning_eq_iff h hn (hfits hrunning)
  · simp only [HistoryExposed, if_neg hsio]
    exact outcome_historySio_eq_iff h hn

/-- **What a request reads behind its frame.** On two servers that agree as far as the frame goes,
its outcome is the same exactly if they agree where the octets of the buffer are handed on. -/
theorem outcome_command_eq_iff (h : Same f.octets.length s t) (hn : 2 ≤ f.octets.length)
    (hget : ∀ i < f.octets.length, s.buffer.get i = octetOf f.octets i)
    (hport : octetOf f.octets 1 ≤ 1) (hfits : Fitting b f s.shared) :
    (s.command b f.port f.octets.length).outcome =
        (t.command b f.port f.octets.length).outcome ↔
      ∀ i, Exposed b f i → s.buffer.get i = t.buffer.get i := by
  have hc : s.buffer.get 0 = octetOf f.octets 0 := hget 0 (by omega)
  have hport' : s.buffer.get 1 ≤ 1 := by rwa [hget 1 (by omega)]
  unfold Exposed
  dsimp only
  rw [← hc]
  -- Only three commands send octets back that the frame need not have brought.
  rcases Decidable.em (s.buffer.get 0 = Cmd.pd) with hpd | hpd
  · rw [command_pd hpd, command_pd (h.buffer 0 (by omega) ▸ hpd),
      outcome_checked_eq_iff h hn hport', decide_eq_true_iff]
    simp only [if_pos hpd, and_imp]
    constructor
    · intro hall i hfour
      have hbody := (outcome_cmdPd_eq_iff h hfour).mp (hall hfour) i
      rwa [hget 2 (by omega), hget 3 (by omega)] at hbody
    · intro hall hfour
      refine (outcome_cmdPd_eq_iff h hfour).mpr fun i => ?_
      rw [hget 2 (by omega), hget 3 (by omega)]
      exact hall i hfour
  rcases Decidable.em (s.buffer.get 0 = Cmd.pdHistory) with hhistory | hhistory
  · rw [command_pdHistory hhistory, command_pdHistory (h.buffer 0 (by omega) ▸ hhistory),
      outcome_checked_eq_iff h hn hport', decide_eq_true_iff]
    simp only [if_neg hpd, if_pos hhistory, and_imp]
    have hbody : ∀ hfour : 4 ≤ f.octets.length, _ := fun hfour =>
      outcome_cmdPdHistory_eq_iff (b := b) (p := f.port) h hfour fun hrunning => by
        rw [hget 3 (by omega)]
        exact hfits.1 (hc ▸ hhistory) hfour hrunning
    constructor
    · intro hall i hfour
      have hi := (hbody hfour).mp (hall hfour) i
      rwa [hget 2 (by omega), hget 3 (by omega)] at hi
    · intro hall hfour
      refine (hbody hfour).mpr fun i => ?_
      rw [hget 2 (by omega), hget 3 (by omega)]
      exact hall i hfour
  rcases Decidable.em (s.buffer.get 0 = Cmd.read) with hread | hread
  · rw [command_read hread, command_read (h.buffer 0 (by omega) ▸ hread),
      outcome_checked_eq_iff h hn hport', decide_eq_true_iff]
    simp only [if_neg hpd, if_neg hhistory, if_pos hread, and_imp]
    have hanswer : ∀ hsix : f.octets.length = 6, ∀ i,
        ReadExposed (b.deviceRead f.port s.index (s.buffer.get 4) (s.buffer.get 5)) i ↔
          ReadExposed (readAnswer b f.port f) i := by
      intro hsix i
      rw [readAnswer, index, hget 2 (by omega), hget 3 (by omega), hget 4 (by omega),
        hget 5 (by omega)]
    constructor
    · intro hall i hsix hi
      exact (outcome_cmdRead_eq_iff h (by omega)).mp (hall hsix) i ((hanswer hsix i).mpr hi)
    · intro hall hsix
      refine (outcome_cmdRead_eq_iff h (by omega)).mpr fun i hi => ?_
      exact hall i hsix ((hanswer hsix i).mp hi)
  · simp only [if_neg hpd, if_neg hhistory, if_neg hread]
    exact iff_of_true (outcome_command_other h hn hport' hpd hhistory hread) fun i hi => hi.elim

end Server

end IolHat

import IolHat.Application.Exposure
import IolHat.Lib.Run

/-!
# Do the requests of the server leak into each other?

`Isolated` says that a request does not depend on what earlier requests have left in the buffer of
the server. Whatever the earlier connections were, as long as they lead to the same records and
queues, the request hands the same output data to the ports and sends the same reply.

`isolated_iff` says for which requests this holds: for those whose data stay inside their frame.
What is behind the frame can be anything, since a frame for a port that does not exist fills the
buffer without any other effect (`handle_filler`).
-/

namespace IolHat

open Octets

/-! ### Histories -/

/-- What can happen between two requests. -/
inductive ServerStep
  /-- A connection with another request. -/
  | connection (b : Backend) (f : Frame)
  /-- The threads that run the ports; they are free to change whatever they share with the
  server. -/
  | ports (d : Shared)

namespace Server

def step (s : Server) : ServerStep → Server
  | .connection b f => s.handle b f
  | .ports d => { s with cmd := d.cmd, status := d.status, queue := d.queue }

/-- The server after a history. -/
def after (h : List ServerStep) : Server := Runs.run step {} h

/-- **Isolation.** After a history, a request stays inside the arrays of the server, and its outcome
is the same after any other history that leads to the same shared state. -/
structure Isolated (b : Backend) (f : Frame) (h : List ServerStep) : Prop where
  inside : ((after h).handle b f).inside = true
  outcome : ∀ h', (after h').shared = (after h).shared →
    ((after h').handle b f).outcome = ((after h).handle b f).outcome

/-- A frame with process data: while IO-Link is running its output is in the frame; in SIO mode the
reply is no longer than the input read or than the frame, and without an input the output is in the
frame, too. -/
def PdConfined (b : Backend) (p : PortIndex) (f : Frame) : Prop :=
  let n := f.octets.length
  let lenOut := (octetOf f.octets 2).toNat
  let lenIn := (octetOf f.octets 3).toNat
  let readLen := (b.pdInData p).length
  if b.appPortState p = .running then 4 + lenOut ≤ n
  else if 0 < readLen then lenIn ≤ readLen ∨ 4 + lenIn ≤ n
  else 4 + lenOut ≤ n ∧ 4 + lenIn ≤ n

/-- The same with a history, which must also fit the buffer; in SIO mode nothing is output when an
input is asked for. -/
def HistoryConfined (b : Backend) (p : PortIndex) (f : Frame) (q : PdInQueue) : Prop :=
  let n := f.octets.length
  let lenOut := (octetOf f.octets 2).toNat
  let lenIn := (octetOf f.octets 3).toNat
  if b.appPortState p = .running then 4 + lenOut ≤ n ∧ 5 + q.items.length * lenIn ≤ 1024
  else 0 < lenIn ∨ 4 + lenOut ≤ n

/-- A value that has been read is not longer than asked for. -/
def ReadConfined (b : Backend) (p : PortIndex) (f : Frame) : Prop :=
  (readAnswer b p f).errortype = SmiErrorType.none →
    ∀ d, (readAnswer b p f).copied = some d → d.2.toNat ≤ (octetOf f.octets 5).toNat

/-- The requests whose data stay inside the frame. A value that is written must also fit the arg
block that is built for it. -/
def Confined (b : Backend) (f : Frame) (d : Shared) : Prop :=
  let n := f.octets.length
  let c := octetOf f.octets 0
  let p := f.port
  octetOf f.octets 1 ≤ 1 →
    (c = Cmd.pd → 4 ≤ n → PdConfined b p f) ∧
    (c = Cmd.pdHistory → 4 ≤ n → HistoryConfined b p f (d.queue p)) ∧
    (c = Cmd.read → n = 6 → ReadConfined b p f) ∧
    (c = Cmd.write → n = (octetOf f.octets 5).toNat + 6 → (octetOf f.octets 5).toNat ≤ 250)

variable {s t : Server} {b : Backend} {p : PortIndex} {n i : ℕ} {f : Frame}

/-! ### Accesses -/

theorem put_inside {off : ℕ} {src : List Octet} (h : off + src.length ≤ 1024) (s : Server) :
    (s.put off src).inside = s.inside := by
  rw [put]
  exact (congrArg (s.inside && ·) (decide_eq_true h)).trans (Bool.and_true _)

/-- A write of a front part of a command record at one of the two places for data. -/
private theorem put_dataIn_inside {off len : ℕ} (hoff : off ≤ 5) (hlen : len ≤ 256) (c : IolCmd)
    (s : Server) : (s.put off (c.dataIn.slice 0 len)).inside = s.inside := by
  refine put_inside ?_ s
  rw [c.dataIn.length_slice (by simpa using hlen)]
  omega

private theorem put_octet_inside {off : ℕ} (hoff : off < 5) (a : Octet) (s : Server) :
    (s.put off [a]).inside = s.inside := put_inside (fits_octet hoff a) s

theorem cmdPd_inside (b : Backend) (p : PortIndex) (s : Server) :
    (cmdPd b p s).inside = s.inside := by
  have hin := (s.clearedPdCmd p).lenIn.toNat_lt
  have hread := length_pdInData_le b p
  rw [cmdPd]
  refine (sendBuffer_inside _ _).trans ?_
  rcases Decidable.em (b.appPortState p = .running) with hrunning | hsio
  · rw [if_pos hrunning, pdRunning, put_octet_inside (by omega),
      put_dataIn_inside (by omega) (by omega)]
    rfl
  · rw [if_neg hsio]
    rcases Nat.eq_zero_or_pos (b.pdInData p).length with hzero | hpos
    · rcases Decidable.em (0 < (s.clearedPdCmd p).lenOut) with hout | hout
      · rw [pdSio_of_output hzero hout]
        rfl
      · rw [pdSio_of_neither hzero hout]
        rfl
    · rw [pdSio_of_input hpos, put_octet_inside (by omega),
        put_dataIn_inside (by omega) (by omega)]
      rfl

theorem historyRunning_inside (p : PortIndex) (s : Server) :
    (historyRunning p s).inside = (s.inside && decide (
      5 + (s.queue p).items.length * (s.buffer.get 3).toNat ≤ 1024)) := by
  have hlt : (s.buffer.get 3).toNat < 256 := (s.buffer.get 3).toNat_lt
  have hqueue := (s.queue p).length_le
  have hlenIn : (s.copyOut (s.clearedPdCmd p)).lenIn = s.buffer.get 3 := rfl
  obtain ⟨hinside, -, -, -⟩ := copyQueue_spec hlt (s.queue p).items 0
    (s.setCmd p (s.copyOut (s.clearedPdCmd p))) (by rw [Nat.zero_add]; exact hqueue)
  rw [historyRunning]
  refine (sendBuffer_inside _ _).trans ?_
  rw [put_octet_inside (by omega), put_octet_inside (by omega), hlenIn, hinside, Nat.zero_add]
  refine congrArg (s.inside && ·) (decide_eq_decide.mpr ⟨?_, .inr⟩)
  rintro (hnil | hfits)
  · rw [hnil]
    exact Nat.le_of_ble_eq_true (by simp)
  · exact hfits

theorem historySio_inside (b : Backend) (p : PortIndex) (s : Server) :
    (historySio b p s).inside = s.inside := by
  have hread := length_pdInData_le b p
  rw [historySio]
  dsimp only
  split_ifs with hin hpos hout
  · refine (sendBuffer_inside _ _).trans ?_
    rw [put_octet_inside (by omega), put_octet_inside (by omega),
      put_dataIn_inside (by omega) (by omega)]
    rfl
  · exact sendBuffer_inside _ _
  · refine (sendBuffer_inside _ _).trans ?_
    rw [put_octet_inside (by omega)]
    rfl
  · exact sendBuffer_inside _ _

theorem cmdWrite_inside (s : Server) :
    (cmdWrite b p s).inside = (s.inside && decide ((s.buffer.get 5).toNat ≤ 250)) := by
  rw [cmdWrite]
  split_ifs
  · exact (send_inside _ _).trans (buildArgBlock_inside s)
  · exact (sendBuffer_inside _ _).trans (buildArgBlock_inside s)

theorem checked_inside_iff (hs : s.inside = true) (hport : s.buffer.get 1 ≤ 1) {lengthOk : Bool}
    {body : Server → Server} :
    (s.checked lengthOk body).inside = true ↔ (lengthOk = true → (body s).inside = true) := by
  rw [checked_eq hport]
  cases lengthOk with
  | true => exact ⟨fun h _ => h, fun h => h rfl⟩
  | false =>
    rw [if_neg Bool.false_ne_true]
    exact iff_of_true ((send_inside _ _).trans hs) fun h => absurd h Bool.false_ne_true

/-- A command without process data and without a value to write stays inside. -/
private theorem command_inside_other (hs : s.Fresh) (hport : s.buffer.get 1 ≤ 1)
    (hhistory : s.buffer.get 0 ≠ Cmd.pdHistory) (hwrite : s.buffer.get 0 ≠ Cmd.write) :
    (s.command b p n).inside = true := by
  have herror : ∀ code, (s.sendError code).inside = true :=
    fun code => (send_inside _ _).trans hs.inside
  rw [command, if_neg hhistory, if_neg hwrite]
  split_ifs with hempty hpwr hled hpd hread hstatus
  · exact herror _
  · exact (checked_inside_iff hs.inside hport).mpr fun _ => (boundedReply_cmdPwr hs hpwr).1
  · exact (checked_inside_iff hs.inside hport).mpr fun _ => (boundedReply_cmdLed hs hled).1
  · exact (checked_inside_iff hs.inside hport).mpr fun _ => (cmdPd_inside b p s).trans hs.inside
  · exact (checked_inside_iff hs.inside hport).mpr fun _ => (boundedReply_cmdRead hs hread).1
  · exact (checked_inside_iff hs.inside hport).mpr fun _ => (boundedReply_cmdStatus hs hstatus).1
  · exact herror _

theorem command_inside_iff (hs : s.Fresh) (hn : 2 ≤ f.octets.length)
    (hget : ∀ i < f.octets.length, s.buffer.get i = octetOf f.octets i)
    (hport : octetOf f.octets 1 ≤ 1) :
    (s.command b f.port f.octets.length).inside = true ↔ Fitting b f s.shared := by
  have hc : s.buffer.get 0 = octetOf f.octets 0 := hget 0 (by omega)
  have hport' : s.buffer.get 1 ≤ 1 := by rwa [hget 1 (by omega)]
  rw [Fitting, ← hc]
  rcases Decidable.em (s.buffer.get 0 = Cmd.pdHistory) with hhistory | hhistory
  · have hwrite : s.buffer.get 0 ≠ Cmd.write := by
      rw [hhistory]
      decide
    rw [command_pdHistory hhistory, checked_inside_iff hs.inside hport', decide_eq_true_iff,
      and_iff_left fun h => absurd h hwrite, forall_prop_of_true hhistory]
    refine forall_congr' fun hfour => ?_
    rw [cmdPdHistory]
    split_ifs with hrunning
    · rw [historyRunning_inside, hs.inside, Bool.true_and, decide_eq_true_iff, hget 3 (by omega),
        forall_prop_of_true hrunning]
      rfl
    · exact iff_of_true ((historySio_inside b _ s).trans hs.inside) fun h => absurd h hrunning
  rw [and_iff_right fun h => absurd h hhistory]
  rcases Decidable.em (s.buffer.get 0 = Cmd.write) with hwrite | hwrite
  · have hlen := f.length_le
    rw [command_write hwrite, checked_inside_iff hs.inside hport', decide_eq_true_iff,
      forall_prop_of_true hwrite]
    constructor
    · intro h hlength
      have hfive : s.buffer.get 5 = octetOf f.octets 5 := hget 5 (by omega)
      have hinside := h ⟨by omega, by rw [hfive]; exact hlength⟩
      rw [cmdWrite_inside, hs.inside, Bool.true_and, decide_eq_true_iff, hfive] at hinside
      exact hinside
    · rintro h ⟨hsix, hlength⟩
      have hfive : s.buffer.get 5 = octetOf f.octets 5 := hget 5 (by omega)
      rw [cmdWrite_inside, hs.inside, Bool.true_and, decide_eq_true_iff, hfive]
      exact h (by rw [← hfive]; exact hlength)
  · exact iff_of_true (command_inside_other hs hport' hhistory hwrite)
      fun h => absurd h hwrite

/-! ### What earlier requests can leave behind -/

/-- A frame of 1024 octets without an effect: its port does not exist. -/
def filler (a : Octet) : Frame where
  octets := [0, 2] ++ List.replicate 1022 a
  length_le := by rw [List.length_append, List.length_replicate]; exact Nat.le_refl 1024

@[simp]
theorem sendLen_shared (s : Server) (octets : List Octet) (len : ℕ) :
    (s.sendLen octets len).shared = s.shared := by
  rw [sendLen]
  split_ifs <;> rfl

@[simp]
theorem send_shared (s : Server) (octets : List Octet) : (s.send octets).shared = s.shared :=
  s.sendLen_shared octets _

@[simp]
theorem sendBuffer_shared (s : Server) (n : ℕ) : (s.sendBuffer n).shared = s.shared :=
  s.sendLen_shared _ n

@[simp]
theorem send_buffer (s : Server) (octets : List Octet) : (s.send octets).buffer = s.buffer := by
  rw [send, sendLen]
  split_ifs <;> rfl

/-- A frame for a port that does not exist. -/
theorem handle_of_portOutOfRange (b : Backend) {f : Frame} (hn : 2 ≤ f.octets.length)
    (hport : 1 < octetOf f.octets 1) (s : Server) :
    s.handle b f = (s.receive f).send portOutOfRange := by
  have hget : (s.receive f).buffer.get 1 = octetOf f.octets 1 := s.get_receive f (by omega)
  rw [handle, if_neg (fun h => absurd h.1 (by omega)), if_neg (by omega), hget, if_pos hport]

/-- The filler changes nothing but the buffer, all of which it fills. -/
theorem handle_filler (b : Backend) (a : Octet) (s : Server) :
    (s.handle b (filler a)).shared = s.shared ∧
      ∀ i, 2 ≤ i → i < 1024 → (s.handle b (filler a)).buffer.get i = a := by
  have hlen : (filler a).octets.length = 1024 := by
    rw [filler, List.length_append, List.length_replicate]
    rfl
  have hport : 1 < octetOf (filler a).octets 1 := show (1 : Octet) < 2 by decide
  rw [handle_of_portOutOfRange b (by omega) hport, send_shared, send_buffer]
  refine ⟨rfl, fun i hlo hhi => ?_⟩
  obtain ⟨j, rfl⟩ := Nat.exists_eq_add_of_le hlo
  have hoctet : ([0, 2] ++ List.replicate 1022 a)[2 + j]? = some a := by
    rw [List.getElem?_append_right (Nat.le_add_right 2 j), List.getElem?_replicate, if_pos]
    show 2 + j - 2 < 1022
    omega
  rw [s.get_receive (filler a) (by omega), octetOf, filler, List.getD_eq_getElem?_getD, hoctet]
  rfl

theorem after_append (h : List ServerStep) (b : Backend) (f : Frame) :
    after (h ++ [.connection b f]) = (after h).handle b f :=
  Runs.run_append step {} h [.connection b f]

/-- Two servers with the same records have received the same frame. -/
theorem same_receive (f : Frame) (hshared : s.shared = t.shared) :
    Same f.octets.length (s.receive f) (t.receive f) where
  shared := hshared
  outcome := congrArg (fun d => Outcome.mk (fun p => (Shared.cmd d p).dataOut) [] []) hshared
  buffer _ hi := (s.get_receive f hi).trans (t.get_receive f hi).symm

theorem get_receive_of_ge (s : Server) (f : Frame) {i : ℕ} (hi : f.octets.length ≤ i) :
    (s.receive f).buffer.get i = s.buffer.get i :=
  s.buffer.get_write_of_ge (by rwa [Nat.zero_add])

/-- The octets that are handed on are in the buffer. -/
theorem Exposed.lt (hi : Exposed b f i) : i < 1024 := by
  have hlenOut : (octetOf f.octets 2).toNat < 256 := UInt8.toNat_lt _
  have hlenIn : (octetOf f.octets 3).toNat < 256 := UInt8.toNat_lt _
  unfold Exposed PdExposed SioExposed HistoryExposed at hi
  dsimp only at hi
  split_ifs at hi
  all_goals first | omega | exact hi.elim | skip
  · obtain ⟨-, -, d, -, -, hlt⟩ := hi
    have hd : d.2.toNat < 256 := UInt8.toNat_lt _
    omega

/-- The octets behind a frame can be anything. -/
private theorem forall_history_iff (h : List ServerStep) (hn : 2 ≤ f.octets.length) :
    (∀ h', (after h').shared = (after h).shared → ∀ i, Exposed b f i →
        ((after h).receive f).buffer.get i = ((after h').receive f).buffer.get i) ↔
      ∀ i, Exposed b f i → i < f.octets.length := by
  constructor
  · intro hall i hi
    by_contra hge
    obtain ⟨a, ha⟩ : ∃ a, a ≠ (after h).buffer.get i := by
      rcases Decidable.em ((after h).buffer.get i = 0) with hzero | hne
      · exact ⟨1, by rw [hzero]; decide⟩
      · exact ⟨0, Ne.symm hne⟩
    obtain ⟨hshared, hfill⟩ := handle_filler b a (after h)
    have hsame := hall (h ++ [.connection b (filler a)]) (by rw [after_append, hshared]) i hi
    rw [after_append, get_receive_of_ge _ _ (by omega), get_receive_of_ge _ _ (by omega),
      hfill i (by omega) hi.lt] at hsame
    exact ha hsame.symm
  · intro hall h' hshared i hi
    exact (same_receive f hshared.symm).buffer i (hall i hi)

/-- An interval of places ends inside the frame. -/
private theorem forall_lt_iff {lo m : ℕ} (hlo : lo ≤ n) :
    (∀ i, lo ≤ i → i < m → i < n) ↔ m ≤ n := by
  constructor
  · intro h
    by_contra hlt
    exact absurd (h n hlo (by omega)) (Nat.lt_irrefl n)
  · exact fun h i _ hi => Nat.lt_of_lt_of_le hi h

private theorem pdConfined_iff (hn : 4 ≤ f.octets.length) : PdConfined b p f ↔
    ∀ i, 4 ≤ i → PdExposed b p (octetOf f.octets 2).toNat (octetOf f.octets 3).toNat i →
      i < f.octets.length := by
  unfold PdConfined PdExposed SioExposed
  dsimp only
  split_ifs with hrunning hpos
  · exact (forall_lt_iff hn).symm
  · constructor
    · rintro h i - ⟨hlo, hhi⟩
      omega
    · intro h
      by_contra hnot
      -- the last octet of the reply
      have hlast := h (3 + (octetOf f.octets 3).toNat) (by omega) ⟨by omega, by omega⟩
      omega
  · constructor
    · rintro ⟨hout, hin⟩ i - (hi | hi)
      · omega
      · omega
    · intro h
      exact ⟨(forall_lt_iff hn).mp fun i hi hlt => h i hi (.inl hlt),
        (forall_lt_iff hn).mp fun i hi hlt => h i hi (.inr hlt)⟩

private theorem historyConfined_iff (hn : 4 ≤ f.octets.length) (q : PdInQueue) :
    HistoryConfined b p f q ↔ (b.appPortState p = .running →
        5 + q.items.length * (octetOf f.octets 3).toNat ≤ 1024) ∧
      ∀ i, 4 ≤ i → HistoryExposed b p (octetOf f.octets 2).toNat (octetOf f.octets 3) i →
        i < f.octets.length := by
  unfold HistoryConfined HistoryExposed
  dsimp only
  split_ifs with hrunning
  · rw [forall_prop_of_true hrunning, forall_lt_iff hn, and_comm]
  · rw [and_iff_right fun h => absurd h hrunning]
    have hin : 0 < octetOf f.octets 3 ↔ 0 < (octetOf f.octets 3).toNat := UInt8.lt_iff_toNat_lt
    rw [hin]
    constructor
    · rintro (h | h) i - ⟨hnot, hi⟩
      · exact absurd h hnot
      · omega
    · intro h
      by_contra hnot
      obtain ⟨hzero, hout⟩ := not_or.mp hnot
      exact hout ((forall_lt_iff hn).mp fun i hi hlt => h i hi ⟨hzero, hlt⟩)

private theorem readConfined_iff (hn : f.octets.length = 6) : ReadConfined b p f ↔
    ∀ i, ReadExposed (readAnswer b p f) i → i < f.octets.length := by
  constructor
  · rintro h i ⟨hok, d, hd, hlo, hhi⟩
    have hle := h hok d hd
    omega
  · intro h hok d hd
    by_contra hlt
    have hlast := h (6 + (octetOf f.octets 5).toNat) ⟨hok, d, hd, by omega, by omega⟩
    omega

/-- **The condition says that no exposed octet is behind the frame.** -/
theorem confined_iff (b : Backend) (d : Shared) (hport : octetOf f.octets 1 ≤ 1) :
    Confined b f d ↔ Fitting b f d ∧ ∀ i, Exposed b f i → i < f.octets.length := by
  unfold Confined Fitting Exposed
  dsimp only
  rw [forall_prop_of_true hport]
  rcases Decidable.em (octetOf f.octets 0 = Cmd.pd) with hpd | hpd
  · have hhistory : octetOf f.octets 0 ≠ Cmd.pdHistory := by rw [hpd]; decide
    have hread : octetOf f.octets 0 ≠ Cmd.read := by rw [hpd]; decide
    have hwrite : octetOf f.octets 0 ≠ Cmd.write := by rw [hpd]; decide
    simp only [if_pos hpd, forall_prop_of_true hpd, hhistory, hread, hwrite, false_imp_iff,
      and_true, true_and, and_imp, if_false]
    exact ⟨fun h i hn => (pdConfined_iff hn).mp (h hn) i,
      fun h hn => (pdConfined_iff hn).mpr fun i => h i hn⟩
  rcases Decidable.em (octetOf f.octets 0 = Cmd.pdHistory) with hhistory | hhistory
  · have hread : octetOf f.octets 0 ≠ Cmd.read := by rw [hhistory]; decide
    have hwrite : octetOf f.octets 0 ≠ Cmd.write := by rw [hhistory]; decide
    simp only [if_pos hhistory, forall_prop_of_true hhistory, hpd, hread, hwrite, false_imp_iff,
      and_true, true_and, and_imp, if_false]
    constructor
    · intro h
      exact ⟨fun hn => ((historyConfined_iff hn _).mp (h hn)).1,
        fun i hn => ((historyConfined_iff hn _).mp (h hn)).2 i⟩
    · rintro ⟨hfits, h⟩ hn
      exact (historyConfined_iff hn _).mpr ⟨hfits hn, fun i => h i hn⟩
  rcases Decidable.em (octetOf f.octets 0 = Cmd.read) with hread | hread
  · have hwrite : octetOf f.octets 0 ≠ Cmd.write := by rw [hread]; decide
    simp only [if_pos hread, forall_prop_of_true hread, hpd, hhistory, hwrite, false_imp_iff,
      and_true, true_and, and_imp, if_false]
    exact ⟨fun h i hn => (readConfined_iff hn).mp (h hn) i,
      fun h hn => (readConfined_iff hn).mpr fun i => h i hn⟩
  · simp only [hpd, hhistory, hread, false_imp_iff, true_and, if_false, forall_const, and_true]

/-- A frame without a port has the same outcome everywhere, and the chip status its own octets. -/
private theorem outcome_handle_of_short (h : Same f.octets.length (s.receive f) (t.receive f))
    (hn : f.octets.length < 2) : (s.handle b f).outcome = (t.handle b f).outcome := by
  rcases Decidable.em (f.octets.length = 1) with hone | hone
  · rw [handle, handle, ← h.buffer 0 (by omega)]
    split_ifs with hstatus
    · refine (outcome_sendBuffer_eq_iff (by decide) (by decide)).mpr ⟨h.outcome, fun i hi => ?_⟩
      rw [get_put_eq_iff, List.length_singleton]
      rcases Nat.eq_zero_or_pos i with rfl | hpos
      · exact .inr (h.buffer 0 (by omega))
      · exact .inl ⟨hpos, hi⟩
    · rw [outcome_sendError, outcome_sendError, h.outcome]
  · have hempty : ∀ r : Server, r.handle b f = (r.receive f).sendError Ret.errorLen := by
      intro r
      have hstatus : ¬(f.octets.length = 1 ∧ (r.receive f).buffer.get 0 = Cmd.status3) :=
        fun hand => hone hand.1
      rw [handle, if_neg hstatus, if_pos hn]
    rw [hempty, hempty, outcome_sendError, outcome_sendError, h.outcome]

private theorem handle_inside_of_short (hn : f.octets.length < 2) :
    (s.handle b f).inside = true := by
  rw [handle, if_pos hn]
  split_ifs
  · refine (sendBuffer_inside _ _).trans ?_
    rw [put_octet_inside (by omega)]
    rfl
  · exact send_inside _ _

/-- **Isolation**, exactly for the requests whose data stay inside their frame. -/
theorem isolated_iff (b : Backend) (f : Frame) (h : List ServerStep) :
    Isolated b f h ↔ Confined b f (after h).shared := by
  have hsame : ∀ h', (after h').shared = (after h).shared →
      Same f.octets.length ((after h').receive f) ((after h).receive f) :=
    fun h' => same_receive f
  rcases Nat.lt_or_ge f.octets.length 2 with hshort | hn
  · refine iff_of_true ⟨handle_inside_of_short hshort, fun h' hshared => ?_⟩ fun _ => ?_
    · exact outcome_handle_of_short (hsame h' hshared) hshort
    · exact ⟨fun _ _ => by omega, fun _ _ => by omega, fun _ _ => by omega, fun _ _ => by omega⟩
  rcases Decidable.em (octetOf f.octets 1 ≤ 1) with hport | hport
  swap
  · -- the port does not exist
    have hport' : 1 < octetOf f.octets 1 := UInt8.not_le.mp hport
    refine iff_of_true ⟨?_, fun h' hshared => ?_⟩ fun hle => absurd hle hport
    · rw [handle_of_portOutOfRange b hn hport']
      exact send_inside _ _
    · rw [handle_of_portOutOfRange b hn hport', handle_of_portOutOfRange b hn hport', outcome_send,
        outcome_send, (hsame h' hshared).outcome]
  have hget : ∀ i < f.octets.length, ((after h).receive f).buffer.get i = octetOf f.octets i :=
    fun i hi => (after h).get_receive f hi
  have hinside : ((after h).handle b f).inside = true ↔ Fitting b f (after h).shared := by
    rw [handle_of_port hn hport]
    exact command_inside_iff ⟨rfl, rfl, rfl⟩ hn hget hport
  rw [confined_iff b _ hport, ← forall_history_iff (b := b) h hn, ← hinside]
  have houtcome : Fitting b f (after h).shared → ∀ h', (after h').shared = (after h).shared →
      (((after h).handle b f).outcome = ((after h').handle b f).outcome ↔ ∀ i, Exposed b f i →
        ((after h).receive f).buffer.get i = ((after h').receive f).buffer.get i) := by
    intro hfits h' hshared
    rw [handle_of_port hn hport, handle_of_port hn hport]
    exact outcome_command_eq_iff (same_receive f hshared.symm) hn hget hport hfits
  constructor
  · intro hiso
    refine ⟨hiso.inside, fun h' hshared => ?_⟩
    exact (houtcome (hinside.mp hiso.inside) h' hshared).mp (hiso.outcome h' hshared).symm
  · rintro ⟨hin, hall⟩
    refine ⟨hin, fun h' hshared => ?_⟩
    exact ((houtcome (hinside.mp hin) h' hshared).mpr (hall h' hshared)).symm

/-- A request for the port that does not exist, with one octet of data. -/
private def refusedFrame (a : Octet) : Frame := ⟨[Cmd.pd, 2, 1, 0, a], Nat.le_of_ble_eq_true rfl⟩

/-- **An octet of an earlier request goes to the device.** The frame announces one octet of output
and ends before it; what is output is the octet of the request before, which has been refused. -/
theorem not_isolated_announcedOutput : ¬Isolated (.quiet .running)
    ⟨[Cmd.pd, 0, 1, 0], Nat.le_of_ble_eq_true rfl⟩
      [.connection (.quiet .running) (refusedFrame 1)] := by
  intro h
  have hdata := h.outcome [.connection (.quiet .running) (refusedFrame 2)] rfl
  have hoctet := congrArg (fun o => (o.dataOut 0).get 0) hdata
  exact absurd hoctet (by decide +kernel)

end Server

end IolHat

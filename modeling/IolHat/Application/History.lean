import IolHat.Application.CyclicRun
import IolHat.Lib.Recent

/-!
# The history of process data inputs

`CMD_PD_HISTORY` delivers the inputs that the cyclic runs of a running port have read since the last
such request, at most 255 of them. What the history is for is the log of `Recent`: a run records its
input, a request hands on the newest 255.

`losesOnlyOldest` shows that the server does what this log does, in all sequences in which no run
takes a valid input of another length than the one that is asked for.
-/

namespace IolHat

open Octets

namespace Server

variable {s : Server} {b : Backend} {f : Frame} {p q : PortIndex} {view : RunView} {L : Octet}

/-! ### A request and its reply -/

/-- The frame asks for the history of the port. -/
def AsksHistory (p : PortIndex) (f : Frame) : Prop :=
  octetOf f.octets 0 = Cmd.pdHistory ∧ f.port = p

instance : Decidable (AsksHistory p f) := inferInstanceAs (Decidable (_ ∧ _))

/-- The reply with these samples: `[CMD] [port] [LenOut] [LenIn] [HistoryCount] [DataIn...]`. -/
def historyReply (f : Frame) (samples : List (List Octet)) : List Octet :=
  [Cmd.pdHistory, octetOf f.octets 1, octetOf f.octets 2, octetOf f.octets 3,
    UInt8.ofNat samples.length] ++ samples.flatten

/-- The samples of a reply: `HistoryCount` of them, each of `LenIn` octets. -/
def historySamples (reply : List Octet) : List (List Octet) :=
  records (octetOf reply 3).toNat (octetOf reply 4).toNat (reply.drop 5)

theorem historySamples_reply {samples : List (List Octet)} (hcount : samples.length ≤ 255)
    (hlen : ∀ x ∈ samples, x.length = (octetOf f.octets 3).toNat) :
    historySamples (historyReply f samples) = samples := by
  have hocts : (octetOf (historyReply f samples) 4).toNat = samples.length :=
    toNat_ofNat (by omega)
  rw [historySamples, hocts]
  exact records_flatten hlen

/-- The queue is copied behind what has been written before it. -/
theorem copyQueue_slice {lenIn : ℕ} (hlen : lenIn < 256) (items : List (Buffer Octet 256))
    (pos : ℕ) (s : Server) (hpos : pos + items.length ≤ 255)
    (hfits : 5 + (pos + items.length) * lenIn ≤ 1024) :
    (copyQueue lenIn items pos s).buffer.slice 0 (5 + (pos + items.length) * lenIn) =
      s.buffer.slice 0 (5 + pos * lenIn) ++ (items.map (·.slice 0 lenIn)).flatten := by
  induction items generalizing pos s with
  | nil => simp [copyQueue]
  | cons item items ih =>
    rw [List.length_cons] at hpos hfits
    have hitem := length_slice_item hlen item
    have hall : pos + (items.length + 1) = pos + 1 + items.length := by omega
    have hnext : 5 + (pos + 1) * lenIn = 5 + pos * lenIn + lenIn := by
      rw [Nat.succ_mul, Nat.add_assoc]
    have hle : (pos + 1) * lenIn ≤ (pos + 1 + items.length) * lenIn :=
      Nat.mul_le_mul_right lenIn (Nat.le_add_right _ _)
    rw [hall] at hfits
    -- the item lies behind the others, and the rest behind the item
    have hwrite := s.buffer.slice_write (5 + pos * lenIn) (item.slice 0 lenIn)
      (show 5 + pos * lenIn + _ ≤ 1024 by rw [hitem]; omega)
    rw [hitem] at hwrite
    rw [copyQueue_cons (by omega), List.length_cons, hall, ih (pos + 1) _ (by omega) hfits, hnext,
      List.map_cons, List.flatten_cons, ← List.append_assoc]
    exact congrArg (· ++ _) hwrite

/-- What lies behind the header after the copy. -/
private theorem copyQueue_slice_five {lenIn : ℕ} (hlen : lenIn < 256)
    (items : List (Buffer Octet 256)) (s : Server) (hcount : items.length ≤ 255)
    (hfits : 5 + items.length * lenIn ≤ 1024) :
    (copyQueue lenIn items 0 s).buffer.slice 5 (items.length * lenIn) =
      (items.map (·.slice 0 lenIn)).flatten := by
  have hslice := copyQueue_slice hlen items 0 s (by omega) (by rwa [Nat.zero_add])
  rw [Nat.zero_add, Nat.zero_mul, Nat.add_zero, Buffer.slice_add, Nat.zero_add] at hslice
  have hheader : ∀ r : Server, (r.buffer.slice 0 5).length = 5 :=
    fun r => r.buffer.length_slice (show 0 + 5 ≤ 1024 by decide)
  exact (List.append_inj hslice ((hheader _).trans (hheader s).symm)).2

/-- The five octets of the header. -/
private theorem slice_header (s : Server) : s.buffer.slice 0 5 =
    [s.buffer.get 0, s.buffer.get 1, s.buffer.get 2, s.buffer.get 3, s.buffer.get 4] := by
  have hzero : s.buffer.slice 0 0 = [] := List.take_zero
  rw [s.buffer.slice_zero_succ (by decide), s.buffer.slice_zero_succ (by decide),
    s.buffer.slice_zero_succ (by decide), s.buffer.slice_zero_succ (by decide),
    s.buffer.slice_zero_succ (by decide), hzero]
  rfl

/-- A message from the buffer is sent. -/
private theorem sendBuffer_sent {n : ℕ} {octets : List Octet} (hs : s.sent = [])
    (h : s.buffer.slice 0 n = octets) (hne : octets ≠ []) : (s.sendBuffer n).sent = [octets] := by
  rw [sendBuffer, sendLen, h, if_neg hne]
  show s.sent ++ [octets] = [octets]
  rw [hs, List.nil_append]

/-- **The reply of a running port**: the header of the frame, and the queue. -/
theorem historyRunning_sent (hs : s.sent = [])
    (hfits : 5 + (s.queue p).items.length * (s.buffer.get 3).toNat ≤ 1024) :
    (s.historyRunning p).sent = [[s.buffer.get 0, s.buffer.get 1, s.buffer.get 2, s.buffer.get 3,
      UInt8.ofNat (s.queue p).items.length] ++
        ((s.queue p).items.map (·.slice 0 (s.buffer.get 3).toNat)).flatten] := by
  have hlt : (s.buffer.get 3).toNat < 256 := (s.buffer.get 3).toNat_lt
  have hcount := (s.queue p).length_le
  obtain ⟨-, hsent, -, hget⟩ := copyQueue_spec hlt (s.queue p).items 0
    (s.setCmd p (s.copyOut (s.clearedPdCmd p))) (by rw [Nat.zero_add]; exact hcount)
  have hdata := copyQueue_slice_five hlt (s.queue p).items
    (s.setCmd p (s.copyOut (s.clearedPdCmd p))) hcount hfits
  have hlenIn : (s.copyOut (s.clearedPdCmd p)).lenIn = s.buffer.get 3 := rfl
  rw [historyRunning]
  simp only [hlenIn]
  generalize copyQueue _ _ _ _ = t at hsent hget hdata
  show (Server.sendBuffer _ _).sent = _
  refine sendBuffer_sent (hsent.trans hs) ?_ (List.cons_ne_nil _ _)
  rw [Buffer.slice_add, slice_header, Nat.zero_add]
  refine congrArg₂ (· ++ ·) ?_ ?_
  · rw [get_put_self (by decide), get_put_of_ne (by decide), get_put_of_ne (by decide),
      get_put_of_ne (by decide), get_put_of_ne (by decide), get_put_of_ne (by decide),
      get_put_of_ne (by decide), get_put_of_ne (by decide), get_put_self (by decide),
      hget 0 (by decide), hget 1 (by decide), hget 2 (by decide)]
    rfl
  · rw [← hdata, put, put, Buffer.slice_write_of_disjoint _ _ (.inl (Nat.le_refl 5)),
      Buffer.slice_write_of_disjoint _ _ (.inl (Nat.le_succ 4))]

/-! ### Samples -/

/-- The valid input that a run reads. -/
def samplesRead (p : PortIndex) (s : Server) : PortStep → List (List Octet)
  | .connection _ _ => []
  | .run q view => if q = p ∧ TakesInput p view s then [view.data] else []

/-- The samples that a history delivers. -/
def samplesDelivered (p : PortIndex) (s : Server) : PortStep → List (List Octet)
  | .connection b f => if AsksHistory p f then (s.handle b f).sent.flatMap historySamples else []
  | .run _ _ => []

/-- What a step means for the log of the port. -/
def logEvent (p : PortIndex) (s : Server) : PortStep → Recent.Event (List Octet)
  | .connection _ f => if AsksHistory p f then .handOn else .record []
  | .run q view => .record (samplesRead p s (.run q view))

/-- A request for the history of a running port is in the sequence, with a fixed `LenIn` and a reply
that fits the buffer. What the other port does is free. -/
def HistoryStep (p : PortIndex) (L : Octet) (s : Server) : PortStep → Prop
  | .connection b f => f.port ≠ p ∨
      (octetOf f.octets 0 = Cmd.pdHistory ∧ (octetOf f.octets 1).toNat = p ∧
        octetOf f.octets 3 = L ∧ 4 ≤ f.octets.length ∧ b.appPortState p = .running ∧
        5 + (s.queue p).items.length * L.toNat ≤ 1024)
  | .run _ _ => True

/-- A valid input of the port has the length that is asked for. -/
def WholeSample (p : PortIndex) (s : Server) : PortStep → Prop
  | .connection _ _ => True
  | .run q view => q = p → TakesInput p view s → view.data.length = (s.cmd p).lenIn.toNat

/-- A request for the history is answered with the samples that have been read since the last one.
If they are more than 255, the newest 255 are delivered; `HistoryCount` is their number. -/
def DeliversNewest (p : PortIndex) (w : Server × List (List Octet)) : PortStep → Prop
  | .connection b f => AsksHistory p f → ∃ samples,
      samples = w.2.rtake maxPdInQueueSize ∧
      (w.1.handle b f).sent = [historyReply f samples] ∧
      (octetOf (historyReply f samples) 4).toNat = samples.length ∧
      ∀ x ∈ samples, x.length = (octetOf f.octets 3).toNat
  | .run _ _ => True

/-- **Only the oldest samples get lost** in a sequence of steps: every history delivers the newest
of the samples read since the one before, and all histories together deliver samples in the order in
which they have been read, none of them twice. -/
structure LosesOnlyOldest (p : PortIndex) (steps : List PortStep) : Prop where
  newest : Runs.Admissible (Recent.logStep portStep (logEvent p)) (DeliversNewest p) ({}, []) steps
  inOrder : (Runs.trace portStep (samplesDelivered p) {} steps).Sublist
    (Runs.trace portStep (samplesRead p) {} steps)

/-- The queue of the port holds the newest samples of the log. -/
structure HoldsNewest (p : PortIndex) (L : Octet) (s : Server) (log : List (List Octet)) :
    Prop where
  addressed : Addressed s
  lenIn : (s.cmd p).lenIn = 0 ∨ (s.cmd p).lenIn = L
  queue : (s.queue p).items.map (·.slice 0 L.toNat) = log.rtake maxPdInQueueSize
  length : ∀ x ∈ log, x.length = L.toNat

/-! ### One step -/

/-- A request for the history of a running port. -/
theorem handle_history (hc : octetOf f.octets 0 = Cmd.pdHistory)
    (hport : (octetOf f.octets 1).toNat = p) (hlen : 4 ≤ f.octets.length)
    (hrunning : b.appPortState p = .running) (s : Server) :
    s.handle b f = (s.receive f).historyRunning p := by
  have hget : ∀ i < f.octets.length, (s.receive f).buffer.get i = octetOf f.octets i :=
    fun i hi => s.get_receive f hi
  have hone : octetOf f.octets 1 ≤ 1 := by
    rw [UInt8.le_iff_toNat_le, hport]
    exact Nat.le_of_lt_succ p.isLt
  have hle : (s.receive f).buffer.get 1 ≤ 1 := by rwa [hget 1 (by omega)]
  have hframe : f.port = p := by
    refine Fin.ext ((toNat_eq_portOf hone).symm.trans ?_)
    rw [hport]
  rw [handle_of_port (by omega) hone, hframe,
    command_pdHistory ((hget 0 (by omega)).trans hc), checked_eq hle,
    if_pos (decide_eq_true hlen), cmdPdHistory, if_pos hrunning]

namespace HoldsNewest

variable {log : List (List Octet)}

/-- A step that leaves the queue and the `LenIn` of the port alone records nothing. -/
theorem of_same {t : Server} (h : HoldsNewest p L s log) (ht : Addressed t)
    (hcmd : (t.cmd p).lenIn = (s.cmd p).lenIn) (hqueue : t.queue p = s.queue p) :
    HoldsNewest p L t log := by
  refine ⟨ht, ?_, ?_, h.length⟩
  · rw [hcmd]
    exact h.lenIn
  · rw [hqueue]
    exact h.queue

/-- A connection for the other port. -/
theorem of_foreign (h : HoldsNewest p L s log) (hforeign : f.port ≠ p) (b : Backend) :
    HoldsNewest p L (s.handle b f) log := by
  have hserves := handle_serves b f s
  refine h.of_same (h.addressed.step (.connection b f)) ?_ ?_
  · rw [hserves.cmd p hforeign.symm]
  · exact hserves.queue p hforeign.symm

/-- A valid input of the length asked for. -/
theorem of_takesInput (h : HoldsNewest p L s log) (htakes : TakesInput p view s)
    (hlen : view.data.length = (s.cmd p).lenIn.toNat) :
    HoldsNewest p L (runFunction p view s) (log ++ [view.data]) := by
  have hlenIn : (s.cmd p).lenIn = L := by
    refine h.lenIn.resolve_left fun hzero => ?_
    have hpos := htakes.2.1
    rw [hzero] at hpos
    exact absurd hpos (by decide)
  have hL : L.toNat < 256 := L.toNat_lt
  rw [hlenIn] at hlen
  -- the run reads the input into the command record, and copies it from there to the queue
  have hcmd : (runCmd p view s).dataIn.slice 0 (s.cmd p).lenIn.toNat = view.data := by
    rw [runCmd, if_pos htakes.2.1, hlenIn, ← hlen]
    exact Buffer.slice_zero_write _ (by omega)
  have hitem : (view.stack.write 0 view.data).slice 0 L.toNat = view.data := by
    rw [← hlen]
    exact Buffer.slice_zero_write _ (by omega)
  have hqueue : (runFunction p view s).queue p =
      (s.queue p).push (view.stack.write 0 view.data) := by
    rw [runFunction_queue (h.addressed.passes p), if_pos htakes, Function.update_self, hcmd]
  have hpush := Recent.push_rtake (k := maxPdInQueueSize) (by decide) log view.data
  refine ⟨h.addressed.step (.run p view), ?_, ?_, ?_⟩
  · have hheader := runFunction_header (h.addressed.passes p) view p
    exact .inr ((congrArg (fun header => header.2.2.1) hheader).trans hlenIn)
  · rw [hqueue, ← hpush, ← h.queue, PdInQueue.push, Recent.push, List.length_map]
    split_ifs
    · rw [List.map_append, List.map_singleton, hitem]
    · rw [List.map_tail, List.map_append, List.map_singleton, hitem]
  · intro x hx
    rcases List.mem_append.mp hx with hold | hnew
    · exact h.length x hold
    · rw [List.mem_singleton.mp hnew, hlen]

/-- A run of either port. -/
theorem of_run (h : HoldsNewest p L s log) (q : PortIndex) (view : RunView)
    (hwhole : WholeSample p s (.run q view)) :
    HoldsNewest p L (runFunction q view s) (log ++ samplesRead p s (.run q view)) := by
  rw [samplesRead]
  split_ifs with htakes
  · obtain ⟨rfl, htakes⟩ := htakes
    exact h.of_takesInput htakes (hwhole rfl htakes)
  · have hpasses := h.addressed.passes q
    have hheader := runFunction_header hpasses view p
    rw [List.append_nil]
    refine h.of_same (h.addressed.step (.run q view))
      (congrArg (fun header => header.2.2.1) hheader) ?_
    rw [runFunction_queue hpasses]
    split_ifs with hinput
    · -- the other port has read an input
      have hne : p ≠ q := by
        rintro rfl
        exact htakes ⟨rfl, hinput⟩
      rw [Function.update_of_ne hne]
    · rfl

/-- A request for the history. -/
theorem of_request (h : HoldsNewest p L s log) (hc : octetOf f.octets 0 = Cmd.pdHistory)
    (hport : (octetOf f.octets 1).toNat = p) (hlenIn : octetOf f.octets 3 = L)
    (hlen : 4 ≤ f.octets.length) (hrunning : b.appPortState p = .running) :
    HoldsNewest p L (s.handle b f) [] := by
  have haddressed := h.addressed.step (.connection b f)
  rw [portStep, handle_history hc hport hlen hrunning] at haddressed
  rw [handle_history hc hport hlen hrunning]
  obtain ⟨hcmd, -, hqueue⟩ := Shared.mk.inj (historyRunning_shared p (s.receive f))
  refine ⟨haddressed, .inr ?_, ?_, fun x hx => absurd hx List.not_mem_nil⟩
  · refine (congrArg IolCmd.lenIn (congrFun hcmd p)).trans ?_
    rw [Function.update_self]
    exact (s.get_receive f (by omega)).trans hlenIn
  · have hempty : ((s.receive f).historyRunning p).queue p = .empty := by
      refine (congrFun hqueue p).trans ?_
      rw [Function.update_self]
    rw [hempty, List.rtake_nil]
    rfl

/-- The reply to a request. -/
theorem sent_of_request (h : HoldsNewest p L s log) (hc : octetOf f.octets 0 = Cmd.pdHistory)
    (hport : (octetOf f.octets 1).toNat = p) (hlenIn : octetOf f.octets 3 = L)
    (hlen : 4 ≤ f.octets.length) (hrunning : b.appPortState p = .running)
    (hfits : 5 + (s.queue p).items.length * L.toNat ≤ 1024) :
    (s.handle b f).sent = [historyReply f (log.rtake maxPdInQueueSize)] := by
  have hget : ∀ i < f.octets.length, (s.receive f).buffer.get i = octetOf f.octets i :=
    fun i hi => s.get_receive f hi
  have hcount : (s.queue p).items.length = (log.rtake maxPdInQueueSize).length := by
    rw [← h.queue, List.length_map]
  have hbuffer : 5 + ((s.receive f).queue p).items.length *
      ((s.receive f).buffer.get 3).toNat ≤ 1024 := by
    rw [hget 3 (by omega), hlenIn]
    exact hfits
  rw [handle_history hc hport hlen hrunning, historyRunning_sent rfl hbuffer, hget 0 (by omega),
    hget 1 (by omega), hget 2 (by omega), hget 3 (by omega), hc, historyReply, ← hcount,
    ← h.queue, hlenIn]
  rfl

end HoldsNewest

theorem asksHistory_of_port (hc : octetOf f.octets 0 = Cmd.pdHistory)
    (hport : (octetOf f.octets 1).toNat = p) : AsksHistory p f := by
  have hle : octetOf f.octets 1 ≤ 1 := by
    rw [UInt8.le_iff_toNat_le, hport]
    exact Nat.le_of_lt_succ p.isLt
  exact ⟨hc, Fin.ext ((toNat_eq_portOf hle).symm.trans hport)⟩

variable {log : List (List Octet)} {i : PortStep}

/-- **One step** of the server is one step of the log. -/
theorem HoldsNewest.step (h : HoldsNewest p L s log)
    (hi : HistoryStep p L s i ∧ WholeSample p s i) :
    HoldsNewest p L (s.portStep i) (Recent.step log (logEvent p s i)) := by
  obtain ⟨hstep, hwhole⟩ := hi
  cases i with
  | run q view => exact h.of_run q view hwhole
  | connection b f =>
    rcases hstep with hforeign | ⟨hc, hport, hlenIn, hlen, hrunning, -⟩
    · have hasks : ¬ AsksHistory p f := fun h => hforeign h.2
      rw [logEvent, if_neg hasks, Recent.step, List.append_nil]
      exact h.of_foreign hforeign b
    · rw [logEvent, if_pos (asksHistory_of_port hc hport)]
      exact h.of_request hc hport hlenIn hlen hrunning

theorem HoldsNewest.delivers (h : HoldsNewest p L s log) (hi : HistoryStep p L s i) :
    DeliversNewest p (s, log) i := by
  cases i with
  | run q view => trivial
  | connection b f =>
    intro hasks
    obtain ⟨hc, hport, hlenIn, hlen, hrunning, hfits⟩ := hi.resolve_left (absurd hasks.2)
    have hcount : (log.rtake maxPdInQueueSize).length ≤ 255 := by
      rw [Recent.length_rtake]
      exact Nat.min_le_left _ _
    refine ⟨_, rfl, h.sent_of_request hc hport hlenIn hlen hrunning hfits,
      toNat_ofNat (Nat.lt_succ_of_le hcount), fun x hx => ?_⟩
    rw [hlenIn]
    exact h.length x (List.mem_of_mem_drop hx)

/-- What is delivered is what the log hands on. -/
theorem HoldsNewest.samplesDelivered_eq (h : HoldsNewest p L s log) (hi : HistoryStep p L s i) :
    samplesDelivered p s i = Recent.handed maxPdInQueueSize log (logEvent p s i) := by
  cases i with
  | run q view => rfl
  | connection b f =>
    rw [samplesDelivered, logEvent]
    split_ifs with hasks
    · obtain ⟨samples, hsamples, hsent, -, hlen⟩ := h.delivers hi hasks
      have hle : samples.length ≤ 255 := by
        rw [hsamples, Recent.length_rtake]
        exact Nat.min_le_left _ _
      rw [hsent, List.flatMap_singleton, historySamples_reply hle hlen]
      exact hsamples
    · rfl

theorem recorded_logEvent (p : PortIndex) (s : Server) (i : PortStep) :
    Recent.recorded (logEvent p s i) = samplesRead p s i := by
  cases i with
  | run q view => rfl
  | connection b f =>
    rw [logEvent]
    split_ifs
    · rfl
    · rfl

/-! ### Sequences -/

/-- **Only the oldest samples get lost** in a sequence of requests with a fixed `LenIn` and runs, if
every valid input has the length that is asked for. -/
theorem losesOnlyOldest (p : PortIndex) (L : Octet) (steps : List PortStep)
    (h : Runs.Admissible portStep (fun s i => HistoryStep p L s i ∧ WholeSample p s i) {} steps) :
    LosesOnlyOldest p steps := by
  have hstart : HoldsNewest p L {} [] :=
    ⟨fun _ => .inr ⟨rfl, rfl⟩, .inl rfl, rfl, fun x hx => absurd hx List.not_mem_nil⟩
  refine ⟨?_, ?_⟩
  · exact Recent.admissible_logStep (R := HoldsNewest p L) (fun _ _ _ h hi => h.delivers hi.1)
      (fun _ _ _ h hi => h.step hi) hstart h
  · have hsublist := Recent.handed_sublist (R := HoldsNewest p L)
      (fun _ _ _ h hi => h.samplesDelivered_eq hi.1) (fun _ _ _ h hi => h.step hi) hstart h
    simp only [recorded_logEvent, List.nil_append] at hsublist
    exact hsublist

/-- A request for the history, with samples of four octets. -/
private def historyRequest : Frame := ⟨[Cmd.pdHistory, 0, 0, 4], Nat.le_of_ble_eq_true rfl⟩

/-- A run that reads these octets, which the device has marked as valid. -/
private def inputRun (data : List Octet) (h : data.length ≤ pdMaxSize) : PortStep :=
  .run (portOf 0) { pdIn := some ⟨0, data, h⟩ }

/-- Two samples of four octets. -/
theorem losesOnlyOldest_twoSamples : LosesOnlyOldest 0
    [.connection (.quiet .running) historyRequest, inputRun [1, 2, 3, 4] (by decide),
      inputRun [5, 6, 7, 8] (by decide), .connection (.quiet .running) historyRequest] := by
  refine losesOnlyOldest 0 4 _ ⟨⟨.inr ⟨rfl, rfl, rfl, ?_, rfl, ?_⟩, trivial⟩, ⟨trivial, ?_⟩,
    ⟨trivial, ?_⟩, ⟨.inr ⟨rfl, rfl, rfl, ?_, rfl, ?_⟩, trivial⟩, trivial⟩
  · decide
  · decide +kernel
  · exact fun _ _ => by decide +kernel
  · exact fun _ _ => by decide +kernel
  · decide
  · decide +kernel

/-- **A sample that nobody has read.** Four octets are asked for and the device has two: the history
delivers these two and two octets of the command record. -/
theorem not_losesOnlyOldest_shortInput :
    Runs.Admissible portStep (HistoryStep 0 4) {} [.connection (.quiet .running) historyRequest,
      inputRun [1, 2] (by decide), .connection (.quiet .running) historyRequest] ∧
    ¬ LosesOnlyOldest 0 [.connection (.quiet .running) historyRequest, inputRun [1, 2] (by decide),
      .connection (.quiet .running) historyRequest] := by
  constructor
  · refine ⟨.inr ⟨rfl, rfl, rfl, ?_, rfl, ?_⟩, trivial, .inr ⟨rfl, rfl, rfl, ?_, rfl, ?_⟩, trivial⟩
    · decide
    · decide +kernel
    · decide
    · decide +kernel
  · intro h
    exact absurd h.inOrder (by decide +kernel)

end Server

end IolHat

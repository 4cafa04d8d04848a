import IolHat.Application.Clients

/-!
# What the server does for a request

`Command` is what a client asks of the server of a chip, and `Shared.serve` what it is for, without
messages and buffers: what is asked of the chip, what becomes of the records, and what the caller is
told. `does_request`: the server does just that, whatever its buffers hold, and says so in its
reply.
-/

namespace IolHat

open Octets

/-! ### What a call is for -/

/-- What a client asks of the server of a chip. -/
inductive Command
  | power (p : PortIndex) (status : Octet)
  | led (p : PortIndex) (status : Octet)
  | pd (p : PortIndex) (lenOut lenIn : Octet) (pdOut : List Octet)
  | status (p : PortIndex)
  | status2 (p : PortIndex)
  | status3

/-- What it is told. -/
inductive Answer
  | done
  | data (octets : List Octet)
  | record (st : IolStatus)
  | chip (regStatus : Octet)

/-- The number of a port. -/
def portOctet (p : PortIndex) : Octet := UInt8.ofNat p

/-- The message of a request. -/
def Command.octets : Command → List Octet
  | .power p v => [Cmd.pwr, portOctet p, v]
  | .led p v => [Cmd.led, portOctet p, v]
  | .pd p lenOut lenIn pdOut => [Cmd.pd, portOctet p, lenOut, lenIn] ++ pdOut
  | .status p => [Cmd.status, portOctet p]
  | .status2 p => [Cmd.status2, portOctet p]
  | .status3 => [Cmd.status3]

namespace Shared

def setCmd (r : Shared) (p : PortIndex) (c : IolCmd) : Shared :=
  { r with cmd := Function.update r.cmd p c }

def setStatus (r : Shared) (p : PortIndex) (st : IolStatus) : Shared :=
  { r with status := Function.update r.status p st }

/-- The command record of an exchange of process data. -/
def pdCmd (r : Shared) (p : PortIndex) (lenOut lenIn : Octet) : IolCmd :=
  { r.cmd p with
    command := Cmd.pd, port := portOctet p, lenOut := lenOut, lenIn := lenIn, dataOut := .fill 0 }

/-- An exchange of process data. A port with IO-Link running takes the output data and shows its
last input. A port in SIO mode shows its input if it has one, and takes an output otherwise. -/
def exchange (b : Backend) (r : Shared) (p : PortIndex) (lenOut lenIn : Octet)
    (pdOut : List Octet) : Answer × List ServerCall × Shared :=
  let c := r.pdCmd p lenOut lenIn
  let output := c.dataOut.write 0 pdOut
  if b.appPortState p = .running then
    (.data (c.dataIn.slice 0 lenIn.toNat), [], r.setCmd p { c with dataOut := output })
  else
    let input := b.pdInData p
    let c := { c with dataIn := c.dataIn.write 0 input }
    if 0 < input.length then (.data (input.take lenIn.toNat), [], r.setCmd p c)
    else if 0 < lenOut then
      (.data [], [.pdOut p true (output.slice 0 1)], r.setCmd p { c with dataOut := output })
    else (.data [], [], r.setCmd p c)

/-- What a request is for. -/
def serve (b : Backend) (r : Shared) : Command → Answer × List ServerCall × Shared
  | .power p v => (.done, [.setPower p (v ≠ 0)], r)
  | .led p v => (.done, [.setLed p (v &&& 1 ≠ 0) (v &&& 2 ≠ 0)], r)
  | .pd p lenOut lenIn pdOut => r.exchange b p lenOut lenIn pdOut
  | .status p =>
    let st := Server.freshStatus b p (r.status p)
    (.record st, [], r.setStatus p st)
  | .status2 p =>
    let st := Server.freshStatus b p (r.status p)
    (.record st, [], r.setStatus p st)
  | .status3 => (.chip b.regStatus, [], r)

end Shared

/-- A request that asks for no more than there is: as much output as it announces, and of a port in
SIO mode no more input than the port has. -/
def Command.Clear (b : Backend) : Command → Prop
  | .pd p lenOut lenIn pdOut => pdOut.length = lenOut.toNat ∧
      (b.appPortState p = .running ∨ lenIn.toNat ≤ (b.pdInData p).length)
  | _ => True

/-! ### The server -/

/-- A message as the server reads it. -/
def Frame.ofMessage (octets : List Octet) : Frame :=
  ⟨octets.take 1024, List.length_take_le _ _⟩

/-- A reply that says an answer to a request. -/
def Command.Says (reply : List Octet) : Command → Answer → Prop
  | .power .., .done => reply.length = 3
  | .led .., .done => reply.length = 3
  | .pd _ _ lenIn _, .data octets =>
    octets.length = lenIn.toNat ∧ ∃ header, header.length = 4 ∧ reply = header ++ octets
  | .status _, .record st => ∃ header, header.length = 2 ∧ reply = header ++ st.octets.dropLast
  | .status2 _, .record st => ∃ header, header.length = 2 ∧ reply = header ++ st.octets
  | .status3, .chip regStatus => reply = [Cmd.status3, regStatus]
  | _, _ => False

namespace Server

variable {b : Backend} {p : PortIndex} {s : Server} {octets : List Octet}

/-- What a connection has done: its one reply, what it has asked of the chip, and the records. -/
structure Does (s : Server) (reply : List Octet) (asked : List ServerCall) (records : Shared) :
    Prop where
  sent : s.sent = [reply]
  calls : s.calls = asked
  shared : s.shared = records

theorem portOctet_le (p : PortIndex) : portOctet p ≤ 1 := by
  revert p
  decide

theorem portOf_portOctet (p : PortIndex) : portOf (portOctet p) = p := by
  revert p
  decide

/-- A message for a port that exists. -/
theorem handle_message (htwo : 2 ≤ octets.length) (hlength : octets.length ≤ 1024)
    (hport : octetOf octets 1 = portOctet p) :
    s.handle b (.ofMessage octets) =
      (s.receive (.ofMessage octets)).command b p octets.length := by
  have hoctets : (Frame.ofMessage octets).octets = octets := List.take_of_length_le hlength
  have hone : octetOf (Frame.ofMessage octets).octets 1 = portOctet p := by rw [hoctets, hport]
  have hle : octetOf (Frame.ofMessage octets).octets 1 ≤ 1 := hone ▸ portOctet_le p
  rw [handle_of_port (by rwa [hoctets]) hle, Frame.port, hone, portOf_portOctet, hoctets]

theorem get_message (hlength : octets.length ≤ 1024) {i : ℕ} (hi : i < octets.length) :
    (s.receive (.ofMessage octets)).buffer.get i = octetOf octets i := by
  have hoctets : (Frame.ofMessage octets).octets = octets := List.take_of_length_le hlength
  rw [s.get_receive _ (by rwa [hoctets]), hoctets]

theorem slice_message (hlength : octets.length ≤ 1024) {n : ℕ} (hn : n ≤ octets.length) :
    (s.receive (.ofMessage octets)).buffer.slice 0 n = octets.take n := by
  have hoctets : (Frame.ofMessage octets).octets = octets := List.take_of_length_le hlength
  rw [s.slice_receive _ (by rwa [hoctets]), hoctets]

/-- A reply from the front of the buffer. -/
theorem does_sendBuffer (hs : s.sent = []) {n : ℕ} (hpos : 0 < n) (hn : n ≤ 1024) :
    (s.sendBuffer n).Does (s.buffer.slice 0 n) s.calls s.shared := by
  refine ⟨sent_sendBuffer hs hpos hn, ?_, ?_⟩ <;> unfold sendBuffer sendLen <;> split_ifs <;> rfl

/-! ### One request -/

/-- `CMD_PWR` and `CMD_LED`. -/
theorem does_channel {c v : Octet} {asked : ServerCall} (body : Server → Server)
    (hcommand : ∀ r : Server, r.buffer.get 0 = c → r.command b p 3 = r.checked true body)
    (hbody : ∀ r : Server, r.buffer.get 2 = v → body r = (r.call asked).sendBuffer 3) :
    ∃ reply, (s.handle b (.ofMessage [c, portOctet p, v])).Does reply [asked] s.shared ∧
      reply.length = 3 := by
  have hget : ∀ {i}, i < 3 → (s.receive (.ofMessage [c, portOctet p, v])).buffer.get i =
      octetOf [c, portOctet p, v] i := fun hi => get_message (by simp) hi
  rw [handle_message (p := p) (by simp) (by simp) rfl]
  have hone : (s.receive (.ofMessage [c, portOctet p, v])).buffer.get 1 ≤ 1 := by
    rw [hget (by omega)]
    exact portOctet_le p
  rw [show [c, portOctet p, v].length = 3 from rfl, hcommand _ (hget (by omega)), checked_eq hone,
    if_pos rfl, hbody _ (hget (by omega))]
  refine ⟨_, does_sendBuffer rfl (by decide) (by decide), ?_⟩
  exact Buffer.length_slice _ (by decide)

theorem does_power (v : Octet) :
    ∃ reply, (s.handle b (.ofMessage (Command.power p v).octets)).Does reply
      [.setPower p (v ≠ 0)] s.shared ∧ reply.length = 3 := by
  refine does_channel (cmdPwr p) (fun r hzero => ?_) (fun r htwo => ?_)
  · rw [command, hzero]
    rfl
  · rw [cmdPwr, htwo]

theorem does_led (v : Octet) :
    ∃ reply, (s.handle b (.ofMessage (Command.led p v).octets)).Does reply
      [.setLed p (v &&& 1 ≠ 0) (v &&& 2 ≠ 0)] s.shared ∧ reply.length = 3 := by
  refine does_channel (cmdLed p) (fun r hzero => ?_) (fun r htwo => ?_)
  · rw [command, hzero]
    rfl
  · rw [cmdLed, htwo]

/-- `CMD_STATUS` and `CMD_STATUS2`; `octets` is what the former leaves of a record. -/
theorem does_status {c : Octet} (hc : c = Cmd.status ∨ c = Cmd.status2) :
    let st := freshStatus b p (s.status p)
    let octets := if c = Cmd.status then st.octets.dropLast else st.octets
    (s.handle b (.ofMessage [c, portOctet p])).Does ([c, portOctet p] ++ octets) []
      (s.shared.setStatus p st) := by
  intro st octets
  have hget : ∀ {i}, i < 2 → (s.receive (.ofMessage [c, portOctet p])).buffer.get i =
      octetOf [c, portOctet p] i := fun hi => get_message (by simp) hi
  rw [handle_message (p := p) (by simp) (by simp) rfl]
  generalize hr : s.receive (.ofMessage [c, portOctet p]) = r at hget
  have hone : r.buffer.get 1 ≤ 1 := by
    rw [hget (by omega)]
    exact portOctet_le p
  have hzero : r.buffer.get 0 = c := hget (by omega)
  have hcommand : r.command b p 2 = r.checked true (cmdStatus b p) := by
    rw [command, hzero]
    rcases hc with rfl | rfl <;> rfl
  have hfront : r.buffer.slice 0 2 = [c, portOctet p] := hr ▸ slice_message (by simp) (by simp)
  have hlength : octets.length = 13 ∨ octets.length = 14 := by
    rcases hc with rfl | rfl
    · exact .inl rfl
    · exact .inr rfl
  have hstatus : cmdStatus b p r =
      ((r.setStatus p st).put 2 octets).sendBuffer (2 + octets.length) := by
    rw [cmdStatus, hzero, ← hr]
    rfl
  have hreply : ((r.setStatus p st).put 2 octets).buffer.slice 0 (2 + octets.length) =
      [c, portOctet p] ++ octets := by
    rw [← hfront]
    exact Buffer.slice_write _ 2 octets (show 2 + octets.length ≤ 1024 by omega)
  rw [show [c, portOctet p].length = 2 from rfl, hcommand, checked_eq hone, if_pos rfl, hstatus,
    ← hreply]
  have hdoes := does_sendBuffer (s := (r.setStatus p st).put 2 octets) (n := 2 + octets.length)
    (hr ▸ rfl) (by omega) (by omega)
  exact ⟨hdoes.sent, hdoes.calls.trans (hr ▸ rfl), hdoes.shared.trans (hr ▸ rfl)⟩

/-- `CMD_STATUS3`. -/
theorem does_status3 :
    (s.handle b (.ofMessage [Cmd.status3])).Does [Cmd.status3, b.regStatus] [] s.shared := by
  have hget : (s.receive (.ofMessage [Cmd.status3])).buffer.get 0 = Cmd.status3 :=
    get_message (by simp) (by simp)
  have hfront : (s.receive (.ofMessage [Cmd.status3])).buffer.slice 0 1 = [Cmd.status3] :=
    slice_message (by simp) (by simp)
  have hreply : ((s.receive (.ofMessage [Cmd.status3])).put 1 [b.regStatus]).buffer.slice 0 2 =
      [Cmd.status3, b.regStatus] := by
    refine (Buffer.slice_write _ 1 [b.regStatus] (show 2 ≤ 1024 by decide)).trans ?_
    rw [hfront]
    rfl
  rw [handle, if_pos ⟨rfl, hget⟩, ← hreply]
  exact does_sendBuffer rfl (by decide) (by decide)

/-! ### Process data -/

section Exchange

variable {lenOut lenIn : Octet} {pdOut : List Octet}

/-- The message of an exchange is in the buffer. -/
structure HasExchange (r : Server) (p : PortIndex) (lenOut lenIn : Octet) (pdOut : List Octet) :
    Prop where
  front : r.buffer.slice 0 4 = [Cmd.pd, portOctet p, lenOut, lenIn]
  output : r.buffer.slice 4 lenOut.toNat = pdOut
  sent : r.sent = []
  calls : r.calls = []

theorem hasExchange_receive (hlength : pdOut.length = lenOut.toNat) :
    (s.receive (.ofMessage (Command.pd p lenOut lenIn pdOut).octets)).HasExchange p lenOut lenIn
      pdOut := by
  have hout : lenOut.toNat < 256 := lenOut.toNat_lt
  have hmessage : (Command.pd p lenOut lenIn pdOut).octets.length = 4 + lenOut.toNat := by
    simp [Command.octets, hlength]
    omega
  have hfront : (s.receive (.ofMessage (Command.pd p lenOut lenIn pdOut).octets)).buffer.slice 0 4 =
      [Cmd.pd, portOctet p, lenOut, lenIn] := slice_message (by omega) (by omega)
  refine ⟨hfront, ?_, rfl, rfl⟩
  have hall := @slice_message s (Command.pd p lenOut lenIn pdOut).octets (by omega) _
    (Nat.le_of_eq hmessage.symm)
  rw [Buffer.slice_add, hfront, ← hmessage, List.take_length] at hall
  exact List.append_cancel_left hall

variable {r : Server}

theorem HasExchange.get (h : r.HasExchange p lenOut lenIn pdOut) {i : ℕ} (hi : i < 4) :
    r.buffer.get i = octetOf [Cmd.pd, portOctet p, lenOut, lenIn] i :=
  Buffer.get_of_slice _ h.front hi

/-- The command record of the exchange. -/
theorem HasExchange.clearedPdCmd_eq (h : r.HasExchange p lenOut lenIn pdOut) :
    r.clearedPdCmd p = r.shared.pdCmd p lenOut lenIn := by
  rw [clearedPdCmd, Server.pdCmd, h.get (by decide), h.get (by decide), h.get (by decide)]
  rfl

/-- What is behind the header of a reply. -/
theorem slice_put_put (r : Server) {data : List Octet} (hdata : data.length ≤ 1020) (a : Octet)
    {n : ℕ} (hn : n ≤ data.length) :
    ((r.put 4 data).put 3 [a]).buffer.slice 4 n = data.take n := by
  have hlong : ((r.put 4 data).put 3 [a]).buffer.slice 4 data.length = data :=
    (Buffer.slice_write_of_disjoint _ [a] (.inl (Nat.le_refl 4))).trans
      (Buffer.slice_write_self _ 4 data (show 4 + data.length ≤ 1024 by omega))
  calc ((r.put 4 data).put 3 [a]).buffer.slice 4 n
      = (((r.put 4 data).put 3 [a]).buffer.slice 4 data.length).take n := by
        rw [Buffer.slice, Buffer.slice, List.take_take, Nat.min_eq_left hn]
    _ = data.take n := by rw [hlong]

/-- A reply with `n` octets behind its header. -/
theorem does_data {r : Server} (hr : r.sent = []) {n : ℕ} (hn : n < 256) {data : List Octet}
    (hdata : r.buffer.slice 4 n = data) :
    ∃ reply, (r.sendBuffer (n + 4)).Does reply r.calls r.shared ∧ data.length = n ∧
      ∃ header, header.length = 4 ∧ reply = header ++ data := by
  have hlength : (r.buffer.slice 4 n).length = n :=
    Buffer.length_slice _ (show 4 + n ≤ 1024 by omega)
  refine ⟨_, does_sendBuffer hr (by omega) (by omega), hdata ▸ hlength, r.buffer.slice 0 4, ?_, ?_⟩
  · exact Buffer.length_slice _ (by decide)
  · rw [Nat.add_comm, Buffer.slice_add, hdata]

/-- An exchange while IO-Link is running. -/
theorem does_pdRunning (h : r.HasExchange p lenOut lenIn pdOut) :
    let c := r.shared.pdCmd p lenOut lenIn
    ∃ reply, ((r.pdRunning p c).sendBuffer (c.lenIn.toNat + 4)).Does reply []
        (r.shared.setCmd p { c with dataOut := c.dataOut.write 0 pdOut }) ∧
      (c.dataIn.slice 0 lenIn.toNat).length = lenIn.toNat ∧
        ∃ header, header.length = 4 ∧ reply = header ++ c.dataIn.slice 0 lenIn.toNat := by
  intro c
  have hin : lenIn.toNat < 256 := lenIn.toNat_lt
  have hlength : (c.dataIn.slice 0 lenIn.toNat).length = lenIn.toNat :=
    Buffer.length_slice _ (show 0 + lenIn.toNat ≤ 256 by omega)
  have hout : r.copyOut c = { c with dataOut := c.dataOut.write 0 pdOut } := by
    rw [copyOut, show c.lenOut = lenOut from rfl, h.output]
  have hdata : (r.pdRunning p c).buffer.slice 4 lenIn.toNat = c.dataIn.slice 0 lenIn.toNat := by
    refine (slice_put_put _ (by rw [hlength]; omega) _ (Nat.le_of_eq hlength.symm)).trans ?_
    exact List.take_of_length_le (Nat.le_of_eq hlength)
  obtain ⟨reply, hdoes, hrest⟩ := does_data (r := r.pdRunning p c) h.sent hin hdata
  refine ⟨reply, ⟨hdoes.sent, hdoes.calls.trans h.calls, hdoes.shared.trans ?_⟩, hrest⟩
  rw [← hout]
  rfl

/-- An exchange with a port in SIO mode. -/
theorem does_pdSio (h : r.HasExchange p lenOut lenIn pdOut)
    (hclear : lenIn.toNat ≤ (b.pdInData p).length) (hrunning : b.appPortState p ≠ .running) :
    let c := r.shared.pdCmd p lenOut lenIn
    ∃ data asked records reply, r.shared.exchange b p lenOut lenIn pdOut =
        (.data data, asked, records) ∧
      ((r.pdSio b p c).sendBuffer (c.lenIn.toNat + 4)).Does reply asked records ∧
        data.length = lenIn.toNat ∧ ∃ header, header.length = 4 ∧ reply = header ++ data := by
  intro c
  have hin : lenIn.toNat < 256 := lenIn.toNat_lt
  have hinput : (b.pdInData p).length ≤ 32 := length_pdInData_le b p
  have hout : r.copyOut (copyIn b p c) =
      { copyIn b p c with dataOut := c.dataOut.write 0 pdOut } := by
    rw [copyOut, show (copyIn b p c).lenOut = lenOut from rfl, h.output]
    rfl
  by_cases hpos : 0 < (b.pdInData p).length
  · -- the input is behind the header
    have hfront : (copyIn b p c).dataIn.slice 0 (b.pdInData p).length = b.pdInData p :=
      Buffer.slice_zero_write _ (by omega)
    have hdata : (r.pdSio b p c).buffer.slice 4 lenIn.toNat =
        (b.pdInData p).take lenIn.toNat := by
      rw [pdSio_of_input hpos, hfront]
      exact slice_put_put _ (by omega) _ hclear
    obtain ⟨reply, hdoes, hrest⟩ := does_data (r := r.pdSio b p c)
      (by rw [pdSio_of_input hpos]; exact h.sent) hin hdata
    refine ⟨_, [], r.shared.setCmd p (copyIn b p c), reply, ?_, ⟨hdoes.sent, ?_, ?_⟩, hrest⟩
    · rw [Shared.exchange, if_neg hrunning, if_pos hpos]
      rfl
    · refine hdoes.calls.trans ?_
      rw [pdSio_of_input hpos]
      exact h.calls
    · refine hdoes.shared.trans ?_
      rw [pdSio_of_input hpos]
      rfl
  · have hzero : (b.pdInData p).length = 0 := by omega
    have hnone : lenIn.toNat = 0 := by omega
    have hdata : ∀ t : Server, t.buffer.slice 4 lenIn.toNat = [] := by
      intro t
      rw [hnone]
      exact List.take_zero
    by_cases hlenOut : 0 < lenOut
    · have hsio : r.pdSio b p c = r.setOutput p (copyIn b p c) := pdSio_of_output hzero hlenOut r
      obtain ⟨reply, hdoes, hrest⟩ := does_data (r := r.pdSio b p c) (by rw [hsio]; exact h.sent)
        hin (hdata _)
      refine ⟨[], [.pdOut p true ((c.dataOut.write 0 pdOut).slice 0 1)],
        r.shared.setCmd p { copyIn b p c with dataOut := c.dataOut.write 0 pdOut }, reply, ?_,
        ⟨hdoes.sent, ?_, ?_⟩, hrest⟩
      · rw [Shared.exchange, if_neg hrunning, if_neg hpos, if_pos hlenOut]
        rfl
      · refine hdoes.calls.trans ?_
        rw [hsio, setOutput, hout]
        exact congrArg (· ++ _) h.calls
      · refine hdoes.shared.trans ?_
        rw [hsio, setOutput, hout]
        rfl
    · have hsio : r.pdSio b p c = r.setCmd p (copyIn b p c) := pdSio_of_neither hzero hlenOut r
      obtain ⟨reply, hdoes, hrest⟩ := does_data (r := r.pdSio b p c) (by rw [hsio]; exact h.sent)
        hin (hdata _)
      refine ⟨[], [], r.shared.setCmd p (copyIn b p c), reply, ?_, ⟨hdoes.sent, ?_, ?_⟩, hrest⟩
      · rw [Shared.exchange, if_neg hrunning, if_neg hpos, if_neg hlenOut]
        rfl
      · refine hdoes.calls.trans ?_
        rw [hsio]
        exact h.calls
      · refine hdoes.shared.trans ?_
        rw [hsio]
        rfl

/-- `CMD_PD`. -/
theorem does_pd (hclear : (Command.pd p lenOut lenIn pdOut).Clear b) :
    ∃ data asked records reply, s.shared.exchange b p lenOut lenIn pdOut =
        (.data data, asked, records) ∧
      (s.handle b (.ofMessage (Command.pd p lenOut lenIn pdOut).octets)).Does reply asked records ∧
        data.length = lenIn.toNat ∧ ∃ header, header.length = 4 ∧ reply = header ++ data := by
  obtain ⟨hlength, hinput⟩ := hclear
  have hout : lenOut.toNat < 256 := lenOut.toNat_lt
  have hmessage : (Command.pd p lenOut lenIn pdOut).octets.length = 4 + lenOut.toNat := by
    simp [Command.octets, hlength]
    omega
  have hr : (s.receive (.ofMessage (Command.pd p lenOut lenIn pdOut).octets)).HasExchange p lenOut
      lenIn pdOut := hasExchange_receive hlength
  rw [handle_message (p := p) (by omega) (by omega) rfl]
  have hshared : (s.receive (.ofMessage (Command.pd p lenOut lenIn pdOut).octets)).shared =
      s.shared := rfl
  generalize s.receive (.ofMessage (Command.pd p lenOut lenIn pdOut).octets) = r at hr hshared
  have hone : r.buffer.get 1 ≤ 1 := by
    rw [hr.get (by decide)]
    exact portOctet_le p
  rw [command_pd (hr.get (by decide)), checked_eq hone, if_pos (by simp [hmessage]), cmdPd,
    hr.clearedPdCmd_eq, ← hshared]
  by_cases hrunning : b.appPortState p = .running
  · obtain ⟨reply, hdoes, hrest⟩ := does_pdRunning hr
    rw [if_pos hrunning]
    refine ⟨_, _, _, reply, ?_, hdoes, hrest⟩
    rw [Shared.exchange, if_pos hrunning]
  · rw [if_neg hrunning]
    exact does_pdSio hr (hinput.resolve_left hrunning) hrunning

end Exchange

/-- **One request**: the server does what it is for, and says so. -/
theorem does_request (req : Command) (hclear : req.Clear b) :
    ∃ reply, (s.handle b (.ofMessage req.octets)).Does reply (s.shared.serve b req).2.1
        (s.shared.serve b req).2.2 ∧ req.Says reply (s.shared.serve b req).1 := by
  cases req with
  | power p v => exact does_power v
  | led p v => exact does_led v
  | pd p lenOut lenIn pdOut =>
    obtain ⟨data, asked, records, reply, hserve, hdoes, htold⟩ := does_pd (s := s) hclear
    rw [Shared.serve, hserve]
    exact ⟨reply, hdoes, htold⟩
  | status p => exact ⟨_, does_status (.inl rfl), _, rfl, rfl⟩
  | status2 p => exact ⟨_, does_status (.inr rfl), _, rfl, rfl⟩
  | status3 => exact ⟨_, does_status3, rfl⟩

end Server

end IolHat

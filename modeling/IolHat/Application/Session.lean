import IolHat.Application.ClientCalls
import IolHat.Application.Commands
import IolHat.Lib.Run
import Mathlib.Tactic.IntervalCases

/-!
# Sessions

Two servers, one for each chip, serve the clients of four ports. `Hats.step` is one call of a
client, C or Python, from its arguments to what it returns: the message, the server that gets it,
the reply, and how the client reads it. Between the calls the threads that run the ports change
the records.

`session_refines` says that every session of calls does just what the calls are for, which `Desk`
says without messages and buffers. In particular nothing that an earlier connection has left in a
buffer is ever seen, the ports of one chip do not touch those of the other, and the two clients tell
the same story.
-/

namespace IolHat

open Octets

/-! ### The clients -/

/-- The chips of the four ports. -/
inductive Chip
  | first | second
  deriving DecidableEq

/-- A call of a client, C or Python. -/
inductive ClientOp
  | cPower (port status : Octet)
  | cLed (port status : Octet)
  | cPd (stack : Buffer Octet 1024) (port lenOut lenIn : Octet) (pdOut : List Octet)
  | cReadStatus (port : Octet)
  | cReadStatus2 (port : Octet)
  | cReadStatus3 (chip : Octet)
  | pyPower (port status : ℤ)
  | pyLed (port status : ℤ)
  | pyPd (port lenOut lenIn : ℤ) (pdOut : List Octet)
  | pyReadStatus (port : ℤ)
  | pyReadStatus2 (port : ℤ)
  | pyReadStatus3 (chip : ℤ)

/-- What a call returns. -/
inductive ClientResult
  | c (ret : ℤ)
  | cPd (ret : ℤ) (pdIn : List Octet)
  | cStatus (ret : ℤ) (st : Option IolStatus)
  | py (result : PyResult)
  | pyStatus (st : Option PyStatus)

namespace ClientOp

/-- The call. -/
def run {σ : Type} (wire : Wire σ) (op : ClientOp) (s : σ) : ClientResult × σ :=
  match op with
  | cPower port v => Prod.map .c id (CClient.power wire port v s)
  | cLed port v => Prod.map .c id (CClient.led wire port v s)
  | cPd stack port lenOut lenIn pdOut =>
    Prod.map (fun r => .cPd r.1 r.2) id (CClient.pd wire stack port lenOut lenIn pdOut s)
  | cReadStatus port =>
    Prod.map (fun r => .cStatus r.1 r.2) id (CClient.readStatus wire port s)
  | cReadStatus2 port =>
    Prod.map (fun r => .cStatus r.1 r.2) id (CClient.readStatus2 wire port s)
  | cReadStatus3 chip => Prod.map .c id (CClient.readStatus3 wire chip s)
  | pyPower port v => Prod.map .py id (PyClient.power wire port v s)
  | pyLed port v => Prod.map .py id (PyClient.led wire port v s)
  | pyPd port lenOut lenIn pdOut =>
    Prod.map .py id (PyClient.pd wire port lenOut lenIn pdOut s)
  | pyReadStatus port => Prod.map .pyStatus id (PyClient.readStatus wire port s)
  | pyReadStatus2 port => Prod.map .pyStatus id (PyClient.readStatus2 wire port s)
  | pyReadStatus3 chip => Prod.map .py id (PyClient.readStatus3 wire chip s)

/-- The chip of a port, and the port of that chip. -/
def chipOf (port : ℕ) : Chip := if port < 2 then .first else .second

def indexOf (port : ℕ) : PortIndex := portOf (UInt8.ofNat (port % 2))

/-- What a call asks, and of which chip; `none` if it does not accept its arguments. -/
def target : ClientOp → Option (Chip × Command)
  | cPower port v =>
    if 3 < port ∨ 1 < v then none
    else some (chipOf port.toNat, .power (indexOf port.toNat) v)
  | cLed port v =>
    if 3 < port ∨ 2 < v then none else some (chipOf port.toNat, .led (indexOf port.toNat) v)
  | cPd _ port lenOut lenIn pdOut =>
    if 3 < port then none
    else some (chipOf port.toNat,
      .pd (indexOf port.toNat) lenOut lenIn (pdOut.take lenOut.toNat))
  | cReadStatus port =>
    if 3 < port then none else some (chipOf port.toNat, .status (indexOf port.toNat))
  | cReadStatus2 port =>
    if 3 < port then none else some (chipOf port.toNat, .status2 (indexOf port.toNat))
  | cReadStatus3 chip =>
    if 1 < chip then none else some (if chip = 0 then .first else .second, .status3)
  | pyPower port v =>
    if port ∉ [0, 1, 2, 3] ∨ v ∉ [0, 1] then none
    else some (chipOf port.toNat, .power (indexOf port.toNat) (PyClient.packB v))
  | pyLed port v =>
    if port ∉ [0, 1, 2, 3] ∨ v ∉ [0, 1, 2, 3] then none
    else some (chipOf port.toNat, .led (indexOf port.toNat) (PyClient.packB v))
  | pyPd port lenOut lenIn pdOut =>
    if port ∉ [0, 1, 2, 3] ∨ ¬ (0 ≤ lenOut ∧ lenOut ≤ 0xFF ∧ 0 ≤ lenIn ∧ lenIn ≤ 0xFF) then none
    else some (chipOf port.toNat, .pd (indexOf port.toNat) (PyClient.packB lenOut)
      (PyClient.packB lenIn) (if 0 < lenOut then pdOut else []))
  | pyReadStatus port =>
    if port ∉ [0, 1, 2, 3] then none
    else some (chipOf port.toNat, .status (indexOf port.toNat))
  | pyReadStatus2 port =>
    if port ∉ [0, 1, 2, 3] then none
    else some (chipOf port.toNat, .status2 (indexOf port.toNat))
  | pyReadStatus3 chip =>
    if chip ∉ [0, 1] then none else some (if chip = 0 then .first else .second, .status3)

/-- What a call returns that does not accept its arguments. -/
def rejected : ClientOp → ClientResult
  | cPower .. => .c CClient.cmdFail
  | cLed .. => .c CClient.cmdFail
  | cPd .. => .cPd CClient.cmdFail []
  | cReadStatus _ => .cStatus CClient.cmdFail none
  | cReadStatus2 _ => .cStatus CClient.cmdFail none
  | cReadStatus3 _ => .c CClient.cmdFail
  | pyPower .. => .py .raises
  | pyLed .. => .py .raises
  | pyPd .. => .py .raises
  | pyReadStatus _ => .pyStatus none
  | pyReadStatus2 _ => .pyStatus none
  | pyReadStatus3 _ => .py .raises

/-- What a call returns that has been answered. -/
def tell (op : ClientOp) (a : Answer) : ClientResult :=
  match op, a with
  | cPower .., .done => .c CClient.cmdSuccess
  | cLed .., .done => .c CClient.cmdSuccess
  | cPd .., .data octets => .cPd CClient.cmdSuccess octets
  | cReadStatus _, .record st => .cStatus CClient.cmdSuccess (some { st with error := 0 })
  | cReadStatus2 _, .record st => .cStatus CClient.cmdSuccess (some st)
  | cReadStatus3 _, .chip regStatus => .c regStatus.toNat
  | pyPower .., .done => .py (.int PyClient.cmdSuccess)
  | pyLed .., .done => .py (.int PyClient.cmdSuccess)
  | pyPd .., .data octets => .py (.bytes octets)
  | pyReadStatus _, .record st => .pyStatus (some (.ofStatus st none))
  | pyReadStatus2 _, .record st => .pyStatus (some (.ofStatus st (some st.error.toNat)))
  | pyReadStatus3 _, .chip regStatus => .py (.int regStatus.toNat)
  | op, _ => op.rejected

/-- The TCP port of a chip. -/
def tcpOf : Chip → ℕ
  | .first => tcpPort1
  | .second => tcpPort2

/-- The message goes to the server of the port's chip, which has a number of its own for it. -/
theorem c_port {port : Octet} (h : ¬ 3 < port) :
    CClient.tcpPort port = tcpOf (chipOf port.toNat) ∧
      CClient.chipPort port = portOctet (indexOf port.toNat) := by
  have hle : port.toNat ≤ 3 := UInt8.le_iff_toNat_le.mp (UInt8.not_lt.mp h)
  obtain ⟨n, hn, rfl⟩ : ∃ n ≤ 3, port = UInt8.ofNat n :=
    ⟨port.toNat, hle, UInt8.ofNat_toNat.symm⟩
  interval_cases n <;> decide

theorem py_port {port : ℤ} (h : ¬ port ∉ [0, 1, 2, 3]) :
    PyClient.tcpPort port = tcpOf (chipOf port.toNat) ∧
      PyClient.packB (PyClient.chipPort port) = portOctet (indexOf port.toNat) := by
  have h := not_not.mp h
  simp only [List.mem_cons, List.not_mem_nil, or_false] at h
  rcases h with rfl | rfl | rfl | rfl <;> decide

private theorem of_ite_none {α : Type} {A : Prop} [Decidable A] {x : α}
    (h : (if A then none else some x) = none) : A := by
  by_contra hA
  rw [if_neg hA] at h
  cases h

private theorem of_ite_some {α : Type} {A : Prop} [Decidable A] {x y : α}
    (h : (if A then none else some x) = some y) : ¬ A ∧ x = y := by
  split_ifs at h with hA
  exact ⟨hA, Option.some.inj h⟩

variable {σ : Type} {wire : Wire σ} {s s' : σ} {op : ClientOp} {reply : List Octet}

theorem setChannel_of_rejected {command maxStatus port v : Octet} (h : 3 < port ∨ maxStatus < v) :
    CClient.setChannel wire command maxStatus port v s = (CClient.cmdFail, s) := by
  rw [CClient.setChannel]
  rcases h with hport | hv
  · rw [if_pos hport]
  · rw [if_pos hv, ite_self]

theorem setChannel_of_received {command maxStatus port v : Octet}
    (h : ¬ (3 < port ∨ maxStatus < v))
    (hwire : wire (tcpOf (chipOf port.toNat)) [command, portOctet (indexOf port.toNat), v] s =
      (.received reply, s')) :
    CClient.setChannel wire command maxStatus port v s = (CClient.cmdSuccess, s') := by
  obtain ⟨hport, hv⟩ := not_or.mp h
  obtain ⟨htcp, hchip⟩ := c_port hport
  rw [CClient.setChannel, if_neg hport, if_neg hv, htcp, hchip, hwire]

theorem readRecord_of_rejected {command : Octet} {expected : ℕ} {port : ℤ}
    (h : port ∉ [0, 1, 2, 3]) :
    PyClient.readRecord wire command expected port s = (none, s) := by
  rw [PyClient.readRecord, if_pos h]

theorem readRecord_of_received {command : Octet} {expected : ℕ} {port : ℤ}
    (h : ¬ port ∉ [0, 1, 2, 3])
    (hwire : wire (tcpOf (chipOf port.toNat)) [command, portOctet (indexOf port.toNat)] s =
      (.received reply, s')) (hlength : reply.length = expected) (htwo : reply.length ≠ 2) :
    PyClient.readRecord wire command expected port s =
      (PyStatus.fromBuffer (reply.drop 2), s') := by
  obtain ⟨htcp, hchip⟩ := py_port h
  rw [PyClient.readRecord, if_neg h, htcp, hchip, hwire]
  dsimp only
  rw [if_neg htwo, if_neg (not_not.mpr hlength)]

/-- The chip whose status is read, by its number. -/
theorem ite_tcpPort (A : Prop) [Decidable A] :
    (if A then tcpPort1 else tcpPort2) = tcpOf (if A then .first else .second) := by
  split_ifs <;> rfl

/-- A call that does not accept its arguments sends nothing. -/
theorem run_of_rejected (h : op.target = none) : op.run wire s = (op.rejected, s) := by
  cases op with
  | cPower port v =>
    rw [run, CClient.power, setChannel_of_rejected (of_ite_none h)]
    rfl
  | cLed port v =>
    rw [run, CClient.led, setChannel_of_rejected (of_ite_none h)]
    rfl
  | cPd stack port lenOut lenIn pdOut =>
    simp only [run, CClient.pd]
    rw [if_pos (of_ite_none h)]
    rfl
  | cReadStatus port =>
    simp only [run, CClient.readStatus]
    rw [if_pos (of_ite_none h)]
    rfl
  | cReadStatus2 port =>
    simp only [run, CClient.readStatus2]
    rw [if_pos (of_ite_none h)]
    rfl
  | cReadStatus3 chip =>
    simp only [run, CClient.readStatus3]
    rw [if_pos (of_ite_none h)]
    rfl
  | pyPower port v =>
    have hrejected := of_ite_none h
    simp only [run, PyClient.power]
    rcases hrejected with hport | hv
    · rw [if_pos hport]
      rfl
    · rw [if_pos hv, ite_self]
      rfl
  | pyLed port v =>
    have hrejected := of_ite_none h
    simp only [run, PyClient.led]
    rcases hrejected with hport | hv
    · rw [if_pos hport]
      rfl
    · rw [if_pos hv, ite_self]
      rfl
  | pyPd port lenOut lenIn pdOut =>
    have hrejected := of_ite_none h
    simp only [run, PyClient.pd]
    rcases hrejected with hport | hlen
    · rw [if_pos hport]
      rfl
    · rw [if_pos hlen, ite_self]
      rfl
  | pyReadStatus port =>
    rw [run, PyClient.readStatus, readRecord_of_rejected (of_ite_none h)]
    rfl
  | pyReadStatus2 port =>
    rw [run, PyClient.readStatus2, readRecord_of_rejected (of_ite_none h)]
    rfl
  | pyReadStatus3 chip =>
    simp only [run, PyClient.readStatus3]
    rw [if_pos (of_ite_none h)]
    rfl

section Received

variable {header octets : List Octet}

/-- What is behind the header of a reply is what a client reads there. -/
theorem slice_reply (stack : Buffer Octet 1024) (hheader : header.length = 4)
    (hlength : octets.length < 256) :
    (stack.write 0 (header ++ octets)).slice 4 octets.length = octets := by
  have hreply : (header ++ octets).length = 4 + octets.length := by
    rw [List.length_append, hheader]
  have hall := stack.slice_zero_write (show (header ++ octets).length ≤ 1024 by omega)
  rw [hreply, Buffer.slice_add] at hall
  have hfour : ((stack.write 0 (header ++ octets)).slice 0 4).length = header.length := by
    rw [hheader]
    exact Buffer.length_slice _ (by decide)
  exact (List.append_inj hall hfour).2

theorem pdIn_of_told {p : PortIndex} {lenOut lenIn : Octet} {pdOut : List Octet}
    (stack : Buffer Octet 1024)
    (h : (Command.pd p lenOut lenIn pdOut).Says reply (.data octets)) :
    (stack.write 0 reply).slice 4 lenIn.toNat = octets ∧ reply.drop 4 = octets := by
  obtain ⟨hlength, header, hheader, rfl⟩ := h
  have hin : lenIn.toNat < 256 := lenIn.toNat_lt
  rw [← hlength]
  exact ⟨slice_reply stack hheader (by omega), List.drop_left' hheader⟩

theorem record_of_told {p : PortIndex} {st : IolStatus}
    (h : (Command.status p).Says reply (.record st)) :
    reply.length = 15 ∧ reply.drop 2 = st.octets.dropLast := by
  obtain ⟨header, hheader, rfl⟩ := h
  refine ⟨?_, List.drop_left' hheader⟩
  rw [List.length_append, hheader]
  rfl

theorem record2_of_told {p : PortIndex} {st : IolStatus}
    (h : (Command.status2 p).Says reply (.record st)) :
    reply.length = 16 ∧ reply.drop 2 = st.octets := by
  obtain ⟨header, hheader, rfl⟩ := h
  refine ⟨?_, List.drop_left' hheader⟩
  rw [List.length_append, hheader]
  rfl

/-- A reply that says an answer is read as that answer. -/
theorem run_of_received {chip : Chip} {req : Command} {a : Answer}
    (h : op.target = some (chip, req))
    (hwire : wire (tcpOf chip) req.octets s = (.received reply, s')) (htold : req.Says reply a) :
    op.run wire s = (op.tell a, s') := by
  cases op with
  | cPower port v =>
    obtain ⟨haccepts, htarget⟩ := of_ite_some h
    obtain ⟨rfl, rfl⟩ := Prod.mk.inj htarget
    rw [run, CClient.power, setChannel_of_received haccepts hwire]
    cases a with
    | done => rfl
    | _ => exact htold.elim
  | cLed port v =>
    obtain ⟨haccepts, htarget⟩ := of_ite_some h
    obtain ⟨rfl, rfl⟩ := Prod.mk.inj htarget
    rw [run, CClient.led, setChannel_of_received haccepts hwire]
    cases a with
    | done => rfl
    | _ => exact htold.elim
  | cPd stack port lenOut lenIn pdOut =>
    obtain ⟨hport, htarget⟩ := of_ite_some h
    obtain ⟨rfl, rfl⟩ := Prod.mk.inj htarget
    obtain ⟨htcp, hchip⟩ := c_port hport
    rw [Command.octets] at hwire
    simp only [run, CClient.pd]
    rw [if_neg hport, htcp, hchip, hwire]
    cases a with
    | data octets =>
      simp only [(pdIn_of_told stack htold).1]
      rfl
    | _ => exact htold.elim
  | cReadStatus port =>
    obtain ⟨hport, htarget⟩ := of_ite_some h
    obtain ⟨rfl, rfl⟩ := Prod.mk.inj htarget
    obtain ⟨htcp, hchip⟩ := c_port hport
    rw [Command.octets] at hwire
    simp only [run, CClient.readStatus]
    rw [if_neg hport, htcp, hchip, hwire]
    cases a with
    | record st =>
      obtain ⟨hlength, hoctets⟩ := record_of_told htold
      simp only [hlength, hoctets, IolStatus.ofOctets_dropLast, ne_eq, not_true, if_false]
      rfl
    | _ => exact htold.elim
  | cReadStatus2 port =>
    obtain ⟨hport, htarget⟩ := of_ite_some h
    obtain ⟨rfl, rfl⟩ := Prod.mk.inj htarget
    obtain ⟨htcp, hchip⟩ := c_port hport
    rw [Command.octets] at hwire
    simp only [run, CClient.readStatus2]
    rw [if_neg hport, htcp, hchip, hwire]
    cases a with
    | record st =>
      obtain ⟨hlength, hoctets⟩ := record2_of_told htold
      simp only [hlength, hoctets, IolStatus.ofOctets_octets]
      rfl
    | _ => exact htold.elim
  | cReadStatus3 n =>
    obtain ⟨hn, htarget⟩ := of_ite_some h
    obtain ⟨rfl, rfl⟩ := Prod.mk.inj htarget
    rw [Command.octets] at hwire
    simp only [run, CClient.readStatus3]
    rw [if_neg hn, ite_tcpPort, hwire]
    cases a with
    | chip regStatus =>
      obtain rfl : reply = [Cmd.status3, regStatus] := htold
      rfl
    | _ => exact htold.elim
  | pyPower port v =>
    obtain ⟨haccepts, htarget⟩ := of_ite_some h
    obtain ⟨rfl, rfl⟩ := Prod.mk.inj htarget
    obtain ⟨hport, hv⟩ := not_or.mp haccepts
    obtain ⟨htcp, hchip⟩ := py_port hport
    rw [Command.octets] at hwire
    simp only [run, PyClient.power]
    rw [if_neg hport, if_neg hv, htcp, hchip, hwire]
    cases a with
    | done =>
      have hlength : reply.length = 3 := htold
      simp only [hlength]
      rfl
    | _ => exact htold.elim
  | pyLed port v =>
    obtain ⟨haccepts, htarget⟩ := of_ite_some h
    obtain ⟨rfl, rfl⟩ := Prod.mk.inj htarget
    obtain ⟨hport, hv⟩ := not_or.mp haccepts
    obtain ⟨htcp, hchip⟩ := py_port hport
    rw [Command.octets] at hwire
    simp only [run, PyClient.led]
    rw [if_neg hport, if_neg hv, htcp, hchip, hwire]
    cases a with
    | done =>
      have hlength : reply.length = 3 := htold
      simp only [hlength]
      rfl
    | _ => exact htold.elim
  | pyPd port lenOut lenIn pdOut =>
    obtain ⟨haccepts, htarget⟩ := of_ite_some h
    obtain ⟨rfl, rfl⟩ := Prod.mk.inj htarget
    obtain ⟨hport, hlengths⟩ := not_or.mp haccepts
    obtain ⟨htcp, hchip⟩ := py_port hport
    rw [Command.octets] at hwire
    simp only [run, PyClient.pd]
    rw [if_neg hport, if_neg hlengths, htcp, hchip, hwire]
    cases a with
    | data octets =>
      simp only [(pdIn_of_told (.fill 0) htold).2]
      rfl
    | _ => exact htold.elim
  | pyReadStatus port =>
    obtain ⟨hport, htarget⟩ := of_ite_some h
    obtain ⟨rfl, rfl⟩ := Prod.mk.inj htarget
    cases a with
    | record st =>
      obtain ⟨hlength, hoctets⟩ := record_of_told htold
      rw [run, PyClient.readStatus, readRecord_of_received hport hwire hlength (by omega), hoctets,
        (PyStatus.fromBuffer_octets st).2]
      rfl
    | _ => exact htold.elim
  | pyReadStatus2 port =>
    obtain ⟨hport, htarget⟩ := of_ite_some h
    obtain ⟨rfl, rfl⟩ := Prod.mk.inj htarget
    cases a with
    | record st =>
      obtain ⟨hlength, hoctets⟩ := record2_of_told htold
      rw [run, PyClient.readStatus2, readRecord_of_received hport hwire hlength (by omega), hoctets,
        (PyStatus.fromBuffer_octets st).1]
      rfl
    | _ => exact htold.elim
  | pyReadStatus3 n =>
    obtain ⟨hn, htarget⟩ := of_ite_some h
    obtain ⟨rfl, rfl⟩ := Prod.mk.inj htarget
    rw [Command.octets] at hwire
    simp only [run, PyClient.readStatus3]
    rw [if_neg hn, ite_tcpPort, hwire]
    cases a with
    | chip regStatus =>
      obtain rfl : reply = [Cmd.status3, regStatus] := htold
      rfl
    | _ => exact htold.elim

end Received

end ClientOp

/-! ### Sessions -/

/-- The servers of both chips, and what they have asked of them. -/
structure Hats where
  server : Chip → Server
  asked : List (Chip × ServerCall) := []

/-- What goes on between clients and servers. -/
inductive SessionInput
  /-- A call of a client, with what chips and stacks answer meanwhile. -/
  | call (chips : Chip → Backend) (op : ClientOp)
  /-- The threads of a chip change its records. -/
  | records (chip : Chip) (r : Shared)

namespace Hats

/-- A message is handled by the server behind its TCP port. -/
def wire (chips : Chip → Backend) : Wire Hats := fun tcp octets h =>
  let chip : Chip := if tcp = tcpPort1 then .first else .second
  let s := (h.server chip).handle (chips chip) (.ofMessage octets)
  (.received (s.sent.head?.getD []),
    { server := Function.update h.server chip s, asked := h.asked ++ s.calls.map (chip, ·) })

def step (h : Hats) : SessionInput → Hats
  | .call chips op => (op.run (wire chips) h).2
  | .records chip r => { h with
      server := Function.update h.server chip
        { h.server chip with cmd := r.cmd, status := r.status, queue := r.queue } }

/-- What a call returns. -/
def out (h : Hats) : SessionInput → List ClientResult
  | .call chips op => [(op.run (wire chips) h).1]
  | .records _ _ => []

end Hats

/-- The records of both chips, and what is asked of them. -/
structure Desk where
  records : Chip → Shared
  asked : List (Chip × ServerCall)

namespace Desk

/-- What a call is for. -/
def serve (d : Desk) (chips : Chip → Backend) (op : ClientOp) : ClientResult × Desk :=
  match op.target with
  | none => (op.rejected, d)
  | some (chip, req) =>
    let (a, asked, r) := (d.records chip).serve (chips chip) req
    (op.tell a, ⟨Function.update d.records chip r, d.asked ++ asked.map (chip, ·)⟩)

def step (d : Desk) : SessionInput → Desk
  | .call chips op => (d.serve chips op).2
  | .records chip r => { d with records := Function.update d.records chip r }

def out (d : Desk) : SessionInput → List ClientResult
  | .call chips op => [(d.serve chips op).1]
  | .records _ _ => []

end Desk

/-- A call that asks for no more than there is. -/
def SessionInput.Clear : SessionInput → Prop
  | .call chips op => ∀ chip req, op.target = some (chip, req) → req.Clear (chips chip)
  | .records _ _ => True

namespace Hats

/-- The records of the servers. -/
def desk (h : Hats) : Desk := ⟨fun chip => (h.server chip).shared, h.asked⟩

theorem desk_update (h : Hats) (chip : Chip) (s : Server) (asked : List (Chip × ServerCall)) :
    desk ⟨Function.update h.server chip s, asked⟩ =
      ⟨Function.update h.desk.records chip s.shared, asked⟩ := by
  refine congrArg (Desk.mk · asked) (funext fun k => ?_)
  show (Function.update h.server chip s k).shared = _
  by_cases hk : k = chip
  · rw [hk, Function.update_self, Function.update_self]
  · rw [Function.update_of_ne hk, Function.update_of_ne hk]
    rfl

variable {chips : Chip → Backend}

/-- A message reaches the server of its chip, which serves it. -/
theorem wire_request (h : Hats) (chip : Chip) {req : Command} (hclear : req.Clear (chips chip)) :
    ∃ reply h', wire chips (ClientOp.tcpOf chip) req.octets h = (.received reply, h') ∧
      req.Says reply ((h.desk.records chip).serve (chips chip) req).1 ∧
        h'.desk = ⟨Function.update h.desk.records chip
          ((h.desk.records chip).serve (chips chip) req).2.2, h.desk.asked ++
            (((h.desk.records chip).serve (chips chip) req).2.1).map (chip, ·)⟩ := by
  obtain ⟨reply, hdoes, htold⟩ := Server.does_request (s := h.server chip) req hclear
  have hchip : (if ClientOp.tcpOf chip = tcpPort1 then .first else .second : Chip) = chip := by
    clear hdoes htold hclear
    cases chip with
    | first => rfl
    | second => rfl
  have hwire : wire chips (ClientOp.tcpOf chip) req.octets h = (.received reply,
      ⟨Function.update h.server chip
          ((h.server chip).handle (chips chip) (.ofMessage req.octets)),
        h.asked ++ (((h.desk.records chip).serve (chips chip) req).2.1).map (chip, ·)⟩) := by
    simp only [wire, hchip, hdoes.sent, hdoes.calls]
    rfl
  refine ⟨reply, _, hwire, htold, ?_⟩
  rw [desk_update, hdoes.shared]
  rfl

/-- **One call** does what it is for. -/
theorem run_eq_serve (h : Hats) (op : ClientOp) (hclear : (SessionInput.call chips op).Clear) :
    (op.run (wire chips) h).1 = (h.desk.serve chips op).1 ∧
      (op.run (wire chips) h).2.desk = (h.desk.serve chips op).2 := by
  unfold Desk.serve
  cases htarget : op.target with
  | none =>
    rw [ClientOp.run_of_rejected htarget]
    exact ⟨rfl, rfl⟩
  | some target =>
    obtain ⟨chip, req⟩ := target
    obtain ⟨reply, h', hwire, htold, hdesk⟩ := h.wire_request chip (hclear chip req htarget)
    rw [ClientOp.run_of_received htarget hwire htold]
    exact ⟨rfl, hdesk⟩

/-- **Every session does what its calls are for.** -/
theorem session_refines (h : Hats) {inputs : List SessionInput}
    (hclear : ∀ i ∈ inputs, i.Clear) :
    Runs.trace step out h inputs = Runs.trace Desk.step Desk.out h.desk inputs ∧
      (Runs.run step h inputs).desk = Runs.run Desk.step h.desk inputs := by
  induction inputs generalizing h with
  | nil => exact ⟨rfl, rfl⟩
  | cons i inputs ih =>
    have hstep : (h.step i).desk = h.desk.step i ∧ h.out i = h.desk.out i := by
      cases i with
      | call chips op =>
        obtain ⟨hret, hdesk⟩ := h.run_eq_serve op (hclear _ List.mem_cons_self)
        exact ⟨hdesk, congrArg ([·]) hret⟩
      | records chip r => exact ⟨desk_update h chip _ h.asked, rfl⟩
    obtain ⟨htrace, hrun⟩ := ih (h.step i) fun j hj => hclear j (List.mem_cons_of_mem _ hj)
    rw [Runs.trace_cons, Runs.trace_cons, Runs.run_cons, Runs.run_cons, htrace, hrun, hstep.1,
      hstep.2]
    exact ⟨rfl, rfl⟩

/-- The second port of the second chip: power, a status record that is read by both clients, and an
exchange of process data. -/
def secondChip : List SessionInput :=
  let chips : Chip → Backend := fun _ => { ClientCall.absentDevice with
    appPortState := fun _ => .running, hwStatus := fun _ => (true, 3, 0),
    vendorid := fun _ => 0x1234 }
  [.call chips (.cPower 3 1), .call chips (.cReadStatus2 3), .call chips (.pyReadStatus 3),
    .call chips (.pyPd 3 2 1 [0xAB, 0xCD]), .call chips (.pyLed 4 1)]

theorem session_refines_secondChip :
    (Runs.trace step out ⟨fun _ => {}, []⟩ secondChip).length = 5 ∧
      (Runs.run step ⟨fun _ => {}, []⟩ secondChip).asked = [(.second, .setPower 1 true)] := by
  have hclear : ∀ i ∈ secondChip, i.Clear := by
    intro i hi
    simp only [secondChip, List.mem_cons, List.not_mem_nil, or_false] at hi
    rcases hi with rfl | rfl | rfl | rfl | rfl
    all_goals intro chip req htarget
    · obtain ⟨rfl, rfl⟩ := Prod.mk.inj (Option.some.inj htarget)
      trivial
    · obtain ⟨rfl, rfl⟩ := Prod.mk.inj (Option.some.inj htarget)
      trivial
    · obtain ⟨rfl, rfl⟩ := Prod.mk.inj (Option.some.inj htarget)
      trivial
    · obtain ⟨rfl, rfl⟩ := Prod.mk.inj (Option.some.inj htarget)
      exact ⟨rfl, .inl rfl⟩
    · exact absurd htarget (Option.some_ne_none _).symm
  obtain ⟨htrace, hrun⟩ := session_refines ⟨fun _ => {}, []⟩ hclear
  exact ⟨congrArg List.length htrace, congrArg Desk.asked hrun⟩

end Hats

end IolHat

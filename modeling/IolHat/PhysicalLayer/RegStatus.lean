import IolHat.Types
import IolHat.Lib.Collector
import IolHat.Lib.Run
import Mathlib.Data.Fintype.Basic

/-!
# The latched faults of the MAX14819

The upper half of the register `REG_Status` is cleared when it is read, and two functions read it:
the interrupt handler of the driver, which keeps what it finds in `latched_reg_status`, and
`get_reg_status`, which answers `CMD_STATUS3` with both. They run in different threads and hold the
mutex `exclusive`; the chip raises faults at any time.

* `StatusSys` is the register, the driver and its threads, and a step one access to the register, to
  the driver structure or to the mutex.
* `StatusSys.ReportedOnce` is what its log should be like, `StatusSys.Answers` and
  `StatusSys.Releases` what keeps the replies coming.
* Such a log is that of a `Collector`, the takes being the commands' reads of the register
  (`StatusSys.reportedOnce_of_run`).
-/

namespace IolHat

/-! ### The register -/

/-- The faults in an octet of `REG_Status`: its upper half. -/
def cor (v : Octet) : Finset (Fin 4) := Finset.univ.filter fun i => v.toBitVec.getLsbD (4 + i)

/-- The bit of a fault. -/
def corMask (i : Fin 4) : Octet := 1 <<< UInt8.ofNat (4 + i)

theorem mem_cor {v : Octet} {i : Fin 4} : i ∈ cor v ↔ v.toBitVec.getLsbD (4 + i) = true := by
  simp [cor]

theorem cor_or (v w : Octet) : cor (v ||| w) = cor v ∪ cor w := by
  ext i
  rw [Finset.mem_union, mem_cor, mem_cor, mem_cor, UInt8.toBitVec_or, BitVec.getLsbD_or,
    Bool.or_eq_true]

@[simp]
theorem cor_high (v : Octet) : cor (v &&& 0xF0) = cor v := by
  ext i
  have hi : (0xF0 : Octet).toBitVec.getLsbD (4 + i) = true := by revert i; decide
  rw [mem_cor, mem_cor, UInt8.toBitVec_and, BitVec.getLsbD_and, hi, Bool.and_true]

@[simp]
theorem cor_low (v : Octet) : cor (v &&& 0x0F) = ∅ := by
  ext i
  have hi : (0x0F : Octet).toBitVec.getLsbD (4 + i) = false := by revert i; decide
  rw [mem_cor, UInt8.toBitVec_and, BitVec.getLsbD_and, hi, Bool.and_false]
  simp

@[simp] theorem cor_zero : cor 0 = ∅ := by decide

@[simp] theorem cor_mask (i : Fin 4) : cor (corMask i) = {i} := by revert i; decide

/-! ### The driver -/

/-- The two channels of the chip. -/
inductive ChipChannel
  | a | b
  deriving DecidableEq, Repr

/-- `MAX14819_INTERRUPT_STATUS`. -/
abbrev interruptStatus : Octet := 0x80

/-- Where a thread is: what it does next. -/
inductive StatusPc
  | idle
  /-- `iolink_pl_max14819_pl_handler`, before it has the mutex. -/
  | lockHandler
  | readInterrupt
  | readStatus
  /-- It writes `latched_reg_status`. -/
  | latch (regStatus : Octet)
  /-- What the handler does then has nothing to do with `REG_Status`. -/
  | unlockHandler
  /-- `iolink_pl_max14819_get_reg_status`, before it has the mutex. -/
  | lockStatus
  | readLive
  /-- It reads `latched_reg_status`. -/
  | result (live : Octet)
  /-- It clears `latched_reg_status`. -/
  | clear (result : Octet)
  | unlockStatus (result : Octet)
  | reply (result : Octet)
  deriving DecidableEq

/-- What the log has. -/
inductive StatusEvent (Thread : Type)
  /-- The chip raises a fault. -/
  | raised (i : Fin 4)
  /-- A command reads the register. -/
  | read (t : Thread)
  /-- A command replies. -/
  | reply (t : Thread) (v : Octet)
  deriving DecidableEq

/-- The chip, the driver and its threads. -/
structure StatusSys (Thread : Type) where
  /-- `REG_Status`. -/
  chip : Octet := 0
  latchedRegStatus : Octet := 0
  isIolink : ChipChannel → Bool := fun _ => false
  /-- The thread that holds the mutex. -/
  exclusive : Option Thread := none
  pc : Thread → StatusPc := fun _ => .idle
  log : List (StatusEvent Thread) := []

/-- What can happen. -/
inductive StatusInput (Thread : Type)
  /-- The chip raises a fault. -/
  | raise (i : Fin 4)
  /-- The lower half of the register changes. -/
  | live (v : Octet)
  /-- A channel changes to SDCI or back. -/
  | setIolink (ch : ChipChannel) (b : Bool)
  /-- A thread calls the interrupt handler. -/
  | handler (t : Thread) (ch : ChipChannel)
  /-- A thread begins with `CMD_STATUS3`. -/
  | status3 (t : Thread)
  /-- A thread goes on; `reg` is what it finds in `REG_Interrupt` when it reads that. -/
  | go (t : Thread) (reg : Octet)

/-- The thread goes on. -/
def StatusInput.Goes {Thread : Type} (t : Thread) : StatusInput Thread → Prop
  | .go u _ => u = t
  | _ => False

instance {Thread : Type} [DecidableEq Thread] (t : Thread) :
    DecidablePred (StatusInput.Goes t) := fun i => by
  unfold StatusInput.Goes
  split <;> infer_instance

namespace StatusSys

variable {Thread : Type} [DecidableEq Thread]

/-- A thread comes to another place. -/
def goto (s : StatusSys Thread) (t : Thread) (pc : StatusPc) : StatusSys Thread :=
  { s with pc := Function.update s.pc t pc }

/-- `os_mutex_lock`: a thread waits as long as another one holds the mutex. -/
def lock (s : StatusSys Thread) (t : Thread) (pc : StatusPc) : StatusSys Thread :=
  if s.exclusive = none then { s.goto t pc with exclusive := some t } else s

/-- `os_mutex_unlock`. -/
def unlock (s : StatusSys Thread) (t : Thread) (pc : StatusPc) : StatusSys Thread :=
  { s.goto t pc with exclusive := none }

/-- The register has been read: the faults are cleared. -/
def readChip (s : StatusSys Thread) : StatusSys Thread := { s with chip := s.chip &&& 0x0F }

def record (s : StatusSys Thread) (e : StatusEvent Thread) : StatusSys Thread :=
  { s with log := s.log ++ [e] }

/-- A thread goes on. -/
def go (s : StatusSys Thread) (t : Thread) (reg : Octet) : StatusSys Thread :=
  match s.pc t with
  | .idle => s
  | .lockHandler => s.lock t .readInterrupt
  | .readInterrupt =>
    s.goto t (if reg &&& interruptStatus ≠ 0 then .readStatus else .unlockHandler)
  | .readStatus => s.readChip.goto t (.latch s.chip)
  | .latch regStatus =>
    { s.goto t .unlockHandler with latchedRegStatus := s.latchedRegStatus ||| (regStatus &&& 0xF0) }
  | .unlockHandler => s.unlock t .idle
  | .lockStatus => s.lock t .readLive
  | .readLive => (s.readChip.record (.read t)).goto t (.result s.chip)
  | .result live => s.goto t (.clear (live ||| s.latchedRegStatus))
  | .clear result => { s.goto t (.unlockStatus result) with latchedRegStatus := 0 }
  | .unlockStatus result => s.unlock t (.reply result)
  | .reply result => (s.record (.reply t result)).goto t .idle

def step (s : StatusSys Thread) : StatusInput Thread → StatusSys Thread
  | .raise i => { s.record (.raised i) with chip := s.chip ||| corMask i }
  | .live v => { s with chip := (s.chip &&& 0xF0) ||| (v &&& 0x0F) }
  | .setIolink ch b => { s with isIolink := Function.update s.isIolink ch b }
  | .handler t ch => if s.pc t = .idle ∧ s.isIolink ch then s.goto t .lockHandler else s
  | .status3 t => if s.pc t = .idle then s.goto t .lockStatus else s
  | .go t reg => s.go t reg

/-! ### What the replies say -/

/-- No fault is lost, and none is reported twice. -/
structure ReportedOnce (log : List (StatusEvent Thread)) : Prop where
  /-- A fault is in the reply of the first command that reads the register after it. -/
  next : ∀ (pre mid mid' post : List (StatusEvent Thread)) (i : Fin 4) (t : Thread) (v : Octet),
    log = pre ++ .raised i :: (mid ++ .read t :: (mid' ++ .reply t v :: post)) →
    (∀ u, .read u ∉ mid) → .read t ∉ mid' → i ∈ cor v
  /-- A fault in a reply was raised since the command before read the register. -/
  later : ∀ (pre mid post : List (StatusEvent Thread)) (t : Thread) (v : Octet) (i : Fin 4),
    log = pre ++ .read t :: (mid ++ .reply t v :: post) → .read t ∉ mid → i ∈ cor v →
    ∃ p q, pre = p ++ .raised i :: q ∧ ∀ u, .read u ∉ q
  /-- Every reply has a read of the register before it. -/
  read : ∀ (mid post : List (StatusEvent Thread)) (t : Thread) (v : Octet),
    log = mid ++ .reply t v :: post → .read t ∈ mid
  /-- Two replies do not have the same read. -/
  between : ∀ (pre mid post : List (StatusEvent Thread)) (t : Thread) (v w : Octet),
    log = pre ++ .reply t v :: (mid ++ .reply t w :: post) → .read t ∈ mid

/-- Since `before`, a command has read the register and replied. -/
def Answered (t : Thread) (before log : List (StatusEvent Thread)) : Prop :=
  ∃ mid mid' post v, log = before ++ (mid ++ .read t :: (mid' ++ .reply t v :: post)) ∧
    .read t ∉ mid'

/-- A command that an idle thread begins with is answered: if the mutex is free at a time when the
thread goes on, five more steps of its own bring the reply, whatever the others do. -/
def Answers (s : StatusSys Thread) (t : Thread) : Prop :=
  s.pc t = .idle → ∀ (before after : List (StatusInput Thread)) (reg : Octet),
    (Runs.run step s (.status3 t :: before)).exclusive = none →
    5 ≤ after.countP (StatusInput.Goes t) →
    Answered t s.log (Runs.run step s (.status3 t :: before ++ .go t reg :: after)).log

/-- A thread that holds the mutex gives it back after four more steps of its own at most. -/
def Releases (s : StatusSys Thread) (t : Thread) : Prop :=
  s.exclusive = some t → ∀ is : List (StatusInput Thread), 4 ≤ is.countP (StatusInput.Goes t) →
    ∃ js, js <+: is ∧ (Runs.run step s js).exclusive = none

/-! ### The collector -/

/-- The events of the collector. -/
def collected : StatusEvent Thread → Collector.Event (Fin 4) Thread
  | .raised i => .raised i
  | .read t => .taken t
  | .reply t v => .reported t (cor v)

omit [DecidableEq Thread] in
theorem taken_mem_collected {log : List (StatusEvent Thread)} {t : Thread} :
    .taken t ∈ log.map collected ↔ .read t ∈ log := by
  rw [List.mem_map]
  constructor
  · rintro ⟨e, he, htaken⟩
    cases e with
    | read u => rwa [← Collector.Event.taken.inj htaken]
    | _ => cases htaken
  · exact fun ht => ⟨_, ht, rfl⟩

omit [DecidableEq Thread] in
/-- A fault that the collector has in its log. -/
theorem raised_of_collected {log : List (StatusEvent Thread)} {i : Fin 4}
    {p q : List (Collector.Event (Fin 4) Thread)}
    (h : log.map collected = p ++ .raised i :: q) (hq : ∀ t, .taken t ∉ q) :
    ∃ p q, log = p ++ .raised i :: q ∧ ∀ t, .read t ∉ q := by
  obtain ⟨p', q', rfl, -, hq'⟩ := List.map_eq_append_iff.mp h
  obtain ⟨e, q'', rfl, he, rfl⟩ := List.map_eq_cons_iff.mp hq'
  refine ⟨p', q'', ?_, fun t ht => hq t (taken_mem_collected.mpr ht)⟩
  cases e with
  | raised j => rw [Collector.Event.raised.inj he]
  | _ => cases he

/-- A log of a collector is in order. -/
theorem reportedOnce_of_run {log : List (StatusEvent Thread)}
    {st : Collector.State (Fin 4) Thread} (h : Collector.run {} (log.map collected) = some st) :
    ReportedOnce log := by
  constructor
  · rintro pre mid mid' post i t v rfl hmid hmid'
    simp only [List.map_append, List.map_cons, collected] at h
    exact Collector.mem_of_run h (fun u hu => hmid u (taken_mem_collected.mp hu))
      fun hu => hmid' (taken_mem_collected.mp hu)
  · rintro pre mid post t v i rfl hmid hi
    simp only [List.map_append, List.map_cons, collected] at h
    obtain ⟨p, q, hpre, hq⟩ :=
      Collector.raised_of_run h (fun hu => hmid (taken_mem_collected.mp hu)) hi
    exact raised_of_collected hpre hq
  · rintro mid post t v rfl
    simp only [List.map_append, List.map_cons, collected] at h
    exact taken_mem_collected.mp (Collector.taken_of_run h rfl)
  · rintro pre mid post t v w rfl
    simp only [List.map_append, List.map_cons, collected] at h
    exact taken_mem_collected.mp (Collector.taken_between h)

end StatusSys

/-! ### The threads -/

namespace StatusPc

/-- The thread holds the mutex. -/
def critical : StatusPc → Bool
  | .readInterrupt | .readStatus | .latch _ | .unlockHandler => true
  | .readLive | .result _ | .clear _ | .unlockStatus _ => true
  | .idle | .lockHandler | .lockStatus | .reply _ => false

/-- What a command has taken and not replied yet. -/
def window (latched : Octet) : StatusPc → Option (Finset (Fin 4))
  | .result live => some (cor live ∪ cor latched)
  | .clear v | .unlockStatus v | .reply v => some (cor v)
  | _ => none

/-- The steps of a command that has read the register, up to its reply. -/
def toReply : StatusPc → ℕ
  | .result _ => 4
  | .clear _ => 3
  | .unlockStatus _ => 2
  | .reply _ => 1
  | _ => 0

/-- The steps of a thread that holds the mutex, until it gives it back. -/
def toUnlock : StatusPc → ℕ
  | .readInterrupt | .readLive => 4
  | .readStatus | .result _ => 3
  | .latch _ | .clear _ => 2
  | .unlockHandler | .unlockStatus _ => 1
  | .idle | .lockHandler | .lockStatus | .reply _ => 0

theorem toUnlock_le (pc : StatusPc) : pc.toUnlock ≤ 4 := by
  cases pc <;> simp [toUnlock]

theorem toUnlock_pos {pc : StatusPc} (h : pc.critical = true) : 0 < pc.toUnlock := by
  cases pc <;> simp [toUnlock, critical] at h ⊢

/-- The faults that wait in the driver, when the thread holds the mutex. -/
def held (latched : Octet) : StatusPc → Finset (Fin 4)
  | .latch regStatus => cor latched ∪ cor regStatus
  | .result _ | .clear _ => ∅
  | _ => cor latched

/-- Without the mutex, what a thread has does not depend on the driver. -/
theorem window_congr {pc : StatusPc} (h : pc.critical = false) (latched latched' : Octet) :
    pc.window latched = pc.window latched' := by
  cases pc with
  | result _ => cases h
  | _ => rfl

end StatusPc

end IolHat

import IolHat.DataLink.ParamRequest
import IolHat.DataLink.ReceivedInput
import IolHat.Lib.Deferred

/-!
# Do process data reach the application as they were received?

`DL_PDInputTransport_ind` posts a job with the pointer it is handed, and the master thread calls the
application with that pointer when it comes to the job. `PD_cb` copies the octets then. The thread
of the port may have received other messages by that time.

`PdSys` has the data link layers of all ports and the jobs in the mailbox, those of the type
`IOLINK_JOB_PD_EVENT`. The jobs of other types in between carry no process data, and a thread that
waits for a free job posts later; both are left out.

`pdCallbacks_iff` says of every run when the octets of every indication are delivered, in order:
when no reply is stored over octets that a job still points to.
-/

namespace IolHat

open Deferred

/-- The job that `DL_PDInputTransport_ind` posts, and the octets that are indicated. -/
def DlCall.pdEvent : DlCall → Option (PdPtr × List Octet)
  | .pdInputTransportInd pdinData data => some (pdinData, data)
  | _ => none

/-- The octets that `memcpy` finds behind a pointer. -/
def Dl.pdData (dl : Dl) : PdPtr → List Octet
  | .rxbuffer offset length => dl.rxbuffer.slice offset length
  | .pdindata length => dl.pdHandler.pdindata.slice 0 length

/-- The ports of a master, with the indicated process data and those delivered by `PD_cb`. -/
abbrev PdSys (ι : Type) := Deferred (ι → Dl) (ι × PdPtr) (ι × List Octet)

/-- What happens next: an input of a port's data link layer, or the master thread fetches a job. -/
inductive PdInput (ι : Type)
  | link (port : ι) (input : LinkInput)
  | job

namespace PdSys

variable {ι : Type}

def start : PdSys ι := ⟨fun _ => {}, [], [], []⟩

/-- `PD_cb` copies what the pointer of the job leads to. -/
def readJob (ports : ι → Dl) (job : ι × PdPtr) : ι × List Octet :=
  (job.1, (ports job.1).pdData job.2)

/-- The jobs that an input of a port posts, each with the octets indicated. -/
def jobsOf (dl : Dl) (port : ι) (input : LinkInput) : List ((ι × PdPtr) × (ι × List Octet)) :=
  ((dl.callsOf input).filterMap DlCall.pdEvent).map fun e => ((port, e.1), (port, e.2))

section Step

variable [DecidableEq ι]

/-- A step of a port's thread, or of the master thread. -/
def step (s : PdSys ι) : PdInput ι → PdSys ι
  | .link port input =>
    s.post (Function.update s.memory port ((s.memory port).react input))
      (jobsOf (s.memory port) port input)
  | .job => s.serve readJob

/-- What an input should leave: however many of the waiting jobs are done next, the k-th callback
delivers the octets of the k-th indication. -/
def Delivers (s : PdSys ι) (i : PdInput ι) : Prop :=
  ∀ n, ((Deferred.serve readJob)^[n] (s.step i)).InOrder

/-- The octets of a reply do not change those that a waiting job of the port points to. -/
def Undisturbed (s : PdSys ι) : PdInput ι → Prop
  | .link port input => ∀ offset length, (port, .rxbuffer offset length) ∈ s.queue →
    ((s.memory port).afterReply input).rxbuffer.slice offset length =
      (s.memory port).rxbuffer.slice offset length
  | .job => True

end Step

/-- The invariant of an undisturbed run. -/
structure Inv (s : PdSys ι) : Prop where
  single : ∀ port, (s.memory port).SingleOnly
  jobs : ∀ job ∈ s.queue, ∃ offset length, job.2 = .rxbuffer offset length
  current : s.Current readJob

theorem inv_start : (start : PdSys ι).Inv where
  single _ := ⟨rfl, .inl rfl, .inl rfl⟩
  jobs _ hjob := absurd hjob List.not_mem_nil
  current := rfl

/-! ### The jobs of one input -/

/-- Apart from the log, an input of the layer does what it says. -/
theorem announces_react {dl : Dl} (h : dl.SingleOnly) (input : LinkInput) :
    (dl.unlogged.afterReply input).Announces (dl.react input) := by
  have hsingle : dl.unlogged.SingleOnly := ⟨h.interleave, h.phcmd, h.state⟩
  exact Dl.announces_linkStep hsingle input

theorem react_rxbuffer {dl : Dl} (h : dl.SingleOnly) (input : LinkInput) :
    (dl.react input).rxbuffer = (dl.afterReply input).rxbuffer := (announces_react h input).rxbuffer

/-- A job that an input posts points to the octets that it indicates. -/
theorem mem_jobsOf {dl : Dl} (h : dl.SingleOnly) {port : ι} {input : LinkInput}
    {e : (ι × PdPtr) × (ι × List Octet)} (he : e ∈ jobsOf dl port input) :
    ∃ offset length, e.1 = (port, .rxbuffer offset length) ∧
      e.2 = (port, (dl.react input).rxbuffer.slice offset length) := by
  obtain ⟨⟨p, data⟩, hmem, rfl⟩ := List.mem_map.mp he
  obtain ⟨c, hc, hevent⟩ := List.mem_filterMap.mp hmem
  have hannounces := announces_react h input
  obtain ⟨cs, hout, hcs⟩ := hannounces.calls
  -- the calls of an input are those of its own log, so none is older
  have hreads : c.ReadsFrom (dl.react input).rxbuffer := by
    rw [hannounces.rxbuffer]
    refine hcs c ?_
    rw [Dl.callsOf, hout] at hc
    exact hc
  cases c <;> simp only [DlCall.pdEvent, reduceCtorEq, Option.some.injEq, Prod.mk.injEq] at hevent
  obtain ⟨rfl, rfl⟩ := hevent
  obtain ⟨offset, length, rfl, rfl⟩ := hreads
  exact ⟨offset, length, rfl, rfl⟩

/-! ### One step -/

variable [DecidableEq ι] {s : PdSys ι}

theorem readJob_new (h : s.Inv) {port : ι} {input : LinkInput} :
    ∀ e ∈ jobsOf (s.memory port) port input,
      readJob (Function.update s.memory port ((s.memory port).react input)) e.1 = e.2 := by
  intro e he
  obtain ⟨offset, length, hjob, hdata⟩ := mem_jobsOf (h.single port) he
  rw [hjob, hdata, readJob, Function.update_self]
  rfl

/-- The jobs that are waiting keep their octets exactly when the reply does not change them. -/
theorem kept_iff (h : s.Inv) {port : ι} {input : LinkInput} :
    (∀ job ∈ s.queue, readJob (Function.update s.memory port ((s.memory port).react input)) job =
        readJob s.memory job) ↔ s.Undisturbed (.link port input) := by
  have hrx := react_rxbuffer (h.single port) input
  constructor
  · intro hkept offset length hjob
    have hdata := congrArg Prod.snd (hkept _ hjob)
    rw [readJob, Function.update_self, Dl.pdData, hrx] at hdata
    exact hdata
  · rintro hkept ⟨p, ptr⟩ hjob
    -- the other ports have receive buffers of their own
    by_cases hport : p = port
    · subst hport
      obtain ⟨offset, length, rfl⟩ := h.jobs _ hjob
      rw [readJob, Function.update_self, Dl.pdData, hrx, hkept offset length hjob]
      rfl
    · rw [readJob, Function.update_of_ne hport]
      rfl

theorem Inv.step (h : s.Inv) {i : PdInput ι} (hi : s.Undisturbed i) : (s.step i).Inv := by
  cases i with
  | job =>
    refine ⟨fun port => ?_, fun job hjob => h.jobs job (mem_queue_of_serve hjob), h.current.serve⟩
    rw [PdSys.step, serve_memory]
    exact h.single port
  | link port input =>
    refine ⟨fun p => ?_, fun job hjob => ?_, h.current.post (readJob_new h) ((kept_iff h).mpr hi)⟩
    · rw [PdSys.step, post_memory]
      by_cases hport : p = port
      · subst hport
        rw [Function.update_self]
        exact (announces_react (h.single p) input).single
      · rw [Function.update_of_ne hport]
        exact h.single p
    · rw [PdSys.step, post_queue] at hjob
      obtain hjob | hjob := List.mem_append.mp hjob
      · exact h.jobs job hjob
      · obtain ⟨e, he, rfl⟩ := List.mem_map.mp hjob
        obtain ⟨offset, length, hptr, -⟩ := mem_jobsOf (h.single port) he
        exact ⟨offset, length, congrArg Prod.snd hptr⟩

theorem delivers_step_iff (h : s.Inv) (i : PdInput ι) : s.Delivers i ↔ s.Undisturbed i := by
  cases i with
  | job => exact iff_of_true (fun n => (h.current.serve.iterate n).inOrder) trivial
  | link port input => exact (inOrder_post_iff h.current (readJob_new h)).trans (kept_iff h)

/-! ### Every run -/

/-- **Every run**, for every interleaving of the threads: the octets of each indication are
delivered, in order, exactly when no reply is stored over octets that a job still points to. -/
theorem pdCallbacks_iff (is : List (PdInput ι)) :
    Runs.Admissible step Delivers (start : PdSys ι) is ↔
      Runs.Admissible step Undisturbed (start : PdSys ι) is :=
  Runs.admissible_iff_of_invariant (I := Inv) (fun _ i h => delivers_step_iff h i)
    (fun _ i h hi => h.step ((delivers_step_iff h i).mp hi)) inv_start is

/-! ### A reply too early -/

/-- **Octets that are never delivered.** The device answers twice before the master thread comes to
the first job; both callbacks deliver the second octet. -/
theorem first_octet_lost : ∃ s : PdSys ℕ,
    s = Runs.run step start (Dl.intoOperate.map (.link 1) ++
      [.link 1 (.dl (.rxrdy [0x00, 0x11, 0x00])), .link 1 (.dl (.rxrdy [0x00, 0x22, 0x00])),
        .job, .job]) ∧
      s.announced = [(1, [0x11]), (1, [0x22])] ∧ s.delivered = [(1, [0x22]), (1, [0x22])] ∧
      ¬ s.InOrder :=
  ⟨_, rfl, by decide +kernel, by decide +kernel, by decide +kernel⟩

end PdSys

end IolHat

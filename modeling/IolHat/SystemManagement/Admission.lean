import IolHat.SystemManagement.Startup
import IolHat.Lib.Run

/-!
# Which devices are admitted

System Management with the mailbox of its port and with what the layers below owe it. The device
answers the requests for the direct parameter page one at a time, and the evidence is what it has
answered since the start-up began.

* `Admission` is the state, with the configuration that was stored when the last start-up began and
  the octets that have been read since.
* `Regular` is what System Management may rely on: the data link layer and the application layer
  confirm with success only what they have been asked for, and no such confirmation is left over
  from an earlier start-up.
* `Admitted` is what a ready port stands for, and `admits_only_matching` proves it for every run in
  which no configuration with DI or DO arrives in `checkSerNum`. There the table has no row for it,
  but it is stored, and the serial number is compared with its inspection level
  (`not_admits_only_matching`).
-/

namespace IolHat

/-- What the other layers tell System Management, by posting a job. -/
inductive SmIndication
  /-- `SM_SetPortConfig_req`. -/
  | setPortConfigReq (p : SmpParameterlist)
  /-- `SM_Operate`. -/
  | operate
  | dlModeInd (realmode : MhMode)
  | dlReadCnf (value : Octet) (errorinfo : Status)
  | dlWriteCnf (errorinfo : Status)
  | dlWriteDevicemodeCnf (errorinfo : Status)
  | alReadCnf (c : ReadCnf)
  | alWriteCnf (errortype : SmiErrorType)

/-- The job that is posted; the confirmations of the page take the address from the context. -/
def Sm.job (sm : Sm) : SmIndication → SmJob
  | .setPortConfigReq p => .setportcfg p
  | .operate => .operate
  | .dlModeInd realmode => .dlMode realmode
  | .dlReadCnf value errorinfo => .dlReadCnf sm.dlAddr value errorinfo
  | .dlWriteCnf errorinfo => .dlWriteCnf sm.dlAddr errorinfo
  | .dlWriteDevicemodeCnf errorinfo => .dlWriteDevmodeCnf errorinfo
  | .alReadCnf c => .alReadCnf c
  | .alWriteCnf errortype => .writeCyclCnf errortype

/-- The address that has been read. -/
def SmJob.readAddr : SmJob → Option Octet
  | .dlReadCnf addr _ _ => some addr
  | _ => none

/-- System Management and what the other layers owe it. -/
structure Admission where
  sm : Sm := {}
  /-- The jobs that have been posted; the mark is set for those of the present start-up. -/
  queue : List (Bool × SmJob) := []
  /-- The request to the data link layer that has not been answered. -/
  asked : Option PageRequest := none
  /-- The serial number has been asked for and not been answered. -/
  asksSerial : Bool := false
  /-- The configuration stored when the last start-up began. -/
  config : SmpParameterlist := {}
  /-- The octets the device has answered since. -/
  page : Page := fun _ => none
  /-- The serial number it has answered since. -/
  serial : Option (List Octet) := none

/-- What can happen. -/
inductive AdmissionInput
  | post (i : SmIndication)
  /-- The next job of the queue. -/
  | handle
  /-- `DL_Mode_ind_baud`. -/
  | baud (realmode : MhMode)
  /-- System Management of another port sets `older_cycletime`. -/
  | otherPort (cycletime : Octet)

namespace Admission

/-- The device answers: an octet of the page, the end of a write, or the serial number. -/
def answer (s : Admission) : SmIndication → Admission
  | .dlReadCnf value errorinfo =>
    match s.asked with
    | some (.read addr) =>
      if errorinfo = .noError then
        { s with asked := none, page := Function.update s.page addr (some value) }
      else s
    | _ => s
  | .dlWriteCnf errorinfo => if errorinfo = .noError then { s with asked := none } else s
  | .alReadCnf c =>
    if (SmJob.alReadCnf c).answersSerial then
      { s with asksSerial := false, serial := some c.serialnumber }
    else s
  | _ => s

/-- A job is posted. -/
def post (s : Admission) (i : SmIndication) : Admission :=
  { s with sm := s.sm.newJob, queue := s.queue ++ [(true, s.sm.job i)] }.answer i

/-- A start-up begins: nothing has been read or asked for. -/
def start (s : Admission) : Admission :=
  { s with
    queue := s.queue.map fun q => (false, q.2)
    asked := none
    asksSerial := false
    config := s.sm.configParamlist
    page := fun _ => none
    serial := none }

/-- The requests of the job that has been handled. -/
def issue (s : Admission) : Admission :=
  { s with asked := s.sm.request.or s.asked, asksSerial := s.asksSerial || s.sm.readsSerial }

/-- The next job is handled. -/
def handle (s : Admission) : Admission :=
  match s.queue with
  | [] => { s with sm := s.sm.newJob }
  | (_, j) :: rest =>
    let t := { s with sm := s.sm.handle j, queue := rest }
    if s.sm.state = .portInactive ∧ t.sm.state = .readComParameter then t.start.issue else t.issue

/-- One input. -/
def step (s : Admission) : AdmissionInput → Admission
  | .post i => s.post i
  | .handle => s.handle
  | .baud realmode => { s with sm := s.sm.newJob.dlModeIndBaud realmode }
  | .otherPort cycletime => { s with sm := s.sm.newJob.setOlder cycletime }

/-- Success is only confirmed for what has been asked for, apart from the octet that follows the
wake-up. -/
def Promised (s : Admission) : SmIndication → Prop
  | .dlReadCnf _ errorinfo => errorinfo = .noError →
    (s.asked.bind PageRequest.readAddr).isSome ∨ s.sm.dlAddr = dirParamaDummyWurq
  | .dlWriteCnf errorinfo => errorinfo = .noError →
    s.asked.isSome ∧ s.asked.bind PageRequest.readAddr = none
  | .alReadCnf c => (SmJob.alReadCnf c).answersSerial = true → s.asksSerial = true
  | .setPortConfigReq _ | .operate | .dlModeInd _ | .dlWriteDevicemodeCnf _ | .alWriteCnf _ => True

instance (s : Admission) : (i : SmIndication) → Decidable (s.Promised i)
  | .dlReadCnf _ _ => inferInstanceAs (Decidable (_ → _ ∨ _))
  | .dlWriteCnf _ => inferInstanceAs (Decidable (_ → _ ∧ _))
  | .alReadCnf _ => inferInstanceAs (Decidable (_ → _))
  | .setPortConfigReq _ | .operate | .dlModeInd _ | .dlWriteDevicemodeCnf _ | .alWriteCnf _ =>
    isTrue trivial

/-- What System Management relies on: the promises of the layers below, and that no success is left
over from an earlier start-up. -/
def Regular (s : Admission) : AdmissionInput → Prop
  | .post i => s.Promised i
  | .handle => ∀ q ∈ s.queue.head?, (q.2.answersPage || q.2.answersSerial) = true → q.1 = true
  | .baud _ | .otherPort _ => True

instance (s : Admission) : (i : AdmissionInput) → Decidable (s.Regular i)
  | .post i => inferInstanceAs (Decidable (s.Promised i))
  | .handle => inferInstanceAs (Decidable (∀ q ∈ s.queue.head?, _ → _))
  | .baud _ | .otherPort _ => isTrue trivial

/-- The table has a row for the configuration that the job brings. -/
def Heeds (s : Admission) : SmJob → Prop
  | .setportcfg p => ¬ (s.sm.state = .checkSerNum ∧ (p.mode = .di ∨ p.mode = .do_))
  | .operate | .dlMode _ | .dlReadCnf .. | .dlWriteCnf .. | .dlWriteDevmodeCnf _ | .alReadCnf _
  | .writeCyclCnf _ => True

instance (s : Admission) : (j : SmJob) → Decidable (s.Heeds j)
  | .setportcfg _ => inferInstanceAs (Decidable (¬ (_ ∧ _)))
  | .operate | .dlMode _ | .dlReadCnf .. | .dlWriteCnf .. | .dlWriteDevmodeCnf _ | .alReadCnf _
  | .writeCyclCnf _ => isTrue trivial

/-- No configuration with DI or DO arrives in `checkSerNum`. -/
def Heeded (s : Admission) : AdmissionInput → Prop
  | .handle => ∀ q ∈ s.queue.head?, s.Heeds q.2
  | .post _ | .baud _ | .otherPort _ => True

instance (s : Admission) : (i : AdmissionInput) → Decidable (s.Heeded i)
  | .handle => inferInstanceAs (Decidable (∀ q ∈ s.queue.head?, s.Heeds q.2))
  | .post _ | .baud _ | .otherPort _ => isTrue trivial

/-- The device fits the configuration that was stored when the start-up began. -/
structure Admitted (s : Admission) : Prop where
  /-- Cycle time, vendor id and device id. -/
  matched : Matched s.config s.sm.realParamlist s.page
  serial : s.config.inspectionlevel = .identical →
    ∃ serial, s.serial = some serial ∧ s.config.serialnumber = paddedSerial serial

/-- A port that is reported ready has a matching device. -/
def AdmitsOnlyMatching (s : Admission) : Prop :=
  .portModeInd .comready ∈ s.sm.calls → s.Admitted

/-- No start-up is under way. -/
structure Dormant (s : Admission) : Prop where
  state : s.sm.state.startingUp = false
  calls : s.sm.calls = []

/-! ### What is owed -/

/-- The jobs of the present start-up that have a property, in order. -/
def fresh (q : List (Bool × SmJob)) (p : SmJob → Bool) : List SmJob :=
  (q.filter fun e => e.1 && p e.2).map Prod.snd

variable {q : List (Bool × SmJob)} {p : SmJob → Bool} {j : SmJob}

theorem fresh_concat (hp : p j = true) : fresh (q ++ [(true, j)]) p = fresh q p ++ [j] := by
  simp [fresh, hp]

theorem fresh_concat_of_not (hp : p j = false) : fresh (q ++ [(true, j)]) p = fresh q p := by
  simp [fresh, hp]

theorem fresh_cons (hp : p j = true) : fresh ((true, j) :: q) p = j :: fresh q p := by
  simp [fresh, hp]

theorem fresh_cons_of_not {b : Bool} (hp : p j = false) : fresh ((b, j) :: q) p = fresh q p := by
  simp [fresh, hp]

theorem fresh_start : fresh (q.map fun e => (false, e.2)) p = [] := by
  simp [fresh]

/-- The answers of the data link layer that have not been handled. -/
abbrev answers (s : Admission) : List SmJob := fresh s.queue SmJob.answersPage

/-- The serial numbers that have not been handled. -/
abbrev serials (s : Admission) : List SmJob := fresh s.queue SmJob.answersSerial

/-- The address of the read that is under way: it has not been answered, or the answer has not been
handled. -/
def underway (s : Admission) : Option Octet :=
  match s.asked with
  | some r => r.readAddr
  | none => s.answers.findSome? SmJob.readAddr

/-- One request is under way at most. -/
structure Single (s : Admission) : Prop where
  single : s.answers = [] ∨ s.asked = none ∧ s.answers.length = 1
  addr : ∀ a, s.asked = some (.read a) → s.sm.dlAddr = a
  page : ∀ a o stat, .dlReadCnf a o stat ∈ s.answers → s.page a = some o

/-- The serial number is asked for once, at the end of the start-up. -/
structure SingleSerial (s : Admission) : Prop where
  single : s.serials = [] ∨ s.asksSerial = false ∧ s.serials.length = 1
  serial : ∀ c, .alReadCnf c ∈ s.serials → s.serial = some c.serialnumber
  before : s.sm.state ≠ .checkSerNum → s.asksSerial = false ∧ s.serials = []

/-- The invariant of a start-up. -/
structure Underway (s : Admission) : Prop where
  config : s.sm.configParamlist = s.config
  single : s.Single
  serial : s.SingleSerial
  knows : Knows s.config s.sm.realParamlist s.page s.sm.state s.underway

/-- The invariant. -/
structure Inv (s : Admission) : Prop where
  underway : s.sm.state.startingUp = true → s.Underway
  sound : s.AdmitsOnlyMatching

variable {s t : Admission}

theorem sound_of_calls (h : s.sm.calls = []) : s.AdmitsOnlyMatching := by
  intro hready
  rw [h] at hready
  exact absurd hready List.not_mem_nil

/-- As long as the data link layer owes an answer, none is in the queue. -/
theorem Single.answers_eq_nil (h : s.Single) {r : PageRequest} (hr : s.asked = some r) :
    s.answers = [] := by
  refine h.single.resolve_right fun hno => ?_
  rw [hr] at hno
  exact absurd hno.1 (Option.some_ne_none _)

/-- An answer in the queue is the only one, and no request is open. -/
theorem Single.of_cons (h : s.Single) {l : List SmJob} (hj : s.answers = j :: l) :
    s.asked = none ∧ l = [] := by
  obtain ⟨hasked, hlength⟩ := h.single.resolve_left (by rw [hj]; exact List.cons_ne_nil _ _)
  rw [hj, List.length_cons] at hlength
  exact ⟨hasked, List.length_eq_zero_iff.mp (Nat.succ.inj hlength)⟩

theorem Single.of_nil (h : s.answers = [])
    (haddr : ∀ a, s.asked = some (.read a) → s.sm.dlAddr = a) : s.Single := by
  refine ⟨.inl h, haddr, ?_⟩
  rw [h]
  exact fun _ _ _ hno => absurd hno List.not_mem_nil

/-- Nothing has happened to the serial number. -/
theorem SingleSerial.congr (h : s.SingleSerial) (hserials : t.serials = s.serials)
    (hasks : t.asksSerial = s.asksSerial) (hserial : t.serial = s.serial)
    (hstate : s.sm.state = .checkSerNum → t.sm.state = .checkSerNum) : t.SingleSerial := by
  refine ⟨?_, ?_, fun hne => ?_⟩
  · rw [hserials, hasks]
    exact h.single
  · rw [hserials, hserial]
    exact h.serial
  · rw [hserials, hasks]
    exact h.before fun hs => hne (hstate hs)

/-- The start-up goes on without an answer. -/
private theorem Underway.rests (h : s.Underway) {sm : Sm} (hr : s.sm.Rests sm)
    (hanswers : fresh q SmJob.answersPage = s.answers)
    (hserials : fresh q SmJob.answersSerial = s.serials) :
    ({ s with sm, queue := q }.issue).Underway := by
  obtain ⟨b, hasks, hstate, hb⟩ := hr.asks
  obtain ⟨t, ht⟩ : ∃ t, t = { s with sm, queue := q }.issue := ⟨_, rfl⟩
  have hsm : t.sm = sm := by rw [ht]; rfl
  have hasked : t.asked = s.asked := by
    rw [ht, issue, hasks.request]
    rfl
  have hasksSerial : t.asksSerial = (s.asksSerial || b) := by
    rw [ht, issue, hasks.serial]
  have htanswers : t.answers = s.answers := by rw [ht]; exact hanswers
  have htserials : t.serials = s.serials := by rw [ht]; exact hserials
  have htpage : t.page = s.page := by rw [ht]; rfl
  have htserial : t.serial = s.serial := by rw [ht]; rfl
  have htconfig : t.config = s.config := by rw [ht]; rfl
  have hunderway : t.underway = s.underway := by rw [underway, underway, hasked, htanswers]
  rw [← ht]
  refine ⟨?_, ⟨?_, ?_, ?_⟩, ⟨?_, ?_, ?_⟩, ?_⟩
  · rw [hsm, hasks.config, h.config, htconfig]
  · rw [htanswers, hasked]
    exact h.single.single
  · rw [hasked, hsm, hr.addr]
    exact h.single.addr
  · rw [htanswers, htpage]
    exact h.single.page
  · rw [htserials, hasksSerial]
    -- The serial number may be asked for just now; it was not before.
    cases b with
    | true => exact .inl (h.serial.before (hb rfl)).2
    | false =>
      rw [Bool.or_false]
      exact h.serial.single
  · rw [htserials, htserial]
    exact h.serial.serial
  · rw [hsm, htserials, hasksSerial]
    intro hne
    have hnot := fun hs => hne (hstate.mpr hs)
    have hfalse : b = false := Bool.eq_false_of_not_eq_true fun hb => hnot (.inr hb)
    obtain ⟨hasks', hserials'⟩ := h.serial.before fun hs => hnot (.inl hs)
    exact ⟨by rw [hasks', hfalse]; rfl, hserials'⟩
  · rw [hsm, hunderway, hr.real, htpage, htconfig, ← h.config]
    exact hr.knows (h.config ▸ h.knows)

/-! ### Posting a job -/

/-- Nothing is issued by a job that asks for nothing. -/
private theorem issue_of_silent {sm : Sm} (h : s.sm.Silent sm) :
    ({ s with sm, queue := q }).issue = { s with sm, queue := q } := by
  rw [issue, h.request, h.serial, Bool.or_false]
  rfl

/-- A job that is no answer. -/
private theorem Underway.queued (h : s.Underway) (hpage : j.answersPage = false)
    (hserial : j.answersSerial = false) :
    { s with sm := s.sm.newJob, queue := s.queue ++ [(true, j)] }.Underway := by
  rw [← issue_of_silent (Sm.silent_newJob s.sm)]
  exact h.rests (Sm.idle_newJob s.sm).rests (fresh_concat_of_not hpage)
    (fresh_concat_of_not hserial)

/-- An octet of the page is answered. -/
private theorem Underway.postRead (h : s.Underway) {addr : Octet} (value : Octet)
    (hasked : s.asked = some (.read addr)) :
    { s with
      sm := s.sm.newJob
      queue := s.queue ++ [(true, SmJob.dlReadCnf s.sm.dlAddr value .noError)]
      asked := none, page := Function.update s.page addr (some value) }.Underway := by
  obtain rfl : addr = s.sm.dlAddr := (h.single.addr addr hasked).symm
  have hnone := h.single.answers_eq_nil hasked
  have hunderway : s.underway = some s.sm.dlAddr := by
    rw [underway, hasked]
    rfl
  obtain ⟨hreading, hcollected⟩ := (hunderway ▸ h.knows).collected
  have hcollected' : Collected s.sm.realParamlist
      (Function.update s.page s.sm.dlAddr (some value)) s.sm.dlAddr :=
    hcollected.congr fun b hb => Function.update_of_ne (UInt8.ne_of_lt hb) _ _
  obtain ⟨t, ht⟩ : ∃ t : Admission, t = { s with
      sm := s.sm.newJob
      queue := s.queue ++ [(true, SmJob.dlReadCnf s.sm.dlAddr value .noError)]
      asked := none, page := Function.update s.page s.sm.dlAddr (some value) } := ⟨_, rfl⟩
  have hconfig : t.sm.configParamlist = t.config := by
    rw [ht]
    exact h.config
  have hserial : t.SingleSerial := by
    refine h.serial.congr ?_ (by rw [ht]) (by rw [ht]) (by rw [ht]; exact id)
    rw [ht]
    exact fresh_concat_of_not rfl
  have haddr : ∀ a, t.asked = some (.read a) → t.sm.dlAddr = a := by
    rw [ht]
    exact fun a ha => absurd ha (Option.some_ne_none _).symm
  rw [← ht]
  -- The answer to the dummy read after the wake-up tells nothing, and is no answer that is awaited.
  by_cases hdummy : s.sm.dlAddr = dirParamaDummyWurq
  · have hanswers : t.answers = [] := by
      rw [ht, answers, fresh_concat_of_not (by simp [SmJob.answersPage, hdummy])]
      exact hnone
    have hunder : t.underway = none := by
      rw [underway, hanswers, ht]
      rfl
    refine ⟨hconfig, .of_nil hanswers haddr, hserial, ?_⟩
    rw [hunder, ht]
    exact .between hreading
  · have hanswers : t.answers = [.dlReadCnf s.sm.dlAddr value .noError] := by
      rw [ht, answers, fresh_concat (by simp [SmJob.answersPage, hdummy])]
      exact congrArg (· ++ [_]) hnone
    have hunder : t.underway = some s.sm.dlAddr := by
      rw [underway, hanswers, ht]
      rfl
    refine ⟨hconfig, ⟨.inr ⟨by rw [ht], by rw [hanswers]; rfl⟩, haddr, ?_⟩, hserial, ?_⟩
    · rw [hanswers]
      intro a o stat hmem
      injection List.mem_singleton.mp hmem with ha ho
      rw [ha, ho, ht]
      exact Function.update_self _ _ _
    · rw [hunder, ht]
      exact .reading hreading hcollected'

/-- The end of a write is confirmed. -/
private theorem Underway.postWrite (h : s.Underway) (hasked : s.asked.isSome)
    (hread : s.asked.bind PageRequest.readAddr = none) :
    { s with
      sm := s.sm.newJob
      queue := s.queue ++ [(true, SmJob.dlWriteCnf s.sm.dlAddr .noError)]
      asked := none }.Underway := by
  obtain ⟨r, hr⟩ := Option.isSome_iff_exists.mp hasked
  have hunderway : s.underway = none := by
    rw [hr] at hread
    rw [underway, hr]
    exact hread
  obtain ⟨t, ht⟩ : ∃ t : Admission, t = { s with
      sm := s.sm.newJob
      queue := s.queue ++ [(true, SmJob.dlWriteCnf s.sm.dlAddr .noError)]
      asked := none } := ⟨_, rfl⟩
  have hanswers : t.answers = [.dlWriteCnf s.sm.dlAddr .noError] := by
    rw [ht, answers, fresh_concat (by rfl)]
    exact congrArg (· ++ [_]) (h.single.answers_eq_nil hr)
  have hunder : t.underway = none := by
    rw [underway, hanswers, ht]
    rfl
  rw [← ht]
  refine ⟨by rw [ht]; exact h.config, ⟨.inr ⟨by rw [ht], by rw [hanswers]; rfl⟩, ?_, ?_⟩,
    h.serial.congr ?_ (by rw [ht]) (by rw [ht]) (by rw [ht]; exact id), ?_⟩
  · rw [ht]
    exact fun a ha => absurd ha (Option.some_ne_none _).symm
  · rw [hanswers]
    exact fun a o stat hmem => SmJob.noConfusion (List.mem_singleton.mp hmem)
  · rw [ht]
    exact fresh_concat_of_not rfl
  · rw [hunder, ht]
    exact hunderway ▸ h.knows

/-- The serial number is answered. -/
private theorem Underway.postSerial (h : s.Underway) {c : ReadCnf}
    (hc : (SmJob.alReadCnf c).answersSerial = true) (hasks : s.asksSerial = true) :
    { s with
      sm := s.sm.newJob
      queue := s.queue ++ [(true, SmJob.alReadCnf c)]
      asksSerial := false, serial := some c.serialnumber }.Underway := by
  have hnone : s.serials = [] := h.serial.single.resolve_right fun hno => by
    rw [hasks] at hno
    exact absurd hno.1 (by decide)
  have hstate : s.sm.state = .checkSerNum := by
    by_contra hne
    rw [(h.serial.before hne).1] at hasks
    exact absurd hasks (by decide)
  have hanswers : fresh (s.queue ++ [(true, SmJob.alReadCnf c)]) SmJob.answersPage = s.answers :=
    fresh_concat_of_not rfl
  obtain ⟨t, ht⟩ : ∃ t : Admission, t = { s with
      sm := s.sm.newJob
      queue := s.queue ++ [(true, SmJob.alReadCnf c)]
      asksSerial := false, serial := some c.serialnumber } := ⟨_, rfl⟩
  have htanswers : t.answers = s.answers := by rw [ht]; exact hanswers
  have htserials : t.serials = [.alReadCnf c] := by
    rw [ht, serials, fresh_concat hc]
    exact congrArg (· ++ [_]) hnone
  have hunder : t.underway = s.underway := by
    rw [underway, underway, htanswers, ht]
  rw [← ht]
  refine ⟨by rw [ht]; exact h.config, ⟨?_, ?_, ?_⟩, ⟨.inr ⟨by rw [ht], by rw [htserials]; rfl⟩,
    ?_, ?_⟩, ?_⟩
  · rw [htanswers, ht]
    exact h.single.single
  · rw [ht]
    exact h.single.addr
  · rw [htanswers, ht]
    exact h.single.page
  · rw [htserials]
    intro d hmem
    rw [List.mem_singleton] at hmem
    injection hmem with hd
    rw [hd, ht]
  · rw [ht]
    exact fun hne => absurd hstate hne
  · rw [hunder, ht]
    exact h.knows

/-- A confirmation of a read that answers nothing. -/
private theorem post_dlReadCnf {value : Octet} {errorinfo : Status}
    (h : errorinfo = .noError → s.asked.bind PageRequest.readAddr = none) :
    s.post (.dlReadCnf value errorinfo) = { s with
      sm := s.sm.newJob
      queue := s.queue ++ [(true, SmJob.dlReadCnf s.sm.dlAddr value errorinfo)] } := by
  unfold Admission.post answer
  dsimp only
  split
  next addr hasked =>
    split_ifs with hok
    · have hread := h hok
      rw [show s.asked = some (.read addr) from hasked] at hread
      exact absurd hread (Option.some_ne_none _)
    · rfl
  · rfl

/-- **A job is posted.** -/
private theorem Underway.post (h : s.Underway) {i : SmIndication} (hi : s.Promised i) :
    (s.post i).Underway := by
  cases i with
  | dlReadCnf value errorinfo =>
    by_cases hok : errorinfo = .noError
    · subst hok
      cases hread : s.asked.bind PageRequest.readAddr with
      | none =>
        -- the octet that follows the wake-up
        have hdummy : s.sm.dlAddr = dirParamaDummyWurq := (hi rfl).resolve_left (by simp [hread])
        rw [post_dlReadCnf fun _ => hread]
        exact h.queued (by simp [SmJob.answersPage, hdummy]) rfl
      | some addr =>
        have hasked : s.asked = some (.read addr) := by
          obtain ⟨r, hr, haddr⟩ := Option.bind_eq_some_iff.mp hread
          cases r with
          | read a => rw [hr, Option.some.inj haddr]
          | write a => exact absurd haddr (Option.some_ne_none _).symm
        have hpost : s.post (.dlReadCnf value .noError) = { s with
            sm := s.sm.newJob
            queue := s.queue ++ [(true, SmJob.dlReadCnf s.sm.dlAddr value .noError)]
            asked := none, page := Function.update s.page addr (some value) } := by
          unfold Admission.post answer
          dsimp only
          rw [hasked]
          rfl
        rw [hpost]
        exact h.postRead value hasked
    · rw [post_dlReadCnf fun hno => absurd hno hok]
      exact h.queued (by simp [SmJob.answersPage, hok]) rfl
  | dlWriteCnf errorinfo =>
    unfold Admission.post answer
    dsimp only
    split_ifs with hok
    · subst hok
      exact h.postWrite (hi rfl).1 (hi rfl).2
    · exact h.queued (by simp [Sm.job, SmJob.answersPage, hok]) rfl
  | alReadCnf c =>
    unfold Admission.post answer
    dsimp only
    split_ifs with hc
    · exact h.postSerial hc (hi hc)
    · exact h.queued rfl (Bool.eq_false_of_not_eq_true hc)
  | _ => exact h.queued rfl rfl

/-! ### Handling a job -/

/-- An answer of the data link layer. -/
private theorem Underway.answered (h : s.Underway) {rest : List (Bool × SmJob)} {sm : Sm}
    (hq : s.queue = (true, j) :: rest) (hj : j.answersPage = true)
    (hcontinues : s.sm.Continues s.page sm) (hs : sm.state.startingUp = true)
    (hstay : s.sm.state = .checkSerNum → sm.state = .checkSerNum) :
    ({ s with sm, queue := rest }.issue).Underway := by
  have hnot : j.answersSerial = false := by
    cases j with
    | alReadCnf c => exact absurd hj Bool.false_ne_true
    | _ => rfl
  obtain ⟨r, hasks, hk⟩ := hcontinues hs
  have hanswers : s.answers = j :: fresh rest SmJob.answersPage := by
    rw [answers, hq, fresh_cons hj]
  obtain ⟨hasked, hrest⟩ := h.single.of_cons hanswers
  obtain ⟨t, ht⟩ : ∃ t, t = { s with sm, queue := rest }.issue := ⟨_, rfl⟩
  have htasked : t.asked = r := by
    rw [ht, issue, hasks.request, hasked]
    exact Option.or_none
  have htanswers : t.answers = [] := by rw [ht]; exact hrest
  have hunder : t.underway = r.bind PageRequest.readAddr := by
    rw [underway, htasked, htanswers]
    cases r with
    | none => rfl
    | some r => rfl
  rw [← ht]
  refine ⟨?_, .of_nil htanswers ?_,
    h.serial.congr ?_ ?_ (by rw [ht]; rfl) (by rw [ht]; exact hstay), ?_⟩
  · rw [ht]
    exact hasks.config.trans h.config
  · rw [htasked, ht]
    exact hasks.addr
  · rw [serials, serials, hq, fresh_cons_of_not hnot, ht]
    rfl
  · rw [ht, issue, hasks.serial]
    exact Bool.or_false _
  · rw [hunder, ht]
    exact h.config ▸ hk

/-- **A job is handled** during a start-up, which goes on. -/
private theorem Underway.handled (h : s.Underway) (hs : s.sm.state.startingUp = true)
    {b : Bool} {rest : List (Bool × SmJob)} (hq : s.queue = (b, j) :: rest)
    (hfresh : (j.answersPage || j.answersSerial) = true → b = true) (hheeds : s.Heeds j)
    (hs' : (s.sm.handle j).state.startingUp = true) :
    ({ s with sm := s.sm.handle j, queue := rest }.issue).Underway := by
  cases hpage : j.answersPage with
  -- The job answers the request that is under way.
  | true =>
    obtain rfl := hfresh (by rw [hpage]; rfl)
    have hanswers : s.answers = j :: fresh rest SmJob.answersPage := by
      rw [answers, hq, fresh_cons hpage]
    obtain ⟨hasked, hrest⟩ := h.single.of_cons hanswers
    cases j with
    | dlReadCnf a o stat =>
      obtain ⟨hstat, ha⟩ : stat = .noError ∧ a ≠ dirParamaDummyWurq := by
        simpa [SmJob.answersPage] using hpage
      have hunder : s.underway = some a := by
        rw [underway, hasked, hanswers]
        rfl
      obtain ⟨hreading, hcollected⟩ := (hunder ▸ h.knows).collected
      have ho := h.single.page a o stat (by rw [hanswers]; exact List.mem_cons_self)
      subst hstat
      refine h.answered hq hpage (Sm.continues_read hreading ha hcollected ho) hs' fun hno => ?_
      rw [hno] at hreading
      exact absurd hreading (by decide)
    | dlWriteCnf a stat =>
      obtain rfl : stat = .noError := of_decide_eq_true hpage
      have hunder : s.underway = none := by
        rw [underway, hasked, hanswers, hrest]
        rfl
      have hknows := hunder ▸ h.knows
      rw [← h.config] at hknows
      exact h.answered hq hpage (Sm.continues_write a hknows) hs' fun hno => Sm.state_write hno a
    | _ => exact absurd hpage Bool.false_ne_true
  -- It answers no page request: it is the serial number, a configuration, or none of both.
  | false =>
    have hanswers : fresh rest SmJob.answersPage = s.answers := by
      rw [answers, hq, fresh_cons_of_not hpage]
    cases hserial : j.answersSerial with
    | true =>
      obtain rfl := hfresh (by rw [hserial, Bool.or_true])
      cases j with
      | alReadCnf c =>
        by_cases hstate : s.sm.state = .checkSerNum
        · rw [(Sm.serial_handle hstate hserial).1] at hs'
          exact absurd hs' Bool.false_ne_true
        · have hnone := (h.serial.before hstate).2
          rw [serials, hq, fresh_cons hserial] at hnone
          exact absurd hnone (List.cons_ne_nil _ _)
      | _ => exact absurd hserial Bool.false_ne_true
    | false =>
      have hserials : fresh rest SmJob.answersSerial = s.serials := by
        rw [serials, hq, fresh_cons_of_not hserial]
      by_cases hcfg : ∃ p, j = .setportcfg p
      · obtain ⟨p, rfl⟩ := hcfg
        exact h.rests (Sm.rests_setportcfg hheeds hs') hanswers hserials
      · exact h.rests (Sm.rests_handle hs hpage hserial (fun p hp => hcfg ⟨p, hp⟩) hs') hanswers
          hserials

/-- **A start-up begins.** -/
private theorem underway_start {rest : List (Bool × SmJob)} (hs : s.sm.state.startingUp = false)
    (hs' : (s.sm.handle j).state.startingUp = true) :
    ({ s with sm := s.sm.handle j, queue := rest }.start.issue).Underway := by
  obtain ⟨-, hstate, hasks⟩ := Sm.startup_handle hs hs'
  obtain ⟨t, ht⟩ : ∃ t, t = { s with sm := s.sm.handle j, queue := rest }.start.issue := ⟨_, rfl⟩
  have hasked : t.asked = some (.read dirParamaMinCycl) := by
    rw [ht, issue, start]
    dsimp only
    rw [hasks.request]
    rfl
  have hanswers : t.answers = [] := by rw [ht]; exact fresh_start
  have hserials : t.serials = [] := by rw [ht]; exact fresh_start
  have hasksSerial : t.asksSerial = false := by
    rw [ht, issue, start]
    dsimp only
    rw [hasks.serial]
    rfl
  have hunder : t.underway = some dirParamaMinCycl := by
    rw [underway, hasked]
    rfl
  rw [← ht]
  refine ⟨by rw [ht]; rfl, .of_nil hanswers ?_,
    ⟨.inl hserials, ?_, fun _ => ⟨hasksSerial, hserials⟩⟩, ?_⟩
  · rw [hasked, ht]
    exact hasks.addr
  · rw [hserials]
    exact fun _ hno => absurd hno List.not_mem_nil
  · rw [hunder, ht]
    exact .reading ((congrArg SmState.reading hstate).trans rfl) .minCycl

/-- **The report** that the device is ready. -/
private theorem Underway.ready (h : s.Underway) {b : Bool} {rest : List (Bool × SmJob)}
    (hq : s.queue = (b, j) :: rest)
    (hfresh : (j.answersPage || j.answersSerial) = true → b = true)
    (hready : SmPortMode.comready ∈ (s.sm.handle j).reports) :
    ({ s with sm := s.sm.handle j, queue := rest }.issue).Admitted := by
  obtain ⟨hstate, c, rfl, hc⟩ := Sm.comready_handle hready
  obtain rfl := hfresh (by rw [hc, Bool.or_true])
  obtain ⟨hcycletime, hserial⟩ := (Sm.serial_handle hstate hc).2 hready
  have hmatched := (h.knows.matched (by rw [hstate]; rfl)).2
  have hread : s.serial = some c.serialnumber := by
    refine h.serial.serial c ?_
    rw [serials, hq, fresh_cons hc]
    exact List.mem_cons_self
  refine ⟨⟨?_, ?_, hmatched.ids⟩, fun hlevel => ⟨_, hread, ?_⟩⟩
  · dsimp only [issue]
    rw [hcycletime]
    exact hmatched.cycletime
  · dsimp only [issue]
    rw [hcycletime]
    exact hmatched.read
  · dsimp only [issue] at hlevel ⊢
    rw [← h.config] at hlevel ⊢
    exact hserial hlevel

/-- A report is a call. -/
theorem comready_of_calls (h : .portModeInd .comready ∈ s.sm.calls) :
    SmPortMode.comready ∈ s.sm.reports :=
  List.mem_filterMap.mpr ⟨_, h, rfl⟩

/-- The next job. -/
private theorem Inv.handle (h : s.Inv) (hregular : s.Regular .handle) (hheeded : s.Heeded .handle) :
    s.handle.Inv := by
  unfold Admission.handle
  split
  · refine ⟨fun hs => ?_, sound_of_calls rfl⟩
    rw [← issue_of_silent (Sm.silent_newJob s.sm)]
    exact (h.underway hs).rests (Sm.idle_newJob s.sm).rests rfl rfl
  next b j rest hq =>
    have hfresh : (j.answersPage || j.answersSerial) = true → b = true :=
      hregular (b, j) (by rw [hq]; rfl)
    have hheeds : s.Heeds j := hheeded (b, j) (by rw [hq]; rfl)
    dsimp only
    cases hs : s.sm.state.startingUp with
    | true =>
      have hunderway := h.underway hs
      rw [if_neg fun hno => by rw [hno.1] at hs; exact absurd hs (by decide)]
      exact ⟨fun hs' => hunderway.handled hs hq hfresh hheeds hs',
        fun hready => hunderway.ready hq hfresh (comready_of_calls hready)⟩
    | false =>
      have hnot : SmPortMode.comready ∉ (s.sm.handle j).reports := fun hready => by
        rw [(Sm.comready_handle hready).1] at hs
        exact absurd hs (by decide)
      split_ifs with hbegins
      · exact ⟨fun hs' => underway_start hs hs',
          fun hready => absurd (comready_of_calls hready) hnot⟩
      · refine ⟨fun hs' => ?_, fun hready => absurd (comready_of_calls hready) hnot⟩
        obtain ⟨hinactive, hstate, -⟩ := Sm.startup_handle hs hs'
        exact absurd ⟨hinactive, hstate⟩ hbegins

/-! ### Runs -/

@[simp] theorem answer_sm (s : Admission) (i : SmIndication) : (s.answer i).sm = s.sm := by
  unfold answer
  split
  · split
    · split_ifs <;> rfl
    · rfl
  · split_ifs <;> rfl
  · split_ifs <;> rfl
  · rfl

/-- Nothing is asked for outside a job. -/
private theorem Inv.beside (h : s.Inv) {sm : Sm} (hidle : s.sm.Idle sm) (hcalls : sm.calls = []) :
    ({ s with sm }).Inv := by
  refine ⟨fun hs => ?_, sound_of_calls hcalls⟩
  have hs' : s.sm.state.startingUp = true := hidle.state ▸ hs
  rw [← issue_of_silent (q := s.queue) hidle.silent]
  exact (h.underway hs').rests hidle.rests rfl rfl

/-- **The step lemma.** -/
theorem Inv.step (h : s.Inv) {i : AdmissionInput} (hi : s.Regular i ∧ s.Heeded i) :
    (s.step i).Inv := by
  cases i with
  | post i =>
    refine ⟨fun hs => ?_, sound_of_calls ?_⟩
    · have hsm : (s.post i).sm = s.sm.newJob := answer_sm _ i
      exact (h.underway ((congrArg (·.state.startingUp) hsm).symm.trans hs)).post hi.1
    · exact congrArg Sm.calls (answer_sm _ i)
  | handle => exact h.handle hi.1 hi.2
  | baud realmode =>
    refine h.beside ?_ ?_
    · unfold Sm.dlModeIndBaud
      split_ifs <;> exact ⟨⟨rfl, rfl, rfl⟩, rfl, rfl, rfl⟩
    · unfold Sm.dlModeIndBaud
      split_ifs <;> rfl
  | otherPort cycletime => exact h.beside ⟨⟨rfl, rfl, rfl⟩, rfl, rfl, rfl⟩ rfl

theorem Dormant.inv (h : s.Dormant) : s.Inv := by
  refine ⟨fun hs => ?_, sound_of_calls h.calls⟩
  rw [h.state] at hs
  exact absurd hs Bool.false_ne_true

/-- **Only matching devices are admitted.** In every run in which no configuration with DI or DO
arrives in `checkSerNum`, a device that is reported ready fits the configuration that was stored
when its start-up began. -/
theorem admits_only_matching {s₀ s : Admission} (h₀ : s₀.Dormant)
    (h : Runs.Reaches step (fun s i => s.Regular i ∧ s.Heeded i) s₀ s) :
    s.AdmitsOnlyMatching :=
  (h.invariant Inv h₀.inv fun _ _ hs hi => hs.step hi).sound

/-- A port is configured, and its device is woken up. -/
def wakeUp (config : SmpParameterlist) : List AdmissionInput :=
  [.post (.setPortConfigReq config), .handle, .baud .com3, .post (.dlReadCnf 0 .noError),
    .post (.dlModeInd .startup), .handle, .handle]

/-- An octet of the page is read. -/
def readOctet (o : Octet) : List AdmissionInput := [.post (.dlReadCnf o .noError), .handle]

/-- An octet of the page is written. -/
def writeOctet : List AdmissionInput := [.post (.dlWriteCnf .noError), .handle]

/-- A start-up of a V1.1 device with the given octets, until the serial number is asked for. -/
def startupOf (config : SmpParameterlist) (octets : List Octet) : List AdmissionInput :=
  wakeUp config ++ (octets.take 5).flatMap readOctet ++ writeOctet ++
    (octets.drop 5).flatMap readOctet ++ writeOctet ++ [.post (.dlModeInd .preoperate), .handle]

/-- A device with the vendor id 0x014E and the device id 0x010203. -/
def pageOctets : List Octet :=
  [0x28, 0x33, 0x11, 0x82, 0x00, 0x01, 0x4E, 0x01, 0x02, 0x03, 0x00, 0x00]

/-- It is configured with the serial number "A". -/
def identicalDevice : SmpParameterlist where
  mode := .cfgcom
  revisionid := 0x11
  inspectionlevel := .identical
  vendorid := 0x014E
  deviceid := 0x010203
  serialnumber := paddedSerial [0x41]

/-- The start-up of the device itself. -/
def matchingRun : List AdmissionInput :=
  startupOf identicalDevice pageOctets ++ [.post (.alReadCnf (.ofOctet 0x41)), .handle]

theorem admits_only_matching_identical :
    (Runs.run step {} matchingRun).sm.state = .wait ∧ (Runs.run step {} matchingRun).Admitted := by
  have hrun : Runs.Admissible step (fun s i => s.Regular i ∧ s.Heeded i) {} matchingRun := by
    decide +kernel
  have hdormant : (({} : Admission)).Dormant := ⟨rfl, rfl⟩
  exact ⟨by decide +kernel,
    admits_only_matching hdormant (Runs.reaches_run hrun) (by decide +kernel)⟩

/-- While the serial number is read, the port is configured for DI. -/
def droppedRun : List AdmissionInput :=
  startupOf identicalDevice pageOctets ++
    [.post (.setPortConfigReq { mode := .di }), .handle, .post (.alReadCnf (.ofOctet 0x42)),
      .handle]

/-- A device with another serial number is admitted. -/
theorem not_admits_only_matching : ¬ ∀ s₀ s : Admission, s₀.Dormant →
    Runs.Reaches step (fun s i => s.Regular i) s₀ s → s.AdmitsOnlyMatching := by
  intro hclaim
  have hrun : Runs.Admissible step (fun s i => s.Regular i) {} droppedRun := by decide +kernel
  have hdormant : (({} : Admission)).Dormant := ⟨rfl, rfl⟩
  have hlevel : (Runs.run step {} droppedRun).config.inspectionlevel = .identical := by
    decide +kernel
  have hread : (Runs.run step {} droppedRun).serial = some [0x42] := by decide +kernel
  have hconfig : (Runs.run step {} droppedRun).config.serialnumber = paddedSerial [0x41] := by
    decide +kernel
  obtain ⟨serial, hserial, heq⟩ :=
    (hclaim _ _ hdormant (Runs.reaches_run hrun) (by decide +kernel)).serial hlevel
  obtain rfl := Option.some.inj (hread.symm.trans hserial)
  rw [hconfig] at heq
  exact absurd heq (by decide)

end Admission

end IolHat

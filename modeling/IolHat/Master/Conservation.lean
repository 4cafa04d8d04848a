import IolHat.Master.Machine
import Mathlib.Data.List.Nodup
import Mathlib.Data.List.Perm.Subperm

/-!
# Jobs are conserved

`Master.Conserved` says that no job is lost or doubled: each of the fifty is in its own free
mailbox, in the work mailbox, or held by one thread, and in one of these only; the job that
`iolink_main` serves goes back to the mailbox it came from; and no post has timed out.

Two things break it. `AL_Event_req` gives its job a type that the switch of `iolink_main` does not
list, although it lists that of `AL_Abort` and of every other posting function. And
`iolink_m_deinit` posts a job of its own, the fifty-first, to a mailbox that has room for fifty.
`Master.Conserving` leaves out just that, and under it the jobs are conserved in every run.
-/

namespace IolHat

open Rings

/-- The jobs that belong to a free mailbox. -/
def Pool.jobs : Pool → List Job
  | .mboxAvail => Master.jobs
  | .mboxApiAvail => Master.jobsApi

namespace Master

/-- The free jobs of a mailbox. -/
def free (m : Master) : Pool → List Job
  | .mboxAvail => m.mboxAvail.toList
  | .mboxApiAvail => m.mboxApiAvail.toList

/-- All free jobs. -/
def freeJobs (m : Master) : List Job := m.free .mboxAvail ++ m.free .mboxApiAvail

/-- The jobs that the threads hold: a posting function its own, the master's thread also the one it
serves. -/
def held (m : Master) : List Job := m.postings.map Posting.job ++ m.serving.toList

/-- Jobs are conserved. -/
structure Conserved (m : Master) : Prop where
  /-- A job is in one place, once. -/
  onePlace : ∀ pool, ∀ j ∈ Pool.jobs pool,
    (m.free pool).count j + m.mbox.toList.count j + m.held.count j = 1
  /-- A free mailbox holds its own jobs only. -/
  ownPool : ∀ pool, ∀ j ∈ m.free pool, j ∈ Pool.jobs pool
  /-- The job being served is returned to its own mailbox. -/
  returned : ∀ j, m.serving = some j → (m.jobType j).returnPool = j.pool
  /-- The work mailbox is large enough. -/
  bounded : m.mbox.toList.length ≤ masterJobCnt + masterJobApiCnt
  /-- No post has timed out. -/
  posted : m.asserted ≠ some .post
  /-- `iolink_main` has known every type. -/
  known : m.asserted ≠ some .jobType

/-- The steps that conserve the jobs: all but a call of `AL_Event_req`, a call of `iolink_m_deinit`
that finds the work mailbox full, and a post that finds it full because the job of
`iolink_m_deinit` is in it. -/
def Conserving (m : Master) : MasterStep → Prop
  | .fetch _ f => f ≠ .alEventReq
  | .post _ => .deinit ∈ m.mbox.toList → m.mbox.toList.length < masterJobCnt + masterJobApiCnt
  | .deinit => m.mbox.toList.length < masterJobCnt + masterJobApiCnt
  | .mainFetch | .mainReturn => True

instance (m : Master) : (i : MasterStep) → Decidable (m.Conserving i)
  | .fetch _ f => inferInstanceAs (Decidable (f ≠ .alEventReq))
  | .post _ => inferInstanceAs (Decidable (.deinit ∈ m.mbox.toList →
      m.mbox.toList.length < masterJobCnt + masterJobApiCnt))
  | .deinit => inferInstanceAs (Decidable (m.mbox.toList.length < masterJobCnt + masterJobApiCnt))
  | .mainFetch | .mainReturn => inferInstanceAs (Decidable True)

/-! ### Types and mailboxes -/

/-- A posting function gives its job a type that brings it back, with one exception. -/
private theorem returnPool_jobType {f : PostingFunction} (hf : f ≠ .alEventReq) :
    f.jobType.returnPool = some f.pool := by
  cases f <;> first | rfl | exact absurd rfl hf

private theorem jobs_nodup : (jobs ++ jobsApi ++ [Job.deinit]).Nodup := by decide +kernel

private theorem mem_jobs_iff {pool : Pool} {j : Job} (hj : j ∈ jobs ++ jobsApi ++ [Job.deinit]) :
    j ∈ Pool.jobs pool ↔ j.pool = some pool := by
  have hjob : ∀ i, Job.job i ∉ jobsApi := by simp [jobsApi]
  have hjobApi : ∀ i, Job.jobApi i ∉ jobs := by simp [jobs]
  have hdeinit : Job.deinit ∉ jobs ∧ Job.deinit ∉ jobsApi := by simp [jobs, jobsApi]
  cases j <;> cases pool <;> simp_all [Pool.jobs, Job.pool]

/-! ### The mailboxes -/

private theorem osMboxPost_of_lt {n : ℕ} {q : Ring Job n} (hq : q.toList.length < n) (j : Job) :
    ∃ q', osMboxPost q j = (false, q') ∧ q'.toList = q.toList ++ [j] := by
  obtain ⟨q', hpost⟩ : ∃ q', q.post j = some q' := by
    refine Option.ne_none_iff_exists'.mp fun hfull => ?_
    exact Nat.ne_of_lt hq (Ring.post_eq_none_iff.mp hfull)
  refine ⟨q', ?_, Ring.toList_post hpost⟩
  rw [osMboxPost, hpost]

/-- What a posting function takes is taken out of its free mailbox. -/
theorem fetchFrom_spec {m m' : Master} {pool : Pool} {j : Job}
    (hfetch : m.fetchFrom pool = some (j, m')) :
    ∃ avail api, m' = { m with mboxAvail := avail, mboxApiAvail := api } ∧ j ∈ m.free pool ∧
      m.freeJobs.Perm (j :: m'.freeJobs) ∧ ∀ pool', m'.free pool' ⊆ m.free pool' := by
  cases pool with
  | mboxAvail =>
    obtain ⟨⟨i, q⟩, hq, heq⟩ := Option.map_eq_some_iff.mp hfetch
    obtain ⟨rfl, rfl⟩ := Prod.mk.inj heq
    have hfree : m.free .mboxAvail = i :: q.toList := Ring.toList_fetch hq
    refine ⟨q, m.mboxApiAvail, rfl, hfree ▸ List.mem_cons_self, ?_, ?_⟩
    · rw [freeJobs, hfree]
      exact List.Perm.refl _
    · rintro (_ | _)
      · exact hfree ▸ List.subset_cons_self i q.toList
      · exact List.Subset.refl _
  | mboxApiAvail =>
    obtain ⟨⟨i, q⟩, hq, heq⟩ := Option.map_eq_some_iff.mp hfetch
    obtain ⟨rfl, rfl⟩ := Prod.mk.inj heq
    have hfree : m.free .mboxApiAvail = i :: q.toList := Ring.toList_fetch hq
    refine ⟨m.mboxAvail, q, rfl, hfree ▸ List.mem_cons_self, ?_, ?_⟩
    · rw [freeJobs, hfree]
      exact List.perm_middle
    · rintro (_ | _)
      · exact List.Subset.refl _
      · exact hfree ▸ List.subset_cons_self i q.toList

/-- What `iolink_main` returns is put into the free mailbox, if there is room. -/
theorem returnTo_spec (m : Master) {pool : Pool} (j : Job)
    (hroom : (m.free pool).length < (Pool.jobs pool).length) :
    ∃ avail api, m.returnTo j pool = { m with mboxAvail := avail, mboxApiAvail := api } ∧
      (m.returnTo j pool).freeJobs.Perm (j :: m.freeJobs) ∧
        ∀ pool', ∀ i ∈ (m.returnTo j pool).free pool', i ∈ m.free pool' ∨ i = j ∧ pool' = pool := by
  cases pool with
  | mboxAvail =>
    obtain ⟨q, hpost, hq⟩ := osMboxPost_of_lt (n := masterJobCnt) hroom j
    have hfree : (m.returnTo j .mboxAvail).free .mboxAvail = m.free .mboxAvail ++ [j] := by
      simp only [returnTo, Master.free, hpost, hq]
    refine ⟨_, _, rfl, ?_, ?_⟩
    · rw [freeJobs, hfree, List.append_assoc]
      exact List.perm_middle
    · rintro (_ | _) i hi
      · rcases List.mem_append.mp (hfree ▸ hi) with hold | hnew
        · exact .inl hold
        · exact .inr ⟨List.mem_singleton.mp hnew, rfl⟩
      · exact .inl hi
  | mboxApiAvail =>
    obtain ⟨q, hpost, hq⟩ := osMboxPost_of_lt (n := masterJobApiCnt) hroom j
    have hfree : (m.returnTo j .mboxApiAvail).free .mboxApiAvail = m.free .mboxApiAvail ++ [j] := by
      simp only [returnTo, Master.free, hpost, hq]
    refine ⟨_, _, rfl, ?_, ?_⟩
    · rw [freeJobs, hfree, ← List.append_assoc]
      exact List.perm_append_comm
    · rintro (_ | _) i hi
      · exact .inl hi
      · rcases List.mem_append.mp (hfree ▸ hi) with hold | hnew
        · exact .inl hold
        · exact .inr ⟨List.mem_singleton.mp hnew, rfl⟩

/-! ### The invariant -/

/-- The job of `iolink_m_deinit`, until `iolink_main` has taken it. -/
def exitJob (m : Master) : List Job :=
  if m.deiniting = true ∧ m.running = true then [.deinit] else []

/-- All places, as one list. -/
def places (m : Master) : List Job :=
  m.freeJobs ++ m.mbox.toList ++ m.held

/-- The type of a job that has been posted brings it back to where it came from; the job of
`iolink_m_deinit` comes from nowhere and ends the loop. -/
def Returns (m : Master) (j : Job) : Prop :=
  ∃ pool, j.pool = some pool ∧ (m.jobType j).returnPool = some pool

/-- What the conserving steps keep. -/
structure Invariant (m : Master) : Prop where
  perm : m.places.Perm (jobs ++ jobsApi ++ m.exitJob)
  free : ∀ pool, ∀ j ∈ m.free pool, j.pool = some pool
  postings : ∀ p ∈ m.postings, p.job.pool = some p.function.pool ∧ p.function ≠ .alEventReq
  mbox : ∀ j ∈ m.mbox.toList, m.Returns j ∨ j = .deinit ∧ m.jobType j = .exit
  serving : ∀ j, m.serving = some j → m.Returns j
  running : m.deiniting = true ∨ m.running = true
  asserted : m.asserted = none ∨ m.asserted = some .fetch

theorem Invariant.init : Invariant init where
  perm := by decide +kernel
  free := by
    rintro (_ | _) j hj
    · have hall : ∀ i ∈ Master.init.free .mboxAvail, i.pool = some .mboxAvail := by decide +kernel
      exact hall j hj
    · have hall : ∀ i ∈ Master.init.free .mboxApiAvail, i.pool = some .mboxApiAvail := by
        decide +kernel
      exact hall j hj
  postings := by rintro p ⟨⟩
  mbox := by rintro j ⟨⟩
  serving := by rintro j ⟨⟩
  running := .inr rfl
  asserted := .inl rfl

namespace Invariant

variable {m : Master}

/-- Nothing but the jobs is in the places. -/
private theorem mem_jobs (h : Invariant m) {j : Job} (hj : j ∈ m.places) :
    j ∈ jobs ++ jobsApi ++ [Job.deinit] := by
  have hmem := h.perm.mem_iff.mp hj
  unfold exitJob at hmem
  split_ifs at hmem
  · exact hmem
  · rw [List.append_nil] at hmem
    exact List.mem_append_left _ hmem

theorem nodup (h : Invariant m) : m.places.Nodup := by
  refine h.perm.nodup_iff.mpr ?_
  unfold exitJob
  split_ifs
  · exact jobs_nodup
  · rw [List.append_nil]
    exact jobs_nodup.sublist (List.sublist_append_left _ _)

private theorem asserted_ne (h : Invariant m) {a : JobAssertion} (ha : a ≠ .fetch) :
    m.asserted ≠ some a := by
  rcases h.asserted with hnone | hfetch
  · rw [hnone]
    exact (Option.some_ne_none a).symm
  · rw [hfetch]
    exact fun heq => ha (Option.some.inj heq).symm

/-- **The invariant is conservation.** -/
theorem conserved (h : Invariant m) : Conserved m where
  onePlace := by
    intro pool j hj
    have hj' : j ∈ jobs ++ jobsApi := by
      cases pool
      · exact List.mem_append_left _ hj
      · exact List.mem_append_right _ hj
    have hpool : j.pool = some pool := (mem_jobs_iff (List.mem_append_left _ hj')).mp hj
    have hone : m.places.count j = 1 :=
      List.count_eq_one_of_mem h.nodup (h.perm.mem_iff.mpr (List.mem_append_left _ hj'))
    have hother : ∀ pool', pool' ≠ pool → (m.free pool').count j = 0 := by
      intro pool' hne
      refine List.count_eq_zero.mpr fun hmem => hne ?_
      exact Option.some.inj ((h.free pool' j hmem).symm.trans hpool)
    simp only [places, freeJobs, List.count_append] at hone
    cases pool with
    | mboxAvail =>
      have hapi := hother .mboxApiAvail (by decide)
      omega
    | mboxApiAvail =>
      have havail := hother .mboxAvail (by decide)
      omega
  ownPool := by
    intro pool j hj
    have hplace : j ∈ m.places := by
      cases pool with
      | mboxAvail =>
        exact List.mem_append_left _ (List.mem_append_left _ (List.mem_append_left _ hj))
      | mboxApiAvail =>
        exact List.mem_append_left _ (List.mem_append_left _ (List.mem_append_right _ hj))
    exact (mem_jobs_iff (h.mem_jobs hplace)).mpr (h.free pool j hj)
  returned := by
    intro j hj
    obtain ⟨pool, hpool, hreturn⟩ := h.serving j hj
    rw [hpool, hreturn]
  bounded := m.mbox.length_toList_le
  posted := h.asserted_ne (by decide)
  known := h.asserted_ne (by decide)

/-! ### The steps -/

/-- The job of `iolink_m_deinit` is somewhere only while it is expected. -/
private theorem exitJob_of_mem (h : Invariant m) (hmem : .deinit ∈ m.places) :
    m.deiniting = true ∧ m.exitJob = [.deinit] := by
  have hdeinit : Job.deinit ∉ jobs ++ jobsApi := by simp [jobs, jobsApi]
  have hexit : Job.deinit ∈ m.exitJob :=
    (List.mem_append.mp (h.perm.mem_iff.mp hmem)).resolve_left hdeinit
  unfold exitJob at hexit ⊢
  split_ifs at hexit ⊢ with hand
  · exact ⟨hand.1, rfl⟩
  · exact absurd hexit List.not_mem_nil

/-- A job that is held is in no mailbox. -/
theorem not_waiting (h : Invariant m) {j : Job} (hj : j ∈ m.held) :
    j ∉ m.mbox.toList := by
  intro hmbox
  have hcount : m.places.count j ≤ 1 := List.nodup_iff_count_le_one.mp h.nodup j
  have hheld : 0 < m.held.count j := List.count_pos_iff.mpr hj
  have hwaiting : 0 < m.mbox.toList.count j := List.count_pos_iff.mpr hmbox
  simp only [places, List.count_append] at hcount
  omega

private theorem pool_of_held (h : Invariant m) {j : Job} (hj : j ∈ m.held) :
    ∃ pool, j.pool = some pool := by
  rcases List.mem_append.mp hj with hposting | hserving
  · obtain ⟨p, hp, rfl⟩ := List.mem_map.mp hposting
    exact ⟨_, (h.postings p hp).1⟩
  · obtain ⟨pool, hpool, -⟩ := h.serving j (Option.mem_toList.mp hserving)
    exact ⟨pool, hpool⟩

/-- **Room in the work mailbox.** A posting function that holds a job finds the mailbox full only
when the job of `iolink_m_deinit` is in it. -/
theorem mbox_lt (h : Invariant m) {j : Job} (hj : j ∈ m.held)
    (hdeinit : .deinit ∉ m.mbox.toList) :
    m.mbox.toList.length < masterJobCnt + masterJobApiCnt := by
  have hnodup : (j :: m.mbox.toList).Nodup := by
    refine List.nodup_cons.mpr ⟨h.not_waiting hj, ?_⟩
    have hsub : m.mbox.toList.Sublist m.places :=
      (List.sublist_append_right _ _).trans (List.sublist_append_left _ _)
    exact h.nodup.sublist hsub
  have hsubset : j :: m.mbox.toList ⊆ jobs ++ jobsApi := by
    intro i hi
    have hplace : i ∈ m.places := by
      rcases List.mem_cons.mp hi with rfl | hmbox
      · exact List.mem_append_right _ hj
      · exact List.mem_append_left _ (List.mem_append_right _ hmbox)
    rcases List.mem_append.mp (h.mem_jobs hplace) with hjobs | hlast
    · exact hjobs
    · obtain rfl := List.mem_singleton.mp hlast
      rcases List.mem_cons.mp hi with rfl | hmbox
      · obtain ⟨pool, hpool⟩ := h.pool_of_held hj
        exact absurd hpool (Option.some_ne_none pool).symm
      · exact absurd hmbox hdeinit
  exact (List.subperm_of_subset hnodup hsubset).length_le

/-- **Room in a free mailbox** for a job that is held and belongs to it. -/
private theorem free_lt (h : Invariant m) {j : Job} {pool : Pool} (hj : j ∈ m.held)
    (hpool : j.pool = some pool) : (m.free pool).length < (Pool.jobs pool).length := by
  have hfree : (m.free pool ++ m.held).Sublist m.places := by
    cases pool with
    | mboxAvail =>
      refine List.Sublist.append_right ?_ _
      exact (List.sublist_append_left _ _).trans (List.sublist_append_left _ _)
    | mboxApiAvail =>
      refine List.Sublist.append_right ?_ _
      exact (List.sublist_append_right _ _).trans (List.sublist_append_left _ _)
  have hnodup := List.nodup_append'.mp (h.nodup.sublist hfree)
  have hnodup' : (j :: m.free pool).Nodup :=
    List.nodup_cons.mpr ⟨fun hmem => hnodup.2.2 hmem hj, hnodup.1⟩
  have hsubset : j :: m.free pool ⊆ Pool.jobs pool := by
    intro i hi
    rcases List.mem_cons.mp hi with rfl | hmem
    · exact (mem_jobs_iff (h.mem_jobs (List.mem_append_right _ hj))).mpr hpool
    · have hplace : i ∈ m.places := hfree.subset (List.mem_append_left _ hmem)
      exact (mem_jobs_iff (h.mem_jobs hplace)).mpr (h.free pool i hmem)
  exact (List.subperm_of_subset hnodup' hsubset).length_le

/-- **Taking a free job.** -/
theorem fetch (h : Invariant m) (thread : ThreadId) {f : PostingFunction} (hf : f ≠ .alEventReq) :
    Invariant (m.fetch thread f) := by
  unfold Master.fetch
  split_ifs with hbusy
  · exact h
  rcases hfetch : m.fetchFrom f.pool with _ | ⟨j, m'⟩
  · rw [hold]
    split_ifs
    · exact h
    · exact ⟨h.perm, h.free, h.postings, h.mbox, h.serving, h.running, .inr rfl⟩
  · obtain ⟨avail, api, hm', hj, hperm, hsub⟩ := fetchFrom_spec hfetch
    have hplaces : (m.hold thread f (some (j, m'))).places =
        m'.freeJobs ++ m.mbox.toList ++ (j :: m.held) := by
      rw [hm']
      rfl
    refine ⟨?_, ?_, ?_, ?_, ?_, ?_, ?_⟩
    · rw [hplaces]
      have hexit : (m.hold thread f (some (j, m'))).exitJob = m.exitJob := by
        rw [hm']
        rfl
      rw [hexit]
      refine List.Perm.trans List.perm_middle (List.Perm.trans ?_ h.perm)
      exact ((hperm.symm.append_right m.mbox.toList).append_right m.held)
    · intro pool i hi
      exact h.free pool i (hsub pool hi)
    · rintro p (_ | ⟨_, hp⟩)
      · exact ⟨h.free f.pool j hj, hf⟩
      · rw [hm'] at hp
        exact h.postings p hp
    all_goals rw [hm']
    · exact h.mbox
    · exact h.serving
    · exact h.running
    · exact h.asserted

/-- Posting to a work mailbox with room. -/
theorem postJob_of_lt (m : Master) (j : Job)
    (hroom : m.mbox.toList.length < masterJobCnt + masterJobApiCnt) :
    ∃ mbox, m.postJob j = { m with mbox := mbox } ∧ mbox.toList = m.mbox.toList ++ [j] := by
  obtain ⟨mbox, hpost, hmbox⟩ := osMboxPost_of_lt hroom j
  refine ⟨mbox, ?_, hmbox⟩
  rw [postJob, hpost]

/-- The type of a job says nothing about other jobs. -/
private theorem returns_setType {m' : Master} {i j : Job} {t : JobType} (hne : i ≠ j)
    (htype : m'.jobType = m.setType j t) : m'.Returns i ↔ m.Returns i := by
  rw [Returns, htype, setType_of_ne hne]
  rfl

/-- **Posting.** -/
theorem post (h : Invariant m) (thread : ThreadId) (hok : m.Conserving (.post thread)) :
    Invariant (m.post thread) := by
  rcases hfind : m.postings.find? (·.thread = thread) with _ | p
  · rw [Master.post, hfind]
    exact h
  rw [Master.post, hfind]
  have hp : p ∈ m.postings := List.mem_of_find?_eq_some hfind
  have hheld : p.job ∈ m.held := List.mem_append_left _ (List.mem_map_of_mem hp)
  have hroom : m.mbox.toList.length < masterJobCnt + masterJobApiCnt := by
    rcases Decidable.em (Job.deinit ∈ m.mbox.toList) with hin | hout
    · exact hok hin
    · exact h.mbox_lt hheld hout
  obtain ⟨hpool, hf⟩ := h.postings p hp
  -- the job posted is nowhere else, so that its new type concerns no other place
  have hwaiting : ∀ i ∈ m.mbox.toList, i ≠ p.job := by
    rintro i hi rfl
    exact h.not_waiting hheld hi
  have hserving : ∀ i, m.serving = some i → i ≠ p.job := by
    rintro i hi rfl
    have hcount : m.places.count p.job ≤ 1 := List.nodup_iff_count_le_one.mp h.nodup _
    have hposting : 0 < (m.postings.map Posting.job).count p.job :=
      List.count_pos_iff.mpr (List.mem_map_of_mem hp)
    simp only [places, held, List.count_append, hi, Option.toList_some, List.count_singleton_self]
      at hcount
    omega
  obtain ⟨mbox, hpost, hmbox⟩ := postJob_of_lt
    { m with
      postings := m.postings.erase p
      jobType := m.setType p.job p.function.jobType } p.job hroom
  dsimp only
  rw [hpost]
  refine ⟨?_, h.free, fun q hq => h.postings q (List.mem_of_mem_erase hq), ?_, ?_, h.running,
    h.asserted⟩
  · refine List.perm_iff_count.mpr fun i => Eq.trans ?_ (h.perm.count_eq i)
    have hcount := ((List.perm_cons_erase hp).map Posting.job).count_eq i
    show (m.freeJobs ++ mbox.toList ++
      ((m.postings.erase p).map Posting.job ++ m.serving.toList)).count i = m.places.count i
    rw [hmbox]
    simp only [places, held, List.count_append, hcount, List.map_cons, List.count_cons,
      List.count_nil]
    omega
  · intro i hi
    rw [hmbox] at hi
    rcases List.mem_append.mp hi with hold | hnew
    · rcases h.mbox i hold with hreturns | hexit
      · exact .inl ((returns_setType (hwaiting i hold) rfl).mpr hreturns)
      · exact .inr ⟨hexit.1, (setType_of_ne (hwaiting i hold)).trans hexit.2⟩
    · obtain rfl := List.mem_singleton.mp hnew
      refine .inl ⟨_, hpool, ?_⟩
      exact (congrArg JobType.returnPool (m.setType_self _ _)).trans (returnPool_jobType hf)
  · intro i hi
    exact (returns_setType (hserving i hi) rfl).mpr (h.serving i hi)

/-- **Serving.** -/
theorem mainFetch (h : Invariant m) : Invariant m.mainFetch := by
  unfold Master.mainFetch
  split_ifs with hidle
  swap
  · exact h
  obtain ⟨hrunning, hserving⟩ := hidle
  rcases hfetch : m.mbox.fetch with _ | ⟨j, q⟩
  · exact h
  have hmbox : m.mbox.toList = j :: q.toList := Ring.toList_fetch hfetch
  have hsub : ∀ i ∈ q.toList, i ∈ m.mbox.toList := by
    intro i hi
    rw [hmbox]
    exact List.mem_cons_of_mem j hi
  have hj : j ∈ m.mbox.toList := by
    rw [hmbox]
    exact List.mem_cons_self
  dsimp only
  rcases h.mbox j hj with ⟨pool, hpool, hreturn⟩ | ⟨rfl, hexit⟩
  · have htype : m.jobType j ≠ .exit := by
      intro heq
      rw [heq] at hreturn
      exact absurd hreturn (Option.some_ne_none pool).symm
    rw [serve, if_neg htype, hreturn]
    refine ⟨?_, h.free, h.postings, fun i hi => h.mbox i (hsub i hi), ?_, h.running, h.asserted⟩
    · refine List.perm_iff_count.mpr fun i => Eq.trans ?_ (h.perm.count_eq i)
      show (m.freeJobs ++ q.toList ++ (m.postings.map Posting.job ++ [j])).count i =
        m.places.count i
      simp only [places, held, hserving, hmbox, List.count_append, List.count_cons,
        List.count_nil, Option.toList_none]
      omega
    · rintro i hi
      obtain rfl := Option.some.inj hi
      exact ⟨pool, hpool, hreturn⟩
  · rw [serve, if_pos hexit]
    have hplace : Job.deinit ∈ m.places :=
      List.mem_append_left _ (List.mem_append_right _ hj)
    obtain ⟨hdeiniting, hexitJob⟩ := h.exitJob_of_mem hplace
    refine ⟨?_, h.free, h.postings, fun i hi => h.mbox i (hsub i hi), h.serving, .inl hdeiniting,
      h.asserted⟩
    -- the job of `iolink_m_deinit` leaves the places and is no longer expected there
    have hperm : (Job.deinit :: (m.freeJobs ++ q.toList ++ m.held)).Perm
        (Job.deinit :: (jobs ++ jobsApi)) := by
      have hall := h.perm
      rw [hexitJob, places, hmbox] at hall
      exact (List.perm_middle.symm.append_right m.held).trans
        (hall.trans List.perm_append_comm)
    refine hperm.cons_inv.trans (List.Perm.of_eq ?_)
    exact (List.append_nil (jobs ++ jobsApi)).symm.trans
      (congrArg (jobs ++ jobsApi ++ ·) (if_neg fun hand => Bool.noConfusion hand.2).symm)

/-- **Returning.** -/
theorem mainReturn (h : Invariant m) : Invariant m.mainReturn := by
  rcases hserving : m.serving with _ | j
  · rw [Master.mainReturn, hserving]
    exact h
  rw [Master.mainReturn, hserving]
  dsimp only
  -- The job is not returned while its callback is still posting another one.
  split_ifs with hbusy
  · exact h
  obtain ⟨pool, hpool, hreturn⟩ := h.serving j hserving
  have hheld : j ∈ m.held := by
    rw [held, hserving]
    exact List.mem_append_right _ List.mem_cons_self
  have hwaiting : ∀ i ∈ m.mbox.toList, i ≠ j := by
    rintro i hi rfl
    exact h.not_waiting hheld hi
  rw [hreturn]
  obtain ⟨avail, api, hm', hperm, hmem⟩ := returnTo_spec
    { m with serving := none, jobType := m.setType j .none } j (h.free_lt hheld hpool)
  dsimp only
  refine ⟨?_, ?_, ?_, ?_, ?_, ?_, ?_⟩
  · have hrest : ∀ r : Master, r = { m with
        serving := none
        jobType := m.setType j .none
        mboxAvail := avail
        mboxApiAvail := api } →
        r.mbox = m.mbox ∧ r.held = m.postings.map Posting.job ∧ r.exitJob = m.exitJob := by
      rintro r rfl
      exact ⟨rfl, List.append_nil _, rfl⟩
    obtain ⟨hmbox, hheld', hexitJob⟩ := hrest _ hm'
    rw [places, hmbox, hheld', hexitJob]
    refine List.perm_iff_count.mpr fun i => Eq.trans ?_ (h.perm.count_eq i)
    have hfree : (returnTo { m with serving := none, jobType := m.setType j .none } j
        pool).freeJobs.count i = (j :: m.freeJobs).count i := hperm.count_eq i
    simp only [places, held, hserving, List.count_append, List.count_cons, List.count_nil,
      Option.toList_some] at hfree ⊢
    omega
  · intro pool' i hi
    rcases hmem pool' i hi with hold | ⟨rfl, rfl⟩
    · exact h.free pool' i hold
    · exact hpool
  all_goals rw [hm']
  · exact h.postings
  · intro i hi
    rcases h.mbox i hi with hreturns | hexit
    · exact .inl ((returns_setType (hwaiting i hi) rfl).mpr hreturns)
    · exact .inr ⟨hexit.1, (setType_of_ne (hwaiting i hi)).trans hexit.2⟩
  · rintro i ⟨⟩
  · exact h.running
  · exact h.asserted

/-- **Deinitialising.** -/
theorem deinit (h : Invariant m) (hok : m.Conserving .deinit) : Invariant m.deinit := by
  rw [Master.deinit]
  split_ifs with hdeiniting
  · exact h
  have hrunning : m.running = true := h.running.resolve_left hdeiniting
  have hexitJob : m.exitJob = [] := if_neg fun hand => hdeiniting hand.1
  have hnone : Job.deinit ∉ m.places := fun hmem => hdeiniting (h.exitJob_of_mem hmem).1
  have hwaiting : ∀ i ∈ m.mbox.toList, i ≠ .deinit := by
    rintro i hi rfl
    exact hnone (List.mem_append_left _ (List.mem_append_right _ hi))
  have hserving : ∀ i, m.serving = some i → i ≠ .deinit := by
    rintro i hi rfl
    refine hnone (List.mem_append_right _ (List.mem_append_right _ ?_))
    exact Option.mem_toList.mpr hi
  obtain ⟨mbox, hpost, hmbox⟩ := postJob_of_lt
    { m with deiniting := true, jobType := m.setType .deinit .exit } .deinit hok
  rw [hpost]
  refine ⟨?_, h.free, h.postings, ?_, ?_, .inl rfl, h.asserted⟩
  · have hexitJob' : exitJob { m with
        deiniting := true
        jobType := m.setType .deinit .exit
        mbox := mbox } = [.deinit] := if_pos ⟨rfl, hrunning⟩
    rw [hexitJob']
    have hall : (m.freeJobs ++ m.mbox.toList ++ m.held).Perm (jobs ++ jobsApi) := by
      have hperm := h.perm
      rwa [hexitJob, List.append_nil] at hperm
    refine List.Perm.trans ?_ (hall.append_right [.deinit])
    show (m.freeJobs ++ mbox.toList ++ m.held).Perm _
    rw [hmbox, ← List.append_assoc, List.append_assoc _ [Job.deinit], List.append_assoc _ m.held]
    exact List.perm_append_comm.append_left _
  · intro i hi
    rw [hmbox] at hi
    rcases List.mem_append.mp hi with hold | hnew
    · rcases h.mbox i hold with hreturns | hexit
      · exact .inl ((returns_setType (hwaiting i hold) rfl).mpr hreturns)
      · exact absurd hexit.1 (hwaiting i hold)
    · obtain rfl := List.mem_singleton.mp hnew
      exact .inr ⟨rfl, m.setType_self .deinit .exit⟩
  · intro i hi
    exact (returns_setType (hserving i hi) rfl).mpr (h.serving i hi)

/-- **One step.** -/
theorem step (h : Invariant m) (i : MasterStep) (hi : m.Conserving i) : Invariant (m.step i) := by
  unfold Master.step
  rcases hasserted : m.asserted with _ | a
  · cases i with
    | fetch thread f => exact h.fetch thread hi
    | post thread => exact h.post thread hi
    | mainFetch => exact h.mainFetch
    | mainReturn => exact h.mainReturn
    | deinit => exact h.deinit hi
  · exact h

end Invariant

/-! ### Every run -/

/-- **Jobs are conserved** in every state that conserving steps lead to, whatever threads take them
and in whatever order. -/
theorem conserved_of_conserving {m : Master} (hm : Runs.Reaches step Conserving init m) :
    Conserved m :=
  (hm.invariant Invariant .init fun _ i h hi => h.step i hi).conserved

/-- A thread reads a parameter of its device and the application asks for the status of the port;
the master's thread serves both, and the master is taken down. -/
theorem conserved_twoRequests : Conserved (Runs.run step init
    [.fetch (.dl 1) .dlReadParamCnf, .fetch (.application 0) .cmSmiPortStatusReq,
      .post (.application 0), .mainFetch, .post (.dl 1), .mainReturn, .deinit, .mainFetch,
      .mainReturn, .mainFetch]) :=
  conserved_of_conserving (Runs.reaches_run (by decide +kernel))

/-- **A type that is not listed.** The job of `AL_Event_req` fails the assertion in the default case
of `iolink_main`, and is not returned. -/
theorem not_conserved_alEventReq : ¬Conserved (Runs.run step init
    [.fetch (.application 0) .alEventReq, .post (.application 0), .mainFetch]) := by
  intro h
  exact h.known (by decide +kernel)

/-- The job of `iolink_m_deinit` does not fit when all others are waiting. -/
example : (Runs.run step init
    ((List.range masterJobCnt).flatMap (fun i => [.fetch (.dl i) .dlModeInd, .post (.dl i)]) ++
      (List.range masterJobApiCnt).flatMap (fun i =>
        [.fetch (.application i) .cmSmiPortStatusReq, .post (.application i)]) ++
          [.deinit])).asserted = some .post := by decide +kernel

end Master

end IolHat

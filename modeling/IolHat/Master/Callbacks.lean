import IolHat.Master.Conservation
import Mathlib.Logic.Function.Basic

/-!
# What a callback finds in its job

A thread that has taken a job fills it in, field by field, and posts it; the callback of the job
reads the fields in the master's thread, while other threads fill in other jobs. `JobRun` adds what
is written in the jobs to `Master`. Next to it stands what each thread has written since it took its
job, in whatever the job contained; this is what the thread means its callback to find.

`callbacks_as_posted`: the callbacks find just that, in the order in which the jobs were posted, and
each as long as it runs.
-/

namespace IolHat

open Rings

/-- The jobs with their contents: `port`, `callback` and the union. -/
structure JobRun (γ : Type) where
  master : Master
  content : Job → γ
  /-- What a thread has written since it took its job. -/
  draft : ThreadId → γ
  /-- What has been posted, newest last, with what the thread has written. -/
  posted : List (JobType × γ) := []
  /-- The callbacks that have been called, newest last, with what they have found. -/
  called : List (JobType × γ) := []

namespace JobRun

variable {γ : Type} (s : JobRun γ)

/-- The posting function that a thread is in. -/
def posting (thread : ThreadId) : Option Posting :=
  s.master.postings.find? (·.thread = thread)

/-- `iolink_fetch_avail_job` and `iolink_fetch_avail_api_job`; what the job contains stays. -/
def fetch (thread : ThreadId) (f : PostingFunction) : JobRun γ :=
  let s' : JobRun γ := { s with master := s.master.fetch thread f }
  match s.posting thread, s'.posting thread with
  | none, some p => { s' with draft := Function.update s.draft thread (s.content p.job) }
  | _, _ => s'

/-- A posting function writes into its job. -/
def write (thread : ThreadId) (g : γ → γ) : JobRun γ :=
  match s.posting thread with
  | some p =>
    { s with
      content := Function.update s.content p.job (g (s.content p.job))
      draft := Function.update s.draft thread (g (s.draft thread)) }
  | none => s

/-- The end of a posting function. -/
def post (thread : ThreadId) : JobRun γ :=
  match s.posting thread with
  | some p =>
    { s with
      master := s.master.post thread
      posted := s.posted ++ [(p.function.jobType, s.draft thread)] }
  | none => s

/-- `iolink_main` fetches a job and calls its callback. -/
def mainFetch : JobRun γ :=
  let s' : JobRun γ := { s with master := s.master.mainFetch }
  match s.master.serving, s'.master.serving with
  | none, some j => { s' with called := s.called ++ [(s.master.jobType j, s.content j)] }
  | _, _ => s'

/-- The steps of the threads. -/
inductive Step (γ : Type)
  | fetch (thread : ThreadId) (f : PostingFunction)
  | write (thread : ThreadId) (g : γ → γ)
  | post (thread : ThreadId)
  | mainFetch
  | mainReturn
  | deinit

/-- A step as one of `Master`, which does not see the writing. -/
def Step.master : Step γ → Option MasterStep
  | .fetch thread f => some (.fetch thread f)
  | .write _ _ => none
  | .post thread => some (.post thread)
  | .mainFetch => some .mainFetch
  | .mainReturn => some .mainReturn
  | .deinit => some .deinit

/-- One step of one thread. A failed assertion ends the program. -/
def step (i : Step γ) : JobRun γ :=
  match s.master.asserted with
  | some _ => s
  | none =>
    match i with
    | .fetch thread f => s.fetch thread f
    | .write thread g => s.write thread g
    | .post thread => s.post thread
    | .mainFetch => s.mainFetch
    | .mainReturn => { s with master := s.master.mainReturn }
    | .deinit => { s with master := s.master.deinit }

/-- The steps that conserve the jobs. -/
def Conserving (i : Step γ) : Prop := ∀ j ∈ i.master, s.master.Conserving j

instance (i : Step γ) : Decidable (s.Conserving i) :=
  inferInstanceAs (Decidable (∀ j ∈ i.master, _))

/-- `iolink_m_init`, with what the jobs contain at the start. -/
def init (content : Job → γ) (draft : ThreadId → γ) : JobRun γ where
  master := Master.init
  content := content
  draft := draft

/-- What waits in the work mailbox. -/
def waiting : List (JobType × γ) :=
  (s.master.mbox.toList.filter (· ≠ .deinit)).map fun j => (s.master.jobType j, s.content j)

/-! ### The invariant -/

/-- The jobs belong to whoever holds them. -/
structure Owned : Prop where
  invariant : Master.Invariant s.master
  /-- A thread is in one posting function. -/
  threads : (s.master.postings.map Posting.thread).Nodup
  drafts : ∀ p ∈ s.master.postings, s.content p.job = s.draft p.thread
  order : s.posted = s.called ++ s.waiting
  serving : ∀ j, s.master.serving = some j →
    s.called.getLast? = some (s.master.jobType j, s.content j)

variable {s}

theorem Owned.posting_eq_some (h : s.Owned) {p : Posting} {thread : ThreadId} :
    s.posting thread = some p ↔ p ∈ s.master.postings ∧ p.thread = thread := by
  constructor
  · intro hp
    exact ⟨List.mem_of_find?_eq_some hp, by simpa using List.find?_some hp⟩
  · rintro ⟨hp, rfl⟩
    obtain ⟨q, hq⟩ : ∃ q, s.posting p.thread = some q :=
      Option.isSome_iff_exists.mp (List.find?_isSome.mpr ⟨p, hp, by simp⟩)
    have hthread : q.thread = p.thread := by simpa using List.find?_some hq
    rw [hq, List.inj_on_of_nodup_map h.threads (List.mem_of_find?_eq_some hq) hp hthread]

theorem posting_eq_none {thread : ThreadId} :
    s.posting thread = none ↔ ¬ s.master.postings.any (·.thread = thread) = true := by
  rw [posting, List.find?_eq_none, List.any_eq_true, not_exists]
  exact forall_congr' fun p => not_and.symm

/-- A job that a posting function holds is nowhere else. -/
theorem Owned.elsewhere (h : s.Owned) {p : Posting} (hp : p ∈ s.master.postings) :
    (∀ j ∈ s.master.mbox.toList, j ≠ p.job) ∧ (∀ j, s.master.serving = some j → j ≠ p.job) ∧
      ∀ q ∈ s.master.postings, q.job = p.job → q = p := by
  have hmem : p.job ∈ s.master.postings.map Posting.job := List.mem_map_of_mem hp
  have hheld := (List.nodup_append'.mp h.invariant.nodup).2.1
  obtain ⟨hjobs, -, hdisjoint⟩ := List.nodup_append'.mp hheld
  refine ⟨?_, ?_, fun q hq heq => List.inj_on_of_nodup_map hjobs hq hp heq⟩
  · rintro j hj rfl
    exact h.invariant.not_waiting (List.mem_append_left _ hmem) hj
  · rintro j hj rfl
    exact hdisjoint hmem (Option.mem_toList.mpr hj)

/-- The entries of jobs that have not been touched. -/
theorem waiting_congr {s' : JobRun γ} (hmbox : s'.master.mbox = s.master.mbox)
    (hsame : ∀ j ∈ s.master.mbox.toList, j ≠ .deinit →
      s'.master.jobType j = s.master.jobType j ∧ s'.content j = s.content j) :
    s'.waiting = s.waiting := by
  unfold waiting
  rw [hmbox]
  refine List.map_congr_left fun j hj => ?_
  obtain ⟨hmem, hne⟩ := List.mem_filter.mp hj
  obtain ⟨htype, hcontent⟩ := hsame j hmem (by simpa using hne)
  rw [htype, hcontent]

/-- What `Master.fetch` does to the posting functions. -/
theorem master_fetch_cases (m : Master) (thread : ThreadId) (f : PostingFunction) :
    (m.fetch thread f).mbox = m.mbox ∧ (m.fetch thread f).serving = m.serving ∧
      (m.fetch thread f).jobType = m.jobType ∧
      ((m.fetch thread f).postings = m.postings ∨
        ¬ m.postings.any (·.thread = thread) = true ∧
          ∃ j, (m.fetch thread f).postings = ⟨thread, f, j⟩ :: m.postings) := by
  unfold Master.fetch
  split_ifs with hbusy
  · exact ⟨rfl, rfl, rfl, .inl rfl⟩
  · rcases hfetch : m.fetchFrom f.pool with _ | ⟨j, m'⟩
    · rw [Master.hold]
      split_ifs <;> exact ⟨rfl, rfl, rfl, .inl rfl⟩
    · obtain ⟨avail, api, rfl, -⟩ := Master.fetchFrom_spec hfetch
      exact ⟨rfl, rfl, rfl, .inr ⟨hbusy, j, rfl⟩⟩

theorem Owned.fetch (h : s.Owned) (thread : ThreadId) {f : PostingFunction}
    (hf : f ≠ .alEventReq) : (s.fetch thread f).Owned := by
  have hinvariant := h.invariant.fetch thread hf
  obtain ⟨hmbox, hserving, htype, hpostings⟩ := master_fetch_cases s.master thread f
  have hwaiting : ∀ draft, waiting { s with master := s.master.fetch thread f, draft := draft } =
      s.waiting := fun draft => waiting_congr hmbox fun j _ _ => ⟨by rw [htype], rfl⟩
  have hcalled : ∀ j, (s.master.fetch thread f).serving = some j →
      s.called.getLast? = some ((s.master.fetch thread f).jobType j, s.content j) := by
    intro j hj
    rw [htype]
    exact h.serving j (hserving ▸ hj)
  rcases hpostings with hpostings | ⟨hbusy, j, hpostings⟩
  · have hsame : ∀ t, posting { s with master := s.master.fetch thread f } t = s.posting t :=
      fun t => by rw [posting, posting, hpostings]
    have hkept : s.fetch thread f = { s with master := s.master.fetch thread f } := by
      unfold JobRun.fetch
      dsimp only
      rw [hsame]
      cases s.posting thread <;> rfl
    rw [hkept]
    exact ⟨hinvariant, hpostings ▸ h.threads, hpostings ▸ h.drafts,
      h.order.trans (by rw [hwaiting s.draft]), hcalled⟩
  · have hnew : s.fetch thread f = { s with
        master := s.master.fetch thread f
        draft := Function.update s.draft thread (s.content j) } := by
      unfold JobRun.fetch
      dsimp only
      rw [posting_eq_none.mpr hbusy, posting, hpostings, List.find?_cons_of_pos (by simp)]
    have hnot : ∀ q ∈ s.master.postings, q.thread ≠ thread := fun q hq heq =>
      hbusy (List.any_eq_true.mpr ⟨q, hq, decide_eq_true heq⟩)
    rw [hnew]
    refine ⟨hinvariant, ?_, ?_, h.order.trans (by rw [hwaiting]), hcalled⟩
    · show ((s.master.fetch thread f).postings.map Posting.thread).Nodup
      rw [hpostings, List.map_cons, List.nodup_cons]
      refine ⟨fun hmem => ?_, h.threads⟩
      obtain ⟨q, hq, heq⟩ := List.mem_map.mp hmem
      exact hnot q hq heq
    · intro q hq
      have hq : q ∈ Posting.mk thread f j :: s.master.postings := hpostings ▸ hq
      rcases List.mem_cons.mp hq with rfl | hq
      · show s.content j = Function.update s.draft thread (s.content j) thread
        rw [Function.update_self]
      · show s.content q.job = Function.update s.draft thread (s.content j) q.thread
        rw [Function.update_of_ne (hnot q hq), h.drafts q hq]

theorem Owned.write (h : s.Owned) (thread : ThreadId) (g : γ → γ) : (s.write thread g).Owned := by
  unfold JobRun.write
  split
  · rename_i p hposting
    obtain ⟨hp, rfl⟩ := h.posting_eq_some.mp hposting
    obtain ⟨hmbox, hserving, hothers⟩ := h.elsewhere hp
    constructor
    · exact h.invariant
    · exact h.threads
    · intro q hq
      by_cases hqp : q = p
      · subst hqp
        simp [h.drafts q hq]
      · have hjob : q.job ≠ p.job := fun heq => hqp (hothers q hq heq)
        have hthread : q.thread ≠ p.thread := fun heq =>
          hqp (List.inj_on_of_nodup_map h.threads hq hp heq)
        simp [hjob, hthread, h.drafts q hq]
    · have hwaiting : waiting { s with
          content := Function.update s.content p.job (g (s.content p.job))
          draft := Function.update s.draft p.thread (g (s.draft p.thread)) } = s.waiting :=
        waiting_congr rfl fun j hj _ => ⟨rfl, Function.update_of_ne (hmbox j hj) _ _⟩
      exact h.order.trans (by rw [hwaiting])
    · intro j hj
      have hne : j ≠ p.job := hserving j hj
      simpa [hne] using h.serving j hj
  · exact h

theorem Owned.post (h : s.Owned) (thread : ThreadId) (hok : s.master.Conserving (.post thread)) :
    (s.post thread).Owned := by
  unfold JobRun.post
  split
  swap
  · exact h
  rename_i p hposting
  obtain ⟨hp, rfl⟩ := h.posting_eq_some.mp hposting
  obtain ⟨hmbox, hserving, hothers⟩ := h.elsewhere hp
  have hroom : s.master.mbox.toList.length < masterJobCnt + masterJobApiCnt := by
    rcases Decidable.em (Job.deinit ∈ s.master.mbox.toList) with hin | hout
    · exact hok hin
    · exact h.invariant.mbox_lt (List.mem_append_left _ (List.mem_map_of_mem hp)) hout
  have hne : p.job ≠ .deinit := by
    intro heq
    have hpool := (h.invariant.postings p hp).1
    rw [heq] at hpool
    cases hpool
  obtain ⟨mbox, hpost, hlist⟩ := Master.Invariant.postJob_of_lt
    { s.master with
      postings := s.master.postings.erase p
      jobType := s.master.setType p.job p.function.jobType } p.job hroom
  have hmaster : s.master.post p.thread = { s.master with
      postings := s.master.postings.erase p
      jobType := s.master.setType p.job p.function.jobType
      mbox := mbox } := by
    rw [Master.post, show s.master.postings.find? (·.thread = p.thread) = some p from hposting]
    exact hpost
  have hinvariant := h.invariant.post p.thread hok
  rw [hmaster] at hinvariant ⊢
  constructor
  · exact hinvariant
  · exact h.threads.sublist (List.erase_sublist.map _)
  · exact fun q hq => h.drafts q (List.mem_of_mem_erase hq)
  · have hold : ∀ j ∈ s.master.mbox.toList.filter (· ≠ .deinit),
        (s.master.setType p.job p.function.jobType j, s.content j) =
          (s.master.jobType j, s.content j) := by
      intro j hj
      rw [Master.setType_of_ne (hmbox j (List.mem_filter.mp hj).1)]
    show s.posted ++ _ = s.called ++ (mbox.toList.filter (· ≠ .deinit)).map fun j =>
      (s.master.setType p.job p.function.jobType j, s.content j)
    rw [hlist, List.filter_append, List.map_append, List.map_congr_left hold, ← List.append_assoc]
    have horder := h.order
    rw [waiting] at horder
    rw [← horder, ← h.drafts p hp]
    simp [hne]
  · intro j hj
    have hj : s.master.serving = some j := hj
    show s.called.getLast? = some (s.master.setType p.job p.function.jobType j, s.content j)
    rw [Master.setType_of_ne (hserving j hj)]
    exact h.serving j hj

/-- No callback is called. -/
theorem mainFetch_of_none (hnone : s.master.mainFetch.serving = none) :
    s.mainFetch = { s with master := s.master.mainFetch } := by
  unfold JobRun.mainFetch
  dsimp only
  rw [hnone]
  cases s.master.serving <;> rfl

theorem Owned.mainFetch (h : s.Owned) : s.mainFetch.Owned := by
  have hinvariant := h.invariant.mainFetch
  by_cases hidle : s.master.running = true ∧ s.master.serving = none
  swap
  · have hsame : s.master.mainFetch = s.master := if_neg hidle
    have hkept : s.mainFetch = s := by
      unfold JobRun.mainFetch
      dsimp only
      rw [hsame]
      cases s.master.serving <;> rfl
    exact hkept.symm ▸ h
  rcases hfetch : s.master.mbox.fetch with _ | ⟨j, q⟩
  · have hsame : s.master.mainFetch = s.master := by
      rw [Master.mainFetch, if_pos hidle, hfetch]
    have hkept : s.mainFetch = s := by
      unfold JobRun.mainFetch
      dsimp only
      rw [hsame]
      cases s.master.serving <;> rfl
    exact hkept.symm ▸ h
  have hlist : s.master.mbox.toList = j :: q.toList := Ring.toList_fetch hfetch
  have hserve : s.master.mainFetch = Master.serve { s.master with mbox := q } j := by
    rw [Master.mainFetch, if_pos hidle, hfetch]
  have horder := h.order
  rw [waiting, hlist] at horder
  rcases h.invariant.mbox j (hlist ▸ List.mem_cons_self) with ⟨pool, hpool, hreturn⟩ | ⟨rfl, hexit⟩
  · -- the callback is called
    have htype : s.master.jobType j ≠ .exit := by
      intro heq
      rw [heq] at hreturn
      cases hreturn
    have hne : j ≠ .deinit := by
      rintro rfl
      cases hpool
    have hmaster : s.master.mainFetch = { s.master with mbox := q, serving := some j } := by
      rw [hserve, Master.serve, if_neg htype]
      dsimp only
      rw [hreturn]
    have hnew : s.mainFetch = { s with
        master := { s.master with mbox := q, serving := some j }
        called := s.called ++ [(s.master.jobType j, s.content j)] } := by
      unfold JobRun.mainFetch
      dsimp only
      rw [hmaster, hidle.2]
    rw [hnew]
    rw [hmaster] at hinvariant
    refine ⟨hinvariant, h.threads, h.drafts, ?_, ?_⟩
    · show s.posted = s.called ++ [(s.master.jobType j, s.content j)] ++ waiting _
      rw [horder, List.filter_cons_of_pos (by simpa using hne), List.map_cons, List.append_assoc]
      rfl
    · intro i hi
      obtain rfl := Option.some.inj hi
      exact List.getLast?_concat
  · -- the end of the loop
    have hmaster : s.master.mainFetch = { s.master with mbox := q, running := false } := by
      rw [hserve, Master.serve, if_pos hexit]
    rw [mainFetch_of_none (by rw [hmaster]; exact hidle.2), hmaster]
    rw [hmaster] at hinvariant
    refine ⟨hinvariant, h.threads, h.drafts, ?_, h.serving⟩
    rw [List.filter_cons_of_neg (by simp)] at horder
    exact horder

theorem Owned.mainReturn (h : s.Owned) :
    Owned { s with master := s.master.mainReturn } := by
  have hinvariant := h.invariant.mainReturn
  rcases hserving : s.master.serving with _ | j
  · have hsame : s.master.mainReturn = s.master := by rw [Master.mainReturn, hserving]
    rw [hsame]
    exact h
  by_cases hbusy : s.master.postings.any (·.thread = .master) = true
  · have hsame : s.master.mainReturn = s.master := by
      rw [Master.mainReturn, hserving]
      exact if_pos hbusy
    rw [hsame]
    exact h
  obtain ⟨pool, -, hreturn⟩ := h.invariant.serving j hserving
  have hmaster : s.master.mainReturn =
      Master.returnTo { s.master with serving := none, jobType := s.master.setType j .none } j
        pool := by
    rw [Master.mainReturn, hserving]
    dsimp only
    rw [if_neg hbusy, hreturn]
  have hrest : ∀ m : Master, (m.returnTo j pool).mbox = m.mbox ∧
      (m.returnTo j pool).serving = m.serving ∧ (m.returnTo j pool).postings = m.postings ∧
        (m.returnTo j pool).jobType = m.jobType := by
    intro m
    cases pool <;> exact ⟨rfl, rfl, rfl, rfl⟩
  obtain ⟨hmbox, hnone, hpostings, htype⟩ :=
    hrest { s.master with serving := none, jobType := s.master.setType j .none }
  have hwaits : ∀ i ∈ s.master.mbox.toList, i ≠ j := by
    rintro i hi rfl
    refine h.invariant.not_waiting (List.mem_append_right _ ?_) hi
    exact Option.mem_toList.mpr hserving
  rw [hmaster] at hinvariant ⊢
  refine ⟨hinvariant, ?_, ?_, ?_, ?_⟩
  · show ((Master.returnTo _ j pool).postings.map Posting.thread).Nodup
    rw [hpostings]
    exact h.threads
  · intro p hp
    exact h.drafts p (hpostings ▸ hp)
  · refine h.order.trans (congrArg (s.called ++ ·) (waiting_congr hmbox fun i hi _ => ?_).symm)
    exact ⟨by rw [htype]; exact Master.setType_of_ne (hwaits i hi), rfl⟩
  · intro i hi
    rw [hnone] at hi
    cases hi

theorem Owned.deinit (h : s.Owned) (hok : s.master.Conserving .deinit) :
    Owned { s with master := s.master.deinit } := by
  have hinvariant := h.invariant.deinit hok
  by_cases hdeiniting : s.master.deiniting = true
  · have hsame : s.master.deinit = s.master := if_pos hdeiniting
    rw [hsame]
    exact h
  obtain ⟨mbox, hpost, hlist⟩ := Master.Invariant.postJob_of_lt
    { s.master with deiniting := true, jobType := s.master.setType .deinit .exit } .deinit hok
  have hmaster : s.master.deinit = { s.master with
      deiniting := true
      jobType := s.master.setType .deinit .exit
      mbox := mbox } := (if_neg hdeiniting).trans hpost
  rw [hmaster] at hinvariant ⊢
  refine ⟨hinvariant, h.threads, h.drafts, ?_, ?_⟩
  · refine h.order.trans (congrArg (s.called ++ ·) ?_)
    show _ = (mbox.toList.filter (· ≠ .deinit)).map fun j =>
      (s.master.setType .deinit .exit j, s.content j)
    rw [hlist, List.filter_append, List.filter_cons_of_neg (by simp), List.filter_nil,
      List.append_nil, waiting]
    refine List.map_congr_left fun j hj => ?_
    rw [Master.setType_of_ne (by simpa using (List.mem_filter.mp hj).2)]
  · intro j hj
    have hj : s.master.serving = some j := hj
    obtain ⟨pool, hpool, -⟩ := h.invariant.serving j hj
    have hne : j ≠ .deinit := by
      rintro rfl
      cases hpool
    show s.called.getLast? = some (s.master.setType .deinit .exit j, s.content j)
    rw [Master.setType_of_ne hne]
    exact h.serving j hj

theorem Owned.step (h : s.Owned) {i : Step γ} (hi : s.Conserving i) : (s.step i).Owned := by
  unfold JobRun.step
  split
  · exact h
  · cases i with
    | fetch thread f => exact h.fetch thread (hi _ rfl)
    | write thread g => exact h.write thread g
    | post thread => exact h.post thread (hi _ rfl)
    | mainFetch => exact h.mainFetch
    | mainReturn => exact h.mainReturn
    | deinit => exact h.deinit (hi _ rfl)

theorem owned_init (content : Job → γ) (draft : ThreadId → γ) : (init content draft).Owned where
  invariant := .init
  threads := List.nodup_nil
  drafts _ hp := absurd hp List.not_mem_nil
  order := rfl
  serving _ hj := by cases hj

/-- **Callbacks find what was written for them.** Whatever the jobs contained at first, however
many threads fetch, fill in and post jobs at the same time, and whenever the master's thread goes
on: the callbacks that have been called have found what their posting functions had written, in the
order of the posts, each once; what is still to come waits in the work mailbox; and a callback goes
on finding the same as long as it runs. -/
theorem callbacks_as_posted {content : Job → γ} {draft : ThreadId → γ}
    (hs : Runs.Reaches step Conserving (init content draft) s) :
    s.posted = s.called ++ s.waiting ∧
      ∀ j, s.master.serving = some j →
        s.called.getLast? = some (s.master.jobType j, s.content j) := by
  have howned : s.Owned :=
    hs.invariant Owned (owned_init content draft) fun _ _ h hi => h.step hi
  exact ⟨howned.order, howned.serving⟩

/-- Two threads fill in their jobs at the same time, and the second one posts first. -/
def twoWriters : List (Step ℕ) :=
  [.fetch (.dl 1) .dlReadParamCnf, .fetch (.application 0) .cmSmiPortStatusReq,
    .write (.dl 1) fun _ => 1, .write (.application 0) fun _ => 2, .post (.application 0),
    .mainFetch, .write (.dl 1) (· + 10), .post (.dl 1)]

/-- What it leads to. -/
def afterTwoWriters : JobRun ℕ := Runs.run step (init (fun _ => 0) fun _ => 0) twoWriters

theorem callbacks_as_posted_twoWriters :
    afterTwoWriters.called = [(.smiPortstatus, 2)] ∧
      afterTwoWriters.waiting = [(.dlReadparamCnf, 11)] ∧
        afterTwoWriters.posted = afterTwoWriters.called ++ afterTwoWriters.waiting := by
  have hreaches : Runs.Reaches step Conserving (init (fun _ => 0) fun _ => 0) afterTwoWriters :=
    Runs.reaches_run (by decide +kernel)
  exact ⟨by decide +kernel, by decide +kernel, (callbacks_as_posted hreaches).1⟩

end JobRun

end IolHat

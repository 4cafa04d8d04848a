import IolHat.Lib.Monitor
import IolHat.Osal.Mailbox
import Mathlib.Data.Fintype.Card

/-!
# Threads at a mailbox

`os_mbox_fetch` and `os_mbox_post` wait on one condition variable, and both signal it after they
have given the mutex back, also when they have timed out. A signal that was meant for a thread that
fetches may therefore wake one that posts. The mailboxes of the master are not used that way: they
hand round a pool of jobs that all fit into the mailbox, so a thread that posts a job finds room.

`mailbox_hands_on_every_message` is about mailboxes used like this, by any number of threads: nobody
waits next to a message.
-/

namespace IolHat

open Octets Rings

deriving instance DecidableEq for MboxCall

namespace OsMbox

variable {α : Type} [Inhabited α] {size : ℕ}

/-- `os_mbox_fetch` and `os_mbox_post` as calls of a monitor. -/
def monitor : Monitor (OsMbox α size) (MboxCall α) (MboxReturn α) where
  ready mbox
    | .fetch _ => mbox.count ≠ 0
    | .post _ _ => mbox.count ≠ size
  body mbox c :=
    match mbox.call c false with
    | some (ret, mbox) => (mbox, ret)
    | none => (mbox, ⟨true, none⟩)
  giveUp _ _ := ⟨true, none⟩
  timed c := c.time ≠ osWaitForever
  signals _ := true

/-- A call that leaves its loop ends as it does without threads. -/
theorem call_of_ready {mbox : OsMbox α size} {c : MboxCall α}
    (h : monitor.ready mbox c = true) :
    mbox.call c false = some ((monitor.body mbox c).2, (monitor.body mbox c).1) := by
  have hsome : ∃ ret mbox', mbox.call c false = some (ret, mbox') := by
    cases c with
    | fetch time =>
      have hcount : mbox.count ≠ 0 := of_decide_eq_true h
      exact ⟨_, _, congrArg (Option.map _) (if_neg hcount)⟩
    | post msg time =>
      have hcount : mbox.count ≠ size := of_decide_eq_true h
      exact ⟨_, _, congrArg (Option.map _) (if_neg hcount)⟩
  obtain ⟨ret, mbox', hcall⟩ := hsome
  simp only [monitor, hcall]

theorem not_failed_of_ready {mbox : OsMbox α size} {c : MboxCall α}
    (h : monitor.ready mbox c = true) : (monitor.body mbox c).2.failed = false := by
  cases c with
  | fetch time =>
    have hcount : mbox.count ≠ 0 := of_decide_eq_true h
    simp [monitor, call, fetch, hcount]
  | post msg time =>
    have hcount : mbox.count ≠ size := of_decide_eq_true h
    simp [monitor, call, post, hcount]

variable {τ : Type}

/-- What the calls have returned so far. -/
abbrev History (α τ : Type) := List (τ × MboxCall α × MboxReturn α)

/-- The messages that have gone into the mailbox, in order. -/
def posted (l : History α τ) : List α :=
  l.flatMap fun (_, c, ret) => if ret.failed then [] else c.message

/-- The messages that have come out of it, in order. -/
def fetched (l : History α τ) : List α := l.flatMap fun (_, _, ret) => ret.msg.toList

variable {mbox₀ mbox : OsMbox α size} {l : History α τ}

/-- A history is a run of the mailbox. -/
theorem inv_of_legal (h : monitor.Legal mbox₀ l mbox)
    (h₀ : ({ mbox := mbox₀ } : MboxRun α size).Inv) :
    ({ mbox := mbox, posted := posted l, fetched := fetched l } : MboxRun α size).Inv := by
  induction h with
  | nil => exact h₀
  | @through l mbox h t c hready ih =>
    have hstep := ih.step (c, false)
    simp only [MboxRun.step, call_of_ready hready] at hstep
    simpa [posted, fetched] using hstep
  | @giveUp l mbox h t c htimed ih =>
    have hstep := ih.step (c, true)
    have hforever : c.time ≠ osWaitForever := of_decide_eq_true htimed
    simp only [MboxRun.step, call, if_true, if_neg hforever] at hstep
    simpa [posted, fetched, monitor] using hstep

/-! ### Handing round a pool -/

section Pool

/-- Whoever posts a message has it: it is not in the mailbox. -/
def Holds (w : Monitor.World (OsMbox α size) (MboxCall α) (MboxReturn α) τ) (_ : τ) :
    MboxCall α → Prop
  | .fetch _ => True
  | .post msg _ => msg ∉ w.shared.queue

instance [DecidableEq α] (w : Monitor.World (OsMbox α size) (MboxCall α) (MboxReturn α) τ) (t : τ) :
    ∀ c, Decidable (Holds w t c)
  | .fetch _ => isTrue trivial
  | .post msg _ => inferInstanceAs (Decidable (msg ∉ w.shared.queue))

/-- The calls that wait. -/
def IsFetch : MboxCall α → Prop
  | .fetch _ => True
  | .post _ _ => False

variable {w : Monitor.World (OsMbox α size) (MboxCall α) (MboxReturn α) τ}

/-- The messages of the pool are in the mailbox at most once, and only threads that fetch wait. -/
structure Pooled (w : Monitor.World (OsMbox α size) (MboxCall α) (MboxReturn α) τ) : Prop where
  ring : ∃ q : Ring α size, w.shared.Represents q
  nodup : w.shared.queue.Nodup
  waiting : ∀ {t c}, w.Waiting t c → IsFetch c

/-- There is room for a message that is not in the mailbox. -/
theorem Pooled.room [Fintype α] (h : Pooled w) (hcard : Fintype.card α ≤ size) {msg : α}
    (hmsg : msg ∉ w.shared.queue) : w.shared.count ≠ size := by
  obtain ⟨q, hq⟩ := h.ring
  have hlength : (msg :: w.shared.queue).length ≤ Fintype.card α :=
    (List.nodup_cons.mpr ⟨hmsg, h.nodup⟩).length_le_card
  rw [List.length_cons, hq.queue_eq, Ring.length_toList, ← hq.count] at hlength
  omega

/-- What a call that goes through does to the pool. -/
theorem Pooled.through (h : Pooled w) {c : MboxCall α} (hready : monitor.ready w.shared c = true)
    (hholds : ∀ msg ∈ c.message, msg ∉ w.shared.queue) :
    (∃ q : Ring α size, (monitor.body w.shared c).1.Represents q) ∧
      (monitor.body w.shared c).1.queue.Nodup := by
  obtain ⟨q, hq⟩ := h.ring
  have hcall := call_of_ready hready
  have hqueue : Fifo.call size w.shared.queue c false =
      some ((monitor.body w.shared c).2, (monitor.body w.shared c).1.queue) := by
    rw [← hq.call_eq, hcall]
    rfl
  refine ⟨hq.call hcall, ?_⟩
  have hmoved := Fifo.queue_call hqueue
  have hnodup : (w.shared.queue ++ if (monitor.body w.shared c).2.failed then [] else
      c.message).Nodup := by
    split_ifs
    · rw [List.append_nil]
      exact h.nodup
    · refine List.Nodup.append h.nodup ?_ fun msg hin hnew => hholds msg hnew hin
      cases c with
      | fetch time => exact List.nodup_nil
      | post msg time => exact List.nodup_singleton msg
  rw [hmoved] at hnodup
  exact (List.nodup_append.mp hnodup).2.1

variable [Fintype α] [DecidableEq τ]

theorem pooled_of_reaches (hcard : Fintype.card α ≤ size) {mem : Buffer α size}
    (hw : monitor.Reaches Holds (create mem) w) : Pooled w := by
  refine hw.induct Pooled ?_ ?_
  · have hsize : 0 < size := Nat.lt_of_lt_of_le Fintype.card_pos hcard
    exact ⟨⟨_, represents_create hsize mem⟩, List.nodup_nil,
      fun h => absurd h Monitor.not_waiting_init⟩
  · intro w w' hw ih hmoved
    -- Only a fetch can wait: there is room for every message that may be posted.
    have hwaiting : ∀ {t c}, w'.Waiting t c → IsFetch c := by
      intro t c hc
      rcases hmoved.waiting hc with hc | ⟨hmay, hready⟩
      · exact ih.waiting hc
      · cases c with
        | fetch time => trivial
        | post msg time => exact absurd hready (by simpa [monitor] using ih.room hcard hmay)
    cases hmoved with
    | through t c h hready =>
      have hholds : ∀ msg ∈ c.message, msg ∉ w.shared.queue := by
        intro msg hmsg
        cases c with
        | fetch time => cases hmsg
        | post msg' time =>
          obtain rfl := List.mem_singleton.mp hmsg
          rcases h with ⟨-, hmay⟩ | h
          · exact hmay
          · exact (ih.waiting (.inr ⟨_, h⟩)).elim
      obtain ⟨hring, hnodup⟩ := ih.through hready hholds
      exact ⟨hring, hnodup, hwaiting⟩
    | sleep t c h hready => exact ⟨ih.ring, ih.nodup, hwaiting⟩
    | giveUp t c h => exact ⟨ih.ring, ih.nodup, hwaiting⟩
    | wake t c h => exact ⟨ih.ring, ih.nodup, hwaiting⟩
    | timeout t c h htimed => exact ⟨ih.ring, ih.nodup, hwaiting⟩
    | unheard t h hnobody => exact ⟨ih.ring, ih.nodup, hwaiting⟩
    | signal t u c h hu => exact ⟨ih.ring, ih.nodup, hwaiting⟩
    | stay => exact ih

omit [Fintype α] in
/-- Messages are tokens. -/
theorem counted :
    (monitor : Monitor (OsMbox α size) (MboxCall α) (MboxReturn α)).Counted IsFetch count where
  ready_iff {mbox c} hc := by
    cases c with
    | fetch time => simp [monitor, Nat.pos_iff_ne_zero]
    | post msg time => exact hc.elim
  take {mbox c} hc hready := by
    cases c with
    | fetch time =>
      have hcount : mbox.count ≠ 0 := of_decide_eq_true hready
      simp only [monitor, call, fetch, if_neg hcount, Bool.false_eq_true, if_false,
        Option.map_some, if_true]
      omega
    | post msg time => exact hc.elim
  bring {mbox c} hc hready := by
    cases c with
    | fetch time => exact absurd trivial hc
    | post msg time =>
      have hcount : mbox.count ≠ size := of_decide_eq_true hready
      simp only [monitor, call, post, if_neg hcount, Bool.false_eq_true, if_false,
        Option.map_some, if_true]
      exact le_refl _

/-- Only a fetch fails. -/
theorem fetch_of_failed (hcard : Fintype.card α ≤ size) {mem : Buffer α size}
    (hw : monitor.Reaches Holds (create mem) w) {t : τ} {c : MboxCall α} {ret : MboxReturn α}
    (h : (t, c, ret) ∈ w.history) (hfailed : ret.failed = true) :
    ∃ time, c = .fetch time ∧ time ≠ osWaitForever := by
  refine hw.induct (fun w => ∀ t c ret, (t, c, ret) ∈ w.history → ret.failed = true →
    ∃ time, c = .fetch time ∧ time ≠ osWaitForever) ?_ ?_ t c ret h hfailed
  · intro t c ret h
    cases h
  · intro w w' hw ih hmoved u d ret hu hfailed
    cases hmoved with
    | through t c h hready =>
      rcases List.mem_append.mp hu with hu | hu
      · exact ih u d ret hu hfailed
      · obtain ⟨-, rfl, rfl⟩ := by simpa using hu
        rw [not_failed_of_ready hready] at hfailed
        cases hfailed
    | giveUp t c h =>
      rcases List.mem_append.mp hu with hu | hu
      · exact ih u d ret hu hfailed
      · obtain ⟨-, rfl, rfl⟩ := by simpa using hu
        have htimed := Monitor.timed_of_error hw h
        have hfetch := (pooled_of_reaches hcard hw).waiting (.inr ⟨_, h⟩)
        cases d with
        | fetch time => exact ⟨time, rfl, of_decide_eq_true htimed⟩
        | post msg time => exact hfetch.elim
    | sleep t c h hready => exact ih u d ret hu hfailed
    | wake t c h => exact ih u d ret hu hfailed
    | timeout t c h htimed => exact ih u d ret hu hfailed
    | unheard t h hnobody => exact ih u d ret hu hfailed
    | signal t v c h hv => exact ih u d ret hu hfailed
    | stay => exact ih u d ret hu hfailed

/-- **No message is lost or forgotten** when threads hand round a pool of messages that fit into the
mailbox. No post fails, and what is fetched is what was posted, in order. The threads that are on
their way come to rest after at most five moves each; when they have, and a thread still waits, then
it fetches, and everything that was posted has been fetched. -/
theorem mailbox_hands_on_every_message [Fintype τ] (hcard : Fintype.card α ≤ size)
    {mem : Buffer α size} (hw : monitor.Reaches Holds (create mem) w) :
    (∀ t c ret, (t, c, ret) ∈ w.history → ret.failed = true →
      ∃ time, c = .fetch time ∧ time ≠ osWaitForever) ∧
    fetched w.history ++ w.shared.queue = posted w.history ∧
    (∀ ms, Runs.Admissible monitor.step Monitor.Finishing w ms → ms.length ≤ 5 * Fintype.card τ) ∧
    (w.AtRest → ∀ t c, w.phase t = .asleep c →
      (∃ time, c = .fetch time) ∧ fetched w.history = posted w.history) := by
  have hpooled := pooled_of_reaches hcard hw
  have hsize : 0 < size := Nat.lt_of_lt_of_le Fintype.card_pos hcard
  have horder : fetched w.history ++ w.shared.queue = posted w.history :=
    (inv_of_legal hw.legal ⟨⟨_, represents_create hsize mem⟩, rfl⟩).inOrder
  refine ⟨fun t c ret => fetch_of_failed hcard hw, horder,
    fun ms hms => Monitor.length_le_of_finishing hms, ?_⟩
  intro hrest t c hasleep
  have hfetch := hpooled.waiting (.inl hasleep)
  have hnone : monitor.ready w.shared c = false := by
    refine Monitor.no_ready_sleeper counted (fun {w t c} hw hmay => ?_) hw hrest.quiet hasleep
    cases c with
    | fetch time => exact .inl trivial
    | post msg time => exact .inr (decide_eq_true ((pooled_of_reaches hcard hw).room hcard hmay))
  cases c with
  | post msg time => exact hfetch.elim
  | fetch time =>
    have hcount : w.shared.count = 0 := by simpa [monitor] using hnone
    have hempty : w.shared.queue = [] := by rw [queue, hcount, List.range_zero, List.map_nil]
    rw [hempty, List.append_nil] at horder
    exact ⟨⟨time, rfl⟩, horder⟩

/-- Two threads wait for the two messages of a pool; the second one is posted while the first one is
still on its way. -/
theorem mailbox_hands_on_every_message_two :
    let moves : List (Monitor.Move (MboxCall (Fin 2)) (Fin 3)) :=
      [.call 0 (.fetch osWaitForever), .call 1 (.fetch 10), .call 2 (.post 1 0),
        .signal 2 (some 1), .call 2 (.post 0 0), .signal 2 (some 0), .resume 0, .signal 0 none,
        .resume 1, .signal 1 none, .call 0 (.fetch osWaitForever)]
    let w := Runs.run monitor.step (.init (create (.fill 0 : Buffer (Fin 2) 2))) moves
    w.phase 0 = .asleep (.fetch osWaitForever) ∧ fetched w.history = posted w.history := by
  intro moves w
  have hreach : monitor.Reaches Holds (create (.fill 0)) w := Runs.reaches_run (by decide)
  have hquiet : w.Quiet := by
    unfold Monitor.World.Quiet
    decide
  have hall := (mailbox_hands_on_every_message (by decide) hreach).2.2.2 hquiet.atRest
  have hasleep : w.phase 0 = .asleep (.fetch osWaitForever) := by decide
  exact ⟨hasleep, (hall 0 _ hasleep).2⟩

end Pool

end OsMbox

end IolHat

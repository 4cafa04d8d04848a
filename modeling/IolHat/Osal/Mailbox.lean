import IolHat.Lib.Ring
import IolHat.Lib.Run

/-!
# The mailbox

The mailbox of the operating system layer (`osal.c`) is a ring of pointers that threads fetch and
post under a mutex. A call that finds the ring empty or full gives the mutex back while it waits, so
what it does in the end happens in one piece: it gives up because its wait has timed out, or it
moves one message.

* `OsMbox` is the record of the source, and `OsMbox.call` the end of a call.
* `Fifo.call` is what a mailbox is for: a bounded queue.
* `mailbox_refines_fifo` says of every run that the calls return what they would on the queue, that
  nothing is lost or doubled, and where the two indices are.
-/

namespace IolHat

open Octets Rings

/-- `OS_WAIT_FOREVER`. -/
abbrev osWaitForever : UInt32 := 0xFFFFFFFF

/-- `os_mbox_t`, with `size` cells behind it. -/
structure OsMbox (α : Type) (size : ℕ) where
  r : ℕ
  w : ℕ
  count : ℕ
  msg : Buffer α size

/-- A call of `os_mbox_fetch` or `os_mbox_post`. -/
inductive MboxCall (α : Type)
  | fetch (time : UInt32)
  | post (msg : α) (time : UInt32)

/-- How long a call may wait. -/
def MboxCall.time {α : Type} : MboxCall α → UInt32
  | .fetch time => time
  | .post _ time => time

/-- What a call posts. -/
def MboxCall.message {α : Type} : MboxCall α → List α
  | .fetch _ => []
  | .post msg _ => [msg]

/-- What a call returns, and the message it has fetched. -/
structure MboxReturn (α : Type) where
  failed : Bool
  msg : Option α := none
  deriving DecidableEq

section Mailbox

variable {α : Type} [Inhabited α] {size : ℕ}

namespace OsMbox

/-- `os_mbox_create`; the cells hold what the memory holds. -/
def create (mem : Buffer α size) : OsMbox α size where
  r := 0
  w := 0
  count := 0
  msg := mem

/-- The end of `os_mbox_fetch` without a timeout; `none` while there is no message. -/
def fetch (mbox : OsMbox α size) : Option (α × OsMbox α size) :=
  if mbox.count = 0 then none
  else some (mbox.msg.get mbox.r,
    { mbox with r := advance size mbox.r, count := mbox.count - 1 })

/-- The end of `os_mbox_post` without a timeout; `none` while there is no room. -/
def post (mbox : OsMbox α size) (msg : α) : Option (OsMbox α size) :=
  if mbox.count = size then none
  else some { mbox with
    msg := mbox.msg.set mbox.w msg, w := advance size mbox.w, count := mbox.count + 1 }

/-- The end of a call, with the `error` of its last wait; `none` while it has to wait. -/
def call (mbox : OsMbox α size) (c : MboxCall α) (error : Bool) :
    Option (MboxReturn α × OsMbox α size) :=
  if error then
    -- only a call with a timeout gives up
    if c.time = osWaitForever then none else some (⟨true, none⟩, mbox)
  else
    match c with
    | .fetch _ => mbox.fetch.map fun (msg, mbox) => (⟨false, some msg⟩, mbox)
    | .post msg _ => (mbox.post msg).map fun mbox => (⟨false, none⟩, mbox)

/-- The messages in a mailbox, oldest first. -/
def queue (mbox : OsMbox α size) : List α :=
  (List.range mbox.count).map fun k => mbox.msg.get ((mbox.r + k) % size)

/-- Where the indices are. -/
structure Indexed (mbox : OsMbox α size) : Prop where
  r_lt : mbox.r < size
  w_lt : mbox.w < size
  count_le : mbox.count ≤ size
  w_eq : mbox.w = (mbox.r + mbox.count) % size

/-- The mailbox is a ring. -/
structure Represents (mbox : OsMbox α size) (q : Ring α size) : Prop where
  r : mbox.r = q.r
  w : mbox.w = q.w
  count : mbox.count = q.count
  msg : mbox.msg = q.msg

variable {mbox mbox' : OsMbox α size} {q : Ring α size}

theorem Represents.queue_eq (h : mbox.Represents q) : mbox.queue = q.toList := by
  rw [queue, h.count, h.r, h.msg]
  rfl

omit [Inhabited α] in
theorem Represents.indexed (h : mbox.Represents q) : mbox.Indexed where
  r_lt := h.r ▸ q.r_lt
  w_lt := by
    rw [h.w, q.w_eq]
    exact Nat.mod_lt _ (Nat.zero_lt_of_lt q.r_lt)
  count_le := h.count ▸ q.count_le
  w_eq := by
    rw [h.w, h.r, h.count]
    exact q.w_eq

theorem represents_create (hsize : 0 < size) (mem : Buffer α size) :
    (create mem).Represents { (Ring.empty hsize : Ring α size) with msg := mem } :=
  ⟨rfl, rfl, rfl, rfl⟩

/-- A message is fetched from both or from neither. -/
theorem Represents.fetch (h : mbox.Represents q) :
    (mbox.fetch = none ∧ q.fetch = none) ∨ ∃ a mbox' q', mbox.fetch = some (a, mbox') ∧
      q.fetch = some (a, q') ∧ mbox'.Represents q' := by
  by_cases hempty : q.count = 0
  · exact .inl ⟨if_pos (h.count.trans hempty), dif_pos hempty⟩
  · obtain ⟨q', hq'⟩ : ∃ q', q.fetch = some (q.msg.get q.r, q') ∧ q'.msg = q.msg ∧
        q'.r = advance size q.r ∧ q'.w = q.w ∧ q'.count = q.count - 1 :=
      ⟨_, dif_neg hempty, rfl, rfl, rfl, rfl⟩
    refine .inr ⟨_, { mbox with r := advance size mbox.r, count := mbox.count - 1 }, q', ?_, hq'.1,
      ?_⟩
    · rw [OsMbox.fetch, if_neg (h.count.trans_ne hempty), h.msg, h.r]
    · obtain ⟨-, hmsg, hr, hw, hcount⟩ := hq'
      exact ⟨by rw [hr, h.r], h.w.trans hw.symm, by rw [hcount, h.count], h.msg.trans hmsg.symm⟩

omit [Inhabited α] in
/-- A message is posted to both or to neither. -/
theorem Represents.post (h : mbox.Represents q) (a : α) :
    (mbox.post a = none ∧ q.post a = none) ∨ ∃ mbox' q', mbox.post a = some mbox' ∧
      q.post a = some q' ∧ mbox'.Represents q' := by
  by_cases hfull : q.count = size
  · exact .inl ⟨if_pos (h.count.trans hfull), dif_pos hfull⟩
  · refine .inr ⟨_, _, if_neg (h.count.trans_ne hfull), dif_neg hfull, ?_⟩
    refine ⟨h.r, congrArg (advance size) h.w, congrArg (· + 1) h.count, ?_⟩
    show mbox.msg.set mbox.w a = q.msg.set q.w a
    rw [h.msg, h.w]

end OsMbox

namespace Fifo

/-- Take the oldest message. -/
def fetch : List α → Option (α × List α)
  | [] => none
  | msg :: q => some (msg, q)

/-- Append a message to a queue of at most `size`. -/
def post (size : ℕ) (q : List α) (msg : α) : Option (List α) :=
  if q.length = size then none else some (q ++ [msg])

/-- The end of a call. -/
def call (size : ℕ) (q : List α) (c : MboxCall α) (error : Bool) :
    Option (MboxReturn α × List α) :=
  if error then if c.time = osWaitForever then none else some (⟨true, none⟩, q)
  else
    match c with
    | .fetch _ => (fetch q).map fun (msg, q) => (⟨false, some msg⟩, q)
    | .post msg _ => (post size q msg).map fun q => (⟨false, none⟩, q)

omit [Inhabited α] in
/-- What a call moves: the queue grows at its end, and only if the call has not failed, and it
shrinks at its front. -/
theorem queue_call {q q' : List α} {c : MboxCall α} {error : Bool} {ret : MboxReturn α}
    (h : call size q c error = some (ret, q')) :
    q ++ (if ret.failed then [] else c.message) = ret.msg.toList ++ q' := by
  unfold call at h
  split_ifs at h with herror hforever
  · obtain ⟨rfl, rfl⟩ := Prod.mk.injEq .. ▸ Option.some.inj h
    exact List.append_nil _
  · cases c with
    | fetch time =>
      cases q with
      | nil => exact absurd h.symm (Option.some_ne_none _)
      | cons msg q =>
        obtain ⟨rfl, rfl⟩ := Prod.mk.injEq .. ▸ Option.some.inj h
        exact List.append_nil _
    | post msg time =>
      obtain ⟨l, hl, heq⟩ := Option.map_eq_some_iff.mp h
      obtain ⟨rfl, rfl⟩ := Prod.mk.injEq .. ▸ heq
      unfold post at hl
      split_ifs at hl with hfull
      exact Option.some.inj hl

end Fifo

namespace OsMbox

variable {mbox : OsMbox α size} {q : Ring α size}

/-- **One call** ends on the mailbox as it does on the queue. -/
theorem Represents.call_eq (h : mbox.Represents q) (c : MboxCall α) (error : Bool) :
    (mbox.call c error).map (Prod.map id queue) = Fifo.call size mbox.queue c error := by
  unfold OsMbox.call Fifo.call
  split_ifs with herror hforever
  · rfl
  · rfl
  · cases c with
    | fetch time =>
      obtain ⟨hm, hq⟩ | ⟨a, mbox', q', hm, hq, hrep⟩ := h.fetch
      · rw [hm, h.queue_eq, Ring.fetch_eq_none_iff.mp hq]
        rfl
      · rw [hm, h.queue_eq, Ring.toList_fetch hq]
        exact congrArg (fun l => some (_, l)) hrep.queue_eq
    | post a time =>
      dsimp only
      obtain ⟨hm, hq⟩ | ⟨mbox', q', hm, hq, hrep⟩ := h.post a
      · rw [hm, h.queue_eq, Fifo.post, if_pos (Ring.post_eq_none_iff.mp hq)]
        rfl
      · have hroom : q.toList.length ≠ size := fun hfull =>
          absurd (hq.symm.trans (Ring.post_eq_none_iff.mpr hfull)) (Option.some_ne_none _)
        rw [hm, h.queue_eq, Fifo.post, if_neg hroom, ← Ring.toList_post hq]
        exact congrArg (fun l => some (_, l)) hrep.queue_eq

/-- A call leaves a mailbox. -/
theorem Represents.call (h : mbox.Represents q) {c : MboxCall α} {error : Bool}
    {ret : MboxReturn α} {mbox' : OsMbox α size} (hcall : mbox.call c error = some (ret, mbox')) :
    ∃ q', mbox'.Represents q' := by
  unfold OsMbox.call at hcall
  split_ifs at hcall with herror hforever
  · obtain ⟨rfl, rfl⟩ := Prod.mk.injEq .. ▸ Option.some.inj hcall
    exact ⟨q, h⟩
  · cases c with
    | fetch time =>
      obtain ⟨hm, -⟩ | ⟨a, m, q', hm, -, hrep⟩ := h.fetch
      · rw [hm] at hcall
        exact absurd hcall.symm (Option.some_ne_none _)
      · rw [hm] at hcall
        obtain ⟨rfl, rfl⟩ := Prod.mk.injEq .. ▸ Option.some.inj hcall
        exact ⟨q', hrep⟩
    | post a time =>
      dsimp only at hcall
      obtain ⟨hm, -⟩ | ⟨m, q', hm, -, hrep⟩ := h.post a
      · rw [hm] at hcall
        exact absurd hcall.symm (Option.some_ne_none _)
      · rw [hm] at hcall
        obtain ⟨rfl, rfl⟩ := Prod.mk.injEq .. ▸ Option.some.inj hcall
        exact ⟨q', hrep⟩

/-- A call that fails changes nothing. -/
theorem call_failed {c : MboxCall α} {error : Bool} {ret : MboxReturn α} {mbox' : OsMbox α size}
    (h : mbox.call c error = some (ret, mbox')) (hfailed : ret.failed = true) : mbox' = mbox := by
  unfold call at h
  split_ifs at h with herror hforever
  · exact (congrArg Prod.snd (Option.some.inj h)).symm
  · cases c with
    | fetch time =>
      obtain ⟨p, -, hp⟩ := Option.map_eq_some_iff.mp h
      obtain ⟨rfl, -⟩ := Prod.mk.injEq .. ▸ hp
      exact absurd hfailed Bool.false_ne_true
    | post a time =>
      obtain ⟨p, -, hp⟩ := Option.map_eq_some_iff.mp h
      obtain ⟨rfl, -⟩ := Prod.mk.injEq .. ▸ hp
      exact absurd hfailed Bool.false_ne_true

end OsMbox

/-! ### Runs -/

/-- A mailbox with the messages of the calls that have not failed, in order. -/
structure MboxRun (α : Type) (size : ℕ) where
  mbox : OsMbox α size
  posted : List α := []
  fetched : List α := []

namespace MboxRun

/-- A call ends, if it can. -/
def step (s : MboxRun α size) (i : MboxCall α × Bool) : MboxRun α size :=
  match s.mbox.call i.1 i.2 with
  | none => s
  | some (ret, mbox) =>
    { mbox := mbox
      posted := s.posted ++ if ret.failed then [] else i.1.message
      fetched := s.fetched ++ ret.msg.toList }

/-- What holds after every call. -/
structure Inv (s : MboxRun α size) : Prop where
  ring : ∃ q, s.mbox.Represents q
  inOrder : s.fetched ++ s.mbox.queue = s.posted

theorem Inv.step {s : MboxRun α size} (h : s.Inv) (i : MboxCall α × Bool) : (s.step i).Inv := by
  obtain ⟨c, error⟩ := i
  obtain ⟨q, hq⟩ := h.ring
  unfold MboxRun.step
  split
  · exact h
  next ret mbox hcall =>
    refine ⟨hq.call hcall, ?_⟩
    have hmoved : s.mbox.queue ++ (if ret.failed then [] else c.message) =
        ret.msg.toList ++ mbox.queue := by
      have hqueue : Fifo.call size s.mbox.queue c error = some (ret, mbox.queue) := by
        rw [← hq.call_eq, hcall]
        rfl
      exact Fifo.queue_call hqueue
    calc s.fetched ++ ret.msg.toList ++ mbox.queue
        = s.fetched ++ (s.mbox.queue ++ if ret.failed then [] else c.message) := by
          rw [hmoved, List.append_assoc]
      _ = s.posted ++ (if ret.failed then [] else c.message) := by
          rw [← List.append_assoc, h.inOrder]

/-- **The mailbox is a bounded queue.** In every run from a new mailbox the next call returns what
it would on the queue; the messages come out in the order in which they have gone in, without loss
or duplication; a call that fails changes nothing; and the indices stay inside the array. -/
theorem mailbox_refines_fifo (hsize : 0 < size) (mem : Buffer α size) {s : MboxRun α size}
    (h : Runs.Reaches step (fun _ _ => True) { mbox := .create mem } s) :
    (∀ c error, (s.mbox.call c error).map (Prod.map id OsMbox.queue) =
        Fifo.call size s.mbox.queue c error) ∧
      s.fetched ++ s.mbox.queue = s.posted ∧
      (∀ c error ret mbox, s.mbox.call c error = some (ret, mbox) → ret.failed = true →
        mbox = s.mbox) ∧
      s.mbox.Indexed := by
  have hinit : ({ mbox := .create mem } : MboxRun α size).Inv :=
    ⟨⟨_, OsMbox.represents_create hsize mem⟩, rfl⟩
  obtain ⟨⟨q, hq⟩, horder⟩ := h.invariant Inv hinit fun _ i hs _ => hs.step i
  exact ⟨hq.call_eq, horder, fun _ _ _ _ => OsMbox.call_failed, hq.indexed⟩

end MboxRun

end Mailbox

namespace MboxRun

/-- Two messages in, one out, and the ring wraps around. -/
def wrappingRun : List (MboxCall ℕ × Bool) :=
  [(.post 7 0, false), (.post 8 0, false), (.post 9 100, true), (.fetch osWaitForever, false),
    (.post 9 100, false)]

theorem mailbox_refines_fifo_two :
    (Runs.run step { mbox := .create (.fill 0 : Buffer ℕ 2) } wrappingRun).mbox.queue = [8, 9] ∧
      (Runs.run step { mbox := .create (.fill 0 : Buffer ℕ 2) } wrappingRun).fetched ++
        (Runs.run step { mbox := .create (.fill 0 : Buffer ℕ 2) } wrappingRun).mbox.queue =
          (Runs.run step { mbox := .create (.fill 0 : Buffer ℕ 2) } wrappingRun).posted :=
  ⟨by decide, (mailbox_refines_fifo Nat.two_pos _ (Runs.reaches_run_true _ _)).2.1⟩

end MboxRun

end IolHat

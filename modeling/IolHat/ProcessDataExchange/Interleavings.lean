import IolHat.ProcessDataExchange.Exchange
import IolHat.ProcessDataExchange.Sequential

/-!
# The application sees the process image

In every interleaving of the threads of a port, the port is what its image shows, the answers to the
requests are shown by it, and the requests return (`PdExchange.exchange_shows_image`). A request
needs ten steps of its own at most, whatever the others do (`RequestPc.left`).
-/

namespace IolHat

/-- The steps of its own that a request needs at most. -/
def RequestPc.left : RequestPc → ℕ
  | .checkStatus => 10
  | .checkState _ => 9
  | .readStatus => 8
  | .setOutput _ => 7
  | .copyOutput _ => 6
  | .compareEnable _ | .readQuality => 5
  | .control _ | .readEnable _ => 4
  | .writeEnable _ | .getInputOutput _ _ | .getInput _ | .readDi | .writeDo _ => 3
  | .answer _ _ => 2
  | .return_ _ => 1

theorem RequestPc.left_pos (pc : RequestPc) : 0 < pc.left := by
  cases pc <;> simp [left]

theorem RequestPc.left_le (pc : RequestPc) : pc.left ≤ 10 := by
  cases pc <;> simp [left]

theorem ExchangeRequest.left_branch (r : ExchangeRequest) (status : PortStatusInfo) :
    (r.branch status).left ≤ 7 := by
  cases r <;> rw [branch] <;> split_ifs <;> simp [RequestPc.left]

theorem ExchangeRequest.left_copy (r : ExchangeRequest) (q : Octet) : (r.copy q).left ≤ 4 := by
  cases r <;> simp [copy, RequestPc.left]

namespace PdExchange

variable {s s' : PdExchange} {thread : ℕ} {r : ExchangeRequest} {pc : RequestPc}

/-- A step of a request brings it nearer to its return, or it returns. -/
def Nearer (s : PdExchange) (thread : ℕ) (r : ExchangeRequest) (n : ℕ) (s' : PdExchange) : Prop :=
  (∃ error, s'.log = s.log ++ [.returned thread r error]) ∨
    (∃ new, s'.log = s.log ++ new) ∧
      ∃ pc, s'.pending thread = some (r, pc) ∧ pc.left < n

theorem nearer_perform (s : PdExchange) (thread : ℕ) (r : ExchangeRequest) (pc : RequestPc)
    (di : Bool) : s.Nearer thread r pc.left (s.perform thread r pc di) := by
  have hgoto {s₁ : PdExchange} {pc' : RequestPc} (hlog : s₁.log = s.log)
      (hleft : pc'.left < pc.left) : s.Nearer thread r pc.left (s₁.goto thread r pc') :=
    .inr ⟨⟨[], hlog.trans (List.append_nil _).symm⟩, pc', Function.update_self .., hleft⟩
  have hrecord {p : Pde} {e : ExchangeEntry} {pc' : RequestPc} (hleft : pc'.left < pc.left) :
      s.Nearer thread r pc.left (((s.setPde p).record e).goto thread r pc') :=
    .inr ⟨⟨[e], rfl⟩, pc', Function.update_self .., hleft⟩
  cases pc with
  | checkStatus => exact hgoto rfl (Nat.lt_succ_self 9)
  | checkState status =>
    refine hgoto rfl ?_
    split_ifs <;> simp [RequestPc.left]
  | readStatus => exact hgoto rfl (Nat.lt_succ_of_le (r.left_branch _))
  | readDi => exact hgoto rfl (Nat.lt_succ_self 2)
  | readQuality => exact hgoto rfl (Nat.lt_succ_of_le (r.left_copy _))
  | getInput q => exact hgoto rfl (Nat.lt_succ_self 2)
  | readEnable q => exact hgoto rfl (Nat.lt_succ_self 3)
  | getInputOutput q oe => exact hgoto rfl (Nat.lt_succ_self 2)
  | writeDo argBlock => exact hrecord (Nat.lt_succ_self 2)
  | setOutput argBlock =>
    refine hgoto rfl ?_
    split_ifs <;> simp [RequestPc.left]
  | copyOutput argBlock => exact hrecord (Nat.lt_succ_self 5)
  | compareEnable argBlock =>
    refine hgoto rfl ?_
    split_ifs <;> simp [RequestPc.left]
  | control argBlock =>
    refine hgoto rfl ?_
    split_ifs <;> simp [RequestPc.left]
  | writeEnable argBlock => exact hrecord (Nat.lt_succ_self 2)
  | answer a error => exact hrecord (p := s.pde) (Nat.lt_succ_self 1)
  | return_ error => exact .inl ⟨error, rfl⟩

/-- What the data link layer calls adds to the log and leaves the requests alone. -/
theorem dlCall_frame (s : PdExchange) (c : DlCall) :
    (∃ new, (s.dlCall c).log = s.log ++ new) ∧ (s.dlCall c).pending = s.pending := by
  have hsame : ∃ new, s.log = s.log ++ new := ⟨[], (List.append_nil _).symm⟩
  cases c with
  | pdInputTransportInd p data =>
    rw [dlCall, pdInputTransportInd]
    split_ifs
    · exact ⟨hsame, rfl⟩
    · exact ⟨⟨[.indicated data], rfl⟩, rfl⟩
  | _ => exact ⟨hsame, rfl⟩

theorem dlCalls_frame (s : PdExchange) (cs : List DlCall) :
    (∃ new, (cs.foldl dlCall s).log = s.log ++ new) ∧ (cs.foldl dlCall s).pending = s.pending := by
  induction cs generalizing s with
  | nil => exact ⟨⟨[], (List.append_nil _).symm⟩, rfl⟩
  | cons c cs ih =>
    obtain ⟨⟨new, hnew⟩, hpending⟩ := s.dlCall_frame c
    obtain ⟨⟨new', hnew'⟩, hpending'⟩ := ih (s.dlCall c)
    refine ⟨⟨new ++ new', ?_⟩, hpending'.trans hpending⟩
    rw [List.foldl_cons, hnew', hnew, List.append_assoc]

/-- The log only grows. -/
theorem step_log (s : PdExchange) (m : Move) : ∃ new, (s.step m).log = s.log ++ new := by
  have hsame : ∃ new, s.log = s.log ++ new := ⟨[], (List.append_nil _).symm⟩
  rw [step.eq_def]
  split_ifs
  · exact hsame
  cases m with
  | link i =>
    obtain ⟨⟨new, hnew⟩, -⟩ := dlCalls_frame
      { s with pde := s.pde.setDl (s.pde.dl.react i), log := s.log ++ linkEntries i }
      (s.pde.dl.callsOf i)
    exact ⟨linkEntries i ++ new, by rw [← List.append_assoc]; exact hnew⟩
  | controlJob =>
    dsimp only
    rw [controlJob]
    split
    · exact hsame
    · split
      · exact ⟨_, rfl⟩
      · exact hsame
  | call thread r =>
    dsimp only
    rw [call]
    split
    · exact hsame
    · exact ⟨_, rfl⟩
  | go thread di =>
    dsimp only
    rw [go]
    split
    · exact hsame
    · rename_i r pc _
      rcases s.nearer_perform thread r pc di with ⟨error, hlog⟩ | ⟨hlog, -⟩
      · exact ⟨_, hlog⟩
      · exact hlog
  | _ => exact ⟨_, rfl⟩

/-- A thread does not move the requests of the others. -/
theorem perform_pending_of_ne {t : ℕ} (ht : t ≠ thread) (r : ExchangeRequest) (pc : RequestPc)
    (di : Bool) : (s.perform thread r pc di).pending t = s.pending t := by
  cases pc <;> exact Function.update_of_ne ht ..

/-- Only its own steps move a request. -/
theorem step_pending {m : Move} (hm : ¬ m.Goes thread) {x : ExchangeRequest × RequestPc}
    (hpending : s.pending thread = some x) : (s.step m).pending thread = some x := by
  rw [step.eq_def]
  split_ifs
  -- An assertion has ended the program, no thread moves.
  · exact hpending
  cases m with
  | link i => exact (congrFun (dlCalls_frame _ _).2 thread).trans hpending
  | controlJob =>
    dsimp only
    rw [controlJob]
    split
    · exact hpending
    · split <;> exact hpending
  | call t r =>
    dsimp only
    rw [call]
    split
    · exact hpending
    · rename_i hnone
      have ht : thread ≠ t := by
        rintro rfl
        rw [hpending] at hnone
        cases hnone
      exact (Function.update_of_ne ht ..).trans hpending
  | go t di =>
    have ht : thread ≠ t := fun h => hm h.symm
    dsimp only
    rw [go]
    split
    · exact hpending
    · exact (perform_pending_of_ne ht ..).trans hpending
  | _ => exact hpending

/-- Since the log `before` the request of a thread has returned, or at most `n` of its steps are
left; or the program has ended. -/
def Returning (thread : ℕ) (r : ExchangeRequest) (before : List ExchangeEntry) (n : ℕ)
    (s : PdExchange) : Prop :=
  s.asserted = true ∨ ∃ new, s.log = before ++ new ∧
    ((∃ error, .returned thread r error ∈ new) ∨
      ∃ pc, s.pending thread = some (r, pc) ∧ pc.left ≤ n)

theorem Returning.mono {before : List ExchangeEntry} {n m : ℕ}
    (h : Returning thread r before n s) (hnm : n ≤ m) : Returning thread r before m s :=
  h.imp id fun ⟨new, hnew, h⟩ =>
    ⟨new, hnew, h.imp id fun ⟨pc, hpc, hleft⟩ => ⟨pc, hpc, hleft.trans hnm⟩⟩

/-- The other threads. -/
theorem Returning.other {before : List ExchangeEntry} {n : ℕ} {m : Move}
    (h : Returning thread r before n s) (hm : ¬ m.Goes thread) :
    Returning thread r before n (s.step m) := by
  rcases h with hasserted | ⟨new, hlog, h⟩
  · refine .inl ?_
    rwa [step.eq_def, if_pos hasserted]
  · obtain ⟨new', hlog'⟩ := s.step_log m
    refine .inr ⟨new ++ new', by rw [hlog', hlog, List.append_assoc], ?_⟩
    rcases h with ⟨error, hreturned⟩ | ⟨pc, hpending, hleft⟩
    · exact .inl ⟨error, List.mem_append_left _ hreturned⟩
    · exact .inr ⟨pc, step_pending hm hpending, hleft⟩

/-- Its own step. -/
theorem Returning.own {before : List ExchangeEntry} {n : ℕ} {m : Move}
    (h : Returning thread r before (n + 1) s) (hm : m.Goes thread) :
    Returning thread r before n (s.step m) := by
  cases m with
  | go t di =>
    obtain rfl : t = thread := hm
    rcases h with hasserted | ⟨new, hlog, h⟩
    · refine .inl ?_
      rwa [step.eq_def, if_pos hasserted]
    cases hasserted : s.asserted with
    | true =>
      refine .inl ?_
      rwa [step.eq_def, if_pos hasserted]
    | false =>
    rcases h with ⟨error, hreturned⟩ | ⟨pc, hpending, hleft⟩
    -- It has returned before; this is a step of a later request of the thread.
    · obtain ⟨new', hlog'⟩ := s.step_log (.go t di)
      refine .inr ⟨new ++ new', by rw [hlog', hlog, List.append_assoc], .inl ⟨error, ?_⟩⟩
      exact List.mem_append_left _ hreturned
    · rw [step_go hasserted hpending]
      rcases s.nearer_perform t r pc di with ⟨error, hlog'⟩ | ⟨⟨new', hlog'⟩, pc', hpc', hlt⟩
      · refine .inr ⟨new ++ [.returned t r error], by rw [hlog', hlog, List.append_assoc],
          .inl ⟨error, ?_⟩⟩
        exact List.mem_append_right _ (List.mem_singleton.mpr rfl)
      · refine .inr ⟨new ++ new', by rw [hlog', hlog, List.append_assoc], .inr ⟨pc', hpc', ?_⟩⟩
        exact Nat.le_of_lt_succ (hlt.trans_le hleft)
  | _ => cases hm

/-- **A request returns** after ten steps of its own at most, whatever the others do. -/
def Returns (s : PdExchange) (thread : ℕ) : Prop :=
  ∀ r pc, s.pending thread = some (r, pc) → ∀ ms : List Move, 10 ≤ ms.countP (Move.Goes thread) →
    (Runs.run step s ms).asserted = true ∨
      ∃ new error, (Runs.run step s ms).log = s.log ++ new ∧ .returned thread r error ∈ new

theorem returns (s : PdExchange) (thread : ℕ) : s.Returns thread := by
  intro r pc hpending ms hms
  have hstart : Returning thread r s.log 10 s :=
     .inr ⟨[], (List.append_nil _).symm, .inr ⟨pc, hpending, pc.left_le⟩⟩
  have hend : Returning thread r s.log 0 (Runs.run step s ms) :=
    Runs.finishes (P := Returning thread r s.log)
      (fun n s (m : Move) (hm : ¬ m.Goes thread) h => h.other hm) (fun n s m hm h => h.own hm)
      (fun s m hm h => (h.mono (Nat.le_succ 0)).own hm) hstart hms
  rcases hend with hasserted | ⟨new, hlog, ⟨error, hreturned⟩ | ⟨pc', -, hleft⟩⟩
  · exact .inl hasserted
  · exact .inr ⟨new, error, hlog, hreturned⟩
  · exact absurd pc'.left_pos (Nat.not_lt.mpr hleft)

/-! ### Runs -/

theorem Inv.step (h : s.Inv) {m : Move} (hm : m.Regular) : (s.step m).Inv := by
  rw [PdExchange.step.eq_def]
  split_ifs
  · exact h
  · cases m with
    | link i => exact h.link hm
    | controlJob => exact h.controlJob
    | portStatus status => exact h.portStatus status
    | portQuality quality => exact h.portQuality quality
    | pdStart => exact h.pdStart
    | pdStopEnable => exact h.pdStopEnable
    | pdStopState => exact h.pdStopState
    | call thread r => exact h.call thread r
    | go thread di =>
      dsimp only
      rw [go]
      split
      · exact h
      · rename_i hpending
        exact h.perform hpending di

theorem inv_nil : Inv {} where
  shows := ⟨rfl, rfl, rfl, rfl, rfl, rfl, rfl, rfl⟩
  allowed := Log.justified_nil
  counted _ := rfl
  onItsWay _ _ _ h := by cases h

theorem inv_of_reaches (h : Reaches s) : s.Inv :=
  h.invariant Inv inv_nil fun _ _ hi hm => hi.step hm

/-- **The application sees the process image.** In every run of the threads, whatever their order,
the port is what its image shows. Each answer is the first one to its request and one that the image
has shown since: an arg block that is not the right one is refused, a port without process data is
too, an input is the last one that the device has sent, and an output that is confirmed has been in
the data link layer, octet by octet. A request returns once, with ten steps of its own, and with one
answer; `SMI_PDInOut` on a port with a digital input returns without one. -/
theorem exchange_shows_image (h : Reaches s) :
    s.Shows (ProcessImage.after s.log) ∧ Log.Justified ExchangeEntry.Allowed s.log ∧
      ∀ thread, s.log.countP (ExchangeEntry.isCalled thread) =
          s.log.countP (ExchangeEntry.isReturned thread) + (s.pending thread).isSome.toNat ∧
        s.Returns thread :=
  have hinv := inv_of_reaches h
  ⟨hinv.shows, hinv.allowed, fun thread => ⟨hinv.counted thread, returns s thread⟩⟩

/-- `SMI_PDOut` with the same octet everywhere. -/
private def pdOutOf (a : Octet) (oe : Octet) : ExchangeRequest :=
  .pdOut ArgBlockId.voidBlock 6 { id := ArgBlockId.pdOut, oe := oe, len := 2, data := .fill a }

/-- `SMI_PDInOut`. -/
private def pdInOutOf : ExchangeRequest := .pdInOut ArgBlockId.pdInOut ArgBlockId.voidBlock 2

/-- Between the octets and the output enable of one output there is another output; a thread looks
at the port, and once more when its input has become a digital signal. -/
def contended : List Move :=
  twoOctetsOfOutput.map .link ++ [.portStatus .op, .pdStart, .call 0 (pdOutOf 0xAA 1)] ++
    List.replicate 5 (.go 0 false) ++ .call 1 (pdOutOf 0xBB 0) :: List.replicate 10 (.go 1 false) ++
    List.replicate 5 (.go 0 false) ++ .call 1 pdInOutOf :: List.replicate 8 (.go 1 false) ++
    .portStatus .di :: .call 1 pdInOutOf :: List.replicate 4 (.go 1 false)

/-- Both outputs are confirmed; the octets are those of the one, the output enable that of the
other. -/
theorem exchange_shows_image_contended :
    (Runs.run step {} contended).told = [.smi (.voidblock ArgBlockId.pdOut),
      .smi (.voidblock ArgBlockId.pdOut), .pdInOut ArgBlockId.pdInOut 0 true [0, 2, 0xBB, 0xBB]] ∧
    (Runs.run step {} contended).log.countP (ExchangeEntry.isReturned 1) = 3 ∧
    (Runs.run step {} contended).Shows (ProcessImage.after (Runs.run step {} contended).log) ∧
    Log.Justified ExchangeEntry.Allowed (Runs.run step {} contended).log := by
  have hreaches : Reaches (Runs.run step {} contended) := Runs.reaches_run (by decide +kernel)
  have hshown := exchange_shows_image hreaches
  exact ⟨by decide +kernel, by decide +kernel, hshown.1, hshown.2.1⟩

end PdExchange

end IolHat

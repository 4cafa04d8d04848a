import IolHat.PhysicalLayer.Announcements

/-!
# Received messages are fetched

A thread that has a message to find comes closer to it with each of its steps (`loop_due`).
`received_messages_are_fetched` says what this and the books come to: as long as no reset hits a
thread that has taken an announcement and not tested it, each announced message is fetched, once;
after the first such reset no message of the channel is announced or fetched again.
-/

namespace IolHat

namespace Max14819

namespace Ports

variable {s : Ports} {ch k : ChipChannel}

/-! ### A round of the thread -/

/-- How many steps of the thread it is to the test for a message. -/
def due (t : DlThread) : ℕ :=
  match t.stage with
  | .wait => 4
  | .clr => if t.triggeredEvents (.pl .rxrdy) then 3 else 15
  | .tests rest =>
    if holds (.pl .rxrdy) t then rest.idxOf (.pl .rxrdy) + 1 else rest.length + 5

theorem due_le {t : DlThread} (h : t.Sound) : due t ≤ 15 := by
  unfold due
  unfold DlThread.Sound at h
  split <;> rename_i hstage
  · decide
  · split_ifs <;> decide
  · rename_i rest
    rw [hstage] at h
    have hlength : rest.length ≤ 9 := h.length_le
    have hidx : rest.idxOf (.pl .rxrdy) ≤ rest.length := List.idxOf_le_length
    split_ifs <;> omega

/-- A service tells the thread more, and leaves it where it is. -/
theorem tokens_service (c : ServiceCall) (f : DlFlag) :
    tokens f (s.thread ch) ≤ tokens f ((s.service c).thread ch) := by
  have hset : ((s.thread ch).event f).toNat ≤ (((s.service c).thread ch).event f).toNat := by
    show _ ≤ ((s.thread ch).event f || _).toNat
    cases (s.thread ch).event f <;> simp
  exact Nat.add_le_add_right hset _

theorem tokens_pos {f : DlFlag} {t : DlThread} :
    0 < tokens f t ↔ t.event f = true ∨ holds f t = true := by
  unfold tokens
  cases t.event f <;> cases holds f t <;> simp

/-- A step of the thread fetches a message that waits, or comes closer to it. -/
theorem loop_due (htokens : 0 < tokens (.pl .rxrdy) (s.thread ch)) (chip : Reg → Octet)
    (len inband : Octet) :
    (∃ l, (s.loop ch chip len inband).log ch = l ++ [.fetched] ∧ s.log ch <+: l) ∨
      s.log ch <+: (s.loop ch chip len inband).log ch ∧
        0 < tokens (.pl .rxrdy) ((s.loop ch chip len inband).thread ch) ∧
        due ((s.loop ch chip len inband).thread ch) < due (s.thread ch) := by
  rw [tokens_pos] at htokens
  unfold Ports.loop
  dsimp only
  split <;> rename_i hstage
  · -- the flag is set
    have hevent : (s.thread ch).event (.pl .rxrdy) = true := by
      simpa [holds, hstage] using htokens
    have hsome : ¬ dlMask.all (fun f => (s.thread ch).event f = false) = true := by
      intro hall
      have hfalse := List.all_eq_true.mp hall (.pl .rxrdy) (by decide)
      rw [hevent] at hfalse
      cases hfalse
    rw [if_neg hsome]
    have hmask : DlFlag.pl .rxrdy ∈ dlMask := by decide
    refine .inr ⟨List.prefix_rfl, ?_, ?_⟩
    · simp [tokens_pos, hevent]
    · simp [due, hstage, hevent, hmask]
  · have hevent : (s.thread ch).event (.pl .rxrdy) = true := by
      simpa [holds, hstage] using htokens
    have hmem : DlFlag.pl .rxrdy ∈ dlTests := by decide
    have hidx : dlTests.idxOf (.pl .rxrdy) = 1 := by decide
    have hlength : dlTests.length = 9 := rfl
    refine .inr ⟨List.prefix_rfl, ?_, ?_⟩
    · cases htriggered : (s.thread ch).triggeredEvents (.pl .rxrdy) <;>
        simp [tokens_pos, holds, hevent, htriggered, hmem]
    · cases htriggered : (s.thread ch).triggeredEvents (.pl .rxrdy) <;>
        simp [due, holds, hstage, htriggered, hmem, hidx, hlength]
  · have hevent : (s.thread ch).event (.pl .rxrdy) = true := by
      simpa [holds, hstage] using htokens
    refine .inr ⟨List.prefix_rfl, ?_, ?_⟩
    · simp [goto, tokens_pos, hevent]
    · simp [goto, due, holds, hstage]
  · rename_i f rest
    have hlater : ¬ (f = .pl .rxrdy ∧ (s.thread ch).triggeredEvents f = true) →
        0 < tokens (.pl .rxrdy) ((s.goto ch (.tests rest)).thread ch) ∧
          due ((s.goto ch (.tests rest)).thread ch) < due (s.thread ch) := by
      intro hnot
      have hthread : (s.goto ch (.tests rest)).thread ch =
          { s.thread ch with stage := .tests rest } := Function.update_self _ _ _
      by_cases hf : f = .pl .rxrdy
      · subst hf
        have htriggered : (s.thread ch).triggeredEvents (.pl .rxrdy) = false :=
          Bool.eq_false_iff.mpr fun h => hnot ⟨rfl, h⟩
        have hevent : (s.thread ch).event (.pl .rxrdy) = true := by
          simpa [holds, hstage, htriggered] using htokens
        refine ⟨?_, ?_⟩
        · simp [hthread, tokens_pos, hevent]
        · simp [hthread, due, holds, hstage, htriggered]
      · have hholds : holds (.pl .rxrdy) { s.thread ch with stage := .tests rest } =
            holds (.pl .rxrdy) (s.thread ch) := by
          simp [holds, hstage, Ne.symm hf]
        refine ⟨?_, ?_⟩
        · rw [hthread, tokens_pos, hholds]
          exact htokens
        · rw [hthread, due, due, hstage]
          dsimp only
          rw [hholds, List.idxOf_cons_ne _ hf, List.length_cons]
          split_ifs <;> omega
    split_ifs with htriggered
    · by_cases hf : f = .pl .rxrdy
      · subst hf
        exact .inl ⟨_, Function.update_self _ _ _, by simp [service, goto, List.append_assoc]⟩
      · obtain ⟨htokens, hdue⟩ := hlater fun h => hf h.1
        have hgoto : (s.goto ch (.tests rest)).log ch = s.log ch := rfl
        cases f with
        | pl g =>
          cases g with
          | plEvent =>
            refine .inr ⟨?_, htokens.trans_le (tokens_service _ _), hdue⟩
            simp only [found, service, hgoto, List.append_assoc]
            exact List.prefix_append _ _
          | rxrdy => exact absurd rfl hf
          | wurq =>
            refine .inr ⟨?_, htokens, hdue⟩
            simp only [found, record, Function.update_self, hgoto]
            exact List.prefix_append _ _
          | _ => exact .inr ⟨List.prefix_rfl, htokens, hdue⟩
        | _ => exact .inr ⟨List.prefix_rfl, htokens, hdue⟩
    · exact .inr ⟨List.prefix_rfl, hlater fun h => htriggered h.2⟩

/-- What a thread reads on its way. -/
structure Reading where
  chip : Reg → Octet
  len : Octet
  inband : Octet

/-- The thread of a channel alone. -/
def round (ch : ChipChannel) (s : Ports) (r : Reading) : Ports := s.loop ch r.chip r.len r.inband

theorem log_prefix_loop (chip : Reg → Octet) (len inband : Octet) :
    s.log ch <+: (s.loop ch chip len inband).log ch := by
  unfold Ports.loop
  dsimp only
  split
  · split_ifs <;> exact List.prefix_rfl
  · exact List.prefix_rfl
  · exact List.prefix_rfl
  · rename_i f rest _
    split_ifs
    · unfold found
      split
      · simp only [service, List.append_assoc]
        exact List.prefix_append _ _
      · simp only [service, record, Function.update_self, List.append_assoc]
        exact List.prefix_append _ _
      · simp only [record, Function.update_self]
        exact List.prefix_append _ _
      · exact List.prefix_rfl
    · exact List.prefix_rfl

theorem log_prefix_rounds (s : Ports) (ch : ChipChannel) (readings : List Reading) :
    s.log ch <+: (Runs.run (round ch) s readings).log ch := by
  induction readings generalizing s with
  | nil => exact List.prefix_rfl
  | cons r readings ih => exact (log_prefix_loop r.chip r.len r.inband).trans (ih _)

/-- A message that waits is fetched if the thread goes on long enough. -/
theorem fetches (htokens : 0 < tokens (.pl .rxrdy) (s.thread ch)) (readings : List Reading)
    (hdue : due (s.thread ch) ≤ readings.length) :
    ∃ m, (Runs.run (round ch) s readings).log ch = s.log ch ++ m ∧ .fetched ∈ m := by
  induction readings generalizing s with
  | nil =>
    have hpos : 0 < due (s.thread ch) := by
      unfold due
      split
      · decide
      · split_ifs <;> decide
      · split_ifs <;> omega
    exact absurd (Nat.le_zero.mp hdue) hpos.ne'
  | cons r readings ih =>
    rw [Runs.run_cons]
    rcases loop_due htokens r.chip r.len r.inband with ⟨l, hl, l', rfl⟩ | ⟨⟨l, hl⟩, htokens, hless⟩
    · obtain ⟨l'', hrun⟩ := log_prefix_rounds (round ch s r) ch readings
      refine ⟨l' ++ .fetched :: l'', ?_, by simp⟩
      rw [← hrun, round, hl]
      simp
    · rw [List.length_cons] at hdue
      obtain ⟨m, hrun, hmem⟩ := ih (s := round ch s r) htokens (by
        show due ((s.loop ch r.chip r.len r.inband).thread ch) ≤ _
        omega)
      exact ⟨l ++ m, by rw [hrun, round, ← hl, List.append_assoc], List.mem_append_right _ hmem⟩

/-- **Each message is announced once and fetched.** Whatever the threads do, in whatever order:

* each announcement is followed by a fetch before the next one, and a message waits exactly if its
  flag is set or in the hands of the thread, unless a reset has taken an announcement from it;
* the thread, if it goes on, fetches the message that waits within 15 steps;
* after the first such reset no message of the channel is announced or fetched again;
* each wake-up request ends by telling the thread, or with a change of the mode, or goes on. -/
theorem received_messages_are_fetched (reg : Reg → Octet) (h : s.Reaches reg) (ch : ChipChannel) :
    let log := s.log ch
    log.count (.signalled .rxrdy) = log.count .fetched + (s.drv.dataReady ch).toNat ∧
      (.dropped ∉ log → (s.drv.dataReady ch).toNat = tokens (.pl .rxrdy) (s.thread ch)) ∧
      (.dropped ∉ log → s.drv.dataReady ch = true → ∀ readings : List Reading,
        15 ≤ readings.length →
          ∃ m, (Runs.run (round ch) s readings).log ch = log ++ m ∧ .fetched ∈ m) ∧
      Log.Only (fun e => e ≠ .signalled .rxrdy ∧ e ≠ .fetched) .dropped log ∧
      log.count .requested = log.count (.signalled .wurq) + log.count .cancelled +
        (s.drv.wurqRequest ch).toNat := by
  have hbalanced : Balanced ch s := h.balanced
  have hready : .dropped ∉ s.log ch →
      (s.drv.dataReady ch).toNat = tokens (.pl .rxrdy) (s.thread ch) := by
    intro hdropped
    have hready := hbalanced.ready
    rwa [List.count_eq_zero.mpr hdropped, Nat.add_zero] at hready
  refine ⟨hbalanced.announced, hready, fun hdropped hwaits readings hlength => ?_, hbalanced.only,
    hbalanced.requested⟩
  have htokens := hready hdropped
  rw [hwaits, Bool.toNat_true] at htokens
  exact fetches (htokens ▸ Nat.zero_lt_one) readings ((due_le hbalanced.sound).trans hlength)

/-- A message comes, its thread takes the announcement, and the port is reset. -/
def dropsAnnouncement : List Move :=
  have chip : Reg → Octet := fun _ => 0x01
  [.service ⟨.setMode .a .sdci 0, chip⟩ fun _ _ _ => Service.noConfusion,
    .service ⟨.plHandler .a, chip⟩ fun _ _ _ => Service.noConfusion,
    .loop .a chip 1 0, .loop .a chip 1 0, .dlReset .a]

/-- What it leaves. -/
def withoutAnnouncement : Ports :=
  Runs.run step { drv := Drv.init fun _ => 0 } dropsAnnouncement

theorem received_messages_are_fetched_withoutAnnouncement :
    let log := withoutAnnouncement.log .a
    log = [.signalled .rxrdy, .dropped] ∧
      log.count (.signalled .rxrdy) =
        log.count .fetched + (withoutAnnouncement.drv.dataReady .a).toNat ∧
      Log.Only (fun e => e ≠ .signalled .rxrdy ∧ e ≠ .fetched) .dropped log := by
  have hreaches : withoutAnnouncement.Reaches fun _ => 0 :=
    Runs.reaches_run_true _ _
  have hbooks := received_messages_are_fetched _ hreaches .a
  exact ⟨by decide, hbooks.1, hbooks.2.2.2.1⟩

end Ports

end Max14819

end IolHat

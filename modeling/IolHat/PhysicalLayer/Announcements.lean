import IolHat.Lib.Ledger
import IolHat.PhysicalLayer.Interrupts

/-!
# The books of a channel

What has been announced to the thread of a channel and what it has fetched are counted against each
other (`Balanced`): the difference is what the thread is still going to find, in the event or in its
hands, and `data_ready` says whether there is any. A reset that takes an announcement out of the
thread's hands ends the account.
-/

namespace IolHat

namespace Max14819

/-! ### The books of a channel -/

/-- A thread leaves what it has taken in the event until it clears it, and makes each test of a
round once. -/
def DlThread.Sound (t : DlThread) : Prop :=
  match t.stage with
  | .wait => True
  | .clr => ∀ f, t.triggeredEvents f = true → t.event f = true
  | .tests rest => rest <:+ dlTests

/-- More flags are set. -/
theorem DlThread.Sound.or_event {t : DlThread} (h : t.Sound) (flags : DlFlag → Bool) :
    DlThread.Sound { t with event := fun f => t.event f || flags f } := by
  obtain ⟨event, triggeredEvents, stage⟩ := t
  cases stage with
  | wait => trivial
  | clr => exact fun f hf => Bool.or_eq_true_iff.mpr (.inl (h f hf))
  | tests rest => exact h

/-- What the thread has taken is gone. -/
theorem DlThread.Sound.drop {t : DlThread} (h : t.Sound) :
    DlThread.Sound { t with triggeredEvents := fun _ => false } := by
  obtain ⟨event, triggeredEvents, stage⟩ := t
  cases stage with
  | wait => trivial
  | clr => exact fun f hf => Bool.noConfusion hf
  | tests rest => exact h

namespace Ports

variable {s : Ports} {ch k : ChipChannel}

/-- How often a thread is going to find a flag: it is set, or it has been taken. -/
def tokens (f : DlFlag) (t : DlThread) : ℕ := (t.event f).toNat + (holds f t).toNat

/-- The books of a channel. -/
structure Balanced (ch : ChipChannel) (s : Ports) : Prop where
  sound : DlThread.Sound (s.thread ch)
  ready : (s.drv.dataReady ch).toNat =
    tokens (.pl .rxrdy) (s.thread ch) + (s.log ch).count .dropped
  announced : (s.log ch).count (.signalled .rxrdy) =
    (s.log ch).count .fetched + (s.drv.dataReady ch).toNat
  only : Log.Only (fun e => e ≠ .signalled .rxrdy ∧ e ≠ .fetched) .dropped (s.log ch)
  requested : (s.log ch).count .requested =
    (s.log ch).count (.signalled .wurq) + (s.log ch).count .cancelled +
      (s.drv.wurqRequest ch).toNat

theorem count_signals (events : List (ChipChannel × PlFlag)) (f : PlFlag) :
    (signals events ch).count (.signalled f) = events.count (ch, f) := by
  induction events with
  | nil => rfl
  | cons e events ih =>
    obtain ⟨k, g⟩ := e
    by_cases hk : k = ch
    · subst hk
      simp only [signals, List.filterMap_cons, if_true] at ih ⊢
      by_cases hg : g = f
      · subst hg
        simp [ih]
      · simp [hg, ih]
    · simp only [signals, List.filterMap_cons, hk, if_false] at ih ⊢
      simp [hk, ih]

theorem eq_signalled_of_mem_signals {events : List (ChipChannel × PlFlag)} {e : ChannelEntry}
    (he : e ∈ signals events ch) : ∃ f, e = .signalled f ∧ (ch, f) ∈ events := by
  obtain ⟨⟨k, f⟩, hmem, hsome⟩ := List.mem_filterMap.mp he
  split_ifs at hsome with hk
  obtain rfl := Option.some.inj hsome
  exact ⟨f, rfl, hk ▸ hmem⟩

/-- Other entries are not among the calls of `os_event_set`. -/
theorem count_signals_eq_zero {events : List (ChipChannel × PlFlag)} {e : ChannelEntry}
    (he : ∀ f, e ≠ .signalled f) : (signals events ch).count e = 0 := by
  refine List.count_eq_zero.mpr fun hmem => ?_
  obtain ⟨f, rfl, -⟩ := eq_signalled_of_mem_signals hmem
  exact he f rfl

theorem mem_wurqEntries {d : Drv} {service : Service} {e : ChannelEntry}
    (he : e ∈ wurqEntries d ch service) : e = .requested ∨ e = .cancelled := by
  unfold wurqEntries at he
  split at he
  · split_ifs at he
    · exact .inl (List.mem_singleton.mp he)
    · cases he
  · split_ifs at he
    · exact .inr (List.mem_singleton.mp he)
    · cases he
  · cases he

theorem count_wurqEntries_eq_zero {d : Drv} {service : Service} {e : ChannelEntry}
    (hrequested : e ≠ .requested) (hcancelled : e ≠ .cancelled) :
    (wurqEntries d ch service).count e = 0 := by
  refine List.count_eq_zero.mpr fun hmem => ?_
  rcases mem_wurqEntries hmem with rfl | rfl
  · exact hrequested rfl
  · exact hcancelled rfl

/-- Only the thread has moved. -/
theorem Balanced.move {s' : Ports} (h : Balanced ch s) (hdrv : s'.drv = s.drv)
    (hlog : s'.log ch = s.log ch) (hsound : DlThread.Sound (s'.thread ch))
    (htokens : tokens (.pl .rxrdy) (s'.thread ch) = tokens (.pl .rxrdy) (s.thread ch)) :
    Balanced ch s' where
  sound := hsound
  ready := by rw [hdrv, hlog, htokens, h.ready]
  announced := by rw [hdrv, hlog, h.announced]
  only := hlog ▸ h.only
  requested := by rw [hdrv, hlog, h.requested]

/-- Nothing has happened at this channel. -/
theorem Balanced.of_same {s' : Ports} (h : Balanced ch s) (hdrv : s'.drv = s.drv)
    (hlog : s'.log ch = s.log ch) (hthread : s'.thread ch = s.thread ch) : Balanced ch s' :=
  h.move hdrv hlog (hthread ▸ h.sound) (by rw [hthread])

/-- Once an announcement has been dropped, none is in the hands of the thread. -/
theorem Balanced.of_dropped (h : Balanced ch s) (hdropped : .dropped ∈ s.log ch) :
    s.drv.dataReady ch = true ∧ tokens (.pl .rxrdy) (s.thread ch) = 0 := by
  have hready := h.ready
  have hpos : 0 < (s.log ch).count .dropped := List.count_pos_iff.mpr hdropped
  cases hb : s.drv.dataReady ch with
  | true =>
    rw [hb, Bool.toNat_true] at hready
    exact ⟨rfl, by omega⟩
  | false =>
    rw [hb, Bool.toNat_false] at hready
    omega

/-- An entry that is not in the books. -/
theorem Balanced.record_received (h : Balanced ch s) : Balanced ch (s.record k .received) := by
  by_cases hk : k = ch
  · subst hk
    constructor
    · exact h.sound
    · simpa using h.ready
    · simpa using h.announced
    · rw [record_log, Function.update_self]
      exact h.only.append (fun _ => by simp) (by simp)
    · simpa using h.requested
  · exact h.of_same rfl (Function.update_of_ne (Ne.symm hk) _ _) rfl

theorem any_events (events : List (ChipChannel × PlFlag)) (f : PlFlag) :
    (events.any fun e => e.1 = ch ∧ DlFlag.pl e.2 = .pl f) = decide ((ch, f) ∈ events) := by
  rw [Bool.eq_iff_iff, List.any_eq_true, decide_eq_true_iff]
  constructor
  · rintro ⟨⟨k, g⟩, hmem, heq⟩
    obtain ⟨rfl, hg⟩ := of_decide_eq_true heq
    obtain rfl := DlFlag.pl.inj hg
    exact hmem
  · exact fun hmem => ⟨_, hmem, by simp⟩

/-- A service, unless it fetches a message of this channel. -/
theorem Balanced.service (h : Balanced ch s) (c : ServiceCall)
    (hc : ∀ len inband, c.service ≠ .getData ch len inband) : Balanced ch (s.service c) := by
  obtain ⟨hready, hkept⟩ := Drv.serve_ready { s.drv with events := [] } ch c hc
  have hwurq := Drv.serve_wurq { s.drv with events := [] } ch c
  have hentries : wurqEntries { s.drv with events := [] } ch c.service =
      wurqEntries s.drv ch c.service := by cases hservice : c.service <;> rfl
  rw [hentries] at hwurq
  unfold Ports.service
  dsimp only
  set d' := ({ s.drv with events := [] } : Drv).serve c with hd'
  simp only [List.count_nil, Nat.zero_add] at hready hwurq
  have hcount : ∀ f, (s.log ch ++ wurqEntries s.drv ch c.service ++ signals d'.events ch).count
      (.signalled f) = (s.log ch).count (.signalled f) + d'.events.count (ch, f) := by
    intro f
    rw [List.count_append, List.count_append, count_signals,
      count_wurqEntries_eq_zero ChannelEntry.noConfusion ChannelEntry.noConfusion, Nat.add_zero]
  have hother : ∀ e, (∀ f, e ≠ .signalled f) → (s.log ch ++ wurqEntries s.drv ch c.service ++
      signals d'.events ch).count e =
        (s.log ch).count e + (wurqEntries s.drv ch c.service).count e := by
    intro e he
    rw [List.count_append, List.count_append, count_signals_eq_zero he, Nat.add_zero]
  -- Data are announced only when none are ready, which keeps the announcements one at a time.
  have hnew : 0 < d'.events.count (ch, .rxrdy) → s.drv.dataReady ch = false := by
    intro hpos
    cases hb : s.drv.dataReady ch with
    | false => rfl
    | true =>
      rw [hb, hkept hb] at hready
      omega
  constructor
  · exact h.sound.or_event _
  · have htokens := h.ready
    rw [hother _ (fun _ => ChannelEntry.noConfusion),
      count_wurqEntries_eq_zero ChannelEntry.noConfusion ChannelEntry.noConfusion]
    unfold tokens holds at htokens ⊢
    dsimp only at htokens ⊢
    rw [any_events]
    rcases Nat.eq_zero_or_pos (d'.events.count (ch, .rxrdy)) with hzero | hpos
    · rw [decide_eq_false (List.count_eq_zero.mp hzero), Bool.or_false]
      omega
    · rw [decide_eq_true (List.count_pos_iff.mp hpos), Bool.or_true, Bool.toNat_true]
      rw [hnew hpos, Bool.toNat_false] at htokens
      rw [hnew hpos, Bool.toNat_false] at hready
      have hle := Bool.toNat_le (d'.dataReady ch)
      omega
  · rw [hcount, hother _ (fun _ => ChannelEntry.noConfusion),
      count_wurqEntries_eq_zero ChannelEntry.noConfusion ChannelEntry.noConfusion]
    show _ = _ + (d'.dataReady ch).toNat
    have hannounced := h.announced
    omega
  · refine (h.only.append (fun _ e he => ?_) fun he => ?_).append (fun hmem e he => ?_) fun he => ?_
    · rcases mem_wurqEntries he with rfl | rfl <;> simp
    · rcases mem_wurqEntries he with he | he <;> cases he
    · have hdropped : ChannelEntry.dropped ∈ s.log ch := by
        rcases List.mem_append.mp hmem with hmem | hmem
        · exact hmem
        · rcases mem_wurqEntries hmem with he | he <;> cases he
      obtain ⟨f, rfl, hf⟩ := eq_signalled_of_mem_signals he
      refine ⟨fun heq => ?_, ChannelEntry.noConfusion⟩
      obtain rfl := ChannelEntry.signalled.inj heq
      have hfalse := hnew (List.count_pos_iff.mpr hf)
      rw [(h.of_dropped hdropped).1] at hfalse
      cases hfalse
    · obtain ⟨f, hf, -⟩ := eq_signalled_of_mem_signals he
      cases hf
  · rw [hcount, hother _ (fun _ => ChannelEntry.noConfusion),
      hother _ (fun _ => ChannelEntry.noConfusion)]
    show _ = _ + (d'.wurqRequest ch).toNat
    have hrequested := h.requested
    omega

/-- The thread fetches what has been announced. -/
theorem Balanced.fetched {s' : Ports} (h : Balanced ch s)
    (hholds : holds (.pl .rxrdy) (s.thread ch) = true) (hsound : DlThread.Sound (s'.thread ch))
    (htested : holds (.pl .rxrdy) (s'.thread ch) = false)
    (hevent : (s'.thread ch).event (.pl .rxrdy) = (s.thread ch).event (.pl .rxrdy))
    (hready : s'.drv.dataReady ch = false)
    (hwurq : s'.drv.wurqRequest ch = s.drv.wurqRequest ch) {m : List ChannelEntry}
    (hm : ∀ e ∈ m, e = .signalled .plEvent)
    (hlog : s'.log ch = s.log ch ++ m ++ [.fetched]) : Balanced ch s' := by
  -- the announcement is in the hands of the thread, so it is the only one, and none was dropped
  have hle := Bool.toNat_le (s.drv.dataReady ch)
  have hbooks := h.ready
  rw [tokens, hholds, Bool.toNat_true] at hbooks
  have hcount : ∀ e, e ≠ .signalled .plEvent → m.count e = 0 := fun e he =>
    List.count_eq_zero.mpr fun hmem => he (hm e hmem)
  have hdropped : .dropped ∉ s.log ch := List.count_eq_zero.mp (by omega)
  constructor
  · exact hsound
  · rw [hready, tokens, htested, hevent, hlog, List.count_append, List.count_append,
      hcount _ ChannelEntry.noConfusion]
    simp only [Bool.toNat_false, List.count_singleton]
    simp
    omega
  · have hannounced := h.announced
    rw [hready, hlog, List.count_append, List.count_append, List.count_append, List.count_append,
      hcount _ (by simp), hcount _ ChannelEntry.noConfusion]
    simp
    omega
  · rw [hlog]
    refine Log.only_of_not_mem fun hmem => ?_
    rcases List.mem_append.mp hmem with hmem | hmem
    · rcases List.mem_append.mp hmem with hmem | hmem
      · exact hdropped hmem
      · cases hm _ hmem
    · cases List.mem_singleton.mp hmem
  · have hrequested := h.requested
    rw [hwurq, hlog]
    simp only [List.count_append]
    rw [hcount _ ChannelEntry.noConfusion, hcount _ (by simp), hcount _ ChannelEntry.noConfusion]
    simp
    omega

/-- `iolink_dl_reset` drops what the thread has in hand. -/
theorem Balanced.dlReset (h : Balanced ch s) : Balanced ch (s.dlReset k) := by
  by_cases hk : ch = k
  · subst hk
    have hthread : (s.dlReset ch).thread ch =
        { s.thread ch with triggeredEvents := fun _ => false } := by
      unfold Ports.dlReset
      split_ifs <;> simp
    have hsound : DlThread.Sound ((s.dlReset ch).thread ch) := by
      rw [hthread]
      exact h.sound.drop
    have hnone : holds (.pl .rxrdy) ((s.dlReset ch).thread ch) = false := by
      rw [hthread, holds]
      split <;> simp
    by_cases hholds : holds (.pl .rxrdy) (s.thread ch) = true
    · have hlog : (s.dlReset ch).log ch = s.log ch ++ [.dropped] := by
        simp [Ports.dlReset, hholds]
      have hdrv : (s.dlReset ch).drv = s.drv := by simp [Ports.dlReset, hholds]
      have hbooks := h.ready
      rw [tokens, hholds, Bool.toNat_true] at hbooks
      have hle := Bool.toNat_le (s.drv.dataReady ch)
      constructor
      · exact hsound
      · rw [hdrv, hlog, tokens, hnone, hthread, List.count_append, List.count_singleton]
        simp
        omega
      · have hannounced := h.announced
        rw [hdrv, hlog]
        simpa using hannounced
      · rw [hlog]
        intro l₁ l₂ hl x hx
        rcases List.eq_nil_or_concat l₂ with rfl | ⟨l₃, y, rfl⟩
        · cases hx
        · -- none was dropped before
          have hdropped : .dropped ∉ s.log ch := List.count_eq_zero.mp (by omega)
          rw [List.concat_eq_append, ← List.cons_append, ← List.append_assoc] at hl
          obtain ⟨hbefore, -⟩ := List.append_inj' hl rfl
          rw [hbefore] at hdropped
          exact absurd (List.mem_append_right _ List.mem_cons_self) hdropped
      · have hrequested := h.requested
        rw [hdrv, hlog]
        simpa using hrequested
    · refine h.move (by simp [Ports.dlReset, hholds]) (by simp [Ports.dlReset, hholds]) hsound ?_
      rw [tokens, tokens, hnone, hthread, Bool.eq_false_iff.mpr hholds]
  · refine h.of_same ?_ ?_ ?_
    all_goals
      unfold Ports.dlReset
      split_ifs <;> simp [Function.update_of_ne hk]

/-- A test of another flag. -/
theorem Balanced.found (h : Balanced ch s) (chip : Reg → Octet) (len inband : Octet) {f : DlFlag}
    (hf : f ≠ .pl .rxrdy) : Balanced ch (s.found k chip len inband f) := by
  unfold Ports.found
  split
  · exact h.service _ fun _ _ => Service.noConfusion
  · exact absurd rfl hf
  · exact h.record_received
  · exact h

/-- The thread of this channel. -/
theorem Balanced.loop_self (h : Balanced ch s) (chip : Reg → Octet) (len inband : Octet) :
    Balanced ch (s.loop ch chip len inband) := by
  have hsound := h.sound
  rw [DlThread.Sound] at hsound
  unfold Ports.loop
  dsimp only
  split <;> rename_i hstage <;> rw [hstage] at hsound
  · split_ifs
    · exact h
    · refine h.move rfl rfl ?_ ?_
      · simp only [modThread_thread, Function.update_self, DlThread.Sound]
        exact fun f hf => (Bool.and_eq_true_iff.mp hf).1
      · simp [tokens, holds, hstage]
  · refine h.move rfl rfl ?_ ?_
    · simp only [modThread_thread, Function.update_self, DlThread.Sound]
      exact List.suffix_rfl
    · -- what it has taken is cleared in the event, and is in its hands now
      have hset := hsound (.pl .rxrdy)
      have hmem : DlFlag.pl .rxrdy ∈ dlTests := by decide
      simp only [tokens, holds, modThread_thread, Function.update_self, hstage, hmem]
      cases htriggered : (s.thread ch).triggeredEvents (.pl .rxrdy) with
      | true => simp [hset htriggered]
      | false => simp
  · refine h.move rfl rfl ?_ ?_
    · simp [goto, DlThread.Sound]
    · simp [goto, tokens, holds, hstage]
  · rename_i f rest
    have hrest := (List.suffix_cons f rest).trans hsound
    have hnot : f ∉ rest := by
      have hnodup : dlTests.Nodup := by decide
      exact (List.nodup_cons.mp (hnodup.sublist hsound.sublist)).1
    have hnext : DlThread.Sound ((s.goto ch (.tests rest)).thread ch) := by
      simpa [goto, DlThread.Sound] using hrest
    by_cases hf : f = .pl .rxrdy
    · subst hf
      have hdone : holds (.pl .rxrdy) ((s.goto ch (.tests rest)).thread ch) = false := by
        simp [goto, holds, hnot]
      split_ifs with htriggered
      · have hholds : holds (.pl .rxrdy) (s.thread ch) = true := by
          simp [holds, hstage, htriggered]
        obtain ⟨hready, hwurq, hevents⟩ :=
          Drv.getData_spec { s.drv with events := [] } chip ch len inband
        set r := (({ s.drv with events := [] } : Drv).getData chip ch len inband).2 with hr
        refine h.fetched hholds (hnext.or_event _) hdone ?_ ?_ (congrFun hwurq ch)
          (m := signals r.events ch) (fun e he => ?_) ?_
        · show (((s.goto ch (.tests rest)).thread ch).event (.pl .rxrdy) || r.events.any fun e =>
            e.1 = ch ∧ DlFlag.pl e.2 = .pl .rxrdy) = _
          rw [any_events]
          rcases hevents with hevents | hevents <;> simp [hevents, goto]
        · show r.dataReady ch = false
          rw [hready, Function.update_self]
        · obtain ⟨f, rfl, hmem⟩ := eq_signalled_of_mem_signals he
          rcases hevents with hevents | hevents <;> rw [hevents] at hmem
          · cases hmem
          · rw [(Prod.mk.inj (List.mem_singleton.mp hmem)).2]
        · show (Function.update _ ch _ : ChipChannel → List ChannelEntry) ch = _
          rw [Function.update_self]
          show s.log ch ++ [] ++ signals r.events ch ++ [.fetched] = _
          rw [List.append_nil]
      · refine h.move rfl rfl hnext ?_
        simp [goto, tokens, holds, hstage, htriggered]
    · have hmoved : Balanced ch (s.goto ch (.tests rest)) := by
        refine h.move rfl rfl hnext ?_
        simp [goto, tokens, holds, hstage, Ne.symm hf]
      split_ifs
      · exact hmoved.found chip len inband hf
      · exact hmoved

/-- The thread of the other channel. -/
theorem Balanced.loop_other (h : Balanced ch s) (hk : ch ≠ k) (chip : Reg → Octet)
    (len inband : Octet) : Balanced ch (s.loop k chip len inband) := by
  have hthread : ∀ f, Balanced ch (s.modThread k f) := fun f =>
    h.of_same rfl rfl (Function.update_of_ne hk _ _)
  unfold Ports.loop
  dsimp only
  split
  · split_ifs
    · exact h
    · exact hthread _
  · exact hthread _
  · exact hthread _
  · rename_i f rest _
    have hgoto : Balanced ch (s.goto k (.tests rest)) := hthread _
    split_ifs
    · by_cases hf : f = .pl .rxrdy
      · subst hf
        have hservice : Balanced ch ((s.goto k (.tests rest)).service
            ⟨.getData k len inband, chip⟩) :=
          hgoto.service _ fun _ _ heq => hk (Service.getData.inj heq).1.symm
        exact hservice.of_same rfl (Function.update_of_ne hk _ _) rfl
      · exact hgoto.found chip len inband hf
    · exact hgoto

theorem Balanced.loop (h : Balanced ch s) (chip : Reg → Octet) (len inband : Octet) :
    Balanced ch (s.loop k chip len inband) := by
  by_cases hk : ch = k
  · exact hk ▸ h.loop_self chip len inband
  · exact h.loop_other hk chip len inband

/-- A flag that says nothing about messages. -/
theorem Balanced.post (h : Balanced ch s) {f : DlFlag} (hf : f ≠ .pl .rxrdy) :
    Balanced ch (s.post k f) := by
  by_cases hk : ch = k
  · subst hk
    have hthread : (s.post ch f).thread ch =
        { s.thread ch with event := Function.update (s.thread ch).event f true } :=
      Function.update_self _ _ _
    refine h.move rfl rfl ?_ ?_
    · have hor : Function.update (s.thread ch).event f true =
          fun g => (s.thread ch).event g || decide (g = f) := by
        funext g
        by_cases hg : g = f <;> simp [hg]
      rw [hthread, hor]
      exact h.sound.or_event _
    · have hkept : Function.update (s.thread ch).event f true (.pl .rxrdy) =
          (s.thread ch).event (.pl .rxrdy) := Function.update_of_ne (Ne.symm hf) _ _
      rw [hthread, tokens, tokens]
      dsimp only
      rw [hkept]
      rfl
  · exact h.of_same rfl rfl (Function.update_of_ne hk _ _)

theorem Balanced.step (h : Balanced ch s) : ∀ m, Balanced ch (s.step m)
  | .isr => (h.post (by decide)).post (by decide)
  | .post _ _ hf => h.post (hf _)
  | .service c hc => h.service c (hc _)
  | .dlReset _ => h.dlReset
  | .loop _ chip len inband => h.loop chip len inband

theorem balanced_init (reg : Reg → Octet) : Balanced ch { drv := Drv.init reg } where
  sound := trivial
  ready := rfl
  announced := rfl
  only := Log.only_nil
  requested := rfl

theorem Reaches.balanced {reg : Reg → Octet} (h : Reaches reg s) : Balanced ch s :=
  h.invariant _ (balanced_init reg) fun _ m hs _ => hs.step m

end Ports

end Max14819

end IolHat

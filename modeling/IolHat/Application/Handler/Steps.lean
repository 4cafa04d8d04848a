import IolHat.Application.Handler.Ports

/-!
# What the steps do to a port

`happens_step`: whatever a step of the whole does, to a port it does what `Happens` says, unless it
ends the loop. So what holds of a port at first and is kept by all that can happen to it holds in
every run (`Reaches.port_induct`).
-/

namespace IolHat

namespace IolHandler

variable {s : IolHandler} {i j : PortIndex} {f : Flag}

/-- The loop keeps its tests in order. -/
structure Ordered (s : IolHandler) : Prop where
  before : s.stage = .wait ∨ s.stage = .clr → s.tests = []
  nodup : s.tests.Nodup
  value : s.stage = .clr → ∀ f i, isSet s.eventValue f i = true → isSet s.appEvent f i = true

/-- A step of the stack or of a timer leaves the loop where it is, and takes no flag away. -/
theorem Ordered.beside (h : s.Ordered) {s' : IolHandler} (hstage : s'.stage = s.stage)
    (htests : s'.tests = s.tests) (hvalue : s'.eventValue = s.eventValue)
    (hset : ∀ f i, isSet s.appEvent f i = true → isSet s'.appEvent f i = true) : s'.Ordered where
  before hs := by
    rw [htests]
    exact h.before (hstage ▸ hs)
  nodup := htests ▸ h.nodup
  value hs f i hf := hset f i (h.value (hstage ▸ hs) f i (hvalue ▸ hf))

/-- A step of the loop within a round. -/
theorem Ordered.within (h : s.Ordered) {s' : IolHandler}
    (hstage : s'.stage ≠ .wait ∧ s'.stage ≠ .clr) (htests : s'.tests = s.tests) : s'.Ordered where
  before hs := (hs.elim hstage.1 hstage.2).elim
  nodup := htests ▸ h.nodup
  value hs := absurd hs hstage.2

theorem ordered_init (mode : PortIndex → PlMode) : (init mode).Ordered where
  before _ := rfl
  nodup := .nil
  value h := Stage.noConfusion h

theorem nodup_allTests : allTests.Nodup := by decide

theorem mem_allTests : (i, f) ∈ allTests := by
  revert i
  cases f <;> decide

theorem Ordered.raise (h : s.Ordered) (i : PortIndex) (f : Flag) : (s.raise i f).Ordered :=
  h.beside rfl rfl rfl fun g j hg => by
    show isSet (s.appEvent ||| f.value i) g j = true
    simp [hg]

/-- The stage and the tests after a test that has found its flag. -/
theorem found_spec (h : s.stage = .look) (i : PortIndex) (f : Flag) :
    ((s.found i f).stage ≠ .wait ∧ (s.found i f).stage ≠ .clr) ∧ (s.found i f).tests = s.tests := by
  have hlook : s.stage ≠ .wait ∧ s.stage ≠ .clr := by
    rw [h]
    exact ⟨Stage.noConfusion, Stage.noConfusion⟩
  cases f with
  | pd =>
    simp only [found]
    split_ifs
    · split
      · exact ⟨hlook, rfl⟩
      · exact ⟨hlook, rfl⟩
    · exact ⟨hlook, rfl⟩
  | porte =>
    simp only [found]
    split_ifs
    · exact ⟨⟨Stage.noConfusion, Stage.noConfusion⟩, rfl⟩
    · exact ⟨hlook, rfl⟩
  | retryEstcom =>
    simp only [found]
    split_ifs
    · exact ⟨⟨Stage.noConfusion, Stage.noConfusion⟩, rfl⟩
    · exact ⟨hlook, rfl⟩
  | comlost =>
    simp only [found]
    split
    · exact ⟨⟨Stage.noConfusion, Stage.noConfusion⟩, rfl⟩
    · split_ifs
      · exact ⟨hlook, rfl⟩
      · exact ⟨⟨Stage.noConfusion, Stage.noConfusion⟩, rfl⟩
      · exact ⟨hlook, rfl⟩

/-- A test for another port. -/
theorem view_found_of_ne (hij : i ≠ j) (h : s.stage = .look) (f : Flag) :
    (s.found j f).view i = s.view i := by
  have hnone : s.stage.call i = none := by rw [h]; rfl
  cases f with
  | pd =>
    simp only [found]
    split_ifs
    · split
      · exact view_record_of_ne hij _
      · rfl
    · exact view_record_of_ne hij _
  | porte =>
    simp only [found]
    split_ifs
    · rw [view_goto, view_record_of_ne hij, Stage.call_of_ne hij, view_setCall_none hnone]
    · exact view_record_of_ne hij _
  | retryEstcom =>
    simp only [found]
    split_ifs
    · rw [view_goto, view_record_of_ne hij, Stage.call_of_ne hij, view_setCall_none hnone]
    · exact view_record_of_ne hij _
  | comlost =>
    simp only [found]
    split
    · rw [view_goto]
      exact view_setCall_none hnone
    · split_ifs
      · exact view_setTimer_of_ne hij _
      · rw [view_goto, view_setState_of_ne hij, view_setTimer_of_ne hij, Stage.call_of_ne hij,
          view_setCall_none hnone]
      · rw [view_setState_of_ne hij, view_setTimer_of_ne hij]

/-- A test for the port itself; `v` is the port before the test. -/
theorem happens_found {v : View} (hv : s.view i = v.tested f)
    (hhand : v.hand f = true) (hcall : v.call = none)
    (hcrashed : (s.found i f).stage ≠ .crashed) : Happens i v ((s.found i f).view i) := by
  have hport : s.port i = v.port := congrArg View.port hv
  cases f with
  | pd =>
    simp only [found, hport] at hcrashed ⊢
    split_ifs with hstate
    · split
      · next p hp =>
        rw [view_record_self, hv]
        exact .ran hhand hcall hstate (hp ▸ Option.some_ne_none p)
      · next hp =>
        rw [hv]
        exact .idle hhand hcall hstate hp
    · rw [view_record_self, hv]
      exact .passed .pd hhand hcall .running rfl hstate
  | porte =>
    simp only [found, hport] at hcrashed ⊢
    split_ifs with hstate
    · rw [view_goto, view_record_self, hv, Stage.call_self]
      exact .asked hhand hcall hstate
    · rw [view_record_self, hv]
      exact .passed .porte hhand hcall .starting rfl hstate
  | retryEstcom =>
    simp only [found, hport] at hcrashed ⊢
    split_ifs with hstate
    · rw [view_goto, view_record_self, hv, Stage.call_self]
      exact .reset hhand hcall hstate
    · rw [view_record_self, hv]
      exact .passed .retryEstcom hhand hcall .wuRetryWaitTsd rfl hstate
  | comlost =>
    simp only [found, hport] at hcrashed ⊢
    cases ht : v.port.timer with
    | none =>
      rw [ht] at hcrashed
      exact absurd rfl hcrashed
    | some t =>
      simp only
      split_ifs with hstarting hstopping
      · rw [view_setTimer_self, hv]
        exact .waits t ht hhand hcall hstarting
      · rw [view_goto, view_setState_self, view_setTimer_self, hv, Stage.call_self]
        exact .retries t ht hhand hcall hstarting hstopping
      · rw [view_setState_self, view_setTimer_self, hv]
        exact .stops t ht hhand hcall (not_not.mp hstopping)

theorem happens_raise (i j : PortIndex) (hf : f ≠ .retryEstcom) :
    Happens i (s.view i) ((s.raise j f).view i) := by
  by_cases hij : i = j
  · obtain rfl := hij
    rw [raise, view_record_self, view_osEventSet_self]
    exact .raised f hf
  · rw [raise, view_record_of_ne hij, view_osEventSet_of_ne hij]
    exact .nothing

theorem happens_elapse (i j : PortIndex) : Happens i (s.view i) ((s.elapse j).view i) := by
  unfold elapse
  cases ht : (s.port j).timer with
  | none => exact .nothing
  | some t =>
    dsimp only
    split_ifs with hrunning
    · by_cases hij : i = j
      · obtain rfl := hij
        rw [view_setTimer_self]
        exact .elapsed t ht hrunning
      · rw [view_setTimer_of_ne hij]
        exact .nothing
    · exact .nothing

theorem happens_timerThread (i j : PortIndex) :
    Happens i (s.view i) ((s.timerThread j).view i) := by
  unfold timerThread
  cases ht : (s.port j).timer with
  | none => exact .nothing
  | some t =>
    dsimp only
    split_ifs with hcalling hsignal
    · by_cases hij : i = j
      · obtain rfl := hij
        rw [view_osEventSet_self, view_setTimer_self]
        exact .returned t ht hcalling
      · rw [view_osEventSet_of_ne hij, view_setTimer_of_ne hij]
        exact .nothing
    · by_cases hij : i = j
      · obtain rfl := hij
        rw [view_setState_self, view_setTimer_self]
        exact .called t ht (Bool.eq_false_iff.mpr hcalling) hsignal
      · rw [view_setState_of_ne hij, view_setTimer_of_ne hij]
        exact .nothing
    · exact .nothing

theorem happens_look (h : s.Ordered) (hlook : s.stage = .look)
    (hcrashed : s.look.stage ≠ .crashed) (i : PortIndex) :
    Happens i (s.view i) (s.look.view i) := by
  have hcall : (s.view i).call = none := by
    show s.stage.call i = none
    rw [hlook]
    rfl
  unfold look at hcrashed ⊢
  cases htests : s.tests with
  | nil =>
    rw [view_goto]
    have hsame : (s.view i).setCall none = s.view i := view_setCall_none hcall
    exact hsame.symm ▸ .nothing
  | cons test rest =>
    obtain ⟨j, f⟩ := test
    rw [htests] at hcrashed
    dsimp only at hcrashed ⊢
    have hpop := view_pop (i := i) h.nodup htests
    split_ifs with hset
    · rw [if_pos hset] at hcrashed
      by_cases hij : i = j
      · obtain rfl := hij
        rw [if_pos rfl] at hpop
        have hhand : (s.view i).hand f = true := by
          show (isSet s.eventValue f i && decide ((i, f) ∈ s.tests)) = true
          rw [hset, htests, decide_eq_true List.mem_cons_self]
          rfl
        exact happens_found hpop hhand hcall hcrashed
      · rw [if_neg hij] at hpop
        have hsame := (view_found_of_ne (s := { s with tests := rest }) hij hlook f).trans hpop
        exact hsame.symm ▸ .nothing
    · rw [hpop]
      split_ifs with hij
      · -- the flag was not among those that have been taken
        obtain rfl := hij
        have hhand : (s.view i).hand f = false := by
          show (isSet s.eventValue f i && _) = false
          rw [Bool.eq_false_iff.mpr hset, Bool.false_and]
        have hsame : (s.view i).tested f = s.view i :=
          congrArg (View.mk _ _ · _) (Function.update_eq_self_iff.mpr hhand.symm)
        exact hsame.symm ▸ .nothing
      · exact .nothing

/-- A step for another port than `i`, which leaves the flags of `i` and goes from one call of its
port to the next or back to the tests. -/
theorem happens_beside {s' : IolHandler} (hview : s'.view i = s.view i) (h : s.stage.call i = none)
    {stage : Stage} (hstage : stage.call i = none) :
    Happens i (s.view i) ((s'.goto stage).view i) := by
  rw [view_goto, hview, hstage, view_setCall_none h]
  exact .nothing

theorem happens_busy {c : Call} (h : s.stage = .busy j c) (a : Answer) (i : PortIndex) :
    Happens i (s.view i) ((s.loop a).view i) := by
  by_cases hij : i = j
  · obtain rfl := hij
    have hcall : (s.view i).call = some c := by
      show s.stage.call i = some c
      rw [h, Stage.call_self]
    cases c with
    | portStatus =>
      simp only [loop, h]
      split_ifs with hfailed hop
      · exact .failed hcall
      · rw [view_goto, view_modPort_self, Stage.call_self, hop]
        exact .operational hcall
      · rw [view_goto, view_modPort_self]
        exact .notOperational _ hcall
    | setup =>
      simp only [loop, h, view_goto, view_record_self, view_modPort_self]
      exact .started hcall
    | config =>
      simp only [loop, h, configPort]
      split
      · next hmode =>
        rw [view_goto, view_setState_self, Stage.call_self]
        exact .config hcall hmode
      -- The other modes start no communication; `INACTIVE` is not configured at all.
      · next hmode =>
        exact .configSio hcall (hmode ▸ PlMode.noConfusion) _
          (.inr (Stage.call_self _))
      · next hmode =>
        exact .configSio hcall (hmode ▸ PlMode.noConfusion) _
          (.inr (Stage.call_self _))
      · next hmode =>
        exact .configSio hcall (hmode ▸ PlMode.noConfusion) _ (.inl rfl)
    | portConfiguration =>
      simp only [loop, h, view_goto, view_record_self]
      exact .configured hcall
    | retryEstcom =>
      simp only [loop, h, view_goto, view_osEventSet_self]
      exact .retried hcall
  -- The loop is at a call of another port.
  · have hnone : s.stage.call i = none := by
      rw [h]
      exact Stage.call_of_ne hij c
    cases c with
    | portStatus =>
      simp only [loop, h]
      split_ifs
      · exact happens_beside rfl hnone rfl
      · exact happens_beside (view_modPort_of_ne hij _) hnone (Stage.call_of_ne hij _)
      · exact happens_beside (view_modPort_of_ne hij _) hnone rfl
    | setup =>
      simp only [loop, h]
      exact happens_beside ((view_record_of_ne hij _).trans (view_modPort_of_ne hij _)) hnone rfl
    | config =>
      simp only [loop, h, configPort]
      split
      · exact happens_beside (view_setState_of_ne hij _) hnone (Stage.call_of_ne hij _)
      · exact happens_beside rfl hnone (Stage.call_of_ne hij _)
      · exact happens_beside rfl hnone (Stage.call_of_ne hij _)
      · exact happens_beside rfl hnone rfl
    | portConfiguration =>
      simp only [loop, h]
      exact happens_beside (view_record_of_ne hij _) hnone rfl
    | retryEstcom =>
      simp only [loop, h]
      exact happens_beside (view_osEventSet_of_ne hij) hnone rfl

/-- The loop takes what it has been told of. -/
theorem happens_clr (h : s.Ordered) (hstage : s.stage = .clr) (a : Answer) (i : PortIndex) :
    Happens i (s.view i) ((s.loop a).view i) := by
  have hcall : (s.view i).call = none := by
    show s.stage.call i = none
    rw [hstage]
    rfl
  have hhand : ∀ f, (s.view i).hand f = false := by
    intro f
    show (_ && decide ((i, f) ∈ s.tests)) = false
    rw [h.before (.inr hstage)]
    exact Bool.and_false _
  have hview : (s.loop a).view i = { s.view i with
      flag := fun f => (s.view i).flag f && !isSet s.eventValue f i
      hand := fun f => isSet s.eventValue f i } := by
    simp only [loop, hstage]
    refine View.mk.injEq .. ▸ ⟨rfl, funext fun f => ?_, funext fun f => ?_, ?_⟩
    · exact isSet_andNot
    · show (isSet s.eventValue f i && decide ((i, f) ∈ allTests)) = isSet s.eventValue f i
      rw [decide_eq_true mem_allTests, Bool.and_true]
    · exact hcall.symm
  rw [hview]
  exact .taken _ hcall hhand fun f => h.value hstage f i

theorem happens_loop (h : s.Ordered) (a : Answer)
    (hcrashed : s.stage = .crashed ∨ (s.loop a).stage ≠ .crashed) (i : PortIndex) :
    Happens i (s.view i) ((s.loop a).view i) := by
  cases hstage : s.stage with
  | wait =>
    have hhand : ∀ (value : UInt32), (fun f => isSet value f i && decide ((i, f) ∈ s.tests)) =
        fun _ => false := fun value => funext fun f => by
      rw [h.before (.inl hstage)]
      exact Bool.and_false _
    simp only [loop, hstage]
    split_ifs
    · exact .nothing
    · have hsame : s.view i = view { s with stage := .clr, eventValue := s.appEvent &&& 0xFFFFFFFF }
          i := by
        simp only [view, hhand, hstage]
        rfl
      exact hsame ▸ .nothing
  | clr => exact happens_clr h hstage a i
  | look =>
    have hloop : s.loop a = s.look := by
      simp only [loop, hstage]
    rw [hloop, hstage] at hcrashed
    exact hloop ▸ happens_look h hstage (hcrashed.resolve_left Stage.noConfusion) i
  | busy j c => exact happens_busy hstage a i
  | crashed =>
    have hsame : s.loop a = s := by
      simp only [loop, hstage]
    exact hsame.symm ▸ .nothing

/-- **One step**, as each port sees it. -/
theorem happens_step (h : s.Ordered) (m : Move)
    (hcrashed : s.stage = .crashed ∨ (s.step m).stage ≠ .crashed) (i : PortIndex) :
    Happens i (s.view i) ((s.step m).view i) := by
  cases m with
  | portEvent j eventCode =>
    simp only [step, handleSmiPortevent]
    split_ifs
    · exact happens_raise i j (by decide)
    · exact happens_raise i j (by decide)
    · exact happens_raise i j (by decide)
    · exact .nothing
  | pd j => exact happens_raise i j (by decide)
  | elapse j => exact happens_elapse i j
  | timerThread j => exact happens_timerThread i j
  | loop a => exact happens_loop h a hcrashed i

theorem Ordered.step (h : s.Ordered) (m : Move) : (s.step m).Ordered := by
  cases m with
  | portEvent i eventCode =>
    simp only [IolHandler.step, handleSmiPortevent]
    split_ifs
    · exact h.raise i _
    · exact h.raise i _
    · exact h.raise i _
    · exact h
  | pd i => exact h.raise i _
  | elapse i =>
    simp only [IolHandler.step, elapse]
    split
    · split_ifs
      · exact h.beside rfl rfl rfl fun _ _ hf => hf
      · exact h
    · exact h
  | timerThread i =>
    simp only [IolHandler.step, timerThread]
    split
    · split_ifs
      · refine h.beside rfl rfl rfl fun g j hg => ?_
        show isSet (s.appEvent ||| Flag.retryEstcom.value i) g j = true
        simp [hg]
      · exact h.beside rfl rfl rfl fun _ _ hf => hf
      · exact h
    · exact h
  | loop a =>
    simp only [IolHandler.step]
    cases hstage : s.stage with
    | wait =>
      simp only [loop, hstage]
      split_ifs
      · exact h
      -- The flags are taken as they are: the mask of the wait has all of them.
      · refine ⟨fun _ => h.before (.inl hstage), h.nodup, fun _ f i hf => ?_⟩
        have hall : s.appEvent &&& 0xFFFFFFFF = s.appEvent := by
          rw [← UInt32.toBitVec_inj, UInt32.toBitVec_and]
          exact BitVec.and_allOnes
        exact hall ▸ hf
    -- The tests begin, each of them once.
    | clr =>
      simp only [loop, hstage]
      refine ⟨fun hs => ?_, nodup_allTests, fun hs => Stage.noConfusion hs⟩
      exact hs.elim (fun hs => Stage.noConfusion hs) fun hs => Stage.noConfusion hs
    | look =>
      have hloop : s.loop a = s.look := by
        simp only [loop, hstage]
      rw [hloop, look]
      cases htests : s.tests with
      | nil => exact ⟨fun _ => htests, h.nodup, fun hs => Stage.noConfusion hs⟩
      | cons test rest =>
        obtain ⟨i, f⟩ := test
        have hn : rest.Nodup := (List.nodup_cons.mp (htests ▸ h.nodup)).2
        have hlook : ¬ (s.stage = .wait ∨ s.stage = .clr) := by
          rw [hstage]
          decide
        -- A test that is looked at is not looked at again.
        have hrest : Ordered { s with tests := rest } :=
          ⟨fun hs => (hlook hs).elim, hn, fun hs => (hlook (.inr hs)).elim⟩
        dsimp only
        split_ifs
        · have hfound := found_spec (s := { s with tests := rest }) hstage i f
          exact hrest.within hfound.1 hfound.2
        · exact hrest
    | busy i c =>
      cases c with
      | portStatus =>
        simp only [loop, hstage]
        split_ifs <;> exact h.within ⟨Stage.noConfusion, Stage.noConfusion⟩ rfl
      | setup =>
        simp only [loop, hstage]
        exact h.within ⟨Stage.noConfusion, Stage.noConfusion⟩ rfl
      | config =>
        simp only [loop, hstage, configPort]
        split <;> exact h.within ⟨Stage.noConfusion, Stage.noConfusion⟩ rfl
      | portConfiguration =>
        simp only [loop, hstage]
        exact h.within ⟨Stage.noConfusion, Stage.noConfusion⟩ rfl
      | retryEstcom =>
        simp only [loop, hstage]
        exact h.within ⟨Stage.noConfusion, Stage.noConfusion⟩ rfl
    | crashed =>
      simp only [loop, hstage]
      exact h

/-- A call with `NULL` is the last one of the loop. -/
theorem crashed_step (h : s.stage = .crashed) (m : Move) : (s.step m).stage = .crashed := by
  cases m with
  | portEvent i eventCode =>
    simp only [step, handleSmiPortevent]
    split_ifs <;> exact h
  | pd i => exact h
  | elapse i =>
    simp only [step, elapse]
    split
    · split_ifs <;> exact h
    · exact h
  | timerThread i =>
    simp only [step, timerThread]
    split
    · split_ifs <;> exact h
    · exact h
  | loop a =>
    simp only [step, loop, h]

/-- **What holds of a port in every run**: what holds of it at first and is kept by all that can
happen to it. -/
theorem Reaches.port_induct {mode : PortIndex → PlMode} (hs : Reaches mode s)
    (hcrashed : s.stage ≠ .crashed) (i : PortIndex) (I : View → Prop)
    (h₀ : I ((init mode).view i)) (hstep : ∀ v v', I v → Happens i v v' → I v') :
    I (s.view i) := by
  have hboth := hs.invariant (fun s => s.Ordered ∧ (s.stage ≠ .crashed → I (s.view i)))
    ⟨ordered_init mode, fun _ => h₀⟩ ?_
  · exact hboth.2 hcrashed
  · rintro s m ⟨hordered, hI⟩ -
    refine ⟨hordered.step m, fun hnot => ?_⟩
    have hbefore : s.stage ≠ .crashed := fun h => hnot (crashed_step h m)
    exact hstep _ _ (hI hbefore) (happens_step hordered m (.inr hnot) i)

end IolHandler

end IolHat

import IolHat.SystemManagement.Machine
import IolHat.Lib.Run

/-!
# The cycle times of the ports

The confirmation of `MIN_CYCL` sets the cycle time of the driver, except that a device of 4 ms is
passed over when the cycle time the port had equals `older_cycletime`. That variable is static in
the function, so it is one for all ports: it holds the cycle time that the port which confirmed
last had before its confirmation.

* `CycletimeSys` is System Management of all ports, and a step a confirmation by one of them.
* `Clock` is what of the order of the confirmations matters; `CycletimeSys.step_clock` says that
  the source follows it.
* `same_cycletimes_iff` compares two orders in which every port has the same confirmations of its
  own: the cycle times are the same, and `iolink_pl_set_cycletime` is called alike exactly when the
  two orders pass over equally many devices of 4 ms in every stretch of them (`passedOver`).
-/

namespace IolHat

/-- A confirmation of `MIN_CYCL`, with the transmission rate of the port when it is handled. -/
structure MinCyclCnf where
  comrate : MhMode
  value : Octet
  deriving DecidableEq, Repr

/-- The cycle time that a confirmation sets. -/
def MinCyclCnf.cycletime (c : MinCyclCnf) : Octet :=
  if c.value < Sm.minCyclTime c.comrate then Sm.minCyclTime c.comrate else c.value

/-- A device of 4 ms, at a rate that allows 8 ms. -/
def MinCyclCnf.FourMs (c : MinCyclCnf) : Prop := c.value = 40 ∧ c.cycletime = 80

instance (c : MinCyclCnf) : Decidable c.FourMs := inferInstanceAs (Decidable (_ ∧ _))

/-- The call of `iolink_pl_set_cycletime` that a call is. -/
def SmCall.setsCycletime : SmCall → Option Octet
  | .plSetCycletime cycbyte => some cycbyte
  | _ => none

namespace Sm

/-- The calls of `iolink_pl_set_cycletime` of the current job. -/
def cycletimeCalls (sm : Sm) : List Octet := sm.calls.filterMap SmCall.setsCycletime

variable (sm : Sm)

theorem cycletimeCalls_callAll (cs : List SmCall) :
    (sm.callAll cs).cycletimeCalls = sm.cycletimeCalls ++ cs.filterMap SmCall.setsCycletime :=
  List.filterMap_append

@[simp]
theorem cycletimeCalls_dlReadReq (addr : Octet) :
    (sm.dlReadReq addr).cycletimeCalls = sm.cycletimeCalls := by
  rw [dlReadReq, cycletimeCalls_callAll, cycletimeCalls_callAll]
  split_ifs <;> simp [SmCall.setsCycletime, cycletimeCalls]

/-- What a port remembers of its cycle time and of that of the others, and what it has called. -/
structure SameCycletime (sm sm' : Sm) : Prop where
  real : sm'.realParamlist.cycletime = sm.realParamlist.cycletime
  older : sm'.olderCycletime = sm.olderCycletime
  calls : sm'.cycletimeCalls = sm.cycletimeCalls

variable {sm}

theorem sameCycletime_dlReadReq (addr : Octet) : SameCycletime sm (sm.dlReadReq addr) :=
  ⟨rfl, rfl, cycletimeCalls_dlReadReq sm addr⟩

theorem sameCycletime_callAll {cs : List SmCall} (h : cs.filterMap SmCall.setsCycletime = []) :
    SameCycletime sm (sm.callAll cs) :=
  ⟨rfl, rfl, by rw [cycletimeCalls_callAll, h, List.append_nil]⟩

/-- The event that ends a restart. -/
theorem sameCycletime_writeDone (h : sm.state = .restartDevice) :
    SameCycletime sm (sm.event .writeDone) := by
  have hrow : sm.row .writeDone = some ⟨.writeDone, .readComParameter, .readcomparameter⟩ := by
    rw [row, h]
    rfl
  rw [event_of_row hrow]
  exact ⟨rfl, rfl, cycletimeCalls_dlReadReq (sm.enter .readComParameter) dirParamaMinCycl⟩

/-- What follows the octet. -/
theorem sameCycletime_afterRead (sm : Sm) :
    SameCycletime sm ((sm.afterRead dirParamaMinCycl).1.event
      (sm.afterRead dirParamaMinCycl).2) := by
  unfold afterRead
  split
  · have hcom : sm.dlReadCnfReadComParam dirParamaMinCycl =
        (sm.dlReadReq (dirParamaMinCycl + 1), .none) := if_pos (by decide)
    rw [hcom, event_none]
    exact sameCycletime_dlReadReq _
  · have hcheck : sm.dlReadCnfCheckComp dirParamaMinCycl =
        (sm.dlReadReq (dirParamaMinCycl + 1), .none) := if_pos (by decide)
    rw [hcheck, event_none]
    exact sameCycletime_dlReadReq _
  · have hcheck : sm.dlReadCnfCheckComp dirParamaMinCycl =
        (sm.dlReadReq (dirParamaMinCycl + 1), .none) := if_pos (by decide)
    rw [hcheck, event_none]
    exact sameCycletime_dlReadReq _
  next hstate => exact sameCycletime_writeDone hstate
  · rw [event_none]
    exact sameCycletime_callAll rfl

/-- **The confirmation of `MIN_CYCL`**, in every state. -/
theorem handle_minCycl (sm : Sm) (value : Octet) :
    SameCycletime (sm.newJob.storeMinCycl value)
      (sm.handle (.dlReadCnf dirParamaMinCycl value .noError)) :=
  sameCycletime_afterRead (sm.newJob.storeMinCycl value)

end Sm

/-! ### The ports -/

/-- System Management of all ports, with the calls of `iolink_pl_set_cycletime` for each. -/
structure CycletimeSys (Port : Type) where
  sm : Port → Sm
  /-- `older_cycletime`. -/
  older : Octet
  calls : Port → List Octet := fun _ => []

/-- What of the ports decides whether the driver is called. -/
structure Clock (Port : Type) where
  cycletime : Port → Octet
  /-- The cycle time that the port which confirmed last had before. -/
  older : Octet

section Ports

variable {Port : Type} [DecidableEq Port]

namespace Clock

/-- A port confirms. -/
def confirm (k : Clock Port) (i : Port × MinCyclCnf) : Clock Port where
  cycletime := Function.update k.cycletime i.1 i.2.cycletime
  older := k.cycletime i.1

theorem confirm_self (k : Clock Port) (i : Port × MinCyclCnf) :
    (k.confirm i).cycletime i.1 = i.2.cycletime := by
  simp [confirm]

theorem confirm_of_ne {k : Clock Port} {i : Port × MinCyclCnf} {p : Port} (h : p ≠ i.1) :
    (k.confirm i).cycletime p = k.cycletime p := Function.update_of_ne h ..

/-- The driver is not called. -/
def PassesOver (k : Clock Port) (i : Port × MinCyclCnf) : Prop :=
  i.2.FourMs ∧ k.cycletime i.1 = k.older

instance (k : Clock Port) (i : Port × MinCyclCnf) : Decidable (k.PassesOver i) :=
  inferInstanceAs (Decidable (_ ∧ _))

/-- The confirmations of a port, in order, and whether each is passed over. -/
def passed (p : Port) : Clock Port → List (Port × MinCyclCnf) → List (MinCyclCnf × Bool)
  | _, [] => []
  | k, i :: is =>
    (if i.1 = p then [(i.2, decide (k.PassesOver i))] else []) ++ passed p (k.confirm i) is

end Clock

/-- The confirmations of a port, in order. -/
def ownConfirmations (p : Port) (is : List (Port × MinCyclCnf)) : List MinCyclCnf :=
  (is.filter fun i => decide (i.1 = p)).map Prod.snd

/-- What the driver is called with. -/
def called (l : List (MinCyclCnf × Bool)) : List Octet :=
  l.flatMap fun (c, passed) => if passed then [] else [c.cycletime]

/-- How many confirmations are passed over in each stretch of those that set 8 ms, `n` having been
passed over in the present one. -/
def passedOver : ℕ → List (MinCyclCnf × Bool) → List ℕ
  | n, [] => [n]
  | n, (c, passed) :: l =>
    if c.cycletime = 80 then passedOver (n + passed.toNat) l else n :: passedOver 0 l

theorem ownConfirmations_cons_self {p : Port} {i : Port × MinCyclCnf} (h : i.1 = p)
    (is : List (Port × MinCyclCnf)) :
    ownConfirmations p (i :: is) = i.2 :: ownConfirmations p is := by
  simp [ownConfirmations, h]

theorem ownConfirmations_cons_of_ne {p : Port} {i : Port × MinCyclCnf} (h : i.1 ≠ p)
    (is : List (Port × MinCyclCnf)) : ownConfirmations p (i :: is) = ownConfirmations p is := by
  simp [ownConfirmations, h]

theorem called_append (l m : List (MinCyclCnf × Bool)) : called (l ++ m) = called l ++ called m :=
  List.flatMap_append

/-- A value that is not repeated in front of it cuts a list. -/
theorem replicate_append_cons_inj {a b : Octet} (hne : b ≠ a) {n m : ℕ} {l k : List Octet} :
    List.replicate n a ++ b :: l = List.replicate m a ++ b :: k ↔ n = m ∧ l = k := by
  induction n generalizing m with
  | zero =>
    cases m with
    | zero => simp
    | succ m => simp [List.replicate_succ, hne]
  | succ n ih =>
    cases m with
    | zero => simp [List.replicate_succ, Ne.symm hne]
    | succ m => simp [List.replicate_succ, ih]

/-- Only confirmations of 4 ms are passed over. -/
def OnlyFourMs (l : List (MinCyclCnf × Bool)) : Prop := ∀ i ∈ l, i.2 = true → i.1.FourMs

/-- One more confirmation that sets 8 ms, in a stretch of `n` of which `a` are passed over. -/
private theorem called_cons_stretch {c : MinCyclCnf} (hc : c.cycletime = 80) (x : Bool)
    (l : List (MinCyclCnf × Bool)) {n a : ℕ} (ha : a ≤ n) :
    List.replicate (n - a) 80 ++ called ((c, x) :: l) =
      List.replicate (n + 1 - (a + x.toNat)) 80 ++ called l := by
  cases x with
  | true =>
    rw [Bool.toNat_true, Nat.add_sub_add_right]
    rfl
  | false =>
    have hn : n + 1 - (a + false.toNat) = n - a + 1 := Nat.succ_sub ha
    have hcalled : called ((c, false) :: l) = 80 :: called l := by rw [← hc]; rfl
    rw [hn, hcalled, List.replicate_succ', List.append_assoc]
    rfl

/-- The calls of a port are the same when equally many confirmations are passed over in every
stretch; `n` is the number of confirmations in the present one. -/
private theorem called_eq_iff_from {lx ly : List (MinCyclCnf × Bool)}
    (h : lx.map Prod.fst = ly.map Prod.fst) (hx : OnlyFourMs lx) (hy : OnlyFourMs ly) {n a b : ℕ}
    (ha : a ≤ n) (hb : b ≤ n) :
    List.replicate (n - a) 80 ++ called lx = List.replicate (n - b) 80 ++ called ly ↔
      passedOver a lx = passedOver b ly := by
  induction lx generalizing ly n a b with
  | nil =>
    obtain rfl := List.map_eq_nil_iff.mp h.symm
    have hnil : called [] = [] := rfl
    rw [hnil, List.append_nil, List.append_nil, passedOver, passedOver, List.cons.injEq,
      and_iff_left rfl]
    constructor
    · intro heq
      have hlen := congrArg List.length heq
      rw [List.length_replicate, List.length_replicate] at hlen
      omega
    · rintro rfl
      rfl
  | cons i lx ih =>
    cases ly with
    | nil => exact absurd h (List.cons_ne_nil _ _)
    | cons j ly =>
      obtain ⟨c, x⟩ := i
      obtain ⟨c', y⟩ := j
      obtain ⟨hc : c = c', hrest⟩ := List.cons_eq_cons.mp h
      subst hc
      have hx' : OnlyFourMs lx := fun k hk => hx k (List.mem_cons_of_mem _ hk)
      have hy' : OnlyFourMs ly := fun k hk => hy k (List.mem_cons_of_mem _ hk)
      rw [passedOver, passedOver]
      split_ifs with h80
      -- the stretch goes on, with one confirmation more
      · rw [called_cons_stretch h80 x lx ha, called_cons_stretch h80 y ly hb]
        exact ih hrest hx' hy' (Nat.add_le_add ha x.toNat_le) (Nat.add_le_add hb y.toNat_le)
      -- another value is set, which is never passed over, and ends the stretch in both lists
      · obtain rfl : x = false := Bool.eq_false_iff.mpr fun hp => h80 (hx _ List.mem_cons_self hp).2
        obtain rfl : y = false := Bool.eq_false_iff.mpr fun hp => h80 (hy _ List.mem_cons_self hp).2
        have hcut := replicate_append_cons_inj h80 (n := n - a) (m := n - b) (l := called lx)
          (k := called ly)
        have hrest := ih (n := 0) hrest hx' hy' (Nat.le_refl 0) (Nat.le_refl 0)
        rw [List.cons.injEq, ← hrest]
        refine hcut.trans (and_congr ?_ Iff.rfl)
        omega

/-- The calls of a port. -/
theorem called_eq_iff {lx ly : List (MinCyclCnf × Bool)} (h : lx.map Prod.fst = ly.map Prod.fst)
    (hx : OnlyFourMs lx) (hy : OnlyFourMs ly) :
    called lx = called ly ↔ passedOver 0 lx = passedOver 0 ly :=
  called_eq_iff_from (n := 0) h hx hy (Nat.le_refl 0) (Nat.le_refl 0)

namespace Clock

theorem map_passed (p : Port) (k : Clock Port) (is : List (Port × MinCyclCnf)) :
    (passed p k is).map Prod.fst = ownConfirmations p is := by
  induction is generalizing k with
  | nil => rfl
  | cons i is ih =>
    rw [passed, List.map_append, ih]
    by_cases hp : i.1 = p
    · rw [if_pos hp, ownConfirmations_cons_self hp]
      rfl
    · rw [if_neg hp, ownConfirmations_cons_of_ne hp]
      rfl

theorem passed_fourMs (p : Port) (k : Clock Port) (is : List (Port × MinCyclCnf)) :
    OnlyFourMs (passed p k is) := by
  induction is generalizing k with
  | nil => exact fun _ h => absurd h List.not_mem_nil
  | cons i is ih =>
    intro j hj hpassed
    rcases List.mem_append.mp hj with hj | hj
    · split_ifs at hj with hp
      · obtain rfl := List.mem_singleton.mp hj
        exact (of_decide_eq_true hpassed).1
      · exact absurd hj List.not_mem_nil
    · exact ih _ j hj hpassed

end Clock

namespace CycletimeSys

/-- A port handles the confirmation of `MIN_CYCL`. -/
def step (s : CycletimeSys Port) (i : Port × MinCyclCnf) : CycletimeSys Port :=
  let sm := (((s.sm i.1).setComrate i.2.comrate).setOlder s.older).handle
    (.dlReadCnf dirParamaMinCycl i.2.value .noError)
  { sm := Function.update s.sm i.1 sm
    older := sm.olderCycletime
    calls := Function.update s.calls i.1 (s.calls i.1 ++ sm.cycletimeCalls) }

/-- The cycle times of the ports. -/
def clock (s : CycletimeSys Port) : Clock Port where
  cycletime p := (s.sm p).realParamlist.cycletime
  older := s.older

/-- **One confirmation** moves the clock. -/
theorem step_clock (s : CycletimeSys Port) (i : Port × MinCyclCnf) :
    (s.step i).clock = s.clock.confirm i := by
  have h := Sm.handle_minCycl (((s.sm i.1).setComrate i.2.comrate).setOlder s.older) i.2.value
  refine congr (congrArg Clock.mk (funext fun p => ?_)) h.older
  show (Function.update s.sm i.1 _ p).realParamlist.cycletime =
    Function.update s.clock.cycletime i.1 i.2.cycletime p
  rcases eq_or_ne p i.1 with rfl | hne
  · rw [Function.update_self, Function.update_self]
    exact h.real
  · rw [Function.update_of_ne hne, Function.update_of_ne hne]
    rfl

/-- **One confirmation** calls the driver unless it is passed over. -/
theorem step_calls (s : CycletimeSys Port) (i : Port × MinCyclCnf) (p : Port) :
    (s.step i).calls p = s.calls p ++
      called (if i.1 = p then [(i.2, decide (s.clock.PassesOver i))] else []) := by
  have h := Sm.handle_minCycl (((s.sm i.1).setComrate i.2.comrate).setOlder s.older) i.2.value
  show Function.update s.calls i.1 _ p = _
  by_cases hp : i.1 = p
  · subst hp
    rw [Function.update_self, h.calls, if_pos rfl]
    refine congrArg (s.calls i.1 ++ ·) ?_
    rw [Sm.storeMinCycl, Sm.cycletimeCalls_callAll]
    by_cases hpass : s.clock.PassesOver i
    · obtain ⟨⟨hvalue, hnew⟩, hold⟩ := hpass
      rw [if_neg]
      · simp [called, Clock.PassesOver, MinCyclCnf.FourMs, hvalue, hnew, hold]
        rfl
      · rintro (hno | hno | hno)
        · exact hno hvalue
        · exact hno hnew
        · exact hno hold
    · rw [if_pos]
      · simp [called, hpass, SmCall.setsCycletime]
        rfl
      · by_contra hno
        simp only [not_or, not_not] at hno
        exact hpass ⟨⟨hno.1, hno.2.1⟩, hno.2.2⟩
  · rw [Function.update_of_ne (Ne.symm hp), if_neg hp]
    exact (List.append_nil _).symm

/-- **A run** calls the driver for the confirmations that are not passed over. -/
theorem run_calls (s : CycletimeSys Port) (is : List (Port × MinCyclCnf)) (p : Port) :
    (Runs.run step s is).calls p = s.calls p ++ called (Clock.passed p s.clock is) := by
  induction is generalizing s with
  | nil => exact (List.append_nil _).symm
  | cons i is ih =>
    rw [Runs.run_cons, ih, step_calls, step_clock, List.append_assoc, ← called_append]
    rfl

/-- **A run** leaves a port with the cycle time of its last confirmation. -/
theorem run_cycletime (s : CycletimeSys Port) (is : List (Port × MinCyclCnf)) (p : Port) :
    (Runs.run step s is).clock.cycletime p =
      (ownConfirmations p is).foldl (fun _ c => c.cycletime) (s.clock.cycletime p) := by
  induction is generalizing s with
  | nil => rfl
  | cons i is ih =>
    rw [Runs.run_cons, ih, step_clock]
    by_cases hp : i.1 = p
    · subst hp
      rw [Clock.confirm_self, ownConfirmations_cons_self rfl]
      rfl
    · rw [Clock.confirm_of_ne (Ne.symm hp), ownConfirmations_cons_of_ne hp]

/-- **The ports are independent** as far as the orders pass over alike. Two orders in which every
port has the same confirmations leave the same cycle times, and make the same calls of the driver
exactly when they pass over equally many confirmations in every stretch. -/
theorem same_cycletimes_iff (s : CycletimeSys Port) {xs ys : List (Port × MinCyclCnf)}
    (h : ∀ p, ownConfirmations p xs = ownConfirmations p ys) :
    (∀ p, ((Runs.run step s xs).sm p).realParamlist.cycletime =
          ((Runs.run step s ys).sm p).realParamlist.cycletime ∧
        (Runs.run step s xs).calls p = (Runs.run step s ys).calls p) ↔
      ∀ p, passedOver 0 (Clock.passed p s.clock xs) = passedOver 0 (Clock.passed p s.clock ys) := by
  refine forall_congr' fun p => ?_
  have hcycletime : ((Runs.run step s xs).sm p).realParamlist.cycletime =
      ((Runs.run step s ys).sm p).realParamlist.cycletime := by
    have hxs := run_cycletime s xs p
    have hys := run_cycletime s ys p
    rw [h p] at hxs
    exact hxs.trans hys.symm
  rw [and_iff_right hcycletime, run_calls, run_calls, List.append_right_inj]
  refine called_eq_iff ?_ (Clock.passed_fourMs p _ _) (Clock.passed_fourMs p _ _)
  rw [Clock.map_passed, Clock.map_passed, h p]

end CycletimeSys

end Ports

namespace CycletimeSys

/-- Two ports with devices of 10 and 12 ms. -/
def differentTimes : List (Bool × MinCyclCnf) := [(false, ⟨.com3, 100⟩), (true, ⟨.com3, 120⟩)]

theorem same_cycletimes_differentTimes :
    (Runs.run step ⟨fun _ : Bool => {}, 0, fun _ => []⟩ differentTimes).calls =
      (Runs.run step ⟨fun _ : Bool => {}, 0, fun _ => []⟩ differentTimes.reverse).calls :=
  funext fun p => ((same_cycletimes_iff ⟨fun _ : Bool => {}, 0, fun _ => []⟩
    (show ∀ p, ownConfirmations p differentTimes =
      ownConfirmations p differentTimes.reverse by decide)).mpr (by decide) p).2

/-- The device of 4 ms is passed over when its port comes first, and not when it comes last. -/
theorem not_same_cycletimes : ¬ ∀ (s : CycletimeSys Bool) (xs ys : List (Bool × MinCyclCnf)),
    (∀ p, ownConfirmations p xs = ownConfirmations p ys) →
      ∀ p, ((Runs.run step s xs).sm p).realParamlist.cycletime =
          ((Runs.run step s ys).sm p).realParamlist.cycletime ∧
        (Runs.run step s xs).calls p = (Runs.run step s ys).calls p := by
  intro hclaim
  have hcalls := (hclaim ⟨fun _ => {}, 0, fun _ => []⟩
    [(false, ⟨.com3, 40⟩), (true, ⟨.com3, 100⟩), (true, ⟨.com3, 100⟩)]
    [(true, ⟨.com3, 100⟩), (true, ⟨.com3, 100⟩), (false, ⟨.com3, 40⟩)] (by decide) false).2
  exact absurd hcalls (by decide)

end CycletimeSys

end IolHat

import IolHat.ApplicationLayer.Machine
import IolHat.OnRequestData.Machine
import IolHat.ConfigurationManager.Agreement
import IolHat.DataStorage.Machine
import IolHat.Lib.Loop

/-!
# The driver loops end

Five machines of a port have a driver of the same form, a `do … while` loop in which each action may
hand back a follow-up event: `iolink_al_od_event`, `iolink_ode_event`, `iolink_cm_event`,
`iolink_sm_event` and `iolink_ds_event`.

Each table is closed: a follow-up event always has a row in the state it is raised in. Hence the
loops end, after two rounds at most in the application layer, the on-request data layer and the
Configuration Manager, one in System Management, and four in Data Storage (`event_loops_settle`).
-/

namespace IolHat

open Fsm (lookup)

/-! ### The application layer -/

namespace Al

variable {κ : Type}

/-- The one row in which a service is built. -/
private theorem build_next (s : AlOdState) : ∀ t ∈ transitions s, t.action = .odBuildDlService →
    t.next = .buildDlService := by
  cases s <;> decide

/-- A service that has been built has a row, with or without a request. -/
theorem row_odBuildDlService (al : Al κ) :
    ∃ t, lookup (transitions .buildDlService) al.odBuildDlService.2 = some t := by
  rw [odBuildDlService]
  split
  · exact ⟨_, rfl⟩
  next r _ =>
    obtain ⟨t, hrow, -⟩ := build_row r
    exact ⟨t, hrow⟩

theorem closed : (fsm : Fsm.Machine (Al κ) AlOdState AlOdEvent Action).Closed := by
  refine Fsm.Machine.closed_of_steady perform_state fun al t hmem hnext => ?_
  have hbuild : t.action = .odBuildDlService := by
    by_contra ha
    exact hnext (perform_event ha _ t.event)
  have hround : (fsm.round t al t.event).2 = (al.enter t.next).odBuildDlService.2 := by
    change (perform t.action (al.enter t.next) t.event).2 = _
    rw [hbuild]
    rfl
  rw [hround]
  change ∃ t', lookup (transitions t.next) _ = some t'
  rw [build_next _ t hmem hbuild]
  exact row_odBuildDlService _

end Al

/-! ### The on-request data layer -/

namespace Ode

/-- A service is passed on in `ODactive`. -/
private theorem rw_next (s : OdeState) : ∀ t ∈ transitions s, t.action = .smiRw →
    t.next = .odActive := by
  cases s <;> decide

/-- Every other action ends the loop. -/
private theorem perform_event {a : Action} (ha : a ≠ .smiRw) (ode : Ode) (e : OdeEvent) :
    (perform a ode e).2 = .none := by
  cases a
  case smiRw => exact absurd rfl ha
  all_goals rfl

theorem closed : fsm.Closed := by
  refine Fsm.Machine.closed_of_steady perform_state fun ode t hmem hnext => ?_
  have hrw : t.action = .smiRw := by
    by_contra ha
    exact hnext (perform_event ha _ t.event)
  have hround : (fsm.round t ode t.event).2 = (ode.enter t.next).smiRw.2 := by
    change (perform t.action (ode.enter t.next) t.event).2 = _
    rw [hrw]
    rfl
  rw [hround] at hnext ⊢
  change ∃ t', lookup (transitions t.next) _ = some t'
  rw [(smiRw_event _).resolve_right hnext, rw_next _ t hmem hrw]
  exact ⟨_, rfl⟩

end Ode

/-! ### The Configuration Manager -/

namespace Cm

/-- The state in which an action with a follow-up event is performed. -/
private theorem followUp_next (s : CmState) : ∀ t ∈ transitions s,
    (t.action = .checkMode ∨ t.action = .comlost → t.next = .checkPortMode) ∧
      (t.action = .portFault → t.next = .portFault) := by
  cases s <;> decide

/-- The events of a configuration have rows in `CheckPortMode`. -/
private theorem row_config (cfg : PortConfigList) :
    ∃ t, lookup (transitions .checkPortMode) cfg.event = some t := by
  have hall : ∀ e ∈ [CmEvent.iolManual, .iolAutostart, .diCq, .doCq, .deactivated, .unknown],
      (lookup (transitions .checkPortMode) e).isSome := by decide
  exact Option.isSome_iff_exists.mp (hall _ (PortConfigList.event_mem cfg))

private theorem row_checkMode {cm : Cm} {e : CmEvent} (hnext : (cm.checkMode e).2 ≠ .none) :
    ∃ t, lookup (transitions .checkPortMode) (cm.checkMode e).2 = some t := by
  rw [checkMode] at hnext ⊢
  split_ifs at hnext ⊢
  · exact row_config _
  · exact absurd rfl hnext

/-- The follow-up event of an action has a row in the state of the action's row. -/
private theorem row_perform (a : Action) {cm : Cm} {e : CmEvent}
    (hnext : (perform a cm e).2 ≠ .none) :
    (a = .checkMode ∨ a = .comlost) ∧
        (∃ t, lookup (transitions .checkPortMode) (perform a cm e).2 = some t) ∨
      a = .portFault ∧ ∃ t, lookup (transitions .portFault) (perform a cm e).2 = some t := by
  cases a with
  | checkMode => exact .inl ⟨.inl rfl, row_checkMode hnext⟩
  | comlost => exact .inl ⟨.inr rfl, row_checkMode hnext⟩
  | portFault =>
    refine .inr ⟨rfl, ?_⟩
    cases e with
    | dsFault =>
      simp only [perform, portFault] at hnext ⊢
      split_ifs at hnext ⊢
      · exact ⟨_, rfl⟩
      · exact absurd rfl hnext
    | _ => exact absurd rfl hnext
  | _ => exact absurd rfl hnext

theorem closed : fsm.Closed := by
  refine Fsm.Machine.closed_of_steady perform_state fun cm t hmem hnext => ?_
  obtain ⟨hcheck, hfault⟩ := followUp_next _ t hmem
  change ∃ t', lookup (transitions t.next) _ = some t'
  obtain ⟨ha, hrow⟩ | ⟨ha, hrow⟩ := row_perform t.action hnext
  · rw [hcheck ha]
    exact hrow
  · rw [hfault ha]
    exact hrow

end Cm

/-! ### System Management and Data Storage -/

/-- No action of System Management has a follow-up event. -/
theorem Sm.closed : Sm.fsm.Closed := fun _ _ _ _ hnext => absurd rfl hnext

namespace Ds

private theorem followUps_rows (s : DsState) : ∀ t ∈ transitions s,
    ∀ e ∈ followUps t.action t.event, e ≠ .none → (lookup (transitions t.next) e).isSome := by
  cases s <;> decide

theorem closed : fsm.Closed := by
  refine Fsm.Machine.closed_of_steady perform_state fun ds t hmem hnext => ?_
  have hfollow := perform_followUp t.action (ds.enter t.next) t.event
  exact Option.isSome_iff_exists.mp (followUps_rows _ t hmem _ hfollow hnext)

end Ds

/-! ### The machines of a port -/

/-- The machines of a port that have such a driver. -/
structure PortMachines (κ : Type) where
  al : Al κ := {}
  ode : Ode := {}
  cm : Cm := {}
  sm : Sm := {}
  ds : Ds := {}

/-- An event of one of the machines. -/
inductive PortEvent
  | al (e : AlOdEvent)
  | ode (e : OdeEvent)
  | cm (e : CmEvent)
  | sm (e : SmEvent)
  | ds (e : DsEvent)
  deriving DecidableEq

namespace PortMachines

variable {κ : Type}

/-- What the loop of an event should do, within the rounds that the event's machine may take. -/
def Settles (p : PortMachines κ) : PortEvent → Prop
  | .al e => Al.fsm.Settles 2 p.al e
  | .ode e => Ode.fsm.Settles 2 p.ode e
  | .cm e => Cm.fsm.Settles 2 p.cm e
  | .sm e => Sm.fsm.Settles 1 p.sm e
  | .ds e => Ds.fsm.Settles 4 p.ds e

private theorem rank_al (s : AlOdState) (e : AlOdEvent) : Al.eventRank s e < 2 := by
  cases e <;> cases s <;> decide

private theorem rank_ode (s : OdeState) (e : OdeEvent) : Ode.eventRank s e < 2 := by
  cases e <;> cases s <;> decide

private theorem rank_cm (s : CmState) (e : CmEvent) : Cm.eventRank s e < 2 := by
  cases e <;> cases s <;> decide

private theorem rank_ds (s : DsState) (e : DsEvent) : Ds.eventRank s e < 4 := by
  cases e <;> cases s <;> decide

/-- **The driver loops end**, for every state of the port and every event: no follow-up event is
dropped, none leads back to a row that has been taken in the same state, and the machine is left in
the state of the last row. -/
theorem event_loops_settle (p : PortMachines κ) (e : PortEvent) : p.Settles e := by
  cases e with
  | al e => exact Fsm.Machine.settles Al.closed Al.perform_state (rank_al p.al.odState e)
  | ode e => exact Fsm.Machine.settles Ode.closed Ode.perform_state (rank_ode p.ode.state e)
  | cm e => exact Fsm.Machine.settles Cm.closed Cm.perform_state (rank_cm p.cm.state e)
  | sm e =>
    refine Fsm.Machine.settles Sm.closed (fun a sm e => ?_) Nat.zero_lt_one
    exact (Sm.perform_frame a sm e).1
  | ds e => exact Fsm.Machine.settles Ds.closed Ds.perform_state (rank_ds p.ds.state e)

end PortMachines

end IolHat

import IolHat.DataLink.ThreadFootprint

/-!
# The flags of replies and errors

The thread sets a flag, calls the message handler and takes the flag back. The handler sets none
itself (`NoNewFlag.messageHSm`), so that all of them are clear between two inputs
(`Clear.threadClosed`).
-/

namespace IolHat

namespace Dl

/-! ### The message handler -/

namespace NoNewFlag

theorem messageClosed (dl₀ : Dl) : MessageClosed dl₀.NoNewFlag where
  odHSm h := h.of_vars (OnRequestCalls.refl _).odHSm.vars
  pdHSm {dl} h := h.of_vars (PdClosed.pdHSm (P := fun d => d.vars = dl.vars)
    ⟨fun _ h => h, fun h => h, fun _ _ h => h, fun _ _ h => h, fun _ _ h => h,
      fun _ _ _ _ _ h => (odReq_vars ..).trans h⟩ rfl)
  setMseqChange h := by
    refine h.of_vars ?_
    unfold Dl.setMseqChange
    dsimp only
    split_ifs <;> rfl
  writeMasterCommand errorinfo h :=
    h.of_vars ((OnRequestCalls.refl _).writeMasterCommand errorinfo).vars
  message _ _ h := h.of_vars rfl
  interleave _ _ h := h.of_vars rfl
  odTrigger _ h := h.of_vars rfl
  pdTrigger _ h := h.of_vars rfl
  eventFlag _ h := h.of_vars rfl
  mhinfo _ h := h.of_vars rfl
  vars _ hf h := h.trans hf
  objects _ h := h.of_vars rfl
  emit _ h := h.of_vars rfl
  access _ _ h := h.of_vars rfl

/-- **The message handler** sets no flag. -/
theorem messageHSm (dl : Dl) : dl.NoNewFlag dl.messageHSm :=
  (messageClosed dl).messageHSm (.refl dl)

end NoNewFlag

/-! ### The flags between two inputs -/

/-- No reply and no error is reported. -/
structure Clear (dl : Dl) : Prop where
  dataready : dl.vars.dataready = false
  error : dl.errorReported = false

namespace Clear

variable {dl dl' : Dl}

theorem of_noNewFlag (h : dl.Clear) (hno : dl.NoNewFlag dl') : dl'.Clear where
  dataready := by
    by_contra hready
    rw [Bool.not_eq_false] at hready
    exact Bool.noConfusion (h.dataready.symm.trans (hno.dataready hready))
  error := by
    by_contra herror
    rw [Bool.not_eq_false] at herror
    exact Bool.noConfusion (h.error.symm.trans (hno.error herror))

theorem quiet (hquiet : dl.Quiet dl') (h : dl.Clear) : dl'.Clear := by
  have hready : dl'.vars.dataready = dl.vars.dataready := congrArg Prod.fst hquiet.flags
  have herror : dl'.errorReported = dl.errorReported :=
    congrArg (fun f : Bool × Bool × Bool × Bool => f.2.1 || f.2.2.1 || f.2.2.2) hquiet.flags
  exact ⟨hready.trans h.dataready, herror.trans h.error⟩

theorem rxrdy (h : dl.Clear) (octets : List Octet) : (dl.rxrdy octets).Clear := by
  rw [rxrdy_eq]
  generalize dl.replyOf (.dl (.rxrdy octets)) = os
  split_ifs
  · exact h
  · refine ⟨rfl, Bool.eq_false_iff.mpr fun herror => ?_⟩
    have hbefore := (NoNewFlag.messageHSm (dl.takeReply os)).error herror
    exact Bool.noConfusion (h.error.symm.trans hbefore)

theorem handleError (h : dl.Clear) : dl.handleError.Clear := by
  obtain ⟨v, hv, hready, -⟩ := dl.readErrors_frame
  rw [handleError_eq, hv]
  split_ifs with herror
  · refine ⟨Bool.eq_false_iff.mpr fun hset => ?_, rfl⟩
    have hbefore : v.dataready = true := (NoNewFlag.messageHSm _).dataready hset
    exact Bool.noConfusion ((hready.trans h.dataready).symm.trans hbefore)
  · exact ⟨hready.trans h.dataready, Bool.eq_false_iff.mpr herror⟩

theorem threadClosed : ThreadClosed Clear where
  quiet := quiet
  messageHSm h := h.of_noNewFlag (.messageHSm _)
  rxrdy octets h := h.rxrdy octets
  handleError h := h.handleError
  inactive0 h := ⟨h.dataready, h.error⟩
  awReply1 h := ⟨h.dataready, h.error⟩
  reset _ := ⟨rfl, rfl⟩

end Clear

end Dl

end IolHat

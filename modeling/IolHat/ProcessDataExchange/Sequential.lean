import IolHat.ProcessDataExchange.Requests
import IolHat.Lib.Run

/-!
# A request without interruption

The steps of `SMI_PDOut`, when nothing comes between them, are the function of the source: the layer
afterwards, what the application is told and the error that is returned are those of
`Pde.smiPdOutReq` (`ends_pdOut`).
-/

namespace IolHat

namespace PdExchange

variable {s : PdExchange}

/-- The answers that the application has got. -/
def told (s : PdExchange) : List ExchangeAnswer := s.log.filterMap ExchangeEntry.answerOf

theorem told_record_of_none {e : ExchangeEntry} (he : e.answerOf = none) :
    (s.record e).told = s.told := by
  rw [told, record_log, List.filterMap_append, List.filterMap_cons_none he, List.filterMap_nil,
    List.append_nil]
  rfl

theorem told_answered (thread : ℕ) (r : ExchangeRequest) (a : ExchangeAnswer) :
    (s.record (.answered thread r a)).told = s.told ++ [a] :=
  List.filterMap_append

theorem step_go {thread : ℕ} {r : ExchangeRequest} {pc : RequestPc} (h : s.asserted = false)
    (hpending : s.pending thread = some (r, pc)) (di : Bool) :
    s.step (.go thread di) = s.perform thread r pc di := by
  rw [step, if_neg (by rw [h]; nofun)]
  show s.go thread di = _
  rw [go, hpending]

@[simp]
theorem perform_asserted (thread : ℕ) (r : ExchangeRequest) (pc : RequestPc) (di : Bool) :
    (s.perform thread r pc di).asserted = s.asserted := by
  cases pc <;> rfl

/-- After `n` steps of its own a request has returned: with the layer, what the application has been
told until then, and the last entry of the log. -/
structure Ends (s : PdExchange) (thread : ℕ) (di : Bool) (n : ℕ) (p : Pde)
    (told : List ExchangeAnswer) (last : ExchangeEntry) : Prop where
  pde : (Runs.run step s (List.replicate n (.go thread di))).pde = p
  told : (Runs.run step s (List.replicate n (.go thread di))).told = told
  last : (Runs.run step s (List.replicate n (.go thread di))).log.getLast? = some last

variable {thread n : ℕ} {r : ExchangeRequest} {pc : RequestPc} {di : Bool} {p : Pde}
  {as : List ExchangeAnswer} {last : ExchangeEntry}

/-- One step. -/
theorem Ends.of_perform (hpending : s.pending thread = some (r, pc)) (h : s.asserted = false)
    (hend : (s.perform thread r pc di).Ends thread di n p as last) :
    s.Ends thread di (n + 1) p as last := by
  have hrun : Runs.run step s (List.replicate (n + 1) (.go thread di)) =
      Runs.run step (s.perform thread r pc di) (List.replicate n (.go thread di)) := by
    rw [List.replicate_succ, Runs.run_cons, step_go h hpending]
  exact ⟨hrun ▸ hend.pde, hrun ▸ hend.told, hrun ▸ hend.last⟩

/-- Without a request nothing happens. -/
theorem run_idle (hpending : s.pending thread = none) (di : Bool) (n : ℕ) :
    Runs.run step s (List.replicate n (.go thread di)) = s := by
  induction n with
  | zero => rfl
  | succ n ih =>
    have hgo : s.step (.go thread di) = s := by
      rw [step]
      split_ifs
      · rfl
      · show s.go thread di = s
        rw [go, hpending]
    rw [List.replicate_succ, Runs.run_cons, hgo, ih]

/-- An answer, and the return of the function. -/
theorem ends_answer {a : ExchangeAnswer} {error : IolinkError}
    (hpending : s.pending thread = some (r, .answer a error)) (h : s.asserted = false) (n : ℕ) :
    s.Ends thread di (n + 2) s.pde (s.told ++ [a]) (.returned thread r error) := by
  refine .of_perform hpending h (.of_perform (Function.update_self ..) h ?_)
  have hdone : ((s.perform thread r (.answer a error) di).perform thread r (.return_ error)
      di).pending thread = none := Function.update_self ..
  have hidle := run_idle hdone di n
  refine ⟨by rw [hidle]; rfl, ?_, ?_⟩
  · rw [hidle]
    exact (told_record_of_none rfl).trans (told_answered ..)
  · rw [hidle]
    exact List.getLast?_concat

/-- `AL_Control_req` never refuses what `SMI_PDOut` asks for. -/
theorem alControlReq_outputEnable (p : Pde) (b : Bool) :
    p.alControlReq (if b then .pdoutvalid else .pdoutinvalid) =
      (.none, (p.alControlReq (if b then .pdoutvalid else .pdoutinvalid)).2) := by
  cases b <;> rfl

/-- The layer with the output of a request. -/
def withOutput (p : Pde) (argBlock : ArgBlockPdout) : Pde :=
  let p := p.setDl (p.dl.pdOutputCopy argBlock.data.cells)
  if p.outputEnable ≠ argBlock.outputEnable then
    let p := (p.alControlReq (if argBlock.outputEnable then .pdoutvalid else .pdoutinvalid)).2
    p.setOutputEnable argBlock.outputEnable
  else p

theorem withOutput_answers (p : Pde) (argBlock : ArgBlockPdout) :
    (withOutput p argBlock).answers = p.answers := by
  rw [withOutput]
  by_cases hen : (p.setDl (p.dl.pdOutputCopy argBlock.data.cells)).outputEnable ≠
      argBlock.outputEnable
  · rw [if_pos hen]
    rfl
  · rw [if_neg hen]
    rfl

theorem updateOutput_eq (p : Pde) (exp : ArgBlockId) (argBlock : ArgBlockPdout) :
    p.updateOutput exp argBlock =
      if p.dl.pdHandler.state = .inactive0 then
        (.conditionsNotCorrect, p.answer (.joberror exp argBlock.id SmiErrorType.devNotAccessible))
      else (.none, withOutput p argBlock) := by
  unfold Pde.updateOutput Pde.alSetOutputReq withOutput
  rw [Dl.pdOutputUpdateReq_eq, ← ArgBlockPdout.outputEnable]
  by_cases hs : p.dl.pdHandler.state = .inactive0
  · rw [if_pos hs, if_pos hs]
    rfl
  rw [if_neg hs, if_neg hs]
  dsimp only
  rw [if_neg (not_not.mpr rfl)]
  by_cases hen : (p.setDl (p.dl.pdOutputCopy argBlock.data.cells)).outputEnable ≠
      argBlock.outputEnable
  · rw [if_pos hen, if_pos hen, alControlReq_outputEnable, if_neg (not_not.mpr rfl)]
  · rw [if_neg hen, if_neg hen]

/-- The five ends of `pde_SMI_PDOut_req`. -/
theorem smiPdOutReq_eq (p : Pde) (exp : ArgBlockId) (n : ℕ) (argBlock : ArgBlockPdout) :
    let r : ExchangeRequest := .pdOut exp n argBlock
    p.smiPdOutReq exp n argBlock =
      if r.blockError ≠ SmiErrorType.none then
        (.parameterConflict, p.answer (.joberror exp argBlock.id r.blockError))
      else if p.NotInOperate then
        (.stateInvalid, p.answer (.joberror exp argBlock.id SmiErrorType.devNotInOperate))
      else if p.portStatusInfo = .do_ then
        (.none, (p.writeDo argBlock.writeVal).answer (.voidblock argBlock.id))
      else if p.dl.pdHandler.state = .inactive0 then
        (.conditionsNotCorrect, p.answer (.joberror exp argBlock.id SmiErrorType.devNotAccessible))
      else (.none, (withOutput p argBlock).answer (.voidblock argBlock.id)) := by
  intro r
  have hcheck : p.checkSmiReq exp argBlock.id n ArgBlockId.voidBlock ArgBlockId.pdOut
      (sizeofArgBlockPdoutHead + 1) sizeofArgBlockPdout =
        if r.blockError ≠ SmiErrorType.none then
          (.parameterConflict, p.answer (.joberror exp argBlock.id r.blockError))
        else if p.NotInOperate then
          (.stateInvalid, p.answer (.joberror exp argBlock.id SmiErrorType.devNotInOperate))
        else (.none, p) := rfl
  unfold Pde.smiPdOutReq
  rw [hcheck]
  by_cases hblock : r.blockError = SmiErrorType.none
  swap
  · rw [if_pos hblock, if_pos hblock]
    rfl
  rw [if_neg (not_not.mpr hblock), if_neg (not_not.mpr hblock)]
  by_cases hno : p.NotInOperate
  · rw [if_pos hno, if_pos hno]
    rfl
  rw [if_neg hno, if_neg hno]
  dsimp only
  rw [if_neg (not_not.mpr rfl)]
  by_cases hdo : p.portStatusInfo = .do_
  · rw [if_pos hdo, if_pos hdo]
    rfl
  rw [if_neg hdo, if_neg hdo, updateOutput_eq]
  by_cases hs : p.dl.pdHandler.state = .inactive0
  · rw [if_pos hs, if_pos hs]
    rfl
  · rw [if_neg hs, if_neg hs]
    rfl

theorem goto_goto (s : PdExchange) (thread : ℕ) (r : ExchangeRequest) (pc pc' : RequestPc) :
    (s.goto thread r pc).goto thread r pc' = s.goto thread r pc' := by
  simp only [goto, Function.update_idem]

theorem goto_setPde_goto (s : PdExchange) (thread : ℕ) (r : ExchangeRequest) (pc pc' : RequestPc)
    (p : Pde) : ((s.goto thread r pc).setPde p).goto thread r pc' =
      (s.setPde p).goto thread r pc' := by
  simp only [goto, setPde, Function.update_idem]

/-- What else changes does not matter for where a request is. -/
theorem goto_record_goto (s : PdExchange) (thread : ℕ) (r : ExchangeRequest) (pc pc' : RequestPc)
    (p : Pde) (e : ExchangeEntry) :
    (((s.goto thread r pc).setPde p).record e).goto thread r pc' =
      ((s.setPde p).record e).goto thread r pc' := by
  simp only [goto, setPde, record, Function.update_idem]

/-- A request that goes on. -/
theorem Ends.of_goto {s' : PdExchange} {pc' : RequestPc} (h : s.asserted = false)
    (hstep : (s.goto thread r pc).perform thread r pc di = s'.goto thread r pc')
    (hend : (s'.goto thread r pc').Ends thread di n p as last) :
    (s.goto thread r pc).Ends thread di (n + 1) p as last := by
  have hpending : (s.goto thread r pc).pending thread = some (r, pc) := Function.update_self ..
  exact .of_perform hpending h (hstep ▸ hend)

/-- A request that is answered. -/
theorem ends_goto {a : ExchangeAnswer} {error : IolinkError} (h : s.asserted = false)
    (htold : s.told = as) (n : ℕ) :
    (s.goto thread r (.answer a error)).Ends thread di (n + 2) s.pde (as ++ [a])
      (.returned thread r error) := by
  subst htold
  have hpending : (s.goto thread r (.answer a error)).pending thread = some (r, .answer a error) :=
    Function.update_self ..
  exact ends_answer hpending h n

/-- **A request that nothing comes between** is the function of the source: `pde_SMI_PDOut_req`. -/
theorem ends_pdOut (hpending : s.pending thread = none) (h : s.asserted = false)
    (hanswers : s.pde.answers = []) (exp : ArgBlockId) (n : ℕ) (argBlock : ArgBlockPdout) :
    let result := s.pde.smiPdOutReq exp n argBlock
    (s.call thread (.pdOut exp n argBlock)).Ends thread di 10 { result.2 with answers := [] }
      (s.told ++ result.2.answers.map .smi)
      (.returned thread (.pdOut exp n argBlock) result.1) := by
  let r : ExchangeRequest := .pdOut exp n argBlock
  let s' := s.record (.called thread r)
  have htold : s'.told = s.told := told_record_of_none rfl
  have hplain (p : Pde) (hp : p.answers = []) (a : SmiAnswer) :
      { p.answer a with answers := [] } = p ∧ (p.answer a).answers = [a] :=
    ⟨by rw [← hp]; rfl, by rw [Pde.answer_answers, hp]; rfl⟩
  have hcall : s.call thread r = s'.goto thread r (if r.blockError ≠ SmiErrorType.none then
      .answer (.smi (.joberror r.exp r.ref r.blockError)) .parameterConflict
      else .checkStatus) := by
    rw [call, hpending]
  intro result
  rw [hcall]
  have hresult : result = _ := smiPdOutReq_eq s.pde exp n argBlock
  -- The cases are those of the function, in its order; each ends the request with an answer.
  by_cases hblock : r.blockError = SmiErrorType.none
  swap
  · rw [if_pos hblock] at hresult ⊢
    rw [hresult, (hplain _ hanswers _).1, (hplain _ hanswers _).2]
    exact ends_goto (s := s') h htold 8
  rw [if_neg (not_not.mpr hblock)] at hresult ⊢
  refine .of_goto h (goto_goto s' ..) (.of_goto h (goto_goto s' ..) ?_)
  by_cases hno : s.pde.NotInOperate
  · rw [if_pos hno] at hresult
    rw [if_pos (by exact hno)]
    rw [hresult, (hplain _ hanswers _).1, (hplain _ hanswers _).2]
    exact ends_goto (s := s') h htold 6
  rw [if_neg hno] at hresult
  rw [if_neg (by exact hno)]
  refine .of_goto h (goto_goto s' ..) ?_
  show (s'.goto thread r (if s.pde.portStatusInfo = .do_ then .writeDo argBlock
    else .setOutput argBlock)).Ends ..
  by_cases hdo : s.pde.portStatusInfo = .do_
  · rw [if_pos hdo] at hresult ⊢
    have hp := hplain (s.pde.writeDo argBlock.writeVal) hanswers
    rw [hresult, (hp _).1, (hp _).2]
    let written := (s'.setPde (s.pde.writeDo argBlock.writeVal)).record
      (.written thread argBlock.writeVal)
    have htold' : written.told = s.told := (told_record_of_none rfl).trans htold
    exact .of_goto h (goto_record_goto s' ..) (ends_goto (s := written) h htold' 4)
  rw [if_neg hdo] at hresult ⊢
  refine .of_goto h (goto_goto s' ..) ?_
  by_cases hs : s.pde.dl.pdHandler.state = .inactive0
  · rw [if_pos hs] at hresult
    rw [if_pos (by exact hs), hresult, (hplain _ hanswers _).1, (hplain _ hanswers _).2]
    exact ends_goto (s := s') h htold 4
  rw [if_neg hs] at hresult
  have hanswers' : (withOutput s.pde argBlock).answers = [] := by
    rw [← hanswers]
    exact withOutput_answers ..
  rw [if_neg (by exact hs), hresult, (hplain _ hanswers' _).1, (hplain _ hanswers' _).2]
  let copied := (s'.setPde (s.pde.setDl (s.pde.dl.pdOutputCopy argBlock.data.cells))).record
    (.updated thread argBlock.data.cells s.pde.dl.pdHandler.pdTxlen)
  have htold' : copied.told = s.told := (told_record_of_none rfl).trans htold
  refine .of_goto h (goto_record_goto s' ..) (.of_goto h (goto_goto copied ..) ?_)
  -- The octets are in the data link layer. What is left is the output enable.
  rw [withOutput]
  by_cases hen : copied.pde.outputEnable ≠ argBlock.outputEnable
  · rw [if_pos (by exact hen), if_pos (by exact hen)]
    let told := copied.setPde (copied.pde.alControlReq
      (if argBlock.outputEnable then .pdoutvalid else .pdoutinvalid)).2
    let enabled := (told.setPde (told.pde.setOutputEnable argBlock.outputEnable)).record
      (.enabled thread argBlock.outputEnable)
    have htold'' : enabled.told = s.told := (told_record_of_none rfl).trans htold'
    have hstep :
        (copied.goto thread r (.control argBlock)).perform thread r (.control argBlock) di =
          told.goto thread r (.writeEnable argBlock) := by
      rw [perform, alControlReq_outputEnable]
      exact goto_setPde_goto copied ..
    exact .of_goto h hstep
      (.of_goto h (goto_record_goto told ..) (ends_goto (s := enabled) h htold'' 0))
  · rw [if_neg (by exact hen), if_neg (by exact hen)]
    exact ends_goto (s := copied) h htold' 2

end PdExchange

end IolHat

import IolHat.ProcessDataExchange.Requests
import IolHat.Lib.Ledger

/-!
# The process image of a port

`ProcessImage` is what the application should see of a port, as a function of what has happened.
Between the request of a thread and its answer, everything can change; what the answer is made of
has been read at several moments, one after the other (`Sees`).

* `ExchangeAnswer.Shown` is what an answer may be, after what a thread has seen of the image.
* `RequestPc.Since` is what it has seen so far, `OnItsWay` the invariant of a request.
* `PdExchange.exchange_shows_image`: in every run the port is what its image shows, the answers are
  shown by it, and each request returns, with one answer. `SMI_PDInOut` on a port with a digital
  input returns without one.
-/

namespace IolHat

open Octets

/-! ### The image -/

/-- What an application should see of a port. -/
structure ProcessImage where
  /-- Process data are exchanged. -/
  active : Bool := false
  status : PortStatusInfo := .deactivated
  quality : Octet := 0
  input : List Octet := []
  output : Buffer Octet pdMaxSize := .fill 0
  /-- How many octets of the output have been set last. -/
  outputLength : ℕ := 0
  enabled : Bool := false
  /-- The digital output that has been written last. -/
  digital : Option Bool := none

namespace ProcessImage

/-- What an event does to the image. -/
def step (i : ProcessImage) : ExchangeEntry → ProcessImage
  | .indicated data => { i with input := data }
  | .control code => { i with quality := (alControlInd i.quality code).getD i.quality }
  | .portStatus status => { i with status := status }
  | .portQuality quality => { i with quality := quality }
  | .activated => { i with active := true }
  | .disabled => { i with enabled := false }
  | .deactivated => { i with active := false }
  | .written _ b => { i with digital := some b }
  | .updated _ data length =>
    let output := i.output.write 0 (data.take length)
    { i with
      output := if length % 2 = 1 then output.write length [0] else output
      outputLength := length }
  | .enabled _ oe => { i with enabled := oe }
  | .reset => { i with output := .fill 0 }
  | .called _ _ | .answered _ _ _ | .returned _ _ _ => i

/-- The image after some events. -/
def after (log : List ExchangeEntry) : ProcessImage := log.foldl step {}

@[simp] theorem after_nil : after [] = {} := rfl

@[simp]
theorem after_append (l : List ExchangeEntry) (e : ExchangeEntry) :
    after (l ++ [e]) = (after l).step e := by
  rw [after, List.foldl_append]
  rfl

/-- Process data or digital signals can be read and written. -/
def Accessible (i : ProcessImage) : Prop := i.active = true ∨ i.status = .di ∨ i.status = .do_

/-- The output is the one of an arg block, as far as the device takes it. -/
def Holds (argBlock : ArgBlockPdout) (i : ProcessImage) : Prop :=
  i.output.slice 0 i.outputLength = argBlock.data.slice 0 i.outputLength

end ProcessImage

/-- While the entries `mid` are made behind `l`, the image passes through these conditions, one
after the other. -/
abbrev Sees (l : List ExchangeEntry) (Cs : List (ProcessImage → Prop))
    (mid : List ExchangeEntry) : Prop :=
  Log.Passes ProcessImage.after l Cs mid

/-- One more condition, of the image that is there now. -/
theorem Sees.now {l mid : List ExchangeEntry} {Cs : List (ProcessImage → Prop)} (h : Sees l Cs mid)
    (C : ProcessImage → Prop) (hC : C (ProcessImage.after (l ++ mid))) : Sees l (Cs ++ [C]) mid :=
  h.concat hC

/-! ### Entries of a thread -/

namespace ExchangeEntry

/-- The entry is a request of a thread. -/
def isCalled (thread : ℕ) : ExchangeEntry → Bool
  | .called t _ => t = thread
  | _ => false

/-- The entry is the return of a request of a thread. -/
def isReturned (thread : ℕ) : ExchangeEntry → Bool
  | .returned t _ _ => t = thread
  | _ => false

/-- The entry is an output of a thread. -/
def isUpdated (thread : ℕ) : ExchangeEntry → Bool
  | .updated t _ _ => t = thread
  | _ => false

/-- The answer to a thread, if the entry is one. -/
def answerTo (thread : ℕ) : ExchangeEntry → Option ExchangeAnswer
  | .answered t _ a => if t = thread then some a else none
  | _ => none

end ExchangeEntry

/-- Neither a request of a thread nor the return of one. -/
def Quiet (thread : ℕ) (mid : List ExchangeEntry) : Prop :=
  ∀ e ∈ mid, e.isCalled thread = false ∧ e.isReturned thread = false

/-- What a thread is told. -/
def answersTo (thread : ℕ) (mid : List ExchangeEntry) : List ExchangeAnswer :=
  mid.filterMap (ExchangeEntry.answerTo thread)

/-- A thread does not change the output. -/
def Unchanged (thread : ℕ) (mid : List ExchangeEntry) : Prop :=
  ∀ e ∈ mid, e.isUpdated thread = false

/-! ### Answers -/

/-- The answer to a request of a thread that is shown by what the thread can have seen while `mid`
was added to the log `l`. -/
inductive ExchangeAnswer.Shown (l mid : List ExchangeEntry) (thread : ℕ) :
    ExchangeRequest → ExchangeAnswer → Prop
  /-- There are no process data. -/
  | inactive {r : ExchangeRequest}
      (h : Sees l [fun i => i.status ≠ .di ∧ i.status ≠ .do_, fun i => i.active = false] mid) :
      Shown l mid thread r (.smi (.joberror r.exp r.ref SmiErrorType.devNotInOperate))
  /-- The input is a digital signal. -/
  | digitalIn {exp ref : ArgBlockId} {n : ℕ} (di : Bool)
      (h : Sees l [ProcessImage.Accessible, fun i => i.status = .di] mid) :
      Shown l mid thread (.pdIn exp ref n) (.pdIn exp 0 [if di then 1 else 0])
  /-- The input, with the qualifier of before. -/
  | pdIn {exp ref : ArgBlockId} {n : ℕ} {qualifier : Octet} {input : List Octet}
      (h : Sees l [ProcessImage.Accessible, fun i => i.status ≠ .di,
        fun i => portQualityToQualifier i.quality = qualifier, fun i => i.input = input] mid) :
      Shown l mid thread (.pdIn exp ref n) (.pdIn exp qualifier input)
  /-- The output is a digital signal. -/
  | digitalOut {exp : ArgBlockId} {n : ℕ} {argBlock : ArgBlockPdout}
      (h : Sees l [ProcessImage.Accessible, fun i => i.status = .do_,
        fun i => i.digital = some argBlock.writeVal] mid) :
      Shown l mid thread (.pdOut exp n argBlock) (.smi (.voidblock argBlock.id))
  /-- The output has been that of the request, and then the output enable. -/
  | pdOut {exp : ArgBlockId} {n : ℕ} {argBlock : ArgBlockPdout}
      (h : Sees l [ProcessImage.Accessible, fun i => i.status ≠ .do_, ProcessImage.Holds argBlock,
        fun i => i.enabled = argBlock.outputEnable] mid) :
      Shown l mid thread (.pdOut exp n argBlock) (.smi (.voidblock argBlock.id))
  /-- The data link layer takes no output. -/
  | notAccessible {exp : ArgBlockId} {n : ℕ} {argBlock : ArgBlockPdout}
      (h : Sees l [ProcessImage.Accessible, fun i => i.status ≠ .do_] mid)
      (hunchanged : Unchanged thread mid) :
      Shown l mid thread (.pdOut exp n argBlock)
        (.smi (.joberror exp argBlock.id SmiErrorType.devNotAccessible))
  /-- Input and output of one moment, with the qualifier and the output enable of before. -/
  | pdInOut {exp ref : ArgBlockId} {n length : ℕ} {qualifier : Octet} {oe : Bool}
      {input output : List Octet}
      (h : Sees l [ProcessImage.Accessible, fun i => i.status ≠ .di,
        fun i => portQualityToQualifier i.quality = qualifier, fun i => i.enabled = oe,
        fun i => i.input = input ∧ i.output.slice 0 length = output] mid) :
      Shown l mid thread (.pdInOut exp ref n) (.pdInOut exp qualifier oe
        (UInt8.ofNat input.length :: input ++ UInt8.ofNat length :: output))

/-- The right answer: an arg block that is not the one of the request is refused. -/
def ExchangeAnswer.Right (l mid : List ExchangeEntry) (thread : ℕ) (r : ExchangeRequest)
    (a : ExchangeAnswer) : Prop :=
  if r.blockError ≠ SmiErrorType.none then a = .smi (.joberror r.exp r.ref r.blockError)
  else a.Shown l mid thread r

/-- `SMI_PDInOut`. -/
def ExchangeRequest.IsPdInOut : ExchangeRequest → Prop
  | .pdInOut _ _ _ => True
  | _ => False

/-- A request can return: there has been one answer, and an error is returned with an error.
`SMI_PDInOut` returns without an answer from a port with a digital input. -/
def Finished (l mid : List ExchangeEntry) (thread : ℕ) (r : ExchangeRequest)
    (error : IolinkError) : Prop :=
  (∃ a, answersTo thread mid = [a] ∧ (error = .none ↔ a.Confirms)) ∨
    answersTo thread mid = [] ∧ error = .none ∧ r.IsPdInOut ∧
      Sees l [ProcessImage.Accessible, fun i => i.status = .di] mid

/-- An entry is what the entries before it allow: an answer is the right one and the first since the
request, and a request returns when it can. -/
def ExchangeEntry.Allowed (log : List ExchangeEntry) : ExchangeEntry → Prop
  | .answered thread r a => ∃ l mid, log = l ++ [.called thread r] ++ mid ∧ Quiet thread mid ∧
      answersTo thread mid = [] ∧ a.Right (l ++ [.called thread r]) mid thread r
  | .returned thread r error => ∃ l mid, log = l ++ [.called thread r] ++ mid ∧ Quiet thread mid ∧
      Finished (l ++ [.called thread r]) mid thread r error
  | _ => True

/-! ### Requests on their way -/

/-- What a thread has seen before it knows its answer. -/
def RequestPc.Found (l mid : List ExchangeEntry) (thread : ℕ) :
    ExchangeRequest → RequestPc → Prop
  | _, .checkStatus => Unchanged thread mid
  | _, .checkState status => Sees l [fun i => i.status = status] mid ∧ Unchanged thread mid
  | _, .readStatus => Sees l [ProcessImage.Accessible] mid ∧ Unchanged thread mid
  | .pdIn _ _ _, .readDi => Sees l [ProcessImage.Accessible, fun i => i.status = .di] mid
  | .pdIn _ _ _, .readQuality | .pdInOut _ _ _, .readQuality =>
    Sees l [ProcessImage.Accessible, fun i => i.status ≠ .di] mid
  | .pdIn _ _ _, .getInput qualifier | .pdInOut _ _ _, .readEnable qualifier =>
    Sees l [ProcessImage.Accessible, fun i => i.status ≠ .di,
      fun i => portQualityToQualifier i.quality = qualifier] mid
  | .pdInOut _ _ _, .getInputOutput qualifier oe =>
    Sees l [ProcessImage.Accessible, fun i => i.status ≠ .di,
      fun i => portQualityToQualifier i.quality = qualifier, fun i => i.enabled = oe] mid
  | .pdOut _ _ argBlock, .writeDo b =>
    b = argBlock ∧ Sees l [ProcessImage.Accessible, fun i => i.status = .do_] mid
  | .pdOut _ _ argBlock, .setOutput b | .pdOut _ _ argBlock, .copyOutput b =>
    b = argBlock ∧ Sees l [ProcessImage.Accessible, fun i => i.status ≠ .do_] mid ∧
      Unchanged thread mid
  | .pdOut _ _ argBlock, .compareEnable b | .pdOut _ _ argBlock, .control b
  | .pdOut _ _ argBlock, .writeEnable b =>
    b = argBlock ∧ Sees l [ProcessImage.Accessible, fun i => i.status ≠ .do_,
      ProcessImage.Holds argBlock] mid
  | _, _ => False

/-- What a thread has seen and been told since its request. -/
def RequestPc.Since (l mid : List ExchangeEntry) (thread : ℕ) (r : ExchangeRequest) :
    RequestPc → Prop
  | .answer a error => answersTo thread mid = [] ∧ (error = .none ↔ a.Confirms) ∧
      a.Right l mid thread r
  | .return_ error => Finished l mid thread r error
  | pc => answersTo thread mid = [] ∧ r.blockError = SmiErrorType.none ∧ pc.Found l mid thread r

/-- The request of a thread is on its way. -/
def OnItsWay (log : List ExchangeEntry) (thread : ℕ) (r : ExchangeRequest) (pc : RequestPc) :
    Prop :=
  ∃ l mid, log = l ++ [.called thread r] ++ mid ∧ Quiet thread mid ∧
    pc.Since (l ++ [.called thread r]) mid thread r

section Since

variable {l mid : List ExchangeEntry} {e : ExchangeEntry} {thread : ℕ} {r : ExchangeRequest}
  {pc : RequestPc} {a : ExchangeAnswer} {error : IolinkError}

/-- An entry that is not about the thread: it is told nothing and its output is not changed. -/
structure ExchangeEntry.Foreign (e : ExchangeEntry) (thread : ℕ) : Prop where
  answer : e.answerTo thread = none
  update : e.isUpdated thread = false

theorem answersTo_concat (he : e.answerTo thread = none) :
    answersTo thread (mid ++ [e]) = answersTo thread mid := by
  rw [answersTo, List.filterMap_append, List.filterMap_cons_none he, List.filterMap_nil,
    List.append_nil]
  rfl

theorem Unchanged.concat (h : Unchanged thread mid) (he : e.isUpdated thread = false) :
    Unchanged thread (mid ++ [e]) := by
  intro x hx
  rcases List.mem_append.mp hx with hx | hx
  · exact h x hx
  · rwa [List.mem_singleton.mp hx]

theorem Quiet.concat (h : Quiet thread mid)
    (he : e.isCalled thread = false ∧ e.isReturned thread = false) :
    Quiet thread (mid ++ [e]) := by
  intro x hx
  rcases List.mem_append.mp hx with hx | hx
  · exact h x hx
  · rwa [List.mem_singleton.mp hx]

theorem ExchangeAnswer.Right.concat (h : a.Right l mid thread r) (he : e.Foreign thread) :
    a.Right l (mid ++ [e]) thread r := by
  unfold ExchangeAnswer.Right at h ⊢
  split_ifs at h ⊢
  · exact h
  · cases h with
    | inactive h => exact .inactive (h.append _)
    | digitalIn di h => exact .digitalIn di (h.append _)
    | pdIn h => exact .pdIn (h.append _)
    | digitalOut h => exact .digitalOut (h.append _)
    | pdOut h => exact .pdOut (h.append _)
    | notAccessible h hunchanged =>
      exact .notAccessible (h.append _) (hunchanged.concat he.update)
    | pdInOut h => exact .pdInOut (h.append _)

theorem Finished.concat (h : Finished l mid thread r error) (he : e.answerTo thread = none) :
    Finished l (mid ++ [e]) thread r error := by
  rw [Finished, answersTo_concat he]
  exact h.imp id fun ⟨htold, herror, hr, h⟩ => ⟨htold, herror, hr, h.append _⟩

theorem RequestPc.Found.concat (h : pc.Found l mid thread r) (he : e.isUpdated thread = false) :
    pc.Found l (mid ++ [e]) thread r := by
  have hsees {Cs : List (ProcessImage → Prop)} (h : Sees l Cs mid) : Sees l Cs (mid ++ [e]) :=
    h.append _
  unfold RequestPc.Found at h ⊢
  split at h
  · exact h.concat he
  · exact ⟨hsees h.1, h.2.concat he⟩
  · exact ⟨hsees h.1, h.2.concat he⟩
  · exact hsees h
  · exact hsees h
  · exact hsees h
  · exact hsees h
  · exact hsees h
  · exact hsees h
  · exact ⟨h.1, hsees h.2⟩
  · exact ⟨h.1, hsees h.2.1, h.2.2.concat he⟩
  · exact ⟨h.1, hsees h.2.1, h.2.2.concat he⟩
  · exact ⟨h.1, hsees h.2⟩
  · exact ⟨h.1, hsees h.2⟩
  · exact ⟨h.1, hsees h.2⟩
  · exact h

/-- What happens elsewhere does not change what a thread has seen. -/
theorem RequestPc.Since.concat (h : pc.Since l mid thread r) (he : e.Foreign thread) :
    pc.Since l (mid ++ [e]) thread r := by
  unfold RequestPc.Since at h ⊢
  split at h
  · exact ⟨(answersTo_concat he.answer).trans h.1, h.2.1, h.2.2.concat he⟩
  · exact h.concat he.answer
  · exact ⟨(answersTo_concat he.answer).trans h.1, h.2.1, h.2.2.concat he.update⟩

end Since

end IolHat

import IolHat.SystemManagement.Valuelist

/-!
# What the sequence selection leaves in the value list

`populate_valuelist` is meant to set all five fields of the value list when it selects an
M-sequence, and none of them but the type when it does not. Some of its branches set only some
fields, and one branch asserts what a device decides.

* `Consistent` is what the fields should be, by the process data descriptors of the device.
* Each part of the decision tree has a lemma that says when it leaves a consistent value list.
* `selectsConsistently_iff` puts them together: `Handled` are the devices and the value lists with
  which the selection works.
-/

namespace IolHat

/-- The sequences with process data in their messages. -/
def MSequenceType.isType2 : MSequenceType → Bool
  | .type21 | .type22 | .type23 | .type24 | .type25 | .type26 | .type2V | .type2X => true
  | _ => false

namespace Sm

/-- What the fields of a value list should be: those of before when no sequence is selected, and
otherwise all set, for process data of `pdin` and `pdout` octets. -/
def Consistent (cycbyte : Octet) (pdin pdout : ℕ) (start vl : ModeVl) : Prop :=
  if vl.type = .none then vl = { start with type := .none }
  else
    vl.time = cycbyte ∧ vl.onreqdatalengthpermessage ∈ [1, 2, 8, 32] ∧ vl.pdinputlength ≤ 32 ∧
      vl.pdoutputlength ≤ 32 ∧
      (vl.type.isType2 = true → vl.pdinputlength = pdin ∧ vl.pdoutputlength = pdout)

section

variable {cycbyte : Octet} {i o : ℕ} {start : ModeVl}

/-- No sequence has been selected, and no field has been touched. -/
theorem consistent_untouched : Consistent cycbyte i o start { start with type := .none } := by
  rw [Consistent, if_pos rfl]

/-- The fields that `set_valuelist` sets. -/
theorem consistent_setValuelist {od pdin pdout : ℕ} {type : MSequenceType} (ht : type ≠ .none) :
    Consistent cycbyte i o start (setValuelist od pdin pdout cycbyte type) ↔
      od ∈ [1, 2, 8, 32] ∧ pdin ≤ 32 ∧ pdout ≤ 32 ∧
        (type.isType2 = true → pdin = i ∧ pdout = o) := by
  rw [Consistent, if_neg (show (setValuelist od pdin pdout cycbyte type).type ≠ .none from ht)]
  exact and_iff_right rfl

/-- A sequence with process data. -/
private theorem consistent_type2 {od pdin pdout : ℕ} {type : MSequenceType}
    (ht : type.isType2 = true) (hod : od ∈ [1, 2, 8, 32]) (hin : pdin ≤ 32) (hout : pdout ≤ 32) :
    Consistent cycbyte i o start (setValuelist od pdin pdout cycbyte type) ↔
      pdin = i ∧ pdout = o := by
  have hne : type ≠ .none := by
    rintro rfl
    cases ht
  rw [consistent_setValuelist hne]
  exact ⟨fun h => h.2.2.2 ht, fun h => ⟨hod, hin, hout, fun _ => h⟩⟩

/-- A sequence without process data. -/
private theorem consistent_other {od : ℕ} {type : MSequenceType} (ht : type.isType2 = false)
    (hne : type ≠ .none) (hod : od ∈ [1, 2, 8, 32]) :
    Consistent cycbyte i o start (setValuelist od 0 0 cycbyte type) := by
  rw [consistent_setValuelist hne, ht]
  exact ⟨hod, Nat.zero_le _, Nat.zero_le _, fun h => absurd h Bool.false_ne_true⟩

/-! ### Lengths -/

/-- The octets of a length in bits. -/
theorem pdLength_bits (n : ℕ) : pdLength false n = (n + 7) / 8 := by
  simp [pdLength, Nat.shiftRight_eq_div_pow]

theorem pdLength_le (isbytes : Bool) {n : ℕ} (h : n ≤ 31) : pdLength isbytes n ≤ 32 := by
  cases isbytes with
  | false =>
    rw [pdLength_bits]
    omega
  | true => exact Nat.succ_le_succ h

/-- A short length in octets is not what the same number of bits needs. -/
private theorem bits_eq_pdLength_iff {isbytes : Bool} {n : ℕ} (h : isbytes = true → n ≤ 2) :
    (n + 7) / 8 = pdLength isbytes n ↔ isbytes = false := by
  cases isbytes with
  | false => exact iff_of_true (pdLength_bits n).symm rfl
  | true =>
    have hn := h rfl
    refine iff_of_false (fun heq => ?_) fun h => absurd h (by decide)
    rw [show pdLength true n = n + 1 from rfl] at heq
    omega

/-! ### The parts of the decision tree -/

/-- The sequence of a device without process data: the assertion holds for two of the codes. -/
theorem setType0OrType12_consistent {n : ℕ} :
    (∃ vl, setType0OrType12 n cycbyte = some vl ∧ Consistent cycbyte i o start vl) ↔ n ≤ 1 := by
  rcases Nat.lt_or_ge 1 n with hlt | hle
  · have hassert : setType0OrType12 n cycbyte = none := if_neg (by omega)
    rw [hassert]
    refine iff_of_false ?_ (by omega)
    rintro ⟨vl, hvl, -⟩
    cases hvl
  · refine iff_of_true ⟨_, if_pos (by omega), ?_⟩ hle
    obtain rfl | rfl : n = 0 ∨ n = 1 := by omega
    · exact consistent_other rfl (by decide) (by decide)
    · exact consistent_other rfl (by decide) (by decide)

theorem populatePreop_consistent (mscapa : Octet) :
    ∃ vl, populatePreop mscapa cycbyte = some vl ∧ Consistent cycbyte i o start vl := by
  simp only [populatePreop]
  split_ifs with hlt htwo
  · exact setType0OrType12_consistent.mpr (by omega)
  · exact ⟨_, rfl, consistent_other rfl (by decide) (by decide)⟩
  · exact ⟨_, rfl, consistent_other rfl (by decide) (by decide)⟩

/-- A message of TYPE_2_1 to TYPE_2_6: its process data is counted in bits. -/
private theorem consistent_bits {bin bout : Bool} {pdin pdout od a b : ℕ} {type : MSequenceType}
    (hin : bin = true → pdin ≤ 2) (hout : bout = true → pdout ≤ 2) (ha : a = (pdin + 7) / 8)
    (hb : b = (pdout + 7) / 8) (ht : type.isType2 = true) (hod : od ∈ [1, 2, 8, 32])
    (ha2 : a ≤ 2) (hb2 : b ≤ 2) :
    Consistent cycbyte (pdLength bin pdin) (pdLength bout pdout) start
        (setValuelist od a b cycbyte type) ↔ bin = false ∧ bout = false := by
  rw [consistent_type2 ht hod (by omega) (by omega), ha, hb, bits_eq_pdLength_iff hin,
    bits_eq_pdLength_iff hout]

/-- The same for lengths in bits. -/
private theorem consistent_bits_bits {pdin pdout od a b : ℕ} {type : MSequenceType}
    (ha : a = (pdin + 7) / 8) (hb : b = (pdout + 7) / 8) (ht : type.isType2 = true)
    (hod : od ∈ [1, 2, 8, 32]) (ha2 : a ≤ 2) (hb2 : b ≤ 2) :
    Consistent cycbyte (pdLength false pdin) (pdLength false pdout) start
      (setValuelist od a b cycbyte type) := by
  have hbits (n : ℕ) : false = true → n ≤ 2 := fun h => absurd h Bool.false_ne_true
  exact (consistent_bits (hbits pdin) (hbits pdout) ha hb ht hod ha2 hb2).mpr ⟨rfl, rfl⟩

/-- The selection of a device of revision 1.0 with process data: a length in octets must be long
enough for TYPE_1_1. -/
theorem populateLegacy_consistent {bin bout : Bool} {pdin pdout : ℕ}
    (hpd : ¬ (pdin = 0 ∧ pdout = 0)) :
    Consistent cycbyte (pdLength bin pdin) (pdLength bout pdout) start
        (populateLegacy bin bout pdin pdout cycbyte { start with type := .none }) ↔
      (bin = true ∨ bout = true → 3 ≤ pdin ∨ 3 ≤ pdout) := by
  by_cases h11 : (bin = true ∨ bout = true) ∧ (pdin ≥ 3 ∨ pdout ≥ 3)
  · rw [populateLegacy, if_pos h11]
    exact iff_of_true (consistent_other rfl (by decide) (by decide)) fun _ => h11.2
  · have hshort : bin = false ∧ bout = false ∨ pdin ≤ 2 ∧ pdout ≤ 2 := by
      by_cases hbytes : bin = true ∨ bout = true
      · have hnot : ¬ (pdin ≥ 3 ∨ pdout ≥ 3) := fun h => h11 ⟨hbytes, h⟩
        exact .inr (by omega)
      · rw [not_or, Bool.not_eq_true, Bool.not_eq_true] at hbytes
        exact .inl hbytes
    have hbits : (bin = true ∨ bout = true → 3 ≤ pdin ∨ 3 ≤ pdout) ↔
        bin = false ∧ bout = false := by
      constructor
      · intro h
        by_contra hbytes
        rw [not_and_or, Bool.not_eq_false, Bool.not_eq_false] at hbytes
        exact h11 ⟨hbytes, h hbytes⟩
      · rintro ⟨rfl, rfl⟩ (h | h) <;> cases h
    have hin : bin = true → pdin ≤ 2 := by
      rintro rfl
      exact (hshort.resolve_left fun h => Bool.noConfusion h.1).1
    have hout : bout = true → pdout ≤ 2 := by
      rintro rfl
      exact (hshort.resolve_left fun h => Bool.noConfusion h.2).2
    rw [populateLegacy, if_neg h11, hbits]
    split_ifs
    all_goals first
      | exact consistent_bits hin hout (by omega) (by omega) rfl (by decide) (by omega) (by omega)
      | exact iff_of_true consistent_untouched (hshort.resolve_right (by omega))

/-- The M-sequence code 0. Process data given in octets has TYPE_1_1. -/
theorem populateCode0_consistent (bin bout : Bool) (pdin pdout : ℕ) :
    Consistent cycbyte (pdLength bin pdin) (pdLength bout pdout) start
      (populateCode0 bin bout pdin pdout cycbyte { start with type := .none }) := by
  simp only [populateCode0]
  by_cases hzero : pdin = 0 ∧ pdout = 0
  · rw [if_pos hzero]
    exact consistent_other rfl (by decide) (by decide)
  rw [if_neg hzero]
  by_cases hbits : bin = false ∧ bout = false
  · obtain ⟨rfl, rfl⟩ := hbits
    rw [if_pos ⟨rfl, rfl⟩]
    split_ifs
    all_goals first
      | exact consistent_bits_bits (by omega) (by omega) rfl (by decide) (by omega) (by omega)
      | exact consistent_untouched
  · rw [if_neg hbits]
    exact consistent_other rfl (by decide) (by decide)

/-- TYPE_2_V is refused for the input data, or the fields it does not set have their values
already: the time when it is selected, and the input length when only the output data is
refused. -/
def Type2VSetsAll (cycbyte : Octet) (bin bout : Bool) (pdin pdout : ℕ) (start : ModeVl) : Prop :=
  type2VLength bin pdin →
    if type2VLength bout pdout then start.time = cycbyte
    else start.pdinputlength = pdLength bin pdin

theorem setType2V_consistent {bin bout : Bool} {pdin pdout od : ℕ} (hod : od ∈ [1, 2, 8, 32])
    (hin : pdin ≤ 31) (hout : pdout ≤ 31) :
    Consistent cycbyte (pdLength bin pdin) (pdLength bout pdout) start
        (setType2V bin bout pdin pdout od { start with type := .none }) ↔
      Type2VSetsAll cycbyte bin bout pdin pdout start := by
  rw [setType2V, Type2VSetsAll]
  by_cases hbin : type2VLength bin pdin
  · rw [if_pos hbin, imp_iff_right hbin]
    by_cases hbout : type2VLength bout pdout
    · rw [if_pos hbout, if_pos hbout, Consistent, if_neg (by simp)]
      exact ⟨fun h => h.1, fun h => ⟨h, hod, pdLength_le bin hin, pdLength_le bout hout,
        fun _ => ⟨rfl, rfl⟩⟩⟩
    · rw [if_neg hbout, if_neg hbout, Consistent, if_pos rfl]
      constructor
      · intro h
        exact (congrArg ModeVl.pdinputlength h).symm
      · intro h
        rw [← h]
  · rw [if_neg hbin]
    exact iff_of_true consistent_untouched fun h => absurd h hbin

/-- The M-sequence codes with which `set_type_2_V` is called: 4, unless both lengths are given in
octets, and 5 to 7 with process data. -/
def CallsType2V (operM : ℕ) (bin bout : Bool) (pdin pdout : ℕ) : Prop :=
  operM = 4 ∧ ¬ (bin = true ∧ bout = true) ∨ 5 ≤ operM ∧ (0 < pdin ∨ 0 < pdout)

/-- The selection of a device of revision 1.1. -/
theorem populateOperate_consistent {m : ℕ} (bin bout : Bool) {pdin pdout : ℕ} (hm : m ≤ 7)
    (hin : pdin ≤ 31) (hout : pdout ≤ 31) :
    Consistent cycbyte (pdLength bin pdin) (pdLength bout pdout) start
        (populateOperate m bin bout pdin pdout cycbyte { start with type := .none }) ↔
      (CallsType2V m bin bout pdin pdout → Type2VSetsAll cycbyte bin bout pdin pdout start) := by
  have hcode567 (hm : m = 5 ∨ m = 6 ∨ m = 7) :
      Consistent cycbyte (pdLength bin pdin) (pdLength bout pdout) start
          (populateCode567 m bin bout pdin pdout cycbyte { start with type := .none }) ↔
        (CallsType2V m bin bout pdin pdout → Type2VSetsAll cycbyte bin bout pdin pdout start) := by
    have hod : 1 <<< (2 * m - 9) ∈ [1, 2, 8, 32] := by
      rcases hm with rfl | rfl | rfl <;> decide
    simp only [populateCode567]
    by_cases hpd : pdin > 0 ∨ pdout > 0
    · have hcalls : CallsType2V m bin bout pdin pdout := .inr ⟨by omega, hpd⟩
      rw [if_pos hpd, imp_iff_right hcalls]
      exact setType2V_consistent hod hin hout
    · have hcalls : ¬ CallsType2V m bin bout pdin pdout := by
        rintro (⟨h4, -⟩ | ⟨-, h⟩)
        · omega
        · exact hpd h
      rw [if_neg hpd]
      refine iff_of_true ?_ fun h => absurd h hcalls
      split_ifs
      · exact consistent_other rfl (by decide) hod
      · exact consistent_untouched
  have hother (hm : ¬ (4 ≤ m)) : ¬ CallsType2V m bin bout pdin pdout := by
    rintro (⟨h4, -⟩ | ⟨h5, -⟩) <;> omega
  -- The codes of the table: 4 to 7 call the function of the variable types, the others do not.
  have hcodes : m = 0 ∨ m = 1 ∨ m = 2 ∨ m = 3 ∨ m = 4 ∨ m = 5 ∨ m = 6 ∨ m = 7 := by omega
  obtain rfl | rfl | rfl | rfl | rfl | hm := hcodes
  · exact iff_of_true (populateCode0_consistent bin bout pdin pdout)
      fun h => absurd h (hother (by decide))
  · refine iff_of_true ?_ fun h => absurd h (hother (by decide))
    simp only [populateOperate]
    split_ifs
    · exact consistent_other rfl (by decide) (by decide)
    · exact consistent_untouched
  · exact iff_of_true consistent_untouched fun h => absurd h (hother (by decide))
  · exact iff_of_true consistent_untouched fun h => absurd h (hother (by decide))
  · simp only [populateOperate]
    by_cases hbytes : bin = true ∧ bout = true
    · have hcalls : ¬ CallsType2V 4 bin bout pdin pdout := by
        rintro (⟨-, hnot⟩ | ⟨h5, -⟩)
        · exact hnot hbytes
        · omega
      obtain ⟨rfl, rfl⟩ := hbytes
      refine iff_of_true ?_ fun h => absurd h hcalls
      rw [if_pos ⟨rfl, rfl⟩]
      split_ifs
      · exact (consistent_type2 rfl (by decide) (by omega) (by omega)).mpr ⟨rfl, rfl⟩
      · exact consistent_untouched
    · have hcalls : CallsType2V 4 bin bout pdin pdout := .inl ⟨rfl, hbytes⟩
      rw [if_neg hbytes, imp_iff_right hcalls]
      exact setType2V_consistent (by decide) hin hout
  · have hoperate : populateOperate m bin bout pdin pdout cycbyte { start with type := .none } =
        populateCode567 m bin bout pdin pdout cycbyte { start with type := .none } := by
      obtain rfl | rfl | rfl := hm <;> rfl
    rw [hoperate]
    exact hcode567 hm

end

/-! ### The whole selection -/

/-- The octets of process data that a descriptor announces. -/
def pdOctets (pd : Octet) : ℕ := pdLength (pdIsbytes pd) (pdField pd)

/-- The selection reaches no failing assertion and leaves a consistent value list. -/
def SelectsConsistently (mscapa revid pdin pdout cycbyte : Octet) (operate : Bool)
    (start : ModeVl) : Prop :=
  ∃ vl, populateValuelist mscapa revid pdin pdout cycbyte operate start = some vl ∧
    Consistent cycbyte (pdOctets pdin) (pdOctets pdout) start vl

/-- The devices, and the value lists of before, with which the selection works. -/
def Handled (mscapa revid pdin pdout cycbyte : Octet) (operate : Bool) (start : ModeVl) : Prop :=
  operate = true →
    if revid ≠ revision11 then
      if pdField pdin = 0 ∧ pdField pdout = 0 then operM mscapa ≤ 1
      else pdIsbytes pdin = true ∨ pdIsbytes pdout = true → 3 ≤ pdField pdin ∨ 3 ≤ pdField pdout
    else
      CallsType2V (operM mscapa) (pdIsbytes pdin) (pdIsbytes pdout) (pdField pdin)
          (pdField pdout) →
        Type2VSetsAll cycbyte (pdIsbytes pdin) (pdIsbytes pdout) (pdField pdin) (pdField pdout)
          start

theorem operM_le (mscapa : Octet) : operM mscapa ≤ 7 := by
  rw [operM, UInt8.toNat_and]
  exact Nat.and_le_right

/-- **When the sequence selection is consistent.** In PREOPERATE always. In OPERATE, a device of
revision 1.0 without process data must have one of the codes 0 and 1, and one with a length in
octets must have at least 3 of them; a device of revision 1.1 that needs `set_type_2_V` must find
the fields that this function leaves alone set already. -/
theorem selectsConsistently_iff (mscapa revid pdin pdout cycbyte : Octet) (operate : Bool)
    (start : ModeVl) :
    SelectsConsistently mscapa revid pdin pdout cycbyte operate start ↔
      Handled mscapa revid pdin pdout cycbyte operate start := by
  have hsome {vl : ModeVl} :
      (∃ vl', some vl = some vl' ∧ Consistent cycbyte (pdOctets pdin) (pdOctets pdout) start vl') ↔
        Consistent cycbyte (pdOctets pdin) (pdOctets pdout) start vl := by
    simp
  rw [SelectsConsistently, Handled]
  cases operate with
  | false =>
    exact iff_of_true (populatePreop_consistent mscapa) fun h => absurd h Bool.false_ne_true
  | true =>
    rw [imp_iff_right rfl]
    by_cases hrev : revid ≠ revision11
    · rw [if_pos hrev]
      by_cases hzero : pdField pdin = 0 ∧ pdField pdout = 0
      · have hpop : populateValuelist mscapa revid pdin pdout cycbyte true start =
            setType0OrType12 (operM mscapa) cycbyte := by
          simp only [populateValuelist, Bool.not_true, Bool.false_eq_true, if_false, if_pos hrev,
            if_pos hzero]
        rw [hpop, if_pos hzero]
        exact setType0OrType12_consistent
      · simp only [populateValuelist, Bool.not_true, Bool.false_eq_true, if_false, if_pos hrev,
          if_neg hzero]
        rw [hsome]
        exact populateLegacy_consistent hzero
    · simp only [populateValuelist, Bool.not_true, Bool.false_eq_true, if_false, if_neg hrev]
      rw [hsome]
      exact populateOperate_consistent _ _ (operM_le mscapa) (pdField_le pdin) (pdField_le pdout)

/-- **A device stops the master.** A device of revision 1.0 without process data that tells the
M-sequence code 2 makes the assertion of the selection fail. -/
theorem legacy_code_fails_assertion :
    ¬ SelectsConsistently 0x04 0x10 0x00 0x00 0 true (setValuelist 1 0 0 0 .type0) := by
  rintro ⟨vl, hvl, -⟩
  cases hvl

end Sm

end IolHat

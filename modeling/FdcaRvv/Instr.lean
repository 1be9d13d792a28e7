import FdcaRvv.Config

/-!
# Decoding vector instructions and their hazards

`fdca_rvv_instr.c` classifies a 32-bit instruction word (`fdca_rvv_decode_instr_type`),
fills a descriptor from its fields (`fdca_rvv_parse_instr`), checks the operand rules
(`fdca_rvv_validate_instr`) and answers the scheduler's hazard query
(`fdca_rvv_instr_conflicts`).

The descriptor's two unions (`vmem_type`/`varith_type` and `imm`/`stride`/`vl_setting`)
are separate fields here: the parser writes only the member that belongs to the decoded
type, and only that member is ever read. Descriptors are passed by value, so the
sources' `NULL` checks have no counterpart.
-/

namespace FdcaRvv

/-! ## Encodings -/

/-- `RVV_OPCODE_MASK`. -/
def RVV_OPCODE_MASK : U32 := 0x7F
/-- `RVV_LOAD_FP`. -/
def RVV_LOAD_FP : U32 := 0x07
/-- `RVV_STORE_FP`. -/
def RVV_STORE_FP : U32 := 0x27
/-- `RVV_MADD`. -/
def RVV_MADD : U32 := 0x43
/-- `RVV_ARITH`. -/
def RVV_ARITH : U32 := 0x57

/-- `EXTRACT_FUNCT3`: bits 14:12. -/
def EXTRACT_FUNCT3 (opcode : U32) : U32 := (opcode >>> 12) &&& 0x7
/-- `EXTRACT_FUNCT6`: bits 31:26. -/
def EXTRACT_FUNCT6 (opcode : U32) : U32 := (opcode >>> 26) &&& 0x3F
/-- `EXTRACT_VD`: bits 11:7. -/
def EXTRACT_VD (opcode : U32) : U32 := (opcode >>> 7) &&& 0x1F
/-- `EXTRACT_VS1`: bits 19:15. -/
def EXTRACT_VS1 (opcode : U32) : U32 := (opcode >>> 15) &&& 0x1F
/-- `EXTRACT_VS2`: bits 24:20. -/
def EXTRACT_VS2 (opcode : U32) : U32 := (opcode >>> 20) &&& 0x1F
/-- `EXTRACT_VM`: bit 25, clear for a masked instruction. -/
def EXTRACT_VM (opcode : U32) : U32 := (opcode >>> 25) &&& 0x1

/-- `enum fdca_rvv_instr_type`. -/
inductive FdcaRvvInstrType
  | vmem | vamo | varith | vsetvli | invalid
  deriving DecidableEq, Repr

/-- `enum fdca_vmem_type`. -/
inductive FdcaVmemType
  | unitStride | strided | indexed | segment | wholeReg
  deriving DecidableEq, Repr

/-- `enum fdca_varith_type`. -/
inductive FdcaVarithType
  | add | sub | mul | div | and | or | xor | shift | cmp | reduce
  deriving DecidableEq, Repr

/-- `struct fdca_rvv_instr`; `{}` is the zeroed descriptor. -/
structure FdcaRvvInstr where
  opcode : U32 := 0
  type : FdcaRvvInstrType := .vmem
  vmemType : FdcaVmemType := .unitStride
  varithType : FdcaVarithType := .add
  vd : U8 := 0
  vs1 : U8 := 0
  vs2 : U8 := 0
  vm : Bool := false
  vlSetting : U32 := 0
  usesMask : Bool := false
  modifiesVl : Bool := false
  memoryAccess : Bool := false
  latency : U32 := 0
  deriving DecidableEq, Repr

/-! ## Decoding -/

/-- `fdca_rvv_decode_instr_type`. -/
def fdcaRvvDecodeInstrType (opcode : U32) : FdcaRvvInstrType :=
  let baseOpcode := opcode &&& RVV_OPCODE_MASK
  if baseOpcode = RVV_LOAD_FP ∨ baseOpcode = RVV_STORE_FP then .vmem
  else if baseOpcode = RVV_ARITH then
    let funct3 := EXTRACT_FUNCT3 opcode
    if funct3 = 0x0 ∨ funct3 = 0x1 ∨ funct3 = 0x2 ∨ funct3 = 0x3 ∨ funct3 = 0x4 ∨ funct3 = 0x5 ∨
        funct3 = 0x6 then .varith
    else if funct3 = 0x7 then .vsetvli
    else .invalid
  else if baseOpcode = RVV_MADD then .varith
  else .invalid

/-- `fdca_rvv_decode_vmem_type`. -/
def fdcaRvvDecodeVmemType (opcode : U32) : FdcaVmemType :=
  let funct3 := EXTRACT_FUNCT3 opcode
  if funct3 = 0x0 then .unitStride
  else if funct3 = 0x2 then .strided
  else if funct3 = 0x3 then .indexed
  else if funct3 = 0x1 then .segment
  else if funct3 = 0x4 then .wholeReg
  else .unitStride

/-- `fdca_rvv_decode_varith_type`. The source's switch has the label `case 0x00` twice,
first for `vadd` and again for `vredsum`; the first one takes the value, so the second
arm is never reached. -/
def fdcaRvvDecodeVarithType (opcode : U32) : FdcaVarithType :=
  let funct6 := EXTRACT_FUNCT6 opcode
  if funct6 = 0x00 then .add
  else if funct6 = 0x02 then .sub
  else if funct6 = 0x25 then .mul
  else if funct6 = 0x20 then .div
  else if funct6 = 0x24 then .and
  else if funct6 = 0x28 then .or
  else if funct6 = 0x2C then .xor
  else if funct6 = 0x30 ∨ funct6 = 0x34 ∨ funct6 = 0x38 then .shift
  else if funct6 = 0x18 ∨ funct6 = 0x19 ∨ funct6 = 0x1A ∨ funct6 = 0x1B then .cmp
  else if funct6 = 0x00 then .reduce
  else .add

/-- `fdca_rvv_parse_instr`: the descriptor and the return value. -/
def fdcaRvvParseInstr (opcode : U32) : FdcaRvvInstr × Int :=
  let instr : FdcaRvvInstr := { opcode, type := fdcaRvvDecodeInstrType opcode }
  if instr.type = .invalid then (instr, -EINVAL) else
  let instr := { instr with
    vd := (EXTRACT_VD opcode).setWidth 8
    vs1 := (EXTRACT_VS1 opcode).setWidth 8
    vs2 := (EXTRACT_VS2 opcode).setWidth 8
    vm := EXTRACT_VM opcode == 0 }
  match instr.type with
  | .vmem =>
    ({ instr with
        vmemType := fdcaRvvDecodeVmemType opcode, memoryAccess := true
        usesMask := instr.vm, latency := 10 }, 0)
  | .varith =>
    let varithType := fdcaRvvDecodeVarithType opcode
    ({ instr with
        varithType, memoryAccess := false, usesMask := instr.vm
        latency := if varithType = .mul ∨ varithType = .div then 5 else 2 }, 0)
  | .vsetvli =>
    ({ instr with
        vlSetting := EXTRACT_VS1 opcode, modifiesVl := true, memoryAccess := false
        latency := 1 }, 0)
  | _ => (instr, -EINVAL)

/-- `fdca_rvv_validate_instr`. -/
def fdcaRvvValidateInstr (instr : FdcaRvvInstr) : Int :=
  if instr.vd.toNat ≥ FDCA_RVV_NUM_VREGS.toNat ∨ instr.vs1.toNat ≥ FDCA_RVV_NUM_VREGS.toNat ∨
      instr.vs2.toNat ≥ FDCA_RVV_NUM_VREGS.toNat then -ERANGE
  else match instr.type with
    | .vmem => if instr.usesMask ∧ instr.vd = 0 then -EINVAL else 0
    | .varith => if instr.varithType = .reduce ∧ instr.vd ≠ instr.vs1 then -EINVAL else 0
    | .vsetvli => if instr.vlSetting > 1024 then -ERANGE else 0
    | _ => -EINVAL

/-- `fdca_rvv_instr_conflicts`. -/
def fdcaRvvInstrConflicts (a b : FdcaRvvInstr) : Bool :=
  if a.modifiesVl || b.modifiesVl then true
  else if a.vd = b.vd then true
  else if a.vd = b.vs1 ∨ a.vd = b.vs2 then true
  else if b.vd = a.vs1 ∨ b.vd = a.vs2 then true
  else if (a.usesMask || b.usesMask) ∧ (a.vd = 0 ∨ b.vd = 0) then true
  else if a.memoryAccess && b.memoryAccess then true
  else false

/-! ## Field and decoding lemmas -/

/-- A five-bit field is below 32. -/
theorem toNat_and_0x1F_lt (x : U32) : (x &&& 0x1F).toNat < 32 := by
  rw [BitVec.toNat_and]
  exact Nat.lt_of_le_of_lt Nat.and_le_right (by decide)

/-- Narrowing a five-bit field to `u8` keeps its value. -/
theorem toNat_setWidth_and_0x1F (x : U32) :
    ((x &&& 0x1F).setWidth 8).toNat = (x &&& 0x1F).toNat := by
  rw [BitVec.toNat_setWidth]
  exact Nat.mod_eq_of_lt (Nat.lt_trans (toNat_and_0x1F_lt x) (by decide))

/-- The `≠` form of `ite_eq_iff'`: the decoders' `if` chains are walked one test at a time
with it, each arm keeping the negations of the tests before it. -/
theorem ite_ne_of {α : Type} {c : Prop} [Decidable c] {a b r : α} (ha : c → a ≠ r)
    (hb : ¬c → b ≠ r) : (if c then a else b) ≠ r := by
  by_cases h : c
  · rw [if_pos h]; exact ha h
  · rw [if_neg h]; exact hb h

/-- An `if` whose first arm is `true` holds when its test or its other arm does: the hazard
query's chain of tests is a disjunction. -/
theorem ite_true_eq_true {p : Prop} [Decidable p] (q : Bool) :
    (if p then true else q) = true ↔ p ∨ q = true := by
  by_cases h : p <;> simp [h]

/-- No opcode decodes to a vector atomic. -/
theorem fdcaRvvDecodeInstrType_ne_vamo (opcode : U32) :
    fdcaRvvDecodeInstrType opcode ≠ .vamo := by
  dsimp only [fdcaRvvDecodeInstrType]
  repeat' refine ite_ne_of (fun _ => ?_) fun _ => ?_
  all_goals decide

/-- The reduction arm of `fdca_rvv_decode_varith_type` is dead: no opcode decodes to
`REDUCE`, since its test `funct6 = 0` is the first arm's. -/
theorem fdcaRvvDecodeVarithType_ne_reduce (opcode : U32) :
    fdcaRvvDecodeVarithType opcode ≠ .reduce := by
  dsimp only [fdcaRvvDecodeVarithType]
  repeat' refine ite_ne_of (fun _ => ?_) fun _ => ?_
  all_goals first | decide | contradiction

/-- The configuration instructions: base opcode `0x57` with `funct3 = 7`. -/
theorem fdcaRvvDecodeInstrType_eq_vsetvli (opcode : U32) :
    fdcaRvvDecodeInstrType opcode = .vsetvli ↔
      opcode &&& RVV_OPCODE_MASK = RVV_ARITH ∧ EXTRACT_FUNCT3 opcode = 7 := by
  dsimp only [fdcaRvvDecodeInstrType]
  generalize opcode &&& RVV_OPCODE_MASK = base
  generalize EXTRACT_FUNCT3 opcode = funct3
  simp only [ite_eq_iff, reduceCtorEq, and_false, false_or, or_false, and_true]
  constructor
  · rintro ⟨-, arith, -, seven⟩
    exact ⟨arith, seven⟩
  · rintro ⟨rfl, rfl⟩
    decide

/-- The memory instructions: base opcode `0x07` or `0x27`. -/
theorem fdcaRvvDecodeInstrType_eq_vmem (opcode : U32) :
    fdcaRvvDecodeInstrType opcode = .vmem ↔
      opcode &&& RVV_OPCODE_MASK = RVV_LOAD_FP ∨ opcode &&& RVV_OPCODE_MASK = RVV_STORE_FP := by
  dsimp only [fdcaRvvDecodeInstrType]
  generalize opcode &&& RVV_OPCODE_MASK = base
  simp only [ite_eq_iff, reduceCtorEq, and_false, false_or, or_false, and_true, iff_self]

/-! ## Parsing -/

/-- A five-bit field of an opcode, narrowed to `u8` as the descriptor stores it, is the
opcode's bits `k + 4 : k`. -/
theorem toNat_setWidth_field (opcode : U32) (k : Nat) :
    (((opcode >>> k) &&& 0x1F).setWidth 8).toNat = opcode.toNat / 2 ^ k % 32 := by
  rw [toNat_setWidth_and_0x1F, BitVec.toNat_and, BitVec.toNat_ushiftRight,
    Nat.shiftRight_eq_div_pow]
  exact Nat.and_pow_two_sub_one_eq_mod _ 5

/-- What `fdca_rvv_parse_instr` returns for an opcode whose type decodes: 0, and a descriptor
whose register fields are the opcode's fields and whose flags are set by the type. -/
theorem fdcaRvvParseInstr_of_ne_invalid {opcode : U32}
    (h : fdcaRvvDecodeInstrType opcode ≠ .invalid) :
    let instr := (fdcaRvvParseInstr opcode).1
    let type := fdcaRvvDecodeInstrType opcode
    (fdcaRvvParseInstr opcode).2 = 0 ∧ instr.type = type ∧
      instr.vd = (EXTRACT_VD opcode).setWidth 8 ∧ instr.vs1 = (EXTRACT_VS1 opcode).setWidth 8 ∧
      instr.vs2 = (EXTRACT_VS2 opcode).setWidth 8 ∧
      instr.usesMask = (type != .vsetvli && EXTRACT_VM opcode == 0) ∧
      instr.modifiesVl = (type == .vsetvli) ∧ instr.memoryAccess = (type == .vmem) ∧
      instr.varithType = (if type = .varith then fdcaRvvDecodeVarithType opcode else .add) ∧
      instr.vlSetting = (if type = .vsetvli then EXTRACT_VS1 opcode else 0) := by
  have ne_vamo := fdcaRvvDecodeInstrType_ne_vamo opcode
  dsimp only [fdcaRvvParseInstr]
  rw [if_neg h]
  cases type : fdcaRvvDecodeInstrType opcode with
  | vamo => exact absurd type ne_vamo
  | invalid => exact absurd type h
  | vmem | varith | vsetvli => exact ⟨rfl, rfl, rfl, rfl, rfl, rfl, rfl, rfl, rfl, rfl⟩

/-- `fdca_rvv_parse_instr` accepts exactly the opcodes whose type decodes. -/
theorem fdcaRvvParseInstr_ret_eq_zero (opcode : U32) :
    (fdcaRvvParseInstr opcode).2 = 0 ↔ fdcaRvvDecodeInstrType opcode ≠ .invalid := by
  refine ⟨fun ok invalid => ?_, fun h => (fdcaRvvParseInstr_of_ne_invalid h).1⟩
  simp only [fdcaRvvParseInstr, invalid, if_true, EINVAL] at ok
  omega

/-- The register fields of an accepted opcode's descriptor are its bits `11:7`, `19:15` and
`24:20`. -/
theorem fdcaRvvParseInstr_regs {opcode : U32} (accepted : (fdcaRvvParseInstr opcode).2 = 0) :
    (fdcaRvvParseInstr opcode).1.vd.toNat = opcode.toNat / 2 ^ 7 % 32 ∧
      (fdcaRvvParseInstr opcode).1.vs1.toNat = opcode.toNat / 2 ^ 15 % 32 ∧
      (fdcaRvvParseInstr opcode).1.vs2.toNat = opcode.toNat / 2 ^ 20 % 32 := by
  obtain ⟨-, -, vd, vs1, vs2, -⟩ :=
    fdcaRvvParseInstr_of_ne_invalid ((fdcaRvvParseInstr_ret_eq_zero opcode).1 accepted)
  rw [vd, vs1, vs2]
  exact ⟨toNat_setWidth_field _ _, toNat_setWidth_field _ _, toNat_setWidth_field _ _⟩

/-! ## Validation -/

/-- Decode-then-validate: the descriptor of an accepted opcode holds the opcode's bits `11:7`,
`19:15` and `24:20` as `vd`, `vs1` and `vs2`, so no register is out of range, and
`fdca_rvv_validate_instr` rejects exactly the masked memory instructions that target `v0`.
The reduction rule never fires, since no opcode decodes to `REDUCE`. -/
theorem fdcaRvvValidateInstr_parse (opcode : U32) (accepted : (fdcaRvvParseInstr opcode).2 = 0) :
    let instr := (fdcaRvvParseInstr opcode).1
    (instr.vd.toNat = opcode.toNat / 2 ^ 7 % 32 ∧ instr.vs1.toNat = opcode.toNat / 2 ^ 15 % 32 ∧
      instr.vs2.toNat = opcode.toNat / 2 ^ 20 % 32) ∧
    fdcaRvvValidateInstr instr =
      if fdcaRvvDecodeInstrType opcode = .vmem ∧ EXTRACT_VM opcode = 0 ∧ EXTRACT_VD opcode = 0
      then -EINVAL else 0 := by
  obtain ⟨-, type, vd, -, -, usesMask, -, -, varithType, vlSetting⟩ :=
    fdcaRvvParseInstr_of_ne_invalid ((fdcaRvvParseInstr_ret_eq_zero opcode).1 accepted)
  have fields := fdcaRvvParseInstr_regs accepted
  have inRange : ¬((fdcaRvvParseInstr opcode).1.vd.toNat ≥ FDCA_RVV_NUM_VREGS.toNat ∨
      (fdcaRvvParseInstr opcode).1.vs1.toNat ≥ FDCA_RVV_NUM_VREGS.toNat ∨
      (fdcaRvvParseInstr opcode).1.vs2.toNat ≥ FDCA_RVV_NUM_VREGS.toNat) := by
    have numVregs : FDCA_RVV_NUM_VREGS.toNat = 32 := rfl
    omega
  have vdZero : (fdcaRvvParseInstr opcode).1.vd = 0#8 ↔ EXTRACT_VD opcode = 0#32 := by
    have := toNat_and_0x1F_lt (opcode >>> 7)
    rw [vd, EXTRACT_VD]
    bv_omega
  refine ⟨fields, ?_⟩
  unfold fdcaRvvValidateInstr
  rw [if_neg inRange, type]
  cases t : fdcaRvvDecodeInstrType opcode with
  | vmem => simp [usesMask, t, vdZero]
  | varith => simp [varithType, t, fdcaRvvDecodeVarithType_ne_reduce]
  | vsetvli =>
    have := toNat_and_0x1F_lt (opcode >>> 15)
    simp only [vlSetting, t, reduceCtorEq, false_and, if_true, if_false, EXTRACT_VS1]
    bv_omega
  | vamo => exact absurd t (fdcaRvvDecodeInstrType_ne_vamo opcode)
  | invalid => exact absurd t ((fdcaRvvParseInstr_ret_eq_zero opcode).1 accepted)

/-- `vredsum.vs v1, v0, v2` (base `0x57`, `funct3 = 2`, `funct6 = 0`, unmasked) is an OPMVV
reduction whose destination is not its first source, yet it is accepted: it decodes as `ADD`. -/
theorem fdcaRvvValidateInstr_parse_vredsum :
    (0x020120D7 : U32) &&& RVV_OPCODE_MASK = RVV_ARITH ∧ EXTRACT_FUNCT3 0x020120D7 = 2 ∧
      EXTRACT_FUNCT6 0x020120D7 = 0 ∧ EXTRACT_VD 0x020120D7 ≠ EXTRACT_VS1 0x020120D7 ∧
      (fdcaRvvParseInstr 0x020120D7).2 = 0 ∧
      fdcaRvvValidateInstr (fdcaRvvParseInstr 0x020120D7).1 = 0 :=
  have accepted : (fdcaRvvParseInstr 0x020120D7).2 = 0 := by decide
  ⟨by decide, by decide, by decide, by decide, accepted,
    (fdcaRvvValidateInstr_parse 0x020120D7 accepted).2.trans (by decide)⟩

/-! ## Hazards -/

/-- `fdca_rvv_instr_conflicts` holds exactly when one of its six tests does. -/
theorem fdcaRvvInstrConflicts_eq_true (a b : FdcaRvvInstr) :
    fdcaRvvInstrConflicts a b = true ↔
      (a.modifiesVl ∨ b.modifiesVl) ∨ a.vd = b.vd ∨ (a.vd = b.vs1 ∨ a.vd = b.vs2) ∨
        (b.vd = a.vs1 ∨ b.vd = a.vs2) ∨ ((a.usesMask ∨ b.usesMask) ∧ (a.vd = 0 ∨ b.vd = 0)) ∨
        (a.memoryAccess ∧ b.memoryAccess) := by
  simp only [fdcaRvvInstrConflicts, ite_true_eq_true, Bool.or_eq_true, Bool.and_eq_true,
    Bool.false_eq_true, or_false]

/-- The hazard query does not depend on the order of its arguments: the read-after-write
test of one order is the write-after-read test of the other. -/
theorem fdcaRvvInstrConflicts_comm (a b : FdcaRvvInstr) :
    fdcaRvvInstrConflicts a b = fdcaRvvInstrConflicts b a := by
  rw [Bool.eq_iff_iff, fdcaRvvInstrConflicts_eq_true, fdcaRvvInstrConflicts_eq_true,
    @eq_comm _ b.vd a.vd]
  simp only [or_comm, or_left_comm, and_comm]

/-- The hazard query is sound on decoded instructions: two accepted opcodes conflict when one's
destination is the other's destination or source, when one is masked and the other writes `v0`,
when either is a configuration instruction, or when both access memory. -/
theorem fdcaRvvInstrConflicts_parse {p q : U32} (hp : (fdcaRvvParseInstr p).2 = 0)
    (hq : (fdcaRvvParseInstr q).2 = 0)
    (hazard : EXTRACT_VD p = EXTRACT_VD q ∨ EXTRACT_VD p = EXTRACT_VS1 q ∨
      EXTRACT_VD p = EXTRACT_VS2 q ∨ EXTRACT_VD q = EXTRACT_VS1 p ∨ EXTRACT_VD q = EXTRACT_VS2 p ∨
      (EXTRACT_VM p = 0 ∧ fdcaRvvDecodeInstrType p ≠ .vsetvli ∧ EXTRACT_VD q = 0) ∨
      (EXTRACT_VM q = 0 ∧ fdcaRvvDecodeInstrType q ≠ .vsetvli ∧ EXTRACT_VD p = 0) ∨
      fdcaRvvDecodeInstrType p = .vsetvli ∨ fdcaRvvDecodeInstrType q = .vsetvli ∨
      (fdcaRvvDecodeInstrType p = .vmem ∧ fdcaRvvDecodeInstrType q = .vmem)) :
    fdcaRvvInstrConflicts (fdcaRvvParseInstr p).1 (fdcaRvvParseInstr q).1 = true := by
  obtain ⟨-, -, vdp, vs1p, vs2p, maskp, vlp, memp, -⟩ :=
    fdcaRvvParseInstr_of_ne_invalid ((fdcaRvvParseInstr_ret_eq_zero p).1 hp)
  obtain ⟨-, -, vdq, vs1q, vs2q, maskq, vlq, memq, -⟩ :=
    fdcaRvvParseInstr_of_ne_invalid ((fdcaRvvParseInstr_ret_eq_zero q).1 hq)
  rw [fdcaRvvInstrConflicts_eq_true, vdp, vs1p, vs2p, maskp, vlp, memp, vdq, vs1q, vs2q, maskq,
    vlq, memq]
  rcases hazard with h | h | h | h | h | h | h | h | h | h <;> simp [h]

/-- The hazard query is order-independent on every pair of descriptors, and sound on every
pair of accepted opcodes, with the hazards read off the opcodes' bits: a shared destination,
a destination that is the other's `vs1` or `vs2`, a masked instruction (bit 25 clear, not a
configuration instruction) beside one that writes `v0`, a configuration instruction (base
`0x57`, `funct3 = 7`), or two memory instructions (base `0x07` or `0x27`). -/
theorem fdcaRvvInstrConflicts_symm_sound :
    (∀ a b, fdcaRvvInstrConflicts a b = fdcaRvvInstrConflicts b a) ∧
    ∀ p q : U32, (fdcaRvvParseInstr p).2 = 0 → (fdcaRvvParseInstr q).2 = 0 →
      (EXTRACT_VD p = EXTRACT_VD q ∨ EXTRACT_VD p = EXTRACT_VS1 q ∨
        EXTRACT_VD p = EXTRACT_VS2 q ∨ EXTRACT_VD q = EXTRACT_VS1 p ∨
        EXTRACT_VD q = EXTRACT_VS2 p ∨
        (EXTRACT_VM p = 0 ∧ ¬(p &&& RVV_OPCODE_MASK = RVV_ARITH ∧ EXTRACT_FUNCT3 p = 7) ∧
          EXTRACT_VD q = 0) ∨
        (EXTRACT_VM q = 0 ∧ ¬(q &&& RVV_OPCODE_MASK = RVV_ARITH ∧ EXTRACT_FUNCT3 q = 7) ∧
          EXTRACT_VD p = 0) ∨
        (p &&& RVV_OPCODE_MASK = RVV_ARITH ∧ EXTRACT_FUNCT3 p = 7) ∨
        (q &&& RVV_OPCODE_MASK = RVV_ARITH ∧ EXTRACT_FUNCT3 q = 7) ∨
        ((p &&& RVV_OPCODE_MASK = RVV_LOAD_FP ∨ p &&& RVV_OPCODE_MASK = RVV_STORE_FP) ∧
          (q &&& RVV_OPCODE_MASK = RVV_LOAD_FP ∨ q &&& RVV_OPCODE_MASK = RVV_STORE_FP))) →
      fdcaRvvInstrConflicts (fdcaRvvParseInstr p).1 (fdcaRvvParseInstr q).1 = true :=
  ⟨fdcaRvvInstrConflicts_comm, fun _ _ hp hq hazard => fdcaRvvInstrConflicts_parse hp hq (by
    simpa only [← fdcaRvvDecodeInstrType_eq_vsetvli, ← fdcaRvvDecodeInstrType_eq_vmem] using hazard)⟩

/-- The read-after-write pair `a = {vd 5, vs1 1, vs2 2}`, `b = {vd 3, vs1 5, vs2 4}`. -/
theorem fdcaRvvInstrConflicts_symm_sound_raw :
    (fdcaRvvParseInstr 0x022082D7).2 = 0 ∧ (fdcaRvvParseInstr 0x024281D7).2 = 0 ∧
      EXTRACT_VD 0x022082D7 = EXTRACT_VS1 0x024281D7 ∧
      fdcaRvvInstrConflicts (fdcaRvvParseInstr 0x022082D7).1 (fdcaRvvParseInstr 0x024281D7).1 :=
  have hp : (fdcaRvvParseInstr 0x022082D7).2 = 0 := by decide
  have hq : (fdcaRvvParseInstr 0x024281D7).2 = 0 := by decide
  have raw : EXTRACT_VD 0x022082D7 = EXTRACT_VS1 0x024281D7 := by decide
  ⟨hp, hq, raw, fdcaRvvInstrConflicts_symm_sound.2 _ _ hp hq (.inr (.inl raw))⟩

end FdcaRvv

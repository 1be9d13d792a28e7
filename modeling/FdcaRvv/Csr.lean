import FdcaRvv.Config

/-!
# The CSR context

`struct fdca_rvv_csr_context` holds the raw vector CSRs of one context and a parsed view
of `vtype` (`fdca_rvv_state.c`). `fdca_rvv_csr_save` fills the raw fields through
`fdca_rvv_read_csr` and re-parses `vtype`; `fdca_rvv_csr_restore` writes six of them
back through `fdca_rvv_write_csr`; `fdca_rvv_csr_validate` checks `vl` and `vstart`
against the capability.

Both accessors are simulations in the source: `fdca_rvv_read_csr` returns fixed values
(zero, `VILL` for `vtype`, the capability's `vlenb`) and `fdca_rvv_write_csr` only
logs. The model keeps the vector unit's architectural state `HwVectorState` beside the
code so that statements about it can be made; the accessors do not touch it.

`fdca_rvv_csr_validate` divides the capability's `vlen` by the parsed `sew_bits`. The
model writes that C division as `cUdiv`, which has no value at a zero divisor.
-/

namespace FdcaRvv

/-! ## Addresses and `vtype` fields -/

/-- `FDCA_CSR_VSTART`. -/
def FDCA_CSR_VSTART : U32 := 0x008
/-- `FDCA_CSR_VXSAT`. -/
def FDCA_CSR_VXSAT : U32 := 0x009
/-- `FDCA_CSR_VXRM`. -/
def FDCA_CSR_VXRM : U32 := 0x00A
/-- `FDCA_CSR_VCSR`. -/
def FDCA_CSR_VCSR : U32 := 0x00F
/-- `FDCA_CSR_VL`. -/
def FDCA_CSR_VL : U32 := 0xC20
/-- `FDCA_CSR_VTYPE`. -/
def FDCA_CSR_VTYPE : U32 := 0xC21
/-- `FDCA_CSR_VLENB`. -/
def FDCA_CSR_VLENB : U32 := 0xC22

/-- `FDCA_VTYPE_VLMUL_MASK`. -/
def FDCA_VTYPE_VLMUL_MASK : U64 := 0x7
/-- `FDCA_VTYPE_VSEW_MASK`. -/
def FDCA_VTYPE_VSEW_MASK : U64 := 0x38
/-- `FDCA_VTYPE_VTA`, `BIT(6)`. -/
def FDCA_VTYPE_VTA : U64 := BitVec.twoPow 64 6
/-- `FDCA_VTYPE_VMA`, `BIT(7)`. -/
def FDCA_VTYPE_VMA : U64 := BitVec.twoPow 64 7
/-- `FDCA_VTYPE_VILL`, `BIT(63)`. -/
def FDCA_VTYPE_VILL : U64 := BitVec.twoPow 64 63
/-- `FDCA_VTYPE_VLMUL_SHIFT`. -/
def FDCA_VTYPE_VLMUL_SHIFT : Nat := 0
/-- `FDCA_VTYPE_VSEW_SHIFT`. -/
def FDCA_VTYPE_VSEW_SHIFT : Nat := 3

/-! ## State -/

/-- The `parsed` member of `struct fdca_rvv_csr_context`; every field defaults to the
zero that `memset` leaves. -/
structure RvvCsrParsed where
  vlmul : U32 := 0
  vsew : U32 := 0
  vta : Bool := false
  vma : Bool := false
  vill : Bool := false
  sewBits : U32 := 0
  lmulMul : U32 := 0
  lmulDiv : U32 := 0
  deriving DecidableEq, Repr

/-- `struct fdca_rvv_csr_context`; `{}` is the zeroed context. -/
structure RvvCsrContext where
  vstart : U64 := 0
  vxsat : U64 := 0
  vxrm : U64 := 0
  vcsr : U64 := 0
  vl : U64 := 0
  vtype : U64 := 0
  vlenb : U64 := 0
  parsed : RvvCsrParsed := {}
  valid : Bool := false
  dirty : Bool := false
  saveTime : U64 := 0
  saveCount : U32 := 0
  deriving DecidableEq, Repr

/-- The fields of `struct fdca_rvv_state_manager` the modelled functions read. The
runtime reaches the manager through the global `g_rvv_manager`, `none` when it is not
initialised. -/
structure RvvStateManager where
  hwConfig : Option RvvConfig
  deriving DecidableEq, Repr

/-- `g_rvv_manager && g_rvv_manager->hw_config`: the capability, when both exist. -/
def hwConfigOf (gRvvManager : Option RvvStateManager) : Option RvvConfig :=
  gRvvManager.bind (·.hwConfig)

/-- The vector unit's architectural state: the six writable CSRs and the contents of
the 32 vector registers and the mask register (`vregs 32`). -/
structure HwVectorState where
  vstart : U64
  vxsat : U64
  vxrm : U64
  vcsr : U64
  vl : U64
  vtype : U64
  vregs : Nat → Nat → U8

/-! ## Accessors and `vtype` decoding -/

/-- `fdca_rvv_read_csr`: the simulated read, which returns fixed values and never looks
at the vector unit. -/
def fdcaRvvReadCsr (gRvvManager : Option RvvStateManager) (csrAddr : U32) : U64 :=
  if csrAddr = FDCA_CSR_VSTART then 0
  else if csrAddr = FDCA_CSR_VXSAT then 0
  else if csrAddr = FDCA_CSR_VXRM then 0
  else if csrAddr = FDCA_CSR_VCSR then 0
  else if csrAddr = FDCA_CSR_VL then 0
  else if csrAddr = FDCA_CSR_VTYPE then FDCA_VTYPE_VILL
  else if csrAddr = FDCA_CSR_VLENB then
    match hwConfigOf gRvvManager with
    | some config => config.vlenb.setWidth 64
    | none => 128
  else 0

/-- `fdca_rvv_write_csr`: the simulated write, which only logs. -/
def fdcaRvvWriteCsr (hw : HwVectorState) (_csrAddr : U32) (_value : U64) : HwVectorState :=
  hw

/-- `fdca_rvv_get_sew_bits`: `8 << vsew`. -/
def fdcaRvvGetSewBits (vsew : U32) : U32 := (8 : U32) <<< vsew.toNat

/-- `fdca_rvv_get_lmul_fraction`: the pair `(mul, div)`; the reserved `vlmul = 4` and
out-of-range values give `1/1`. -/
def fdcaRvvGetLmulFraction (vlmul : U32) : U32 × U32 :=
  if vlmul ≤ 3 then ((1 : U32) <<< vlmul.toNat, 1)
  else if vlmul ≥ 5 ∧ vlmul ≤ 7 then (1, (1 : U32) <<< (8 - vlmul).toNat)
  else (1, 1)

/-- The parsed view of a legal `vtype`. -/
def parseLegalVtype (vtype : U64) : RvvCsrParsed :=
  let vlmul : U32 := ((vtype >>> FDCA_VTYPE_VLMUL_SHIFT) &&& FDCA_VTYPE_VLMUL_MASK).setWidth 32
  let vsew : U32 :=
    ((vtype >>> FDCA_VTYPE_VSEW_SHIFT) &&&
      (FDCA_VTYPE_VSEW_MASK >>> FDCA_VTYPE_VSEW_SHIFT)).setWidth 32
  { vlmul, vsew
    vta := vtype &&& FDCA_VTYPE_VTA != 0
    vma := vtype &&& FDCA_VTYPE_VMA != 0
    vill := false
    sewBits := fdcaRvvGetSewBits vsew
    lmulMul := (fdcaRvvGetLmulFraction vlmul).1
    lmulDiv := (fdcaRvvGetLmulFraction vlmul).2 }

/-- `fdca_rvv_csr_parse_vtype`: an illegal `vtype` sets `vill` and leaves the other
parsed fields as they were. -/
def fdcaRvvCsrParseVtype (csrCtx : RvvCsrContext) : RvvCsrContext :=
  if csrCtx.vtype &&& FDCA_VTYPE_VILL != 0 then
    { csrCtx with parsed := { csrCtx.parsed with vill := true } }
  else { csrCtx with parsed := parseLegalVtype csrCtx.vtype }

/-! ## Save, restore and validate -/

/-- `fdca_rvv_csr_save`: read the seven CSRs, re-parse `vtype`, and mark the context
valid and clean. `bootSeconds` is `ktime_get_boottime_seconds()`. -/
def fdcaRvvCsrSave (gRvvManager : Option RvvStateManager) (bootSeconds : U64)
    (csrCtx : RvvCsrContext) : RvvCsrContext × Int :=
  let read := fdcaRvvReadCsr gRvvManager
  let csrCtx := fdcaRvvCsrParseVtype
    { csrCtx with
      vstart := read FDCA_CSR_VSTART, vxsat := read FDCA_CSR_VXSAT
      vxrm := read FDCA_CSR_VXRM, vcsr := read FDCA_CSR_VCSR, vl := read FDCA_CSR_VL
      vtype := read FDCA_CSR_VTYPE, vlenb := read FDCA_CSR_VLENB }
  ({ csrCtx with
      valid := true, dirty := false, saveTime := bootSeconds
      saveCount := csrCtx.saveCount + 1 }, 0)

/-- `fdca_rvv_csr_restore`: a context never saved is refused; otherwise the six writable
CSRs are written back (`vlenb` is read-only). -/
def fdcaRvvCsrRestore (hw : HwVectorState) (csrCtx : RvvCsrContext) : HwVectorState × Int :=
  if !csrCtx.valid then (hw, -EINVAL) else
  let hw := fdcaRvvWriteCsr hw FDCA_CSR_VSTART csrCtx.vstart
  let hw := fdcaRvvWriteCsr hw FDCA_CSR_VXSAT csrCtx.vxsat
  let hw := fdcaRvvWriteCsr hw FDCA_CSR_VXRM csrCtx.vxrm
  let hw := fdcaRvvWriteCsr hw FDCA_CSR_VCSR csrCtx.vcsr
  let hw := fdcaRvvWriteCsr hw FDCA_CSR_VL csrCtx.vl
  let hw := fdcaRvvWriteCsr hw FDCA_CSR_VTYPE csrCtx.vtype
  (hw, 0)

/-- `fdca_rvv_csr_validate`; `none` is the division by zero of `vlen / sew_bits`. -/
def fdcaRvvCsrValidate (gRvvManager : Option RvvStateManager) (csrCtx : RvvCsrContext) :
    Option Int :=
  if csrCtx.parsed.vill then some (-EINVAL) else
  let checkVstart : Int := if csrCtx.vstart > csrCtx.vl then -ERANGE else 0
  match hwConfigOf gRvvManager with
  | none => some checkVstart
  | some config =>
    (cUdiv config.vlen csrCtx.parsed.sewBits).map fun maxVl =>
      if csrCtx.vl > maxVl.setWidth 64 then -ERANGE else checkVstart

/-! ## Save and restore lemmas -/

/-- A parse changes only the parsed view. -/
theorem fdcaRvvCsrParseVtype_eq (csrCtx : RvvCsrContext) :
    fdcaRvvCsrParseVtype csrCtx = { csrCtx with parsed := (fdcaRvvCsrParseVtype csrCtx).parsed } := by
  unfold fdcaRvvCsrParseVtype
  split <;> rfl

/-- The raw CSRs the simulated save records: zero, and `VILL` for `vtype`. -/
def RvvCsrContext.RawSimulated (csrCtx : RvvCsrContext) : Prop :=
  csrCtx.vstart = 0 ∧ csrCtx.vxsat = 0 ∧ csrCtx.vxrm = 0 ∧ csrCtx.vcsr = 0 ∧ csrCtx.vl = 0 ∧
    csrCtx.vtype = FDCA_VTYPE_VILL

/-- Whatever the vector unit holds, a save records the simulated raw CSRs. -/
theorem fdcaRvvCsrSave_rawSimulated (gRvvManager : Option RvvStateManager) (bootSeconds : U64)
    (csrCtx : RvvCsrContext) : (fdcaRvvCsrSave gRvvManager bootSeconds csrCtx).1.RawSimulated := by
  simp only [fdcaRvvCsrSave]
  rw [fdcaRvvCsrParseVtype_eq]
  exact ⟨rfl, rfl, rfl, rfl, rfl, rfl⟩

@[simp] theorem fdcaRvvCsrSave_ret (gRvvManager : Option RvvStateManager) (bootSeconds : U64)
    (csrCtx : RvvCsrContext) : (fdcaRvvCsrSave gRvvManager bootSeconds csrCtx).2 = 0 := rfl

@[simp] theorem fdcaRvvCsrSave_valid (gRvvManager : Option RvvStateManager) (bootSeconds : U64)
    (csrCtx : RvvCsrContext) : (fdcaRvvCsrSave gRvvManager bootSeconds csrCtx).1.valid = true :=
  rfl

/-- A restore writes nothing to the vector unit, and fails exactly on a context never
saved. -/
theorem fdcaRvvCsrRestore_eq (hw : HwVectorState) (csrCtx : RvvCsrContext) :
    fdcaRvvCsrRestore hw csrCtx = (hw, if csrCtx.valid then 0 else -EINVAL) := by
  unfold fdcaRvvCsrRestore
  cases csrCtx.valid <;> rfl

/-! ## Decoding lemmas -/

/-- `vtype & FDCA_VTYPE_VILL` is bit 63. -/
theorem vtype_and_vill (vtype : U64) : (vtype &&& FDCA_VTYPE_VILL != 0) = vtype.getLsbD 63 := by
  unfold FDCA_VTYPE_VILL
  rw [BitVec.and_twoPow]
  by_cases bit : vtype.getLsbD 63 <;> simp [bit]
  decide

/-- `vsew` is bits 5:3 of `vtype`. -/
theorem parseLegalVtype_vsew_toNat (vtype : U64) :
    (parseLegalVtype vtype).vsew.toNat = vtype.toNat / 8 % 8 := by
  simp only [parseLegalVtype, FDCA_VTYPE_VSEW_SHIFT, FDCA_VTYPE_VSEW_MASK,
    BitVec.toNat_setWidth, BitVec.toNat_and, BitVec.toNat_ushiftRight]
  show (vtype.toNat >>> 3 &&& 2 ^ 3 - 1) % 2 ^ 32 = _
  rw [Nat.shiftRight_eq_div_pow, Nat.and_pow_two_sub_one_eq_mod]
  omega

/-- For the eight encodable `vsew`, `8 << vsew` does not overflow. -/
theorem fdcaRvvGetSewBits_toNat {vsew : U32} (small : vsew.toNat ≤ 7) :
    (fdcaRvvGetSewBits vsew).toNat = 8 * 2 ^ vsew.toNat := by
  have : 2 ^ vsew.toNat ≤ 2 ^ 7 := Nat.pow_le_pow_right (by decide) small
  simp only [fdcaRvvGetSewBits, BitVec.toNat_shiftLeft, Nat.shiftLeft_eq]
  show 8 * 2 ^ vsew.toNat % 2 ^ 32 = _
  omega

/-- The element width of a legal `vtype` is `8 << ((vtype >> 3) & 7)`. -/
theorem parseLegalVtype_sewBits_toNat (vtype : U64) :
    (parseLegalVtype vtype).sewBits.toNat = 8 * 2 ^ (vtype.toNat / 8 % 8) := by
  have small : (parseLegalVtype vtype).vsew.toNat ≤ 7 := by
    rw [parseLegalVtype_vsew_toNat]
    omega
  rw [← parseLegalVtype_vsew_toNat]
  exact fdcaRvvGetSewBits_toNat small

/-! ## Reachable CSR contexts -/

/-- The parsed view agrees with the raw `vtype`: `vill` is bit 63, and a legal `vtype`
is decoded as `fdca_rvv_csr_parse_vtype` decodes it. -/
def RvvCsrContext.ParsedAgrees (csrCtx : RvvCsrContext) : Prop :=
  csrCtx.parsed.vill = csrCtx.vtype.getLsbD 63 ∧
    (csrCtx.parsed.vill = false → csrCtx.parsed = parseLegalVtype csrCtx.vtype)

/-- The CSR contexts one context can hold: the zeroed one `fdca_rvv_context_create`
leaves, and what saves (under any manager) and re-parses make of it.
`fdca_rvv_csr_restore` changes no field of the CSR context. -/
inductive CsrReachable : RvvCsrContext → Prop
  | created : CsrReachable {}
  | save {csrCtx : RvvCsrContext} (gRvvManager : Option RvvStateManager) (bootSeconds : U64) :
      CsrReachable csrCtx → CsrReachable (fdcaRvvCsrSave gRvvManager bootSeconds csrCtx).1
  | parse {csrCtx : RvvCsrContext} :
      CsrReachable csrCtx → CsrReachable (fdcaRvvCsrParseVtype csrCtx)

theorem parsedAgrees_fdcaRvvCsrParseVtype (csrCtx : RvvCsrContext) :
    (fdcaRvvCsrParseVtype csrCtx).ParsedAgrees := by
  unfold fdcaRvvCsrParseVtype
  rw [vtype_and_vill]
  by_cases bit : csrCtx.vtype.getLsbD 63
  · simp only [bit, ↓reduceIte]
    exact ⟨bit.symm, fun legal => Bool.noConfusion legal⟩
  · simp only [bit, Bool.false_eq_true, ↓reduceIte]
    exact ⟨(Bool.eq_false_iff.2 bit).symm, fun _ => rfl⟩

/-- The agreement does not look at the status fields a save stamps. -/
theorem RvvCsrContext.ParsedAgrees.withStatus {csrCtx : RvvCsrContext}
    (agrees : csrCtx.ParsedAgrees) (valid dirty : Bool) (saveTime : U64) (saveCount : U32) :
    { csrCtx with valid, dirty, saveTime, saveCount }.ParsedAgrees := agrees

theorem parsedAgrees_fdcaRvvCsrSave (gRvvManager : Option RvvStateManager) (bootSeconds : U64)
    (csrCtx : RvvCsrContext) : (fdcaRvvCsrSave gRvvManager bootSeconds csrCtx).1.ParsedAgrees :=
  (parsedAgrees_fdcaRvvCsrParseVtype _).withStatus _ _ _ _

/-- Every reachable CSR context is the zeroed one or has its parsed view in agreement
with `vtype`. -/
theorem CsrReachable.eq_zero_or_parsedAgrees {csrCtx : RvvCsrContext}
    (reach : CsrReachable csrCtx) : csrCtx = {} ∨ csrCtx.ParsedAgrees := by
  cases reach with
  | created => exact .inl rfl
  | save gRvvManager bootSeconds _ => exact .inr (parsedAgrees_fdcaRvvCsrSave _ _ _)
  | parse _ => exact .inr (parsedAgrees_fdcaRvvCsrParseVtype _)

/-- On a context whose parsed view agrees with `vtype`, validation under a manager with
capability `config` divides by a nonzero width and accepts exactly when `vtype` is legal,
`vl ≤ vlen / (8 << vsew)` and `vstart ≤ vl`; otherwise it returns a negative error. -/
theorem fdcaRvvCsrValidate_of_parsedAgrees {gRvvManager : Option RvvStateManager}
    {config : RvvConfig} {csrCtx : RvvCsrContext} (agrees : csrCtx.ParsedAgrees)
    (manager : hwConfigOf gRvvManager = some config) :
    ∃ ret, fdcaRvvCsrValidate gRvvManager csrCtx = some ret ∧ ret ≤ 0 ∧
      (ret = 0 ↔ csrCtx.vtype.getLsbD 63 = false ∧
        csrCtx.vl.toNat ≤ config.vlen.toNat / (8 * 2 ^ (csrCtx.vtype.toNat / 8 % 8)) ∧
        csrCtx.vstart ≤ csrCtx.vl) := by
  obtain ⟨vill, legal⟩ := agrees
  cases bit : csrCtx.vtype.getLsbD 63
  case true =>
    exact ⟨-EINVAL, by simp [fdcaRvvCsrValidate, vill, bit], by simp [EINVAL], by simp [EINVAL]⟩
  case false =>
    have parsed := legal (vill.trans bit)
    have sew : csrCtx.parsed.sewBits.toNat = 8 * 2 ^ (csrCtx.vtype.toNat / 8 % 8) := by
      rw [parsed]
      exact parseLegalVtype_sewBits_toNat _
    have sewPos : csrCtx.parsed.sewBits ≠ 0 := by
      intro zero
      have := Nat.two_pow_pos (csrCtx.vtype.toNat / 8 % 8)
      have zeroToNat : (0 : U32).toNat = 0 := rfl
      rw [zero, zeroToNat] at sew
      omega
    have validate : fdcaRvvCsrValidate gRvvManager csrCtx =
        some (if csrCtx.vl > (config.vlen / csrCtx.parsed.sewBits).setWidth 64 then -ERANGE
          else if csrCtx.vstart > csrCtx.vl then -ERANGE else 0) := by
      simp only [fdcaRvvCsrValidate, cUdiv, vill, bit, manager, sewPos, Bool.false_eq_true,
        ↓reduceIte, Option.map_some']
    refine ⟨_, validate, by split_ifs <;> simp [ERANGE], ?_⟩
    have quotient : config.vlen.toNat / (8 * 2 ^ (csrCtx.vtype.toNat / 8 % 8)) < 2 ^ 64 :=
      lt_of_le_of_lt (Nat.div_le_self _ _) (by have := config.vlen.isLt; omega)
    simp only [BitVec.lt_def, BitVec.le_def, BitVec.toNat_setWidth, BitVec.toNat_udiv, sew,
      Nat.mod_eq_of_lt quotient, true_and]
    split_ifs <;> simp [ERANGE] <;> omega

/-- What validation does on every reachable CSR context under a manager with capability
`config`: on the zeroed context, never parsed, it divides by the zero `sew_bits`; on
every other one it is division-safe and decides as `fdcaRvvCsrValidate_of_parsedAgrees`
says. -/
theorem CsrReachable.fdcaRvvCsrValidate {gRvvManager : Option RvvStateManager}
    {config : RvvConfig} {csrCtx : RvvCsrContext} (reach : CsrReachable csrCtx)
    (manager : hwConfigOf gRvvManager = some config) :
    (csrCtx = {} ∧ FdcaRvv.fdcaRvvCsrValidate gRvvManager csrCtx = none) ∨
      ∃ ret, FdcaRvv.fdcaRvvCsrValidate gRvvManager csrCtx = some ret ∧ ret ≤ 0 ∧
        (ret = 0 ↔ csrCtx.vtype.getLsbD 63 = false ∧
          csrCtx.vl.toNat ≤ config.vlen.toNat / (8 * 2 ^ (csrCtx.vtype.toNat / 8 % 8)) ∧
          csrCtx.vstart ≤ csrCtx.vl) := by
  rcases reach.eq_zero_or_parsedAgrees with zero | agrees
  · subst zero
    exact .inl ⟨rfl, by simp [FdcaRvv.fdcaRvvCsrValidate, manager, cUdiv]⟩
  · exact .inr (fdcaRvvCsrValidate_of_parsedAgrees agrees manager)

end FdcaRvv

import FdcaRvv.Kernel

/-!
# Capability of the vector unit

`struct fdca_rvv_config` is the hardware capability descriptor every other part of the
runtime reads: vector length, element width, lane count. Two places decide which
descriptors are acceptable: `fdca_rvv_config_validate` (`fdca_rvv_config.c`) and the
check at the end of `fdca_detect_rvv_capabilities` (`fdca_pci.c`), which first decodes
the descriptor from the 32-bit configuration register and then runs the same check.

The device record keeps only what the modelled functions read. The vector unit is
`fdev->units[FDCA_UNIT_VPU]` in the source, but the unit enumeration of `fdca_drv.h`
declares only `FDCA_UNIT_CAU` and `FDCA_UNIT_CFU`; the model keeps that unit as a field
of its own.
-/

namespace FdcaRvv

/-- `FDCA_MAX_LANES`. -/
def FDCA_MAX_LANES : U32 := 16
/-- `FDCA_RVV_MAX_VLEN`. -/
def FDCA_RVV_MAX_VLEN : U32 := 65536
/-- `FDCA_RVV_MAX_ELEN`. -/
def FDCA_RVV_MAX_ELEN : U32 := 64
/-- `FDCA_RVV_NUM_VREGS`. -/
def FDCA_RVV_NUM_VREGS : U32 := 32

/-- `struct fdca_rvv_config`. -/
structure RvvConfig where
  vlen : U32
  elen : U32
  numLanes : U32
  vlenb : U32
  fpSupport : Bool
  fixedPointSupport : Bool
  segmentSupport : Bool
  osSupport : Bool
  multiplierLatency : List U32
  fpuLatency : List U32
  vrfSizePerLane : U32
  vrfBanksPerLane : U32
  deriving DecidableEq, Repr

/-- One entry of `fdev->units[]`: whether the unit exists and where its registers are
mapped (`0` is an unmapped, `NULL`, base). -/
structure FdcaUnit where
  present : Bool
  mmioBase : Nat
  deriving DecidableEq, Repr

/-- The fields of `struct fdca_device` that the vector runtime reads. -/
structure FdcaDevice where
  rvvConfig : RvvConfig
  rvvAvailable : Bool
  /-- `units[FDCA_UNIT_VPU]`. -/
  vpu : FdcaUnit
  deriving DecidableEq, Repr

/-- `fdca_rvv_config_validate`: the bounds on `fdev->rvv_config`. -/
def fdcaRvvConfigValidate (config : RvvConfig) : Int :=
  if config.vlen < 128 ∨ config.vlen > 65536 then -EINVAL
  else if config.elen > 64 then -EINVAL
  else if config.numLanes = 0 ∨ config.numLanes > 16 then -EINVAL
  else 0

/-- `fdca_detect_rvv_capabilities`: decode the configuration register `rvvConfigReg`
into `fdev->rvv_config`, then check it. Without the vector extension nothing is read. -/
def fdcaDetectRvvCapabilities (fdev : FdcaDevice) (rvvConfigReg : U32) : FdcaDevice × Int :=
  if !fdev.rvvAvailable then (fdev, 0) else
  let vlen : U32 := 1024 * ((rvvConfigReg &&& 0xF) + 1)
  let elen : U32 := (8 : U32) <<< ((rvvConfigReg >>> 4) &&& 0x7).toNat
  let numLanes : U32 := (1 : U32) <<< ((rvvConfigReg >>> 8) &&& 0xF).toNat
  let config : RvvConfig :=
    { vlen, elen, numLanes
      vlenb := vlen / 8
      fpSupport := rvvConfigReg &&& BitVec.twoPow 32 16 != 0
      fixedPointSupport := rvvConfigReg &&& BitVec.twoPow 32 17 != 0
      segmentSupport := rvvConfigReg &&& BitVec.twoPow 32 18 != 0
      osSupport := rvvConfigReg &&& BitVec.twoPow 32 19 != 0
      multiplierLatency := [0, 1, 1, 1]
      fpuLatency := [5, 3, 2, 1, 0]
      vrfSizePerLane := vlen * FDCA_RVV_NUM_VREGS / numLanes / 8
      vrfBanksPerLane := 8 }
  let fdev := { fdev with rvvConfig := config }
  if vlen < 128 ∨ vlen > FDCA_RVV_MAX_VLEN then (fdev, -EINVAL)
  else if elen > FDCA_RVV_MAX_ELEN then (fdev, -EINVAL)
  else if numLanes = 0 ∨ numLanes > FDCA_MAX_LANES then (fdev, -EINVAL)
  else (fdev, 0)

/-- A 1024-bit vector unit with 64-bit elements and four lanes; the concrete statements
of the development use it. -/
def sampleConfig : RvvConfig :=
  { vlen := 1024, elen := 64, numLanes := 4, vlenb := 128
    fpSupport := true, fixedPointSupport := true, segmentSupport := true, osSupport := true
    multiplierLatency := [0, 1, 1, 1], fpuLatency := [5, 3, 2, 1, 0]
    vrfSizePerLane := 1024, vrfBanksPerLane := 8 }

/-- A device whose vector unit has the capability `sampleConfig`. -/
def sampleDevice : FdcaDevice :=
  { rvvConfig := sampleConfig, rvvAvailable := true
    vpu := { present := true, mmioBase := 0x10000 } }

/-! ## Accepted descriptors -/

/-- What `fdca_rvv_config_validate` accepts, as bounds on the numbers. -/
theorem fdcaRvvConfigValidate_eq_zero {config : RvvConfig} :
    fdcaRvvConfigValidate config = 0 ↔
      128 ≤ config.vlen.toNat ∧ config.vlen.toNat ≤ 65536 ∧ config.elen.toNat ≤ 64 ∧
        1 ≤ config.numLanes.toNat ∧ config.numLanes.toNat ≤ 16 := by
  have invalid : (-EINVAL : Int) ≠ 0 := by decide
  unfold fdcaRvvConfigValidate
  split_ifs <;> simp only [invalid, iff_false, iff_true, false_iff, true_iff] <;> bv_omega

end FdcaRvv

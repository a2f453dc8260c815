import ImageResizer.Foundation.Numeral

/-!
# The effective number of CPUs

`modules/utils/cgroup.rs`: the CPU quota of the control group, read in either of its two
formats, bounds the number of CPUs of the host.  Whatever the files hold, the result is
between one and the number of CPUs of the host.
-/

namespace ImageResizer

open Text

/-- The content of `cpu.max`, `cpu.cfs_quota_us` and `cpu.cfs_period_us`, as far as each
can be read. -/
structure CgroupFiles where
  cpuMax : Option (List Char)
  cfsQuota : Option (List Char)
  cfsPeriod : Option (List Char)

/-- What the CPU count depends on: `num_cpus::get` and the files of the control group. -/
structure Host where
  numCpus : UInt64
  files : CgroupFiles

namespace Cgroup

/-- `str::parse::<u64>`. -/
def parseU64 (text : List Char) : Option UInt64 :=
  (parseUnsigned (2 ^ 64 - 1) text).map UInt64.ofNat

/-- `u64::div_ceil`. -/
def divCeil (dividend divisor : UInt64) : UInt64 :=
  if 0 < dividend % divisor then dividend / divisor + 1 else dividend / divisor

/-- `quota_to_cpu_count`. -/
def quotaToCpuCount (quota period : UInt64) : Option UInt64 :=
  if period = 0 then none else some (max (divCeil quota period) 1)

/-- `parse_cgroup_v2_cpu_max`. -/
def parseCgroupV2CpuMax (contents : List Char) : Option UInt64 := do
  let fields := splitWhitespace contents
  let quota ← fields[0]?
  let period ← fields[1]? >>= parseU64
  if quota = "max".toList then none
  else
    let quota ← parseU64 quota
    quotaToCpuCount quota period

/-- `parse_cgroup_v1_quota`. -/
def parseCgroupV1Quota (quota period : List Char) : Option UInt64 := do
  let quota ← parseSigned (-2 ^ 63) (2 ^ 63 - 1) (trim quota)
  let period ← parseU64 (trim period)
  if quota < 0 then none else quotaToCpuCount (UInt64.ofNat quota.toNat) period

-- 0.4 CPUs round up to one, and 2.5 to three.
example : parseCgroupV2CpuMax "40000 100000\n".toList = some 1 := by decide +kernel
example : parseCgroupV1Quota "250000".toList "100000".toList = some 3 := by decide +kernel

/-- `cgroup_cpu_quota`. -/
def cgroupCpuQuota (files : CgroupFiles) : Option UInt64 :=
  (files.cpuMax >>= parseCgroupV2CpuMax).or do
    let quota ← files.cfsQuota
    let period ← files.cfsPeriod
    parseCgroupV1Quota quota period

end Cgroup

/-- `effective_cpu_count`. -/
def effectiveCpuCount (host : Host) : UInt64 :=
  let hostCpus := max host.numCpus 1
  ((Cgroup.cgroupCpuQuota host.files).map fun quota => max 1 (min quota hostCpus)).getD hostCpus

theorem toNat_max (a b : UInt64) : (max a b).toNat = max a.toNat b.toNat := by
  change (if a ≤ b then b else a).toNat = _
  rw [apply_ite UInt64.toNat, max_def]
  rfl

theorem toNat_min (a b : UInt64) : (min a b).toNat = min a.toNat b.toNat := by
  change (if a ≤ b then a else b).toNat = _
  rw [apply_ite UInt64.toNat, min_def]
  rfl

/-- The result is one of these, and in either case within the host. -/
theorem effectiveCpuCount_toNat (host : Host) :
    (effectiveCpuCount host).toNat =
      match Cgroup.cgroupCpuQuota host.files with
      | some quota => max 1 (min quota.toNat (max host.numCpus.toNat 1))
      | none => max host.numCpus.toNat 1 := by
  rw [effectiveCpuCount]
  cases Cgroup.cgroupCpuQuota host.files with
  | none => exact toNat_max host.numCpus 1
  | some quota =>
      rw [Option.map_some, Option.getD_some, toNat_max, toNat_min, toNat_max]
      rfl

theorem effectiveCpuCount_bounds (host : Host) :
    1 ≤ (effectiveCpuCount host).toNat ∧
      (effectiveCpuCount host).toNat ≤ max host.numCpus.toNat 1 := by
  rw [effectiveCpuCount_toNat]
  cases Cgroup.cgroupCpuQuota host.files with
  | none => exact ⟨le_max_right _ _, le_rfl⟩
  | some quota => exact ⟨le_max_left _ _, max_le (le_max_right _ _) (min_le_right _ _)⟩

end ImageResizer

import ImageResizer.Config.Profiles

/-!
# The limits of a started service

`ImageService::with_config` builds two semaphores from the configuration.  A limit of zero
that nobody asked for comes from arithmetic on the CPU count of a profile, and a wrong cap on
the size of a source from the conversion of megabytes to bytes.
-/

namespace ImageResizer

open ServiceConfig

/-- The semaphores of `tokio`. -/
structure SemaphoreLibrary where
  Semaphore : Type
  /-- `Semaphore::new`; `none` stands for its panic on more permits than it supports. -/
  new : UInt64 → Option Semaphore
  /-- `Semaphore::try_acquire`: the semaphore with one permit fewer. -/
  tryAcquire : Semaphore → Option Semaphore

namespace SemaphoreLibrary

/-- A new semaphore gives out a permit when it was made with one. -/
def Counting (lib : SemaphoreLibrary) : Prop :=
  ∀ permits semaphore, lib.new permits = some semaphore →
    ((lib.tryAcquire semaphore).isSome ↔ 1 ≤ permits.toNat)

/-- A semaphore as the number of its permits, of which `tokio` supports `usize::MAX >> 3`. -/
def permits : SemaphoreLibrary where
  Semaphore := Nat
  new permits := if permits.toNat < 2 ^ 61 then some permits.toNat else none
  tryAcquire
    | 0 => none
    | left + 1 => some left

theorem permits_counting : permits.Counting := by
  intro count semaphore made
  change (if count.toNat < 2 ^ 61 then some count.toNat else none) = some semaphore at made
  obtain ⟨-, same⟩ := Option.ite_none_right_eq_some.mp made
  rw [← Option.some.inj same]
  cases count.toNat with
  | zero => simp [permits]
  | succ left => simp [permits]

end SemaphoreLibrary

/-- The part of `ImageService` that admits requests. -/
structure ImageService (lib : SemaphoreLibrary) where
  downloadSemaphore : lib.Semaphore
  processingSemaphore : lib.Semaphore
  config : ServiceConfig

/-- `ImageService::with_config`. -/
def ImageService.withConfig (lib : SemaphoreLibrary) (config : ServiceConfig) :
    Option (ImageService lib) := do
  let downloadSemaphore ← lib.new config.maxConcurrentDownloads
  let processingSemaphore ← lib.new config.maxConcurrentProcessing
  some ⟨downloadSemaphore, processingSemaphore, config⟩

theorem ImageService.withConfig_eq_some_iff {lib : SemaphoreLibrary} {config : ServiceConfig}
    {service : ImageService lib} :
    ImageService.withConfig lib config = some service ↔
      lib.new config.maxConcurrentDownloads = some service.downloadSemaphore ∧
        lib.new config.maxConcurrentProcessing = some service.processingSemaphore ∧
        service.config = config := by
  rcases service with ⟨download, processing, kept⟩
  simp [withConfig, Option.bind_eq_some_iff, @eq_comm _ config]

/-- The megabytes a deployment allows a source: as it says, or as its profile does. -/
def configuredMegabytes (env : EnvConfig) : UInt64 :=
  env.maxImageSizeMb.getD (((Profile.selected env).map Profile.megabytes).getD 0)

/-- A service started with this configuration can do its work: where the environment does
not itself say zero there is room for a request, and the cap on a source is the configured
one. -/
structure CanWork (lib : SemaphoreLibrary) (env : EnvConfig) (config : ServiceConfig) :
    Prop where
  downloads : env.maxConcurrentDownloads ≠ some 0 → 1 ≤ config.maxConcurrentDownloads.toNat
  processing : env.maxConcurrentProcessing ≠ some 0 → 1 ≤ config.maxConcurrentProcessing.toNat
  admitsDownload : env.maxConcurrentDownloads ≠ some 0 →
    ∀ service, ImageService.withConfig lib config = some service →
      (lib.tryAcquire service.downloadSemaphore).isSome
  admitsProcessing : env.maxConcurrentProcessing ≠ some 0 →
    ∀ service, ImageService.withConfig lib config = some service →
      (lib.tryAcquire service.processingSemaphore).isSome
  imageSize : config.maxImageSize.toNat = (configuredMegabytes env).toNat * 2 ^ 20

/-! ## Each limit by itself -/

/-- The number of processing slots of a profile comes out as zero. -/
def Profile.RoundsToZero (host : Host) : Profile → Prop
  | .unset | .lowLatency => False
  | .highThroughput => (effectiveCpuCount host).toNat = 2 ^ 63
  | .memoryEfficient => (effectiveCpuCount host).toNat = 1

theorem Profile.base_downloads_pos (host : Host) (profile : Profile) :
    1 ≤ (profile.base host).maxConcurrentDownloads.toNat := by
  cases profile with
  | unset | highThroughput | lowLatency | memoryEfficient => exact Nat.le_of_ble_eq_true rfl

theorem Profile.base_processing_pos_iff (host : Host) (profile : Profile) :
    1 ≤ (profile.base host).maxConcurrentProcessing.toNat ↔ ¬ profile.RoundsToZero host := by
  have ⟨positive, _⟩ := effectiveCpuCount_bounds host
  have fits := (effectiveCpuCount host).toNat_lt
  cases profile with
  | unset => simpa [Profile.base, ServiceConfig.default, RoundsToZero] using positive
  | lowLatency => simpa [Profile.base, ServiceConfig.lowLatency, RoundsToZero] using positive
  | highThroughput =>
      rw [Profile.base, ServiceConfig.highThroughput, RoundsToZero, UInt64.toNat_mul]
      change 1 ≤ (effectiveCpuCount host).toNat * 2 % 2 ^ 64 ↔
        ¬ (effectiveCpuCount host).toNat = 2 ^ 63
      omega
  | memoryEfficient =>
      rw [Profile.base, ServiceConfig.memoryEfficient, RoundsToZero, UInt64.toNat_div]
      change 1 ≤ (effectiveCpuCount host).toNat / 2 ↔ ¬ (effectiveCpuCount host).toNat = 1
      omega

/-- The conversion of megabytes to bytes is exact up to where it wraps. -/
theorem toNat_megabytes_iff (megabytes : UInt64) :
    (megabytes * 1024 * 1024).toNat = megabytes.toNat * 2 ^ 20 ↔ megabytes.toNat < 2 ^ 44 := by
  have fits := megabytes.toNat_lt
  rw [UInt64.toNat_mul, UInt64.toNat_mul]
  change megabytes.toNat * 1024 % 2 ^ 64 * 1024 % 2 ^ 64 = _ ↔ _
  omega

/-- Where an override is not zero, a limit is positive exactly when what it overrides is. -/
theorem overridden_pos_iff (limit : Option UInt64) (base : UInt64) :
    (limit ≠ some 0 → 1 ≤ (limit.getD base).toNat) ↔ (limit = none → 1 ≤ base.toNat) := by
  cases limit with
  | none => simp
  | some value =>
      have positive : value ≠ 0 ↔ 1 ≤ value.toNat := by
        rw [Nat.one_le_iff_ne_zero, ne_eq, ne_eq, ← UInt64.toNat_inj, UInt64.toNat_zero]
      simp [← positive]

theorem Profile.base_maxImageSize (host : Host) (profile : Profile) :
    (profile.base host).maxImageSize.toNat = profile.megabytes.toNat * 2 ^ 20 := by
  cases profile with
  | unset | highThroughput | lowLatency | memoryEfficient => rfl

theorem overridden_maxImageSize_iff {env : EnvConfig} {profile : Profile}
    (chosen : Profile.selected env = some profile) (host : Host) :
    (applyEnvOverrides (profile.base host) env).maxImageSize.toNat =
        (configuredMegabytes env).toNat * 2 ^ 20 ↔
      ∀ megabytes, env.maxImageSizeMb = some megabytes → megabytes.toNat < 2 ^ 44 := by
  rw [applyEnvOverrides, configuredMegabytes]
  cases env.maxImageSizeMb with
  | none => simp [chosen, Profile.base_maxImageSize]
  | some megabytes =>
      simp only [Option.map_some, Option.getD_some, Option.some.injEq, forall_eq']
      exact toNat_megabytes_iff megabytes

/-! ## All of them -/

theorem admits_of_pos {lib : SemaphoreLibrary} (counting : lib.Counting) {limit : UInt64}
    {semaphore : lib.Semaphore} (positive : 1 ≤ limit.toNat)
    (made : lib.new limit = some semaphore) : (lib.tryAcquire semaphore).isSome :=
  (counting limit semaphore made).mpr positive

/-- A service can work unless its profile rounds the processing slots to zero and nothing
overrides them, or the megabytes of a source wrap. -/
theorem canWork_iff {lib : SemaphoreLibrary} (counting : lib.Counting)
    {debugText : List Char → String} {host : Host} {env : EnvConfig} {config : ServiceConfig}
    (accepted : tryFrom debugText host env = .ok config) :
    CanWork lib env config ↔
      (env.maxConcurrentProcessing = none →
        ∀ profile, Profile.selected env = some profile → ¬ profile.RoundsToZero host) ∧
      ∀ megabytes, env.maxImageSizeMb = some megabytes → megabytes.toNat < 2 ^ 44 := by
  obtain ⟨profile, chosen, rfl⟩ := (tryFrom_ok_iff debugText host env config).mp accepted
  have downloads := (overridden_pos_iff env.maxConcurrentDownloads _).mpr
    fun _ => profile.base_downloads_pos host
  have processing := overridden_pos_iff env.maxConcurrentProcessing
    (profile.base host).maxConcurrentProcessing
  rw [profile.base_processing_pos_iff host] at processing
  rw [← overridden_maxImageSize_iff chosen host]
  constructor
  · intro can
    refine ⟨fun unset other same => ?_, can.imageSize⟩
    rw [chosen, Option.some.injEq] at same
    exact same ▸ processing.mp can.processing unset
  · rintro ⟨slots, imageSize⟩
    have positive := processing.mpr fun unset => slots unset profile chosen
    refine ⟨downloads, positive, fun asked service started => ?_, fun asked service started => ?_,
      imageSize⟩
    · obtain ⟨made, -, -⟩ := ImageService.withConfig_eq_some_iff.mp started
      exact admits_of_pos counting (downloads asked) made
    · obtain ⟨-, made, -⟩ := ImageService.withConfig_eq_some_iff.mp started
      exact admits_of_pos counting (positive asked) made

/-- Otherwise no request is ever processed: the first is already refused. -/
theorem processing_refused {lib : SemaphoreLibrary} (counting : lib.Counting) {host : Host}
    {env : EnvConfig} {profile : Profile} {service : ImageService lib}
    (unset : env.maxConcurrentProcessing = none) (zero : profile.RoundsToZero host)
    (started : ImageService.withConfig lib (applyEnvOverrides (profile.base host) env) =
      some service) : lib.tryAcquire service.processingSemaphore = none := by
  obtain ⟨-, made, -⟩ := ImageService.withConfig_eq_some_iff.mp started
  rw [applyEnvOverrides, unset, Option.getD_none] at made
  rw [← Option.not_isSome_iff_eq_none, counting _ _ made, profile.base_processing_pos_iff]
  exact not_not_intro zero

/-- A container with 0.4 CPUs of a host with sixteen. -/
def smallPod : Host := ⟨16, some "40000 100000\n".toList, none, none⟩

theorem canWork_small_pod :
    CanWork .permits .unset (custom smallPod .unset) ↔
      (EnvConfig.unset.maxConcurrentProcessing = none →
        ∀ profile, Profile.selected .unset = some profile → ¬ profile.RoundsToZero smallPod) ∧
      ∀ megabytes, EnvConfig.unset.maxImageSizeMb = some megabytes → megabytes.toNat < 2 ^ 44 :=
  canWork_iff SemaphoreLibrary.permits_counting
    (rfl : tryFrom String.ofList smallPod .unset = .ok (custom smallPod .unset))

/-- On a single CPU the profile for little memory leaves no processing slot. -/
theorem memoryEfficient_admits_nothing :
    ∃ config, tryFrom String.ofList smallPod
        { EnvConfig.unset with performanceProfile := some "memory_efficient".toList } =
          .ok config ∧
      config.maxConcurrentProcessing = 0 ∧
      ¬ CanWork .permits
        { EnvConfig.unset with performanceProfile := some "memory_efficient".toList } config := by
  have slots : (effectiveCpuCount smallPod / 2).toNat = 0 := by decide +kernel
  refine ⟨_, (tryFrom_ok_iff ..).mpr ⟨.memoryEfficient, by decide +kernel, rfl⟩,
    UInt64.toNat_inj.mp slots, ?_⟩
  intro can
  have positive := can.processing (by decide)
  exact absurd (slots ▸ positive) (by decide)

end ImageResizer

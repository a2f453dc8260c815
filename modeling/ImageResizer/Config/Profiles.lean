import ImageResizer.Config
import ImageResizer.CpuQuota
import ImageResizer.Failure

/-!
# The configuration a service starts with

`config/performance.rs`: the performance profiles, what the environment overrides in them,
and the two semaphores a service is built with.  The builds that are deployed inherit
`release`, so arithmetic on `u64` and `usize` wraps.
-/

namespace ImageResizer

open Text

/-- The whole of `PerformanceConfig`: beside what a request reads, the limits of the service
as a whole.  Durations are in seconds. -/
structure ServiceConfig extends PerformanceConfig where
  maxConcurrentDownloads : UInt64
  maxConcurrentProcessing : UInt64
  httpTimeout : UInt64
  cpuThreadPoolSize : Option UInt64
  enableHttp2 : Bool
  connectionPoolSize : UInt64
  keepAliveTimeout : UInt64

/-- The variables of the environment that the configuration is made of, as far as they are
set. -/
structure EnvConfig where
  maxConcurrentDownloads : Option UInt64
  maxConcurrentProcessing : Option UInt64
  httpTimeoutSecs : Option UInt64
  maxImageSizeMb : Option UInt64
  cpuThreadPoolSize : Option UInt64
  enableHttp2 : Option Bool
  connectionPoolSize : Option UInt64
  keepAliveTimeoutSecs : Option UInt64
  performanceProfile : Option (List Char)
  maxRedirects : Option UInt8
  allowedSources : Option (List Char)
  allowLoopbackSourceAddresses : Option Bool
  allowLinkLocalSourceAddresses : Option Bool
  maxSrcResolutionMp : Option UInt64
  maxOutputWidth : Option UInt32
  maxOutputHeight : Option UInt32
  maxAnimationFrames : Option Nat
  watermarkUrl : Option String
  jpegProgressive : Option Bool
  jpegNoSubsampling : Option Bool

/-- An environment in which nothing is set. -/
def EnvConfig.unset : EnvConfig where
  maxConcurrentDownloads := none
  maxConcurrentProcessing := none
  httpTimeoutSecs := none
  maxImageSizeMb := none
  cpuThreadPoolSize := none
  enableHttp2 := none
  connectionPoolSize := none
  keepAliveTimeoutSecs := none
  performanceProfile := none
  maxRedirects := none
  allowedSources := none
  allowLoopbackSourceAddresses := none
  allowLinkLocalSourceAddresses := none
  maxSrcResolutionMp := none
  maxOutputWidth := none
  maxOutputHeight := none
  maxAnimationFrames := none
  watermarkUrl := none
  jpegProgressive := none
  jpegNoSubsampling := none

namespace ServiceConfig

/-- `PerformanceConfig::default`. -/
def default (host : Host) : ServiceConfig where
  toPerformanceConfig := .default
  maxConcurrentDownloads := 20
  maxConcurrentProcessing := effectiveCpuCount host
  httpTimeout := 30
  cpuThreadPoolSize := none
  enableHttp2 := true
  connectionPoolSize := 50
  keepAliveTimeout := 60

/-- `PerformanceConfig::high_throughput`. -/
def highThroughput (host : Host) : ServiceConfig where
  toPerformanceConfig := { PerformanceConfig.default with maxImageSize := 100 * 1024 * 1024 }
  maxConcurrentDownloads := 50
  maxConcurrentProcessing := effectiveCpuCount host * 2
  httpTimeout := 15
  cpuThreadPoolSize := some (effectiveCpuCount host)
  enableHttp2 := true
  connectionPoolSize := 100
  keepAliveTimeout := 120

/-- `PerformanceConfig::low_latency`. -/
def lowLatency (host : Host) : ServiceConfig where
  toPerformanceConfig := { PerformanceConfig.default with maxImageSize := 20 * 1024 * 1024 }
  maxConcurrentDownloads := 10
  maxConcurrentProcessing := effectiveCpuCount host
  httpTimeout := 10
  cpuThreadPoolSize := some (effectiveCpuCount host)
  enableHttp2 := true
  connectionPoolSize := 25
  keepAliveTimeout := 30

/-- `PerformanceConfig::memory_efficient`. -/
def memoryEfficient (host : Host) : ServiceConfig where
  toPerformanceConfig :=
    { PerformanceConfig.default with
      maxImageSize := 10 * 1024 * 1024
      maxSrcResolutionMp := 25
      maxOutputWidth := 2048
      maxOutputHeight := 2048
      maxAnimationFrames := 128 }
  maxConcurrentDownloads := 5
  maxConcurrentProcessing := effectiveCpuCount host / 2
  httpTimeout := 45
  cpuThreadPoolSize := some (effectiveCpuCount host / 2)
  enableHttp2 := false
  connectionPoolSize := 10
  keepAliveTimeout := 30

/-- `parse_allowed_sources`. -/
def parseAllowedSources (raw : List Char) : Option (List String) :=
  let list := ((raw.splitOn ',').map trim).filter (· ≠ [])
  if list = [] then none else some (list.map String.ofList)

/-- `apply_env_overrides`. -/
def applyEnvOverrides (config : ServiceConfig) (env : EnvConfig) : ServiceConfig where
  maxConcurrentDownloads := env.maxConcurrentDownloads.getD config.maxConcurrentDownloads
  maxConcurrentProcessing := env.maxConcurrentProcessing.getD config.maxConcurrentProcessing
  httpTimeout := env.httpTimeoutSecs.getD config.httpTimeout
  maxImageSize := (env.maxImageSizeMb.map (· * 1024 * 1024)).getD config.maxImageSize
  cpuThreadPoolSize := env.cpuThreadPoolSize.or config.cpuThreadPoolSize
  enableHttp2 := env.enableHttp2.getD config.enableHttp2
  connectionPoolSize := env.connectionPoolSize.getD config.connectionPoolSize
  keepAliveTimeout := env.keepAliveTimeoutSecs.getD config.keepAliveTimeout
  maxRedirects := env.maxRedirects.getD config.maxRedirects
  allowedSources := (env.allowedSources.map parseAllowedSources).getD config.allowedSources
  allowLoopbackSourceAddresses :=
    env.allowLoopbackSourceAddresses.getD config.allowLoopbackSourceAddresses
  allowLinkLocalSourceAddresses :=
    env.allowLinkLocalSourceAddresses.getD config.allowLinkLocalSourceAddresses
  maxSrcResolutionMp := env.maxSrcResolutionMp.getD config.maxSrcResolutionMp
  maxOutputWidth := env.maxOutputWidth.getD config.maxOutputWidth
  maxOutputHeight := env.maxOutputHeight.getD config.maxOutputHeight
  maxAnimationFrames := env.maxAnimationFrames.getD config.maxAnimationFrames
  watermarkUrl := env.watermarkUrl.or config.watermarkUrl
  jpegProgressiveDefault := env.jpegProgressive.getD config.jpegProgressiveDefault
  jpegNoSubsamplingDefault := env.jpegNoSubsampling.getD config.jpegNoSubsamplingDefault

/-- The configuration without a profile. -/
def custom (host : Host) (env : EnvConfig) : ServiceConfig where
  maxConcurrentDownloads := env.maxConcurrentDownloads.getD 20
  maxConcurrentProcessing := env.maxConcurrentProcessing.getD (effectiveCpuCount host)
  httpTimeout := env.httpTimeoutSecs.getD 30
  maxImageSize := env.maxImageSizeMb.getD 50 * 1024 * 1024
  cpuThreadPoolSize := env.cpuThreadPoolSize
  enableHttp2 := env.enableHttp2.getD true
  connectionPoolSize := env.connectionPoolSize.getD 50
  keepAliveTimeout := env.keepAliveTimeoutSecs.getD 60
  maxRedirects := env.maxRedirects.getD 5
  allowedSources := env.allowedSources.bind parseAllowedSources
  allowLoopbackSourceAddresses := env.allowLoopbackSourceAddresses.getD false
  allowLinkLocalSourceAddresses := env.allowLinkLocalSourceAddresses.getD false
  maxSrcResolutionMp := env.maxSrcResolutionMp.getD 50
  maxOutputWidth := env.maxOutputWidth.getD 4096
  maxOutputHeight := env.maxOutputHeight.getD 4096
  maxAnimationFrames := env.maxAnimationFrames.getD 512
  watermarkUrl := env.watermarkUrl
  jpegProgressiveDefault := env.jpegProgressive.getD false
  jpegNoSubsamplingDefault := env.jpegNoSubsampling.getD false

/-- Without a profile, the defaults are overridden like those of a profile. -/
theorem custom_eq (host : Host) (env : EnvConfig) :
    custom host env = applyEnvOverrides (default host) env := by
  rcases env with ⟨_, _, _, size, pool, _, _, _, _, _, sources, _, _, _, _, _, _, url, _, _⟩
  cases size <;> cases pool <;> cases sources <;> cases url <;> rfl

/-- `VALID_PERFORMANCE_PROFILES`. -/
def validPerformanceProfiles : List String :=
  ["high_throughput", "low_latency", "memory_efficient"]

/-- The profile that is asked for: a blank name is as good as none. -/
def requestedProfile (env : EnvConfig) : Option (List Char) :=
  (env.performanceProfile.map trim).filter (· ≠ [])

/-- The error on a name that is no profile, with the name as `{:?}` writes it. -/
def unrecognisedProfile (shown : String) : Failure :=
  .message ("PERFORMANCE_PROFILE=" ++ shown ++
    " is not a recognised profile - valid values are " ++
    ", ".intercalate validPerformanceProfiles ++ " (case-insensitive), or unset/empty to use " ++
    "the individually-configured (or default) settings instead.")

/-- `TryFrom<&EnvConfig> for PerformanceConfig`.  No character outside ASCII has a letter of
the three names as its lower case. -/
def tryFrom (debugText : List Char → String) (host : Host) (env : EnvConfig) :
    Except Failure ServiceConfig :=
  match requestedProfile env with
  | some profile =>
      match String.ofList (profile.map Char.toLower) with
      | "high_throughput" => .ok (applyEnvOverrides (highThroughput host) env)
      | "low_latency" => .ok (applyEnvOverrides (lowLatency host) env)
      | "memory_efficient" => .ok (applyEnvOverrides (memoryEfficient host) env)
      | _ => .error (unrecognisedProfile (debugText profile))
  | none => .ok (custom host env)

end ServiceConfig

/-! ## The selected profile -/

/-- What the environment overrides: the defaults, or one of the profiles. -/
inductive Profile where
  | unset
  | highThroughput
  | lowLatency
  | memoryEfficient
  deriving DecidableEq

namespace Profile

def base (host : Host) : Profile → ServiceConfig
  | .unset => .default host
  | .highThroughput => .highThroughput host
  | .lowLatency => .lowLatency host
  | .memoryEfficient => .memoryEfficient host

/-- The largest source of a profile, in megabytes. -/
def megabytes : Profile → UInt64
  | .unset => 50
  | .highThroughput => 100
  | .lowLatency => 20
  | .memoryEfficient => 10

def ofName : String → Option Profile
  | "high_throughput" => some .highThroughput
  | "low_latency" => some .lowLatency
  | "memory_efficient" => some .memoryEfficient
  | _ => none

/-- The profile an environment selects, if what it asks for is one. -/
def selected (env : EnvConfig) : Option Profile :=
  match ServiceConfig.requestedProfile env with
  | some name => ofName (String.ofList (name.map Char.toLower))
  | none => some .unset

end Profile

open ServiceConfig

/-- Whichever profile is selected, the environment overrides it in the same way. -/
theorem tryFrom_ok_iff (debugText : List Char → String) (host : Host) (env : EnvConfig)
    (config : ServiceConfig) :
    tryFrom debugText host env = .ok config ↔
      ∃ profile, Profile.selected env = some profile ∧
        config = applyEnvOverrides (profile.base host) env := by
  rw [tryFrom, Profile.selected]
  cases requestedProfile env with
  | none => simp [custom_eq, Profile.base, eq_comm]
  | some name =>
      simp only [Profile.ofName]
      split <;> simp [Profile.base, eq_comm]

end ImageResizer

/-!
# Deployment configuration

The part of `PerformanceConfig` (`config/performance.rs`) that a request's fetch and
processing read.
-/

namespace ImageResizer

structure PerformanceConfig where
  maxImageSize : UInt64
  maxRedirects : UInt8
  allowedSources : Option (List String)
  allowLoopbackSourceAddresses : Bool
  allowLinkLocalSourceAddresses : Bool
  maxSrcResolutionMp : UInt64
  maxOutputWidth : UInt32
  maxOutputHeight : UInt32
  maxAnimationFrames : Nat
  watermarkUrl : Option String
  jpegProgressiveDefault : Bool
  jpegNoSubsamplingDefault : Bool
  deriving DecidableEq

/-- `PerformanceConfig::default`. -/
def PerformanceConfig.default : PerformanceConfig where
  maxImageSize := 50 * 1024 * 1024
  maxRedirects := 5
  allowedSources := none
  allowLoopbackSourceAddresses := false
  allowLinkLocalSourceAddresses := false
  maxSrcResolutionMp := 50
  maxOutputWidth := 4096
  maxOutputHeight := 4096
  maxAnimationFrames := 512
  watermarkUrl := none
  jpegProgressiveDefault := false
  jpegNoSubsamplingDefault := false

end ImageResizer

import ImageResizer.Fetch
import ImageResizer.Pipeline

/-!
# A cache miss

`do_resize_work` of `services/resize/handler.rs` up to the upload: the source is
downloaded, the watermark is downloaded when the request has one, and the CPU stage makes
the bytes and the content type that are stored under the request's key.
-/

namespace ImageResizer

open SourceGuard (UrlLibrary)

/-- A deployment of the service: its configuration, and the network that answers its
downloads of the source and of the watermark. -/
structure Deployment (urls : UrlLibrary) where
  config : PerformanceConfig
  source : Network urls
  watermark : Network urls

variable {Content : Type} (lib : Imaging Content) (codecs : Codecs Content)
variable (encoders : Encoders Content) (urls : UrlLibrary) (statusText : Nat → String)

/-- `do_resize_work`, up to what it uploads. -/
def doResizeWork (deployment : Deployment urls) (query : ResizeQuery) :
    Stage (List UInt8 × String) := do
  let bytes ← Outcome.lift
    (Fetch.downloadImage urls deployment.config deployment.source statusText query.url).result
  let watermarkBytes ← Outcome.lift
    (Fetch.downloadWatermarkIfNeeded urls deployment.config deployment.watermark statusText
      query).result
  processImageBlocking lib codecs encoders query deployment.config bytes watermarkBytes

end ImageResizer

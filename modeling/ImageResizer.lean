import ImageResizer.Foundation.Transition
import ImageResizer.SingleFlight.Once
import ImageResizer.Foundation.Framing
import ImageResizer.Params
import ImageResizer.CacheKey
import ImageResizer.Config
import ImageResizer.SourceGuard
import ImageResizer.Fetch
import ImageResizer.Foundation.Reader
import ImageResizer.Orientation
import ImageResizer.AvifMeta.Work
import ImageResizer.OutputCap
import ImageResizer.NoPanic
import ImageResizer.Foundation.TwoRuns
import ImageResizer.KeyCommitment
import ImageResizer.Storage.Backends
import ImageResizer.Storage.LaterLookups
import ImageResizer.ConditionalGet
import ImageResizer.Url.Substitution
import ImageResizer.Url.Inheritance
import ImageResizer.Signing
import ImageResizer.Sizing.NoUpscale
import ImageResizer.Sizing.Anchoring
import ImageResizer.Trim.Again
import ImageResizer.CanvasGrowth
import ImageResizer.ByteBudget
import ImageResizer.AnimatedWebp
import ImageResizer.WatermarkLayer
import ImageResizer.SourceGuard.Allowlist
import ImageResizer.SourceGuard.Spelling
import ImageResizer.ErrorStatus.ClientFault
import ImageResizer.DecodeGuard
import ImageResizer.AvifMeta.OrientationBoxes
import ImageResizer.AvifMeta.ExifItem
import ImageResizer.ForwardedExif
import ImageResizer.Exif.Neutralized
import ImageResizer.Url.OrderFree
import ImageResizer.Url.Numbers
import ImageResizer.Negotiation
import ImageResizer.Compositing
import ImageResizer.HttpDate
import ImageResizer.AvifMeta.Walk
import ImageResizer.Storage.KeyGrammar
import ImageResizer.Storage.Containment
import ImageResizer.ErrorStatus.UrlText
import ImageResizer.Config.Startup
import ImageResizer.AnimationAgreement
import ImageResizer.ShrinkOnLoad
import ImageResizer.LoadShedding.Progress
import ImageResizer.LoadShedding.Queue
import ImageResizer.ResizeService.Batch
import ImageResizer.ResizeEndpoint.Revalidation
import ImageResizer.Stripping
import ImageResizer.Access
import ImageResizer.Blending.Flattening
import ImageResizer.Blending
import ImageResizer.Shutdown

import ImageResizer.Url.Options

/-!
# The source of a request

The trailing segments of the URL grammar (`modules/url/source.rs`): the marker `plain` and a
percent-encoded URL, or one base64url segment, and behind either the extension that names
the output format.
-/

namespace ImageResizer

open Text

namespace Url

/-- What the source segments are read with. -/
structure Codings where
  base64 : Base64
  percent : PercentCoding

/-- The source URL, and the output format of the extension. -/
structure SourceSpec where
  url : List Char
  format : ImageFormat
  deriving DecidableEq

/-- The segment that introduces a percent-encoded URL. -/
def plainMarker : List Char := "plain".toList

def knownExtensions : List (List Char) :=
  ["jpg", "jpeg", "png", "webp", "avif", "gif", "auto"].map String.toList

/-- `ImageFormat::from_str`. -/
def imageFormatFromStr (s : List Char) : Except Message ImageFormat :=
  match String.ofList s with
  | "jpg" | "jpeg" => .ok .jpg
  | "png" => .ok .png
  | "webp" => .ok .webp
  | "avif" => .ok .avif
  | "gif" => .ok .gif
  | "auto" => .ok .auto
  | _ =>
      .error [.text "unsupported image format ", .debug s,
        .text " (expected jpg, jpeg, png, webp, avif, gif or auto)"]

/-- The text before the last `.`, and the format the extension after it names. -/
def splitExtension (s : List Char) : Parsed (List Char × ImageFormat) :=
  match rsplitOnce '.' s with
  | none =>
      .error (.invalidSource [.text "missing required .<extension> suffix in ", .debug s])
  | some (base, ext) =>
      if !knownExtensions.contains ext then
        .error (.invalidSource
          [.text "unrecognized extension ", .debug ext,
            .text (" (expected one of [\"jpg\", \"jpeg\", \"png\", \"webp\", \"avif\", " ++
              "\"gif\", \"auto\"])")])
      else (fun format => (base, format)) <$> (imageFormatFromStr ext).mapError .invalidSource

def parsePlainSource (percent : PercentCoding) (rest : List (List Char)) : Parsed SourceSpec :=
  if rest = [] then .error .emptySource
  else do
    let (rawUrl, format) ← splitExtension (['/'].intercalate rest)
    match percent.decode rawUrl with
    | none => .error (.invalidSource [.text "invalid percent-encoding: ", .percent rawUrl])
    | some url => if url = [] then .error .emptySource else return ⟨url, format⟩

def parseBase64Source (base64 : Base64) (segments : List (List Char)) : Parsed SourceSpec :=
  match segments with
  | [segment] => do
      let (encoded, format) ← splitExtension segment
      match base64.decode encoded with
      | none => .error (.invalidSource [.text "invalid base64url source: ", .base64 encoded])
      | some bytes =>
          match decodeUtf8 bytes with
          | none => .error (.invalidSource [.text "source is not valid UTF-8: ", .utf8 bytes])
          | some url => if url = [] then .error .emptySource else return ⟨url, format⟩
  | _ =>
      .error (.invalidSource
        [.text "base64-encoded source must be a single path segment (no unescaped '/')"])

/-- `parse_source`. -/
def parseSource (codings : Codings) (segments : List (List Char)) : Parsed SourceSpec :=
  match segments with
  | [] => .error .emptySource
  | first :: rest =>
      if first = plainMarker then parsePlainSource codings.percent rest
      else parseBase64Source codings.base64 segments

/-! ## Reading what was written -/

/-- The extensions of the grammar and the formats they stand for. -/
def extensionFormats : List (List Char × ImageFormat) :=
  [("jpg".toList, .jpg), ("jpeg".toList, .jpg), ("png".toList, .png), ("webp".toList, .webp),
    ("avif".toList, .avif), ("gif".toList, .gif), ("auto".toList, .auto)]

theorem extension_known {ext : List Char} {format : ImageFormat}
    (listed : (ext, format) ∈ extensionFormats) :
    knownExtensions.contains ext = true ∧ imageFormatFromStr ext = .ok format ∧
      '.' ∉ ext ∧ '/' ∉ ext ∧ ':' ∉ ext := by
  have every : ∀ pair ∈ extensionFormats, knownExtensions.contains pair.1 = true ∧
      imageFormatFromStr pair.1 = .ok pair.2 ∧ '.' ∉ pair.1 ∧ '/' ∉ pair.1 ∧ ':' ∉ pair.1 := by
    decide
  exact every (ext, format) listed

/-- Only the last `.` counts, so the text before it may hold any number of them. -/
theorem splitExtension_append (base : List Char) {ext : List Char} {format : ImageFormat}
    (listed : (ext, format) ∈ extensionFormats) :
    splitExtension (base ++ '.' :: ext) = .ok (base, format) := by
  obtain ⟨known, named, clean, _⟩ := extension_known listed
  have last : rsplitOnce '.' (base ++ '.' :: ext) = some (base, ext) :=
    rsplitOnce_eq_some_iff.mpr ⟨rfl, clean⟩
  simp only [splitExtension, last, known, named, Bool.not_true, Bool.false_eq_true, if_false]
  rfl

theorem parseSource_base64 (codings : Codings) {url ext : List Char} {format : ImageFormat}
    (nonempty : url ≠ []) (listed : (ext, format) ∈ extensionFormats) :
    parseSource codings [codings.base64.encode (encodeUtf8 url) ++ '.' :: ext] =
      .ok ⟨url, format⟩ := by
  have notMarker : codings.base64.encode (encodeUtf8 url) ++ '.' :: ext ≠ plainMarker := by
    intro same
    have dot : '.' ∈ plainMarker := same ▸ by simp
    exact absurd dot (by decide)
  simp only [parseSource, notMarker, if_false, parseBase64Source,
    splitExtension_append _ listed, Except.bind, bind, Base64.decode_encode,
    decodeUtf8_encodeUtf8, nonempty]
  rfl

theorem parseSource_plain (codings : Codings) {escaped url ext : List Char}
    {format : ImageFormat} (decoded : codings.percent.decode escaped = some url)
    (nonempty : url ≠ []) (listed : (ext, format) ∈ extensionFormats) :
    parseSource codings (plainMarker :: (escaped ++ '.' :: ext).splitOn '/') =
      .ok ⟨url, format⟩ := by
  have some_segment : (escaped ++ '.' :: ext).splitOn '/' ≠ [] := List.splitOn_ne_nil _ _
  simp only [parseSource, if_true, parsePlainSource, some_segment, if_false,
    List.intercalate_splitOn, splitExtension_append _ listed, Except.bind, bind, decoded, nonempty]
  rfl

end Url

end ImageResizer

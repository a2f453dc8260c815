import ImageResizer.ErrorStatus
import ImageResizer.ErrorStatus.ClientFault

/-!
# The words of a URL in an error

Some failures of a download are reported with the URL in their message, and the status
goes by the words of the message: the same failure has another status on another URL.
-/

namespace ImageResizer

open Text
open Storage (containsText)

/-- The ways a download fails that the URL has no part in. -/
inductive UpstreamFailure where
  /-- The request got no response. -/
  | connection (cause : String)
  /-- The response is no success. -/
  | status (code : Nat)
  /-- The last response allowed is a redirect. -/
  | redirectLimit
  /-- The response announces a body over the cap. -/
  | oversizeAnnounced (length : UInt64)
  /-- The body goes over the cap. -/
  | oversizeStreamed

/-- What the download of a URL fails with. -/
def UpstreamFailure.on (config : PerformanceConfig) (statusText : Nat → String) (url : String) :
    UpstreamFailure → Failure
  | .connection cause =>
      (Failure.message cause).context ("Request to source URL '" ++ url ++ "' failed")
  | .status code =>
      .message ("Failed to download image from " ++ url ++ ": status " ++ statusText code)
  | .redirectLimit => .message
      ("Too many redirects while fetching source image (max " ++
        Nat.repr config.maxRedirects.toNat ++ ")")
  | .oversizeAnnounced length => .message ("Image too large: " ++ Nat.repr length.toNat ++
      " bytes (max: " ++ Nat.repr config.maxImageSize.toNat ++ " bytes)")
  | .oversizeStreamed => .message ("Image too large: exceeded " ++
      Nat.repr config.maxImageSize.toNat ++ " bytes while streaming from " ++ url)

/-! ## What a download fails with -/

section Download

variable {lib : SourceGuard.UrlLibrary} {config : PerformanceConfig} {network : Network lib}
variable {statusText : Nat → String}

end Download

/-! ## Words around a URL -/

/-- The words that decide about a status. -/
def statusWords : List (List Char) :=
  ["too large".toList, "decode".toList, "permit".toList, "cancelled".toList, "encode".toList]

/-- What stands in quotes keeps its words. -/
theorem mentions_connection {word : List Char} (known : word ∈ statusWords) (url : String) :
    mentions ("Request to source URL '" ++ url ++ "' failed") word = mentions url word := by
  have plain : ∀ word ∈ statusWords, Char.ofNat 39 ∉ word := by decide
  have absent : ∀ word ∈ statusWords, ¬ word <:+: "request to source url ".toList ∧
      ¬ word <:+: " failed".toList := by decide +kernel
  have front : "Request to source URL '".toList.map Char.toLower =
      "request to source url ".toList ++ [Char.ofNat 39] := by decide +kernel
  have back : "' failed".toList.map Char.toLower = Char.ofNat 39 :: " failed".toList := by
    decide +kernel
  rw [Bool.eq_iff_iff, mentions_iff, mentions_iff, String.toList_append, String.toList_append,
    List.map_append, List.map_append, front, back, List.append_assoc, List.append_assoc,
    List.singleton_append, infix_append_cons_iff (plain word known),
    infix_append_cons_iff (plain word known)]
  obtain ⟨notBefore, notBehind⟩ := absent word known
  rw [or_iff_right notBefore, or_iff_left notBehind]

/-- No word begins in the text before a URL and ends in it. -/
theorem mentions_status {word : List Char} (known : word ∈ statusWords) (url status : String) :
    mentions ("Failed to download image from " ++ url ++ ": status " ++ status) word =
      (mentions url word || mentions status word) := by
  have plain : ∀ word ∈ statusWords, ':' ∉ word := by decide
  have front : ∀ word ∈ statusWords,
      ∀ rest ∈ ("Failed to download image from ".toList.map Char.toLower).tails,
        rest ≠ [] → ¬ rest <+: word ∧ ¬ word <+: rest := by decide +kernel
  have middle : ∀ word ∈ statusWords, ∀ rest ∈ (" status ".toList.map Char.toLower).tails,
      rest ≠ [] → ¬ rest <+: word ∧ ¬ word <+: rest := by decide +kernel
  have colon : ": status ".toList.map Char.toLower =
      ':' :: " status ".toList.map Char.toLower := by decide +kernel
  rw [Bool.eq_iff_iff, Bool.or_eq_true, mentions_iff, mentions_iff, mentions_iff]
  simp only [String.toList_append, List.map_append, List.append_assoc]
  rw [infix_append_iff_of_apart (front word known), colon, List.cons_append,
    infix_append_cons_iff (plain word known), infix_append_iff_of_apart (middle word known)]

/-! ## The status on two URLs -/

/-- A status from the kinds of words in a message. -/
def statusOfWords (caller load encode : Bool) : Nat :=
  if caller then 400 else if load then 503 else if encode then 500 else 502

/-- The words of two URLs are of one kind, as far as those beside them leave it open: words
that blame the caller come first, then those that blame the load, then those of the
encoder. -/
def SameWords (beside first second : String) : Prop :=
  blamesCaller beside = false →
    blamesCaller first = blamesCaller second ∧ (blamesCaller first = false →
      blamesLoad beside = false →
        blamesLoad first = blamesLoad second ∧ (blamesLoad first = false →
          mentions beside "encode".toList = false →
            mentions first "encode".toList = mentions second "encode".toList))

theorem statusOfWords_eq_iff
    (caller load encode caller' load' encode' caller'' load'' encode'' : Bool) :
    statusOfWords (caller' || caller) (load' || load) (encode' || encode) =
        statusOfWords (caller'' || caller) (load'' || load) (encode'' || encode) ↔
      (caller = false → caller' = caller'' ∧ (caller' = false → load = false →
        load' = load'' ∧ (load' = false → encode = false → encode' = encode''))) := by
  revert load load' load'' encode encode' encode''
  cases caller <;> cases caller' <;> cases caller'' <;> decide

/-- A message whose words are those of a URL and of a text beside it. -/
theorem statusOfText_beside {message url beside : String}
    (words : ∀ word ∈ statusWords,
      mentions message word = (mentions url word || mentions beside word)) :
    statusOfText message =
      statusOfWords (blamesCaller url || blamesCaller beside) (blamesLoad url || blamesLoad beside)
        (mentions url "encode".toList || mentions beside "encode".toList) := by
  have callers : blamesCaller message = (blamesCaller url || blamesCaller beside) := by
    rw [blamesCaller, words _ (by decide), words _ (by decide), blamesCaller, blamesCaller]
    ac_rfl
  have loads : blamesLoad message = (blamesLoad url || blamesLoad beside) := by
    rw [blamesLoad, words _ (by decide), words _ (by decide), blamesLoad, blamesLoad]
    ac_rfl
  rw [statusOfText, callers, loads, words _ (by decide)]
  rfl

/-- The condition under which a failure has one status on two URLs. -/
def UpstreamFailure.SameOn (statusText : Nat → String) (first second : String) :
    UpstreamFailure → Prop
  | .connection _ => SameWords "" first second
  | .status code => SameWords (statusText code) first second
  | .redirectLimit | .oversizeAnnounced _ | .oversizeStreamed => True

/-- **Statuses and URLs.**  A failed download has the same status on two URLs exactly when
their words are of one kind, where the message holds the URL and nothing else decides. -/
theorem upstream_status_iff (config : PerformanceConfig) (statusText : Nat → String)
    (failure : UpstreamFailure) (first second : String) :
    (classifyResizeError (failure.on config statusText first)).statusCode =
        (classifyResizeError (failure.on config statusText second)).statusCode ↔
      failure.SameOn statusText first second := by
  cases failure with
  | connection cause =>
      have silent : ∀ word ∈ statusWords, mentions "" word = false := by decide +kernel
      have words (url : String) := @statusOfText_beside _ url ""
        fun word known => (mentions_connection known url).trans (by simp [silent word known])
      have status (url : String) :
          (classifyResizeError
              ((UpstreamFailure.connection cause).on config statusText url)).statusCode =
            statusOfText ("Request to source URL '" ++ url ++ "' failed") := statusCode_eq
      simp only [status, words, statusOfWords_eq_iff]
      rfl
  | status code =>
      have words (url : String) := statusOfText_beside fun _ known =>
        mentions_status known url (statusText code)
      simp only [UpstreamFailure.on, statusCode_message, words, statusOfWords_eq_iff]
      rfl
  | redirectLimit => exact iff_of_true rfl trivial
  | oversizeAnnounced length => exact iff_of_true rfl trivial
  | oversizeStreamed =>
      have status (url : String) :
          (classifyResizeError
              (UpstreamFailure.oversizeStreamed.on config statusText url)).statusCode = 400 := by
        have words : blamesCaller "Image too large: exceeded " = true := by decide
        rw [UpstreamFailure.on, statusCode_message, statusOfText_eq_iff]
        simp only [String.append_assoc]
        exact blamesCaller_append words _
      exact iff_of_true ((status first).trans (status second).symm) trivial

/-- A missing image is the upstream's fault, unless its URL mentions a permit. -/
theorem status_depends_on_url :
    ¬ ∀ (config : PerformanceConfig) (statusText : Nat → String) (failure : UpstreamFailure)
        (first second : String),
      (classifyResizeError (failure.on config statusText first)).statusCode =
        (classifyResizeError (failure.on config statusText second)).statusCode := by
  intro same
  have statuses := same .default (fun _ => "404 Not Found") (.status 404)
    "https://example.com/cat.png" "https://example.com/permit.png"
  exact absurd statuses (by decide +kernel)

end ImageResizer

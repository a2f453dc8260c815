import ImageResizer.SourceGuard

/-!
# The allowlist on path boundaries

An allowlist entry names an origin and a path, and is meant to cover that path and what lies
under it.  The origin is compared part by part.  The path is compared as text, so an entry
also covers the paths that continue its last segment.
-/

namespace ImageResizer.SourceGuard

section Paths

variable {α : Type}

/-- One path is the other, or lies under it. -/
def LiesUnder (separator : α) (entry path : List α) : Prop :=
  path = entry ∨ entry.getLast? = some separator ∧ entry <+: path ∨ entry ++ [separator] <+: path

/-- One path continues the last segment of the other. -/
def ContinuesSegment (separator : α) (entry path : List α) : Prop :=
  entry.getLast? ≠ some separator ∧ ∃ next, next ≠ separator ∧ entry ++ [next] <+: path

/-- The longer of a path and a prefix of it goes on with some element. -/
theorem prefix_iff_eq_or_next (entry path : List α) :
    entry <+: path ↔ path = entry ∨ ∃ next, entry ++ [next] <+: path := by
  constructor
  · rintro ⟨rest, rfl⟩
    cases rest with
    | nil => exact .inl (List.append_nil entry)
    | cons next rest => exact .inr ⟨next, rest, by simp⟩
  · rintro (rfl | ⟨next, rest, rfl⟩)
    · exact List.prefix_rfl
    · exact ⟨next :: rest, by simp⟩

/-- A path has one element after a prefix. -/
theorem next_unique {entry path : List α} {first second : α} (left : entry ++ [first] <+: path)
    (right : entry ++ [second] <+: path) : first = second := by
  have same := List.prefix_of_prefix_length_le left right (by simp)
  simpa using same.eq_of_length (by simp)

theorem LiesUnder.of_start {separator : α} {entry path : List α} (below : entry <+: path)
    (boundary : ¬ ContinuesSegment separator entry path) : LiesUnder separator entry path := by
  rcases (prefix_iff_eq_or_next entry path).mp below with same | ⟨next, longer⟩
  case inl => exact .inl same
  case inr =>
      by_cases ends : entry.getLast? = some separator
      case pos => exact .inr (.inl ⟨ends, below⟩)
      case neg =>
          by_cases separated : next = separator
          case pos => exact .inr (.inr (separated ▸ longer))
          case neg => exact absurd ⟨ends, next, separated, longer⟩ boundary

theorem LiesUnder.isPrefix {separator : α} {entry path : List α}
    (under : LiesUnder separator entry path) : entry <+: path := by
  rcases under with rfl | ⟨-, below⟩ | longer
  · exact List.prefix_rfl
  · exact below
  · exact (List.prefix_append entry [separator]).trans longer

/-- What continues a segment does not lie under it. -/
theorem ContinuesSegment.not_liesUnder {separator : α} {entry path : List α}
    (continues : ContinuesSegment separator entry path) : ¬ LiesUnder separator entry path := by
  obtain ⟨open_, next, different, longer⟩ := continues
  rintro (rfl | ⟨ends, -⟩ | separated)
  · have length := longer.length_le
    simp at length
  · exact open_ ends
  · exact different (next_unique longer separated)

theorem ContinuesSegment.isPrefix {separator : α} {entry path : List α}
    (continues : ContinuesSegment separator entry path) : entry <+: path := by
  obtain ⟨-, next, -, longer⟩ := continues
  exact (List.prefix_append entry [next]).trans longer

end Paths

variable (lib : UrlLibrary) (url : lib.Url) (entry : String)

/-- Two URLs agree on the scheme, on a host that both have, and on the effective port. -/
def SameOrigin (url other : lib.Url) : Prop :=
  lib.scheme url = lib.scheme other ∧ (lib.hostStr url).isSome ∧
    lib.hostStr url = lib.hostStr other ∧
    lib.portOrKnownDefault url = lib.portOrKnownDefault other

/-- What an entry is meant to cover: its path and what lies under it, at its origin. -/
def Covered : Prop :=
  ∃ entryUrl, lib.parse entry = .ok entryUrl ∧ SameOrigin lib url entryUrl ∧
    LiesUnder '/' (lib.path entryUrl).toList (lib.path url).toList

/-- The URL is at the entry's origin, and its path goes on where the last segment of the
entry's path ends. -/
def LooksAlike : Prop :=
  ∃ entryUrl, lib.parse entry = .ok entryUrl ∧ SameOrigin lib url entryUrl ∧
    ContinuesSegment '/' (lib.path entryUrl).toList (lib.path url).toList

theorem matchesAllowedPrefix_iff :
    matchesAllowedPrefix lib url entry = true ↔
      ∃ entryUrl, lib.parse entry = .ok entryUrl ∧ SameOrigin lib url entryUrl ∧
        (lib.path entryUrl).toList <+: (lib.path url).toList := by
  unfold matchesAllowedPrefix SameOrigin
  cases lib.parse entry with
  | error cause => simp
  | ok entryUrl => simp [and_assoc]

/-- An entry covers a URL exactly when it should, unless the URL looks alike. -/
theorem matchesAllowedPrefix_covered_iff :
    (matchesAllowedPrefix lib url entry = true ↔ Covered lib url entry) ↔
      ¬ LooksAlike lib url entry := by
  rw [matchesAllowedPrefix_iff]
  constructor
  · rintro agrees ⟨entryUrl, parsed, origin, continues⟩
    obtain ⟨otherUrl, otherParsed, -, under⟩ :=
      agrees.mp ⟨entryUrl, parsed, origin, continues.isPrefix⟩
    obtain rfl := Except.ok.inj (parsed.symm.trans otherParsed)
    exact continues.not_liesUnder under
  · intro distinct
    constructor
    · rintro ⟨entryUrl, parsed, origin, below⟩
      have boundary : ¬ ContinuesSegment '/' (lib.path entryUrl).toList (lib.path url).toList :=
        fun continues => distinct ⟨entryUrl, parsed, origin, continues⟩
      exact ⟨entryUrl, parsed, origin, .of_start below boundary⟩
    · rintro ⟨entryUrl, parsed, origin, under⟩
      exact ⟨entryUrl, parsed, origin, under.isPrefix⟩

/-- URLs of one origin, given by their paths. -/
def cdnUrls : UrlLibrary where
  Url := String
  parse text :=
    if text = "https://cdn.example.com/images" then .ok "/images"
    else if text = "https://cdn.example.com/images-private/key.png" then
      .ok "/images-private/key.png"
    else .error "relative URL without a base"
  join _ _ := .error "relative URL without a base"
  scheme _ := "https"
  hostStr _ := some "cdn.example.com"
  portOrKnownDefault _ := some 443
  path path := path
  toString path := "https://cdn.example.com" ++ path

/-- An entry for one directory also covers its neighbour. -/
theorem neighbour_covered :
    cdnUrls.parse "https://cdn.example.com/images-private/key.png" =
        .ok "/images-private/key.png" ∧
      matchesAllowedPrefix cdnUrls "/images-private/key.png" "https://cdn.example.com/images" =
        true ∧
      ¬ Covered cdnUrls "/images-private/key.png" "https://cdn.example.com/images" := by
  refine ⟨rfl, by decide, ?_⟩
  rintro ⟨entryUrl, parsed, -, under⟩
  obtain rfl : "/images" = entryUrl := Except.ok.inj parsed
  have continues : ContinuesSegment '/' "/images".toList "/images-private/key.png".toList :=
    ⟨by decide, '-', by decide, by decide⟩
  exact continues.not_liesUnder under

end ImageResizer.SourceGuard

import ImageResizer.Foundation.UnixPath
import ImageResizer.Storage.LocalFs

/-!
# Containment of keys

The paths the local-filesystem backend builds, as texts that are pushed onto one another.
Whatever the key, a path that is built is the base directory followed by names, each one
level down; but no path is built, and the split of the key panics, when the 64 bytes before
its last dot begin inside a character.
-/

namespace ImageResizer.Storage

open Text UnixPath

/-- `sanitize_relative`, as a text. -/
def sanitizeRelativeText (input : List Char) : List Char :=
  (input.splitOn '/').foldl (fun out segment =>
    if segment = [] ∨ segment = ['.'] ∨ segment = ['.', '.'] then out
    else UnixPath.push out segment) []

/-- `relative_path`, as a text. -/
def relativePathText (key : List Char) : Outcome Failure (List Char) := do
  match ← splitKey key with
  | some (subPath, hash, ext) =>
      if hash ≠ [] ∧ hash.all isHexDigit then
        let shardLen := min hash.length shardPrefixLen
        let path := UnixPath.push (sanitizeRelativeText subPath) (hash.take shardLen)
        pure (UnixPath.push path (hash ++ '.' :: ext))
      else pure (sanitizeRelativeText key)
  | none => pure (sanitizeRelativeText key)

/-- `resolve`, as a text. -/
def resolveText (basePath key : List Char) : Outcome Failure (List Char) := do
  let relative ← relativePathText key
  pure (UnixPath.push basePath relative)

/-! ## The names of a path -/

/-- The components of the text are these names. -/
structure Names (text : List Char) (names : Path) : Prop where
  components : components text = names.map Component.normal
  normal : ∀ name ∈ names, NormalName name

/-- Parts that are all names, apart from what is skipped, are these names. -/
theorem filter_of_parts {segments : List (List Char)} {names : Path}
    (parts : segments.filterMap part = names.map Component.normal) :
    segments.filter (fun segment => segment ≠ [] ∧ segment ≠ ['.']) = names := by
  induction segments generalizing names with
  | nil =>
      cases names with
      | nil => rfl
      | cons name names => cases parts
  | cons segment segments ih =>
      by_cases skipped : segment = [] ∨ segment = ['.']
      case pos =>
          have nothing : part segment = none := if_pos skipped
          have dropped : ¬ (segment ≠ [] ∧ segment ≠ ['.']) := by tauto
          rw [List.filterMap_cons_none nothing] at parts
          rw [List.filter_cons_of_neg (by simpa using dropped)]
          exact ih parts
      case neg =>
          have kept : segment ≠ [] ∧ segment ≠ ['.'] := by tauto
          rw [List.filter_cons_of_pos (by simpa using kept)]
          by_cases parent : segment = ['.', '.']
          case pos =>
              have up : part segment = some .parentDir := (if_neg skipped).trans (if_pos parent)
              rw [List.filterMap_cons_some up] at parts
              cases names <;> cases parts
          case neg =>
              have down : part segment = some (.normal segment) :=
                (if_neg skipped).trans (if_neg parent)
              rw [List.filterMap_cons_some down] at parts
              cases names with
              | nil => cases parts
              | cons name names =>
                  obtain ⟨same, later⟩ := List.cons.inj parts
                  cases same
                  rw [ih later]

namespace Names

variable {path text : List Char} {front names : Path}

theorem leading_eq (found : Names text names) : leading text = [] := by
  have first := found.components
  rw [UnixPath.components, UnixPath.leading] at first
  rw [UnixPath.leading]
  split at first
  case isTrue => cases names <;> cases first
  case isFalse =>
      split at first
      case isTrue => cases names <;> cases first
      case isFalse notRoot notDot => rw [if_neg notRoot, if_neg notDot]

/-- Pushing names onto names. -/
theorem push (before : Names path front) (pushed : Names text names) :
    Names (UnixPath.push path text) (front ++ names) where
  components := by
    rw [components_push path pushed.leading_eq, before.components, pushed.components,
      List.map_append]
  normal := by
    intro name member
    rcases List.mem_append.mp member with inFront | inBack
    · exact before.normal name inFront
    · exact pushed.normal name inBack

theorem of_normal {name : List Char} (normal : NormalName name) : Names name [name] :=
  ⟨normal.components_eq, by simpa using normal⟩

/-- A text all of whose parts are names or empty. -/
theorem of_parts (relative : text.head? ≠ some '/')
    (parts : ∀ part ∈ text.splitOn '/', part = [] ∨ NormalName part) :
    Names text ((text.splitOn '/').filter (· ≠ [])) where
  components := by
    have notDot : (text.splitOn '/').head? ≠ some ['.'] := by
      intro dot
      rcases parts ['.'] (List.mem_of_mem_head? dot) with empty | normal
      · cases empty
      · exact normal.2.1 rfl
    rw [UnixPath.components, UnixPath.leading, if_neg relative, if_neg notDot, List.nil_append]
    generalize text.splitOn '/' = segments at parts
    induction segments with
    | nil => rfl
    | cons segment segments ih =>
        have later := ih fun part member => parts part (List.mem_cons_of_mem _ member)
        rcases parts segment (List.mem_cons_self ..) with rfl | normal
        · simpa [UnixPath.part] using later
        · simp [normal.part_eq, normal.1, later]
  normal := by
    intro name member
    obtain ⟨isPart, nonempty⟩ := List.mem_filter.mp member
    rcases parts name isPart with rfl | normal
    · simp at nonempty
    · exact normal

/-- A push of a relative text onto a list of names adds its names. -/
theorem push_eq (found : Names text names) (path : Path) :
    Storage.push path text = path ++ names := by
  have parts := found.components
  rw [UnixPath.components, found.leading_eq, List.nil_append] at parts
  rw [Storage.push, filter_of_parts parts]

end Names

/-- What sanitizing leaves are names. -/
theorem sanitizeRelative_names (input : List Char) :
    Names (sanitizeRelativeText input) (sanitizeRelative input) := by
  have each (segments : List (List Char)) (plain : ∀ segment ∈ segments, '/' ∉ segment)
      (out : List Char) (before : Path) (found : Names out before) :
      Names (segments.foldl (fun out segment =>
          if segment = [] ∨ segment = ['.'] ∨ segment = ['.', '.'] then out
          else UnixPath.push out segment) out)
        (before ++ segments.filter fun segment =>
          segment ≠ [] ∧ segment ≠ ['.'] ∧ segment ≠ ['.', '.']) := by
    induction segments generalizing out before with
    | nil => simpa using found
    | cons segment segments ih =>
        have later := fun other member => plain other (List.mem_cons_of_mem _ member)
        rw [List.foldl_cons]
        by_cases skipped : segment = [] ∨ segment = ['.'] ∨ segment = ['.', '.']
        case pos =>
            have dropped : ¬ (segment ≠ [] ∧ segment ≠ ['.'] ∧ segment ≠ ['.', '.']) := by
              tauto
            rw [if_pos skipped, List.filter_cons_of_neg (by simpa using dropped)]
            exact ih later out before found
        case neg =>
            have kept : segment ≠ [] ∧ segment ≠ ['.'] ∧ segment ≠ ['.', '.'] := by
              tauto
            have normal : NormalName segment :=
              ⟨kept.1, kept.2.1, kept.2.2, plain segment (List.mem_cons_self ..)⟩
            rw [if_neg skipped, List.filter_cons_of_pos (by simpa using kept)]
            have pushed := ih later _ _ (found.push (Names.of_normal normal))
            rwa [List.append_assoc, List.singleton_append] at pushed
  have whole := each (input.splitOn '/') (fun _ => not_mem_of_mem_splitOn) [] [] ⟨rfl, by simp⟩
  rwa [List.nil_append] at whole

/-- The characters of a part are characters of the text. -/
theorem mem_of_mem_part {sep c : Char} {text part : List Char} (member : part ∈ text.splitOn sep)
    (inPart : c ∈ part) : c ∈ text := by
  induction text generalizing part with
  | nil =>
      rw [List.splitOn_nil, List.mem_singleton] at member
      rw [member] at inPart
      exact inPart
  | cons d rest ih =>
      rw [List.splitOn_cons_eq_if_modifyHead] at member
      split at member
      case isTrue =>
          rcases List.mem_cons.mp member with rfl | later
          · cases inPart
          · exact List.mem_cons_of_mem _ (ih later inPart)
      case isFalse =>
          cases parts : rest.splitOn sep with
          | nil => exact absurd parts (List.splitOn_ne_nil _ _)
          | cons first more =>
              rw [parts] at member ih
              rcases List.mem_cons.mp member with rfl | later
              · rcases List.mem_cons.mp inPart with rfl | inFirst
                · exact List.mem_cons_self ..
                · exact List.mem_cons_of_mem _ (ih (List.mem_cons_self ..) inFirst)
              · exact List.mem_cons_of_mem _ (ih (List.mem_cons_of_mem _ later) inPart)

/-- The file name of a key is made of names, whatever its extension. -/
theorem fileName_names {hash ext : List Char} (nonempty : hash ≠ []) (hex : hash.all isHexDigit)
    (noDot : '.' ∉ ext) :
    ∃ names, Names (hash ++ '.' :: ext) names := by
  have digits := List.all_eq_true.mp hex
  have plainHash : '/' ∉ hash := fun member => absurd (digits _ member) (by decide)
  obtain ⟨digit, rest, rfl⟩ := List.exists_cons_of_ne_nil nonempty
  have notDot : digit ≠ '.' := by
    rintro rfl
    exact absurd (digits '.' (List.mem_cons_self ..)) (by decide)
  have notSlash : digit ≠ '/' := by
    rintro rfl
    exact plainHash (List.mem_cons_self ..)
  -- What is in front of the first slash begins with a digit.
  have first (front : List Char) (plain : '/' ∉ front) :
      NormalName ((digit :: rest) ++ '.' :: front) := by
    refine ⟨by simp, by simp, by simp [notDot], ?_⟩
    intro member
    rcases List.mem_append.mp member with inHash | later
    · exact plainHash inHash
    · exact plain (by simpa using later)
  refine ⟨_, Names.of_parts (by simpa using notSlash) ?_⟩
  intro part member
  by_cases slash : '/' ∈ ext
  case neg =>
      have alone := (first ext slash).2.2.2
      rw [List.splitOn_eq_singleton alone, List.mem_singleton] at member
      exact Or.inr (member ▸ first ext slash)
  case pos =>
      obtain ⟨front, back, rfl, plain⟩ := List.eq_append_cons_of_mem slash
      rw [← List.cons_append, ← List.append_assoc,
        List.splitOn_append_cons_self_of_not_mem (first front plain).2.2.2] at member
      rcases List.mem_cons.mp member with rfl | later
      case inl => exact Or.inr (first front plain)
      case inr =>
          have noDotHere : '.' ∉ part := by
            intro inPart
            apply noDot
            simp [mem_of_mem_part later inPart]
          by_cases empty : part = []
          case pos => exact Or.inl empty
          case neg =>
              refine Or.inr ⟨empty, ?_, ?_, not_mem_of_mem_splitOn later⟩
              · rintro rfl
                simp at noDotHere
              · rintro rfl
                simp at noDotHere

/-- A shard directory is named by digits. -/
theorem shard_normal {hash : List Char} (nonempty : hash ≠ []) (hex : hash.all isHexDigit) :
    NormalName (hash.take (min hash.length shardPrefixLen)) := by
  obtain ⟨digit, rest, rfl⟩ := List.exists_cons_of_ne_nil nonempty
  have digits : ∀ c ∈ (digit :: rest).take (min (digit :: rest).length shardPrefixLen),
      isHexDigit c := fun c member => List.all_eq_true.mp hex c (List.mem_of_mem_take member)
  have absent {c : Char} (other : isHexDigit c = false) :
      c ∉ (digit :: rest).take (min (digit :: rest).length shardPrefixLen) :=
    fun member => Bool.false_ne_true (other.symm.trans (digits c member))
  have noDot := absent (c := '.') (by decide)
  refine ⟨?_, ?_, ?_, absent (by decide)⟩
  · simp [shardPrefixLen]
  · intro dot
    rw [dot] at noDot
    simp at noDot
  · intro dots
    rw [dots] at noDot
    simp at noDot

/-! ## Splitting a key -/

/-- The 64 bytes before the last dot begin at a character, if there are as many. -/
def HashOnBoundary (key : List Char) : Prop :=
  ∀ beforeExt ext, key = beforeExt ++ '.' :: ext → '.' ∉ ext → hashLen ≤ utf8Len beforeExt →
    ∃ front hash, beforeExt = front ++ hash ∧ utf8Len hash = hashLen

/-- The split panics exactly off a character boundary. -/
theorem splitKey_ok_iff (key : List Char) :
    (∃ parts, (splitKey key : Outcome Failure _) = .ok parts) ↔ HashOnBoundary key := by
  unfold splitKey
  constructor
  · rintro ⟨parts, split⟩ beforeExt ext keyEq noDot enough
    have atDot := rsplitOnce_eq_some_iff.mpr ⟨keyEq, noDot⟩
    simp only [atDot, if_neg (Nat.not_lt.mpr enough)] at split
    cases cut : splitAtByte (utf8Len beforeExt - hashLen) beforeExt with
    | none =>
        rw [cut] at split
        cases split
    | some halves =>
        obtain ⟨whole, length⟩ := splitAtByte_eq_some cut
        refine ⟨halves.1, halves.2, whole, ?_⟩
        have total := congrArg utf8Len whole
        rw [utf8Len_append] at total
        omega
  · intro boundary
    cases atDot : rsplitOnce '.' key with
    | none => exact ⟨none, rfl⟩
    | some halves =>
        obtain ⟨beforeExt, ext⟩ := halves
        obtain ⟨keyEq, noDot⟩ := rsplitOnce_eq_some_iff.mp atDot
        by_cases short : utf8Len beforeExt < hashLen
        case pos => exact ⟨none, by simp only [if_pos short]⟩
        case neg =>
            obtain ⟨front, hash, rfl, hashBytes⟩ :=
              boundary beforeExt ext keyEq noDot (Nat.not_lt.mp short)
            have start : utf8Len (front ++ hash) - hashLen = utf8Len front := by
              rw [utf8Len_append]
              omega
            exact ⟨some (front, hash, ext), by
              simp only [if_neg short, start, splitAtByte_utf8Len]⟩

theorem splitKey_parts {key subPath hash ext : List Char}
    (split : (splitKey key : Outcome Failure _) = .ok (some (subPath, hash, ext))) :
    '.' ∉ ext := by
  unfold splitKey at split
  split at split
  case h_1 => cases split
  case h_2 beforeExt _ atDot =>
      split at split
      case isTrue => cases split
      case isFalse =>
          split at split
          case h_1 => cases split
          case h_2 =>
              cases split
              exact (rsplitOnce_eq_some_iff.mp atDot).2

/-- The path of a key that is split, in both readings. -/
theorem relativePath_names {key : List Char}
    (splits : ∃ parts, (splitKey key : Outcome Failure _) = .ok parts) :
    ∃ text names, relativePathText key = .ok text ∧ relativePath key = .ok names ∧
      Names text names := by
  obtain ⟨parts, split⟩ := splits
  unfold relativePathText relativePath
  rw [split, Outcome.ok_bind, Outcome.ok_bind]
  cases parts with
  | none => exact ⟨_, _, rfl, rfl, sanitizeRelative_names key⟩
  | some parts =>
      obtain ⟨subPath, hash, ext⟩ := parts
      by_cases shape : hash ≠ [] ∧ hash.all isHexDigit
      case neg =>
          simp only [if_neg shape]
          exact ⟨_, _, rfl, rfl, sanitizeRelative_names key⟩
      case pos =>
          simp only [if_pos shape]
          obtain ⟨nonempty, hex⟩ := shape
          have shard := Names.of_normal (shard_normal nonempty hex)
          obtain ⟨fileNames, file⟩ := fileName_names nonempty hex (splitKey_parts split)
          rw [shard.push_eq, file.push_eq]
          exact ⟨_, _, rfl, rfl, ((sanitizeRelative_names subPath).push shard).push file⟩

/-! ## Containment -/

/-- Both functions return, and the path is the base directory and then only names. -/
def Contained (basePath key : List Char) : Prop :=
  ∃ relative path names, relativePathText key = .ok relative ∧
    resolveText basePath key = .ok path ∧ Names relative names ∧
    components path = components basePath ++ names.map Component.normal

/-- A key whose hash would begin inside its first character. -/
def multibyteKey : List Char := 'é' :: (List.replicate 63 'a' ++ ".jpg".toList)

theorem resolve_not_total : ¬ ∀ basePath key, Contained basePath key := by
  intro always
  obtain ⟨relative, _, _, returned, -⟩ := always [] multibyteKey
  have panics : relativePathText multibyteKey = Outcome.panic := by rfl
  rw [panics] at returned
  cases returned

/-- **Path containment.**  The path of a key is built, inside the base directory, exactly
when the 64 bytes before its last dot begin at a character, or are fewer. -/
theorem resolve_contained_iff (basePath key : List Char) :
    Contained basePath key ↔ HashOnBoundary key := by
  constructor
  · rintro ⟨relative, _, _, returned, -⟩
    rw [relativePathText] at returned
    obtain ⟨parts, split, -⟩ := (Outcome.bind_ok_iff ..).mp returned
    exact (splitKey_ok_iff key).mp ⟨parts, split⟩
  · intro boundary
    obtain ⟨relative, names, returned, -, found⟩ :=
      relativePath_names ((splitKey_ok_iff key).mpr boundary)
    refine ⟨relative, UnixPath.push basePath relative, names, returned, ?_, found, ?_⟩
    · rw [resolveText, returned]
      rfl
    · rw [components_push basePath found.leading_eq, found.components]

end ImageResizer.Storage

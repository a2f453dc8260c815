import ImageResizer.Encode
import ImageResizer.Foundation.Recorded

/-!
# The byte budget

`encode_with_max_bytes` is a binary search cut off after six steps, with the best output so
far beside it.  Nothing is assumed of how sizes depend on quality: the qualities that fit
stay below the interval and those that do not stay above it, which is enough for the best
output, and as long as nothing fits the interval halves towards the lowest quality.
-/

namespace ImageResizer

open Recording

section Search

variable (maxBytes : Nat) (encodeAt : Nat → Stage (List UInt8))

/-- A `u8` addition. -/
def u8Add (a b : Nat) : Stage Nat := do
  .assert (a + b ≤ 255)
  pure (a + b)

/-- A `u8` subtraction. -/
def u8Sub (a b : Nat) : Stage Nat := do
  .assert (b ≤ a)
  pure (a - b)

theorem u8Add_ok {a b : Nat} (fits : a + b ≤ 255) : u8Add a b = .ok (a + b) := by
  simp [u8Add, Outcome.assert_ok fits, bind, Except.bind, pure, Except.pure]

theorem u8Sub_ok {a b : Nat} (fits : b ≤ a) : u8Sub a b = .ok (a - b) := by
  simp [u8Sub, Outcome.assert_ok fits, bind, Except.bind, pure, Except.pure]

/-- The loop of `encode_with_max_bytes` with the arithmetic it does and the qualities it
tries. -/
def attemptLoop : (attempts : Nat) → Search → Recorded Nat (Stop Failure) (List UInt8)
  | 0, search => pure search.best
  | attempts + 1, search =>
      if search.high < search.low then pure search.best
      else do
        let gap ← .silent (u8Sub search.high search.low)
        let mid ← .silent (u8Add search.low (gap / 2))
        let candidate ← .perform mid (encodeAt mid)
        if candidate.length ≤ maxBytes then
          if mid = 255 then pure candidate
          else do
            let low ← .silent (u8Add mid 1)
            attemptLoop attempts ⟨candidate, low, search.high⟩
        else
          let best := if maxBytes < search.best.length ∧ candidate.length < search.best.length
            then candidate else search.best
          if mid = 0 then pure best
          else do
            let high ← .silent (u8Sub mid 1)
            attemptLoop attempts ⟨best, search.low, high⟩

/-- `encode_with_max_bytes` with its arithmetic and its attempts. -/
def attemptWithMaxBytes (initialQuality : Nat) : Recorded Nat (Stop Failure) (List UInt8) := do
  let first ← .perform initialQuality (encodeAt initialQuality)
  if first.length ≤ maxBytes ∨ initialQuality ≤ 1 then pure first
  else do
    let high ← .silent (u8Sub initialQuality 1)
    attemptLoop maxBytes encodeAt maxBytesSearchAttempts ⟨first, 1, high⟩

/-- The output at a quality is within the budget. -/
def FitsBudget (quality : Nat) : Prop :=
  ∃ bytes, encodeAt quality = .ok bytes ∧ bytes.length ≤ maxBytes

/-- The output a search should return among those of the qualities it tried: that of the
highest one that fits, or a smallest one when none does. -/
inductive Chosen (tried : List Nat) (best : List UInt8) : Prop where
  | fitting (quality : Nat) (attempted : quality ∈ tried) (made : encodeAt quality = .ok best)
      (fits : best.length ≤ maxBytes)
      (highest : ∀ other ∈ tried, FitsBudget maxBytes encodeAt other → other ≤ quality)
  | smallest (quality : Nat) (attempted : quality ∈ tried) (made : encodeAt quality = .ok best)
      (noneFits : ∀ other ∈ tried, ¬ FitsBudget maxBytes encodeAt other)
      (least : ∀ other ∈ tried, ∀ bytes, encodeAt other = .ok bytes →
        best.length ≤ bytes.length)

/-- What the search maintains: outside the interval every attempt is decided, and until one
fits the interval starts at the lowest quality and ends just below an attempt. -/
structure Searching (tried : List Nat) (search : Search) : Prop where
  chosen : Chosen maxBytes encodeAt tried search.best
  below : ∀ quality ∈ tried, FitsBudget maxBytes encodeAt quality → quality < search.low
  lowPos : 1 ≤ search.low
  highSmall : search.high < 100
  lowest : (∀ quality ∈ tried, ¬ FitsBudget maxBytes encodeAt quality) →
    search.low = 1 ∧ search.high + 1 ∈ tried

variable {maxBytes encodeAt} {tried : List Nat} {search : Search} {mid : Nat}
variable {candidate : List UInt8}

theorem not_fitsBudget (made : encodeAt mid = .ok candidate)
    (large : ¬ candidate.length ≤ maxBytes) : ¬ FitsBudget maxBytes encodeAt mid := by
  rintro ⟨bytes, again, fits⟩
  rw [made] at again
  obtain rfl := Except.ok.inj again
  exact large fits

/-- A candidate that fits is above every other that does. -/
theorem Searching.raised (searching : Searching maxBytes encodeAt tried search)
    (low : search.low ≤ mid) (made : encodeAt mid = .ok candidate)
    (fits : candidate.length ≤ maxBytes) :
    Searching maxBytes encodeAt (tried ++ [mid]) ⟨candidate, mid + 1, search.high⟩ := by
  have highest : ∀ other ∈ tried ++ [mid], FitsBudget maxBytes encodeAt other → other ≤ mid := by
    intro other member otherFits
    rcases List.mem_append.mp member with earlier | now
    · exact ((searching.below other earlier otherFits).trans_le low).le
    · exact (List.mem_singleton.mp now).le
  have attempted : mid ∈ tried ++ [mid] := List.mem_append_right _ (List.mem_singleton_self mid)
  constructor
  · exact .fitting mid attempted made fits highest
  · intro quality member qualityFits
    exact Nat.lt_succ_of_le (highest quality member qualityFits)
  · exact Nat.succ_le_succ (Nat.zero_le mid)
  · exact searching.highSmall
  · intro noneFits
    exact absurd ⟨candidate, made, fits⟩ (noneFits mid attempted)

/-- A candidate over the budget replaces the best only while nothing fits and it is smaller. -/
theorem Searching.lowered (searching : Searching maxBytes encodeAt tried search)
    (low : search.low ≤ mid) (high : mid ≤ search.high) (made : encodeAt mid = .ok candidate)
    (large : ¬ candidate.length ≤ maxBytes) :
    Searching maxBytes encodeAt (tried ++ [mid])
      ⟨if maxBytes < search.best.length ∧ candidate.length < search.best.length
        then candidate else search.best, search.low, mid - 1⟩ := by
  have misses := not_fitsBudget made large
  have attempted : mid ∈ tried ++ [mid] := List.mem_append_right _ (List.mem_singleton_self mid)
  have lowPos := searching.lowPos
  have highSmall := searching.highSmall
  constructor
  · cases searching.chosen with
    | fitting quality earlier chosenMade fits highest =>
        rw [if_neg (by omega)]
        apply Chosen.fitting quality (List.mem_append_left _ earlier) chosenMade fits
        intro other member otherFits
        rcases List.mem_append.mp member with before | now
        · exact highest other before otherFits
        · exact absurd (List.mem_singleton.mp now ▸ otherFits) misses
    | smallest quality earlier chosenMade noneFits least =>
        have noneFitsNow : ∀ other ∈ tried ++ [mid], ¬ FitsBudget maxBytes encodeAt other := by
          intro other member
          rcases List.mem_append.mp member with before | now
          · exact noneFits other before
          · exact List.mem_singleton.mp now ▸ misses
        have bestLarge : maxBytes < search.best.length := by
          by_contra small
          exact noneFits quality earlier ⟨search.best, chosenMade, not_lt.mp small⟩
        split
        case isTrue smaller =>
            apply Chosen.smallest mid attempted made noneFitsNow
            intro other member bytes otherMade
            rcases List.mem_append.mp member with before | now
            · exact smaller.2.le.trans (least other before bytes otherMade)
            · rw [List.mem_singleton.mp now, made] at otherMade
              exact (congrArg List.length (Except.ok.inj otherMade)).le
        case isFalse larger =>
            have candidateLarge : search.best.length ≤ candidate.length := by omega
            apply Chosen.smallest quality (List.mem_append_left _ earlier) chosenMade noneFitsNow
            intro other member bytes otherMade
            rcases List.mem_append.mp member with before | now
            · exact least other before bytes otherMade
            · rw [List.mem_singleton.mp now, made] at otherMade
              obtain rfl := Except.ok.inj otherMade
              exact candidateLarge
  · intro quality member qualityFits
    rcases List.mem_append.mp member with before | now
    · exact searching.below quality before qualityFits
    · exact absurd (List.mem_singleton.mp now ▸ qualityFits) misses
  · exact lowPos
  · dsimp only
    omega
  · intro noneFits
    refine ⟨(searching.lowest fun quality earlier =>
      noneFits quality (List.mem_append_left _ earlier)).1, ?_⟩
    have back : mid - 1 + 1 = mid := by omega
    dsimp only
    rw [back]
    exact attempted

end Search

section Run

variable {maxBytes : Nat} {encodeAt : Nat → Stage (List UInt8)} {attempts : Nat}
variable {tried : List Nat} {search : Search} {candidate : List UInt8}

/-- The quality an attempt tries. -/
def Search.mid (search : Search) : Nat := search.low + (search.high - search.low) / 2

/-- The search after an attempt. -/
def Search.after (maxBytes : Nat) (search : Search) (candidate : List UInt8) : Search :=
  if candidate.length ≤ maxBytes then ⟨candidate, search.mid + 1, search.high⟩
  else
    ⟨if maxBytes < search.best.length ∧ candidate.length < search.best.length
      then candidate else search.best, search.low, search.mid - 1⟩

theorem Search.mid_between (ordered : search.low ≤ search.high) :
    search.low ≤ search.mid ∧ search.mid ≤ search.high := by
  unfold mid
  omega

theorem silent_ok_bind {α β : Type} (value : α) (next : α → Recorded Nat (Stop Failure) β) :
    (Recorded.silent (.ok value) >>= next) = next value := pure_bind value next

/-- An attempt on an interval that is not empty, within the range of a `u8`. -/
theorem attemptLoop_succ (lowPos : 1 ≤ search.low) (ordered : search.low ≤ search.high)
    (highSmall : search.high < 100) :
    attemptLoop maxBytes encodeAt (attempts + 1) search =
      .perform search.mid (encodeAt search.mid) >>= fun candidate =>
        attemptLoop maxBytes encodeAt attempts (search.after maxBytes candidate) := by
  obtain ⟨midLow, midHigh⟩ := Search.mid_between ordered
  have gap := u8Sub_ok ordered
  have mid : u8Add search.low ((search.high - search.low) / 2) = .ok search.mid :=
    u8Add_ok (midHigh.trans (by omega))
  have above : u8Add search.mid 1 = .ok (search.mid + 1) := u8Add_ok (by omega)
  have below : u8Sub search.mid 1 = .ok (search.mid - 1) := u8Sub_ok (by omega)
  rw [attemptLoop, if_neg (not_lt.mpr ordered), gap, silent_ok_bind, mid, silent_ok_bind]
  congr 1
  funext candidate
  unfold Search.after
  split
  case isTrue fits => rw [if_neg (by omega), above, silent_ok_bind]
  case isFalse large =>
      dsimp only
      rw [if_neg (by omega : ¬ search.mid = 0), below, silent_ok_bind]

theorem searchLoop_succ (lowPos : 1 ≤ search.low) (ordered : search.low ≤ search.high)
    (highSmall : search.high < 100) :
    searchLoop maxBytes encodeAt (attempts + 1) search =
      encodeAt search.mid >>= fun candidate =>
        searchLoop maxBytes encodeAt attempts (search.after maxBytes candidate) := by
  obtain ⟨midLow, midHigh⟩ := Search.mid_between ordered
  rw [searchLoop, if_neg (not_lt.mpr ordered)]
  change (encodeAt search.mid >>= _) = _
  congr 1
  funext candidate
  unfold searchStep Search.after
  by_cases fits : candidate.length ≤ maxBytes
  case pos =>
      rw [if_pos fits, if_pos fits]
      have notLast : (decide (search.mid ≠ 255)) = true := by
        rw [decide_eq_true_eq]
        omega
      change (if decide (search.mid ≠ 255) = true then _ else _) = _
      rw [if_pos notLast]
      rfl
  case neg =>
      rw [if_neg fits, if_neg fits]
      have notFirst : (decide (search.mid ≠ 0)) = true := by
        rw [decide_eq_true_eq]
        omega
      change (if decide (search.mid ≠ 0) = true then _ else _) = _
      rw [if_pos notFirst]
      rfl

theorem Searching.after (searching : Searching maxBytes encodeAt tried search)
    (ordered : search.low ≤ search.high) (made : encodeAt search.mid = .ok candidate) :
    Searching maxBytes encodeAt (tried ++ [search.mid]) (search.after maxBytes candidate) := by
  obtain ⟨midLow, midHigh⟩ := Search.mid_between ordered
  unfold Search.after
  split
  case isTrue fits => exact searching.raised midLow made fits
  case isFalse large => exact searching.lowered midLow midHigh made large

/-- What is known of a run of the loop after the attempts in `tried`. -/
structure LoopRun (maxBytes : Nat) (encodeAt : Nat → Stage (List UInt8)) (attempts : Nat)
    (tried : List Nat) (search : Search) (run : Recorded Nat (Stop Failure) (List UInt8)) :
    Prop where
  unchecked : run.result = searchLoop maxBytes encodeAt attempts search
  few : run.events.length ≤ attempts
  within : ∀ quality ∈ run.events, 1 ≤ quality ∧ quality ≤ search.high
  chosen : ∀ bytes, run.result = .ok bytes →
    Chosen maxBytes encodeAt (tried ++ run.events) bytes
  reaches : ((∀ quality ∈ tried, ¬ FitsBudget maxBytes encodeAt quality) →
      search.high + 1 < 2 ^ (attempts + 1)) → FitsBudget maxBytes encodeAt 1 →
    ∀ bytes, run.result = .ok bytes → bytes.length ≤ maxBytes
  failed : ∀ stop, run.result = .error stop →
    ∃ earlier quality, run.events = earlier ++ [quality] ∧ encodeAt quality = .error stop
  /-- An error of any attempt is what the run ends with. -/
  stops : ∀ quality ∈ run.events, ∀ stop, encodeAt quality = .error stop →
    run.result = .error stop

/-- A search that stops has its best output. -/
theorem loopRun_stopped (searching : Searching maxBytes encodeAt tried search)
    (stops : searchLoop maxBytes encodeAt attempts search = .ok search.best)
    (lowest : ((∀ quality ∈ tried, ¬ FitsBudget maxBytes encodeAt quality) →
      search.high + 1 < 2 ^ (attempts + 1)) → search.low = 1 →
      (∀ quality ∈ tried, ¬ FitsBudget maxBytes encodeAt quality) → search.high = 0) :
    LoopRun maxBytes encodeAt attempts tried search (pure search.best) := by
  have best {bytes : List UInt8}
      (ends : (pure search.best : Recorded Nat (Stop Failure) (List UInt8)).result = .ok bytes) :
      search.best = bytes := Except.ok.inj ends
  constructor
  case unchecked => exact stops.symm
  case few => exact Nat.zero_le _
  case within =>
      intro quality member
      cases member
  case chosen =>
      intro bytes ends
      rw [Recorded.events_pure, List.append_nil, ← best ends]
      exact searching.chosen
  case reaches =>
      intro halved lowestFits bytes ends
      rw [← best ends]
      cases searching.chosen with
      | fitting quality attempted made fits highest => exact fits
      | smallest quality attempted made noneFits least =>
          obtain ⟨low, high⟩ := searching.lowest noneFits
          rw [lowest halved low noneFits] at high
          exact absurd lowestFits (noneFits 1 high)
  case failed =>
      intro stop fails
      cases fails
  case stops =>
      intro quality member
      cases member

/-- An attempt and the rest of the loop. -/
def attemptThen (maxBytes : Nat) (encodeAt : Nat → Stage (List UInt8)) (attempts : Nat)
    (search : Search) : Recorded Nat (Stop Failure) (List UInt8) :=
  .perform search.mid (encodeAt search.mid) >>= fun candidate =>
    attemptLoop maxBytes encodeAt attempts (search.after maxBytes candidate)

theorem attemptThen_error {stop : Stop Failure} (fails : encodeAt search.mid = .error stop) :
    (attemptThen maxBytes encodeAt attempts search).result = .error stop ∧
      (attemptThen maxBytes encodeAt attempts search).events = [search.mid] := by
  unfold attemptThen
  rw [fails]
  exact ⟨rfl, rfl⟩

theorem attemptThen_ok (made : encodeAt search.mid = .ok candidate) :
    (attemptThen maxBytes encodeAt attempts search).result =
        (attemptLoop maxBytes encodeAt attempts (search.after maxBytes candidate)).result ∧
      (attemptThen maxBytes encodeAt attempts search).events = search.mid ::
        (attemptLoop maxBytes encodeAt attempts (search.after maxBytes candidate)).events := by
  unfold attemptThen
  rw [made, Recorded.result_bind]
  exact ⟨rfl, rfl⟩

/-- An encoder error ends the loop. -/
theorem loopRun_error {stop : Stop Failure} (lowPos : 1 ≤ search.low)
    (ordered : search.low ≤ search.high) (highSmall : search.high < 100)
    (fails : encodeAt search.mid = .error stop) :
    LoopRun maxBytes encodeAt (attempts + 1) tried search
      (attemptThen maxBytes encodeAt attempts search) := by
  obtain ⟨midLow, midHigh⟩ := Search.mid_between ordered
  obtain ⟨result, events⟩ := @attemptThen_error maxBytes encodeAt attempts search stop fails
  constructor
  case unchecked =>
      rw [result, searchLoop_succ lowPos ordered highSmall, fails]
      rfl
  case few =>
      rw [events]
      exact Nat.succ_le_succ (Nat.zero_le _)
  case within =>
      intro quality member
      rw [events] at member
      rw [List.mem_singleton.mp member]
      exact ⟨lowPos.trans midLow, midHigh⟩
  case chosen =>
      intro bytes ends
      rw [result] at ends
      cases ends
  case reaches =>
      intro halved lowestFits bytes ends
      rw [result] at ends
      cases ends
  case failed =>
      intro other fails'
      rw [result] at fails'
      cases fails'
      exact ⟨[], search.mid, events, fails⟩
  case stops =>
      intro quality member other fails'
      rw [events] at member
      rw [List.mem_singleton.mp member, fails] at fails'
      rw [result, fails']

/-- An output that does not fit at the middle of an interval that starts at one halves it. -/
theorem halved_after (large : ¬ candidate.length ≤ maxBytes) (low : search.low = 1)
    (ordered : search.low ≤ search.high) (width : search.high + 1 < 2 ^ (attempts + 1 + 1)) :
    (search.after maxBytes candidate).high + 1 < 2 ^ (attempts + 1) := by
  unfold Search.after
  rw [if_neg large]
  unfold Search.mid
  dsimp only
  rw [pow_succ] at width
  omega

theorem loopRun_ok (searching : Searching maxBytes encodeAt tried search)
    (ordered : search.low ≤ search.high) (made : encodeAt search.mid = .ok candidate)
    (next : LoopRun maxBytes encodeAt attempts (tried ++ [search.mid])
      (search.after maxBytes candidate)
      (attemptLoop maxBytes encodeAt attempts (search.after maxBytes candidate))) :
    LoopRun maxBytes encodeAt (attempts + 1) tried search
      (attemptThen maxBytes encodeAt attempts search) := by
  obtain ⟨midLow, midHigh⟩ := Search.mid_between ordered
  obtain ⟨result, events⟩ := @attemptThen_ok maxBytes encodeAt attempts search candidate made
  have lowPos := searching.lowPos
  have afterHigh : (search.after maxBytes candidate).high ≤ search.high := by
    unfold Search.after
    split
    case isTrue fits => exact le_rfl
    case isFalse large => exact (Nat.sub_le _ _).trans midHigh
  constructor
  case unchecked =>
      rw [result, searchLoop_succ lowPos ordered searching.highSmall, made]
      exact next.unchecked
  case few =>
      rw [events]
      exact Nat.succ_le_succ next.few
  case within =>
      intro quality member
      rw [events] at member
      rcases List.mem_cons.mp member with rfl | later
      case inl => exact ⟨lowPos.trans midLow, midHigh⟩
      case inr =>
          obtain ⟨positive, high⟩ := next.within quality later
          exact ⟨positive, high.trans afterHigh⟩
  case chosen =>
      intro bytes ends
      rw [result] at ends
      rw [events, List.append_cons]
      exact next.chosen bytes ends
  case reaches =>
      intro halved lowestFits bytes ends
      rw [result] at ends
      apply next.reaches _ lowestFits bytes ends
      intro noneFits
      have earlier (quality : Nat) (member : quality ∈ tried) :=
        noneFits quality (List.mem_append_left _ member)
      have large : ¬ candidate.length ≤ maxBytes := by
        intro fits
        exact noneFits search.mid (List.mem_append_right _ (List.mem_singleton_self _))
          ⟨candidate, made, fits⟩
      exact halved_after large (searching.lowest earlier).1 ordered (halved earlier)
  case failed =>
      intro stop fails
      rw [result] at fails
      obtain ⟨before, quality, last, failing⟩ := next.failed stop fails
      refine ⟨search.mid :: before, quality, ?_, failing⟩
      rw [events, last, List.cons_append]
  case stops =>
      intro quality member stop fails
      rw [events] at member
      rw [result]
      rcases List.mem_cons.mp member with rfl | later
      case inl =>
          rw [made] at fails
          cases fails
      case inr => exact next.stops quality later stop fails

/-- Every run of the loop from a state it maintains, by induction on the attempts left. -/
theorem loopRun_attemptLoop (searching : Searching maxBytes encodeAt tried search) :
    LoopRun maxBytes encodeAt attempts tried search
      (attemptLoop maxBytes encodeAt attempts search) := by
  induction attempts generalizing tried search with
  | zero =>
      apply loopRun_stopped searching rfl
      intro halved low noneFits
      have width := halved noneFits
      omega
  | succ attempts ih =>
      by_cases ordered : search.low ≤ search.high
      case neg =>
          rw [attemptLoop, if_pos (not_le.mp ordered)]
          apply loopRun_stopped searching
          · rw [searchLoop, if_pos (not_le.mp ordered)]
            rfl
          · intro halved low noneFits
            omega
      case pos =>
          rw [attemptLoop_succ searching.lowPos ordered searching.highSmall]
          cases made : encodeAt search.mid with
          | error stop =>
              have run := @loopRun_error maxBytes encodeAt attempts tried search stop
                searching.lowPos ordered searching.highSmall made
              rwa [attemptThen, made] at run
          | ok candidate =>
              have run := loopRun_ok searching ordered made (ih (searching.after ordered made))
              rwa [attemptThen, made] at run

end Run

section Budget

variable {maxBytes initialQuality : Nat} {encodeAt : Nat → Stage (List UInt8)}
variable {first : List UInt8}

/-- The state the first output leaves the search in. -/
theorem searching_first (above : 1 < initialQuality) (small : initialQuality ≤ 100)
    (made : encodeAt initialQuality = .ok first) (large : ¬ first.length ≤ maxBytes) :
    Searching maxBytes encodeAt [initialQuality] ⟨first, 1, initialQuality - 1⟩ := by
  have misses := not_fitsBudget made large
  have back : initialQuality - 1 + 1 = initialQuality := by omega
  constructor
  · apply Chosen.smallest initialQuality (List.mem_singleton_self _) made
    · intro other member
      rw [List.mem_singleton.mp member]
      exact misses
    · intro other member bytes otherMade
      rw [List.mem_singleton.mp member, made] at otherMade
      exact (congrArg List.length (Except.ok.inj otherMade)).le
  · intro quality member fits
    rw [List.mem_singleton.mp member] at fits
    exact absurd fits misses
  · exact le_rfl
  · dsimp only
    omega
  · intro noneFits
    refine ⟨rfl, ?_⟩
    dsimp only
    rw [back]
    exact List.mem_singleton_self _

/-- A first output that fits, or at the lowest quality, is the chosen one. -/
theorem chosen_first (made : encodeAt initialQuality = .ok first) :
    Chosen maxBytes encodeAt [initialQuality] first := by
  have attempted : initialQuality ∈ [initialQuality] := List.mem_singleton_self _
  by_cases fits : first.length ≤ maxBytes
  case pos =>
      apply Chosen.fitting initialQuality attempted made fits
      intro other member _
      exact (List.mem_singleton.mp member).le
  case neg =>
      apply Chosen.smallest initialQuality attempted made
      · intro other member
        rw [List.mem_singleton.mp member]
        exact not_fitsBudget made fits
      · intro other member bytes otherMade
        rw [List.mem_singleton.mp member, made] at otherMade
        exact (congrArg List.length (Except.ok.inj otherMade)).le

/-- What a search promises of the qualities it tried and of what it returns. -/
structure BudgetRun (maxBytes initialQuality : Nat) (encodeAt : Nat → Stage (List UInt8))
    (run : Recorded Nat (Stop Failure) (List UInt8)) : Prop where
  unchecked : run.result = encodeWithMaxBytes maxBytes initialQuality encodeAt
  few : run.events.length ≤ maxBytesSearchAttempts + 1
  within : ∀ quality ∈ run.events, 1 ≤ quality ∧ quality ≤ initialQuality
  chosen : ∀ bytes, run.result = .ok bytes → Chosen maxBytes encodeAt run.events bytes
  failed : ∀ stop, run.result = .error stop →
    ∃ earlier quality, run.events = earlier ++ [quality] ∧ encodeAt quality = .error stop
  stops : ∀ quality ∈ run.events, ∀ stop, encodeAt quality = .error stop →
    run.result = .error stop
  reaches : FitsBudget maxBytes encodeAt 1 → ∀ bytes, run.result = .ok bytes →
    bytes.length ≤ maxBytes

theorem budgetRun_error {stop : Stop Failure} (positive : 1 ≤ initialQuality)
    (fails : encodeAt initialQuality = .error stop) :
    BudgetRun maxBytes initialQuality encodeAt
      (attemptWithMaxBytes maxBytes encodeAt initialQuality) := by
  unfold attemptWithMaxBytes
  rw [fails]
  constructor
  case unchecked =>
      unfold encodeWithMaxBytes
      rw [fails]
      rfl
  case few => exact Nat.succ_le_succ (Nat.zero_le _)
  case within =>
      intro quality member
      rw [List.mem_singleton.mp member]
      exact ⟨positive, le_rfl⟩
  case chosen =>
      intro bytes ends
      cases ends
  case failed =>
      intro other ends
      cases ends
      exact ⟨[], initialQuality, rfl, fails⟩
  case stops =>
      intro quality member other fails'
      rw [List.mem_singleton.mp member, fails] at fails'
      exact fails'
  case reaches =>
      intro lowestFits bytes ends
      cases ends

/-- The first output is returned at once. -/
theorem budgetRun_first (positive : 1 ≤ initialQuality) (made : encodeAt initialQuality = .ok first)
    (done : first.length ≤ maxBytes ∨ initialQuality ≤ 1) :
    BudgetRun maxBytes initialQuality encodeAt
      (attemptWithMaxBytes maxBytes encodeAt initialQuality) := by
  have run : attemptWithMaxBytes maxBytes encodeAt initialQuality =
      ⟨[initialQuality], .ok first⟩ := by
    unfold attemptWithMaxBytes
    rw [made]
    change (Recorded.mk ([initialQuality] ++ Recorded.events (ite _ _ _))
      (Recorded.result (ite _ _ _))) = _
    rw [if_pos done]
    rfl
  rw [run]
  constructor
  case unchecked =>
      unfold encodeWithMaxBytes
      rw [made]
      exact (if_pos done).symm
  case few => exact Nat.succ_le_succ (Nat.zero_le _)
  case within =>
      intro quality member
      rw [List.mem_singleton.mp member]
      exact ⟨positive, le_rfl⟩
  case chosen =>
      intro bytes ends
      cases ends
      exact chosen_first made
  case failed =>
      intro stop ends
      cases ends
  case stops =>
      intro quality member stop fails
      rw [List.mem_singleton.mp member, made] at fails
      cases fails
  case reaches =>
      intro lowestFits bytes ends
      cases ends
      rcases done with fits | lowest
      case inl => exact fits
      case inr =>
          obtain ⟨output, outputMade, fits⟩ := lowestFits
          have same : initialQuality = 1 := le_antisymm lowest positive
          rw [same, outputMade] at made
          cases made
          exact fits

/-- The search runs from the first output on. -/
theorem budgetRun_search (small : initialQuality ≤ 100)
    (made : encodeAt initialQuality = .ok first)
    (goes : ¬ (first.length ≤ maxBytes ∨ initialQuality ≤ 1)) :
    BudgetRun maxBytes initialQuality encodeAt
      (attemptWithMaxBytes maxBytes encodeAt initialQuality) := by
  obtain ⟨large, above⟩ := not_or.mp goes
  have loop := @loopRun_attemptLoop maxBytes encodeAt maxBytesSearchAttempts _ _
    (searching_first (not_le.mp above) small made large)
  have high : u8Sub initialQuality 1 = .ok (initialQuality - 1) := u8Sub_ok (by omega)
  have run : attemptWithMaxBytes maxBytes encodeAt initialQuality =
      ⟨initialQuality :: (attemptLoop maxBytes encodeAt maxBytesSearchAttempts
        ⟨first, 1, initialQuality - 1⟩).events, (attemptLoop maxBytes encodeAt
          maxBytesSearchAttempts ⟨first, 1, initialQuality - 1⟩).result⟩ := by
    unfold attemptWithMaxBytes
    rw [made, high]
    change (Recorded.mk ([initialQuality] ++ Recorded.events (ite _ _ _))
      (Recorded.result (ite _ _ _))) = _
    rw [if_neg goes, silent_ok_bind]
    rfl
  rw [run]
  constructor
  case unchecked =>
      unfold encodeWithMaxBytes
      rw [made]
      exact loop.unchecked.trans (if_neg goes).symm
  case few => exact Nat.succ_le_succ loop.few
  case within =>
      intro quality member
      rcases List.mem_cons.mp member with rfl | later
      case inl => exact ⟨(not_le.mp above).le, le_rfl⟩
      case inr =>
          obtain ⟨positive, below⟩ := loop.within quality later
          exact ⟨positive, below.trans (Nat.sub_le _ _)⟩
  case chosen => exact loop.chosen
  case failed =>
      intro stop fails
      obtain ⟨earlier, quality, last, failing⟩ := loop.failed stop fails
      refine ⟨initialQuality :: earlier, quality, ?_, failing⟩
      rw [last, List.cons_append]
  case stops =>
      intro quality member stop fails
      rcases List.mem_cons.mp member with rfl | later
      case inl =>
          rw [made] at fails
          cases fails
      case inr => exact loop.stops quality later stop fails
  case reaches =>
      apply loop.reaches
      intro noneFits
      have budget : (2 : Nat) ^ (maxBytesSearchAttempts + 1) = 128 := rfl
      dsimp only
      omega

/-- The search stays in the range of a `u8`, encodes seven times at most and never outside
the qualities up to the first, returns the best of what it obtained or the first error of the
encoder, and fits the budget whenever the lowest quality does, however sizes depend on
quality. -/
theorem encodeWithMaxBytes_budget (maxBytes : Nat) (encodeAt : Nat → Stage (List UInt8))
    (positive : 1 ≤ initialQuality) (small : initialQuality ≤ 100) :
    BudgetRun maxBytes initialQuality encodeAt
      (attemptWithMaxBytes maxBytes encodeAt initialQuality) := by
  cases made : encodeAt initialQuality with
  | error stop => exact budgetRun_error positive made
  | ok first =>
      by_cases done : first.length ≤ maxBytes ∨ initialQuality ≤ 1
      case pos => exact budgetRun_first positive made done
      case neg => exact budgetRun_search small made done

/-- An encoder whose output is as long as its quality, under a budget of forty bytes. -/
theorem encodeWithMaxBytes_budget_linear :
    BudgetRun 40 100 (fun quality => .ok (List.replicate quality 0))
      (attemptWithMaxBytes 40 (fun quality => .ok (List.replicate quality 0)) 100) :=
  encodeWithMaxBytes_budget 40 _ (by decide) (by decide)

end Budget

end ImageResizer

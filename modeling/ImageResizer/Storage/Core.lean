import ImageResizer.Failure
import ImageResizer.Foundation.Outcome
import ImageResizer.Foundation.TtlMap
import ImageResizer.Storage.FileSystem

/-!
# What the storage promises

`services/storage/core.rs`: a backend is a map from keys to bytes with a time to live.
What a caller observes of a call is whether it went through, and for a lookup whether
the image is there; an error whose message says so counts as its absence.
-/

namespace ImageResizer.Storage

open TtlMap

/-! ## Lifetimes -/

instance : Preorder Instant where
  le first second := first.nanos ≤ second.nanos
  le_refl instant := le_refl instant.nanos
  le_trans _ _ _ earlier later := Int.le_trans earlier later

/-- The second an instant lies in. -/
def Instant.second (instant : Instant) : Int := instant.nanos / nanosPerSecond

/-- An entry is there until the second in which its lifetime ends begins. -/
def lifetime : TtlMap.Policy Instant Duration where
  alive start ttl now := decide (now.second < (start.nanos + ttl) / nanosPerSecond)
  antitone := by
    intro start ttl earlier later ordered alive
    rw [decide_eq_true_eq] at alive ⊢
    exact (Int.ediv_le_ediv (by decide) ordered).trans_lt alive

/-- An entry is gone once its lifetime has passed. -/
theorem lifetime_over {start now : Instant} {ttl : Duration}
    (past : start.nanos + ttl ≤ now.nanos) : lifetime.alive start ttl now = false :=
  decide_eq_false (not_lt.mpr (Int.ediv_le_ediv (by decide) past))

/-- An entry is there until a second before its lifetime ends. -/
theorem lifetime_lasts {start now : Instant} {ttl : Duration}
    (early : now.nanos ≤ start.nanos + ttl - nanosPerSecond) :
    lifetime.alive start ttl now = true := by
  apply decide_eq_true
  have shifted : (start.nanos + ttl - nanosPerSecond) / (nanosPerSecond : Int) =
      (start.nanos + ttl) / nanosPerSecond - 1 := by
    rw [Int.sub_ediv_of_dvd _ (dvd_refl _), Int.ediv_self (by decide)]
  have bound := Int.ediv_le_ediv (by decide : (0 : Int) < nanosPerSecond) early
  rw [shifted] at bound
  exact Int.lt_of_le_sub_one bound

theorem Instant.nowSecs_eq {now : Instant} (after : 0 ≤ now.nanos) :
    (now.nowSecs : Int) = now.second := by
  simp only [nowSecs, sinceEpoch, if_pos after, Option.map_some, Option.getD_some, second,
    nanosPerSecond]
  change ((now.nanos.toNat / 1000000000 : Nat) : Int) = now.nanos / 1000000000
  omega

/-! ## Observations -/

/-- `str::contains`. -/
def containsText (needle text : List Char) : Bool := text.tails.any needle.isPrefixOf

theorem containsText_iff {needle text : List Char} :
    containsText needle text = true ↔ needle <:+: text := by
  rw [containsText, List.any_eq_true]
  constructor
  · rintro ⟨rest, member, starts⟩
    rw [List.isPrefixOf_iff_prefix] at starts
    exact starts.isInfix.trans (List.mem_tails _ _ |>.mp member).isInfix
  · rintro ⟨front, back, rfl⟩
    refine ⟨needle ++ back, ?_, ?_⟩
    · rw [List.mem_tails, List.append_assoc]
      exact List.suffix_append ..
    · rw [List.isPrefixOf_iff_prefix]
      exact List.prefix_append ..

theorem containsText_append (front needle back : List Char) :
    containsText needle (front ++ (needle ++ back)) = true :=
  containsText_iff.mpr ⟨front, back, List.append_assoc ..⟩

def notFoundNeedle : List Char := ['n', 'o', 't', ' ', 'f', 'o', 'u', 'n', 'd']

/-- `AppError::classify_download_error` reports a message that says so as `404 Not Found`. -/
def saysNotFound (message : String) : Bool :=
  containsText notFoundNeedle (message.toList.map Char.toLower)

theorem saysNotFound_append (back : String) : saysNotFound ("Image not found" ++ back) = true := by
  have front : "Image not found".toList.map Char.toLower =
      ['i', 'm', 'a', 'g', 'e', ' '] ++ notFoundNeedle := by decide
  rw [saysNotFound, String.toList_append, List.map_append, front, List.append_assoc]
  exact containsText_append ..

theorem saysNotFound_of_start {start rest : String} (split : start = "Image not found" ++ rest)
    (back : String) : saysNotFound (start ++ back) = true := by
  have whole : start ++ back = "Image not found" ++ (rest ++ back) :=
    (congrArg (· ++ back) split).trans String.append_assoc
  rw [whole]
  exact saysNotFound_append _

abbrev Observed := Observation (List UInt8)

def observeUpload : Outcome Failure Unit → Observed
  | .ok () => .uploaded
  | .error _ => .failed

def observeCheck : Outcome Failure Bool → Observed
  | .ok present => .cached present
  | .error _ => .failed

def observeImage : Outcome Failure (List UInt8) → Observed
  | .ok bytes => .image (some bytes)
  | .error (.failure failure) => if saysNotFound failure.toString then .image none else .failed
  | .error .panic => .failed

theorem observeImage_missing {failure : Failure}
    (absent : saysNotFound failure.toString = true) :
    observeImage (Outcome.fail failure) = .image none := by
  simp only [observeImage, Outcome.fail, absent, if_true]

def observeDelete : Outcome Failure Unit → Observed
  | .ok () => .deleted
  | .error _ => .failed

end ImageResizer.Storage

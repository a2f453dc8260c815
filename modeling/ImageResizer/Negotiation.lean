import ImageResizer.Foundation.FloatOrder
import ImageResizer.Foundation.Numeral
import ImageResizer.Params

/-!
# Content negotiation

`modules/negotiation.rs`: the format of an `.auto` request, by the `q` values of its
`Accept` header.  The code weighs a format by the best of all entries that match it, its own
media type and the wildcards alike.  Own entries are honoured as far as the wildcards do not
outbid them.
-/

namespace ImageResizer

open Text

/-- One media range of an `Accept` header. -/
structure AcceptEntry where
  mediaType : List Char
  q : F32
  deriving DecidableEq

namespace AcceptEntry

/-- The weight a `q=` parameter gives, if it can be read. -/
def weight (param : List Char) : Option F32 :=
  match trim param with
  | 'q' :: '=' :: value => F32.parse (trim value)
  | _ => none

/-- One media range and its parameters; without a weight that can be read it has the
weight one. -/
def parse (entry : List Char) : Option AcceptEntry :=
  let parts := entry.splitOn ';'
  let mediaType := (trim (parts.headD [])).map Char.toLower
  if mediaType = [] then none
  else some ⟨mediaType, (parts.tail.findSome? weight).getD F32.one⟩

/-- The entry names the media type itself. -/
def names (mediaType : String) (entry : AcceptEntry) : Bool :=
  entry.mediaType = mediaType.toList

def isWildcard (entry : AcceptEntry) : Bool := entry.names "image/*" || entry.names "*/*"

end AcceptEntry

def parseAccept (accept : List Char) : List AcceptEntry :=
  (accept.splitOn ',').filterMap AcceptEntry.parse

/-- The weights of the entries that match a media type. -/
def matchingQs (entries : List AcceptEntry) (mediaType : String) : List FloatVal :=
  (entries.filter fun entry => entry.names mediaType || entry.isWildcard).map (·.q.value)

def bestQ (entries : List AcceptEntry) (mediaType : String) : Option FloatVal :=
  FloatVal.largest (matchingQs entries mediaType)

/-- The choice between the two weights; a tie goes to AVIF. -/
def choose (avifQ webpQ : FloatVal) : ImageFormat :=
  if avifQ.isPositive && avifQ.atLeast webpQ then .avif
  else if webpQ.isPositive then .webp
  else .jpg

/-- The format to produce, and whether it was negotiated. -/
def resolve (format : ImageFormat) (accept : Option (List Char)) : ImageFormat × Bool :=
  if format ≠ .auto then (format, false)
  else
    let entries := (accept.map parseAccept).getD []
    let avifQ := (bestQ entries "image/avif").getD (.ofNat 0)
    let webpQ := (bestQ entries "image/webp").getD (.ofNat 0)
    (choose avifQ webpQ, true)

example : resolve .auto (some "image/avif;q=0.3, image/webp;q=0.8".toList) = (.webp, true) := by
  decide +kernel

/-- The format an `.auto` request with this header gets. -/
def negotiated (accept : List Char) : ImageFormat := (resolve .auto (some accept)).1

/-! ## Own entries first -/

section Precedence

/-- The weights of the entries that name the media type itself. -/
def ownQs (entries : List AcceptEntry) (mediaType : String) : List FloatVal :=
  (entries.filter (AcceptEntry.names mediaType)).map (·.q.value)

def wildcardQs (entries : List AcceptEntry) : List FloatVal :=
  (entries.filter AcceptEntry.isWildcard).map (·.q.value)

/-- The weight of a format whose own entries take precedence over the wildcards. -/
def precedentQ (entries : List AcceptEntry) (mediaType : String) : FloatVal :=
  ((FloatVal.largest (ownQs entries mediaType)).or (FloatVal.largest (wildcardQs entries))).getD
    (.ofNat 0)

/-- The media type appears, and only with `q=0`. -/
def Refused (entries : List AcceptEntry) (mediaType : String) : Prop :=
  ownQs entries mediaType ≠ [] ∧ ∀ q ∈ ownQs entries mediaType, q.nonzero = false

def ownMediaType : ImageFormat → Option String
  | .jpg => some "image/jpeg"
  | .png => some "image/png"
  | .webp => some "image/webp"
  | .avif => some "image/avif"
  | .gif => some "image/gif"
  | .auto => none

/-- Negotiation that honours the entries naming a format itself. -/
structure HonoursExact (accept : List Char) : Prop where
  /-- A format that is only refused is not chosen. -/
  refused : ∀ format mediaType, ownMediaType format = some mediaType →
    Refused (parseAccept accept) mediaType → negotiated accept ≠ format
  /-- A format is chosen on the strength of its own entries, if there are any. -/
  avif : negotiated accept = .avif →
    (precedentQ (parseAccept accept) "image/avif").isPositive = true
  webp : negotiated accept = .webp →
    (precedentQ (parseAccept accept) "image/webp").isPositive = true
  /-- The strictly larger weight is preferred. -/
  preferAvif :
    (precedentQ (parseAccept accept) "image/webp").less
        (precedentQ (parseAccept accept) "image/avif") = true →
      (precedentQ (parseAccept accept) "image/avif").isPositive = true →
        negotiated accept = .avif
  preferWebp :
    (precedentQ (parseAccept accept) "image/avif").less
        (precedentQ (parseAccept accept) "image/webp") = true →
      (precedentQ (parseAccept accept) "image/webp").isPositive = true →
        negotiated accept = .webp
  /-- The order of the entries does not matter. -/
  reordered : ∀ other : List Char, (other.splitOn ',').Perm (accept.splitOn ',') →
    negotiated other = negotiated accept

/-- No wildcard with a positive weight outbids the entries of the formats themselves: it
stays below the weight of WebP, or the weight of AVIF wins without it. -/
def Unoutbid (entries : List AcceptEntry) : Prop :=
  ∀ wildcard, FloatVal.largest (wildcardQs entries) = some wildcard →
    wildcard.isPositive = true →
      wildcard.less (precedentQ entries "image/webp") = true ∨
        (precedentQ entries "image/avif").isPositive = true ∧
          (precedentQ entries "image/avif").less (precedentQ entries "image/webp") = false

/-- Some entry with a positive weight matches WebP; or AVIF, and the weights for WebP, if
any, are not NaN throughout. -/
def Wanted (entries : List AcceptEntry) : Prop :=
  (∃ q ∈ matchingQs entries "image/webp", q.isPositive = true) ∨
    (∃ q ∈ matchingQs entries "image/avif", q.isPositive = true) ∧
      (matchingQs entries "image/webp" = [] ∨ ∃ q ∈ matchingQs entries "image/webp", q ≠ .nan)

end Precedence

/-! ## Weights as ranks -/

section Ranks

open FloatVal

theorem rank_getD (values : List FloatVal) (default : FloatVal) :
    ((largest values).getD default).rank =
      if values = [] then default.rank else top values := by
  cases found : largest values with
  | none => rw [if_pos ((largest_eq_none_iff values).mp found), Option.getD_none]
  | some best =>
      have filled : values ≠ [] := by
        rintro rfl
        cases found
      rw [if_neg filled, Option.getD_some, rank_of_largest found]

theorem matchingQs_eq_nil_iff (entries : List AcceptEntry) (mediaType : String) :
    matchingQs entries mediaType = [] ↔
      ownQs entries mediaType = [] ∧ wildcardQs entries = [] := by
  simp only [matchingQs, ownQs, wildcardQs, List.map_eq_nil_iff, List.filter_eq_nil_iff,
    Bool.or_eq_true, not_or]
  exact ⟨fun none => ⟨fun entry member => (none entry member).1,
    fun entry member => (none entry member).2⟩,
    fun none entry member => ⟨none.1 entry member, none.2 entry member⟩⟩

theorem top_matchingQs (entries : List AcceptEntry) (mediaType : String) :
    top (matchingQs entries mediaType) =
      max (top (ownQs entries mediaType)) (top (wildcardQs entries)) :=
  top_filter_or (fun entry : AcceptEntry => entry.q.value) _ _ entries

/-- The code's weight is the precedent one, raised to that of the wildcards. -/
theorem rank_bestQ (entries : List AcceptEntry) (mediaType : String) :
    ((bestQ entries mediaType).getD (.ofNat 0)).rank =
      max (precedentQ entries mediaType).rank (top (wildcardQs entries)) := by
  rw [bestQ, rank_getD, precedentQ]
  by_cases own : ownQs entries mediaType = []
  · rw [(largest_eq_none_iff _).mpr own, Option.none_or, rank_getD]
    by_cases wild : wildcardQs entries = []
    · rw [if_pos ((matchingQs_eq_nil_iff ..).mpr ⟨own, wild⟩), if_pos wild, wild]
      exact (max_bot_right _).symm
    · rw [if_neg (fun none => wild ((matchingQs_eq_nil_iff ..).mp none).2), if_neg wild,
        top_matchingQs, own, max_self]
      exact max_bot_left _
  · rw [if_neg (fun none => own ((matchingQs_eq_nil_iff ..).mp none).1), top_matchingQs]
    cases found : largest (ownQs entries mediaType) with
    | none => exact absurd ((largest_eq_none_iff _).mp found) own
    | some best => rw [Option.some_or, Option.getD_some, rank_of_largest found]

theorem choose_eq_avif_iff (avifQ webpQ : FloatVal) :
    choose avifQ webpQ = .avif ↔
      (ofNat 0).rank < avifQ.rank ∧ webpQ.rank ≠ ⊥ ∧ webpQ.rank ≤ avifQ.rank := by
  rw [← isPositive_iff, ← atLeast_iff, ← Bool.and_eq_true_iff, choose]
  by_cases wins : (avifQ.isPositive && avifQ.atLeast webpQ) = true
  · rw [if_pos wins]
    exact iff_of_true rfl wins
  · rw [if_neg wins]
    apply iff_of_false _ wins
    by_cases positive : webpQ.isPositive = true
    · rw [if_pos positive]
      decide
    · rw [if_neg positive]
      decide

theorem choose_eq_jpg_iff (avifQ webpQ : FloatVal) :
    choose avifQ webpQ = .jpg ↔ choose avifQ webpQ ≠ .avif ∧ choose avifQ webpQ ≠ .webp := by
  rw [choose]
  split_ifs <;> decide

theorem choose_eq_webp_iff (avifQ webpQ : FloatVal) :
    choose avifQ webpQ = .webp ↔
      choose avifQ webpQ ≠ .avif ∧ (ofNat 0).rank < webpQ.rank := by
  rw [← isPositive_iff, choose]
  by_cases wins : (avifQ.isPositive && avifQ.atLeast webpQ) = true
  · rw [if_pos wins]
    exact iff_of_false (by decide) (fun both => both.1 rfl)
  · rw [if_neg wins]
    by_cases positive : webpQ.isPositive = true
    · rw [if_pos positive]
      exact iff_of_true rfl ⟨by decide, positive⟩
    · rw [if_neg positive]
      exact iff_of_false (by decide) (fun both => positive both.2)

/-- Only the ranks of the weights count. -/
theorem choose_congr {avifQ webpQ avifQ' webpQ' : FloatVal} (avif : avifQ.rank = avifQ'.rank)
    (webp : webpQ.rank = webpQ'.rank) : choose avifQ webpQ = choose avifQ' webpQ' := by
  have positiveAvif : avifQ.isPositive = avifQ'.isPositive := by
    rw [Bool.eq_iff_iff, isPositive_iff, isPositive_iff, avif]
  have positiveWebp : webpQ.isPositive = webpQ'.isPositive := by
    rw [Bool.eq_iff_iff, isPositive_iff, isPositive_iff, webp]
  have above : avifQ.atLeast webpQ = avifQ'.atLeast webpQ' := by
    rw [Bool.eq_iff_iff, atLeast_iff, atLeast_iff, avif, webp]
  rw [choose, choose, positiveAvif, positiveWebp, above]

theorem bestQ_perm {entries permuted : List AcceptEntry} (rearranged : entries.Perm permuted)
    (mediaType : String) :
    ((bestQ entries mediaType).getD (.ofNat 0)).rank =
      ((bestQ permuted mediaType).getD (.ofNat 0)).rank := by
  have weights : (matchingQs entries mediaType).Perm (matchingQs permuted mediaType) :=
    (rearranged.filter _).map _
  rw [bestQ, bestQ, rank_getD, rank_getD, top_perm weights]
  by_cases none : matchingQs entries mediaType = []
  · rw [if_pos none, if_pos (none ▸ weights).nil_eq.symm]
  · rw [if_neg none, if_neg (fun empty => none (empty ▸ weights).eq_nil)]

/-- The choice does not depend on the order of the entries. -/
theorem negotiated_perm {accept other : List Char}
    (rearranged : (other.splitOn ',').Perm (accept.splitOn ',')) :
    negotiated other = negotiated accept := by
  have entries : (parseAccept other).Perm (parseAccept accept) := rearranged.filterMap _
  exact choose_congr (bestQ_perm entries _) (bestQ_perm entries _)

end Ranks

/-! ## When the wildcards outbid -/

section Outbidding

variable {L : Type} [LinearOrder L] [OrderBot L] {zero avif webp wildcard : L}

/-- The test for AVIF, on ranks: positive, and not below a weight for WebP. -/
def Wins (zero avif webp : L) : Prop := zero < avif ∧ webp ≠ ⊥ ∧ webp ≤ avif

/-- A positive wildcard stays below WebP, or AVIF wins without it. -/
def Below (zero avif webp wildcard : L) : Prop :=
  zero < wildcard → wildcard < webp ∨ zero < avif ∧ ¬ (avif ≠ ⊥ ∧ avif < webp)

theorem Below.own_avif (below : Below zero avif webp wildcard)
    (wins : Wins zero (max avif wildcard) (max webp wildcard)) : zero < avif := by
  rcases lt_max_iff.mp wins.1 with own | lent
  · exact own
  · rcases below lent with passed | ⟨own, _⟩
    · have reached := (le_max_left webp wildcard).trans wins.2.2
      rcases le_max_iff.mp reached with above | above
      · exact lent.trans (passed.trans_le above)
      · exact absurd passed (not_lt.mpr above)
    · exact own

theorem own_webp (loses : ¬ Wins zero (max avif wildcard) (max webp wildcard))
    (positive : zero < max webp wildcard) : zero < webp := by
  by_contra nonpositive
  rcases lt_max_iff.mp positive with own | lent
  · exact nonpositive own
  · have covered : max webp wildcard = wildcard :=
      max_eq_right ((not_lt.mp nonpositive).trans lent.le)
    apply loses
    rw [covered]
    exact ⟨lent.trans_le (le_max_right ..), (bot_le.trans_lt lent).ne', le_max_right ..⟩

theorem wins_of_larger (present : webp ≠ ⊥) (larger : webp < avif) (positive : zero < avif) :
    Wins zero (max avif wildcard) (max webp wildcard) := by
  refine ⟨positive.trans_le (le_max_left ..), ?_, max_le_max_right wildcard larger.le⟩
  exact ((bot_lt_iff_ne_bot.mpr present).trans_le (le_max_left ..)).ne'

theorem Below.loses_of_larger (below : Below zero avif webp wildcard) (present : avif ≠ ⊥)
    (larger : avif < webp) (positive : zero < webp) :
    ¬ Wins zero (max avif wildcard) (max webp wildcard) := by
  intro wins
  have reached := (le_max_left webp wildcard).trans wins.2.2
  rcases le_max_iff.mp reached with above | above
  · exact absurd larger (not_lt.mpr above)
  · rcases below (positive.trans_le above) with passed | ⟨_, unbeaten⟩
    · exact absurd passed (not_lt.mpr above)
    · exact unbeaten ⟨present, larger⟩

/-- A wildcard that outbids both makes AVIF win where it should not. -/
theorem below_of_honoured
    (own : Wins zero (max avif wildcard) (max webp wildcard) → zero < avif)
    (preferred : avif ≠ ⊥ → avif < webp → zero < webp →
      ¬ Wins zero (max avif wildcard) (max webp wildcard)) :
    Below zero avif webp wildcard := by
  intro lent
  by_contra outbid
  obtain ⟨covers, beaten⟩ := not_or.mp outbid
  have covered : max webp wildcard = wildcard := max_eq_right (not_lt.mp covers)
  have wins : Wins zero (max avif wildcard) (max webp wildcard) := by
    rw [covered]
    exact ⟨lent.trans_le (le_max_right ..), (bot_le.trans_lt lent).ne', le_max_right ..⟩
  have positive := own wins
  obtain ⟨present, larger⟩ := not_not.mp fun unbeaten => beaten ⟨positive, unbeaten⟩
  exact preferred present larger (positive.trans larger) wins

end Outbidding

section Honoured

open FloatVal

variable (accept : List Char)

theorem negotiated_eq_avif_iff :
    negotiated accept = .avif ↔
      Wins (ofNat 0).rank
        (max (precedentQ (parseAccept accept) "image/avif").rank
          (top (wildcardQs (parseAccept accept))))
        (max (precedentQ (parseAccept accept) "image/webp").rank
          (top (wildcardQs (parseAccept accept)))) := by
  rw [← rank_bestQ, ← rank_bestQ]
  exact choose_eq_avif_iff ..

theorem negotiated_eq_webp_iff :
    negotiated accept = .webp ↔
      negotiated accept ≠ .avif ∧
        (ofNat 0).rank < max (precedentQ (parseAccept accept) "image/webp").rank
          (top (wildcardQs (parseAccept accept))) := by
  rw [← rank_bestQ]
  exact choose_eq_webp_iff ..

theorem unoutbid_iff (entries : List AcceptEntry) :
    Unoutbid entries ↔
      Below (ofNat 0).rank (precedentQ entries "image/avif").rank
        (precedentQ entries "image/webp").rank (top (wildcardQs entries)) := by
  rw [Below, ← isPositive_iff, ← less_iff]
  cases found : largest (wildcardQs entries) with
  | none =>
      have empty := (largest_eq_none_iff _).mp found
      constructor
      · intro _ positive
        rw [empty] at positive
        exact absurd positive not_lt_bot
      · intro _ wildcard same
        rw [found] at same
        cases same
  | some wildcard =>
      have ranked := rank_of_largest found
      rw [← ranked, ← isPositive_iff]
      constructor
      · intro unoutbid positive
        rcases unoutbid wildcard found positive with below | ⟨own, unbeaten⟩
        · exact Or.inl ((less_iff ..).mp below).2
        · exact Or.inr ⟨own, Bool.eq_false_iff.mp unbeaten⟩
      · intro unoutbid other same positive
        obtain rfl := Option.some.inj (found.symm.trans same)
        rcases unoutbid positive with below | ⟨own, unbeaten⟩
        · have present := (bot_le.trans_lt ((isPositive_iff _).mp positive)).ne'
          exact Or.inl ((less_iff ..).mpr ⟨present, below⟩)
        · exact Or.inr ⟨own, Bool.eq_false_iff.mpr unbeaten⟩

theorem exists_positive_iff (values : List FloatVal) :
    (ofNat 0).rank < ((largest values).getD (.ofNat 0)).rank ↔
      ∃ q ∈ values, q.isPositive = true := by
  simp only [isPositive_iff, ← lt_top_iff_exists]
  rw [rank_getD]
  by_cases none : values = []
  · rw [if_pos none, none]
    exact iff_of_false (lt_irrefl _) not_lt_bot
  · rw [if_neg none]

theorem exists_number_iff (values : List FloatVal) :
    ((largest values).getD (.ofNat 0)).rank ≠ ⊥ ↔ values = [] ∨ ∃ q ∈ values, q ≠ .nan := by
  rw [rank_getD]
  by_cases none : values = []
  · rw [if_pos none]
    exact iff_of_true (mt (rank_eq_bot_iff _).mp (by decide)) (Or.inl none)
  · rw [if_neg none, ← bot_lt_iff_ne_bot, lt_top_iff_exists]
    simp only [bot_lt_iff_ne_bot, ne_eq, rank_eq_bot_iff, none, false_or]

/-- JPEG is left when no format is wanted. -/
theorem negotiated_eq_jpg_iff : negotiated accept = .jpg ↔ ¬ Wanted (parseAccept accept) := by
  rw [Wanted, ← exists_positive_iff, ← exists_positive_iff, ← exists_number_iff]
  change choose _ _ = .jpg ↔ _
  rw [choose_eq_jpg_iff]
  constructor
  · rintro ⟨notAvif, notWebp⟩ wanted
    have nonpositive := fun positive => notWebp ((choose_eq_webp_iff ..).mpr ⟨notAvif, positive⟩)
    rcases wanted with positive | ⟨positive, number⟩
    · exact nonpositive positive
    · have above := (not_lt.mp nonpositive).trans positive.le
      exact notAvif ((choose_eq_avif_iff ..).mpr ⟨positive, number, above⟩)
  · intro unwanted
    constructor
    · intro isAvif
      obtain ⟨positive, number, _⟩ := (choose_eq_avif_iff ..).mp isAvif
      exact unwanted (Or.inr ⟨positive, number⟩)
    · intro isWebp
      exact unwanted (Or.inl ((choose_eq_webp_iff ..).mp isWebp).2)

theorem negotiated_ne_png : negotiated accept ≠ .png := by
  change choose _ _ ≠ .png
  rw [choose]
  split_ifs <;> decide

theorem negotiated_ne_gif : negotiated accept ≠ .gif := by
  change choose _ _ ≠ .gif
  rw [choose]
  split_ifs <;> decide

/-- A weight that is only ever zero is not positive. -/
theorem not_isPositive_of_refused {entries : List AcceptEntry} {mediaType : String}
    (refused : Refused entries mediaType) :
    (precedentQ entries mediaType).isPositive = false := by
  obtain ⟨filled, zeros⟩ := refused
  apply Bool.eq_false_iff.mpr
  intro positive
  cases found : largest (ownQs entries mediaType) with
  | none => exact filled ((largest_eq_none_iff _).mp found)
  | some best =>
      rw [precedentQ, found, Option.some_or, Option.getD_some, isPositive_iff,
        rank_of_largest found, lt_top_iff_exists] at positive
      obtain ⟨q, member, above⟩ := positive
      have zero := zeros q member
      rw [← isPositive_iff] at above
      cases q with
      | nan => cases zero
      | inf negative => cases zero
      | finite negative magnitude =>
          simp only [nonzero, decide_eq_false_iff_not, not_not] at zero
          simp [isPositive, zero] at above

/-- Negotiation honours the entries that name a format itself exactly when no wildcard
outbids them, and when a header that only refuses JPEG wants another format. -/
theorem honoursExact_iff (accept : List Char) :
    HonoursExact accept ↔
      Unoutbid (parseAccept accept) ∧
        (Refused (parseAccept accept) "image/jpeg" → Wanted (parseAccept accept)) := by
  rw [unoutbid_iff]
  constructor
  · intro honoured
    constructor
    · apply below_of_honoured
      · intro wins
        exact (isPositive_iff _).mp (honoured.avif ((negotiated_eq_avif_iff accept).mpr wins))
      · intro present larger positive wins
        have isWebp := honoured.preferWebp ((less_iff ..).mpr ⟨present, larger⟩)
          ((isPositive_iff _).mpr positive)
        have isAvif := (negotiated_eq_avif_iff accept).mpr wins
        exact absurd (isAvif.symm.trans isWebp) (by decide)
    · intro refused
      by_contra unwanted
      exact honoured.refused .jpg _ rfl refused ((negotiated_eq_jpg_iff accept).mpr unwanted)
  · rintro ⟨below, jpeg⟩
    have avif : negotiated accept = .avif →
        (precedentQ (parseAccept accept) "image/avif").isPositive = true := by
      intro isAvif
      exact (isPositive_iff _).mpr (below.own_avif ((negotiated_eq_avif_iff accept).mp isAvif))
    have webp : negotiated accept = .webp →
        (precedentQ (parseAccept accept) "image/webp").isPositive = true := by
      intro isWebp
      obtain ⟨notAvif, positive⟩ := (negotiated_eq_webp_iff accept).mp isWebp
      have loses := mt (negotiated_eq_avif_iff accept).mpr notAvif
      exact (isPositive_iff _).mpr (own_webp loses positive)
    refine ⟨?_, avif, webp, ?_, ?_, fun other => negotiated_perm⟩
    · intro format mediaType own refused isFormat
      have zero := not_isPositive_of_refused refused
      cases format with
      | jpg =>
          obtain rfl := Option.some.inj own
          exact (negotiated_eq_jpg_iff accept).mp isFormat (jpeg refused)
      | png => exact negotiated_ne_png accept isFormat
      | webp =>
          obtain rfl := Option.some.inj own
          exact absurd (webp isFormat) (Bool.eq_false_iff.mp zero)
      | avif =>
          obtain rfl := Option.some.inj own
          exact absurd (avif isFormat) (Bool.eq_false_iff.mp zero)
      | gif => exact negotiated_ne_gif accept isFormat
      | auto => cases own
    · intro larger positive
      obtain ⟨present, above⟩ := (less_iff ..).mp larger
      exact (negotiated_eq_avif_iff accept).mpr
        (wins_of_larger present above ((isPositive_iff _).mp positive))
    · intro larger positive
      obtain ⟨present, above⟩ := (less_iff ..).mp larger
      have ranked := (isPositive_iff _).mp positive
      apply (negotiated_eq_webp_iff accept).mpr
      refine ⟨mt (negotiated_eq_avif_iff accept).mp ?_, ranked.trans_le (le_max_left ..)⟩
      exact below.loses_of_larger present above ranked

end Honoured

/-- AVIF refused beside a wildcard is produced all the same. -/
theorem honoursExact_fails_refused : ¬ HonoursExact "image/avif;q=0, */*".toList := by
  intro honoured
  have produced : negotiated "image/avif;q=0, */*".toList = .avif := by decide +kernel
  have refused : Refused (parseAccept "image/avif;q=0, */*".toList) "image/avif" := by
    constructor <;> decide +kernel
  exact honoured.refused .avif _ rfl refused produced

end ImageResizer

import ImageResizer.Foundation.FloatArith

/-!
# Comparing and maximising floating-point values

Comparisons are false on NaN, and the maximum lets any other value win over it.  Ranking
the values in a linear order with NaN at its bottom turns the maximum into a supremum, so
that the largest of a list depends neither on its order nor on how it was gathered.
-/

namespace FloatVal

/-- `>=`, which is false when either side is NaN. -/
def atLeast : FloatVal → FloatVal → Bool
  | .nan, _ | _, .nan => false
  | first, second => !first.less second

/-- The place of a value in the order, NaN below all others. -/
def rank : FloatVal → WithBot (WithBot (WithTop Rat))
  | .nan => ⊥
  | .inf true => ((⊥ : WithBot (WithTop Rat)) : WithBot (WithBot (WithTop Rat)))
  | .inf false => (((⊤ : WithTop Rat) : WithBot (WithTop Rat)) : WithBot (WithBot (WithTop Rat)))
  | .finite negative magnitude =>
      ((((signed negative magnitude : Rat) : WithTop Rat) : WithBot (WithTop Rat)) :
        WithBot (WithBot (WithTop Rat)))

theorem rank_eq_bot_iff (value : FloatVal) : value.rank = ⊥ ↔ value = .nan := by
  cases value with
  | nan => simp [rank]
  | inf negative => cases negative <;> simp [rank]
  | finite negative magnitude => simp [rank]

theorem rank_finite_lt_inf (negative : Bool) (magnitude : NNRat) :
    (finite negative magnitude).rank < (inf false).rank :=
  WithBot.coe_lt_coe.mpr (WithBot.coe_lt_coe.mpr (WithTop.coe_lt_top _))

theorem rank_inf_lt_finite (negative : Bool) (magnitude : NNRat) :
    (inf true).rank < (finite negative magnitude).rank :=
  WithBot.coe_lt_coe.mpr (WithBot.bot_lt_coe _)

theorem rank_inf_lt_inf : (inf true).rank < (inf false).rank :=
  WithBot.coe_lt_coe.mpr (WithBot.bot_lt_coe _)

theorem rank_finite_lt_iff (first second : Bool) (magnitude factor : NNRat) :
    (finite first magnitude).rank < (finite second factor).rank ↔
      signed first magnitude < signed second factor := by
  simp [rank]

/-- Away from NaN, the comparison is that of the ranks. -/
theorem less_iff (first second : FloatVal) :
    first.less second = true ↔ first.rank ≠ ⊥ ∧ first.rank < second.rank := by
  cases first with
  | nan => cases second <;> simp [less, rank]
  | inf negative =>
      cases second with
      | nan => simp [less, rank]
      | inf other =>
          cases negative <;> cases other <;>
            simp [less, rank_eq_bot_iff, rank_inf_lt_inf, rank_inf_lt_inf.le]
      | finite other magnitude =>
          cases negative <;>
            simp [less, rank_eq_bot_iff, rank_inf_lt_finite, (rank_finite_lt_inf _ _).le]
  | finite negative magnitude =>
      cases second with
      | nan => simp [less, rank]
      | inf other =>
          cases other <;>
            simp [less, rank_eq_bot_iff, rank_finite_lt_inf, (rank_inf_lt_finite _ _).le]
      | finite other factor => simp [less, rank_eq_bot_iff, rank_finite_lt_iff]

theorem atLeast_iff (first second : FloatVal) :
    first.atLeast second = true ↔ second.rank ≠ ⊥ ∧ second.rank ≤ first.rank := by
  by_cases firstNan : first = .nan
  · subst firstNan
    cases second <;> simp [atLeast, rank]
  by_cases secondNan : second = .nan
  · subst secondNan
    cases first <;> simp [atLeast, rank]
  have compares : first.atLeast second = !first.less second := by
    cases first <;> cases second <;> first | rfl | contradiction
  rw [compares, Bool.not_eq_true', Bool.eq_false_iff, ne_eq, less_iff, not_and, not_lt,
    ne_eq, rank_eq_bot_iff, ne_eq, rank_eq_bot_iff]
  exact ⟨fun above => ⟨secondNan, above firstNan⟩, fun above _ => above.2⟩

theorem isPositive_iff (value : FloatVal) :
    value.isPositive = true ↔ (ofNat 0).rank < value.rank := by
  cases value with
  | nan => simp [isPositive, rank]
  | inf negative =>
      cases negative with
      | true => simp [isPositive, ofNat, (rank_inf_lt_finite _ _).le]
      | false => simp [isPositive, ofNat, rank_finite_lt_inf]
  | finite negative magnitude =>
      rw [ofNat, rank_finite_lt_iff]
      cases negative with
      | false => simp [isPositive, signed]
      | true => simp [isPositive, signed]

theorem rank_max (first second : FloatVal) :
    (first.max second).rank = Max.max first.rank second.rank := by
  by_cases firstNan : first = .nan
  · subst firstNan
    rw [(rank_eq_bot_iff .nan).mpr rfl, max_bot_left]
    cases second <;> rfl
  by_cases secondNan : second = .nan
  · subst secondNan
    rw [(rank_eq_bot_iff .nan).mpr rfl, max_bot_right]
    cases first <;> rfl
  have larger : first.max second = if first.less second then second else first := by
    cases first <;> cases second <;> first | rfl | contradiction
  rw [larger]
  by_cases below : first.less second = true
  · rw [if_pos below, max_eq_right ((less_iff ..).mp below).2.le]
  · rw [if_neg below, max_eq_left]
    apply not_lt.mp
    intro ranked
    exact below ((less_iff ..).mpr ⟨mt (rank_eq_bot_iff _).mp firstNan, ranked⟩)

/-- The largest of the values: the fold of `max` from nothing. -/
def largest (values : List FloatVal) : Option FloatVal :=
  values.foldl (fun best value => some (best.elim value fun known => known.max value)) none

/-- The supremum of the ranks. -/
def top (values : List FloatVal) : WithBot (WithBot (WithTop Rat)) :=
  values.foldr (fun value best => Max.max value.rank best) ⊥

section Largest

theorem top_cons (value : FloatVal) (values : List FloatVal) :
    top (value :: values) = Max.max value.rank (top values) := rfl

/-- From a value found before, the fold ends with a value of the joint rank. -/
theorem foldl_largest (values : List FloatVal) (known : FloatVal) :
    ∃ best, values.foldl (fun best value => some (best.elim value fun known => known.max value))
        (some known) = some best ∧ best.rank = Max.max known.rank (top values) := by
  induction values generalizing known with
  | nil => exact ⟨known, rfl, (max_bot_right _).symm⟩
  | cons value values ih =>
      obtain ⟨best, reached, ranked⟩ := ih (known.max value)
      refine ⟨best, reached, ?_⟩
      rw [ranked, rank_max, top_cons, max_assoc]

theorem largest_cons (value : FloatVal) (values : List FloatVal) :
    ∃ best, largest (value :: values) = some best ∧ best.rank = top (value :: values) :=
  foldl_largest values value

theorem largest_eq_none_iff (values : List FloatVal) : largest values = none ↔ values = [] := by
  cases values with
  | nil => exact iff_of_true rfl rfl
  | cons value values =>
      obtain ⟨best, found, _⟩ := largest_cons value values
      simp [found]

theorem rank_of_largest {values : List FloatVal} {best : FloatVal}
    (found : largest values = some best) : best.rank = top values := by
  cases values with
  | nil => cases found
  | cons value values =>
      obtain ⟨other, reached, ranked⟩ := largest_cons value values
      obtain rfl := Option.some.inj (found.symm.trans reached)
      exact ranked

theorem top_perm {values permuted : List FloatVal} (rearranged : values.Perm permuted) :
    top values = top permuted := by
  induction rearranged with
  | nil => rfl
  | cons value _ ih => rw [top_cons, top_cons, ih]
  | swap first second values =>
      rw [top_cons, top_cons, top_cons, top_cons, max_left_comm]
  | trans _ _ ihFirst ihSecond => exact ihFirst.trans ihSecond

/-- The supremum passes a bound when one of the values does. -/
theorem lt_top_iff_exists (bound : WithBot (WithBot (WithTop Rat))) (values : List FloatVal) :
    bound < top values ↔ ∃ value ∈ values, bound < value.rank := by
  induction values with
  | nil => exact iff_of_false not_lt_bot (fun ⟨_, member, _⟩ => absurd member List.not_mem_nil)
  | cons value values ih => rw [top_cons, lt_max_iff, ih, List.exists_mem_cons_iff]

/-- What is gathered by either of two criteria has the larger rank of both. -/
theorem top_filter_or {α : Type} (value : α → FloatVal) (first second : α → Bool)
    (list : List α) :
    top ((list.filter fun element => first element || second element).map value) =
      Max.max (top ((list.filter first).map value)) (top ((list.filter second).map value)) := by
  induction list with
  | nil => exact (max_self ⊥).symm
  | cons element list ih =>
      rw [List.filter_cons, List.filter_cons, List.filter_cons]
      cases first element <;> cases second element <;>
        simp only [Bool.or_true, Bool.or_false, Bool.false_eq_true, if_true, if_false,
          List.map_cons, top_cons, ih, max_assoc, max_left_comm]
      rw [← max_assoc (value element).rank (value element).rank, max_self]

end Largest

end FloatVal

import Mathlib.Data.List.Basic
import Mathlib.Data.Set.Card

/-!
# Counted permits

A semaphore knows how many of its permits are free, not who holds the others.  The
accounting ties its count to the set of holders: together they make up the capacity, so a
permit is neither lost nor handed out twice.

A fair semaphore keeps those who wait for a permit in a queue, and a permit that is given
back goes to the first of them.
-/

namespace Permits

variable {Holder : Type*}

/-! ## The accounting -/

/-- The free permits and the holders make up the capacity. -/
def Accounted (capacity available : Nat) (holders : Set Holder) : Prop :=
  (available : ℕ∞) + holders.encard = capacity

namespace Accounted

variable {capacity available : Nat} {holders : Set Holder} {holder next : Holder}

theorem initial : Accounted capacity capacity (∅ : Set Holder) := by
  rw [Accounted, Set.encard_empty, add_zero]

/-- A free permit is taken. -/
theorem take (accounted : Accounted capacity (available + 1) holders)
    (fresh : holder ∉ holders) : Accounted capacity available (insert holder holders) := by
  rw [Accounted, Set.encard_insert_of_notMem fresh, ← accounted, Nat.cast_add, Nat.cast_one,
    add_right_comm, add_assoc]

/-- A holder gives its permit back. -/
theorem give (accounted : Accounted capacity available holders) (held : holder ∈ holders) :
    Accounted capacity (available + 1) (holders \ {holder}) := by
  rw [Accounted, ← accounted, ← Set.encard_sdiff_singleton_add_one held, Nat.cast_add,
    Nat.cast_one, add_right_comm, add_assoc]

/-- A holder hands its permit on. -/
theorem hand (accounted : Accounted capacity available holders) (held : holder ∈ holders)
    (fresh : next ∉ holders) :
    Accounted capacity available (insert next (holders \ {holder})) := by
  apply (accounted.give held).take
  exact fun member => fresh member.1

/-- No more permits are out than there are. -/
theorem encard_le (accounted : Accounted capacity available holders) :
    holders.encard ≤ capacity := by
  rw [← accounted]
  exact self_le_add_left _ _

/-- No permit is free exactly when all of them are held. -/
theorem exhausted_iff (accounted : Accounted capacity available holders) :
    available = 0 ↔ holders.encard = capacity := by
  obtain ⟨count, counted⟩ := ENat.ne_top_iff_exists.mp
    (ne_top_of_le_ne_top (ENat.natCast_ne_top capacity) accounted.encard_le)
  rw [Accounted, ← counted] at accounted
  rw [← counted]
  norm_cast at accounted ⊢
  omega

/-- All permits are free exactly when nobody holds one. -/
theorem idle_iff (accounted : Accounted capacity available holders) :
    available = capacity ↔ holders = ∅ := by
  obtain ⟨count, counted⟩ := ENat.ne_top_iff_exists.mp
    (ne_top_of_le_ne_top (ENat.natCast_ne_top capacity) accounted.encard_le)
  rw [← Set.encard_eq_zero, ← counted]
  rw [Accounted, ← counted] at accounted
  norm_cast at accounted ⊢
  omega

end Accounted

/-! ## Who holds a permit

Where a permit is held by being at a certain place, a move of one party changes the set of
holders by that party at most. -/

section Places

variable {Place : Type*} [DecidableEq Holder] {holds : Place → Prop} {place : Holder → Place}
variable {holder : Holder} {after : Place}

theorem holders_enter (now : holds after) :
    {other | holds (Function.update place holder after other)} =
      insert holder {other | holds (place other)} := by
  ext other
  by_cases same : other = holder
  case pos => simp [same, now]
  case neg => simp [same]

theorem holders_exit (no_longer : ¬ holds after) :
    {other | holds (Function.update place holder after other)} =
      {other | holds (place other)} \ {holder} := by
  ext other
  by_cases same : other = holder
  case pos => simp [same, no_longer]
  case neg => simp [same]

theorem holders_stay (still : holds after ↔ holds (place holder)) :
    {other | holds (Function.update place holder after other)} =
      {other | holds (place other)} := by
  ext other
  by_cases same : other = holder
  case pos => simp [same, still]
  case neg => simp [same]

end Places

/-! ## Queues -/

/-- A fair semaphore: the free permits, and those who wait for one in turn. -/
structure Fair (Holder : Type*) where
  available : Nat
  queue : List Holder

namespace Fair

variable (pool : Fair Holder) (holder : Holder)

/-- Ask for a permit; `true` if it is granted at once. -/
def acquire : Bool × Fair Holder :=
  match pool.available with
  | 0 => (false, { pool with queue := pool.queue ++ [holder] })
  | available + 1 => (true, { pool with available })

/-- Give a permit back; whoever waits first has it now. -/
def release : Option Holder × Fair Holder :=
  match pool.queue with
  | [] => (none, { pool with available := pool.available + 1 })
  | next :: queue => (some next, { pool with queue })

/-- Stop waiting. -/
def leave [DecidableEq Holder] : Fair Holder := { pool with queue := pool.queue.erase holder }

/-- A permit is free only if nobody waits, and whoever waits holds none. -/
structure Orderly (capacity : Nat) (holders : Set Holder) (pool : Fair Holder) : Prop where
  accounted : Accounted capacity pool.available holders
  nodup : pool.queue.Nodup
  waiting : ∀ holder ∈ pool.queue, holder ∉ holders
  busy : pool.queue ≠ [] → pool.available = 0

variable {pool holder} {capacity : Nat} {holders : Set Holder}

theorem acquire_granted {left : Fair Holder} (granted : pool.acquire holder = (true, left)) :
    pool.available = left.available + 1 ∧ left.queue = pool.queue := by
  unfold acquire at granted
  split at granted
  case h_1 => cases granted
  case h_2 available free =>
      cases granted
      exact ⟨free, rfl⟩

theorem acquire_queued {left : Fair Holder} (queued : pool.acquire holder = (false, left)) :
    pool.available = 0 ∧ left = { pool with queue := pool.queue ++ [holder] } := by
  unfold acquire at queued
  split at queued
  case h_1 none_ =>
      cases queued
      exact ⟨none_, rfl⟩
  case h_2 => cases queued

namespace Orderly

variable (orderly : pool.Orderly capacity holders)

include orderly

theorem acquire_granted {left : Fair Holder} (granted : pool.acquire holder = (true, left))
    (fresh : holder ∉ holders) : left.Orderly capacity (insert holder holders) := by
  obtain ⟨free, same⟩ := Fair.acquire_granted granted
  have empty : pool.queue = [] := by
    by_contra waits
    have exhausted := orderly.busy waits
    omega
  refine ⟨?_, ?_, ?_, ?_⟩
  · have accounted := orderly.accounted
    rw [free] at accounted
    exact accounted.take fresh
  · rw [same]
    exact orderly.nodup
  · intro waiter member
    rw [same, empty] at member
    cases member
  · intro waits
    rw [same, empty] at waits
    exact absurd rfl waits

theorem acquire_queued {left : Fair Holder} (queued : pool.acquire holder = (false, left))
    (fresh : holder ∉ holders) (absent : holder ∉ pool.queue) :
    left.Orderly capacity holders := by
  obtain ⟨none_, rfl⟩ := Fair.acquire_queued queued
  refine ⟨orderly.accounted, ?_, ?_, fun _ => none_⟩
  · exact List.nodup_append.mpr ⟨orderly.nodup, List.nodup_singleton _,
      fun waiter member other single same => absent (List.mem_singleton.mp single ▸ same ▸ member)⟩
  · intro waiter member
    rcases List.mem_append.mp member with earlier | single
    · exact orderly.waiting waiter earlier
    · exact List.mem_singleton.mp single ▸ fresh

theorem release_free {left : Fair Holder} (free : pool.release = (none, left))
    (held : holder ∈ holders) : left.Orderly capacity (holders \ {holder}) := by
  unfold release at free
  split at free
  case h_1 empty =>
      cases free
      refine ⟨orderly.accounted.give held, orderly.nodup, ?_, ?_⟩
      · intro waiter member
        rw [empty] at member
        cases member
      · exact fun waits => absurd empty waits
  case h_2 => cases free

theorem release_handed {left : Fair Holder} {next : Holder}
    (handed : pool.release = (some next, left)) (held : holder ∈ holders) :
    left.Orderly capacity (insert next (holders \ {holder})) ∧ pool.queue = next :: left.queue := by
  unfold release at handed
  split at handed
  case h_1 => cases handed
  case h_2 first queue waits =>
      cases handed
      have nodup := orderly.nodup
      rw [waits, List.nodup_cons] at nodup
      have fresh := orderly.waiting next (waits ▸ List.mem_cons_self)
      have exhausted : pool.available = 0 := orderly.busy (by simp [waits])
      refine ⟨⟨orderly.accounted.hand held fresh, nodup.2, ?_, fun _ => exhausted⟩, waits⟩
      rintro waiter member (rfl | still)
      · exact nodup.1 member
      · exact orderly.waiting waiter (waits ▸ List.mem_cons_of_mem _ member) still.1

theorem leave [DecidableEq Holder] : (pool.leave holder).Orderly capacity holders := by
  refine ⟨orderly.accounted, orderly.nodup.erase _, ?_, ?_⟩
  · exact fun waiter member => orderly.waiting waiter (List.mem_of_mem_erase member)
  · intro waits
    apply orderly.busy
    intro empty
    apply waits
    simp [Fair.leave, empty]

end Orderly

/-! ### Turns -/

/-- What may happen to the queue of an exhausted semaphore and to the holders of its
permits. -/
inductive Turns : List Holder → Set Holder → List Holder → Set Holder → Prop
  | keep {queue : List Holder} {holders after : Set Holder} (fewer : after ⊆ holders) :
      Turns queue holders queue after
  | join {queue : List Holder} {holders after : Set Holder} (last : Holder)
      (fewer : after ⊆ holders) : Turns queue holders (queue ++ [last]) after
  | hand {queue : List Holder} {holders after : Set Holder} (next : Holder)
      (served : after ⊆ insert next holders) : Turns (next :: queue) holders queue after
  | leave [DecidableEq Holder] {queue : List Holder} {holders after : Set Holder} (leaver : Holder)
      (fewer : after ⊆ holders) : Turns queue holders (queue.erase leaver) after

/-- Whoever goes on waiting is not overtaken: nobody comes in front, and only those in front
are served. -/
theorem Turns.in_order {queue later front back : List Holder} {holders after : Set Holder}
    {waiter : Holder} (turns : Turns queue holders later after) (nodup : queue.Nodup)
    (waits : queue = front ++ waiter :: back) (still : waiter ∈ later) :
    (∃ first last, later = first ++ waiter :: last ∧ first ⊆ front) ∧
      after ⊆ holders ∪ {other | other ∈ front} := by
  cases turns with
  | keep fewer =>
      exact ⟨⟨front, back, waits, List.Subset.refl _⟩, fewer.trans Set.subset_union_left⟩
  | join last fewer =>
      refine ⟨⟨front, back ++ [last], ?_, List.Subset.refl _⟩, fewer.trans Set.subset_union_left⟩
      rw [waits, List.append_assoc, List.cons_append]
  | hand next served =>
      cases front with
      | nil =>
          obtain ⟨rfl, rfl⟩ := List.cons.inj waits
          exact absurd still (List.nodup_cons.mp nodup).1
      | cons first front =>
          obtain ⟨rfl, rfl⟩ := List.cons.inj waits
          refine ⟨⟨front, back, rfl, List.subset_cons_self ..⟩, served.trans ?_⟩
          rintro other (rfl | held)
          · exact .inr List.mem_cons_self
          · exact .inl held
  | leave leaver fewer =>
      refine ⟨?_, fewer.trans Set.subset_union_left⟩
      rw [waits] at nodup still ⊢
      have stays : waiter ≠ leaver := by
        rintro rfl
        exact absurd rfl (nodup.mem_erase_iff.mp still).1
      by_cases ahead : leaver ∈ front
      · refine ⟨front.erase leaver, back, ?_, List.erase_subset⟩
        exact List.erase_append_left _ ahead
      · refine ⟨front, back.erase leaver, ?_, List.Subset.refl _⟩
        rw [List.erase_append_right _ ahead, List.erase_cons_tail (by simpa using stays)]

end Fair

end Permits

import ImageResizer.SingleFlight.Invariant

/-!
# How often one key is transformed

The single-flight map keeps two leaders of one key from overlapping, but the
cache check and the map lookup are separate steps, and the lookup does not check
the cache again.  A call that missed the cache before another leader's upload and
looks the map up after that leader's guard is gone becomes a second leader.

`at_most_once` shows this is the only way: when every vacant lookup happens before
the key is stored, each part of the work runs at most once per key.
-/

namespace ImageResizer.SingleFlight

open Transition

variable {Caller Failure : Type}

/-- No call fails or is cancelled, and no stored entry goes away. -/
def Action.quiet : Action Caller Failure → Bool
  | .fail _ _ | .crash _ | .abandon _ | .evict _ => false
  | _ => true

/-- A lookup that finds the map vacant finds the key not stored either. -/
def Action.fresh (keyOf : Caller → String) (state : State Caller Failure) :
    Action Caller Failure → Bool
  | .lookup caller =>
      (state.inFlight (keyOf caller)).isSome || !state.stored (keyOf caller)
  | _ => true

/-- How often each part of `do_resize_work` has run for a key. -/
def State.executed (state : State Caller Failure) (key : String) : Nat × Nat × Nat :=
  (state.downloads key, state.transforms key, state.uploads key)

/-- What has run when a leader stands before a stage, if nothing ran before it. -/
def Stage.done : Stage → Nat × Nat × Nat
  | .download => (0, 0, 0)
  | .transform => (1, 0, 0)
  | .upload => (1, 1, 0)

/-- The stage after this one. -/
def Stage.next : Stage → Option Stage
  | .download => some .transform
  | .transform => some .upload
  | .upload => none

/-- Count one execution of a stage. -/
def Stage.count : Stage → Nat × Nat × Nat → Nat × Nat × Nat
  | .download, (downloads, transforms, uploads) => (downloads + 1, transforms, uploads)
  | .transform, (downloads, transforms, uploads) => (downloads, transforms + 1, uploads)
  | .upload, (downloads, transforms, uploads) => (downloads, transforms, uploads + 1)

/-- The stage of `do_resize_work` a call is in. -/
def Phase.stage? : Phase Failure → Option Stage
  | .working _ stage => some stage
  | _ => none

theorem Stage.count_done (stage : Stage) :
    stage.count stage.done = (stage.next.map Stage.done).getD (1, 1, 1) := by
  cases stage <;> rfl

theorem Phase.guard_of_stage {phase : Phase Failure} {stage : Stage}
    (working : phase.stage? = some stage) : phase.guard?.isSome := by
  cases phase <;> simp_all [Phase.stage?, Phase.guard?]

variable (keyOf : Caller → String)

/-- What a quiet step does to the work on each key. -/
inductive Progress (state next : State Caller Failure) : Prop where
  /-- Nobody starts, performs or leaves a stage. -/
  | still
      (stages : ∀ caller, (next.call caller).stage? = (state.call caller).stage?)
      (executed : ∀ key, next.executed key = state.executed key)
      (stored : ∀ key, state.stored key = true → next.stored key = true)
  /-- A new leader starts at the first stage. -/
  | lead (caller : Caller)
      (vacant : state.inFlight (keyOf caller) = none)
      (unstored : state.stored (keyOf caller) = false)
      (leads : (next.call caller).stage? = some .download)
      (stages : ∀ other, other ≠ caller →
        (next.call other).stage? = (state.call other).stage?)
      (executed : ∀ key, next.executed key = state.executed key)
      (stored : ∀ key, state.stored key = true → next.stored key = true)
  /-- A leader performs its stage; the last one stores the key. -/
  | advance (caller : Caller) (stage : Stage)
      (working : (state.call caller).stage? = some stage)
      (moves : (next.call caller).stage? = stage.next)
      (stages : ∀ other, other ≠ caller →
        (next.call other).stage? = (state.call other).stage?)
      (counted : next.executed (keyOf caller) = stage.count (state.executed (keyOf caller)))
      (executed : ∀ key, key ≠ keyOf caller → next.executed key = state.executed key)
      (finished : stage.next = none → next.stored (keyOf caller) = true)
      (stored : ∀ key, state.stored key = true → next.stored key = true)

/-- Each key has been worked on zero times or once: as far as the stage of its
leader, or, when it has none, either not at all or to the end. -/
structure OnceInv (state : State Caller Failure) : Prop where
  working : ∀ {caller stage}, (state.call caller).stage? = some stage →
    state.executed (keyOf caller) = stage.done
  resting : ∀ {key}, (∀ caller, keyOf caller = key → (state.call caller).stage? = none) →
    state.executed key = (0, 0, 0) ∨ (state.executed key = (1, 1, 1) ∧ state.stored key = true)

namespace OnceInv

variable {keyOf} {state next : State Caller Failure}

theorem initial (isInitial : Initial state) : OnceInv keyOf state := by
  obtain ⟨starts, _, _, counts⟩ := isInitial
  constructor
  case working =>
    intro caller stage working
    simp [starts caller, Phase.stage?] at working
  case resting =>
    intro key _
    obtain ⟨downloads, transforms, uploads⟩ := counts key
    exact .inl (by simp [State.executed, downloads, transforms, uploads])

/-- Whoever is working, no part has run more than once. -/
theorem bounded (once : OnceInv keyOf state) (key : String) :
    state.downloads key ≤ 1 ∧ state.transforms key ≤ 1 ∧ state.uploads key ≤ 1 := by
  have total : ∃ downloads transforms uploads, state.executed key =
      (downloads, transforms, uploads) ∧ downloads ≤ 1 ∧ transforms ≤ 1 ∧ uploads ≤ 1 := by
    by_cases rest : ∀ caller, keyOf caller = key → (state.call caller).stage? = none
    · rcases once.resting rest with counts | ⟨counts, _⟩ <;>
        exact ⟨_, _, _, counts, by decide⟩
    · push Not at rest
      obtain ⟨caller, onKey, working⟩ := rest
      obtain ⟨stage, holds⟩ := Option.ne_none_iff_exists'.mp working
      have counts := once.working holds
      rw [onKey] at counts
      cases stage <;> exact ⟨_, _, _, counts, by decide⟩
  obtain ⟨downloads, transforms, uploads, counts, bounds⟩ := total
  simp only [State.executed, Prod.mk.injEq] at counts
  obtain ⟨rfl, rfl, rfl⟩ := counts
  exact bounds

variable [ToString Failure]

/-- No other call works on a key whose map entry is vacant or whose leader works. -/
theorem unworked_of_vacant (inv : Inv keyOf state.toRegistry) {key : String}
    (vacant : state.inFlight key = none) {caller : Caller} (onKey : keyOf caller = key) :
    (state.call caller).stage? = none := by
  cases stage : (state.call caller).stage? with
  | none => rfl
  | some working =>
      obtain ⟨chan, guard⟩ := Option.isSome_iff_exists.mp (Phase.guard_of_stage stage)
      have entry := inv.guard_entry guard
      simp [onKey, vacant] at entry

theorem sole_worker (inv : Inv keyOf state.toRegistry) {first second : Caller}
    {stage other : Stage} (working : (state.call first).stage? = some stage)
    (also : (state.call second).stage? = some other) (onKey : keyOf first = keyOf second) :
    first = second := by
  obtain ⟨chan, held⟩ := Option.isSome_iff_exists.mp (Phase.guard_of_stage working)
  obtain ⟨chan', held'⟩ := Option.isSome_iff_exists.mp (Phase.guard_of_stage also)
  have found := inv.guard_entry held
  rw [onKey, inv.guard_entry held'] at found
  cases found
  exact inv.sender_unique (Phase.sender_of_guard held) (Phase.sender_of_guard held')

theorem preserved (inv : Inv keyOf state.toRegistry) (once : OnceInv keyOf state)
    (progress : Progress keyOf state next) : OnceInv keyOf next := by
  cases progress with
  | still stages executed stored =>
      constructor
      case working =>
        intro caller stage working
        rw [executed]
        exact once.working (stages caller ▸ working)
      case resting =>
        intro key rest
        rw [executed]
        refine (once.resting fun caller onKey => ?_).imp_right fun done =>
          ⟨done.1, stored key done.2⟩
        rw [← stages caller]
        exact rest caller onKey
  | lead caller vacant unstored leads stages executed stored =>
      have untouched : state.executed (keyOf caller) = (0, 0, 0) := by
        rcases once.resting fun other onKey => unworked_of_vacant inv vacant onKey with
          none | ⟨_, already⟩
        · exact none
        · simp [unstored] at already
      constructor
      case working =>
        intro other stage working
        rw [executed]
        by_cases same : other = caller
        · subst same
          rw [leads] at working
          cases working
          exact untouched
        · rw [stages other same] at working
          exact once.working working
      case resting =>
        intro key rest
        have offKey : keyOf caller ≠ key := by
          intro onKey
          simp [rest caller onKey] at leads
        rw [executed]
        refine (once.resting fun other onKey => ?_).imp_right fun done =>
          ⟨done.1, stored key done.2⟩
        have distinct : other ≠ caller := by
          rintro rfl
          exact offKey onKey
        rw [← stages other distinct]
        exact rest other onKey
  | advance caller stage working moves stages counted executed finished stored =>
      have counts : next.executed (keyOf caller) =
          (stage.next.map Stage.done).getD (1, 1, 1) := by
        rw [counted, once.working working, stage.count_done]
      constructor
      case working =>
        intro other reached holds
        by_cases same : other = caller
        · subst same
          rw [counts, ← moves, holds]
          rfl
        · rw [stages other same] at holds
          have offKey : keyOf other ≠ keyOf caller := fun onKey =>
            same (sole_worker inv holds working onKey)
          rw [executed _ offKey]
          exact once.working holds
      case resting =>
        intro key rest
        by_cases onKey : key = keyOf caller
        · subst onKey
          have last : stage.next = none := by rw [← moves, rest caller rfl]
          exact .inr ⟨by rw [counts, last]; rfl, finished last⟩
        · rw [executed key onKey]
          refine (once.resting fun other ownsKey => ?_).imp_right fun done =>
            ⟨done.1, stored key done.2⟩
          have distinct : other ≠ caller := by
            rintro rfl
            exact onKey ownsKey.symm
          rw [← stages other distinct]
          exact rest other ownsKey

end OnceInv

variable [DecidableEq Caller]

/-- Moving one call between phases that are not stages is no progress. -/
theorem Progress.rephase {state : State Caller Failure} {registry : Registry Caller Failure}
    {caller : Caller} {after : Phase Failure} (calls : registry.call = state.call)
    (kept : after.stage? = (state.call caller).stage?) :
    Progress keyOf state (state.setRegistry (registry.setCall caller after)) := by
  refine .still ?_ (fun _ => rfl) (fun _ stored => stored)
  intro other
  rw [← calls] at kept ⊢
  exact registry.setCall_projection caller Phase.stage? after kept other

variable [ToString Failure]

/-- What a quiet step does to the work, when every vacant lookup is fresh. -/
theorem step_progress (cdnUrl : String → String) {state next : State Caller Failure}
    {action : Action Caller Failure} (quiet : action.quiet = true)
    (fresh : action.fresh keyOf state = true)
    (stepped : step keyOf cdnUrl state action = some next) :
    Progress keyOf state next := by
  cases step_occurs stepped with
  | hit start _ => exact .rephase keyOf rfl (by rw [start]; rfl)
  | miss start _ => exact .rephase keyOf rfl (by rw [start]; rfl)
  | missErr start => exact .rephase keyOf rfl (by rw [start]; rfl)
  | subscribe missed _ => exact .rephase keyOf rfl (by rw [missed]; rfl)
  | @lead caller missed vacant =>
      have unstored : state.stored (keyOf caller) = false := by
        simpa [Action.fresh, vacant] using fresh
      refine .lead caller vacant unstored ?_ ?_ (fun _ => rfl) (fun _ kept => kept)
      · simp [State.setRegistry, Registry.lead, Registry.setCall, Phase.stage?]
      · intro other distinct
        simp [State.setRegistry, Registry.lead, Registry.setCall, Registry.setChannel,
          distinct]
  | download working =>
      refine .advance _ .download (by rw [working]; rfl) ?_ ?_ ?_ ?_ (by simp [Stage.next])
        (fun _ kept => kept)
      · rw [State.setRegistry, Registry.setCall_self]
        rfl
      · intro other distinct
        rw [State.setRegistry, Registry.setCall_of_ne _ _ _ distinct]
      · simp [State.executed, Stage.count, State.setRegistry]
      · intro key off
        simp [State.executed, State.setRegistry, off]
  | transform working =>
      refine .advance _ .transform (by rw [working]; rfl) ?_ ?_ ?_ ?_ (by simp [Stage.next])
        (fun _ kept => kept)
      · rw [State.setRegistry, Registry.setCall_self]
        rfl
      · intro other distinct
        rw [State.setRegistry, Registry.setCall_of_ne _ _ _ distinct]
      · simp [State.executed, Stage.count, State.setRegistry]
      · intro key off
        simp [State.executed, State.setRegistry, off]
  | upload working =>
      refine .advance _ .upload (by rw [working]; rfl) ?_ ?_ ?_ ?_ ?_ ?_
      · rw [State.setRegistry, Registry.setCall_self]
        rfl
      · intro other distinct
        rw [State.setRegistry, Registry.setCall_of_ne _ _ _ distinct]
      · simp [State.executed, Stage.count, State.setRegistry]
      · intro key off
        simp [State.executed, State.setRegistry, off]
      · simp
      · intro key kept
        simp [Function.update_apply, kept]
  | fail | crash | abandon | leave | evict => simp [Action.quiet] at quiet
  | remove closing =>
      refine .still ?_ (fun _ => rfl) (fun _ kept => kept)
      exact state.setCall_projection _ Phase.stage? _ (by rw [closing]; rfl)
  | @send _ _ own sending =>
      refine .rephase keyOf rfl ?_
      rw [sending]
      cases own <;> rfl
  | @lost _ own sending =>
      refine .rephase keyOf rfl ?_
      rw [sending]
      cases own <;> rfl
  | joinMessage waiting _ => exact .rephase keyOf rfl (by rw [waiting]; rfl)
  | joinClosed waiting _ _ => exact .rephase keyOf rfl (by rw [waiting]; rfl)
  | appear key =>
      refine .still (fun _ => rfl) (fun _ => rfl) ?_
      intro other kept
      simp [Function.update_apply, kept]

/-- In every quiet run whose vacant lookups are all fresh, download, transform and
upload run at most once for each key. -/
theorem at_most_once (cdnUrl : String → String) {state : State Caller Failure}
    (reachable : (service keyOf cdnUrl).Reachable
      (fun state action => action.quiet = true ∧ action.fresh keyOf state = true) state)
    (key : String) :
    state.downloads key ≤ 1 ∧ state.transforms key ≤ 1 ∧ state.uploads key ≤ 1 := by
  have once : OnceInv keyOf state := by
    refine reachable.invariant_assuming
      (fun _ before => reachable_inv keyOf cdnUrl before) (fun _ => OnceInv.initial) ?_
    intro before action after (inv : Inv keyOf before.toRegistry) once permitted stepped
    exact once.preserved inv (step_progress keyOf cdnUrl permitted.1 permitted.2 stepped)
  exact once.bounded key

/-- One leader works while a second call on the key joins it. -/
def joinScript : List (Action Bool String) :=
  [.checkCache true, .checkCache false, .lookup true, .download true, .lookup false,
    .transform true, .upload true, .removeEntry true, .broadcast true, .receive false]

theorem at_most_once_of_join :
    ∃ state, (service (fun _ : Bool => "k") id).run
        (fun state action => action.quiet = true ∧ action.fresh (fun _ => "k") state = true)
        (idle : State Bool String) joinScript = some state ∧
      state.downloads "k" ≤ 1 ∧ state.transforms "k" ≤ 1 ∧ state.uploads "k" ≤ 1 :=
  ⟨_, rfl, at_most_once (fun _ => "k") id
    (System.reachable_of_run _ _ joinScript (.init idle_initial) rfl) "k"⟩

/-- Both calls miss the cache; the second looks the map up only after the first has
uploaded, removed its entry and returned. -/
def lateLookupScript : List (Action Bool String) :=
  [.checkCache true, .checkCache false, .lookup true, .download true, .transform true,
    .upload true, .removeEntry true, .broadcast true, .lookup false, .download false,
    .transform false, .upload false]

/-- A quiet run of two calls on one key that downloads, transforms and uploads twice. -/
theorem worked_twice :
    ∃ state : State Bool String, (service (fun _ : Bool => "k") id).Reachable
        (fun _ action => action.quiet = true) state ∧
      state.downloads "k" = 2 ∧ state.transforms "k" = 2 ∧ state.uploads "k" = 2 :=
  ⟨_, System.reachable_of_run _ _ lateLookupScript (.init idle_initial) rfl, rfl, rfl, rfl⟩

end ImageResizer.SingleFlight

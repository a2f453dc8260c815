import ImageResizer.LoadShedding.Accounts

/-!
# Waiting in turn

Nobody is overtaken in the queue for a download, and a request that gave up before its closure
began is not worked on later.
-/

namespace ImageResizer.LoadShedding

open Transition Permits

variable {Request : Type} [DecidableEq Request]
variable {limits : Limits} {wantsWatermark : Request → Bool} {state next : State Request}

/-! ## Turns -/

section Turns

variable {request : Request} {phase : Phase}

theorem downloading_update_subset (holdsNone : ¬ phase.Downloading) :
    {other | (Function.update state.call request phase other).Downloading} ⊆
      state.downloading := by
  rw [holders_exit holdsNone]
  exact Set.sdiff_subset

/-- With a request waiting already, another download is queued. -/
theorem acquireDownload_turns (balanced : Balanced limits state) (fetch : Fetch)
    (waits : state.downloads.queue ≠ []) :
    Fair.Turns state.downloads.queue state.downloading
      (state.acquireDownload request fetch).downloads.queue
      (state.acquireDownload request fetch).downloading := by
  have exhausted := balanced.downloads.busy waits
  unfold State.acquireDownload
  split
  case h_1 granted =>
      have free := (Fair.acquire_granted granted).1
      omega
  case h_2 downloads queued =>
      obtain ⟨-, rfl⟩ := Fair.acquire_queued queued
      exact .join request (downloading_update_subset id)

theorem dropDownload_turns (waits : state.downloads.queue ≠ []) (holdsNone : ¬ phase.Downloading) :
    Fair.Turns state.downloads.queue state.downloading
      (state.dropDownload.setCall request phase).downloads.queue
      (state.dropDownload.setCall request phase).downloading := by
  have subset : (state.dropDownload.setCall request phase).downloading ⊆
      state.dropDownload.downloading := downloading_update_subset holdsNone
  match queue : state.downloads.queue with
  | [] => exact absurd queue waits
  | next :: rest =>
      have dropped : state.dropDownload =
          { state.setCall next (State.granted (state.call next)) with
            downloads := { state.downloads with queue := rest } } := by
        simp only [State.dropDownload, Fair.release, queue]
      have later : (state.dropDownload.setCall request phase).downloads.queue = rest := by
        rw [dropped]
        rfl
      rw [later]
      refine .hand next (subset.trans ?_)
      rw [dropped]
      intro other holds
      by_cases same : other = next
      case pos => exact .inl same
      case neg =>
          right
          change (Function.update state.call next _ other).Downloading at holds
          rwa [Function.update_of_ne same] at holds

/-- A closure that is heard of or not changes nothing of the downloads. -/
theorem deliver_turns {stage : Stage} {job : Job} (holdsNone : ¬ (Phase.inside stage).Downloading) :
    Fair.Turns state.downloads.queue state.downloading
      ((state.deliver request stage).setJob request job).downloads.queue
      ((state.deliver request stage).setJob request job).downloading := by
  unfold State.deliver
  split
  case isTrue => exact .keep (downloading_update_subset holdsNone)
  case isFalse => exact .keep subset_rfl

/-- Nobody leaves the queue but from its front, with a permit, or for good. -/
theorem step_turns {action : Action Request} (balanced : Balanced limits state)
    (waits : state.downloads.queue ≠ [])
    (stepped : step wantsWatermark state action = some next) :
    Fair.Turns state.downloads.queue state.downloading next.downloads.queue next.downloading := by
  cases step_moves stepped with
  | fetchImage => exact acquireDownload_turns balanced .image waits
  | fetchWatermark => exact acquireDownload_turns balanced .watermark waits
  | received | failed => exact dropDownload_turns waits id
  | shed | enter | unnamed | refuse | submit | respond | conclude =>
      exact .keep (downloading_update_subset id)
  | start | skip | dropPermit | unwind => exact .keep subset_rfl
  | send | dropSender => exact deliver_turns id
  | @abandon request stage =>
      cases stage with
      | queued => exact .leave request (downloading_update_subset id)
      | downloading => exact dropDownload_turns waits id
      | serving | fetched | awaiting | storing | finishing =>
          exact .keep (downloading_update_subset id)

end Turns

/-- What is known of a request that still waits: who stands in front of it did when the wait was
observed, and so did whoever has had a permit since. -/
structure InTurn (first : State Request) (waiter : Request) (front : List Request)
    (state : State Request) : Prop where
  stands : ∃ before after, state.downloads.queue = before ++ waiter :: after ∧ before ⊆ front
  served : state.downloading ⊆ first.downloading ∪ {request | request ∈ front}

theorem InTurn.step {first : State Request} {waiter : Request} {front : List Request}
    {action : Action Request} (inTurn : InTurn first waiter front state)
    (balanced : Balanced limits state) (remains : waiter ∈ next.downloads.queue)
    (stepped : LoadShedding.step wantsWatermark state action = some next) :
    InTurn first waiter front next := by
  obtain ⟨⟨before, after, queue, inFront⟩, among⟩ := inTurn
  have waits : state.downloads.queue ≠ [] := by simp [queue]
  obtain ⟨⟨earlier, later, shape, fewer⟩, served⟩ :=
    (step_turns balanced waits stepped).in_order balanced.downloads.nodup queue remains
  refine ⟨⟨earlier, later, shape, List.Subset.trans fewer inFront⟩, ?_⟩
  intro request holds
  rcases served holds with held | member
  · exact among held
  · exact .inr (inFront member)

/-- As long as a request waits for its download permit nobody overtakes it: whoever has a
permit had one when the wait was observed, or stood in front. -/
theorem not_overtaken {waiter : Request} {front back : List Request} {first final : State Request}
    (reachable : (system limits wantsWatermark).Reachable (fun _ _ => True) first)
    (waits : first.downloads.queue = front ++ waiter :: back)
    (onward : ((system limits wantsWatermark).startingAt first).Reachable
      (fun state _ => waiter ∈ state.downloads.queue) final)
    (still : waiter ∈ final.downloads.queue) :
    ∀ request, (final.call request).Downloading →
      (first.call request).Downloading ∨ request ∈ front := by
  have inTurn : Balanced limits final ∧
      (waiter ∈ final.downloads.queue → InTurn first waiter front final) := by
    induction onward with
    | init same =>
        cases same
        exact ⟨reachable_balanced reachable,
          fun _ => ⟨⟨front, back, waits, List.Subset.refl _⟩, Set.subset_union_left⟩⟩
    | step _ waiting stepped ih =>
        obtain ⟨balanced, kept⟩ := ih waiting
        exact ⟨balanced.step stepped, fun remains => (kept waiting).step balanced remains stepped⟩
  exact fun request holds => (inTurn.2 still).served holds

/-- Three requests for one permit. -/
theorem not_overtaken_third :
    ∃ state, (system ⟨3, 1, 1⟩ fun _ : Nat => false).run (fun _ _ => True) (fresh ⟨3, 1, 1⟩)
        [.arrive 0, .arrive 1, .arrive 2, .fetch 0, .fetch 1, .fetch 2] = some state ∧
      ∃ later, ((system ⟨3, 1, 1⟩ fun _ : Nat => false).startingAt state).Reachable
          (fun state _ => 2 ∈ state.downloads.queue) later ∧
        (later.call 1 = .inside (.downloading .image) ∧ 2 ∈ later.downloads.queue) ∧
        ∀ request, (later.call request).Downloading →
          (state.call request).Downloading ∨ request ∈ [1] := by
  have evaluates : ∃ state, (system ⟨3, 1, 1⟩ fun _ : Nat => false).run (fun _ _ => True)
      (fresh ⟨3, 1, 1⟩) [.arrive 0, .arrive 1, .arrive 2, .fetch 0, .fetch 1, .fetch 2] =
        some state ∧ state.downloads.queue = [1] ++ 2 :: [] ∧
      ∃ later, step (fun _ : Nat => false) state (.received 0) = some later ∧
        later.call 1 = .inside (.downloading .image) ∧ later.downloads.queue = [2] :=
    ⟨_, rfl, rfl, _, rfl, rfl, rfl⟩
  obtain ⟨state, run, waits, later, stepped, served, queue⟩ := evaluates
  have reachable := System.reachable_of_run _ _ _ (.init (fresh_initial _)) run
  have waiting : 2 ∈ state.downloads.queue := by rw [waits]; decide
  have onward : ((system ⟨3, 1, 1⟩ fun _ : Nat => false).startingAt state).Reachable
      (fun state _ => 2 ∈ state.downloads.queue) later :=
    @System.Reachable.step _ _ _ _ _ _ (.received 0) (.init rfl) waiting stepped
  have still : 2 ∈ later.downloads.queue := by rw [queue]; decide
  exact ⟨state, run, later, onward, ⟨served, still⟩, not_overtaken reachable waits onward still⟩

/-! ## Giving up -/

/-- The inner future of a request is gone. -/
def Phase.Left : Phase → Prop
  | .inside (.finishing _) | .answered _ => True
  | _ => False

/-- The closure has not begun. -/
def Job.Idle : Job → Prop
  | .running | .sent => False
  | _ => True

/-- A request that gave up has no closure, or one that does not run. -/
structure Skipped (state : State Request) (request : Request) : Prop where
  left : (state.call request).Left
  idle : (state.job request).Idle

namespace Skipped

variable {request other : Request} {phase : Phase} {job : Job}

theorem left_update (skipped : Skipped state request) (stays : other = request → phase.Left) :
    (Function.update state.call other phase request).Left := by
  by_cases same : request = other
  case pos =>
      subst same
      rw [Function.update_self]
      exact stays rfl
  case neg =>
      rw [Function.update_of_ne same]
      exact skipped.left

theorem idle_update (skipped : Skipped state request) (stays : other = request → job.Idle) :
    (Function.update state.job other job request).Idle := by
  by_cases same : request = other
  case pos =>
      subst same
      rw [Function.update_self]
      exact stays rfl
  case neg =>
      rw [Function.update_of_ne same]
      exact skipped.idle

theorem setCall (skipped : Skipped state request) (stays : other = request → phase.Left) :
    Skipped (state.setCall other phase) request :=
  ⟨skipped.left_update stays, skipped.idle⟩

theorem setJob (skipped : Skipped state request) (stays : other = request → job.Idle) :
    Skipped (state.setJob other job) request :=
  ⟨skipped.left, skipped.idle_update stays⟩

omit [DecidableEq Request] in
/-- A request in an earlier stage is another one. -/
theorem ne_of_early (skipped : Skipped state request) (early : ¬ (state.call other).Left) :
    other ≠ request := by
  rintro rfl
  exact early skipped.left

omit [DecidableEq Request] in
/-- A closure that runs or has sent its result is another one. -/
theorem ne_of_busy (skipped : Skipped state request) (busy : ¬ (state.job other).Idle) :
    other ≠ request := by
  rintro rfl
  exact busy skipped.idle

theorem acquireDownload (skipped : Skipped state request) (fetch : Fetch)
    (early : ¬ (state.call other).Left) : Skipped (state.acquireDownload other fetch) request := by
  have different := skipped.ne_of_early early
  unfold State.acquireDownload
  split
  case h_1 => exact ⟨skipped.left_update fun same => absurd same different, skipped.idle⟩
  case h_2 => exact ⟨skipped.left_update fun same => absurd same different, skipped.idle⟩

theorem dropDownload (skipped : Skipped state request) : Skipped state.dropDownload request := by
  have granted (phase : Phase) (left : phase.Left) : (State.granted phase).Left := by
    unfold State.granted
    split
    case h_1 => exact left.elim
    case h_2 => exact left
  unfold State.dropDownload
  split
  case h_1 => exact ⟨skipped.left, skipped.idle⟩
  case h_2 =>
      exact ⟨skipped.left_update fun same => granted _ (same ▸ skipped.left), skipped.idle⟩

theorem dropStage (skipped : Skipped state request) (other : Request) (stage : Stage) :
    Skipped (state.dropStage other stage) request := by
  cases stage with
  | queued fetch => exact ⟨skipped.left, skipped.idle⟩
  | downloading fetch => exact skipped.dropDownload
  | serving | fetched _ | awaiting | storing | finishing _ => exact skipped

theorem deliver (skipped : Skipped state request) (other : Request) (stage : Stage) :
    Skipped (state.deliver other stage) request := by
  unfold State.deliver
  split
  case isTrue awaits =>
      have different := skipped.ne_of_early (show ¬ (state.call other).Left by
        simp [awaits, Phase.Left])
      exact skipped.setCall fun same => absurd same different
  case isFalse => exact skipped

/-- Nobody gives the pool a closure for a request that gave up, and one it has does not run. -/
theorem step {action : Action Request} (skipped : Skipped state request)
    (stepped : LoadShedding.step wantsWatermark state action = some next) :
    Skipped next request := by
  have early {other : Request} {phase : Phase} (stands : state.call other = phase)
      (before : ¬ phase.Left) : other ≠ request :=
    skipped.ne_of_early (stands ▸ before)
  cases step_moves stepped with
  | shed | unnamed | refuse | respond => exact skipped.setCall fun _ => trivial
  | enter idle => exact ⟨skipped.left_update fun same => absurd same (early idle id), skipped.idle⟩
  | fetchImage serving => exact skipped.acquireDownload .image (by simp [serving, Phase.Left])
  | fetchWatermark fetched =>
      exact skipped.acquireDownload .watermark (by simp [fetched, Phase.Left])
  | received downloading =>
      exact skipped.dropDownload.setCall fun same => absurd same (early downloading id)
  | failed => exact skipped.dropDownload.setCall fun _ => trivial
  | submit fetched =>
      exact ⟨skipped.left_update fun same => absurd same (early fetched id),
        skipped.idle_update fun same => absurd same (early fetched id)⟩
  | start _ awaits => exact skipped.setJob fun same => absurd same (early awaits id)
  | @send other running =>
      have different : other ≠ request := skipped.ne_of_busy (by simp [running, Job.Idle])
      exact (skipped.deliver other .storing).setJob fun same => absurd same different
  | skip | dropPermit | unwind => exact ⟨skipped.left, skipped.idle_update fun _ => trivial⟩
  | dropSender => exact (skipped.deliver ..).setJob fun _ => trivial
  | abandon => exact (skipped.dropStage ..).setCall fun _ => trivial
  | conclude => exact ⟨skipped.left_update fun _ => trivial, skipped.idle⟩

end Skipped

/-- A request that gave up before its closure began is not worked on later: none of its handlers
goes on, its closure does not begin, and one that is still in the pool's queue gives its permit
back as soon as the pool gets to it. -/
theorem skipped_never_runs {request : Request} {first final : State Request}
    (gone : (first.call request).Left) (idle : (first.job request).Idle)
    (onward : ((system limits wantsWatermark).startingAt first).Reachable
      (fun _ _ => True) final) :
    (final.call request).Left ∧ (final.job request).Idle ∧
      ∀ next, step wantsWatermark final (.start request) = some next →
        next.freeProcessing = final.freeProcessing + 1 := by
  have skipped : Skipped final request := by
    induction onward with
    | init same =>
        cases same
        exact ⟨gone, idle⟩
    | step _ _ stepped ih => exact ih.step stepped
  refine ⟨skipped.left, skipped.idle, fun next started => ?_⟩
  cases step_moves started with
  | start _ awaits =>
      have left := skipped.left
      rw [awaits] at left
      exact left.elim
  | skip => rfl

/-- One request runs out of time while its closure is queued, another before its download permit
came. -/
theorem skipped_never_runs_timedOut :
    ∃ state, (system ⟨2, 1, 1⟩ fun _ : Nat => false).run (fun _ _ => True) (fresh ⟨2, 1, 1⟩)
        [.arrive 0, .arrive 1, .fetch 0, .fetch 1, .abandon 1 true, .received 0, .submit 0,
          .abandon 0 true, .conclude 0, .conclude 1] = some state ∧
      (state.call 0 = .answered .timedOut ∧ state.job 0 = .queued) ∧
      (state.call 1 = .answered .timedOut ∧ state.job 1 = .unsubmitted) ∧
      ∀ request < 2, ∀ final, ((system ⟨2, 1, 1⟩ fun _ : Nat => false).startingAt state).Reachable
          (fun _ _ => True) final →
        (final.call request).Left ∧ (final.job request).Idle ∧
          ∀ next, step (fun _ : Nat => false) final (.start request) = some next →
            next.freeProcessing = final.freeProcessing + 1 := by
  have evaluates : ∃ state, (system ⟨2, 1, 1⟩ fun _ : Nat => false).run (fun _ _ => True)
      (fresh ⟨2, 1, 1⟩)
        [.arrive 0, .arrive 1, .fetch 0, .fetch 1, .abandon 1 true, .received 0, .submit 0,
          .abandon 0 true, .conclude 0, .conclude 1] = some state ∧
        (state.call 0 = .answered .timedOut ∧ state.job 0 = .queued) ∧
        state.call 1 = .answered .timedOut ∧ state.job 1 = .unsubmitted :=
    ⟨_, rfl, ⟨rfl, rfl⟩, rfl, rfl⟩
  obtain ⟨state, run, ⟨answered, queued⟩, answered', unsubmitted⟩ := evaluates
  refine ⟨state, run, ⟨answered, queued⟩, ⟨answered', unsubmitted⟩, fun request small final => ?_⟩
  obtain rfl | rfl : request = 0 ∨ request = 1 := by omega
  · exact skipped_never_runs (by rw [answered]; trivial) (by rw [queued]; trivial)
  · exact skipped_never_runs (by rw [answered']; trivial) (by rw [unsubmitted]; trivial)

end ImageResizer.LoadShedding

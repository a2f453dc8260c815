import ImageResizer.LoadShedding

/-!
# No permit is lost

In every run the free permits of each semaphore and those who hold one make up its limit.
So a limit holds whatever is dropped, panics or runs out of time, and load is shed exactly
when the limit is reached.
-/

namespace ImageResizer.LoadShedding

open Transition Permits

variable {Request : Type} [DecidableEq Request]

/-! ## Who holds what -/

def Phase.Admitted : Phase → Prop
  | .inside _ => True
  | _ => False

def Phase.Downloading : Phase → Prop
  | .inside (.downloading _) => True
  | _ => False

def Phase.Queuing : Phase → Prop
  | .inside (.queued _) => True
  | _ => False

/-- The closure has been given to the pool. -/
def Phase.Submitted : Phase → Prop
  | .inside .awaiting | .inside .storing | .inside (.finishing _) | .answered _ => True
  | _ => False

/-- The service had no permit for the request. -/
def Answer.TurnsAway : Answer → Prop
  | .atCapacity | .noProcessingPermit => True
  | _ => False

def Phase.TurnedAway : Phase → Prop
  | .inside (.finishing answer) | .answered answer => answer.TurnsAway
  | _ => False

def Job.Holds : Job → Prop
  | .queued | .running | .sent => True
  | _ => False

/-- The closure still has the sender. -/
def Job.Pending : Job → Prop
  | .queued | .running | .unwinding => True
  | _ => False

/-- Whoever awaits the closure will hear of it, and nobody gives the pool another; a request
that is turned away gives it none. -/
structure Agrees (phase : Phase) (job : Job) : Prop where
  awaited : phase = .inside .awaiting → job.Pending
  submitted : job ≠ .unsubmitted → phase.Submitted
  turnedAway : phase.TurnedAway → job = .unsubmitted

/-- The invariant. -/
structure Balanced (limits : Limits) (state : State Request) : Prop where
  requests : Accounted limits.requests state.freeRequests
    {request | (state.call request).Admitted}
  downloads : state.downloads.Orderly limits.downloads
    {request | (state.call request).Downloading}
  queue : {request | request ∈ state.downloads.queue} = {request | (state.call request).Queuing}
  processing : Accounted limits.processing state.freeProcessing
    {request | (state.job request).Holds}
  agree : ∀ request, Agrees (state.call request) (state.job request)

omit [DecidableEq Request] in
theorem Balanced.initial {limits : Limits} {state : State Request}
    (start : Initial limits state) : Balanced limits state := by
  obtain ⟨requests, downloads, processing, calls, jobs⟩ := start
  constructor
  case requests =>
      rw [requests]
      simp only [calls, Phase.Admitted, Set.ofPred_false]
      exact .initial
  case downloads =>
      rw [downloads]
      simp only [calls, Phase.Downloading, Set.ofPred_false]
      exact ⟨.initial, List.nodup_nil, nofun, fun waits => absurd rfl waits⟩
  case queue => simp [downloads, calls, Phase.Queuing]
  case processing =>
      rw [processing]
      simp only [jobs, Job.Holds, Set.ofPred_false]
      exact .initial
  case agree =>
      intro request
      rw [calls, jobs]
      exact ⟨nofun, fun given => absurd rfl given, fun _ => rfl⟩

section Updates

variable {limits : Limits} {state : State Request} {request : Request}
variable {phase : Phase} {job : Job}

/-- A move of one request leaves the others as they are. -/
theorem agree_update (agree : ∀ other, Agrees (state.call other) (state.job other))
    (own : Agrees phase job) (other : Request) :
    Agrees (Function.update state.call request phase other)
      (Function.update state.job request job other) := by
  by_cases same : other = request
  case pos =>
      subst same
      rw [Function.update_self, Function.update_self]
      exact own
  case neg =>
      rw [Function.update_of_ne same, Function.update_of_ne same]
      exact agree other

theorem agree_setCall (agree : ∀ other, Agrees (state.call other) (state.job other))
    (own : Agrees phase (state.job request)) (other : Request) :
    Agrees (Function.update state.call request phase other) (state.job other) := by
  have updated := @agree_update _ _ state request _ _ agree own other
  rwa [Function.update_eq_self] at updated

theorem agree_setJob (agree : ∀ other, Agrees (state.call other) (state.job other))
    (own : Agrees (state.call request) job) (other : Request) :
    Agrees (state.call other) (Function.update state.job request job other) := by
  have updated := @agree_update _ _ state request _ _ agree own other
  rwa [Function.update_eq_self] at updated

end Updates

namespace Balanced

variable {limits : Limits} {state : State Request} {request : Request}
variable {after : Phase} {job : Job}

omit [DecidableEq Request] in
/-- A request that has not submitted its closure has none. -/
theorem unsubmitted (balanced : Balanced limits state)
    (early : ¬ (state.call request).Submitted) : state.job request = .unsubmitted := by
  by_contra given
  exact early ((balanced.agree request).submitted given)

/-- A request moves on between stages in which it holds and waits for the same. -/
theorem restage (balanced : Balanced limits state)
    (admitted : after.Admitted ↔ (state.call request).Admitted)
    (downloading : after.Downloading ↔ (state.call request).Downloading)
    (queuing : after.Queuing ↔ (state.call request).Queuing)
    (own : Agrees after (state.job request)) : Balanced limits (state.setCall request after) := by
  constructor
  case requests =>
      rw [State.setCall, holders_stay admitted]
      exact balanced.requests
  case downloads =>
      rw [State.setCall, holders_stay downloading]
      exact balanced.downloads
  case queue =>
      rw [State.setCall, holders_stay queuing]
      exact balanced.queue
  case processing => exact balanced.processing
  case agree => exact agree_setCall balanced.agree own

/-- The middleware admits a request. -/
theorem enter {freeRequests : Nat} (balanced : Balanced limits state)
    (free : state.freeRequests = freeRequests + 1) (idle : state.call request = .idle) :
    Balanced limits { state.setCall request (.inside .serving) with freeRequests } := by
  have early : state.job request = .unsubmitted :=
    balanced.unsubmitted (by simp [idle, Phase.Submitted])
  constructor
  case requests =>
      rw [State.setCall, holders_enter (by trivial)]
      have requests := balanced.requests
      rw [free] at requests
      exact requests.take (by simp [idle, Phase.Admitted])
  case downloads =>
      rw [State.setCall, holders_stay (by simp [idle, Phase.Downloading])]
      exact balanced.downloads
  case queue =>
      rw [State.setCall, holders_stay (by simp [idle, Phase.Queuing])]
      exact balanced.queue
  case processing => exact balanced.processing
  case agree =>
      exact agree_setCall balanced.agree ⟨nofun, fun given => absurd early given, fun _ => early⟩

/-- The middleware returns. -/
theorem conclude {answer : Answer} (balanced : Balanced limits state)
    (finishing : state.call request = .inside (.finishing answer)) :
    Balanced limits { state.setCall request (.answered answer) with
      freeRequests := state.freeRequests + 1 } := by
  constructor
  case requests =>
      rw [State.setCall, holders_exit (by exact id)]
      exact balanced.requests.give (by simp [finishing, Phase.Admitted])
  case downloads =>
      rw [State.setCall, holders_stay (by simp [finishing, Phase.Downloading])]
      exact balanced.downloads
  case queue =>
      rw [State.setCall, holders_stay (by simp [finishing, Phase.Queuing])]
      exact balanced.queue
  case processing => exact balanced.processing
  case agree =>
      have agrees := balanced.agree request
      rw [finishing] at agrees
      exact agree_setCall balanced.agree ⟨nofun, fun _ => trivial, agrees.turnedAway⟩

/-! ### Downloads -/

/-- A request asks for a download permit, and has it or waits for it. -/
theorem acquire (balanced : Balanced limits state) (fetch : Fetch)
    (admitted : (state.call request).Admitted) (holdsNone : ¬ (state.call request).Downloading)
    (waitsNot : ¬ (state.call request).Queuing) (early : ¬ (state.call request).Submitted) :
    Balanced limits (state.acquireDownload request fetch) := by
  have none_ := balanced.unsubmitted early
  have absent : request ∉ state.downloads.queue := fun member =>
    waitsNot (balanced.queue.subset member)
  unfold State.acquireDownload
  split
  case h_1 downloads granted =>
      have same := (Fair.acquire_granted granted).2
      constructor
      case requests =>
          rw [State.setCall, holders_stay (iff_of_true trivial admitted)]
          exact balanced.requests
      case downloads =>
          rw [State.setCall, holders_enter (by trivial)]
          exact balanced.downloads.acquire_granted granted holdsNone
      case queue =>
          rw [State.setCall, holders_stay (iff_of_false id waitsNot), ← balanced.queue]
          rw [same]
      case processing => exact balanced.processing
      case agree =>
          exact agree_setCall balanced.agree
            ⟨nofun, fun given => absurd none_ given, fun _ => none_⟩
  case h_2 downloads queued =>
      have orderly := balanced.downloads.acquire_queued queued holdsNone absent
      obtain ⟨-, rfl⟩ := Fair.acquire_queued queued
      constructor
      case requests =>
          rw [State.setCall, holders_stay (iff_of_true trivial admitted)]
          exact balanced.requests
      case downloads =>
          rw [State.setCall, holders_stay (iff_of_false id holdsNone)]
          exact orderly
      case queue =>
          rw [State.setCall, holders_enter (by trivial), ← balanced.queue]
          ext other
          simp [or_comm]
      case processing => exact balanced.processing
      case agree =>
          exact agree_setCall balanced.agree
            ⟨nofun, fun given => absurd none_ given, fun _ => none_⟩

omit [DecidableEq Request] in
/-- Whoever waits for a download has not given anything to the pool. -/
theorem granted_of_queued (balanced : Balanced limits state) {next : Request}
    (member : next ∈ state.downloads.queue) :
    ∃ fetch, state.call next = .inside (.queued fetch) ∧ state.job next = .unsubmitted := by
  have queuing : (state.call next).Queuing := balanced.queue.subset member
  match phase : state.call next with
  | .inside (.queued fetch) =>
      exact ⟨fetch, rfl, balanced.unsubmitted (by simp [phase, Phase.Submitted])⟩
  | .idle | .answered _ => simp [phase, Phase.Queuing] at queuing
  | .inside .serving | .inside (.downloading _) | .inside (.fetched _) | .inside .awaiting
  | .inside .storing | .inside (.finishing _) => simp [phase, Phase.Queuing] at queuing

/-- A download ends while nobody waits: its permit is free. -/
theorem dropDownload_free (balanced : Balanced limits state) {fetch : Fetch}
    {downloads : Fair Request} (free : state.downloads.release = (none, downloads))
    (downloading : state.call request = .inside (.downloading fetch)) (admitted : after.Admitted)
    (holdsNone : ¬ after.Downloading) (waitsNot : ¬ after.Queuing)
    (own : Agrees after (state.job request)) :
    Balanced limits (State.setCall { state with downloads } request after) := by
  have held : request ∈ {request | (state.call request).Downloading} := by
    simp [downloading, Phase.Downloading]
  have same : downloads.queue = state.downloads.queue := by
    unfold Fair.release at free
    split at free
    case h_1 empty =>
        cases free
        rfl
    case h_2 => cases free
  constructor
  case requests =>
      rw [State.setCall,
        holders_stay (iff_of_true admitted (by simp [downloading, Phase.Admitted]))]
      exact balanced.requests
  case downloads =>
      rw [State.setCall, holders_exit holdsNone]
      exact balanced.downloads.release_free free held
  case queue =>
      rw [State.setCall,
        holders_stay (iff_of_false waitsNot (by simp [downloading, Phase.Queuing])),
        ← balanced.queue]
      change {request | request ∈ downloads.queue} = _
      rw [same]
  case processing => exact balanced.processing
  case agree => exact agree_setCall balanced.agree own

/-- A download ends while others wait: the first of them has its permit. -/
theorem dropDownload_handed (balanced : Balanced limits state) {fetch : Fetch} {next : Request}
    {downloads : Fair Request} (handed : state.downloads.release = (some next, downloads))
    (downloading : state.call request = .inside (.downloading fetch)) (admitted : after.Admitted)
    (holdsNone : ¬ after.Downloading) (waitsNot : ¬ after.Queuing)
    (own : Agrees after (state.job request)) :
    Balanced limits ((State.setCall { state with downloads } next
      (State.granted (state.call next))).setCall request after) := by
  have held : request ∈ {request | (state.call request).Downloading} := by
    simp [downloading, Phase.Downloading]
  obtain ⟨orderly, waits⟩ := balanced.downloads.release_handed handed held
  have first : next ∈ state.downloads.queue := waits ▸ List.mem_cons_self
  obtain ⟨wanted, queued, none_⟩ := balanced.granted_of_queued first
  have other : request ≠ next := by
    rintro rfl
    rw [downloading] at queued
    cases queued
  have untouched : Function.update state.call next (State.granted (state.call next)) request =
      state.call request := Function.update_of_ne other _ _
  rw [queued, State.granted]
  rw [queued, State.granted] at untouched
  constructor
  case requests =>
      rw [State.setCall, State.setCall,
        holders_stay (iff_of_true admitted (by simp [untouched, downloading, Phase.Admitted])),
        holders_stay (by simp [queued, Phase.Admitted])]
      exact balanced.requests
  case downloads =>
      rw [State.setCall, State.setCall, holders_exit holdsNone, holders_enter (by trivial),
        ← Set.insert_sdiff_singleton_comm other.symm]
      exact orderly
  case queue =>
      rw [State.setCall, State.setCall,
        holders_stay (iff_of_false waitsNot (by simp [untouched, downloading, Phase.Queuing])),
        holders_exit (by exact id), ← balanced.queue]
      have nodup := balanced.downloads.nodup
      rw [waits, List.nodup_cons] at nodup
      ext waiter
      rw [waits]
      simp only [Set.mem_ofPred_eq, List.mem_cons, Set.mem_sdiff, Set.mem_singleton_iff]
      constructor
      · exact fun member => ⟨.inr member, fun same => nodup.1 (same ▸ member)⟩
      · exact fun member => member.1.resolve_left member.2
  case processing => exact balanced.processing
  case agree =>
      have given : ∀ other, Agrees ((state.setCall next (.inside (.downloading wanted))).call other)
          ((state.setCall next (.inside (.downloading wanted))).job other) :=
        agree_setCall balanced.agree
          ⟨by simp, fun submitted => absurd none_ submitted, fun _ => none_⟩
      exact agree_setCall given own

/-- A download ends, and its permit goes to whoever waits first. -/
theorem dropDownload (balanced : Balanced limits state) {fetch : Fetch}
    (downloading : state.call request = .inside (.downloading fetch)) (admitted : after.Admitted)
    (holdsNone : ¬ after.Downloading) (waitsNot : ¬ after.Queuing)
    (own : Agrees after (state.job request)) :
    Balanced limits (state.dropDownload.setCall request after) := by
  unfold State.dropDownload
  split
  case h_1 downloads free =>
      exact balanced.dropDownload_free free downloading admitted holdsNone waitsNot own
  case h_2 next downloads handed =>
      exact balanced.dropDownload_handed handed downloading admitted holdsNone waitsNot own

/-- A request that waits for a download stops waiting. -/
theorem leaveQueue (balanced : Balanced limits state) {fetch : Fetch}
    (queued : state.call request = .inside (.queued fetch)) (admitted : after.Admitted)
    (holdsNone : ¬ after.Downloading) (waitsNot : ¬ after.Queuing)
    (own : Agrees after (state.job request)) :
    Balanced limits
      (State.setCall { state with downloads := state.downloads.leave request } request after) := by
  constructor
  case requests =>
      rw [State.setCall, holders_stay (iff_of_true admitted (by simp [queued, Phase.Admitted]))]
      exact balanced.requests
  case downloads =>
      rw [State.setCall, holders_stay (iff_of_false holdsNone (by simp [queued, Phase.Downloading]))]
      exact balanced.downloads.leave
  case queue =>
      rw [State.setCall, holders_exit waitsNot, ← balanced.queue]
      ext other
      simp only [Fair.leave, Set.mem_ofPred_eq, Set.mem_sdiff, Set.mem_singleton_iff,
        balanced.downloads.nodup.mem_erase_iff, and_comm]
  case processing => exact balanced.processing
  case agree => exact agree_setCall balanced.agree own

/-! ### Closures -/

/-- A closure is given to the pool, with a processing permit. -/
theorem submit {fetch : Fetch} {freeProcessing : Nat} (balanced : Balanced limits state)
    (fetched : state.call request = .inside (.fetched fetch))
    (free : state.freeProcessing = freeProcessing + 1) :
    Balanced limits { (state.setCall request (.inside .awaiting)).setJob request .queued with
      freeProcessing } := by
  have none_ : state.job request = .unsubmitted :=
    balanced.unsubmitted (by simp [fetched, Phase.Submitted])
  constructor
  case requests =>
      rw [State.setCall, State.setJob, holders_stay (by simp [fetched, Phase.Admitted])]
      exact balanced.requests
  case downloads =>
      rw [State.setCall, State.setJob, holders_stay (by simp [fetched, Phase.Downloading])]
      exact balanced.downloads
  case queue =>
      rw [State.setCall, State.setJob, holders_stay (by simp [fetched, Phase.Queuing])]
      exact balanced.queue
  case processing =>
      rw [State.setCall, State.setJob, holders_enter (by trivial)]
      have processing := balanced.processing
      rw [free] at processing
      exact processing.take (by simp [none_, Job.Holds])
  case agree => exact agree_update balanced.agree ⟨fun _ => trivial, fun _ => trivial, False.elim⟩

/-- A closure moves on and keeps its permit. -/
theorem rejob (balanced : Balanced limits state) (holds : job.Holds ↔ (state.job request).Holds)
    (own : Agrees (state.call request) job) : Balanced limits (state.setJob request job) where
  requests := balanced.requests
  downloads := balanced.downloads
  queue := balanced.queue
  processing := by
    rw [State.setJob, holders_stay holds]
    exact balanced.processing
  agree := agree_setJob balanced.agree own

/-- A closure drops its permit. -/
theorem dropProcessing (balanced : Balanced limits state) (held : (state.job request).Holds)
    (holdsNone : ¬ job.Holds) (own : Agrees (state.call request) job) :
    Balanced limits (state.dropProcessing.setJob request job) where
  requests := balanced.requests
  downloads := balanced.downloads
  queue := balanced.queue
  processing := by
    rw [State.dropProcessing, State.setJob, holders_exit holdsNone]
    exact balanced.processing.give held
  agree := agree_setJob balanced.agree own

/-- A closure sends its result or drops the sender, and whoever awaits it hears of it. -/
theorem deliver (balanced : Balanced limits state) {stage : Stage}
    (given : state.job request ≠ .unsubmitted) (holds : job.Holds ↔ (state.job request).Holds)
    (late : (Phase.inside stage).Submitted) (heard : stage ≠ .awaiting)
    (holdsNone : ¬ (Phase.inside stage).Downloading) (waitsNot : ¬ (Phase.inside stage).Queuing)
    (welcome : ¬ (Phase.inside stage).TurnedAway) :
    Balanced limits ((state.deliver request stage).setJob request job) := by
  unfold State.deliver
  split
  case isTrue awaits =>
      constructor
      case requests =>
          rw [State.setCall, State.setJob,
            holders_stay (iff_of_true trivial (by simp [awaits, Phase.Admitted]))]
          exact balanced.requests
      case downloads =>
          rw [State.setCall, State.setJob,
            holders_stay (iff_of_false holdsNone (by simp [awaits, Phase.Downloading]))]
          exact balanced.downloads
      case queue =>
          rw [State.setCall, State.setJob,
            holders_stay (iff_of_false waitsNot (by simp [awaits, Phase.Queuing]))]
          exact balanced.queue
      case processing =>
          rw [State.setCall, State.setJob, holders_stay holds]
          exact balanced.processing
      case agree =>
          exact agree_update balanced.agree
            ⟨fun same => absurd (Phase.inside.inj same) heard, fun _ => late,
              fun away => absurd away welcome⟩
  case isFalse gone =>
      exact balanced.rejob holds ⟨fun awaits => absurd awaits gone,
        fun _ => (balanced.agree request).submitted given,
        fun away => absurd ((balanced.agree request).turnedAway away) given⟩

/-! ### Steps -/

/-- What a stage holds is dropped with it. -/
theorem dropStage {stage : Stage} {answer : Answer} (balanced : Balanced limits state)
    (inside : state.call request = .inside stage) (welcome : ¬ answer.TurnsAway) :
    Balanced limits ((state.dropStage request stage).setCall request
      (.inside (.finishing answer))) := by
  have own : Agrees (.inside (.finishing answer)) (state.job request) :=
    ⟨fun same => absurd (Phase.inside.inj same) nofun, fun _ => trivial,
      fun away => absurd away welcome⟩
  cases stage with
  | queued fetch => exact balanced.leaveQueue inside trivial id id own
  | downloading fetch => exact balanced.dropDownload inside trivial id id own
  | serving | fetched _ | awaiting | storing | finishing _ =>
      exact balanced.restage (iff_of_true trivial (by simp [inside, Phase.Admitted]))
        (iff_of_false id (by simp [inside, Phase.Downloading]))
        (iff_of_false id (by simp [inside, Phase.Queuing])) own

/-- A request ends the inner future in a stage that holds nothing. -/
theorem finish {stage : Stage} {answer : Answer} (balanced : Balanced limits state)
    (inside : state.call request = .inside stage)
    (holdsNone : ¬ (Phase.inside stage).Downloading) (waitsNot : ¬ (Phase.inside stage).Queuing)
    (away : answer.TurnsAway → state.job request = .unsubmitted) :
    Balanced limits (state.setCall request (.inside (.finishing answer))) :=
  balanced.restage (iff_of_true trivial (by simp [inside, Phase.Admitted]))
    (iff_of_false id (inside ▸ holdsNone)) (iff_of_false id (inside ▸ waitsNot))
    ⟨fun same => absurd (Phase.inside.inj same) nofun, fun _ => trivial, away⟩

/-- A closure under way drops its permit. -/
theorem abortJob (balanced : Balanced limits state)
    (busy : state.job request = .queued ∨ state.job request = .running) :
    Balanced limits (state.dropProcessing.setJob request .unwinding) := by
  have given : state.job request ≠ .unsubmitted := by
    rcases busy with queued | running
    · simp [queued]
    · simp [running]
  have held : (state.job request).Holds := by
    rcases busy with queued | running
    · simp [queued, Job.Holds]
    · simp [running, Job.Holds]
  exact balanced.dropProcessing held id
    ⟨fun _ => trivial, fun _ => (balanced.agree request).submitted given,
      fun away => absurd ((balanced.agree request).turnedAway away) given⟩

theorem step {wantsWatermark : Request → Bool} {action : Action Request} {next : State Request}
    (balanced : Balanced limits state)
    (stepped : LoadShedding.step wantsWatermark state action = some next) :
    Balanced limits next := by
  cases step_moves stepped with
  | @shed request idle =>
      have early : state.job request = .unsubmitted :=
        balanced.unsubmitted (by simp [idle, Phase.Submitted])
      exact balanced.restage (by simp [idle, Phase.Admitted]) (by simp [idle, Phase.Downloading])
        (by simp [idle, Phase.Queuing]) ⟨by simp, fun _ => trivial, fun _ => early⟩
  | enter idle free => exact balanced.enter free idle
  | fetchImage serving =>
      apply balanced.acquire
      all_goals simp [serving, Phase.Admitted, Phase.Downloading, Phase.Queuing, Phase.Submitted]
  | fetchWatermark fetched =>
      apply balanced.acquire
      all_goals simp [fetched, Phase.Admitted, Phase.Downloading, Phase.Queuing, Phase.Submitted]
  | @received request _ downloading =>
      have early : state.job request = .unsubmitted :=
        balanced.unsubmitted (by simp [downloading, Phase.Submitted])
      exact balanced.dropDownload downloading trivial id id
        ⟨by simp, fun given => absurd early given, fun _ => early⟩
  | failed downloading =>
      exact balanced.dropDownload downloading trivial id id
        ⟨by simp, fun _ => trivial, False.elim⟩
  | unnamed fetched => exact balanced.finish fetched id id False.elim
  | @refuse request _ fetched =>
      have early : state.job request = .unsubmitted :=
        balanced.unsubmitted (by simp [fetched, Phase.Submitted])
      exact balanced.finish fetched id id fun _ => early
  | submit fetched free => exact balanced.submit fetched free
  | @start request queued awaits =>
      have late := (balanced.agree request).submitted (by simp [queued])
      exact balanced.rejob (by simp [queued, Job.Holds])
        ⟨fun _ => trivial, fun _ => late, fun away => by simp [awaits, Phase.TurnedAway] at away⟩
  | skip queued => exact balanced.abortJob (.inl queued)
  | send running =>
      exact balanced.deliver (by simp [running]) (by simp [running, Job.Holds]) trivial (by simp)
        id id id
  | @dropPermit request sent =>
      have agrees := balanced.agree request
      rw [sent] at agrees
      exact balanced.dropProcessing (by simp [sent, Job.Holds]) id
        ⟨fun awaits => (agrees.awaited awaits).elim, fun _ => agrees.submitted (by simp),
          fun away => absurd (agrees.turnedAway away) (by simp)⟩
  | unwind busy => exact balanced.abortJob busy
  | dropSender unwinding =>
      exact balanced.deliver (by simp [unwinding]) (by simp [unwinding, Job.Holds]) trivial
        (by simp) id id id
  | respond inside ready =>
      rcases ready with rfl | rfl
      · exact balanced.finish inside id id False.elim
      · exact balanced.finish inside id id False.elim
  | @abandon _ _ timedOut inside => exact balanced.dropStage inside (by cases timedOut <;> exact id)
  | conclude finishing => exact balanced.conclude finishing

end Balanced

variable {limits : Limits} {wantsWatermark : Request → Bool} {state : State Request}

theorem reachable_balanced {permitted : State Request → Action Request → Prop}
    (reachable : (system limits wantsWatermark).Reachable permitted state) :
    Balanced limits state :=
  reachable.invariant (fun _ => Balanced.initial) fun _ _ _ balanced _ => balanced.step

/-! ## The limits -/

/-- The requests inside the middleware. -/
def State.admitted (state : State Request) : Set Request :=
  {request | (state.call request).Admitted}

def State.downloading (state : State Request) : Set Request :=
  {request | (state.call request).Downloading}

/-- The requests whose closure has a processing permit. -/
def State.processing (state : State Request) : Set Request :=
  {request | (state.job request).Holds}

/-- The permits out are exactly those held, load is shed and queued exactly where all are, and
who was turned away holds none. -/
structure LimitsHold (limits : Limits) (wantsWatermark : Request → Bool) (state : State Request) :
    Prop where
  requests : Accounted limits.requests state.freeRequests state.admitted
  downloads : Accounted limits.downloads state.downloads.available state.downloading
  processing : Accounted limits.processing state.freeProcessing state.processing
  limited : state.admitted.encard ≤ limits.requests ∧
    state.downloading.encard ≤ limits.downloads ∧ state.processing.encard ≤ limits.processing
  /-- A request is turned away exactly when as many as there may be are inside. -/
  sheds : ∀ request next, step wantsWatermark state (.arrive request) = some next →
    (next.call request = .answered .atCapacity ↔ state.admitted.encard = limits.requests)
  /-- A download is queued exactly when as many as there may be are under way. -/
  queues : ∀ request next, step wantsWatermark state (.fetch request) = some next →
    ((next.call request).Queuing ↔ state.downloading.encard = limits.downloads)
  /-- A resize is refused the CPU exactly when all closures there may be hold a permit. -/
  refuses : ∀ request next, step wantsWatermark state (.submit request) = some next →
    (next.call request = .inside (.finishing .noProcessingPermit) ↔
      state.processing.encard = limits.processing)
  free : (state.freeRequests = limits.requests ↔ state.admitted = ∅) ∧
    (state.downloads.available = limits.downloads ↔ state.downloading = ∅) ∧
    (state.freeProcessing = limits.processing ↔ state.processing = ∅)
  /-- A request that is answered holds no permit but that of a closure it gave to the pool, and
  who was turned away gave it none. -/
  released : ∀ request answer, state.call request = .answered answer →
    request ∉ state.admitted ∧ request ∉ state.downloading ∧
      (answer.TurnsAway → request ∉ state.processing)

theorem sheds_iff {request : Request} {next : State Request}
    (stepped : step wantsWatermark state (.arrive request) = some next) :
    next.call request = .answered .atCapacity ↔ state.freeRequests = 0 := by
  cases step_moves stepped with
  | shed _ full => exact iff_of_true (Function.update_self ..) full
  | enter _ free =>
      refine iff_of_false ?_ (by omega)
      simp [State.setCall]

theorem queuing_acquireDownload_iff (request : Request) (fetch : Fetch) :
    ((state.acquireDownload request fetch).call request).Queuing ↔
      state.downloads.available = 0 := by
  unfold State.acquireDownload
  split
  case h_1 downloads granted =>
      have free := (Fair.acquire_granted granted).1
      refine iff_of_false ?_ (by omega)
      simp [State.setCall, Phase.Queuing]
  case h_2 downloads queued =>
      refine iff_of_true ?_ (Fair.acquire_queued queued).1
      simp [State.setCall, Phase.Queuing]

theorem queues_iff {request : Request} {next : State Request}
    (stepped : step wantsWatermark state (.fetch request) = some next) :
    (next.call request).Queuing ↔ state.downloads.available = 0 := by
  cases step_moves stepped with
  | fetchImage => exact queuing_acquireDownload_iff request .image
  | fetchWatermark => exact queuing_acquireDownload_iff request .watermark

theorem refuses_iff {request : Request} {next : State Request}
    (stepped : step wantsWatermark state (.submit request) = some next) :
    next.call request = .inside (.finishing .noProcessingPermit) ↔ state.freeProcessing = 0 := by
  cases step_moves stepped with
  | refuse _ full => exact iff_of_true (Function.update_self ..) full
  | submit _ free =>
      refine iff_of_false ?_ (by omega)
      simp [State.setCall, State.setJob]

/-- In every run of any number of requests, whichever of them fail, panic, run out of time
or lose their client, the limits hold. -/
theorem limits_hold (reachable : (system limits wantsWatermark).Reachable (fun _ _ => True) state) :
    LimitsHold limits wantsWatermark state := by
  have balanced := reachable_balanced reachable
  constructor
  case requests => exact balanced.requests
  case downloads => exact balanced.downloads.accounted
  case processing => exact balanced.processing
  case limited =>
      exact ⟨balanced.requests.encard_le, balanced.downloads.accounted.encard_le,
        balanced.processing.encard_le⟩
  case sheds =>
      intro request next stepped
      rw [sheds_iff stepped]
      exact balanced.requests.exhausted_iff
  case queues =>
      intro request next stepped
      rw [queues_iff stepped]
      exact balanced.downloads.accounted.exhausted_iff
  case refuses =>
      intro request next stepped
      rw [refuses_iff stepped]
      exact balanced.processing.exhausted_iff
  case free =>
      exact ⟨balanced.requests.idle_iff, balanced.downloads.accounted.idle_iff,
        balanced.processing.idle_iff⟩
  case released =>
      intro request answer answered
      refine ⟨?_, ?_, fun away holds => ?_⟩
      · simp [State.admitted, answered, Phase.Admitted]
      · simp [State.downloading, answered, Phase.Downloading]
      · have none_ := (balanced.agree request).turnedAway (by rw [answered]; exact away)
        simp [State.processing, none_, Job.Holds] at holds

/-- A service before any request. -/
def fresh (limits : Limits) : State Nat where
  freeRequests := limits.requests
  downloads := ⟨limits.downloads, []⟩
  freeProcessing := limits.processing
  call _ := .idle
  job _ := .unsubmitted

theorem fresh_initial (limits : Limits) : Initial limits (fresh limits) :=
  ⟨rfl, rfl, rfl, fun _ => rfl, fun _ => rfl⟩

/-- A request is turned away, and another runs out of time while its closure is queued. -/
def timedOutScript : List (Action Nat) :=
  [.arrive 0, .arrive 1, .fetch 0, .received 0, .submit 0, .abandon 0 true, .conclude 0]

/-- The closure of a request that is answered still has its permit. -/
theorem limits_hold_timedOut :
    ∃ state, (system ⟨1, 1, 1⟩ fun _ : Nat => false).run (fun _ _ => True) (fresh ⟨1, 1, 1⟩)
        timedOutScript = some state ∧
      (state.call 0 = .answered .timedOut ∧ state.call 1 = .answered .atCapacity ∧
        state.job 0 = .queued ∧ state.freeRequests = 1 ∧ state.freeProcessing = 0) ∧
      LimitsHold ⟨1, 1, 1⟩ (fun _ => false) state := by
  have evaluates : ∃ state, (system ⟨1, 1, 1⟩ fun _ : Nat => false).run (fun _ _ => True)
      (fresh ⟨1, 1, 1⟩) timedOutScript = some state ∧
        (state.call 0 = .answered .timedOut ∧ state.call 1 = .answered .atCapacity ∧
          state.job 0 = .queued ∧ state.freeRequests = 1 ∧ state.freeProcessing = 0) :=
    ⟨_, rfl, rfl, rfl, rfl, rfl, rfl⟩
  obtain ⟨state, run, shown⟩ := evaluates
  exact ⟨state, run, shown,
    limits_hold (System.reachable_of_run _ _ _ (.init (fresh_initial _)) run)⟩

end ImageResizer.LoadShedding

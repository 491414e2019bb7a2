import A5Common.Timer.HandleLife

set_option autoImplicit false

namespace A5Common.Timer

open A5Common.Run

namespace LocTimerWrappers

def view (s : LocTimerWrappers) (wrapper : Nat) : View where
  made := wrapper < s.count
  running := (s.container.mTimer wrapper).isSome
  intact := s.mCb wrapper = true ∧ s.mMe wrapper = some wrapper
  stopTask := s.stopTask wrapper
  aimed := s.container.msgTask.stops = some wrapper
  expiryTask := if s.container.msgTask.calls = some wrapper then some s.expiryTask else none
  deleted := wrapper ∈ s.deleted

structure Sound (s : LocTimerWrappers) : Prop where
  container : timers.Reachable s.container
  life : ∀ wrapper, (s.view wrapper).Life
  resting : s.container.msgTask.calls = none → s.expiryTask = .reading
  once : s.deleted.Nodup
  expired : ∀ made ∈ s.container.callbacks, made.client ∈ s.deleted
  used : s.used = []
  late : s.late = []

/-- What a step of `destroy` does. -/
structure Destroys (s next : LocTimerWrappers) (wrapper : Nat) (place : Destroy) : Prop where
  view : next.view wrapper = (s.view wrapper).destroy place
  others : ∀ other, other ≠ wrapper → next.view other = s.view other
  count : next.count = s.count
  stopTask : next.stopTask = s.stopTask
  expiryTask : next.expiryTask = s.expiryTask
  msgTask : next.container.msgTask = s.container.msgTask
  callbacks : next.container.callbacks = s.container.callbacks
  container : timers.Reachable s.container → timers.Reachable next.container
  deleted : next.deleted = s.deleted ++ if place = .dropping then [wrapper] else []
  used : next.used = s.used ++ if place.uses = true ∧ wrapper ∈ s.deleted then [wrapper] else []
  late : next.late = s.late

theorem stop_mTimer_of_ne {client other : Nat} (different : other ≠ client)
    (σ : LocTimerContainer) : (σ.stop client).2.mTimer other = σ.mTimer other := by
  unfold LocTimerContainer.stop
  split
  · rfl
  · dsimp only [LocTimerContainer.destroyLocked]
    split
    · exact Function.update_of_ne different _ _
    · exact Function.update_of_ne different _ _

theorem view_congr {s t : LocTimerWrappers} {wrapper : Nat} (count : t.count = s.count)
    (mTimer : t.container.mTimer wrapper = s.container.mTimer wrapper)
    (mCb : t.mCb wrapper = s.mCb wrapper) (mMe : t.mMe wrapper = s.mMe wrapper)
    (stopTask : t.stopTask wrapper = s.stopTask wrapper)
    (msgTask : t.container.msgTask = s.container.msgTask) (expiryTask : t.expiryTask = s.expiryTask)
    (deleted : wrapper ∈ t.deleted ↔ wrapper ∈ s.deleted) : t.view wrapper = s.view wrapper := by
  unfold view
  simp only [count, mTimer, mCb, mMe, stopTask, msgTask, expiryTask, deleted]

/-- A step on one wrapper leaves the lives of the others as they were. -/
theorem Sound.life_at {s t : LocTimerWrappers} (sound : s.Sound) {wrapper : Nat} {own : View}
    (here : t.view wrapper = own) (life : own.Life)
    (others : ∀ other, other ≠ wrapper → t.view other = s.view other) (other : Nat) :
    (t.view other).Life := by
  by_cases same : other = wrapper
  · rw [same, here]
    exact life
  · rw [others other same]
    exact sound.life other

theorem destroy_cases {s next : LocTimerWrappers} {thread : Thread} {wrapper : Nat}
    {place : Destroy} {after : Option Destroy}
    (taken : s.destroy thread wrapper place = some (next, after)) :
    after = place.next (s.view wrapper).intact ∧ s.Destroys next wrapper place := by
  cases place with
  | entering =>
      simp only [destroy] at taken
      split at taken
      · cases taken
        exact ⟨rfl, ⟨rfl, fun _ _ => rfl, rfl, rfl, rfl, rfl, rfl, id, (List.append_nil _).symm,
          (List.append_nil _).symm, rfl⟩⟩
      · cases taken
  | locked =>
      cases taken
      refine ⟨?_, ⟨rfl, fun _ _ => rfl, rfl, rfl, rfl, rfl, rfl, id, (List.append_nil _).symm,
        ?_, rfl⟩⟩
      · simp [Destroy.next, view]
      · simp [use, Destroy.uses]
  | clearing =>
      cases taken
      refine ⟨rfl, ⟨?_, fun other different => ?_, rfl, rfl, rfl, rfl, rfl, id,
        (List.append_nil _).symm, ?_, rfl⟩⟩
      · have cleared : ¬ (Function.update s.mCb wrapper false wrapper = true ∧
            Function.update s.mMe wrapper none wrapper = some wrapper) := by
          simp
        exact View.ext rfl rfl (decide_eq_false cleared) rfl rfl rfl rfl
      · exact view_congr rfl rfl (Function.update_of_ne different _ _)
          (Function.update_of_ne different _ _) rfl rfl rfl .rfl
      · simp [use, Destroy.uses]
  | stopping =>
      cases taken
      obtain ⟨msgs, posts⟩ := LocTimerContainer.stop_posts_some wrapper s.container
      have stepped : timers.step s.container (.stop wrapper) =
          some (s.container.stop wrapper).2 := rfl
      refine ⟨rfl, ⟨?_, fun other different => ?_, rfl, rfl, rfl, posts.msgTask, posts.callbacks,
        fun run => run.step stepped, (List.append_nil _).symm, ?_, rfl⟩⟩
      · have halted : ((s.container.stop wrapper).2.mTimer wrapper).isSome = false := by
          rw [LocTimerContainer.stop_mTimer]
          rfl
        refine View.ext rfl halted rfl rfl ?_ ?_ rfl
        · exact decide_eq_decide.mpr (by rw [posts.msgTask])
        · exact if_congr (by rw [posts.msgTask]) rfl rfl
      · exact view_congr rfl (stop_mTimer_of_ne different s.container) rfl rfl rfl posts.msgTask
          rfl .rfl
      · simp [use, Destroy.uses]
  | dropping =>
      cases taken
      refine ⟨rfl, ⟨?_, fun other different => ?_, rfl, rfl, rfl, rfl, rfl, id, rfl, ?_, rfl⟩⟩
      · have member : wrapper ∈ s.deleted ++ [wrapper] := by simp
        exact View.ext rfl rfl rfl rfl rfl rfl (decide_eq_true member)
      · have kept : other ∈ s.deleted ++ [wrapper] ↔ other ∈ s.deleted := by
          simp [different]
        exact view_congr rfl rfl rfl rfl rfl rfl rfl kept
      · simp [use, Destroy.uses]
  | unlocking =>
      cases taken
      exact ⟨rfl, ⟨rfl, fun _ _ => rfl, rfl, rfl, rfl, rfl, rfl, id, (List.append_nil _).symm,
        (List.append_nil _).symm, rfl⟩⟩

/-- What `destroy` keeps of the invariant, where the wrapper it uses is there. -/
theorem Sound.destroys {s next : LocTimerWrappers} (sound : s.Sound) {wrapper : Nat}
    {place : Destroy} (destroys : s.Destroys next wrapper place)
    (there : place.uses = true → wrapper ∉ s.deleted) :
    next.deleted.Nodup ∧ (∀ made ∈ next.container.callbacks, made.client ∈ next.deleted) ∧
      next.used = [] ∧ next.late = [] := by
  refine ⟨?_, ?_, ?_, ?_⟩
  · rw [destroys.deleted]
    split
    · rename_i dropping
      have absent := there (dropping ▸ rfl)
      rw [List.nodup_append]
      refine ⟨sound.once, List.nodup_singleton _, ?_⟩
      intro old member new added same
      rw [List.mem_singleton.mp added] at same
      exact absent (same ▸ member)
    · rw [List.append_nil]
      exact sound.once
  · intro made member
    rw [destroys.callbacks] at member
    rw [destroys.deleted]
    exact List.mem_append_left _ (sound.expired made member)
  · rw [destroys.used, sound.used, if_neg (fun both => there both.1 both.2)]
    rfl
  · rw [destroys.late]
    exact sound.late

theorem Sound.stop {s t : LocTimerWrappers} (sound : s.Sound) {wrapper : Nat}
    (orderly : s.orderly (.stop wrapper)) (taken : s.locTimerStop wrapper = some t) : t.Sound := by
  unfold locTimerStop at taken
  cases task : s.stopTask wrapper with
  | uncalled | returned =>
      rw [task] at taken
      cases taken
  | destroying place =>
      rw [task] at taken
      obtain ⟨⟨next, after⟩, stepped, rfl⟩ := Option.map_eq_some_iff.mp taken
      obtain ⟨rfl, destroys⟩ := destroy_cases stepped
      have life := sound.life wrapper
      have runs : place = .locked → (s.view wrapper).running = true := by
        intro here
        exact orderly (here ▸ task)
      have there : place.uses = true → wrapper ∉ s.deleted := by
        intro uses
        exact of_decide_eq_false (life.stop_uses task runs uses)
      obtain ⟨once, expired, used, late⟩ := sound.destroys destroys there
      have went := life.stop task runs
      rw [← destroys.view] at went
      have seen : view { next with
          stopTask := Function.update s.stopTask wrapper
            ((place.next (s.view wrapper).intact).elim .returned .destroying) } wrapper =
          { next.view wrapper with
            stopTask := (place.next (s.view wrapper).intact).elim .returned .destroying } :=
        View.ext rfl rfl rfl (Function.update_self _ _ _) rfl rfl rfl
      have kept : ∀ other, other ≠ wrapper → view { next with
          stopTask := Function.update s.stopTask wrapper
            ((place.next (s.view wrapper).intact).elim .returned .destroying) } other =
          next.view other := fun other different =>
        View.ext rfl rfl rfl ((Function.update_of_ne different _ _).trans
          (congrFun destroys.stopTask other).symm) rfl rfl rfl
      refine ⟨destroys.container sound.container, sound.life_at seen went ?_, ?_, once, expired,
        used, late⟩
      · intro other different
        rw [kept other different]
        exact destroys.others other different
      · intro rest
        rw [destroys.msgTask] at rest
        exact destroys.expiryTask.trans (sound.resting rest)

/-- The message thread goes on within `timeOutCallback`. -/
theorem view_expiryTask {s : LocTimerWrappers} {wrapper : Nat}
    (calls : s.container.msgTask.calls = some wrapper) (task : ExpiryTask) (other : Nat) :
    view { s with expiryTask := task } other =
      if other = wrapper then { s.view other with expiryTask := some task } else s.view other := by
  split
  · rename_i same
    subst same
    exact View.ext rfl rfl rfl rfl rfl (if_pos calls) rfl
  · rename_i different
    have elsewhere : ¬ s.container.msgTask.calls = some other := by
      rw [calls]
      exact fun same => different (Option.some.inj same).symm
    exact View.ext rfl rfl rfl rfl rfl
      ((if_neg elsewhere).trans (if_neg elsewhere).symm) rfl

/-- Before its `destroy` the message thread only uses the wrapper. -/
theorem Sound.goOn {s : LocTimerWrappers} (sound : s.Sound) {wrapper : Nat}
    (calls : s.container.msgTask.calls = some wrapper)
    (before : s.expiryTask = .reading ∨ s.expiryTask = .calling ∨ s.expiryTask = .running)
    {after : ExpiryTask} (later : after ≠ .destroying .unlocking) {used late : List Nat}
    (unused : used = []) (in_time : late = []) :
    Sound { s with expiryTask := after, used := used, late := late } := by
  have here : (s.view wrapper).expiryTask = some s.expiryTask := if_pos calls
  refine ⟨sound.container, fun other => ?_, ?_, sound.once, sound.expired, unused, in_time⟩
  · rw [show view { s with expiryTask := after, used := used, late := late } other =
      view { s with expiryTask := after } other from rfl, view_expiryTask calls]
    split
    · rename_i same
      subst same
      exact (sound.life other).goOn here before later
    · exact sound.life other
  · intro rest
    rw [calls] at rest
    cases rest

theorem view_popping {s : LocTimerWrappers} {now : Timespec} {timer stopped : LocTimerDelegate}
    {wrapper : Nat} (place : s.container.msgTask = .callingBack now timer wrapper stopped)
    (callbacks : List Callback) (other : Nat) :
    view { s with
      container := { s.container with msgTask := .popping now, callbacks := callbacks }
      expiryTask := .reading } other = { s.view other with expiryTask := none } := by
  have unaimed : (MsgTask.popping now).stops = some other ↔
      s.container.msgTask.stops = some other := by
    rw [place]
    exact .rfl
  exact View.ext rfl rfl rfl rfl (decide_eq_decide.mpr unaimed) rfl rfl

/-- The wrapper that the message thread calls back is there until it has dropped it. -/
theorem Sound.undeleted {s : LocTimerWrappers} (sound : s.Sound) {wrapper : Nat}
    (calls : s.container.msgTask.calls = some wrapper)
    (before : s.expiryTask ≠ .destroying .unlocking) : wrapper ∉ s.deleted :=
  of_decide_eq_false ((sound.life wrapper).expiry_uses (if_pos calls) before)

theorem Sound.undeleted_of_uses {s : LocTimerWrappers} (sound : s.Sound) {wrapper : Nat}
    (calls : s.container.msgTask.calls = some wrapper) {place : Destroy}
    (task : s.expiryTask = .destroying place) (uses : place.uses = true) :
    wrapper ∉ s.deleted := by
  apply sound.undeleted calls
  rw [task]
  intro last
  cases last
  cases uses

/-- `destroy` goes on in the message thread. -/
theorem Sound.destroying {s next : LocTimerWrappers} (sound : s.Sound) {wrapper : Nat}
    (calls : s.container.msgTask.calls = some wrapper) {place later : Destroy}
    (task : s.expiryTask = .destroying place) (destroys : s.Destroys next wrapper place)
    (follows : some later = place.next (s.view wrapper).intact) :
    Sound { next with expiryTask := .destroying later } := by
  have here : (s.view wrapper).expiryTask = some (.destroying place) :=
    task ▸ if_pos calls
  obtain ⟨once, expired, used, late⟩ :=
    sound.destroys destroys (sound.undeleted_of_uses calls task)
  have calls_next : next.container.msgTask.calls = some wrapper := by
    rw [destroys.msgTask]
    exact calls
  have went := (sound.life wrapper).expiry here
  rw [← follows, ← destroys.view] at went
  have seen : view { next with expiryTask := .destroying later } wrapper =
      { next.view wrapper with expiryTask := some (.destroying later) } := by
    rw [view_expiryTask calls_next, if_pos rfl]
  refine ⟨destroys.container sound.container, sound.life_at seen went ?_, ?_, once, expired, used,
    late⟩
  · intro other different
    rw [view_expiryTask calls_next, if_neg different]
    exact destroys.others other different
  · intro rest
    rw [calls_next] at rest
    cases rest

/-- At the end of the message thread's `destroy` the wrapper is deleted. -/
theorem Sound.dropped {s next : LocTimerWrappers} (sound : s.Sound) {wrapper : Nat}
    (calls : s.container.msgTask.calls = some wrapper) {place : Destroy}
    (task : s.expiryTask = .destroying place) (destroys : s.Destroys next wrapper place)
    (ends : none = place.next (s.view wrapper).intact) : wrapper ∈ next.deleted := by
  have here : (s.view wrapper).expiryTask = some (.destroying place) :=
    task ▸ if_pos calls
  cases place with
  | unlocking =>
      rw [destroys.deleted]
      exact List.mem_append_left _ (of_decide_eq_true ((sound.life wrapper).unlocked here))
  | locked =>
      rw [(sound.life wrapper).tested here] at ends
      cases ends
  | entering | clearing | stopping | dropping => cases ends

/-- `destroy` ends in the message thread, and the callback with it. -/
theorem Sound.calledBack {s next : LocTimerWrappers} (sound : s.Sound) {now : Timespec}
    {timer stopped : LocTimerDelegate} {wrapper : Nat}
    (msgTask : s.container.msgTask = .callingBack now timer wrapper stopped) {place : Destroy}
    (task : s.expiryTask = .destroying place) (destroys : s.Destroys next wrapper place)
    (ends : none = place.next (s.view wrapper).intact) {container : LocTimerContainer}
    (taken : next.container.stepMsgTask = some container) :
    Sound { next with container := container, expiryTask := .reading } := by
  have calls : s.container.msgTask.calls = some wrapper := by
    rw [msgTask]
    rfl
  have here : (s.view wrapper).expiryTask = some (.destroying place) :=
    task ▸ if_pos calls
  have gone := sound.dropped calls task destroys ends
  obtain ⟨once, expired, used, late⟩ :=
    sound.destroys destroys (sound.undeleted_of_uses calls task)
  have went := (sound.life wrapper).expiry here
  rw [← ends, ← destroys.view] at went
  have moved : timers.step next.container .msgTask = some container := taken
  have reach := (destroys.container sound.container).step moved
  have next_msgTask := destroys.msgTask.trans msgTask
  simp only [LocTimerContainer.stepMsgTask, next_msgTask, Option.some.injEq] at taken
  subst taken
  refine ⟨reach, sound.life_at (view_popping next_msgTask _ wrapper) went ?_, fun _ => rfl, once,
    ?_, used, late⟩
  · intro other different
    have elsewhere : ¬ s.container.msgTask.calls = some other := by
      rw [calls]
      exact fun same => different (Option.some.inj same).symm
    have kept : { s.view other with expiryTask := none } = s.view other :=
      View.ext rfl rfl rfl rfl rfl (if_neg elsewhere).symm rfl
    rw [view_popping next_msgTask, destroys.others other different, kept]
  · intro made member
    rcases List.mem_append.mp member with old | new
    · exact expired made old
    · rw [List.mem_singleton.mp new]
      exact gone

theorem Sound.timeOutCallback {s t : LocTimerWrappers} (sound : s.Sound) {now : Timespec}
    {timer stopped : LocTimerDelegate} {wrapper : Nat}
    (msgTask : s.container.msgTask = .callingBack now timer wrapper stopped)
    (taken : s.timeOutCallback wrapper = some t) : t.Sound := by
  have calls : s.container.msgTask.calls = some wrapper := by
    rw [msgTask]
    rfl
  unfold LocTimerWrappers.timeOutCallback at taken
  cases task : s.expiryTask with
  | reading =>
      rw [task] at taken
      obtain rfl := Option.some.inj taken
      have there : wrapper ∉ s.deleted := by
        apply sound.undeleted calls
        rw [task]
        decide
      have unused : s.used ++ (if wrapper ∈ s.deleted then [wrapper] else []) = [] := by
        rw [sound.used, if_neg there]
        rfl
      apply sound.goOn calls (.inl task) _ unused sound.late
      split <;> decide
  | calling =>
      rw [task] at taken
      obtain rfl := Option.some.inj taken
      have early := (sound.life wrapper).calling (if_pos calls)
      have running : ¬ s.stopTask wrapper = .returned := by
        intro returned
        rw [show (s.view wrapper).stopTask = s.stopTask wrapper from rfl, returned] at early
        cases early
      have in_time : s.late ++ (if s.stopTask wrapper = .returned then [wrapper] else []) = [] := by
        rw [sound.late, if_neg running]
        rfl
      exact sound.goOn calls (.inr (.inl task)) (by decide) sound.used in_time
  | running =>
      rw [task] at taken
      obtain rfl := Option.some.inj taken
      exact sound.goOn calls (.inr (.inr task)) (by decide) sound.used sound.late
  | destroying place =>
      rw [task] at taken
      obtain ⟨⟨next, after⟩, stepped, went⟩ := Option.bind_eq_some_iff.mp taken
      obtain ⟨follows, destroys⟩ := destroy_cases stepped
      cases after with
      | some later =>
          obtain rfl := Option.some.inj went
          exact sound.destroying calls task destroys follows
      | none =>
          obtain ⟨container, moved, rfl⟩ := Option.map_eq_some_iff.mp went
          exact sound.calledBack msgTask task destroys follows moved

theorem uncalled_expiryTask {s : LocTimerWrappers} (uncalled : s.container.msgTask.calls = none)
    (wrapper : Nat) : (s.view wrapper).expiryTask = none := by
  show (if s.container.msgTask.calls = some wrapper then _ else none) = none
  rw [uncalled]
  rfl

/-- The message thread stops the timer of the wrapper that it has read, or finds none. -/
theorem Sound.stopping {s : LocTimerWrappers} (sound : s.Sound) {now : Timespec}
    {timer : LocTimerDelegate} {wrapper : Nat}
    (place : s.container.msgTask = .stopping now timer wrapper)
    (orderly : (s.stopTask wrapper).early = true ∨ s.stopTask wrapper = .destroying .dropping)
    {container : LocTimerContainer} (taken : s.container.stepMsgTask = some container) :
    Sound { s.use wrapper with container := container } := by
  have life := sound.life wrapper
  have aimed : s.container.msgTask.stops = some wrapper := by
    rw [place]
    rfl
  have uncalled : s.container.msgTask.calls = none := by
    rw [place]
    rfl
  have there := of_decide_eq_false (life.aimed_uses (decide_eq_true aimed) orderly)
  have unused : s.used ++ (if wrapper ∈ s.deleted then [wrapper] else []) = [] := by
    rw [sound.used, if_neg there]
    rfl
  have moved : timers.step s.container .msgTask = some container := taken
  have reach := sound.container.step moved
  have reading := sound.resting uncalled
  cases running : s.container.mTimer wrapper with
  | none =>
      simp only [LocTimerContainer.stepMsgTask, place, running,
        LocTimerContainer.stop_none running, Option.some.injEq] at taken
      subst taken
      refine ⟨reach, fun other => ?_, fun _ => reading, sound.once, sound.expired, unused,
        sound.late⟩
      have missed : view { s.use wrapper with
          container := { s.container with msgTask := .popping now } } other =
          { s.view other with aimed := false } :=
        View.ext rfl rfl rfl rfl rfl (uncalled_expiryTask uncalled other).symm rfl
      rw [missed]
      exact (sound.life other).miss
  | some stopped =>
      simp only [LocTimerContainer.stepMsgTask, place, running, Option.some.injEq] at taken
      subst taken
      obtain ⟨msgs, posts⟩ := LocTimerContainer.stop_posts_some wrapper s.container
      have runs : (s.view wrapper).running = true := by
        show (s.container.mTimer wrapper).isSome = true
        rw [running]
        rfl
      have halted : ((s.container.stop wrapper).2.mTimer wrapper).isSome = false := by
        rw [LocTimerContainer.stop_mTimer]
        rfl
      have called : view { s.use wrapper with
          container := { (s.container.stop wrapper).2 with
            msgTask := .callingBack now timer wrapper stopped } } wrapper =
          { s.view wrapper with
            running := false, aimed := false, expiryTask := some .reading } :=
        View.ext rfl halted rfl rfl rfl ((if_pos rfl).trans (congrArg some reading)) rfl
      refine ⟨reach, sound.life_at called (life.expire runs orderly) ?_, ?_, sound.once, ?_, unused,
        sound.late⟩
      · intro other different
        have elsewhere : ¬ some wrapper = some other :=
          fun both => different (Option.some.inj both).symm
        have unaimed : decide (s.container.msgTask.stops = some other) = false := by
          rw [aimed]
          exact decide_eq_false elsewhere
        exact View.ext rfl (congrArg Option.isSome (stop_mTimer_of_ne different s.container)) rfl
          rfl unaimed.symm ((if_neg elsewhere).trans (uncalled_expiryTask uncalled other).symm) rfl
      · intro rest
        cases rest
      · intro made member
        exact sound.expired made (posts.callbacks ▸ member)

/-- A step of the message thread for the container only. -/
theorem Sound.elsewhere {s : LocTimerWrappers} (sound : s.Sound)
    (unaimed : s.container.msgTask.stops = none) (uncalled : s.container.msgTask.calls = none)
    {container : LocTimerContainer} (taken : s.container.stepMsgTask = some container) :
    Sound { s with container := container } := by
  have step := LocTimerContainer.stepMsgTask_cases taken
  obtain ⟨made, owned⟩ := timers_owned sound.container
  have mTimer : container.mTimer = s.container.mTimer := by
    rcases step.quiet with ⟨now, timer, client, stopped, place, -, -⟩ | ⟨same, -⟩
    · rw [place] at unaimed
      cases unaimed
    · exact same.mTimer
  have calls : container.msgTask.calls = none := by
    cases task : container.msgTask with
    | callingBack now timer client stopped =>
        rw [(step.calling task).1] at unaimed
        cases unaimed
    | idle | updating | popping | expiring | stopping => rfl
  have callbacks : container.callbacks = s.container.callbacks := by
    rcases step.callbacks with same | ⟨now, timer, client, stopped, place, -⟩
    · exact same
    · rw [place] at uncalled
      cases uncalled
  have moved : timers.step s.container .msgTask = some container := taken
  refine ⟨sound.container.step moved, fun wrapper => ?_,
    fun _ => sound.resting uncalled, sound.once, ?_, sound.used, sound.late⟩
  · have running : (container.mTimer wrapper).isSome = (s.container.mTimer wrapper).isSome := by
      rw [mTimer]
    have expiryTask : (if container.msgTask.calls = some wrapper then some s.expiryTask else none) =
        (s.view wrapper).expiryTask := by
      rw [uncalled_expiryTask uncalled, calls]
      rfl
    by_cases aims : container.msgTask.stops = some wrapper
    · have runs : (s.view wrapper).running = true := by
        cases task : container.msgTask with
        | stopping now timer client =>
            rw [task] at aims
            obtain rfl := Option.some.inj aims
            obtain ⟨held, runs, -⟩ := owned.owner _ _ (step.stopping task).2
            show (s.container.mTimer client).isSome = true
            rw [runs]
            rfl
        | idle | updating | popping | expiring | callingBack =>
            rw [task] at aims
            cases aims
      have aimed : view { s with container := container } wrapper =
          { s.view wrapper with aimed := true } :=
        View.ext rfl running rfl rfl (decide_eq_true aims) expiryTask rfl
      rw [aimed]
      exact (sound.life wrapper).aim runs
    · have before : (s.view wrapper).aimed = false := by
        show decide (s.container.msgTask.stops = some wrapper) = false
        rw [unaimed]
        rfl
      have kept : view { s with container := container } wrapper = s.view wrapper :=
        View.ext rfl running rfl rfl ((decide_eq_false aims).trans before.symm) expiryTask rfl
      rw [kept]
      exact sound.life wrapper
  · intro called member
    exact sound.expired called (callbacks ▸ member)

theorem Sound.stepMsgTask {s t : LocTimerWrappers} (sound : s.Sound)
    (orderly : s.orderly .msgTask) (taken : s.stepMsgTask = some t) : t.Sound := by
  unfold LocTimerWrappers.stepMsgTask at taken
  cases place : s.container.msgTask with
  | callingBack now timer wrapper stopped =>
      rw [place] at taken
      exact sound.timeOutCallback place taken
  | stopping now timer wrapper =>
      rw [place] at taken
      obtain ⟨container, stepped, rfl⟩ := Option.map_eq_some_iff.mp taken
      apply sound.stopping place (orderly wrapper _) stepped
      rw [place]
      rfl
  | idle | updating | popping | expiring =>
      rw [place] at taken
      obtain ⟨container, stepped, rfl⟩ := Option.map_eq_some_iff.mp taken
      apply sound.elsewhere _ _ stepped
      · rw [place]
        rfl
      · rw [place]
        rfl

theorem Sound.start {s : LocTimerWrappers} (sound : s.Sound) (msec : BitVec 64) :
    (s.locTimerStart msec).Sound := by
  have fresh : (s.view s.count).made = false := decide_eq_false (Nat.lt_irrefl _)
  have life := sound.life s.count
  have none : s.container.mTimer s.count = none := by
    have idle := life.idle fresh
    exact Option.not_isSome_iff_eq_none.mp
      (fun runs => Bool.false_ne_true (idle.symm.trans runs))
  have started : s.container.locTimerStart s.count msec =
      s.container.start s.count (msec.setWidth 32) := by
    unfold LocTimerContainer.locTimerStart
    rw [Function.update_eq_self_iff.mpr none.symm]
  have moved : timers.step s.container (.start s.count (msec.setWidth 32)) =
      some (s.container.locTimerStart s.count msec) := congrArg some started.symm
  have explicit := LocTimerContainer.start_none none (msec.setWidth 32)
  rw [← started] at explicit
  have msgTask : (s.container.locTimerStart s.count msec).msgTask = s.container.msgTask := by
    rw [explicit]
  have callbacks : (s.container.locTimerStart s.count msec).callbacks = s.container.callbacks := by
    rw [explicit]
  have aimed : ∀ wrapper, ((s.locTimerStart msec).view wrapper).aimed = (s.view wrapper).aimed :=
    fun wrapper => decide_eq_decide.mpr (by rw [← msgTask]; exact .rfl)
  have expiryTask : ∀ wrapper,
      ((s.locTimerStart msec).view wrapper).expiryTask = (s.view wrapper).expiryTask :=
    fun wrapper => if_congr (by rw [← msgTask]; exact .rfl) rfl rfl
  have runs : ((s.container.locTimerStart s.count msec).mTimer s.count).isSome = true := by
    rw [LocTimerContainer.locTimerStart_mTimer]
    rfl
  have whole : Function.update s.mCb s.count true s.count = true ∧
      Function.update s.mMe s.count (some s.count) s.count = some s.count := by
    simp
  have made : (s.locTimerStart msec).view s.count =
      { s.view s.count with made := true, running := true, intact := true } :=
    View.ext (decide_eq_true (Nat.lt_succ_self _)) runs (decide_eq_true whole) rfl
      (aimed _) (expiryTask _) rfl
  refine ⟨sound.container.step moved, sound.life_at made (life.start fresh) ?_, ?_, sound.once, ?_,
    sound.used, sound.late⟩
  · intro wrapper different
    have before : wrapper < s.count + 1 ↔ wrapper < s.count := by omega
    have timer : (s.container.locTimerStart s.count msec).mTimer wrapper =
        s.container.mTimer wrapper := by
      rw [explicit]
      exact Function.update_of_ne different _ _
    have fields : (Function.update s.mCb s.count true wrapper = true ∧
        Function.update s.mMe s.count (some s.count) wrapper = some wrapper) ↔
        (s.mCb wrapper = true ∧ s.mMe wrapper = some wrapper) := by
      rw [Function.update_of_ne different, Function.update_of_ne different]
    exact View.ext (decide_eq_decide.mpr before) (congrArg Option.isSome timer)
      (decide_eq_decide.mpr fields) rfl (aimed _) (expiryTask _) rfl
  · intro rest
    rw [show (s.locTimerStart msec).container.msgTask = s.container.msgTask from msgTask] at rest
    exact sound.resting rest
  · intro made member
    exact sound.expired made (callbacks ▸ member)

theorem Sound.call {s : LocTimerWrappers} (sound : s.Sound) {wrapper : Nat}
    (made : wrapper < s.count) (uncalled : s.stopTask wrapper = .uncalled) :
    Sound { s with
      stopTask := Function.update s.stopTask wrapper (.destroying .entering) } := by
  have life := (sound.life wrapper).call uncalled (decide_eq_true made)
  have called : view { s with
      stopTask := Function.update s.stopTask wrapper (.destroying .entering) } wrapper =
      { s.view wrapper with stopTask := .destroying .entering } :=
    View.ext rfl rfl rfl (Function.update_self _ _ _) rfl rfl rfl
  refine ⟨sound.container, sound.life_at called life ?_, sound.resting, sound.once, sound.expired,
    sound.used, sound.late⟩
  intro other different
  exact View.ext rfl rfl rfl (Function.update_of_ne different _ _) rfl rfl rfl

/-- The clock and the poll thread leave the wrappers alone. -/
theorem Sound.aside {s : LocTimerWrappers} (sound : s.Sound) {container : LocTimerContainer}
    (reach : timers.Reachable container) (mTimer : container.mTimer = s.container.mTimer)
    (msgTask : container.msgTask = s.container.msgTask)
    (callbacks : container.callbacks = s.container.callbacks) :
    Sound { s with container := container } := by
  refine ⟨reach, fun wrapper => ?_, ?_, sound.once, ?_, sound.used, sound.late⟩
  · have kept : view { s with container := container } wrapper = s.view wrapper :=
      view_congr rfl (congrFun mTimer wrapper) rfl rfl rfl msgTask rfl .rfl
    rw [kept]
    exact sound.life wrapper
  · intro rest
    apply sound.resting
    rw [← msgTask]
    exact rest
  · intro made member
    exact sound.expired made (callbacks ▸ member)

theorem sound_new (clock : Timespec) : (new clock).Sound where
  container := .start ⟨clock, rfl⟩
  life := fun _ => .unmade
  resting := fun _ => rfl
  once := .nil
  expired := fun _ member => absurd member List.not_mem_nil
  used := rfl
  late := rfl

theorem Sound.step {s t : LocTimerWrappers} (sound : s.Sound) {label : Label}
    (orderly : s.orderly label) (taken : s.step label = some t) : t.Sound := by
  cases label with
  | tick clock =>
      obtain ⟨container, stepped, rfl⟩ := Option.map_eq_some_iff.mp taken
      have moved : timers.step s.container (.tick clock) = some container := stepped
      have reach := sound.container.step moved
      simp only [LocTimerContainer.step] at stepped
      split at stepped
      · obtain rfl := Option.some.inj stepped
        exact sound.aside reach rfl rfl rfl
      · cases stepped
  | pollTask =>
      obtain ⟨container, stepped, rfl⟩ := Option.map_eq_some_iff.mp taken
      have moved : timers.step s.container .pollTask = some container := stepped
      have reach := sound.container.step moved
      rcases LocTimerContainer.stepPollTask_cases stepped with
        ⟨-, -, -, rfl⟩ | ⟨-, rfl⟩ | ⟨-, rfl⟩ | ⟨-, rfl⟩
      · exact sound.aside reach rfl rfl rfl
      · exact sound.aside reach rfl rfl rfl
      · exact sound.aside reach rfl rfl rfl
      · exact sound.aside reach rfl rfl rfl
  | msgTask => exact sound.stepMsgTask orderly taken
  | start msec =>
      obtain rfl := Option.some.inj taken
      exact sound.start msec
  | call wrapper =>
      simp only [LocTimerWrappers.step] at taken
      split at taken
      · rename_i ready
        obtain rfl := Option.some.inj taken
        exact sound.call ready.1 ready.2
      · cases taken
  | stop wrapper => exact sound.stop orderly taken

end LocTimerWrappers

open LocTimerWrappers (Label)

end A5Common.Timer

import A5Common.Run.RefCount
import A5Common.Run.System

set_option autoImplicit false

namespace A5Common.Utils

open A5Common.Run

/-- The two threads that have a reference to a `LocThreadDelegate`. -/
inductive Side where
  | parent
  | spawned
deriving DecidableEq, Inhabited

instance : Fintype Side where
  elems := {.parent, .spawned}
  complete side := by
    cases side with
    | parent => exact Finset.mem_insert_self _ _
    | spawned => exact Finset.mem_insert_of_mem (Finset.mem_singleton_self _)

/-- The next access of the parent: in the constructor and in `create` after the thread is
created, in `bye` or in `stop`. The others are in `destroy`. -/
inductive ParentAt where
  | storesHandle
  | testsHandle
  | setsName
  | detaches
  | testsRunning
  | started
  | testsJoinable
  | stopTestsRunnable
  | stopNullsRunnable
  | stopTestsJoinable
  | stopResetsJoinable
  | loadsHandle
  | joins
  | destroys
deriving DecidableEq

/-- The next access of the spawned thread in `threadMain`, or what it does with the
runnable. The others are in `destroy`. -/
inductive SpawnedAt where
  | loadsRunnable
  | testsPrerun
  | preruns
  | testsLoop
  | runs
  | testsPostrun
  | postruns
  | nullsRunnable
  | deletesRunnable
  | destroys
deriving DecidableEq

/-- A `LocThreadDelegate`, and where its two threads are. `mRunnable` is true if it is not
NULL, and `refs` has `mRefCount`, `mMutex` and the deletions of the object. The deletions
of the runnable are a record. -/
structure LocThreadDelegate where
  mRunnable : Bool
  mJoinable : Bool
  refs : RefCounted Side
  parent : ParentAt
  spawned : SpawnedAt
  runnableDeleted : Nat

namespace LocThreadDelegate

/-- The thread is created, and `pthread_create` has not returned yet. -/
def created (joinable : Bool) : LocThreadDelegate where
  mRunnable := true
  mJoinable := joinable
  refs := .new 2
  parent := .storesHandle
  spawned := .loadsRunnable
  runnableDeleted := 0

/-- The parent goes on with an access to the object. -/
def toParent (next : ParentAt) (σ : LocThreadDelegate) : LocThreadDelegate :=
  { σ with refs := σ.refs.touch, parent := next }

/-- The spawned thread goes on with an access to the object. -/
def toSpawned (next : SpawnedAt) (σ : LocThreadDelegate) : LocThreadDelegate :=
  { σ with refs := σ.refs.touch, spawned := next }

/-- `LocThread::start`, then `LocThread::stop` or the destructor. The parameter of the
constructor is `joinable`, and `stop` tells which of the two the parent calls. -/
def parentStep (joinable stop : Bool) (σ : LocThreadDelegate) : Option LocThreadDelegate :=
  match σ.parent with
  | .storesHandle => some (σ.toParent .testsHandle)
  | .testsHandle => some (σ.toParent .setsName)
  | .setsName => some (σ.toParent (if joinable then .testsRunning else .detaches))
  | .detaches => some (σ.toParent .testsRunning)
  -- if the runnable has already ended, `create` releases the object and `start` fails
  | .testsRunning => some (σ.toParent (if σ.mRunnable then .started else .destroys))
  | .started => some { σ with parent := if stop then .stopTestsRunnable else .testsJoinable }
  | .testsJoinable =>
      some (σ.toParent (if σ.mJoinable then .stopTestsRunnable else .destroys))
  | .stopTestsRunnable =>
      some (σ.toParent (if σ.mRunnable then .stopNullsRunnable else .stopTestsJoinable))
  | .stopNullsRunnable => some { σ.toParent .stopTestsJoinable with mRunnable := false }
  | .stopTestsJoinable =>
      some (σ.toParent (if σ.mJoinable then .stopResetsJoinable else .destroys))
  | .stopResetsJoinable => some { σ.toParent .loadsHandle with mJoinable := false }
  | .loadsHandle => some (σ.toParent .joins)
  | .joins =>
      if σ.refs.holding .spawned = .done then some { σ with parent := .destroys } else none
  | .destroys => (σ.refs.step .parent).map (fun refs => { σ with refs := refs })

/-- `LocThreadDelegate::threadMain`; `again` is what `run` returns. -/
def spawnedStep (again : Bool) (σ : LocThreadDelegate) : Option LocThreadDelegate :=
  match σ.spawned with
  | .loadsRunnable => some (σ.toSpawned (if σ.mRunnable then .testsPrerun else .destroys))
  | .testsPrerun => some (σ.toSpawned (if σ.mRunnable then .preruns else .testsLoop))
  | .preruns => some { σ with spawned := .testsLoop }
  | .testsLoop => some (σ.toSpawned (if σ.mRunnable then .runs else .testsPostrun))
  | .runs => some { σ with spawned := if again then .testsLoop else .testsPostrun }
  | .testsPostrun => some (σ.toSpawned (if σ.mRunnable then .postruns else .nullsRunnable))
  | .postruns => some { σ with spawned := .nullsRunnable }
  | .nullsRunnable => some { σ.toSpawned .deletesRunnable with mRunnable := false }
  | .deletesRunnable =>
      some { σ with spawned := .destroys, runnableDeleted := σ.runnableDeleted + 1 }
  | .destroys => (σ.refs.step .spawned).map (fun refs => { σ with refs := refs })

/-- Both threads have made their last access. -/
def Finished (σ : LocThreadDelegate) : Prop :=
  ∀ side, σ.refs.holding side = .done

end LocThreadDelegate

inductive LifeStep where
  | parent (stop : Bool)
  | spawned (again : Bool)
deriving DecidableEq

/-- The two threads in any order. -/
def locThread (joinable : Bool) : System LocThreadDelegate LifeStep where
  initial σ := σ = .created joinable
  step σ
    | .parent stop => σ.parentStep joinable stop
    | .spawned again => σ.spawnedStep again

/-- The parent sets the runnable to NULL only after the spawned thread has read it. -/
def ReadBeforeNull (σ : LocThreadDelegate) (label : LifeStep) : Prop :=
  match label with
  | .parent _ => σ.parent = .stopNullsRunnable → σ.spawned ≠ .loadsRunnable
  | .spawned _ => True

instance (σ : LocThreadDelegate) (label : LifeStep) : Decidable (ReadBeforeNull σ label) :=
  match label with
  | .parent _ =>
      inferInstanceAs (Decidable (σ.parent = .stopNullsRunnable → σ.spawned ≠ .loadsRunnable))
  | .spawned _ => inferInstanceAs (Decidable True)

namespace LocThreadDelegate

/-- A thread that is not in `destroy` has its reference. -/
structure Sound (σ : LocThreadDelegate) : Prop where
  counted : σ.refs.Counted
  parent : σ.parent ≠ .destroys → σ.refs.holding .parent = .holds
  spawned : σ.spawned ≠ .destroys → σ.refs.holding .spawned = .holds

variable {σ after : LocThreadDelegate} {joinable stop again : Bool}

theorem created_sound : (created joinable).Sound where
  counted := RefCounted.new_counted
  parent _ := rfl
  spawned _ := rfl

theorem parentStep_inside (inside : σ.parent = .destroys)
    (taken : σ.parentStep joinable stop = some after) :
    ∃ refs, σ.refs.step .parent = some refs ∧ after = { σ with refs := refs } := by
  unfold parentStep at taken
  rw [inside] at taken
  obtain ⟨refs, stepped, rfl⟩ := Option.map_eq_some_iff.mp taken
  exact ⟨refs, stepped, by rw [inside]⟩

theorem spawnedStep_inside (inside : σ.spawned = .destroys)
    (taken : σ.spawnedStep again = some after) :
    ∃ refs, σ.refs.step .spawned = some refs ∧ after = { σ with refs := refs } := by
  unfold spawnedStep at taken
  rw [inside] at taken
  obtain ⟨refs, stepped, rfl⟩ := Option.map_eq_some_iff.mp taken
  exact ⟨refs, stepped, by rw [inside]⟩

/-- A step of the parent outside `destroy`. -/
theorem parentStep_outside (outside : σ.parent ≠ .destroys)
    (taken : σ.parentStep joinable stop = some after) :
    (after.refs = σ.refs ∨ after.refs = σ.refs.touch) ∧ after.spawned = σ.spawned ∧
      after.runnableDeleted = σ.runnableDeleted ∧
      (after.mRunnable = σ.mRunnable ∨
        σ.parent = .stopNullsRunnable ∧ after.mRunnable = false) := by
  unfold parentStep at taken
  split at taken
  case h_6 =>
    cases taken
    exact ⟨.inl rfl, rfl, rfl, .inl rfl⟩
  case h_9 nulls =>
    cases taken
    exact ⟨.inr rfl, rfl, rfl, .inr ⟨nulls, rfl⟩⟩
  case h_13 =>
    split at taken
    · cases taken
      exact ⟨.inl rfl, rfl, rfl, .inl rfl⟩
    · cases taken
  case h_14 destroys => exact absurd destroys outside
  all_goals
    cases taken
    exact ⟨.inr rfl, rfl, rfl, .inl rfl⟩

/-- A step of the spawned thread outside `destroy`. It deletes the runnable before it goes
there, unless it has read that there is none. -/
theorem spawnedStep_outside (outside : σ.spawned ≠ .destroys)
    (taken : σ.spawnedStep again = some after) :
    (after.refs = σ.refs ∨ after.refs = σ.refs.touch) ∧ after.parent = σ.parent ∧
      after.spawned ≠ .loadsRunnable ∧
      after.runnableDeleted = σ.runnableDeleted +
        (if after.spawned = .destroys ∧ (σ.spawned = .loadsRunnable → σ.mRunnable = true) then 1
          else 0) := by
  cases here : σ.spawned with
  | destroys => exact absurd here outside
  | deletesRunnable =>
      unfold spawnedStep at taken
      rw [here] at taken
      cases taken
      exact ⟨.inl rfl, rfl, nofun, rfl⟩
  | loadsRunnable =>
      unfold spawnedStep at taken
      rw [here] at taken
      cases taken
      cases found : σ.mRunnable with
      | true => exact ⟨.inr rfl, rfl, nofun, rfl⟩
      | false => exact ⟨.inr rfl, rfl, nofun, rfl⟩
  | runs =>
      unfold spawnedStep at taken
      rw [here] at taken
      cases taken
      cases again with
      | true => exact ⟨.inl rfl, rfl, nofun, rfl⟩
      | false => exact ⟨.inl rfl, rfl, nofun, rfl⟩
  | preruns | postruns =>
      unfold spawnedStep at taken
      rw [here] at taken
      cases taken
      exact ⟨.inl rfl, rfl, nofun, rfl⟩
  | nullsRunnable =>
      unfold spawnedStep at taken
      rw [here] at taken
      cases taken
      exact ⟨.inr rfl, rfl, nofun, rfl⟩
  | testsPrerun | testsLoop | testsPostrun =>
      unfold spawnedStep at taken
      rw [here] at taken
      cases taken
      cases found : σ.mRunnable with
      | true => exact ⟨.inr rfl, rfl, nofun, rfl⟩
      | false => exact ⟨.inr rfl, rfl, nofun, rfl⟩

/-- A thread that has left the loop does not come back to it. -/
theorem spawnedStep_leaving (leaving : σ.spawned = .deletesRunnable ∨ σ.spawned = .destroys)
    (taken : σ.spawnedStep again = some after) :
    after.spawned = .deletesRunnable ∨ after.spawned = .destroys := by
  rcases leaving with deletes | inside
  · unfold spawnedStep at taken
    rw [deletes] at taken
    cases taken
    exact Or.inr rfl
  · obtain ⟨refs, -, rfl⟩ := spawnedStep_inside inside taken
    exact Or.inr inside

theorem parentStep_spawned (taken : σ.parentStep joinable stop = some after) :
    after.spawned = σ.spawned := by
  by_cases inside : σ.parent = .destroys
  · obtain ⟨refs, -, rfl⟩ := parentStep_inside inside taken
    rfl
  · exact (parentStep_outside inside taken).2.1

/-- A step is one of the reference of its thread, or it leaves the references. -/
theorem Sound.step (sound : σ.Sound) {label : LifeStep}
    (taken : (locThread joinable).step σ label = some after) : after.Sound := by
  cases label with
  | parent stop =>
      by_cases inside : σ.parent = .destroys
      · obtain ⟨refs, stepped, rfl⟩ := parentStep_inside inside taken
        have other : refs.holding .spawned = σ.refs.holding .spawned :=
          RefCounted.step_other stepped nofun
        exact ⟨sound.counted.step stepped, fun outside => absurd inside outside,
          fun outside => other.trans (sound.spawned outside)⟩
      · have holds := sound.parent inside
        have active : σ.refs.holding .parent ≠ .done := holds ▸ nofun
        obtain ⟨refs, spawned, -⟩ := parentStep_outside inside taken
        rw [sound.counted.touch_eq active, or_self] at refs
        exact ⟨refs ▸ sound.counted, fun _ => refs ▸ holds, spawned ▸ refs ▸ sound.spawned⟩
  | spawned again =>
      by_cases inside : σ.spawned = .destroys
      · obtain ⟨refs, stepped, rfl⟩ := spawnedStep_inside inside taken
        have other : refs.holding .parent = σ.refs.holding .parent :=
          RefCounted.step_other stepped nofun
        exact ⟨sound.counted.step stepped, fun outside => other.trans (sound.parent outside),
          fun outside => absurd inside outside⟩
      · have holds := sound.spawned inside
        have active : σ.refs.holding .spawned ≠ .done := holds ▸ nofun
        obtain ⟨refs, parent, -⟩ := spawnedStep_outside inside taken
        rw [sound.counted.touch_eq active, or_self] at refs
        exact ⟨refs ▸ sound.counted, parent ▸ refs ▸ sound.parent, fun _ => refs ▸ holds⟩

/-- The spawned thread finds the runnable, and has deleted it when it goes on. -/
structure Found (σ : LocThreadDelegate) : Prop where
  found : σ.spawned = .loadsRunnable → σ.mRunnable = true
  deleted : σ.runnableDeleted = if σ.spawned = .destroys then 1 else 0

/-- The spawned thread does not find the runnable, and does not delete it. -/
structure Lost (σ : LocThreadDelegate) : Prop where
  lost : σ.spawned = .loadsRunnable ∧ σ.mRunnable = false ∨ σ.spawned = .destroys
  kept : σ.runnableDeleted = 0

theorem created_found : (created joinable).Found where
  found _ := rfl
  deleted := rfl

theorem Found.step (found : σ.Found) {label : LifeStep}
    (taken : (locThread joinable).step σ label = some after) (met : ReadBeforeNull σ label) :
    after.Found := by
  cases label with
  | parent stop =>
      by_cases inside : σ.parent = .destroys
      · obtain ⟨refs, -, rfl⟩ := parentStep_inside inside taken
        exact ⟨found.found, found.deleted⟩
      · obtain ⟨-, spawned, deleted, kept | ⟨nulls, -⟩⟩ := parentStep_outside inside taken
        · refine ⟨fun loads => ?_, by rw [deleted, spawned, found.deleted]⟩
          rw [kept]
          exact found.found (spawned ▸ loads)
        · exact ⟨fun loads => absurd (spawned ▸ loads) (met nulls),
            by rw [deleted, spawned, found.deleted]⟩
  | spawned again =>
      by_cases inside : σ.spawned = .destroys
      · obtain ⟨refs, -, rfl⟩ := spawnedStep_inside inside taken
        exact ⟨found.found, found.deleted⟩
      · obtain ⟨-, -, further, deleted⟩ := spawnedStep_outside inside taken
        refine ⟨fun loads => absurd loads further, ?_⟩
        rw [deleted, found.deleted, if_neg inside, Nat.zero_add]
        exact if_congr (and_iff_left found.found) rfl rfl

/-- The parent sets the runnable to NULL before the spawned thread has read it. -/
theorem Found.lost (found : σ.Found) {label : LifeStep}
    (taken : (locThread joinable).step σ label = some after) (broken : ¬ ReadBeforeNull σ label) :
    after.Lost := by
  cases label with
  | parent stop =>
      obtain ⟨nulls, loads⟩ := Classical.not_imp.mp broken
      have loads := Decidable.of_not_not loads
      have inside : σ.parent ≠ .destroys := nulls ▸ nofun
      obtain ⟨-, spawned, deleted, -⟩ := parentStep_outside inside taken
      refine ⟨.inl ⟨spawned.trans loads, ?_⟩, ?_⟩
      · simp only [locThread, parentStep, nulls] at taken
        cases taken
        rfl
      · rw [deleted, found.deleted, loads]
        rfl
  | spawned again => exact absurd trivial broken

theorem Lost.step (lost : σ.Lost) {label : LifeStep}
    (taken : (locThread joinable).step σ label = some after) : after.Lost := by
  cases label with
  | parent stop =>
      by_cases inside : σ.parent = .destroys
      · obtain ⟨refs, -, rfl⟩ := parentStep_inside inside taken
        exact ⟨lost.lost, lost.kept⟩
      · obtain ⟨-, spawned, deleted, kept | ⟨-, null⟩⟩ := parentStep_outside inside taken
        · exact ⟨by rw [spawned, kept]; exact lost.lost, deleted.trans lost.kept⟩
        · refine ⟨lost.lost.imp (fun loads => ⟨spawned.trans loads.1, null⟩) spawned.trans,
            deleted.trans lost.kept⟩
  | spawned again =>
      rcases lost.lost with ⟨loads, null⟩ | inside
      · simp only [locThread, spawnedStep, loads, null] at taken
        cases taken
        exact ⟨.inr rfl, lost.kept⟩
      · obtain ⟨refs, -, rfl⟩ := spawnedStep_inside inside taken
        exact ⟨lost.lost, lost.kept⟩

/-- The objects of a thread are deleted once when both sides have finished, and the
delegate is not used after that. -/
structure Released (σ : LocThreadDelegate) : Prop where
  alive : σ.refs.dangling = false
  delegate : σ.Finished → σ.refs.deleted = 1
  runnable : σ.Finished → σ.runnableDeleted = 1

theorem Sound.released (sound : σ.Sound) (found : σ.Found) : σ.Released where
  alive := sound.counted.alive
  delegate := sound.counted.deleted_once
  runnable finished := by
    have inside : σ.spawned = .destroys := by
      by_contra outside
      have holds := sound.spawned outside
      rw [finished .spawned] at holds
      cases holds
    rw [found.deleted, if_pos inside]

end LocThreadDelegate

/-- In a run in which the spawned thread reads `mRunnable` before the parent sets it to
NULL the two objects are deleted once, and the delegate is not used after that. The first
step that sets it to NULL too early leaves a runnable that is never deleted. -/
theorem thread_objects_released {joinable : Bool} {σ : LocThreadDelegate}
    (run : (locThread joinable).ReachableUnder ReadBeforeNull σ) :
    σ.Released ∧
      ∀ label after, (locThread joinable).step σ label = some after → ¬ ReadBeforeNull σ label →
        ∀ later, ((locThread joinable).startingAt after).Reachable later →
          later.runnableDeleted = 0 := by
  have kept : σ.Sound ∧ σ.Found := by
    apply run.invariant (fun σ => σ.Sound ∧ σ.Found)
    · rintro σ rfl
      exact ⟨LocThreadDelegate.created_sound, LocThreadDelegate.created_found⟩
    · intro before label after _ kept met taken
      exact ⟨kept.1.step taken, kept.2.step taken met⟩
  refine ⟨kept.1.released kept.2, fun label after taken broken later reached => ?_⟩
  have lost : later.Lost := by
    apply reached.invariant LocThreadDelegate.Lost
    · rintro later rfl
      exact kept.2.lost taken broken
    · intro before label after _ lost _ taken
      exact lost.step taken
  exact lost.kept

instance (σ : LocThreadDelegate) : Decidable σ.Finished :=
  inferInstanceAs (Decidable (∀ side, σ.refs.holding side = .done))

/-- A joinable thread that is stopped while its runnable runs. -/
theorem thread_objects_released_stopped :
    ∃ σ, (locThread true).execUnder ReadBeforeNull (.created true)
        (.replicate 4 (.parent true) ++ .replicate 4 (.spawned true) ++
          .replicate 6 (.parent true) ++ .replicate 11 (.spawned true) ++
            .replicate 8 (.parent true)) = some σ ∧
      σ.Finished ∧ σ.Released ∧
      ∀ label after, (locThread true).step σ label = some after → ¬ ReadBeforeNull σ label →
        ∀ later, ((locThread true).startingAt after).Reachable later →
          later.runnableDeleted = 0 := by
  apply System.execUnder_then rfl
  · intro σ run _
    exact thread_objects_released run
  · decide +kernel

/-- The parent stops the thread before it has read `mRunnable`, and the runnable is not
deleted. -/
theorem thread_runnable_leaked :
    ¬ ∀ joinable σ, (locThread joinable).Reachable σ → σ.Released := by
  intro released
  have first : (locThread true).initial (.created true) := rfl
  obtain ⟨σ, run, seen⟩ := System.reachable_of_exec first
    (.replicate 10 (.parent true) ++ .replicate 7 (.spawned true) ++ .replicate 8 (.parent true))
    (fun σ => decide (σ.Finished ∧ σ.runnableDeleted = 0)) (by decide +kernel)
  obtain ⟨finished, kept⟩ := of_decide_eq_true seen
  exact absurd (kept.symm.trans ((released true σ run).runnable finished)) Nat.zero_ne_one

end A5Common.Utils

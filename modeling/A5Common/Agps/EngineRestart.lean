import A5Common.Agps.Nifs

set_option autoImplicit false

namespace A5Common.Agps

open A5Common.Run

/-- Without subscribers the machine is released, and its next subscription asks
the framework for a connection. -/
def AgpsStateMachine.Fresh (m : AgpsStateMachine) : Prop :=
  m.mSubscribers = [] → m.mStatePtr = .released ∧
    ∀ s : Subscriber, s.kind ≠ .ds →
      requests (m.perform (.subscribeRsrc s)).out = [.requestAgpsDataConn]

theorem AgpsStateMachine.fresh_of_released {m : AgpsStateMachine}
    (released : m.mStatePtr = .released) : m.Fresh := by
  intro empty
  refine ⟨released, fun s _ => ?_⟩
  have coherent : m.Coherent := by
    unfold Coherent
    rw [released, empty]
    exact coherent_released
  have moved := coherent.transition (.subscribeRsrc s)
  rw [released] at moved
  generalize requests (m.perform (.subscribeRsrc s)).out = sent at moved ⊢
  generalize (m.perform (.subscribeRsrc s)).mStatePtr = after at moved
  cases moved with
  | stay ignored => cases ignored
  | request => rfl

namespace LocEng

/-- The two machines of the framework's connections. -/
def framework (σ : LocEng) : List AgpsStateMachine :=
  σ.agnss_nif.toList.map Nif.machine ++ σ.internet_nif.toList.map Nif.machine

theorem mem_framework {σ : LocEng} {m : AgpsStateMachine} :
    m ∈ σ.framework ↔ ∃ nif, (σ.agnss_nif = some nif ∨ σ.internet_nif = some nif) ∧
      nif.machine = m := by
  simp only [framework, List.mem_append, List.mem_map, Option.mem_toList, ← exists_or, or_and_right]

/-- A restart with the callbacks in place flushes both lists and does no more. -/
theorem framework_handleEngineUp {σ : LocEng} (set : σ.agps_status_cb = true) :
    σ.handleEngineUp.framework = σ.framework.map AgpsStateMachine.dropAllSubscribers := by
  simp only [handleEngineUp, set, if_true, framework, List.map_append]
  cases σ.agnss_nif <;> cases σ.internet_nif <;> rfl

/-- Without them it does nothing, and the machines have never been used. -/
theorem Sound.framework_unset {σ : LocEng} (sound : σ.Sound) (unset : σ.agps_status_cb = false) :
    σ.handleEngineUp = σ ∧ ∀ m ∈ σ.framework, m.mStatePtr = .released := by
  refine ⟨by simp [LocEng.handleEngineUp, unset], ?_⟩
  intro m member
  obtain ⟨nif, listed, rfl⟩ := mem_framework.mp member
  rcases listed with listed | listed
  · have kept := sound.agnss nif listed
    exact (kept.unused (kept.unset unset)).1
  · have kept := sound.internet nif listed
    exact (kept.unused (kept.unset unset)).1

end LocEng

/-- From every reachable state: the restart leaves both machines fresh exactly
if both were released when it came. -/
theorem handleEngineUp_fresh_iff {σ : LocEng} (run : locEng.Reachable σ) :
    (∀ m ∈ σ.handleEngineUp.framework, m.Fresh) ↔
      ∀ m ∈ σ.framework, m.mStatePtr = .released := by
  cases set : σ.agps_status_cb with
  | false =>
      obtain ⟨same, released⟩ := (locEng_sound run).framework_unset set
      rw [same]
      exact ⟨fun _ => released, fun _ m member =>
        AgpsStateMachine.fresh_of_released (released m member)⟩
  | true =>
      rw [LocEng.framework_handleEngineUp set]
      constructor
      · intro fresh m member
        exact (fresh m.dropAllSubscribers (List.mem_map_of_mem member) rfl).1
      · intro released dropped member
        obtain ⟨m, listed, rfl⟩ := List.mem_map.mp member
        have still : m.dropAllSubscribers.mStatePtr = .released := released m listed
        exact AgpsStateMachine.fresh_of_released still

/-- Two unused machines. -/
theorem handleEngineUp_fresh_unused :
    ∃ σ, locEng.exec ⟨false, none, none, none⟩
        [.agpsInit true, .createAgnssNifs true true false false] = some σ ∧
      ∀ m ∈ σ.handleEngineUp.framework, m.Fresh := by
  refine ⟨_, rfl, ?_⟩
  have run : locEng.Reachable _ := System.ReachableUnder.exec (.start rfl)
    [.agpsInit true, .createAgnssNifs true true false false] rfl
  exact (handleEngineUp_fresh_iff run).mpr (by decide)

/-- A restart in the middle of a session: the machine waits for the answer to a
request that the framework may have forgotten. -/
theorem handleEngineUp_orphan :
    ¬ ∀ σ, locEng.Reachable σ → ∀ m ∈ σ.handleEngineUp.framework, m.Fresh := by
  intro fresh
  let atl := Subscriber.atl 5 false (Vector.replicate 16 0)
  have start : locEng.initial ⟨false, none, none, none⟩ := rfl
  obtain ⟨σ, run, seen⟩ := System.reachable_of_exec start
    [.agpsInit true, .createAgnssNifs true true false false, .agnss (.subscribeRsrc atl)]
    (fun σ => σ.handleEngineUp.framework.any
      (fun m => m.mSubscribers == [] && m.mStatePtr == .pending)) (by decide)
  obtain ⟨m, member, orphan⟩ := List.any_eq_true.mp seen
  simp only [Bool.and_eq_true, beq_iff_eq] at orphan
  have released := (fresh σ run m member orphan.1).1
  rw [orphan.2] at released
  cases released

end A5Common.Agps

import A5Common.Ni.Steps

set_option autoImplicit false

namespace A5Common.Ni

open A5Common.Run

namespace LocEngNi

theorem Sound.setUp {σ : LocEngNi} (sound : σ.Sound) {here : Main} (at_here : σ.main = here)
    (settled : here.Settled) (after : Main)
    (same : ∀ sessions waiters, MainSound sessions waiters here → MainSound sessions waiters after)
    (kind : SessionKind) (respTimeLeft : Int) (reqID : BitVec 32) (asked : Option (BitVec 32)) :
    Sound { σ.write kind (fun s =>
      { s with respTimeLeft := respTimeLeft, reqID := reqID, asked := asked }) with
      main := after } := by
  have written := sound.writeAside kind respTimeLeft reqID asked
  have kept := written.main
  apply written.withMain at_here settled after
  apply same
  rw [← at_here]
  exact kept

/-- A request is saved in a session whose threads have gone. -/
theorem Sound.save {σ : LocEngNi} (sound : σ.Sound) {request : Request}
    (at_save : σ.main = .save request) (gone : ¬ Busy (waiting σ.threads) request.kind) :
    Sound { σ.write request.kind (fun s =>
      { s with rawRequest := request.passThrough, asked := none }) with
      main := .number request } := by
  have none : (σ.sessions request.kind).rawRequest = none := by
    have established := sound.main
    rw [at_save] at established
    exact established
  have ignored : (σ.sessions request.kind).respRecvd = true →
      (σ.sessions request.kind).resp = GPS_NI_RESPONSE_IGNORE := by
    intro received
    rcases (sound.sessions request.kind).quiet none received with ignored | busy | signal
    · exact ignored
    · exact absurd busy gone
    · rw [at_save] at signal
      cases signal
  refine ⟨?_, ?_, ?_, sound.held, sound.sent⟩
  · exact fun unset => absurd unset (sound.inited at_save Main.noConfusion)
  · intro kind
    by_cases same : kind = request.kind
    · subst same
      simp only [LocEngNi.write, Function.update_self]
      refine ⟨fun _ _ received => .inl (ignored received),
        fun _ received => .inl (ignored received), ?_⟩
      intro other waits
      exact absurd (List.mem_map_of_mem waits) gone
    · simp only [LocEngNi.write, Function.update_of_ne same]
      apply (sound.sessions kind).leave
      rw [at_save]
      exact Main.noConfusion
  · simp only [MainSound, LocEngNi.write, Function.update_self]
    exact ⟨trivial, gone⟩

theorem Sound.create {σ : LocEngNi} (sound : σ.Sound) {request : Request} {id : BitVec 32}
    (at_create : σ.main = .create request id) :
    Sound { σ with
      threads := ⟨request.kind, request.passThrough, .starting⟩ :: σ.threads
      main := .notify request id } where
  unset := fun unset => absurd unset (sound.inited at_create Main.noConfusion)
  sessions := by
    intro kind
    have before := sound.sessions kind
    refine ⟨before.owned, ?_, ?_⟩
    · intro none received
      rcases before.quiet none received with ignored | busy | signal
      · exact .inl ignored
      · exact .inr (.inl (List.mem_cons_of_mem _ busy))
      · rw [at_create] at signal
        cases signal
    · intro waiter member payload pending
      rcases List.mem_cons.mp member with created | waits
      · cases created
        have established := sound.main
        rw [at_create] at established
        exact established.1.symm.trans pending
      · exact before.thread waiter waits payload pending
  main := trivial
  held := by
    intro thread member msg carried
    rcases List.mem_cons.mp member with rfl | old
    · cases carried
    · exact sound.held thread old msg carried
  sent := sound.sent

theorem Sound.clear {σ : LocEngNi} (sound : σ.Sound) {kind : SessionKind}
    (at_clear : σ.main = .clear kind) :
    Sound { σ.write kind (fun s => { s with rawRequest := none }) with main := .signal kind } where
  unset := fun unset => absurd unset (sound.inited at_clear Main.noConfusion)
  sessions := by
    intro other
    by_cases same : other = kind
    · subst same
      simp only [LocEngNi.write, Function.update_self]
      exact ⟨fun _ pending => (by cases pending), fun _ _ => .inr (.inr rfl),
        fun _ _ _ pending => (by cases pending)⟩
    · simp only [LocEngNi.write, Function.update_of_ne same]
      apply (sound.sessions other).leave
      rw [at_clear]
      exact Main.noConfusion
  main := by
    simp only [MainSound, LocEngNi.write, Function.update_self]
  held := sound.held
  sent := sound.sent

theorem mainSound_afterReset (sessions : SessionKind → NiSession)
    (waiters : List (SessionKind × Option Nat)) (kind : SessionKind) :
    MainSound sessions waiters (afterReset kind) := by
  cases kind <;> trivial

theorem Sound.signal {σ : LocEngNi} (sound : σ.Sound) {kind : SessionKind}
    (at_signal : σ.main = .signal kind)
    (busy : Busy (waiting σ.threads) kind) :
    Sound { σ.write kind (fun s => { s with respRecvd := true }) with
      main := afterReset kind } where
  unset := fun unset => absurd unset (sound.inited at_signal Main.noConfusion)
  sessions := by
    have cleared : (σ.sessions kind).rawRequest = none := by
      have established := sound.main
      rw [at_signal] at established
      exact established
    intro other
    by_cases same : other = kind
    · subst same
      simp only [LocEngNi.write, Function.update_self]
      refine ⟨?_, fun _ _ => .inr (.inl busy), (sound.sessions other).thread⟩
      intro payload pending
      cases cleared.symm.trans pending
    · simp only [LocEngNi.write, Function.update_of_ne same]
      apply (sound.sessions other).leave
      rw [at_signal]
      intro impossible
      cases impossible
      exact same rfl
  main := mainSound_afterReset _ _ kind
  held := sound.held
  sent := sound.sent

theorem Sound.stepMain {σ τ : LocEngNi} (sound : σ.Sound) {created : Bool}
    (meets : σ.MainMeets σ.main) (taken : σ.stepMain created = some τ) : τ.Sound := by
  have established := sound.main
  cases stepMain_cases taken with
  | ignore here =>
      rcases here with main | main
      · exact (sound.withMain main trivial .idle trivial).aside _ _ _ _ _
      · exact (sound.withMain main trivial .idle trivial).aside _ _ _ _ _
  | @passSession request main unused =>
      apply sound.withMain main trivial (.checkEs request)
      exact fun _ => unused
  | @passEs request main unused =>
      rw [main] at established
      apply sound.withMain main trivial (.save request)
      cases kind : request.kind with
      | session =>
          simp only [MainSound, kind]
          exact established kind
      | sessionEs =>
          simp only [MainSound, kind]
          exact unused
  | save main =>
      rw [main] at meets
      exact sound.save main meets
  | @number request main =>
      have numbered := sound.setUp main trivial (.fill request) (fun _ _ kept => kept) request.kind
        (σ.sessions request.kind).respTimeLeft (σ.reqIDCounter + 1) (σ.sessions request.kind).asked
      exact numbered.aside _ _ _ _ _
  | @fill request main =>
      have filled := sound.setUp main trivial (.time request (σ.sessions request.kind).reqID)
        (fun _ _ kept => kept) request.kind (σ.sessions request.kind).respTimeLeft
        (σ.sessions request.kind).reqID (some (σ.sessions request.kind).reqID)
      exact filled.aside _ _ _ _ _
  | @time request id main respTimeLeft =>
      exact sound.setUp main trivial (.create request id) (fun _ _ kept => kept) request.kind
        respTimeLeft (σ.sessions request.kind).reqID (σ.sessions request.kind).asked
  | @create request id main =>
      cases created with
      | false => exact sound.withMain main trivial (.notify request id) trivial
      | true => exact sound.create main
  | notify main => exact (sound.withMain main trivial .idle trivial).aside _ _ _ _ _
  | @reset kind main => exact sound.withMain main trivial (.free kind) trivial
  | @skip kind main =>
      exact sound.withMain main trivial (afterReset kind) (mainSound_afterReset _ _ kind)
  | @free kind main => exact (sound.withMain main trivial (.clear kind) trivial).aside _ _ _ _ _
  | clear main => exact sound.clear main
  | signal main =>
      rw [main] at meets
      exact sound.signal main meets

theorem Sound.init {σ : LocEngNi} (sound : σ.Sound) (notify_cb : Bool) :
    (σ.init notify_cb).Sound := by
  unfold LocEngNi.init
  split
  · rename_i first
    simp only [Bool.and_eq_true, Bool.not_eq_true'] at first
    have idle := sound.unset first.2
    refine ⟨fun unset => (by cases unset), ?_, ?_, sound.held, sound.sent⟩
    · intro kind
      exact ⟨fun _ pending => (by cases pending), fun _ received => (by cases received),
        fun _ _ _ pending => (by cases pending)⟩
    · simp only [idle]
      trivial
  · exact sound

/-- A call is taken up by an idle message thread. -/
theorem Sound.begin {σ : LocEngNi} (sound : σ.Sound) (idle : σ.main = .idle)
    (set : σ.ni_notify_cb = true) {main : Main}
    (established : MainSound σ.sessions (waiting σ.threads) main) :
    Sound { σ with main := main } where
  unset := fun unset => absurd (set.symm.trans unset) (by decide)
  sessions := by
    intro kind
    apply (sound.sessions kind).leave
    rw [idle]
    exact Main.noConfusion
  main := established
  held := sound.held
  sent := sound.sent

theorem Sound.request {σ : LocEngNi} (sound : σ.Sound) (idle : σ.main = .idle)
    (kind : SessionKind) (privacyOverride : Bool) (timeout : Int) (passThrough : Bool) :
    (σ.request kind privacyOverride timeout passThrough).Sound := by
  have given := sound.aside σ.reqIDCounter σ.mute_session_state (σ.payloads + 1) σ.freed σ.notified
  unfold LocEngNi.request
  dsimp only
  split
  · rename_i set
    cases kind with
    | session => exact given.begin idle set trivial
    | sessionEs => exact given.begin idle set (fun other => (by cases other))
  · exact given

theorem sound_new : new.Sound where
  unset := fun _ => rfl
  sessions := fun _ => ⟨fun _ pending => (by cases pending), fun _ received => (by cases received),
    fun _ _ _ pending => (by cases pending)⟩
  main := trivial
  held := fun _ member => (by cases member)
  sent := fun _ member => (by cases member)

end LocEngNi

theorem ni_sound {σ : LocEngNi} (run : ni.ReachableUnder LocEngNi.undisturbed σ) : σ.Sound := by
  apply run.invariant LocEngNi.Sound
  · intro σ first
    rw [first]
    exact LocEngNi.sound_new
  · intro before label after _ sound meets taken
    cases label with
    | init notify_cb =>
        obtain rfl := Option.some.inj taken
        exact sound.init notify_cb
    | request kind privacyOverride timeout passThrough =>
        obtain ⟨idle, rfl⟩ := LocEngNi.request_cases taken
        exact sound.request idle kind privacyOverride timeout passThrough
    | restart =>
        obtain ⟨idle, rfl | ⟨set, rfl⟩⟩ := LocEngNi.restart_cases taken
        · exact sound
        · exact sound.begin idle set trivial
    | main created => exact sound.stepMain meets taken
    | respond notif_id user_response =>
        obtain ⟨responders, rfl⟩ := LocEngNi.respond_cases taken
        exact sound.withResponders responders
    | responder position => exact sound.stepResponder meets taken
    | thread position timedOut => exact sound.stepThread taken

/-- In every undisturbed run, what is sent to the modem for a request is the
answer to that request or its timeout. -/
theorem ni_own {σ : LocEngNi} (run : ni.ReachableUnder LocEngNi.undisturbed σ) :
    ∀ msg ∈ σ.sent, msg.Own :=
  (ni_sound run).sent

/-- A request that the user accepts. -/
theorem ni_own_accepted :
    ∃ σ, ni.execUnder LocEngNi.undisturbed .new
        ([.init true, .request .session false 0 true] ++ List.replicate 8 (.main true) ++
          [.thread 0 false, .respond 1 GPS_NI_RESPONSE_ACCEPT] ++
          List.replicate 4 (.responder 0) ++ List.replicate 4 (.thread 0 false)) = some σ ∧
      σ.sent.map LocEngInformNiResponse.mResponse = [GPS_NI_RESPONSE_ACCEPT] ∧
      ∀ msg ∈ σ.sent, msg.Own := by
  apply System.execUnder_then rfl
  · intro σ run _
    exact ni_own run
  · decide +kernel

open LocEngNi.Label

/-- The user accepts a request as it times out: the thread is gone when the
answer is written, and it is sent for the next request before that is answered. -/
theorem ni_stale_consent :
    ¬ ∀ σ, ni.Reachable σ → ∀ msg ∈ σ.sent, msg.Own := by
  intro own
  have start : ni.initial .new := rfl
  obtain ⟨σ, run, seen⟩ := System.reachable_of_exec start
    ([init true, request .session false 0 true] ++ List.replicate 8 (main true) ++
      [thread 0 false, respond 1 GPS_NI_RESPONSE_ACCEPT] ++ List.replicate 3 (responder 0) ++
      List.replicate 4 (thread 0 true) ++
      [responder 0, request .session false 0 true] ++ List.replicate 8 (main true) ++
      List.replicate 4 (thread 0 false))
    (fun σ => σ.sent.any (fun msg => decide (¬ msg.Own))) (by decide +kernel)
  obtain ⟨msg, member, stale⟩ := List.any_eq_true.mp seen
  exact of_decide_eq_true stale (own σ run msg member)

end A5Common.Ni

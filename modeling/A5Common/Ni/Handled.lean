import A5Common.Ni.Steps

set_option autoImplicit false

namespace A5Common.Ni

open A5Common.Run

/-- The payload of the request in hand is its own, and stays with its session. -/
structure MainHandled (sessions : SessionKind → NiSession) (payloads : Nat) (main : Main) :
    Prop where
  fresh : ∀ request, main.unsaved = some request → ∀ payload, request.passThrough = some payload →
    payload < payloads ∧ ∀ kind, (sessions kind).rawRequest ≠ some payload
  unusedSession : ∀ request, main = .checkEs request → request.kind = .session →
    (sessions .session).rawRequest = none
  unused : ∀ request, main = .save request → (sessions request.kind).rawRequest = none
  saved : ∀ request, main.saved = some request → ∀ payload,
    (sessions request.kind).rawRequest = some payload → request.passThrough = some payload
  apart : ∀ request, main.saved = some request → ∀ payload, request.passThrough = some payload →
    payload < payloads ∧ ∀ kind, kind ≠ request.kind → (sessions kind).rawRequest ≠ some payload

/-- The payloads at hand have been given, and only a request after `loc_eng_ni_init`
is handled. -/
structure LocEngNi.Handled (σ : LocEngNi) : Prop where
  unset : σ.ni_notify_cb = false →
    σ.main = .idle ∧ ∀ kind, (σ.sessions kind).rawRequest = none
  older : ∀ kind payload, (σ.sessions kind).rawRequest = some payload → payload < σ.payloads
  main : MainHandled σ.sessions σ.payloads σ.main

theorem MainHandled.quiet (sessions : SessionKind → NiSession) (payloads : Nat) {main : Main}
    (unsaved : main.unsaved = none) (saved : main.saved = none) :
    MainHandled sessions payloads main where
  fresh := by
    intro request here
    rw [unsaved] at here
    cases here
  unusedSession := by
    rintro request rfl
    cases unsaved
  unused := by
    rintro request rfl
    cases unsaved
  saved := by
    intro request here
    rw [saved] at here
    cases here
  apart := by
    intro request here
    rw [saved] at here
    cases here

/-- The handler goes on to check for a request that it has not saved. -/
theorem MainHandled.check {sessions : SessionKind → NiSession} {payloads : Nat} {main after : Main}
    (handled : MainHandled sessions payloads main) {request : Request}
    (before : main.unsaved = some request) (next : after.unsaved = some request)
    (saved : after.saved = none)
    (unusedSession : after = .checkEs request → request.kind = .session →
      (sessions .session).rawRequest = none)
    (unused : after = .save request → (sessions request.kind).rawRequest = none) :
    MainHandled sessions payloads after where
  fresh := by
    intro other here
    rw [next, ← before] at here
    exact handled.fresh other here
  unusedSession := by
    rintro other rfl
    cases next
    exact unusedSession rfl
  unused := by
    rintro other rfl
    cases next
    exact unused rfl
  saved := by
    intro other here
    rw [saved] at here
    cases here
  apart := by
    intro other here
    rw [saved] at here
    cases here

/-- The handler goes on with the request that it has saved. -/
theorem MainHandled.goOn {sessions : SessionKind → NiSession} {payloads : Nat} {main after : Main}
    (handled : MainHandled sessions payloads main) {request : Request}
    (before : main.saved = some request) (next : after.saved = some request)
    (unsaved : after.unsaved = none) : MainHandled sessions payloads after where
  fresh := by
    intro other here
    rw [unsaved] at here
    cases here
  unusedSession := by
    rintro other rfl
    cases unsaved
  unused := by
    rintro other rfl
    cases unsaved
  saved := by
    intro other here
    rw [next, ← before] at here
    exact handled.saved other here
  apart := by
    intro other here
    rw [next, ← before] at here
    exact handled.apart other here

/-- Pending requests that are kept, or taken away. -/
theorem MainHandled.release {sessions after : SessionKind → NiSession} {payloads : Nat}
    {main : Main} (handled : MainHandled sessions payloads main)
    (kept : ∀ kind, (after kind).rawRequest = (sessions kind).rawRequest ∨
      (after kind).rawRequest = none) : MainHandled after payloads main := by
  have none : ∀ kind, (sessions kind).rawRequest = none → (after kind).rawRequest = none := by
    intro kind before
    rcases kept kind with same | cleared
    · rw [same, before]
    · exact cleared
  have some : ∀ kind payload, (after kind).rawRequest = some payload →
      (sessions kind).rawRequest = some payload := by
    intro kind payload pending
    rcases kept kind with same | cleared
    · rw [← same, pending]
    · rw [cleared] at pending
      cases pending
  refine ⟨?_, ?_, ?_, ?_, ?_⟩
  · intro request here payload own
    have fresh := handled.fresh request here payload own
    exact ⟨fresh.1, fun kind pending => fresh.2 kind (some kind payload pending)⟩
  · intro request here same
    exact none _ (handled.unusedSession request here same)
  · intro request here
    exact none _ (handled.unused request here)
  · intro request here payload pending
    exact handled.saved request here payload (some _ payload pending)
  · intro request here payload own
    have apart := handled.apart request here payload own
    exact ⟨apart.1, fun kind other pending => apart.2 kind other (some kind payload pending)⟩

namespace LocEngNi

theorem Handled.moved {σ τ : LocEngNi} (handled : σ.Handled)
    (cb : τ.ni_notify_cb = σ.ni_notify_cb) (payloads : τ.payloads = σ.payloads)
    (kept : ∀ kind, (τ.sessions kind).rawRequest = (σ.sessions kind).rawRequest ∨
      (τ.sessions kind).rawRequest = none)
    (idle : σ.main = .idle → τ.main = .idle)
    (main : MainHandled σ.sessions σ.payloads τ.main) : τ.Handled where
  unset := by
    intro unset
    rw [cb] at unset
    have before := handled.unset unset
    refine ⟨idle before.1, ?_⟩
    intro kind
    rcases kept kind with same | cleared
    · rw [same, before.2 kind]
    · exact cleared
  older := by
    intro kind payload pending
    rw [payloads]
    rcases kept kind with same | cleared
    · rw [same] at pending
      exact handled.older kind payload pending
    · rw [cleared] at pending
      cases pending
  main := by
    rw [payloads]
    exact main.release kept

/-- A change of a session that keeps its pending request. -/
theorem update_same {sessions : SessionKind → NiSession} {kind : SessionKind} {s : NiSession}
    (kept : s.rawRequest = (sessions kind).rawRequest) (other : SessionKind) :
    (Function.update sessions kind s other).rawRequest = (sessions other).rawRequest := by
  by_cases same : other = kind
  · subst same
    rw [Function.update_self, kept]
  · rw [Function.update_of_ne same]

theorem update_kept {sessions : SessionKind → NiSession} {kind : SessionKind} {s : NiSession}
    (kept : s.rawRequest = (sessions kind).rawRequest) (other : SessionKind) :
    (Function.update sessions kind s other).rawRequest = (sessions other).rawRequest ∨
      (Function.update sessions kind s other).rawRequest = none :=
  .inl (update_same kept other)

theorem update_cleared {sessions : SessionKind → NiSession} {kind : SessionKind} {s : NiSession}
    (cleared : s.rawRequest = none) (other : SessionKind) :
    (Function.update sessions kind s other).rawRequest = (sessions other).rawRequest ∨
      (Function.update sessions kind s other).rawRequest = none := by
  by_cases same : other = kind
  · subst same
    rw [Function.update_self]
    exact .inr cleared
  · rw [Function.update_of_ne same]
    exact .inl rfl

/-- A request is saved in a session that has none. -/
theorem Handled.save {σ : LocEngNi} (handled : σ.Handled) {request : Request}
    (here : σ.main = .save request) :
    Handled { σ with
      sessions := Function.update σ.sessions request.kind
        { σ.sessions request.kind with rawRequest := request.passThrough, asked := none }
      main := .number request } := by
  have main := handled.main
  rw [here] at main
  have fresh := main.fresh request rfl
  refine ⟨?_, ?_, ?_, ?_, ?_, ?_, ?_⟩
  · intro unset
    have idle := (handled.unset unset).1
    rw [here] at idle
    cases idle
  · intro kind payload pending
    by_cases same : kind = request.kind
    · subst same
      simp only [Function.update_self] at pending
      exact (fresh payload pending).1
    · simp only [Function.update_of_ne same] at pending
      exact handled.older kind payload pending
  · intro other unsaved
    cases unsaved
  · intro other elsewhere
    cases elsewhere
  · intro other elsewhere
    cases elsewhere
  · rintro other ⟨⟩ payload pending
    simp only [Function.update_self] at pending
    exact pending
  · rintro other ⟨⟩ payload own
    refine ⟨(fresh payload own).1, ?_⟩
    intro kind apart
    simp only [Function.update_of_ne apart]
    exact (fresh payload own).2 kind

theorem afterReset_quiet (kind : SessionKind) :
    (afterReset kind).unsaved = none ∧ (afterReset kind).saved = none := by
  cases kind <;> exact ⟨rfl, rfl⟩

theorem Handled.stepMain {σ τ : LocEngNi} {created : Bool} (handled : σ.Handled)
    (step : σ.MainStep created τ) : τ.Handled := by
  have main := handled.main
  have busy : ∀ {here : Main}, σ.main = here → here ≠ .idle → σ.main = .idle → τ.main = .idle :=
    fun here working idle => absurd (here.symm.trans idle) working
  cases step with
  | ignore here =>
      exact handled.moved rfl rfl (fun _ => .inl rfl) (fun _ => rfl) (.quiet _ _ rfl rfl)
  | passSession here unused =>
      rw [here] at main
      refine handled.moved rfl rfl (fun _ => .inl rfl) (busy here Main.noConfusion) ?_
      exact main.check rfl rfl rfl (fun _ _ => unused) Main.noConfusion
  | @passEs request here unused =>
      rw [here] at main
      refine handled.moved rfl rfl (fun _ => .inl rfl) (busy here Main.noConfusion) ?_
      apply main.check rfl rfl rfl Main.noConfusion
      intro _
      cases kind : request.kind with
      | session => exact main.unusedSession request rfl kind
      | sessionEs => exact unused
  | save here => exact handled.save here
  | number here =>
      rw [here] at main
      refine handled.moved rfl rfl ?_ (busy here Main.noConfusion) ?_
      · apply update_kept
        rfl
      · exact main.goOn rfl rfl rfl
  | fill here =>
      rw [here] at main
      refine handled.moved rfl rfl ?_ (busy here Main.noConfusion) ?_
      · apply update_kept
        rfl
      · exact main.goOn rfl rfl rfl
  | time here respTimeLeft =>
      rw [here] at main
      refine handled.moved rfl rfl ?_ (busy here Main.noConfusion) ?_
      · apply update_kept
        rfl
      · exact main.goOn rfl rfl rfl
  | create here =>
      rw [here] at main
      refine handled.moved rfl rfl (fun _ => .inl rfl) (busy here Main.noConfusion) ?_
      · exact main.goOn rfl rfl rfl
  | notify here =>
      exact handled.moved rfl rfl (fun _ => .inl rfl) (fun _ => rfl) (.quiet _ _ rfl rfl)
  | reset here =>
      refine handled.moved rfl rfl (fun _ => .inl rfl) (busy here Main.noConfusion) ?_
      exact .quiet _ _ rfl rfl
  | @skip kind here =>
      refine handled.moved rfl rfl (fun _ => .inl rfl) (busy here Main.noConfusion) ?_
      · exact .quiet _ _ (afterReset_quiet kind).1 (afterReset_quiet kind).2
  | free here =>
      refine handled.moved rfl rfl (fun _ => .inl rfl) (busy here Main.noConfusion) ?_
      exact .quiet _ _ rfl rfl
  | clear here =>
      refine handled.moved rfl rfl ?_ (busy here Main.noConfusion) ?_
      · apply update_cleared
        rfl
      · exact .quiet _ _ rfl rfl
  | @signal kind here =>
      refine handled.moved rfl rfl ?_ (busy here Main.noConfusion) ?_
      · apply update_kept
        rfl
      · exact .quiet _ _ (afterReset_quiet kind).1 (afterReset_quiet kind).2

/-- A step of a thread keeps the pending requests, or takes that of its session. -/
theorem ThreadStep.kept {σ after : LocEngNi} {timedOut : Bool} {thread : NiThread}
    {next : Option NiThread} (step : σ.ThreadStep timedOut thread next after) :
    ∀ kind, (after.sessions kind).rawRequest = (σ.sessions kind).rawRequest ∨
      (after.sessions kind).rawRequest = none := by
  cases step with
  | wait | send => exact fun _ => .inl rfl
  | finish waits ends cleared numbered disposed => exact update_cleared cleared
  | clearTime | clearId =>
      apply update_kept
      rfl

theorem ThreadStep.main {σ after : LocEngNi} {timedOut : Bool} {thread : NiThread}
    {next : Option NiThread} (step : σ.ThreadStep timedOut thread next after) :
    after.ni_notify_cb = σ.ni_notify_cb ∧ after.payloads = σ.payloads ∧ after.main = σ.main ∧
      after.notified = σ.notified := by
  cases step <;> exact ⟨rfl, rfl, rfl, rfl⟩

theorem Handled.stepThread {σ τ : LocEngNi} {position : Nat} {timedOut : Bool}
    (handled : σ.Handled) (taken : σ.stepThread position timedOut = some τ) : τ.Handled := by
  obtain ⟨thread, rest, next, after, -, -, step, rfl⟩ := stepThread_cases taken
  obtain ⟨cb, payloads, main, -⟩ := step.main
  refine handled.moved cb payloads step.kept main.trans ?_
  rw [main]
  exact handled.main

theorem Handled.init {σ : LocEngNi} (handled : σ.Handled) (notify_cb : Bool) :
    (σ.init notify_cb).Handled := by
  unfold LocEngNi.init
  split
  · rename_i first
    simp only [Bool.and_eq_true, Bool.not_eq_true'] at first
    have idle := (handled.unset first.2).1
    refine ⟨fun unset => (by cases unset), fun _ _ pending => (by cases pending), ?_⟩
    apply MainHandled.quiet
    · rw [idle]
      rfl
    · rw [idle]
      rfl
  · exact handled

theorem Handled.request {σ : LocEngNi} (handled : σ.Handled) (kind : SessionKind)
    (privacyOverride : Bool) (timeout : Int) (passThrough : Bool) (idle : σ.main = .idle) :
    (σ.request kind privacyOverride timeout passThrough).Handled := by
  have older : ∀ kind payload, (σ.sessions kind).rawRequest = some payload →
      payload < σ.payloads + 1 := by
    intro kind payload pending
    have before := handled.older kind payload pending
    omega
  have fresh : ∀ payload, (if passThrough then some σ.payloads else none) = some payload →
      payload < σ.payloads + 1 ∧ ∀ kind, (σ.sessions kind).rawRequest ≠ some payload := by
    intro payload own
    split at own
    · obtain rfl := Option.some.inj own
      refine ⟨by omega, fun kind pending => ?_⟩
      have before := handled.older kind _ pending
      omega
    · cases own
  unfold LocEngNi.request
  dsimp only
  split
  · rename_i set
    have working : σ.ni_notify_cb ≠ false := by
      rw [set]
      decide
    cases kind with
    | session =>
        refine ⟨fun unset => absurd unset working, older, ?_, nofun, nofun, nofun, nofun⟩
        rintro request ⟨⟩
        exact fresh
    | sessionEs =>
        refine ⟨fun unset => absurd unset working, older, ?_, ?_, nofun, nofun, nofun⟩
        · rintro request ⟨⟩
          exact fresh
        · rintro request ⟨⟩ other
          cases other
  · refine ⟨handled.unset, older, ?_⟩
    apply MainHandled.quiet
    · rw [idle]
      rfl
    · rw [idle]
      rfl

theorem handled_new : new.Handled :=
  ⟨fun _ => ⟨rfl, fun _ => rfl⟩, nofun, .quiet _ _ rfl rfl⟩

end LocEngNi

theorem ni_handled {σ : LocEngNi} (run : ni.Reachable σ) : σ.Handled := by
  apply run.invariant LocEngNi.Handled
  · intro σ first
    rw [first]
    exact LocEngNi.handled_new
  · intro before label after _ handled _ taken
    cases label with
    | init notify_cb =>
        obtain rfl := Option.some.inj taken
        exact handled.init notify_cb
    | request kind privacyOverride timeout passThrough =>
        obtain ⟨idle, rfl⟩ := LocEngNi.request_cases taken
        exact handled.request kind privacyOverride timeout passThrough idle
    | restart =>
        obtain ⟨-, rfl | ⟨set, rfl⟩⟩ := LocEngNi.restart_cases taken
        · exact handled
        · refine ⟨?_, handled.older, .quiet _ _ rfl rfl⟩
          intro unset
          cases set.symm.trans unset
    | main created => exact handled.stepMain (LocEngNi.stepMain_cases taken)
    | respond notif_id user_response =>
        obtain ⟨responders, rfl⟩ := LocEngNi.respond_cases taken
        exact ⟨handled.unset, handled.older, handled.main⟩
    | responder position =>
        obtain ⟨sessions, responders, rfl, kept⟩ := LocEngNi.stepResponder_cases taken
        exact handled.moved rfl rfl (fun kind => .inl (kept kind).1) id handled.main
    | thread position timedOut => exact handled.stepThread taken

end A5Common.Ni

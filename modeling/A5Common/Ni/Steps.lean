import A5Common.Ni.Threads

set_option autoImplicit false

namespace A5Common.Ni

open A5Common.Run

/-- The request that the message thread has in hand and has not saved yet. -/
def Main.unsaved : Main → Option Request
  | .checkSession request | .checkEs request | .save request => some request
  | .idle | .number _ | .fill _ | .time .. | .create .. | .notify .. | .check _ | .free _
  | .clear _ | .signal _ => none

/-- The request that the message thread has saved and is still setting up. -/
def Main.saved : Main → Option Request
  | .number request | .fill request | .time request _ | .create request _
  | .notify request _ => some request
  | .idle | .checkSession _ | .checkEs _ | .save _ | .check _ | .free _ | .clear _
  | .signal _ => none

/-- The session whose payload a reset has freed and not cleared yet. -/
def Main.freed : Main → Option SessionKind
  | .clear kind => some kind
  | .idle | .checkSession _ | .checkEs _ | .save _ | .number _ | .fill _ | .time .. | .create ..
  | .notify .. | .check _ | .free _ | .signal _ => none

namespace LocEngNi

/-- What one access of the message thread does. -/
inductive MainStep (σ : LocEngNi) (created : Bool) : LocEngNi → Prop
  | ignore {request : Request}
      (here : σ.main = .checkSession request ∨ σ.main = .checkEs request) :
      MainStep σ created (σ.ignoreRequest request)
  | passSession {request : Request} (here : σ.main = .checkSession request)
      (unused : (σ.sessions .session).rawRequest = none) :
      MainStep σ created { σ with main := .checkEs request }
  | passEs {request : Request} (here : σ.main = .checkEs request)
      (unused : (σ.sessions .sessionEs).rawRequest = none) :
      MainStep σ created { σ with main := .save request }
  | save {request : Request} (here : σ.main = .save request) :
      MainStep σ created { σ with
        sessions := Function.update σ.sessions request.kind
          { σ.sessions request.kind with rawRequest := request.passThrough, asked := none }
        main := .number request }
  | number {request : Request} (here : σ.main = .number request) :
      MainStep σ created { σ with
        sessions := Function.update σ.sessions request.kind
          { σ.sessions request.kind with reqID := σ.reqIDCounter + 1 }
        reqIDCounter := σ.reqIDCounter + 1
        main := .fill request }
  | fill {request : Request} (here : σ.main = .fill request) :
      MainStep σ created { σ with
        sessions := Function.update σ.sessions request.kind
          { σ.sessions request.kind with asked := some (σ.sessions request.kind).reqID }
        mute_session_state := σ.mute_session_state || request.privacyOverride
        main := .time request (σ.sessions request.kind).reqID }
  | time {request : Request} {id : BitVec 32} (here : σ.main = .time request id)
      (respTimeLeft : Int) :
      MainStep σ created { σ with
        sessions := Function.update σ.sessions request.kind
          { σ.sessions request.kind with respTimeLeft := respTimeLeft }
        main := .create request id }
  | create {request : Request} {id : BitVec 32} (here : σ.main = .create request id) :
      MainStep σ created { σ with
        threads := if created then ⟨request.kind, request.passThrough, .starting⟩ :: σ.threads
          else σ.threads
        main := .notify request id }
  | notify {request : Request} {id : BitVec 32} (here : σ.main = .notify request id) :
      MainStep σ created
        { σ with notified := σ.notified ++ [(request.passThrough, id)], main := .idle }
  | reset {kind : SessionKind} (here : σ.main = .check kind) :
      MainStep σ created { σ with main := .free kind }
  | skip {kind : SessionKind} (here : σ.main = .check kind) :
      MainStep σ created { σ with main := afterReset kind }
  | free {kind : SessionKind} (here : σ.main = .free kind) :
      MainStep σ created { σ with
        freed := σ.freed ++ (σ.sessions kind).rawRequest.toList
        main := .clear kind }
  | clear {kind : SessionKind} (here : σ.main = .clear kind) :
      MainStep σ created { σ with
        sessions := Function.update σ.sessions kind { σ.sessions kind with rawRequest := none }
        main := .signal kind }
  | signal {kind : SessionKind} (here : σ.main = .signal kind) :
      MainStep σ created { σ with
        sessions := Function.update σ.sessions kind { σ.sessions kind with respRecvd := true }
        main := afterReset kind }

theorem stepMain_cases {σ τ : LocEngNi} {created : Bool}
    (taken : σ.stepMain created = some τ) : σ.MainStep created τ := by
  unfold LocEngNi.stepMain at taken
  cases main : σ.main with
  | idle =>
      rw [main] at taken
      cases taken
  | checkSession request =>
      simp only [main] at taken
      split at taken
      · obtain rfl := Option.some.inj taken
        exact .ignore (.inl main)
      · rename_i unused
        obtain rfl := Option.some.inj taken
        exact .passSession main (Option.not_isSome_iff_eq_none.mp unused)
  | checkEs request =>
      simp only [main] at taken
      split at taken
      · obtain rfl := Option.some.inj taken
        exact .ignore (.inr main)
      · rename_i unused
        obtain rfl := Option.some.inj taken
        exact .passEs main (Option.not_isSome_iff_eq_none.mp unused)
  | check kind =>
      simp only [main] at taken
      split at taken
      · obtain rfl := Option.some.inj taken
        exact .reset main
      · obtain rfl := Option.some.inj taken
        exact .skip main
  | save request =>
      simp only [main] at taken
      obtain rfl := Option.some.inj taken
      exact .save main
  | number request =>
      simp only [main] at taken
      obtain rfl := Option.some.inj taken
      exact .number main
  | fill request =>
      simp only [main] at taken
      obtain rfl := Option.some.inj taken
      exact .fill main
  | time request id =>
      simp only [main] at taken
      obtain rfl := Option.some.inj taken
      exact .time main _
  | create request id =>
      simp only [main] at taken
      obtain rfl := Option.some.inj taken
      exact .create main
  | notify request id =>
      simp only [main] at taken
      obtain rfl := Option.some.inj taken
      exact .notify main
  | free kind =>
      simp only [main] at taken
      obtain rfl := Option.some.inj taken
      exact .free main
  | clear kind =>
      simp only [main] at taken
      obtain rfl := Option.some.inj taken
      exact .clear main
  | signal kind =>
      simp only [main] at taken
      obtain rfl := Option.some.inj taken
      exact .signal main

/-- The access of the thread ends its locked section. -/
def Ends (σ : LocEngNi) (timedOut : Bool) (thread : NiThread) : Prop :=
  match thread.point with
  | .starting => (σ.sessions thread.kind).respRecvd = true
  | .waiting => timedOut = true ∨ (σ.sessions thread.kind).respRecvd = true
  | .clearTime _ | .clearId _ | .sending _ => False

instance (σ : LocEngNi) (timedOut : Bool) (thread : NiThread) :
    Decidable (σ.Ends timedOut thread) :=
  match thread with
  | ⟨kind, _, .starting⟩ => inferInstanceAs (Decidable ((σ.sessions kind).respRecvd = true))
  | ⟨kind, _, .waiting⟩ =>
      inferInstanceAs (Decidable (timedOut = true ∨ (σ.sessions kind).respRecvd = true))
  | ⟨_, _, .clearTime _⟩ | ⟨_, _, .clearId _⟩ | ⟨_, _, .sending _⟩ =>
      inferInstanceAs (Decidable False)

/-- What one access of a thread does, with what is left of the thread. At the end
of the locked section the payload is freed or goes into the message. -/
inductive ThreadStep (σ : LocEngNi) (timedOut : Bool) (thread : NiThread) :
    Option NiThread → LocEngNi → Prop
  | wait (waits : thread.waits = some (thread.kind, thread.request)) :
      ThreadStep σ timedOut thread (some { thread with point := .waiting }) σ
  | finish (waits : thread.waits = some (thread.kind, thread.request))
      (ends : σ.Ends timedOut thread) {s : NiSession}
      {msg : Option LocEngInformNiResponse} {freed : List Nat}
      (cleared : s.rawRequest = none) (numbered : s.reqID = (σ.sessions thread.kind).reqID)
      (disposed : msg = none ∧ freed = σ.freed ++ (σ.sessions thread.kind).rawRequest.toList ∨
        msg.map LocEngInformNiResponse.mPayload = (σ.sessions thread.kind).rawRequest ∧
          freed = σ.freed) :
      ThreadStep σ timedOut thread (some { thread with point := .clearTime msg })
        { σ with sessions := Function.update σ.sessions thread.kind s, freed := freed }
  | clearTime {msg : Option LocEngInformNiResponse} (here : thread.point = .clearTime msg) :
      ThreadStep σ timedOut thread (some { thread with point := .clearId msg })
        { σ with
          sessions := Function.update σ.sessions thread.kind
            { σ.sessions thread.kind with respTimeLeft := 0 } }
  | clearId {msg : Option LocEngInformNiResponse} (here : thread.point = .clearId msg) :
      ThreadStep σ timedOut thread
        (msg.map (fun msg => { thread with point := .sending msg }))
        { σ with
          sessions := Function.update σ.sessions thread.kind
            { σ.sessions thread.kind with reqID := 0 } }
  | send {msg : LocEngInformNiResponse} (here : thread.point = .sending msg) :
      ThreadStep σ timedOut thread none { σ with sent := σ.sent ++ [msg] }

/-- Two writes to one session. -/
theorem write_write (kind : SessionKind) (first second : NiSession → NiSession) (σ : LocEngNi) :
    (σ.write kind first).write kind second =
      σ.write kind (fun _ => second (first (σ.sessions kind))) := by
  simp only [LocEngNi.write, Function.update_self, Function.update_idem]

theorem write_id (kind : SessionKind) (σ : LocEngNi) : σ.write kind id = σ := by
  simp only [LocEngNi.write, id, Function.update_eq_self]

/-- The end of the locked section, after a write that leaves the pending request. -/
theorem ThreadStep.ofFinish {σ : LocEngNi} {timedOut : Bool} {thread : NiThread}
    (waits : thread.waits = some (thread.kind, thread.request))
    (ends : σ.Ends timedOut thread) {change : NiSession → NiSession}
    (kept : (change (σ.sessions thread.kind)).rawRequest = (σ.sessions thread.kind).rawRequest)
    (numbered : (change (σ.sessions thread.kind)).reqID = (σ.sessions thread.kind).reqID) :
    σ.ThreadStep timedOut thread
      (some { thread with
        point := .clearTime ((σ.write thread.kind change).finish thread.kind).1 })
      ((σ.write thread.kind change).finish thread.kind).2 := by
  have here : (σ.write thread.kind change).sessions thread.kind =
      change (σ.sessions thread.kind) := Function.update_self ..
  unfold LocEngNi.finish
  dsimp only
  rw [here, write_write]
  split
  · refine .finish waits ends rfl numbered (.inl ⟨rfl, ?_⟩)
    rw [kept]
    rfl
  · refine .finish waits ends rfl numbered (.inr ⟨?_, rfl⟩)
    rw [← kept, Option.map_map]
    exact Option.map_id_apply

theorem ThreadStep.ofFinishNow {σ : LocEngNi} {timedOut : Bool} {thread : NiThread}
    (waits : thread.waits = some (thread.kind, thread.request))
    (ends : σ.Ends timedOut thread) :
    σ.ThreadStep timedOut thread
      (some { thread with point := .clearTime (σ.finish thread.kind).1 })
      (σ.finish thread.kind).2 := by
  have step : σ.ThreadStep timedOut thread
      (some { thread with
        point := .clearTime ((σ.write thread.kind id).finish thread.kind).1 })
      ((σ.write thread.kind id).finish thread.kind).2 := .ofFinish waits ends rfl rfl
  rw [write_id] at step
  exact step

theorem niThreadProc_cases (σ : LocEngNi) (timedOut : Bool) (thread : NiThread) :
    σ.ThreadStep timedOut thread (σ.niThreadProc timedOut thread).1
      (σ.niThreadProc timedOut thread).2 := by
  obtain ⟨kind, request, point⟩ := thread
  cases point with
  | starting =>
      unfold LocEngNi.niThreadProc
      dsimp only
      split
      · rename_i received
        have ends : σ.Ends timedOut ⟨kind, request, .starting⟩ := received
        exact .ofFinishNow rfl ends
      · exact .wait rfl
  | waiting =>
      unfold LocEngNi.niThreadProc
      dsimp only
      split
      · rename_i out
        have ends : σ.Ends timedOut ⟨kind, request, .waiting⟩ := Or.inl out
        exact .ofFinish rfl ends rfl rfl
      · split
        · rename_i received
          have ends : σ.Ends timedOut ⟨kind, request, .waiting⟩ := Or.inr received
          exact .ofFinishNow rfl ends
        · exact .wait rfl
  | clearTime msg => exact .clearTime rfl
  | clearId msg => exact .clearId rfl
  | sending msg => exact .send rfl

theorem stepThread_cases {σ τ : LocEngNi} {position : Nat} {timedOut : Bool}
    (taken : σ.stepThread position timedOut = some τ) :
    ∃ thread rest next after, σ.threads[position]? = some thread ∧
      σ.threads.Perm (thread :: rest) ∧ σ.ThreadStep timedOut thread next after ∧
      τ = { after with threads := next.toList ++ rest } := by
  obtain ⟨thread, found, rfl⟩ := Option.map_eq_some_iff.mp taken
  exact ⟨thread, _, _, _, found, perm_of_getElem? found, σ.niThreadProc_cases timedOut thread, rfl⟩

/-- A write that keeps the pending request and its id keeps those of all sessions. -/
theorem write_keeps {σ : LocEngNi} {kind : SessionKind} {change : NiSession → NiSession}
    (kept : ∀ s, (change s).rawRequest = s.rawRequest ∧ (change s).reqID = s.reqID)
    (other : SessionKind) :
    ((σ.write kind change).sessions other).rawRequest = (σ.sessions other).rawRequest ∧
      ((σ.write kind change).sessions other).reqID = (σ.sessions other).reqID := by
  by_cases same : other = kind
  · subst same
    simp only [LocEngNi.write, Function.update_self]
    exact kept _
  · simp only [LocEngNi.write, Function.update_of_ne same, and_self]

/-- A request is taken up when the message thread is free. -/
theorem request_cases {σ τ : LocEngNi} {kind : SessionKind} {privacyOverride : Bool}
    {timeout : Int} {passThrough : Bool}
    (taken : σ.step (.request kind privacyOverride timeout passThrough) = some τ) :
    σ.main = .idle ∧ σ.request kind privacyOverride timeout passThrough = τ := by
  unfold LocEngNi.step at taken
  dsimp only at taken
  split at taken
  · rename_i idle
    exact ⟨idle, Option.some.inj taken⟩
  · cases taken

/-- A restart is taken up when the message thread is free, and does nothing before `init`. -/
theorem restart_cases {σ τ : LocEngNi} (taken : σ.step .restart = some τ) :
    σ.main = .idle ∧
      (σ = τ ∨ σ.ni_notify_cb = true ∧ { σ with main := .check .sessionEs } = τ) := by
  unfold LocEngNi.step at taken
  dsimp only at taken
  split at taken
  · rename_i idle
    refine ⟨idle, ?_⟩
    obtain rfl := Option.some.inj taken
    split
    · rename_i set
      exact .inr ⟨set, rfl⟩
    · exact .inl rfl
  · cases taken

/-- An answer of the user is left to a thread of its own. -/
theorem respond_cases {σ τ : LocEngNi} {notif_id : BitVec 32}
    {user_response : GpsUserResponseType} (taken : σ.step (.respond notif_id user_response) = some τ) :
    ∃ responders, { σ with responders := responders } = τ := by
  obtain rfl := Option.some.inj taken
  split
  · exact ⟨_, rfl⟩
  · exact ⟨σ.responders, rfl⟩

/-- A response leaves every pending request, and its id. -/
theorem stepResponder_cases {σ τ : LocEngNi} {position : Nat}
    (taken : σ.stepResponder position = some τ) :
    ∃ sessions responders, τ = { σ with sessions := sessions, responders := responders } ∧
      ∀ kind, (sessions kind).rawRequest = (σ.sessions kind).rawRequest ∧
        (sessions kind).reqID = (σ.sessions kind).reqID := by
  obtain ⟨responder, found, rfl⟩ := Option.map_eq_some_iff.mp taken
  obtain ⟨notif_id, user_response, point⟩ := responder
  cases point with
  | ignoreOther => exact ⟨_, _, rfl, write_keeps (fun _ => ⟨rfl, rfl⟩)⟩
  | respond kind => exact ⟨_, _, rfl, write_keeps (fun _ => ⟨rfl, rfl⟩)⟩
  | checkEs =>
      unfold LocEngNi.niRespond
      dsimp only
      split <;> exact ⟨_, _, rfl, fun _ => ⟨rfl, rfl⟩⟩
  | _ => exact ⟨_, _, rfl, fun _ => ⟨rfl, rfl⟩⟩

end LocEngNi

end A5Common.Ni

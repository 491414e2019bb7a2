import A5Common.Ni.Sound
import Mathlib.Data.List.Perm.Basic

set_option autoImplicit false

namespace A5Common.Ni

open A5Common.Run

namespace LocEngNi

/-- A thread goes on from its place in the list, waiting as before. -/
theorem Sound.goOn {σ : LocEngNi} (sound : σ.Sound) {thread : NiThread} {rest : List NiThread}
    (listed : σ.threads.Perm (thread :: rest)) {next : Option NiThread}
    (same : next.bind NiThread.waits = thread.waits)
    (own : ∀ after, next = some after → ∀ msg, after.msg = some msg → msg.Own) :
    Sound { σ with threads := next.toList ++ rest } := by
  have members : ∀ waiter, waiter ∈ waiting (next.toList ++ rest) ↔
      waiter ∈ waiting σ.threads := by
    intro waiter
    rw [(waiting_perm listed).mem_iff]
    cases next with
    | none =>
        simp only [Option.bind_none] at same
        simp only [waiting, Option.toList_none, List.nil_append,
          List.filterMap_cons_none same.symm]
    | some after =>
        simp only [Option.bind_some] at same
        simp only [waiting, Option.toList_some, List.singleton_append, List.filterMap_cons, same]
  refine ⟨sound.unset, ?_, ?_, ?_, sound.sent⟩
  · intro kind
    exact (sound.sessions kind).waiters (fun request => members (kind, request))
  · apply sound.main.release (fun kind => .inl rfl)
    intro kind busy
    obtain ⟨waiter, member, rfl⟩ := List.mem_map.mp busy
    exact List.mem_map_of_mem ((members waiter).mp member)
  · intro other member
    rcases List.mem_append.mp member with moved | stayed
    · exact own other (Option.mem_toList.mp moved)
    · exact sound.held other (listed.mem_iff.mpr (List.mem_cons_of_mem _ stayed))

/-- The end of a locked section, field by field. -/
theorem finish_eq (kind : SessionKind) (σ : LocEngNi) :
    ∃ freed, (σ.finish kind).2 = { σ with
      sessions := Function.update σ.sessions kind
        { σ.sessions kind with respRecvd := false, rawRequest := none }
      freed := freed } := by
  unfold LocEngNi.finish
  dsimp only
  split
  · exact ⟨_, rfl⟩
  · exact ⟨σ.freed, rfl⟩

theorem finish_msg {kind : SessionKind} {σ : LocEngNi} {msg : LocEngInformNiResponse}
    (made : (σ.finish kind).1 = some msg) :
    (σ.sessions kind).resp ≠ GPS_NI_RESPONSE_IGNORE ∧
    ∃ payload, (σ.sessions kind).rawRequest = some payload ∧
      msg = ⟨(σ.sessions kind).resp, payload, (σ.sessions kind).origin⟩ := by
  unfold LocEngNi.finish at made
  dsimp only at made
  split at made
  · cases made
  · rename_i answered
    obtain ⟨payload, pending, rfl⟩ := Option.map_eq_some_iff.mp made
    exact ⟨answered, payload, pending, rfl⟩

/-- A thread that ends its locked section takes the pending request with it. -/
theorem Sound.finish {σ : LocEngNi} (sound : σ.Sound) {thread : NiThread} {rest : List NiThread}
    (listed : σ.threads.Perm (thread :: rest))
    (waits : thread.waits = some (thread.kind, thread.request))
    (own : ∀ payload, (σ.sessions thread.kind).rawRequest = some payload →
      (σ.sessions thread.kind).resp = GPS_NI_RESPONSE_IGNORE ∨
      LocEngInformNiResponse.Own
        ⟨(σ.sessions thread.kind).resp, payload, (σ.sessions thread.kind).origin⟩) :
    Sound { (σ.finish thread.kind).2 with
      threads := { thread with point := .clearTime (σ.finish thread.kind).1 } :: rest } := by
  obtain ⟨freed, finished⟩ := σ.finish_eq thread.kind
  rw [finished]
  have members : ∀ waiter, waiter ∈ waiting σ.threads ↔
      waiter = (thread.kind, thread.request) ∨ waiter ∈ waiting rest := by
    intro waiter
    rw [(waiting_perm listed).mem_iff, waiting, List.filterMap_cons_some waits, List.mem_cons]
    rfl
  refine ⟨sound.unset, ?_, ?_, ?_, sound.sent⟩
  · intro kind
    by_cases same : kind = thread.kind
    · subst same
      simp only [Function.update_self]
      exact ⟨fun _ pending => (by cases pending), fun _ received => (by cases received),
        fun _ _ _ pending => (by cases pending)⟩
    · simp only [Function.update_of_ne same]
      apply (sound.sessions kind).waiters
      intro request
      rw [members, Prod.mk.injEq, or_iff_right (fun both => same both.1)]
      rfl
  · apply sound.main.release
    · intro kind
      by_cases same : kind = thread.kind
      · subst same
        simp only [Function.update_self]
        exact .inr ⟨trivial, List.mem_map_of_mem ((members _).mpr (.inl rfl))⟩
      · simp only [Function.update_of_ne same]
        exact .inl trivial
    · intro kind busy
      obtain ⟨waiter, member, rfl⟩ := List.mem_map.mp busy
      exact List.mem_map_of_mem ((members waiter).mpr (.inr member))
  · intro other member msg carried
    rcases List.mem_cons.mp member with rfl | stayed
    · obtain ⟨answered, payload, pending, rfl⟩ := finish_msg carried
      exact (own payload pending).resolve_left answered
    · exact sound.held other (listed.mem_iff.mpr (List.mem_cons_of_mem _ stayed)) msg carried

theorem Sound.withSent {σ : LocEngNi} (sound : σ.Sound) {msg : LocEngInformNiResponse}
    (own : msg.Own) : Sound { σ with sent := σ.sent ++ [msg] } where
  unset := sound.unset
  sessions := sound.sessions
  main := sound.main
  held := sound.held
  sent := by
    intro other member
    rcases List.mem_append.mp member with before | last
    · exact sound.sent other before
    · rw [List.mem_singleton.mp last]
      exact own

theorem perm_of_getElem? {α : Type} {l : List α} {position : Nat} {x : α}
    (found : l[position]? = some x) : l.Perm (x :: l.eraseIdx position) := by
  obtain ⟨inside, rfl⟩ := List.getElem?_eq_some_iff.mp found
  exact (List.getElem_cons_eraseIdx_perm inside).symm

/-- The response that is set when a thread ends its wait is its request's own. -/
theorem Sound.received {σ : LocEngNi} (sound : σ.Sound) {kind : SessionKind}
    (received : (σ.sessions kind).respRecvd = true) (payload : Nat)
    (pending : (σ.sessions kind).rawRequest = some payload) :
    (σ.sessions kind).resp = GPS_NI_RESPONSE_IGNORE ∨
      LocEngInformNiResponse.Own ⟨(σ.sessions kind).resp, payload, (σ.sessions kind).origin⟩ :=
  (sound.sessions kind).owned payload pending received

/-- The response `GPS_NI_RESPONSE_NORESP`, written by a thread of the session. -/
theorem Sound.timeOut {σ : LocEngNi} (sound : σ.Sound) {kind : SessionKind}
    {request : Option Nat} (waits : (kind, request) ∈ waiting σ.threads) :
    Sound (σ.write kind (fun s =>
      { s with resp := GPS_NI_RESPONSE_NORESP, origin := .timeout request })) := by
  have before := sound.sessions kind
  apply sound.write rfl
  refine ⟨?_, ?_, before.thread⟩
  · intro payload pending _
    exact .inr ⟨rfl, before.thread request waits payload pending⟩
  · intro _ _
    exact .inr (.inl (List.mem_map_of_mem waits))

theorem Sound.niThreadProc {σ : LocEngNi} (sound : σ.Sound) {thread : NiThread}
    {rest : List NiThread} (listed : σ.threads.Perm (thread :: rest)) (timedOut : Bool) :
    Sound { (σ.niThreadProc timedOut thread).2 with
      threads := (σ.niThreadProc timedOut thread).1.toList ++ rest } := by
  have held := sound.held thread (listed.mem_iff.mpr List.mem_cons_self)
  obtain ⟨kind, request, point⟩ := thread
  cases point with
  | starting =>
      unfold LocEngNi.niThreadProc
      dsimp only
      split
      · rename_i received
        exact sound.finish listed rfl (sound.received received)
      · refine sound.goOn listed rfl ?_
        rintro after ⟨⟩ msg ⟨⟩
  | waiting =>
      unfold LocEngNi.niThreadProc
      dsimp only
      split
      · have waits : (kind, request) ∈ waiting σ.threads := by
          rw [(waiting_perm listed).mem_iff]
          exact List.mem_cons_self
        have out := sound.timeOut waits
        apply out.finish listed rfl
        intro payload pending
        simp only [LocEngNi.write, Function.update_self] at pending ⊢
        exact .inr ⟨rfl, (sound.sessions kind).thread request waits payload pending⟩
      · split
        · rename_i received
          exact sound.finish listed rfl (sound.received received)
        · refine sound.goOn listed rfl ?_
          rintro after ⟨⟩ msg ⟨⟩
  | clearTime carried =>
      have cleared := sound.writeAside kind 0 (σ.sessions kind).reqID (σ.sessions kind).asked
      refine cleared.goOn listed rfl ?_
      rintro after ⟨⟩
      exact held
  | clearId carried =>
      have cleared := sound.writeAside kind (σ.sessions kind).respTimeLeft 0 (σ.sessions kind).asked
      cases carried with
      | none =>
          refine cleared.goOn listed rfl ?_
          rintro after ⟨⟩
      | some msg =>
          refine cleared.goOn listed rfl ?_
          rintro after ⟨⟩
          exact held
  | sending carried =>
      refine (sound.withSent (held carried rfl)).goOn listed rfl ?_
      rintro after ⟨⟩

theorem Sound.stepThread {σ τ : LocEngNi} (sound : σ.Sound) {position : Nat} {timedOut : Bool}
    (taken : σ.stepThread position timedOut = some τ) : τ.Sound := by
  obtain ⟨thread, found, rfl⟩ := Option.map_eq_some_iff.mp taken
  exact sound.niThreadProc (perm_of_getElem? found) timedOut

theorem Sound.answer {σ : LocEngNi} (sound : σ.Sound) {notif_id : BitVec 32}
    {kind : SessionKind} (meets : σ.AnswerMeets notif_id kind)
    (user_response : GpsUserResponseType) :
    (σ.write kind (LocEngNi.answer notif_id user_response)).Sound := by
  apply sound.write rfl
  refine ⟨?_, ?_, (sound.sessions kind).thread⟩
  · intro payload pending _
    have asked := meets.1 (Option.isSome_iff_exists.mpr ⟨payload, pending⟩)
    exact .inr ⟨rfl, pending, asked⟩
  · intro none _
    exact .inr (.inl (meets.2 none))

theorem Sound.ignoreOther {σ : LocEngNi} (sound : σ.Sound) (kind : SessionKind) :
    (σ.write kind LocEngNi.ignoreOther).Sound :=
  sound.write rfl ⟨fun _ _ _ => .inl rfl, fun _ _ => .inl rfl, (sound.sessions kind).thread⟩

theorem Sound.withResponders {σ : LocEngNi} (sound : σ.Sound) (responders : List Responder) :
    Sound { σ with responders := responders } :=
  ⟨sound.unset, sound.sessions, sound.main, sound.held, sound.sent⟩

theorem Sound.niRespond {σ : LocEngNi} (sound : σ.Sound) {responder : Responder}
    (meets : ∀ kind, responder.point = .respond kind → σ.AnswerMeets responder.notif_id kind) :
    (σ.niRespond responder).2.Sound := by
  obtain ⟨notif_id, user_response, point⟩ := responder
  cases point with
  | checkEs =>
      unfold LocEngNi.niRespond
      dsimp only
      split <;> exact sound
  | ignoreOther => exact sound.ignoreOther .session
  | respond kind => exact sound.answer (meets kind rfl) user_response
  | _ => exact sound

theorem Sound.stepResponder {σ τ : LocEngNi} (sound : σ.Sound) {position : Nat}
    (meets : σ.RespondMeets σ.responders[position]?)
    (taken : σ.stepResponder position = some τ) : τ.Sound := by
  obtain ⟨responder, found, rfl⟩ := Option.map_eq_some_iff.mp taken
  apply Sound.withResponders
  apply sound.niRespond
  intro kind point
  rw [found] at meets
  obtain ⟨notif_id, user_response, here⟩ := responder
  cases point
  exact meets

end LocEngNi

end A5Common.Ni

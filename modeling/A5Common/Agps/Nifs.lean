import A5Common.Agps.Discipline
import A5Common.Agps.Identity

set_option autoImplicit false

namespace A5Common.Agps

open A5Common.Run

/-- AGPS_TYPE_WWAN_ANY. -/
def AGPS_TYPE_WWAN_ANY : Int := 3

/-- A base machine with the callback that its AGpsServicer took from
agps_status_cb when it was made; `false` is NULL. -/
structure Nif where
  machine : AgpsStateMachine
  callbackAGps : Bool

/-- A call on the machine. A request through a NULL callback ends the process. -/
def Nif.call (nif : Nif) (operation : Operation) : Option Nif :=
  let machine := nif.machine.perform operation
  if nif.callbackAGps || (requests machine.out).isEmpty then some { nif with machine := machine }
  else none

/-- unsubscribeRsrc, with `out` left with what it has done. -/
def Nif.unsubscribeRsrc (nif : Nif) (s : Subscriber) : Bool × Nif :=
  let unsubscribed :=
    nif.machine.cleared.unsubscribeRsrc
      AgpsStateMachine.sendRsrcRequest s
  (unsubscribed.1, { nif with machine := unsubscribed.2 })

/-- The data connection part of loc_eng_data_s_type. -/
structure LocEng where
  agps_status_cb : Bool
  internet_nif : Option Nif
  agnss_nif : Option Nif
  ds_nif : Option AgpsStateMachine

namespace LocEng

/-- loc_eng_agps_init, once the adapter is there. -/
def agpsInit (σ : LocEng) (status_cb : Bool) : Option LocEng :=
  if σ.agps_status_cb then none else some { σ with agps_status_cb := status_cb }

/-- createAgnssNifs. The four flags are mSupportsAgpsRequests, the two
capability bits, USE_EMERGENCY_PDN_FOR_EMERGENCY_SUPL and the success of
initDataServiceClient. -/
def createAgnssNifs (σ : LocEng) (supports agpsCapable emergencyPdn dataService : Bool) : LocEng :=
  if supports then
    let internet := σ.internet_nif.getD ⟨.new AGPS_TYPE_WWAN_ANY false, σ.agps_status_cb⟩
    if agpsCapable then
      let agnss := σ.agnss_nif.getD ⟨.new AGPS_TYPE_SUPL false, σ.agps_status_cb⟩
      { σ with
        internet_nif := some internet
        agnss_nif := some agnss
        ds_nif := match σ.ds_nif with
          | some m => some m
          | none => if emergencyPdn && dataService then some DSStateMachine.new else none }
    else { σ with internet_nif := some internet }
  else σ

/-- What loc_eng_handle_engine_up does to the machines. -/
def handleEngineUp (σ : LocEng) : LocEng :=
  let drop := fun nif : Nif => { nif with machine := nif.machine.dropAllSubscribers }
  if σ.agps_status_cb then
    { σ with agnss_nif := σ.agnss_nif.map drop, internet_nif := σ.internet_nif.map drop }
  else σ

end LocEng

/-- What surrounds the three subscribers that LocEngReleaseATL::proc makes: the
bytes after their base class, and the answer to a data call, which a release
does not ask for. -/
structure Surroundings where
  s1 : IPv6Addr
  s2 : IPv6Addr
  s3 : IPv6Addr
  answer : StartAnswer

/-- LocEngReleaseATL::proc, with all it does to the outside. -/
def LocEng.releaseATL (σ : LocEng) (mID : BitVec 32) (around : Surroundings) :
    LocEng × List Action :=
  match σ.agnss_nif.map (Nif.unsubscribeRsrc · (.atl mID false around.s1)) with
  | some (true, nif) => ({ σ with agnss_nif := some nif }, nif.machine.out)
  | _ =>
      match σ.internet_nif.map (Nif.unsubscribeRsrc · (.atl mID false around.s2)) with
      | some (true, nif) => ({ σ with internet_nif := some nif }, nif.machine.out)
      | _ =>
          match σ.ds_nif.map (fun m => m.cleared.unsubscribeRsrc
              (DSStateMachine.sendRsrcRequest around.answer) (.ds mID false around.s3)) with
          | some (true, m) => ({ σ with ds_nif := some m }, m.out)
          | _ => (σ, [.atlCloseStatus mID false])

inductive LocEng.Label where
  | agpsInit (status_cb : Bool)
  | createAgnssNifs (supports agpsCapable emergencyPdn dataService : Bool)
  | agnss (operation : Operation)
  | internet (operation : Operation)
  | ds (operation : Operation) (answer : StartAnswer)
  | handleEngineUp
  | releaseATL (mID : BitVec 32) (around : Surroundings)

/-- All messages that act on the three machines. -/
def locEng : System LocEng LocEng.Label where
  initial σ := σ = ⟨false, none, none, none⟩
  step σ
    | .agpsInit status_cb => σ.agpsInit status_cb
    | .createAgnssNifs supports agpsCapable emergencyPdn dataService =>
        some (σ.createAgnssNifs supports agpsCapable emergencyPdn dataService)
    | .agnss operation =>
        if operation.onBase then
          (σ.agnss_nif.bind (·.call operation)).map (fun nif => { σ with agnss_nif := some nif })
        else none
    | .internet operation =>
        if operation.onBase then
          (σ.internet_nif.bind (·.call operation)).map
            (fun nif => { σ with internet_nif := some nif })
        else none
    | .ds operation answer =>
        σ.ds_nif.map (fun m =>
          { σ with ds_nif := some (DSStateMachine.perform answer m operation) })
    | .handleEngineUp => some σ.handleEngineUp
    | .releaseATL mID around => some (σ.releaseATL mID around).1

/-- A machine whose servicer has no callback has never been used, and there is
none with a callback before agps_status_cb is set. -/
structure Nif.Sound (agps_status_cb : Bool) (nif : Nif) : Prop where
  unset : agps_status_cb = false → nif.callbackAGps = false
  unused : nif.callbackAGps = false →
    nif.machine.mStatePtr = .released ∧ nif.machine.mSubscribers = []
  distinct : Distinct nif.machine.mSubscribers

theorem Nif.sound_new (mType : Int) (agps_status_cb : Bool) :
    Nif.Sound agps_status_cb ⟨.new mType false, agps_status_cb⟩ :=
  ⟨id, fun _ => ⟨rfl, rfl⟩, distinct_nil⟩

namespace Nif.Sound

variable {agps_status_cb : Bool} {nif : Nif}

theorem set (sound : Nif.Sound false nif) (status_cb : Bool) : Nif.Sound status_cb nif :=
  ⟨fun _ => sound.unset rfl, sound.unused, sound.distinct⟩

theorem drop (sound : nif.Sound agps_status_cb) :
    Nif.Sound agps_status_cb { nif with machine := nif.machine.dropAllSubscribers } :=
  ⟨sound.unset, fun none => ⟨(sound.unused none).1, rfl⟩, distinct_nil⟩

/-- An unused machine without a callback takes no request. -/
theorem call (sound : nif.Sound agps_status_cb) {operation : Operation} {after : Nif}
    (taken : nif.call operation = some after) : after.Sound agps_status_cb := by
  unfold Nif.call at taken
  dsimp only at taken
  split at taken
  · rename_i allowed
    obtain rfl := Option.some.inj taken
    refine ⟨sound.unset, fun none => ?_, sound.distinct.perform operation⟩
    obtain ⟨released, empty⟩ := sound.unused none
    have coherent : nif.machine.Coherent := by
      unfold AgpsStateMachine.Coherent
      rw [released, empty]
      exact coherent_released
    have moved := coherent.transition operation
    have quiet : requests (nif.machine.perform operation).out = [] := by
      have none : nif.callbackAGps = false := none
      simpa [none] using allowed
    rw [released, quiet] at moved
    have still : (nif.machine.perform operation).mStatePtr = .released := by
      generalize (nif.machine.perform operation).mStatePtr = state at moved ⊢
      cases moved with
      | stay => rfl
    exact ⟨still, (coherent.perform operation).released.mp still⟩
  · cases taken

theorem unsubscribeRsrc (sound : nif.Sound agps_status_cb) {s : Subscriber} {after : Nif}
    (found : nif.unsubscribeRsrc s = (true, after)) : after.Sound agps_status_cb := by
  obtain ⟨listed, rfl⟩ := Prod.mk.inj found
  refine ⟨sound.unset, fun none => ?_, ?_⟩
  · have empty := (sound.unused none).2
    simp [AgpsStateMachine.unsubscribeRsrc, empty] at listed
  · have distinct : Distinct nif.machine.cleared.mSubscribers :=
      sound.distinct
    exact distinct.unsubscribeRsrc sendRsrcRequest_frames s

end Nif.Sound

structure LocEng.Sound (σ : LocEng) : Prop where
  agnss : ∀ nif, σ.agnss_nif = some nif → nif.Sound σ.agps_status_cb
  internet : ∀ nif, σ.internet_nif = some nif → nif.Sound σ.agps_status_cb
  ds : ∀ m, σ.ds_nif = some m → Distinct m.mSubscribers

namespace LocEng.Sound

variable {σ : LocEng} (sound : σ.Sound)
include sound

theorem agpsInit {after : LocEng} {status_cb : Bool} (taken : σ.agpsInit status_cb = some after) :
    after.Sound := by
  unfold LocEng.agpsInit at taken
  split at taken
  · cases taken
  · rename_i unset
    have unset : σ.agps_status_cb = false := by simpa using unset
    obtain rfl := Option.some.inj taken
    exact ⟨fun nif listed => (unset ▸ sound.agnss nif listed).set status_cb,
      fun nif listed => (unset ▸ sound.internet nif listed).set status_cb, sound.ds⟩

theorem createAgnssNifs (supports agpsCapable emergencyPdn dataService : Bool) :
    (σ.createAgnssNifs supports agpsCapable emergencyPdn dataService).Sound := by
  have made : ∀ (existing : Option Nif) (mType : Int),
      (∀ nif, existing = some nif → nif.Sound σ.agps_status_cb) → ∀ nif,
      some (existing.getD ⟨.new mType false, σ.agps_status_cb⟩) = some nif →
      nif.Sound σ.agps_status_cb := by
    rintro existing mType old nif created
    cases existing with
    | none =>
        obtain rfl := Option.some.inj created
        exact Nif.sound_new mType _
    | some existing => exact old nif created
  unfold LocEng.createAgnssNifs
  split
  · dsimp only
    split
    · refine ⟨made _ _ sound.agnss, made _ _ sound.internet, ?_⟩
      intro m created
      dsimp only at created
      split at created
      · rename_i existing old
        exact sound.ds m (old.trans created)
      · split at created
        · obtain rfl := Option.some.inj created
          exact distinct_nil
        · cases created
    · exact ⟨sound.agnss, made _ _ sound.internet, sound.ds⟩
  · exact sound

theorem handleEngineUp : σ.handleEngineUp.Sound := by
  unfold LocEng.handleEngineUp
  dsimp only
  split
  · refine ⟨?_, ?_, sound.ds⟩
    · intro nif dropped
      obtain ⟨before, listed, rfl⟩ := Option.map_eq_some_iff.mp dropped
      exact (sound.agnss before listed).drop
    · intro nif dropped
      obtain ⟨before, listed, rfl⟩ := Option.map_eq_some_iff.mp dropped
      exact (sound.internet before listed).drop
  · exact sound

theorem releaseATL (mID : BitVec 32) (around : Surroundings) :
    (σ.releaseATL mID around).1.Sound := by
  unfold LocEng.releaseATL
  split
  · rename_i nif found
    obtain ⟨before, listed, unsubscribed⟩ := Option.map_eq_some_iff.mp found
    refine ⟨?_, sound.internet, sound.ds⟩
    intro after same
    obtain rfl := Option.some.inj same
    exact (sound.agnss before listed).unsubscribeRsrc unsubscribed
  · split
    · rename_i nif found
      obtain ⟨before, listed, unsubscribed⟩ := Option.map_eq_some_iff.mp found
      refine ⟨sound.agnss, ?_, sound.ds⟩
      intro after same
      obtain rfl := Option.some.inj same
      exact (sound.internet before listed).unsubscribeRsrc unsubscribed
    · split
      · rename_i m found
        obtain ⟨before, listed, unsubscribed⟩ := Option.map_eq_some_iff.mp found
        refine ⟨sound.agnss, sound.internet, ?_⟩
        intro after same
        obtain rfl := Option.some.inj same
        have distinct : Distinct before.cleared.mSubscribers :=
          sound.ds before listed
        have kept := distinct.unsubscribeRsrc
          (DSStateMachine.sendRsrcRequest_frames around.answer) (.ds mID false around.s3)
        rwa [unsubscribed] at kept
      · exact sound

end LocEng.Sound

theorem locEng_sound {σ : LocEng} (run : locEng.Reachable σ) : σ.Sound := by
  refine run.invariant LocEng.Sound ?_ ?_
  · rintro σ rfl
    exact ⟨fun _ none => (nomatch none), fun _ none => (nomatch none), fun _ none => (nomatch none)⟩
  · intro before label after _ sound _ taken
    cases label with
    | agpsInit status_cb => exact sound.agpsInit taken
    | createAgnssNifs supports agpsCapable emergencyPdn dataService =>
        obtain rfl := Option.some.inj taken
        exact sound.createAgnssNifs supports agpsCapable emergencyPdn dataService
    | agnss operation =>
        simp only [locEng] at taken
        split at taken
        · obtain ⟨nif, called, rfl⟩ := Option.map_eq_some_iff.mp taken
          obtain ⟨old, listed, called⟩ := Option.bind_eq_some_iff.mp called
          refine ⟨?_, sound.internet, sound.ds⟩
          intro after same
          obtain rfl := Option.some.inj same
          exact (sound.agnss old listed).call called
        · cases taken
    | internet operation =>
        simp only [locEng] at taken
        split at taken
        · obtain ⟨nif, called, rfl⟩ := Option.map_eq_some_iff.mp taken
          obtain ⟨old, listed, called⟩ := Option.bind_eq_some_iff.mp called
          refine ⟨sound.agnss, ?_, sound.ds⟩
          intro after same
          obtain rfl := Option.some.inj same
          exact (sound.internet old listed).call called
        · cases taken
    | ds operation answer =>
        obtain ⟨m, listed, rfl⟩ := Option.map_eq_some_iff.mp taken
        refine ⟨sound.agnss, sound.internet, ?_⟩
        intro after same
        obtain rfl := Option.some.inj same
        exact (sound.ds m listed).performDS answer operation
    | handleEngineUp =>
        obtain rfl := Option.some.inj taken
        exact sound.handleEngineUp
    | releaseATL mID around =>
        obtain rfl := Option.some.inj taken
        exact sound.releaseATL mID around

end A5Common.Agps

import A5Common.Server.Settings

set_option autoImplicit false

namespace A5Common.Server

open A5Common.Run

/-- The last setting of a type: whether the adapter existed when it was set, and
whether it has been sent again from the buffer since. -/
structure Setting where
  hostname : CString
  port : BitVec 32
  opened : Bool
  replayed : Bool
deriving DecidableEq

/-- The engine, with the last setting of each type. -/
structure Watched where
  engine : LocEngData
  last : LocServerType → Option Setting

namespace Watched

/-- Whether a call sends the buffered settings again. -/
def replays (σ : LocEngData) : Label → Bool
  | .agpsInit callbacks => σ.adapter && !σ.agps_status_cb && callbacks
  | .handleEngineUp => σ.agps_status_cb
  | .setServerProxy _ _ _ | .init _ _ => false

def record (σ : Watched) (label : Label) (type : LocServerType) : Option Setting :=
  match label with
  | .setServerProxy other hostname port =>
      if other = type then some ⟨hostname, port, σ.engine.adapter, false⟩ else σ.last type
  | .init _ _ | .agpsInit _ | .handleEngineUp =>
      (σ.last type).map (fun setting =>
        { setting with replayed := setting.replayed || replays σ.engine label })

section

variable (resolve_in_addr : List Char → Option (BitVec 32))

def step (σ : Watched) (label : Label) : Option Watched :=
  ((servers resolve_in_addr).step σ.engine label).map (fun engine => ⟨engine, σ.record label⟩)

/-- A SUPL host fits its buffer, and the host of a CDMA PDE resolves. -/
def usableHost (type : LocServerType) (hostname : CString) : Prop :=
  (type = .supl → hostname.text.length < HOST_BUF_SIZE) ∧
    (type = .cdmaPde → (resolve_in_addr hostname.text).isSome = true)

instance (type : LocServerType) (hostname : CString) :
    Decidable (usableHost resolve_in_addr type hostname) :=
  inferInstanceAs (Decidable (_ ∧ _))

def usable (_ : Watched) : Label → Prop
  | .setServerProxy type hostname _ => usableHost resolve_in_addr type hostname
  | .init _ _ | .agpsInit _ | .handleEngineUp => True

instance (σ : Watched) (label : Label) : Decidable (usable resolve_in_addr σ label) :=
  match label with
  | .setServerProxy _ _ _ => inferInstanceAs (Decidable (usableHost _ _ _))
  | .init _ _ | .agpsInit _ | .handleEngineUp => inferInstanceAs (Decidable True)

end

end Watched

/-- The calls that the server settings go through, with the last setting of each type. -/
def watched (resolve_in_addr : List Char → Option (BitVec 32)) : System Watched Label where
  initial σ := σ = ⟨.blank [], fun _ => none⟩
  step := Watched.step resolve_in_addr

variable (resolve_in_addr : List Char → Option (BitVec 32))

/-- The last message sent for a type is the one that its last setting makes. -/
def LastSent (σ : Watched) (type : LocServerType) : Prop :=
  ∀ setting, σ.last type = some setting →
    (σ.engine.sentFor type).getLast? =
      LocEngData.setServerMsg resolve_in_addr type setting.hostname setting.port

/-- The last setting was made after `loc_eng_init`; and a host that was sent again from
its buffer has the address of its buffered beginning, if that has one. -/
def SetSinceInit (type : LocServerType) (setting : Setting) : Prop :=
  setting.opened = true ∧
    (setting.replayed = true → ∀ msg,
      LocEngData.setServerMsg resolve_in_addr type (setting.hostname.strlcpy HOST_BUF_SIZE)
        setting.port = some msg →
      LocEngData.setServerMsg resolve_in_addr type setting.hostname setting.port = some msg)

/-- What is buffered and what was sent last for a setting. -/
structure Recorded (σ : LocEngData) (type : LocServerType) (setting : Setting) : Prop where
  message : (LocEngData.setServerMsg resolve_in_addr type setting.hostname
    setting.port).isSome = true
  opened : setting.opened = true → σ.adapter = true ∧
    σ.buffered type = some (setting.hostname.strlcpy HOST_BUF_SIZE, setting.port) ∧
    (σ.sentFor type).getLast? =
      (if setting.replayed then LocEngData.setServerMsg resolve_in_addr type
        (setting.hostname.strlcpy HOST_BUF_SIZE) setting.port else none).or
      (LocEngData.setServerMsg resolve_in_addr type setting.hostname setting.port)
  early : setting.opened = false → σ.sentFor type = [] ∧
    (σ.adapter = true → σ.buffered type = none)

structure Sound (σ : Watched) (type : LocServerType) : Prop where
  recorded : ∀ setting, σ.last type = some setting →
    Recorded resolve_in_addr σ.engine type setting
  unset : σ.last type = none → σ.engine.buffered type = none ∧ σ.engine.sentFor type = []
  closed : σ.engine.adapter = false → σ.engine.sentFor type = []

variable {resolve_in_addr} {type : LocServerType}

theorem setServerMsg_usable {hostname : CString} (port : BitVec 32) (kept : type.kept)
    (usable : Watched.usableHost resolve_in_addr type hostname) :
    (LocEngData.setServerMsg resolve_in_addr type hostname port).isSome = true := by
  rcases kept with rfl | rfl
  · have fits := LocEngData.suplUrl_fits (usable.1 rfl) port
    rw [(LocEngData.setServerMsg_supl_iff resolve_in_addr).mpr ⟨rfl, fits⟩]
    rfl
  · unfold LocEngData.setServerMsg
    rw [Option.isSome_map]
    exact usable.2 rfl

theorem Sound.set {σ : Watched} (sound : Sound resolve_in_addr σ type) (kept : type.kept)
    {other : LocServerType} {hostname : CString} (port : BitVec 32)
    (usable : Watched.usableHost resolve_in_addr other hostname) :
    Sound resolve_in_addr ⟨σ.engine.setServerProxy resolve_in_addr other hostname port,
      σ.record (.setServerProxy other hostname port)⟩ type := by
  have buffered := σ.engine.setServerProxy_buffered resolve_in_addr kept other hostname port
  have sent := σ.engine.setServerProxy_sentFor resolve_in_addr type other hostname port
  have same := (σ.engine.setServerProxy_eq resolve_in_addr other hostname port).1
  by_cases here : other = type
  · subst here
    rw [if_pos rfl] at buffered
    refine ⟨?_, ?_, ?_⟩
    · intro setting set
      obtain rfl : (⟨hostname, port, σ.engine.adapter, false⟩ : Setting) = setting := by
        simpa only [Watched.record, if_true, Option.some.injEq] using set
      have message := setServerMsg_usable port kept usable
      refine ⟨message, ?_, ?_⟩
      · intro opened
        refine ⟨same.trans opened, buffered, ?_⟩
        rw [sent, if_pos ⟨rfl, opened⟩, List.getLast?_append]
        obtain ⟨msg, sends⟩ := Option.isSome_iff_exists.mp message
        rw [sends]
        rfl
      · intro early
        refine ⟨?_, fun opened => ?_⟩
        · rw [sent, if_neg (fun both => Bool.false_ne_true (early.symm.trans both.2)),
            sound.closed early]
          rfl
        · exact absurd (early.symm.trans (same.symm.trans opened)) Bool.false_ne_true
    · intro unset
      simp only [Watched.record, if_true, reduceCtorEq] at unset
    · intro closed
      have early := same.symm.trans closed
      rw [sent, if_neg (fun both => Bool.false_ne_true (early.symm.trans both.2)),
        sound.closed early]
      rfl
  · rw [if_neg here] at buffered
    rw [if_neg (fun both => here both.1), Option.toList_none, List.append_nil] at sent
    have last : σ.record (.setServerProxy other hostname port) type = σ.last type := if_neg here
    refine ⟨?_, ?_, ?_⟩
    · intro setting set
      have before := sound.recorded setting (last.symm.trans set)
      refine ⟨before.message, ?_, ?_⟩
      · dsimp only
        rw [same, buffered, sent]
        exact before.opened
      · dsimp only
        rw [same, buffered, sent]
        exact before.early
    · intro unset
      dsimp only
      rw [buffered, sent]
      exact sound.unset (last.symm.trans unset)
    · intro closed
      exact sent.trans (sound.closed (same.symm.trans closed))

/-- A call that sends the buffered settings again. -/
theorem Sound.reinit {σ : Watched} (sound : Sound resolve_in_addr σ type) (kept : type.kept)
    (opened : σ.engine.adapter = true) {label : Label}
    (replays : Watched.replays σ.engine label = true) {base : LocEngData}
    (same_adapter : base.adapter = σ.engine.adapter)
    (same_buffer : base.buffered type = σ.engine.buffered type)
    (same_sent : base.sentFor type = σ.engine.sentFor type) :
    Sound resolve_in_addr ⟨base.agpsReinit resolve_in_addr, σ.record label⟩ type := by
  have sent := LocEngData.agpsReinit_sentFor resolve_in_addr kept base
  rw [same_sent] at sent
  obtain ⟨_, frame⟩ := LocEngData.agpsReinit_eq resolve_in_addr base
  have buffered : (base.agpsReinit resolve_in_addr).buffered type =
      σ.engine.buffered type := by
    rw [frame, ← same_buffer]
    rfl
  have adapter : (base.agpsReinit resolve_in_addr).adapter = true := by
    rw [frame]
    exact same_adapter.trans opened
  have last : σ.record label type =
      (σ.last type).map (fun setting => { setting with replayed := true }) := by
    cases label with
    | setServerProxy | init => cases replays
    | agpsInit | handleEngineUp =>
        simp only [Watched.record, replays, Bool.or_true]
  refine ⟨?_, ?_, ?_⟩
  · intro setting set
    obtain ⟨before, was, rfl⟩ := Option.map_eq_some_iff.mp (last.symm.trans set)
    have recorded := sound.recorded before was
    refine ⟨recorded.message, ?_, ?_⟩
    · intro since
      obtain ⟨_, kept_buffer, said⟩ := recorded.opened since
      refine ⟨adapter, buffered.trans kept_buffer, ?_⟩
      have replayed := LocEngData.replayMsg_some resolve_in_addr (same_buffer.trans kept_buffer)
      dsimp only
      rw [sent, List.getLast?_append, replayed, said, if_pos rfl]
      -- a message that is not made leaves the one before it the last
      cases LocEngData.setServerMsg resolve_in_addr type
        (before.hostname.strlcpy HOST_BUF_SIZE) before.port with
      | some msg => rfl
      | none => cases before.replayed <;> rfl
    · intro early
      obtain ⟨silent, empty⟩ := recorded.early early
      have empty := empty opened
      refine ⟨?_, fun _ => buffered.trans empty⟩
      dsimp only
      rw [sent, LocEngData.replayMsg_none resolve_in_addr (same_buffer.trans empty),
        Option.toList_none, List.append_nil]
      exact silent
  · intro unset
    obtain ⟨empty, silent⟩ := sound.unset (Option.map_eq_none_iff.mp (last.symm.trans unset))
    refine ⟨buffered.trans empty, ?_⟩
    dsimp only
    rw [sent, LocEngData.replayMsg_none resolve_in_addr (same_buffer.trans empty),
      Option.toList_none, List.append_nil]
    exact silent
  · intro closed
    exact absurd (closed.symm.trans adapter) Bool.false_ne_true

/-- A call that neither sets nor sends anything. -/
theorem Sound.idle {σ : Watched} (sound : Sound resolve_in_addr σ type) {label : Label}
    (silent : Watched.replays σ.engine label = false)
    (last : σ.record label type = (σ.last type).map (fun setting =>
      { setting with replayed := setting.replayed || Watched.replays σ.engine label })) :
    Sound resolve_in_addr ⟨σ.engine, σ.record label⟩ type := by
  have same : σ.record label type = σ.last type := by
    rw [last, silent]
    cases σ.last type with
    | none => rfl
    | some setting => simp only [Option.map_some, Bool.or_false]
  refine ⟨?_, ?_, sound.closed⟩
  · intro setting set
    exact sound.recorded setting (same.symm.trans set)
  · intro unset
    exact sound.unset (same.symm.trans unset)

/-- The memset clears the buffers, before anything has been sent. -/
theorem Sound.init {σ : Watched} (sound : Sound resolve_in_addr σ type)
    (closed : σ.engine.adapter = false) (callbacks event : Bool) :
    Sound resolve_in_addr ⟨{ LocEngData.blank σ.engine.sent with adapter := true },
      σ.record (.init callbacks event)⟩ type := by
  have empty : LocEngData.buffered type
      { LocEngData.blank σ.engine.sent with adapter := true } = none := by
    cases type <;> rfl
  have silent : LocEngData.sentFor type
      { LocEngData.blank σ.engine.sent with adapter := true } = [] :=
    sound.closed closed
  refine ⟨?_, fun _ => ⟨empty, silent⟩, fun _ => silent⟩
  intro setting set
  obtain ⟨before, was, rfl⟩ := Option.map_eq_some_iff.mp set
  have recorded := sound.recorded before was
  refine ⟨recorded.message, ?_, fun _ => ⟨silent, fun _ => empty⟩⟩
  intro since
  exact absurd (closed.symm.trans (recorded.opened since).1) Bool.false_ne_true

theorem Sound.step {σ τ : Watched} (sound : Sound resolve_in_addr σ type) (kept : type.kept)
    {label : Label} (usable : Watched.usable resolve_in_addr σ label)
    (taken : σ.step resolve_in_addr label = some τ) : Sound resolve_in_addr τ type := by
  obtain ⟨engine, moved, rfl⟩ := Option.map_eq_some_iff.mp taken
  cases label with
  | setServerProxy other hostname port =>
      obtain rfl := Option.some.inj moved
      exact sound.set kept port usable
  | init callbacks event =>
      obtain rfl := Option.some.inj moved
      unfold LocEngData.init
      split
      · exact sound.idle rfl rfl
      · split
        · exact sound.idle rfl rfl
        · rename_i closed
          exact sound.init (Bool.eq_false_iff.mpr closed) callbacks event
  | agpsInit callbacks =>
      obtain rfl := Option.some.inj moved
      unfold LocEngData.agpsInit
      split
      · rename_i closed
        exact sound.idle (by simp_all [Watched.replays]) rfl
      · rename_i opened
        split
        · rename_i agps
          exact sound.idle (by simp_all [Watched.replays]) rfl
        · rename_i agps
          split
          · exact sound.idle (by simp_all [Watched.replays]) rfl
          · have opened : σ.engine.adapter = true := by simpa using opened
            exact sound.reinit kept opened (by simp_all [Watched.replays]) rfl rfl rfl
  | handleEngineUp =>
      simp only [servers] at moved
      split at moved
      · rename_i opened
        obtain rfl := Option.some.inj moved
        unfold LocEngData.handleEngineUp
        split
        · rename_i agps
          have replays : Watched.replays σ.engine .handleEngineUp = true := agps
          exact sound.reinit kept opened replays rfl rfl rfl
        · rename_i agps
          exact sound.idle (Bool.eq_false_iff.mpr agps) rfl
      · cases moved

theorem watched_sound {σ : Watched}
    (run : (watched resolve_in_addr).ReachableUnder (Watched.usable resolve_in_addr) σ)
    (kept : type.kept) : Sound resolve_in_addr σ type := by
  apply run.invariant (fun σ => Sound resolve_in_addr σ type)
  · rintro σ rfl
    refine ⟨nofun, fun _ => ⟨?_, rfl⟩, fun _ => rfl⟩
    rcases kept with rfl | rfl <;> rfl
  · intro before label after _ sound usable taken
    exact sound.step kept usable taken

/-- The address of a setting is the last one sent exactly if it was set since
`loc_eng_init`. -/
theorem Recorded.lastSent_iff {σ : LocEngData} {setting : Setting}
    (recorded : Recorded resolve_in_addr σ type setting) :
    (σ.sentFor type).getLast? =
        LocEngData.setServerMsg resolve_in_addr type setting.hostname setting.port ↔
      SetSinceInit resolve_in_addr type setting := by
  obtain ⟨msg, sends⟩ := Option.isSome_iff_exists.mp recorded.message
  unfold SetSinceInit
  rw [sends]
  cases opened : setting.opened with
  | false =>
      rw [(recorded.early opened).1]
      simp
  | true =>
      rw [(recorded.opened opened).2.2, sends]
      cases setting.replayed with
      | false => simp
      | true =>
          cases again : LocEngData.setServerMsg resolve_in_addr type
            (setting.hostname.strlcpy HOST_BUF_SIZE) setting.port with
          | none => simp
          | some other => simp [eq_comm]

variable (resolve_in_addr)

/-- After every sequence of calls, `loc_eng_agps_init` among them or not, the last address
set for each type is the last one sent exactly if it was set after `loc_eng_init`. -/
theorem settings_kept_iff {σ : Watched}
    (run : (watched resolve_in_addr).ReachableUnder (Watched.usable resolve_in_addr) σ) :
    (∀ type, type.kept → LastSent resolve_in_addr σ type) ↔
      ∀ type, type.kept → ∀ setting, σ.last type = some setting →
        SetSinceInit resolve_in_addr type setting := by
  have exact_for : ∀ type, type.kept → ∀ setting, σ.last type = some setting →
      ((σ.engine.sentFor type).getLast? =
          LocEngData.setServerMsg resolve_in_addr type setting.hostname setting.port ↔
        SetSinceInit resolve_in_addr type setting) :=
    fun type kept setting set => ((watched_sound run kept).recorded setting set).lastSent_iff
  constructor
  · intro sent type kept setting set
    exact (exact_for type kept setting set).mp (sent type kept setting set)
  · intro since type kept setting set
    exact (exact_for type kept setting set).mpr (since type kept setting set)

theorem settings_kept_after_init :
    ∃ σ, (watched (fun _ => none)).execUnder (Watched.usable (fun _ => none))
        ⟨.blank [], fun _ => none⟩
        [.setServerProxy .supl ⟨"old".toList, by decide⟩ 1, .init true true,
          .setServerProxy .supl ⟨"supl".toList, by decide⟩ 7275, .agpsInit true] = some σ ∧
      σ.engine.sent = [.setServerUrl "supl:7275".toList 9, .setServerUrl "supl:7275".toList 9] ∧
      ((∀ type, type.kept → LastSent (fun _ => none) σ type) ↔
        ∀ type, type.kept → ∀ setting, σ.last type = some setting →
          SetSinceInit (fun _ => none) type setting) := by
  apply System.execUnder_then rfl
  · intro σ run seen
    exact settings_kept_iff (fun _ => none) run
  · decide +kernel

/-- A SUPL server that is set before `loc_eng_init` is never sent. -/
theorem setting_lost :
    ¬ ∀ σ, (watched (fun _ => none)).ReachableUnder (Watched.usable (fun _ => none)) σ →
      σ.engine.agps_status_cb = true → ∀ type, type.kept → LastSent (fun _ => none) σ type := by
  intro kept
  have first : (watched (fun _ => none)).initial ⟨.blank [], fun _ => none⟩ := rfl
  obtain ⟨σ, run, seen⟩ := System.reachableUnder_of_exec (Watched.usable (fun _ => none)) first
    [.setServerProxy .supl ⟨"supl".toList, by decide⟩ 7275, .init true true, .agpsInit true]
    (fun σ => decide (σ.engine.agps_status_cb = true ∧ σ.engine.sent = [] ∧
      (σ.last .supl).any (fun setting =>
        (LocEngData.setServerMsg (fun _ => none) .supl setting.hostname setting.port).isSome)))
    (by decide +kernel)
  obtain ⟨ready, silent, set⟩ := of_decide_eq_true seen
  obtain ⟨setting, last, sends⟩ := (Option.any_eq_true _ _).mp set
  have sent := kept σ run ready .supl (.inl rfl) setting last
  unfold LocEngData.sentFor at sent
  rw [silent] at sent
  rw [← sent] at sends
  cases sends

end A5Common.Server

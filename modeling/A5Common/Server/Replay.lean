import A5Common.Server.Settings

set_option autoImplicit false

namespace A5Common.Server

open A5Common.Run

/-- A call other than one that sets a SUPL server. -/
def keepsSupl (_ : LocEngData) : Label → Prop
  | .setServerProxy type _ _ => type ≠ .supl
  | .init _ _ | .agpsInit _ | .handleEngineUp => True

theorem tolower_eq_nul {c : Char} (nul : Cfg.tolower c = Char.ofNat 0) : c = Char.ofNat 0 := by
  unfold Cfg.tolower at nul
  split at nul
  · rename_i upper
    have letters : ∀ n < 26, Char.ofNat (65 + n + 32) ≠ Char.ofNat 0 := by decide
    have letter := letters (c.toNat - 65) (by omega)
    rw [Nat.add_sub_cancel' upper.1] at letter
    exact absurd nul letter
  · exact nul

/-- No host but those of four characters is the host NONE. -/
theorem strncasecmp_none_length {hostname : CString}
    (same : strncasecmp 5 "NONE".toList hostname.text = true) : hostname.text.length < 5 := by
  apply Nat.lt_of_not_le
  intro long
  have fifth := congrArg (fun text => text[4]?) (of_decide_eq_true same)
  have inside : 4 < hostname.text.length := long
  simp only [List.getElem?_map, List.getElem?_take, List.getElem?_append_left inside,
    List.getElem?_eq_getElem inside] at fifth
  have nul := tolower_eq_nul (Option.some.inj fifth).symm
  exact hostname.terminated (nul ▸ List.getElem_mem inside)

variable (resolve_in_addr : List Char → Option (BitVec 32))

/-- What an engine keeps of the SUPL server that was set last. -/
structure KeepsSupl (hostname : CString) (port : BitVec 32) (σ : LocEngData) : Prop where
  opened : σ.adapter = true
  buffered : σ.buffered .supl = some (hostname.strlcpy HOST_BUF_SIZE, port)

variable {resolve_in_addr}

theorem keepsSupl_set {σ : LocEngData} (opened : σ.adapter = true) (hostname : CString)
    (port : BitVec 32) :
    KeepsSupl hostname port (σ.setServerProxy resolve_in_addr .supl hostname port) where
  opened := (σ.setServerProxy_eq resolve_in_addr .supl hostname port).1.trans opened
  buffered := σ.setServerProxy_buffered resolve_in_addr (.inl rfl) .supl hostname port

theorem KeepsSupl.reinit {hostname : CString} {port : BitVec 32} {σ : LocEngData}
    (keeps : KeepsSupl hostname port σ) :
    KeepsSupl hostname port (σ.agpsReinit resolve_in_addr) := by
  obtain ⟨_, frame⟩ := σ.agpsReinit_eq resolve_in_addr
  rw [frame]
  exact ⟨keeps.opened, keeps.buffered⟩

theorem KeepsSupl.step {hostname : CString} {port : BitVec 32} {σ τ : LocEngData}
    (keeps : KeepsSupl hostname port σ) {label : Label} (other : keepsSupl σ label)
    (taken : (servers resolve_in_addr).step σ label = some τ) : KeepsSupl hostname port τ := by
  cases label with
  | setServerProxy type name number =>
      obtain rfl := Option.some.inj taken
      have buffered := σ.setServerProxy_buffered resolve_in_addr (.inl rfl) type name number
      rw [if_neg other] at buffered
      have opened := (σ.setServerProxy_eq resolve_in_addr type name number).1
      exact ⟨opened.trans keeps.opened, buffered.trans keeps.buffered⟩
  | init callbacks event =>
      obtain rfl := Option.some.inj taken
      unfold LocEngData.init
      rw [if_pos keeps.opened, ite_self]
      exact keeps
  | agpsInit callbacks =>
      obtain rfl := Option.some.inj taken
      unfold LocEngData.agpsInit
      split
      · exact keeps
      · split
        · exact keeps
        · split
          · exact keeps
          · exact KeepsSupl.reinit ⟨keeps.opened, keeps.buffered⟩
  | handleEngineUp =>
      simp only [servers] at taken
      split at taken
      · obtain rfl := Option.some.inj taken
        unfold LocEngData.handleEngineUp
        split
        · exact keeps.reinit
        · exact keeps
      · cases taken

/-- The URL of a host is that of its buffered beginning exactly if all of it is buffered. -/
theorem suplUrl_strlcpy_iff (hostname : CString) (port : BitVec 32) :
    suplUrl (hostname.strlcpy HOST_BUF_SIZE) port = suplUrl hostname port ↔
      hostname.text.length ≤ 100 := by
  have text : (hostname.strlcpy HOST_BUF_SIZE).text = hostname.text.take 100 := rfl
  constructor
  · intro same
    apply Nat.le_of_not_lt
    intro long
    have cut : (hostname.text.take 100).length = 100 := by
      rw [List.length_take]
      omega
    have named : ¬ strncasecmp 5 "NONE".toList hostname.text = true := fun none =>
      absurd (strncasecmp_none_length none) (by omega)
    have named_cut : ¬ strncasecmp 5 "NONE".toList (hostname.strlcpy HOST_BUF_SIZE).text = true :=
      fun none => absurd (strncasecmp_none_length none) (by rw [text, cut]; decide)
    have lengths := congrArg Prod.snd same
    unfold suplUrl at lengths
    rw [if_neg named, if_neg named_cut] at lengths
    simp only [text, List.length_append, cut] at lengths
    omega
  · intro fits
    have whole : hostname.strlcpy HOST_BUF_SIZE = hostname := by
      cases hostname
      simp only [CString.strlcpy, HOST_BUF_SIZE, CString.mk.injEq]
      exact List.take_of_length_le fits
    rw [whole]

variable (resolve_in_addr)

/-- However the engine goes on from setting a SUPL server, an engine restart sends the
same URL again exactly if the AGPS interface is initialized and the host fits its buffer. -/
theorem handleEngineUp_replays_iff {σ τ : LocEngData} (opened : σ.adapter = true)
    {hostname : CString} {port : BitVec 32} {url : List Char} {len : Nat}
    (sends : (σ.setServerProxy resolve_in_addr .supl hostname port).sentFor .supl =
      σ.sentFor .supl ++ [.setServerUrl url len])
    (between : ((servers resolve_in_addr).startingAt
      (σ.setServerProxy resolve_in_addr .supl hostname port)).ReachableUnder keepsSupl τ) :
    (τ.handleEngineUp resolve_in_addr).sentFor .supl =
        τ.sentFor .supl ++ [.setServerUrl url len] ↔
      τ.agps_status_cb = true ∧ hostname.text.length ≤ 100 := by
  have keeps : KeepsSupl hostname port τ := by
    apply between.invariant (KeepsSupl hostname port)
    · rintro state rfl
      exact keepsSupl_set opened hostname port
    · intro before label after _ keeps other taken
      exact keeps.step other taken
  rw [σ.setServerProxy_sentFor, if_pos ⟨rfl, opened⟩] at sends
  have made : LocEngData.setServerMsg resolve_in_addr .supl hostname port =
      some (.setServerUrl url len) :=
    Option.toList_eq_singleton_iff.mp (List.append_cancel_left sends)
  obtain ⟨direct, fits⟩ := (LocEngData.setServerMsg_supl_iff resolve_in_addr).mp made
  have replayed := LocEngData.replayMsg_some resolve_in_addr keeps.buffered
  unfold LocEngData.handleEngineUp
  split
  · rename_i agps
    rw [τ.agpsReinit_sentFor resolve_in_addr (.inl rfl), replayed, List.append_right_inj]
    have again : (LocEngData.setServerMsg resolve_in_addr .supl
        (hostname.strlcpy HOST_BUF_SIZE) port).toList = [.setServerUrl url len] ↔
        suplUrl (hostname.strlcpy HOST_BUF_SIZE) port = suplUrl hostname port := by
      rw [direct]
      constructor
      · intro same
        exact ((LocEngData.setServerMsg_supl_iff resolve_in_addr).mp
          (Option.toList_eq_singleton_iff.mp same)).1
      · intro same
        exact Option.toList_eq_singleton_iff.mpr
          ((LocEngData.setServerMsg_supl_iff resolve_in_addr).mpr ⟨same, fits⟩)
    rw [again, suplUrl_strlcpy_iff]
    exact ⟨fun short => ⟨agps, short⟩, And.right⟩
  · rename_i unset
    refine ⟨fun same => ?_, fun both => absurd both.1 unset⟩
    have lengths := congrArg List.length same
    rw [List.length_append, List.length_singleton] at lengths
    omega

/-- An engine with both of its interfaces initialized. -/
def initialized : LocEngData :=
  { LocEngData.blank [] with adapter := true, agps_status_cb := true }

theorem handleEngineUp_replays_short :
    ((initialized.setServerProxy (fun _ => none) .supl ⟨"supl".toList, by decide⟩
        7275).handleEngineUp (fun _ => none)).sentFor .supl =
      (initialized.setServerProxy (fun _ => none) .supl ⟨"supl".toList, by decide⟩
        7275).sentFor .supl ++ [.setServerUrl "supl:7275".toList 9] ↔
      initialized.agps_status_cb = true ∧ "supl".toList.length ≤ 100 :=
  handleEngineUp_replays_iff (fun _ => none) rfl (by decide) (.start rfl)

/-- The host that the engine was given, of 101 characters, is cut when it is buffered. -/
theorem handleEngineUp_replay_cut :
    ¬ ∀ (hostname : CString) (port : BitVec 32) (url : List Char) (len : Nat),
      (initialized.setServerProxy (fun _ => none) .supl hostname port).sentFor .supl =
        initialized.sentFor .supl ++ [.setServerUrl url len] →
      ((initialized.setServerProxy (fun _ => none) .supl hostname port).handleEngineUp
          (fun _ => none)).sentFor .supl =
        (initialized.setServerProxy (fun _ => none) .supl hostname port).sentFor .supl ++
          [.setServerUrl url len] := by
  intro same
  have again := same ⟨List.replicate 101 'h', by decide⟩ 7275
    (List.replicate 101 'h' ++ ":7275".toList) 106 (by decide)
  exact absurd again (by decide)

end A5Common.Server

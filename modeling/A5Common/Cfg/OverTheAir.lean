import A5Common.Cfg.GpsConf
import A5Common.Cfg.Update

set_option autoImplicit false

namespace A5Common.Cfg

open A5Common.Run

variable {F : Type}

def gpsTable : ParamTable GpsField Empty :=
  { entries := gpsConfTable
    fits := by decide
    ownVariable := by decide +kernel
    ownFlag := by decide +kernel }

def GpsField.type : GpsField → Char
  | .XTRA_SERVER_1 => 's'
  | .XTRA_SERVER_2 => 's'
  | .XTRA_SERVER_3 => 's'
  | _ => 'n'

theorem number_asNumber {v : Value F} (typed : v.type = 'n') : .number v.asNumber = v := by
  cases v with
  | number value => rfl
  | string text => exact absurd typed (show ¬ 's' = 'n' by decide)
  | float value => exact absurd typed (show ¬ 'f' = 'n' by decide)

theorem string_asString {v : Value F} (typed : v.type = 's') : .string v.asString = v := by
  cases v with
  | string text => rfl
  | number value => exact absurd typed (show ¬ 'n' = 's' by decide)
  | float value => exact absurd typed (show ¬ 'f' = 's' by decide)

/-- Contents of the right types are held by the fields as they are. -/
theorem value_ofValue {value : GpsField → Value F}
    (typed : ∀ field, (value field).type = field.type) (field : GpsField) :
    (LocGpsCfg.ofValue value).value field = value field := by
  have here := typed field
  cases field <;> first | exact number_asNumber here | exact string_asString here

/-- A text that is stored fits a field of `MAX_XTRA_SERVER_URL_LENGTH` bytes. -/
theorem stored_fits {param_type : Char} {v : LocParamV F} {text : List Char}
    (set : stored param_type v = some (.string text)) :
    text.length + 1 ≤ MAX_XTRA_SERVER_URL_LENGTH := by
  unfold stored at set
  split at set
  · split at set
    · cases set
      decide
    · cases set
      rw [List.length_take]
      exact Nat.le_trans (Nat.succ_le_succ (Nat.min_le_left _ _)) (by decide)
  · split at set
    · cases set
    · split at set <;> cases set

/-- The table has an entry for each field, with the type of the field. -/
theorem gpsConfTable_entry (field : GpsField) :
    ∃ e ∈ gpsConfTable, e.param_ptr = some field ∧ e.param_type = field.type := by
  cases field <;> decide

theorem gpsConfTable_distinct : (gpsConfTable.map LocParam.param_name).Nodup := by
  decide +kernel

section

variable (platform : Platform F) (malloc : Bool) (config_data : List Char) (length : Nat)
  (gps_conf : LocGpsCfg)

/-- The lines of an update over the air that its budget allows. -/
def carrierLines : List (LocParamV F) :=
  spend (fills gpsConfTable) (updateBudget malloc gpsTable)
    (nameValues platform (received (some config_data) length))

variable {e : LocParam GpsField Empty} (mem : e ∈ gpsConfTable) {field : GpsField}
  (own : e.param_ptr = some field)

include mem own

theorem gpsConfTable_updated :
    (locUpdateConf platform malloc (some config_data) length gpsConfTable
        { value := gps_conf.value, set := Empty.elim }).2.value field =
      (e.lastTaken (carrierLines platform malloc config_data length)).getD
        (gps_conf.value field) := by
  have updated := locUpdateConf_eq platform malloc (some config_data) length gpsTable
    gpsConfTable_distinct { value := gps_conf.value, set := Empty.elim }
  have applied := gpsTable.setAll_value mem own
    (carrierLines platform malloc config_data length)
    { value := gps_conf.value, set := Empty.elim }
  exact (congrArg (fun conf => conf.value field) updated).trans applied

/-- A field has the value of the last line for it, or else the one that it had. -/
theorem utilUpdateConf_value :
    (utilUpdateConf platform malloc config_data length gps_conf).value field =
      (e.lastTaken (carrierLines platform malloc config_data length)).getD
        (gps_conf.value field) := by
  unfold utilUpdateConf
  rw [value_ofValue]
  · exact gpsConfTable_updated platform malloc config_data length gps_conf mem own
  · intro field
    obtain ⟨e, mem, own, same⟩ := gpsConfTable_entry field
    rw [gpsConfTable_updated platform malloc config_data length gps_conf mem own]
    cases last : e.lastTaken (carrierLines platform malloc config_data length) with
    | none => cases field <;> rfl
    | some value =>
        obtain ⟨v, -, taken⟩ := lastTaken_mem last
        exact (e.taken_type taken).trans same

end

/-- A text that is received has room in its field. -/
theorem utilUpdateConf_text (platform : Platform F) (malloc : Bool) (config_data : List Char)
    (length : Nat) (gps_conf : LocGpsCfg) {field : GpsField} {text : List Char}
    (set : (utilUpdateConf platform malloc config_data length gps_conf).value field =
      (.string text : Value F)) :
    gps_conf.value field = (.string text : Value F) ∨
      text.length + 1 ≤ MAX_XTRA_SERVER_URL_LENGTH := by
  obtain ⟨e, mem, own, -⟩ := gpsConfTable_entry field
  rw [utilUpdateConf_value platform malloc config_data length gps_conf mem own] at set
  cases last : e.lastTaken (carrierLines platform malloc config_data length) with
  | none =>
      rw [last] at set
      exact Or.inl set
  | some value =>
      rw [last, Option.getD_some] at set
      obtain ⟨v, -, taken⟩ := lastTaken_mem last
      rw [LocParam.taken] at taken
      split at taken
      · exact Or.inr (stored_fits (taken.trans (congrArg some set)))
      · cases taken

/-- The urls of a configuration, each with a field of `MAX_XTRA_SERVER_URL_LENGTH` bytes. -/
def LocGpsCfg.urls (gps_conf : LocGpsCfg) : List (List Char) :=
  [gps_conf.XTRA_SERVER_1, gps_conf.XTRA_SERVER_2, gps_conf.XTRA_SERVER_3]

/-- Whatever is received over the air, the urls keep to their fields while it is applied. -/
theorem utilUpdateConf_fits (platform : Platform F) (malloc : Bool) (config_data : List Char)
    (length : Nat) {gps_conf : LocGpsCfg}
    (fits : ∀ url ∈ gps_conf.urls, url.length + 1 ≤ MAX_XTRA_SERVER_URL_LENGTH) :
    ∀ url ∈ (utilUpdateConf platform malloc config_data length gps_conf).urls,
      url.length + 1 ≤ MAX_XTRA_SERVER_URL_LENGTH := by
  have kept : ∀ field text, (gps_conf.value field = (.string text : Value F) →
      text.length + 1 ≤ MAX_XTRA_SERVER_URL_LENGTH) →
      (utilUpdateConf platform malloc config_data length gps_conf).value field =
        (.string text : Value F) → text.length + 1 ≤ MAX_XTRA_SERVER_URL_LENGTH :=
    fun field text before set =>
      (utilUpdateConf_text platform malloc config_data length gps_conf set).elim before id
  simp only [LocGpsCfg.urls, List.forall_mem_cons, List.not_mem_nil, false_implies, implies_true,
    and_true] at fits ⊢
  obtain ⟨one, two, three⟩ := fits
  exact ⟨kept .XTRA_SERVER_1 _ (fun same => Value.string.inj same ▸ one) rfl,
    kept .XTRA_SERVER_2 _ (fun same => Value.string.inj same ▸ two) rfl,
    kept .XTRA_SERVER_3 _ (fun same => Value.string.inj same ▸ three) rfl⟩

/-- The fields that an update over the air may change. -/
def carrierFields : List GpsField :=
  [.SUPL_VER, .LPP_PROFILE, .A_GLONASS_POS_PROTOCOL_SELECT, .SUPL_MODE, .SUPL_ES, .GPS_LOCK,
    .USE_EMERGENCY_PDN_FOR_EMERGENCY_SUPL]

/-- After an update, such a field has the value of the last line for it. -/
theorem carrierFields_value (platform : Platform F) (malloc : Bool) (adapter : Option Bool)
    (config_data : List Char) {length : Int} (long : 0 < length) (gps_conf : LocGpsCfg)
    {e : LocParam GpsField Empty} (mem : e ∈ gpsConfTable) {field : GpsField}
    (own : e.param_ptr = some field) (carrier : field ∈ carrierFields) :
    (locEngConfigurationUpdate platform malloc adapter (some config_data) length
        gps_conf).2.value field =
      (e.lastTaken (carrierLines platform malloc config_data length.toNat)).getD
        (gps_conf.value field) := by
  rw [← utilUpdateConf_value platform malloc config_data length.toNat gps_conf mem own]
  simp only [locEngConfigurationUpdate, long, if_true]
  cases field <;> first | rfl | exact absurd carrier (by decide)

/-- The other fields are put back. -/
theorem otherFields_value (platform : Platform F) (malloc : Bool) (adapter : Option Bool)
    (config_data : Option (List Char)) (length : Int) (gps_conf : LocGpsCfg) {field : GpsField}
    (outside : field ∉ carrierFields) :
    ((locEngConfigurationUpdate platform malloc adapter config_data length
      gps_conf).2.value field : Value F) = gps_conf.value field := by
  cases config_data with
  | none => rfl
  | some config_data =>
      simp only [locEngConfigurationUpdate]
      split
      · cases field <;> first | rfl | exact absurd (by decide) outside
      · rfl

def LocMsg.carried : LocMsg → Option (BitVec 32)
  | .LocEngSuplVer mSuplVer => some mSuplVer
  | .LocEngLppConfig mLppConfig => some mLppConfig
  | .LocEngAGlonassProtocol mAGlonassProtocl => some mAGlonassProtocl
  | .LocEngSuplMode => none
  | .LocEngAdapterGpsLock mLockMask => some mLockMask

/-- Each of four messages is sent once if its field has changed, and not otherwise. Three
of them carry the new value, and the fourth leads to a call with the capabilities of
the time when it is processed. -/
structure Informed (before after : LocGpsCfg) (sent : List LocMsg) : Prop where
  suplVer : ∀ v, sent.count (.LocEngSuplVer v) =
    if before.SUPL_VER ≠ after.SUPL_VER ∧ after.SUPL_VER = v then 1 else 0
  lppConfig : ∀ v, sent.count (.LocEngLppConfig v) =
    if before.LPP_PROFILE ≠ after.LPP_PROFILE ∧ after.LPP_PROFILE = v then 1 else 0
  aGlonassProtocol : ∀ v, sent.count (.LocEngAGlonassProtocol v) =
    if before.A_GLONASS_POS_PROTOCOL_SELECT ≠ after.A_GLONASS_POS_PROTOCOL_SELECT ∧
      after.A_GLONASS_POS_PROTOCOL_SELECT = v then 1 else 0
  suplMode : sent.count .LocEngSuplMode =
    if before.SUPL_MODE ≠ after.SUPL_MODE then 1 else 0
  capabilities : ∀ later v, (sent.map (LocMsg.proc later)).count (.setCapabilities v) =
    if before.SUPL_MODE ≠ after.SUPL_MODE ∧ later.getCarrierCapabilities = v then 1 else 0

theorem count_map_guarded {α β : Type} [DecidableEq β] (f : α → β) (changed : Prop)
    [Decidable changed] (msg : α) (b : β) :
    ((if changed then [msg] else []).map f).count b = if changed ∧ f msg = b then 1 else 0 := by
  by_cases sent : changed
  · simp only [sent, if_true, List.map_cons, List.map_nil, List.count_singleton, true_and,
      beq_iff_eq]
  · simp only [sent, if_false, List.map_nil, List.count_nil, false_and]

/-- What the messages are mapped to is counted one message at a time. -/
theorem count_map_updateMsgs {β : Type} [DecidableEq β] (f : LocMsg → β) (b : β)
    (powerVote : Bool) (before after : LocGpsCfg) :
    ((updateMsgs powerVote before after).map f).count b =
      (if before.SUPL_VER ≠ after.SUPL_VER ∧ f (.LocEngSuplVer after.SUPL_VER) = b then 1
        else 0) +
      (if before.LPP_PROFILE ≠ after.LPP_PROFILE ∧
          f (.LocEngLppConfig after.LPP_PROFILE) = b then 1 else 0) +
      (if before.A_GLONASS_POS_PROTOCOL_SELECT ≠ after.A_GLONASS_POS_PROTOCOL_SELECT ∧
          f (.LocEngAGlonassProtocol after.A_GLONASS_POS_PROTOCOL_SELECT) = b then 1 else 0) +
      (if before.SUPL_MODE ≠ after.SUPL_MODE ∧ f .LocEngSuplMode = b then 1 else 0) +
      (if f (.LocEngAdapterGpsLock (if powerVote = true then 0 else after.GPS_LOCK)) = b then 1
        else 0) := by
  simp only [updateMsgs, List.map_append, List.count_append, count_map_guarded, List.map_cons,
    List.map_nil, List.count_singleton, beq_iff_eq]

theorem updateMsgs_informed (powerVote : Bool) (before after : LocGpsCfg) :
    Informed before after (updateMsgs powerVote before after) where
  suplVer := by
    intro v
    have counted := count_map_updateMsgs id (.LocEngSuplVer v) powerVote before after
    rw [List.map_id] at counted
    simp only [counted, id_eq, LocMsg.LocEngSuplVer.injEq, reduceCtorEq, and_false, if_false,
      Nat.add_zero]
  lppConfig := by
    intro v
    have counted := count_map_updateMsgs id (.LocEngLppConfig v) powerVote before after
    rw [List.map_id] at counted
    simp only [counted, id_eq, LocMsg.LocEngLppConfig.injEq, reduceCtorEq, and_false, if_false,
      Nat.add_zero, Nat.zero_add]
  aGlonassProtocol := by
    intro v
    have counted := count_map_updateMsgs id (.LocEngAGlonassProtocol v) powerVote before after
    rw [List.map_id] at counted
    simp only [counted, id_eq, LocMsg.LocEngAGlonassProtocol.injEq, reduceCtorEq, and_false,
      if_false, Nat.add_zero, Nat.zero_add]
  suplMode := by
    have counted := count_map_updateMsgs id .LocEngSuplMode powerVote before after
    rw [List.map_id] at counted
    simp only [counted, id_eq, reduceCtorEq, and_false, and_true, if_false, Nat.add_zero,
      Nat.zero_add]
  capabilities := by
    intro later v
    rw [count_map_updateMsgs]
    simp only [LocMsg.proc, Call.setCapabilities.injEq, reduceCtorEq, and_false, if_false,
      Nat.add_zero, Nat.zero_add]

/-- An update sends nothing as long as nothing has changed. -/
theorem Informed.silent (gps_conf : LocGpsCfg) : Informed gps_conf gps_conf [] := by
  constructor <;> simp only [ne_eq, not_true, false_and, if_false, List.map_nil, List.count_nil,
    implies_true]

/-- An update over the air changes no field but those for the carrier, and informs the
adapter of those that it has changed. -/
theorem configuration_update (platform : Platform F) (malloc : Bool)
    (config_data : Option (List Char)) (length : Int) (gps_conf : LocGpsCfg) :
    (∀ adapter, ∀ field : GpsField, field ∉ carrierFields →
      ((locEngConfigurationUpdate platform malloc adapter config_data length
        gps_conf).2.value field : Value F) = gps_conf.value field) ∧
      ∀ powerVote, Informed gps_conf
        (locEngConfigurationUpdate platform malloc (some powerVote) config_data length
          gps_conf).2
        (locEngConfigurationUpdate platform malloc (some powerVote) config_data length
          gps_conf).1 := by
  refine ⟨fun adapter field outside => otherFields_value platform malloc adapter config_data
    length gps_conf outside, fun powerVote => ?_⟩
  cases config_data with
  | none => exact Informed.silent gps_conf
  | some config_data =>
      simp only [locEngConfigurationUpdate]
      split
      · have informed := updateMsgs_informed powerVote gps_conf
          (utilUpdateConf platform malloc config_data length.toNat gps_conf)
        exact ⟨informed.suplVer, informed.lppConfig, informed.aGlonassProtocol,
          informed.suplMode, informed.capabilities⟩
      · exact Informed.silent gps_conf

/-- The configuration of `ContextBase` before a file is read. -/
def mGpsConf : LocGpsCfg :=
  LocGpsCfg.ofValue (fun _ => (.number 0 : Value Unit))

/-- A changed mode is not carried by its message. -/
theorem supl_mode_not_carried :
    ∃ sent ∈ (locEngConfigurationUpdate lp64 true (some false) (some "SUPL_MODE=1\n".toList) 12
        mGpsConf).1,
      sent = .LocEngSuplMode ∧
        sent.carried ≠ some (locEngConfigurationUpdate lp64 true (some false)
          (some "SUPL_MODE=1\n".toList) 12 mGpsConf).2.SUPL_MODE := by
  refine ⟨.LocEngSuplMode, by decide, rfl, ?_⟩
  intro carried
  cases carried

theorem LocGpsCfg.eq_of_value {before after : LocGpsCfg}
    (same : ∀ field, (after.value field : Value F) = before.value field) : after = before := by
  have equal := congrArg LocGpsCfg.ofValue (funext same)
  rwa [LocGpsCfg.ofValue_value, LocGpsCfg.ofValue_value] at equal

theorem getD_getD {α : Type} (value : Option α) (default : α) :
    value.getD (value.getD default) = value.getD default := by
  cases value <;> rfl

/-- When the same update comes again, the fields for the carrier have its values already. -/
theorem utilUpdateConf_again (platform : Platform F) (malloc : Bool) (adapter : Option Bool)
    (config_data : List Char) {length : Int} (long : 0 < length) (gps_conf : LocGpsCfg)
    {field : GpsField} (carrier : field ∈ carrierFields) :
    (utilUpdateConf platform malloc config_data length.toNat
        (locEngConfigurationUpdate platform malloc adapter (some config_data) length
          gps_conf).2).value field =
      ((locEngConfigurationUpdate platform malloc adapter (some config_data) length
        gps_conf).2.value field : Value F) := by
  obtain ⟨e, mem, own, -⟩ := gpsConfTable_entry field
  rw [utilUpdateConf_value platform malloc config_data length.toNat _ mem own,
    carrierFields_value platform malloc adapter config_data long gps_conf mem own carrier,
    getD_getD]

theorem updateMsgs_unchanged (powerVote : Bool) {before after : LocGpsCfg}
    (same : ∀ field ∈ carrierFields, (after.value field : Value F) = before.value field) :
    updateMsgs powerVote before after =
      [.LocEngAdapterGpsLock (if powerVote = true then 0 else after.GPS_LOCK)] := by
  have suplVer : after.SUPL_VER = before.SUPL_VER :=
    Value.number.inj (same .SUPL_VER (by decide))
  have lppProfile : after.LPP_PROFILE = before.LPP_PROFILE :=
    Value.number.inj (same .LPP_PROFILE (by decide))
  have aGlonass : after.A_GLONASS_POS_PROTOCOL_SELECT = before.A_GLONASS_POS_PROTOCOL_SELECT :=
    Value.number.inj (same .A_GLONASS_POS_PROTOCOL_SELECT (by decide))
  have suplMode : after.SUPL_MODE = before.SUPL_MODE :=
    Value.number.inj (same .SUPL_MODE (by decide))
  simp only [updateMsgs, suplVer, lppProfile, aGlonass, suplMode, ne_eq, not_true, if_false,
    List.nil_append]

/-- The same update over the air for the second time changes nothing, and sends nothing but the
mask for the lock. -/
theorem configuration_update_again (platform : Platform F) (malloc : Bool) (adapter : Option Bool)
    (config_data : Option (List Char)) (length : Int) (gps_conf : LocGpsCfg) :
    let after := (locEngConfigurationUpdate platform malloc adapter config_data length gps_conf).2
    let again := locEngConfigurationUpdate platform malloc adapter config_data length after
    again.2 = after ∧ ∀ msg ∈ again.1, ∃ lock, msg = .LocEngAdapterGpsLock lock := by
  cases config_data with
  | none => exact ⟨rfl, List.forall_mem_nil _⟩
  | some config_data =>
      intro after again
      by_cases long : 0 < length
      · constructor
        · refine LocGpsCfg.eq_of_value (F := F) (fun field => ?_)
          by_cases carrier : field ∈ carrierFields
          · obtain ⟨e, mem, own, -⟩ := gpsConfTable_entry field
            rw [carrierFields_value platform malloc adapter config_data long after mem own carrier,
              carrierFields_value platform malloc adapter config_data long gps_conf mem own carrier,
              getD_getD]
          · exact otherFields_value platform malloc adapter (some config_data) length after carrier
        · cases adapter with
          | none =>
              have sent : again.1 = [] := congrArg Prod.fst (if_pos long)
              rw [sent]
              exact List.forall_mem_nil _
          | some powerVote =>
              have sent : again.1 = updateMsgs powerVote after
                  (utilUpdateConf platform malloc config_data length.toNat after) :=
                congrArg Prod.fst (if_pos long)
              rw [sent, updateMsgs_unchanged powerVote (fun field carrier =>
                utilUpdateConf_again platform malloc (some powerVote) config_data long gps_conf
                  carrier)]
              exact List.forall_mem_singleton.mpr ⟨_, rfl⟩
      · have skipped : again = ([], after) := by
          simp only [again, locEngConfigurationUpdate, long, if_false]
        rw [skipped]
        exact ⟨rfl, List.forall_mem_nil _⟩

end A5Common.Cfg

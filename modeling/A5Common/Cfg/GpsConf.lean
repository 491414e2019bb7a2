import A5Common.Cfg.Param

set_option autoImplicit false

namespace A5Common.Cfg

def MAX_XTRA_SERVER_URL_LENGTH : Nat := 256

structure LocGpsCfg where
  INTERMEDIATE_POS : BitVec 32
  ACCURACY_THRES : BitVec 32
  SUPL_VER : BitVec 32
  SUPL_MODE : BitVec 32
  SUPL_ES : BitVec 32
  CAPABILITIES : BitVec 32
  LPP_PROFILE : BitVec 32
  XTRA_VERSION_CHECK : BitVec 32
  XTRA_SERVER_1 : List Char
  XTRA_SERVER_2 : List Char
  XTRA_SERVER_3 : List Char
  USE_EMERGENCY_PDN_FOR_EMERGENCY_SUPL : BitVec 32
  NMEA_PROVIDER : BitVec 32
  GPS_LOCK : BitVec 32
  A_GLONASS_POS_PROTOCOL_SELECT : BitVec 32
  AGPS_CERT_WRITABLE_MASK : BitVec 32
  LPPE_CP_TECHNOLOGY : BitVec 32
  LPPE_UP_TECHNOLOGY : BitVec 32
deriving DecidableEq

inductive GpsField where
  | INTERMEDIATE_POS
  | ACCURACY_THRES
  | SUPL_VER
  | SUPL_MODE
  | SUPL_ES
  | CAPABILITIES
  | LPP_PROFILE
  | XTRA_VERSION_CHECK
  | XTRA_SERVER_1
  | XTRA_SERVER_2
  | XTRA_SERVER_3
  | USE_EMERGENCY_PDN_FOR_EMERGENCY_SUPL
  | NMEA_PROVIDER
  | GPS_LOCK
  | A_GLONASS_POS_PROTOCOL_SELECT
  | AGPS_CERT_WRITABLE_MASK
  | LPPE_CP_TECHNOLOGY
  | LPPE_UP_TECHNOLOGY
deriving DecidableEq

def gpsConfTable : List (LocParam GpsField Empty) :=
  [⟨"GPS_LOCK".toList, some .GPS_LOCK, none, 'n'⟩,
    ⟨"SUPL_VER".toList, some .SUPL_VER, none, 'n'⟩,
    ⟨"LPP_PROFILE".toList, some .LPP_PROFILE, none, 'n'⟩,
    ⟨"A_GLONASS_POS_PROTOCOL_SELECT".toList, some .A_GLONASS_POS_PROTOCOL_SELECT, none, 'n'⟩,
    ⟨"LPPE_CP_TECHNOLOGY".toList, some .LPPE_CP_TECHNOLOGY, none, 'n'⟩,
    ⟨"LPPE_UP_TECHNOLOGY".toList, some .LPPE_UP_TECHNOLOGY, none, 'n'⟩,
    ⟨"AGPS_CERT_WRITABLE_MASK".toList, some .AGPS_CERT_WRITABLE_MASK, none, 'n'⟩,
    ⟨"SUPL_MODE".toList, some .SUPL_MODE, none, 'n'⟩,
    ⟨"SUPL_ES".toList, some .SUPL_ES, none, 'n'⟩,
    ⟨"INTERMEDIATE_POS".toList, some .INTERMEDIATE_POS, none, 'n'⟩,
    ⟨"ACCURACY_THRES".toList, some .ACCURACY_THRES, none, 'n'⟩,
    ⟨"NMEA_PROVIDER".toList, some .NMEA_PROVIDER, none, 'n'⟩,
    ⟨"CAPABILITIES".toList, some .CAPABILITIES, none, 'n'⟩,
    ⟨"XTRA_VERSION_CHECK".toList, some .XTRA_VERSION_CHECK, none, 'n'⟩,
    ⟨"XTRA_SERVER_1".toList, some .XTRA_SERVER_1, none, 's'⟩,
    ⟨"XTRA_SERVER_2".toList, some .XTRA_SERVER_2, none, 's'⟩,
    ⟨"XTRA_SERVER_3".toList, some .XTRA_SERVER_3, none, 's'⟩,
    ⟨"USE_EMERGENCY_PDN_FOR_EMERGENCY_SUPL".toList,
      some .USE_EMERGENCY_PDN_FOR_EMERGENCY_SUPL, none, 'n'⟩]

variable {F : Type}

def Value.asString : Value F → List Char
  | .string text => text
  | _ => []

def Value.asNumber : Value F → BitVec 32
  | .number value => value
  | _ => 0

namespace LocGpsCfg

/-- The contents of the field that an entry of the table points to. -/
def value (gps_conf : LocGpsCfg) : GpsField → Value F
  | .INTERMEDIATE_POS => .number gps_conf.INTERMEDIATE_POS
  | .ACCURACY_THRES => .number gps_conf.ACCURACY_THRES
  | .SUPL_VER => .number gps_conf.SUPL_VER
  | .SUPL_MODE => .number gps_conf.SUPL_MODE
  | .SUPL_ES => .number gps_conf.SUPL_ES
  | .CAPABILITIES => .number gps_conf.CAPABILITIES
  | .LPP_PROFILE => .number gps_conf.LPP_PROFILE
  | .XTRA_VERSION_CHECK => .number gps_conf.XTRA_VERSION_CHECK
  | .XTRA_SERVER_1 => .string gps_conf.XTRA_SERVER_1
  | .XTRA_SERVER_2 => .string gps_conf.XTRA_SERVER_2
  | .XTRA_SERVER_3 => .string gps_conf.XTRA_SERVER_3
  | .USE_EMERGENCY_PDN_FOR_EMERGENCY_SUPL =>
      .number gps_conf.USE_EMERGENCY_PDN_FOR_EMERGENCY_SUPL
  | .NMEA_PROVIDER => .number gps_conf.NMEA_PROVIDER
  | .GPS_LOCK => .number gps_conf.GPS_LOCK
  | .A_GLONASS_POS_PROTOCOL_SELECT => .number gps_conf.A_GLONASS_POS_PROTOCOL_SELECT
  | .AGPS_CERT_WRITABLE_MASK => .number gps_conf.AGPS_CERT_WRITABLE_MASK
  | .LPPE_CP_TECHNOLOGY => .number gps_conf.LPPE_CP_TECHNOLOGY
  | .LPPE_UP_TECHNOLOGY => .number gps_conf.LPPE_UP_TECHNOLOGY

def ofValue (value : GpsField → Value F) : LocGpsCfg :=
  { INTERMEDIATE_POS := (value .INTERMEDIATE_POS).asNumber
    ACCURACY_THRES := (value .ACCURACY_THRES).asNumber
    SUPL_VER := (value .SUPL_VER).asNumber
    SUPL_MODE := (value .SUPL_MODE).asNumber
    SUPL_ES := (value .SUPL_ES).asNumber
    CAPABILITIES := (value .CAPABILITIES).asNumber
    LPP_PROFILE := (value .LPP_PROFILE).asNumber
    XTRA_VERSION_CHECK := (value .XTRA_VERSION_CHECK).asNumber
    XTRA_SERVER_1 := (value .XTRA_SERVER_1).asString
    XTRA_SERVER_2 := (value .XTRA_SERVER_2).asString
    XTRA_SERVER_3 := (value .XTRA_SERVER_3).asString
    USE_EMERGENCY_PDN_FOR_EMERGENCY_SUPL :=
      (value .USE_EMERGENCY_PDN_FOR_EMERGENCY_SUPL).asNumber
    NMEA_PROVIDER := (value .NMEA_PROVIDER).asNumber
    GPS_LOCK := (value .GPS_LOCK).asNumber
    A_GLONASS_POS_PROTOCOL_SELECT := (value .A_GLONASS_POS_PROTOCOL_SELECT).asNumber
    AGPS_CERT_WRITABLE_MASK := (value .AGPS_CERT_WRITABLE_MASK).asNumber
    LPPE_CP_TECHNOLOGY := (value .LPPE_CP_TECHNOLOGY).asNumber
    LPPE_UP_TECHNOLOGY := (value .LPPE_UP_TECHNOLOGY).asNumber }

theorem ofValue_value (gps_conf : LocGpsCfg) :
    ofValue (gps_conf.value : GpsField → Value F) = gps_conf :=
  rfl

/-- The capabilities without those that the carrier's mode of SUPL excludes. -/
def getCarrierCapabilities (mGps_conf : LocGpsCfg) : BitVec 32 :=
  let carrierMSA : BitVec 32 := 0x2
  let carrierMSB : BitVec 32 := 0x1
  let gpsConfMSA : BitVec 32 := 0x4
  let gpsConfMSB : BitVec 32 := 0x2
  let capabilities := mGps_conf.CAPABILITIES
  let capabilities :=
    if mGps_conf.SUPL_MODE &&& carrierMSA ≠ carrierMSA then capabilities &&& ~~~gpsConfMSA
    else capabilities
  if mGps_conf.SUPL_MODE &&& carrierMSB ≠ carrierMSB then capabilities &&& ~~~gpsConfMSB
  else capabilities

end LocGpsCfg

/-- The messages of an update, with what each carries. -/
inductive LocMsg where
  | LocEngSuplVer (mSuplVer : BitVec 32)
  | LocEngLppConfig (mLppConfig : BitVec 32)
  | LocEngAGlonassProtocol (mAGlonassProtocl : BitVec 32)
  | LocEngSuplMode
  | LocEngAdapterGpsLock (mLockMask : BitVec 32)
deriving DecidableEq

/-- The calls with which the messages are processed. -/
inductive Call where
  | setSUPLVersion (version : BitVec 32)
  | setLPPConfig (profile : BitVec 32)
  | setAGLONASSProtocol (aGlonassProtocol : BitVec 32)
  | setCapabilities (capabilities : BitVec 32)
  | setGpsLock (lock : BitVec 32)
deriving DecidableEq

/-- A message is processed with the configuration of that time. -/
def LocMsg.proc (gps_conf : LocGpsCfg) : LocMsg → Call
  | .LocEngSuplVer mSuplVer => .setSUPLVersion mSuplVer
  | .LocEngLppConfig mLppConfig => .setLPPConfig mLppConfig
  | .LocEngAGlonassProtocol mAGlonassProtocl => .setAGLONASSProtocol mAGlonassProtocl
  | .LocEngSuplMode => .setCapabilities gps_conf.getCarrierCapabilities
  | .LocEngAdapterGpsLock mLockMask => .setGpsLock mLockMask

/-- `UTIL_UPDATE_CONF` of `gps_conf_table`. -/
def utilUpdateConf (platform : Platform F) (malloc : Bool) (config_data : List Char)
    (length : Nat) (gps_conf : LocGpsCfg) : LocGpsCfg :=
  LocGpsCfg.ofValue
    (locUpdateConf platform malloc (some config_data) length gpsConfTable
      { value := gps_conf.value, set := Empty.elim }).2.value

/-- The messages that are sent to an adapter which has a power vote, or has none. -/
def updateMsgs (powerVote : Bool) (gps_conf_tmp gps_conf : LocGpsCfg) : List LocMsg :=
  (if gps_conf_tmp.SUPL_VER ≠ gps_conf.SUPL_VER then [.LocEngSuplVer gps_conf.SUPL_VER]
    else []) ++
  (if gps_conf_tmp.LPP_PROFILE ≠ gps_conf.LPP_PROFILE then
      [.LocEngLppConfig gps_conf.LPP_PROFILE]
    else []) ++
  (if gps_conf_tmp.A_GLONASS_POS_PROTOCOL_SELECT ≠ gps_conf.A_GLONASS_POS_PROTOCOL_SELECT then
      [.LocEngAGlonassProtocol gps_conf.A_GLONASS_POS_PROTOCOL_SELECT]
    else []) ++
  (if gps_conf_tmp.SUPL_MODE ≠ gps_conf.SUPL_MODE then [.LocEngSuplMode] else []) ++
  [.LocEngAdapterGpsLock (if powerVote = true then 0 else gps_conf.GPS_LOCK)]

/-- `loc_eng_configuration_update`, with the power vote of the adapter, if there is one. -/
def locEngConfigurationUpdate (platform : Platform F) (malloc : Bool) (adapter : Option Bool)
    (config_data : Option (List Char)) (length : Int) (gps_conf : LocGpsCfg) :
    List LocMsg × LocGpsCfg :=
  match config_data with
  | some config_data =>
      if 0 < length then
        let gps_conf_tmp := gps_conf
        let gps_conf := utilUpdateConf platform malloc config_data length.toNat gps_conf
        let sent :=
          match adapter with
          | some powerVote => updateMsgs powerVote gps_conf_tmp gps_conf
          | none => []
        (sent,
          { gps_conf_tmp with
            SUPL_VER := gps_conf.SUPL_VER
            LPP_PROFILE := gps_conf.LPP_PROFILE
            A_GLONASS_POS_PROTOCOL_SELECT := gps_conf.A_GLONASS_POS_PROTOCOL_SELECT
            SUPL_MODE := gps_conf.SUPL_MODE
            SUPL_ES := gps_conf.SUPL_ES
            GPS_LOCK := gps_conf.GPS_LOCK
            USE_EMERGENCY_PDN_FOR_EMERGENCY_SUPL :=
              gps_conf.USE_EMERGENCY_PDN_FOR_EMERGENCY_SUPL })
      else ([], gps_conf)
  | none => ([], gps_conf)

end A5Common.Cfg

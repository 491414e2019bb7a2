import A5Common.Run.SetBits
import Mathlib.Data.BitVec

set_option autoImplicit false

namespace A5Common.Engine.Certificates

open A5Common.Run

/-- A certificate, with at least as much memory as its length says. -/
structure DerEncodedCertificate where
  length : Nat
  data : List UInt8
  readable : length ≤ data.length
deriving DecidableEq

def DerEncodedCertificate.bytes (certificate : DerEncodedCertificate) : List UInt8 :=
  certificate.data.take certificate.length

def AGPS_CERTIFICATE_MAX_LENGTH : Nat := 2000

inductive AgpsCertificateResult where
  | operationSuccess
  | errorTooManyCertificates
  | errorGeneric
deriving DecidableEq

/-- The message that installs certificates. -/
structure LocEngInstallAGpsCert where
  mpData : List DerEncodedCertificate
  mNumberOfCerts : Nat
  mSlotBitMask : BitVec 32
deriving DecidableEq

/-- A copy of a certificate. Neither array of the copies is `NULL`. -/
def DerEncodedCertificate.copy (pData : DerEncodedCertificate) : DerEncodedCertificate where
  length := pData.length
  data := pData.data.take pData.length
  readable := by
    rw [List.length_take]
    exact Nat.le_min.mpr ⟨Nat.le_refl _, pData.readable⟩

/-- The constructor of the message, which copies the certificates. -/
def LocEngInstallAGpsCert.new (pData : List DerEncodedCertificate) (slotBitMask : BitVec 32) :
    LocEngInstallAGpsCert where
  mpData := pData.map DerEncodedCertificate.copy
  mNumberOfCerts := pData.length
  mSlotBitMask := slotBitMask

theorem toNat_clear {slotBitMaskCounter : BitVec 32} (some : slotBitMaskCounter ≠ 0) :
    slotBitMaskCounter.toNat ≠ 0 ∧
      (slotBitMaskCounter &&& (slotBitMaskCounter - 1)).toNat =
        slotBitMaskCounter.toNat &&& (slotBitMaskCounter.toNat - 1) := by
  have positive : slotBitMaskCounter.toNat ≠ 0 := fun zero => some (BitVec.eq_of_toNat_eq zero)
  have one : (1 : BitVec 32) ≤ slotBitMaskCounter := by
    rw [BitVec.le_def]
    show 1 ≤ slotBitMaskCounter.toNat
    omega
  refine ⟨positive, ?_⟩
  rw [BitVec.toNat_and, BitVec.toNat_sub_of_le one]
  rfl

theorem counter_lt {slotBitMaskCounter : BitVec 32} (some : slotBitMaskCounter ≠ 0) :
    (slotBitMaskCounter &&& (slotBitMaskCounter - 1)).toNat < slotBitMaskCounter.toNat := by
  obtain ⟨positive, clear⟩ := toNat_clear some
  rw [clear]
  exact and_pred_lt positive

/-- The loop that counts the slots of a mask. -/
def countSlots (slotBitMaskCounter slotCount : BitVec 32) : BitVec 32 :=
  if some : slotBitMaskCounter = 0 then slotCount
  else countSlots (slotBitMaskCounter &&& (slotBitMaskCounter - 1)) (slotCount + 1)
termination_by slotBitMaskCounter.toNat
decreasing_by exact counter_lt some

/-- The loop that looks at the lengths. -/
def validate : List DerEncodedCertificate → AgpsCertificateResult
  | [] => .operationSuccess
  | certificate :: rest =>
      if AGPS_CERTIFICATE_MAX_LENGTH < certificate.length then .errorGeneric else validate rest

/-- `loc_eng_agps_install_certificates`, with the messages that it sends. -/
def locEngAgpsInstallCertificates (adapter : Bool) (AGPS_CERT_WRITABLE_MASK : BitVec 32)
    (certificates : List DerEncodedCertificate) :
    AgpsCertificateResult × List LocEngInstallAGpsCert :=
  let slotBitMask := AGPS_CERT_WRITABLE_MASK
  let slotCount := countSlots slotBitMask 0
  if certificates.length = 0 then (.operationSuccess, [])
  else if adapter = false then (.errorGeneric, [])
  else if slotCount.toNat < certificates.length then (.errorTooManyCertificates, [])
  else
    let ret_val := validate certificates
    if ret_val = .operationSuccess then (ret_val, [.new certificates slotBitMask])
    else (ret_val, [])

/-- Each round takes one bit off the mask, and the count does not wrap. -/
theorem toNat_countSlots (slotBitMaskCounter slotCount : BitVec 32)
    (fits : slotCount.toNat + setBits 32 slotBitMaskCounter.toNat < 4294967296) :
    (countSlots slotBitMaskCounter slotCount).toNat =
      slotCount.toNat + setBits 32 slotBitMaskCounter.toNat := by
  induction slotBitMaskCounter, slotCount using countSlots.induct with
  | case1 slotCount =>
      rw [countSlots, dif_pos rfl]
      show _ = slotCount.toNat + setBits 32 0
      rw [setBits_zero, Nat.add_zero]
  | case2 slotBitMaskCounter slotCount some ih =>
      obtain ⟨positive, clear⟩ := toNat_clear some
      have fewer := setBits_and_pred positive slotBitMaskCounter.isLt
      have next : (slotCount + 1).toNat = slotCount.toNat + 1 := by
        rw [BitVec.toNat_add]
        exact Nat.mod_eq_of_lt (show slotCount.toNat + 1 < 4294967296 by omega)
      rw [clear, next] at ih
      rw [countSlots, dif_neg some, ih (by omega)]
      omega

/-- The bits of a mask that are set. -/
def slots (mask : BitVec 32) : Nat :=
  setBits 32 mask.toNat

theorem countSlots_eq (mask : BitVec 32) : (countSlots mask 0).toNat = slots mask := by
  have most := setBits_le 32 mask.toNat
  have zero : (0 : BitVec 32).toNat = 0 := rfl
  rw [toNat_countSlots mask 0 (by omega), zero, Nat.zero_add]
  rfl

theorem validate_eq (certificates : List DerEncodedCertificate) :
    validate certificates = .operationSuccess ↔
      ∀ certificate ∈ certificates, certificate.length ≤ AGPS_CERTIFICATE_MAX_LENGTH := by
  induction certificates with
  | nil => exact iff_of_true rfl (fun _ none => absurd none List.not_mem_nil)
  | cons certificate rest ih =>
      rw [validate, List.forall_mem_cons]
      by_cases long : AGPS_CERTIFICATE_MAX_LENGTH < certificate.length
      · rw [if_pos long]
        constructor
        · intro failed
          cases failed
        · intro all
          exact absurd all.1 (Nat.not_le.mpr long)
      · rw [if_neg long, ih]
        exact (and_iff_right (Nat.not_lt.mp long)).symm

/-- The adapter exists, and there are certificates, no more than slots and none too long. -/
structure Installable (adapter : Bool) (mask : BitVec 32)
    (certificates : List DerEncodedCertificate) : Prop where
  adapter : adapter = true
  some : certificates ≠ []
  slots : certificates.length ≤ slots mask
  short : ∀ certificate ∈ certificates, certificate.length ≤ AGPS_CERTIFICATE_MAX_LENGTH

/-- A message carries some certificates byte for byte, in order. -/
structure Carries (message : LocEngInstallAGpsCert) (mask : BitVec 32)
    (certificates : List DerEncodedCertificate) : Prop where
  number : message.mNumberOfCerts = certificates.length
  lengths : message.mpData.map DerEncodedCertificate.length =
    certificates.map DerEncodedCertificate.length
  bytes : message.mpData.map DerEncodedCertificate.bytes =
    certificates.map DerEncodedCertificate.bytes
  mask : message.mSlotBitMask = mask

theorem new_carries (certificates : List DerEncodedCertificate) (mask : BitVec 32) :
    Carries (.new certificates mask) mask certificates := by
  refine ⟨rfl, ?_, ?_, rfl⟩
  · rw [LocEngInstallAGpsCert.new, List.map_map]
    rfl
  · rw [LocEngInstallAGpsCert.new, List.map_map]
    apply List.map_congr_left
    intro certificate _
    show (certificate.data.take certificate.length).take certificate.length = _
    rw [List.take_take, Nat.min_self]
    rfl

/-- The certificates are sent, all in one message, or none is, and success is what the
caller is told of them and of an empty list. -/
structure AllOrNone (adapter : Bool) (mask : BitVec 32)
    (certificates : List DerEncodedCertificate) : Prop where
  sent : Installable adapter mask certificates →
    ∃ message, (locEngAgpsInstallCertificates adapter mask certificates).2 = [message] ∧
      Carries message mask certificates
  unsent : ¬ Installable adapter mask certificates →
    (locEngAgpsInstallCertificates adapter mask certificates).2 = []
  success : (locEngAgpsInstallCertificates adapter mask certificates).1 = .operationSuccess ↔
    Installable adapter mask certificates ∨ certificates = []

/-- What an installation that can be done comes to. -/
theorem install_installable {adapter : Bool} {mask : BitVec 32}
    {certificates : List DerEncodedCertificate}
    (installable : Installable adapter mask certificates) :
    locEngAgpsInstallCertificates adapter mask certificates =
      (.operationSuccess, [.new certificates mask]) := by
  have some : certificates.length ≠ 0 := List.length_pos_iff.mpr installable.some |>.ne'
  obtain rfl := installable.adapter
  have room : ¬ (countSlots mask 0).toNat < certificates.length := by
    rw [countSlots_eq]
    exact Nat.not_lt.mpr installable.slots
  have valid := (validate_eq certificates).mpr installable.short
  simp only [locEngAgpsInstallCertificates, some, room, valid, if_false, if_true, Bool.true_eq_false]

/-- Any other one sends nothing, and fails unless there is nothing to install. -/
theorem install_other {adapter : Bool} {mask : BitVec 32}
    {certificates : List DerEncodedCertificate}
    (other : ¬ Installable adapter mask certificates) :
    (locEngAgpsInstallCertificates adapter mask certificates).2 = [] ∧
      ((locEngAgpsInstallCertificates adapter mask certificates).1 = .operationSuccess ↔
        certificates = []) := by
  by_cases none : certificates.length = 0
  · unfold locEngAgpsInstallCertificates
    dsimp only
    rw [if_pos none]
    exact ⟨rfl, iff_of_true rfl (List.length_eq_zero_iff.mp none)⟩
  · have some : certificates ≠ [] := fun empty => none (List.length_eq_zero_iff.mpr empty)
    have failed : ∀ result : AgpsCertificateResult, result ≠ .operationSuccess →
        (result = .operationSuccess ↔ certificates = []) :=
      fun result error => iff_of_false error some
    unfold locEngAgpsInstallCertificates
    dsimp only
    rw [if_neg none]
    by_cases absent : adapter = false
    · rw [if_pos absent]
      exact ⟨rfl, failed _ (by decide)⟩
    · rw [if_neg absent]
      by_cases full : (countSlots mask 0).toNat < certificates.length
      · rw [if_pos full]
        exact ⟨rfl, failed _ (by decide)⟩
      · rw [if_neg full]
        have long : validate certificates ≠ .operationSuccess := by
          intro valid
          rw [countSlots_eq, Nat.not_lt] at full
          exact other ⟨Bool.eq_true_of_not_eq_false absent, some, full,
            (validate_eq certificates).mp valid⟩
        rw [if_neg long]
        exact ⟨rfl, failed _ long⟩

theorem install_all_or_none (adapter : Bool) (mask : BitVec 32)
    (certificates : List DerEncodedCertificate) : AllOrNone adapter mask certificates := by
  by_cases installable : Installable adapter mask certificates
  · have done := install_installable installable
    constructor
    · intro _
      rw [done]
      exact ⟨_, rfl, new_carries certificates mask⟩
    · intro other
      exact absurd installable other
    · rw [done]
      exact iff_of_true rfl (Or.inl installable)
  · obtain ⟨unsent, success⟩ := install_other installable
    constructor
    · intro possible
      exact absurd possible installable
    · intro _
      exact unsent
    · rw [success]
      exact (or_iff_right installable).symm

end A5Common.Engine.Certificates

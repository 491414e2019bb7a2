import A5Common.Cfg.GpsConf
import A5Common.Utils.CString

set_option autoImplicit false

namespace A5Common.Engine.XtraServers

open A5Common.Run
open A5Common.Cfg (LocGpsCfg cString tolower)
open A5Common.Utils

def XTRA1_GPSONEXTRA : List Char := "xtra1.gpsonextra.net".toList

/-- `strcasestr`, with the rest of the text from where the other one is found. -/
def strcasestr (needle : List Char) : List Char → Option (List Char)
  | [] => if needle = [] then some [] else none
  | c :: rest =>
      if needle.map tolower <+: (c :: rest).map tolower then some (c :: rest)
      else strcasestr needle rest

/-- A url of the modem, if `gps.conf` does not name one. -/
def overridden (server url : List Char) : List Char :=
  if cString server = [] then url else server

/-- The forwarding buffer and the place in it. -/
structure Forwarding where
  mServers : List Char
  cptr : Nat

/-- The blank buffer of `3*(mMaxLen+1)` characters. There is no result if the `int` overflows, or
if it is negative, for which `new` throws. -/
def newServers (mMaxLen : BitVec 32) : Option (List Char) :=
  if mMaxLen.saddOverflow 1 ∨ BitVec.smulOverflow 3 (mMaxLen + 1) ∨ (3 * (mMaxLen + 1)).msb then
    none
  else some (List.replicate (3 * (mMaxLen + 1)).toNat (Char.ofNat 0))

/-- `mMaxLen + 1` as a `size_t`. -/
def partSize (mMaxLen : BitVec 32) : Nat :=
  ((mMaxLen + 1).signExtend 64).toNat

/-- The forwarding buffer with a copy of a url at its place, if that does not leave it. Nothing is
copied to a part of size 0. -/
def copied (size : Nat) (url : List Char) (forwarding : Forwarding) : Option (List Char) :=
  if size = 0 then some forwarding.mServers
  else
    (strlcpy (forwarding.mServers.drop forwarding.cptr) url size).map fun servers =>
      forwarding.mServers.take forwarding.cptr ++ servers

/-- A url that is forwarded, and the place behind it. -/
def copyUrl (size : Nat) (url : List Char) (forwarding : Forwarding) : Option Forwarding :=
  if strcasestr XTRA1_GPSONEXTRA (cString url) = none then
    (copied size url forwarding).map fun mServers => ⟨mServers, forwarding.cptr + size⟩
  else some forwarding

/-- The last url, behind which no place is needed. -/
def copyLast (size : Nat) (url : List Char) (forwarding : Forwarding) : Option (List Char) :=
  if strcasestr XTRA1_GPSONEXTRA (cString url) = none then copied size url forwarding
  else some forwarding.mServers

/-- A text in memory, if it is terminated there. -/
def readText (memory : List Char) : Option (List Char) :=
  if Char.ofNat 0 ∈ memory then some (cString memory) else none

structure LocEngReportXtraServer where
  mMaxLen : BitVec 32
  mServers : List Char

namespace LocEngReportXtraServer

def new (gps_conf : LocGpsCfg) (url1 url2 url3 : List Char) (maxlength : BitVec 32) :
    Option LocEngReportXtraServer :=
  (newServers maxlength).bind fun mServers =>
    (copyUrl (partSize maxlength) (overridden gps_conf.XTRA_SERVER_1 url1) ⟨mServers, 0⟩).bind
      fun one =>
        (copyUrl (partSize maxlength) (overridden gps_conf.XTRA_SERVER_2 url2) one).bind fun two =>
          (copyLast (partSize maxlength) (overridden gps_conf.XTRA_SERVER_3 url3) two).map
            fun servers => ⟨maxlength, servers⟩

/-- What `report_xtra_server_cb` is given. -/
def proc (msg : LocEngReportXtraServer) : Option (List (List Char)) :=
  [msg.mServers, msg.mServers.drop (msg.mMaxLen + 1).toNat,
    msg.mServers.drop ((msg.mMaxLen + 1) <<< 1).toNat].mapM readText

end LocEngReportXtraServer

theorem strcasestr_eq_none {needle : List Char} {text : List Char} :
    strcasestr needle text = none ↔ ¬ needle.map tolower <:+: text.map tolower := by
  induction text with
  | nil =>
      rw [strcasestr, List.map_nil, List.infix_nil, List.map_eq_nil_iff]
      split
      · rename_i none
        exact iff_of_false (Option.some_ne_none _) (not_not_intro none)
      · rename_i some
        exact iff_of_true rfl some
  | cons c rest ih =>
      rw [strcasestr, List.map_cons, List.infix_cons_iff]
      split
      · rename_i here
        exact iff_of_false (Option.some_ne_none _) (not_not_intro (Or.inl here))
      · rename_i elsewhere
        rw [ih, not_or]
        exact ⟨fun later => ⟨elsewhere, later⟩, And.right⟩

/-- A url that is not forwarded. -/
def Dropped (url : List Char) : Prop :=
  XTRA1_GPSONEXTRA.map tolower <:+: (cString url).map tolower

instance : DecidablePred Dropped := fun url =>
  inferInstanceAs (Decidable (XTRA1_GPSONEXTRA.map tolower <:+: (cString url).map tolower))

/-- The urls that are forwarded, each cut to the length. -/
def forwarded (maxlength : Nat) (urls : List (List Char)) : List (List Char) :=
  (urls.filter (fun url => ¬ Dropped url)).map (fun url => (cString url).take maxlength)

/-- What is reported: the urls that are forwarded, and empty ones up to the third. -/
def reported (maxlength : Nat) (urls : List (List Char)) : List (List Char) :=
  forwarded maxlength urls ++ List.replicate (3 - (forwarded maxlength urls).length) []

/-- A url in its part of a blank buffer. -/
def slot (size : Nat) (url : List Char) : List Char :=
  url ++ List.replicate (size - url.length) (Char.ofNat 0)

def slots (size : Nat) (urls : List (List Char)) : List Char :=
  urls.flatMap (slot size)

section

variable {mMaxLen : Nat} {urls : List (List Char)} {forwarding : Forwarding}

theorem length_slot {url : List Char} {size : Nat} (short : url.length ≤ size) :
    (slot size url).length = size := by
  rw [slot, List.length_append, List.length_replicate]
  omega

theorem length_slots {size : Nat} (short : ∀ url ∈ urls, url.length ≤ size) :
    (slots size urls).length = urls.length * size := by
  unfold slots
  rw [List.length_flatMap, List.map_congr_left (fun url member => length_slot (short url member)),
    List.map_const', List.sum_replicate_nat]

theorem slots_concat (size : Nat) (urls : List (List Char)) (url : List Char) :
    slots size (urls ++ [url]) = slots size urls ++ slot size url := by
  rw [slots, List.flatMap_append, List.flatMap_singleton]
  rfl

/-- The forwarding buffer with urls in front, and blank behind them. -/
structure Filled (mMaxLen : Nat) (urls : List (List Char)) (forwarding : Forwarding) : Prop where
  mServers : forwarding.mServers = slots (mMaxLen + 1) urls ++
    List.replicate ((3 - urls.length) * (mMaxLen + 1)) (Char.ofNat 0)
  cptr : forwarding.cptr = urls.length * (mMaxLen + 1)
  short : ∀ url ∈ urls, url.length ≤ mMaxLen

theorem filled_nil (mMaxLen : Nat) :
    Filled mMaxLen [] ⟨List.replicate (3 * (mMaxLen + 1)) (Char.ofNat 0), 0⟩ where
  mServers := rfl
  cptr := (Nat.zero_mul _).symm
  short := List.forall_mem_nil _

theorem Filled.parts (filled : Filled mMaxLen urls forwarding) :
    forwarding.mServers.take forwarding.cptr = slots (mMaxLen + 1) urls ∧
      forwarding.mServers.drop forwarding.cptr =
        List.replicate ((3 - urls.length) * (mMaxLen + 1)) (Char.ofNat 0) := by
  have length := length_slots (fun url member => Nat.le_succ_of_le (filled.short url member))
  rw [filled.mServers, filled.cptr, ← length]
  exact ⟨List.take_left, List.drop_left⟩

/-- The copy of a url to a blank buffer leaves the buffer behind its part blank. -/
theorem strlcpy_blank (left : Nat) (url : List Char) :
    strlcpy (List.replicate ((left + 1) * (mMaxLen + 1)) (Char.ofNat 0)) url (mMaxLen + 1) =
      some (slot (mMaxLen + 1) ((cString url).take mMaxLen) ++
        List.replicate (left * (mMaxLen + 1)) (Char.ofNat 0)) := by
  have short : ((cString url).take mMaxLen).length ≤ mMaxLen := List.length_take_le _ _
  have room : (left + 1) * (mMaxLen + 1) = left * (mMaxLen + 1) + (mMaxLen + 1) :=
    Nat.succ_mul left (mMaxLen + 1)
  rw [strlcpy, Nat.add_sub_cancel, storeAll, List.length_append, List.length_singleton,
    List.length_replicate, if_pos (by omega), List.drop_replicate, slot, Option.some_inj,
    List.append_assoc, List.append_assoc, List.singleton_append, ← List.replicate_succ,
    List.append_cancel_left_eq, List.replicate_append_replicate]
  congr 1
  omega

/-- What the buffer holds when a url has been copied. -/
theorem Filled.copied (filled : Filled mMaxLen urls forwarding) (room : urls.length < 3)
    (url : List Char) :
    ∃ mServers, copied (mMaxLen + 1) url forwarding = some mServers ∧
      Filled mMaxLen (urls ++ [(cString url).take mMaxLen])
        ⟨mServers, forwarding.cptr + (mMaxLen + 1)⟩ := by
  obtain ⟨before, blank⟩ := filled.parts
  have left : 3 - urls.length = (3 - (urls.length + 1)) + 1 := by omega
  rw [XtraServers.copied, if_neg (Nat.succ_ne_zero mMaxLen), blank, left, before, strlcpy_blank]
  refine ⟨_, rfl, ?_, ?_, ?_⟩
  · rw [slots_concat, List.append_assoc, List.length_append, List.length_singleton]
  · rw [filled.cptr, List.length_append, List.length_singleton, Nat.succ_mul]
  · intro other member
    rcases List.mem_append.mp member with earlier | now
    · exact filled.short other earlier
    · rw [List.mem_singleton.mp now]
      exact List.length_take_le _ _

theorem forwarded_append (maxlength : Nat) (urls more : List (List Char)) :
    forwarded maxlength (urls ++ more) = forwarded maxlength urls ++ forwarded maxlength more := by
  unfold forwarded
  rw [List.filter_append, List.map_append]

theorem copyUrl_filled (filled : Filled mMaxLen urls forwarding) (room : urls.length < 3)
    (url : List Char) :
    ∃ after, copyUrl (mMaxLen + 1) url forwarding = some after ∧
      Filled mMaxLen (urls ++ forwarded mMaxLen [url]) after := by
  unfold copyUrl forwarded
  split
  · rename_i absent
    have kept : ¬ Dropped url := strcasestr_eq_none.mp absent
    obtain ⟨mServers, copied, next⟩ := filled.copied room url
    rw [copied, List.filter_singleton, decide_eq_true kept]
    exact ⟨_, rfl, next⟩
  · rename_i found
    have dropped : Dropped url := not_not.mp (fun kept => found (strcasestr_eq_none.mpr kept))
    rw [List.filter_singleton, decide_eq_false (not_not_intro dropped)]
    refine ⟨_, rfl, ?_⟩
    rw [cond_false, List.map_nil, List.append_nil]
    exact filled

theorem copyLast_eq (size : Nat) (url : List Char) (forwarding : Forwarding) :
    copyLast size url forwarding = (copyUrl size url forwarding).map Forwarding.mServers := by
  unfold copyLast copyUrl
  split
  · rw [Option.map_map]
    exact Option.map_id'.symm
  · rfl

theorem length_forwarded_le (maxlength : Nat) (urls : List (List Char)) :
    (forwarded maxlength urls).length ≤ urls.length := by
  rw [forwarded, List.length_map]
  exact List.length_filter_le _ _

theorem forwarded_clean (maxlength : Nat) (urls : List (List Char)) :
    ∀ url ∈ forwarded maxlength urls, Char.ofNat 0 ∉ url ∧ url.length ≤ maxlength := by
  intro url member
  obtain ⟨whole, -, rfl⟩ := List.mem_map.mp member
  exact ⟨fun mem => cString_clean whole (List.mem_of_mem_take mem), List.length_take_le _ _⟩

theorem readText_terminated {text : List Char} (inside : Char.ofNat 0 ∉ text) (rest : List Char) :
    readText (text ++ Char.ofNat 0 :: rest) = some text := by
  rw [readText, if_pos (List.mem_append_right text List.mem_cons_self), cString_terminated inside]

/-- A slot is read up to its terminator, and a blank one is empty. -/
theorem readText_slots (clean : ∀ url ∈ urls, Char.ofNat 0 ∉ url ∧ url.length ≤ mMaxLen)
    {blank i : Nat} (within : i < urls.length + blank) :
    readText ((slots (mMaxLen + 1) urls ++
      List.replicate (blank * (mMaxLen + 1)) (Char.ofNat 0)).drop (i * (mMaxLen + 1))) =
        some (urls[i]?.getD []) := by
  induction urls generalizing i with
  | nil =>
      rw [List.length_nil, Nat.zero_add] at within
      have room : (i + 1) * (mMaxLen + 1) ≤ blank * (mMaxLen + 1) := Nat.mul_le_mul_right _ within
      rw [Nat.succ_mul] at room
      obtain ⟨left, more⟩ : ∃ left, blank * (mMaxLen + 1) - i * (mMaxLen + 1) = left + 1 :=
        ⟨blank * (mMaxLen + 1) - i * (mMaxLen + 1) - 1, by omega⟩
      rw [slots, List.flatMap_nil, List.nil_append, List.drop_replicate, more,
        List.replicate_succ]
      exact @readText_terminated [] List.not_mem_nil _
  | cons url urls ih =>
      rw [List.forall_mem_cons] at clean
      obtain ⟨⟨inside, short⟩, others⟩ := clean
      rw [slots, List.flatMap_cons, List.append_assoc]
      cases i with
      | zero =>
          rw [Nat.zero_mul, List.drop_zero, slot, Nat.sub_add_comm short, List.replicate_succ,
            List.append_assoc, List.cons_append, readText_terminated inside]
          rfl
      | succ i =>
          have size : (slot (mMaxLen + 1) url).length = mMaxLen + 1 :=
            length_slot (Nat.le_succ_of_le short)
          rw [List.length_cons] at within
          rw [Nat.succ_mul, Nat.add_comm, ← List.drop_drop, List.drop_left' size,
            List.getElem?_cons_succ]
          exact ih others (by omega)

theorem Filled.length (filled : Filled mMaxLen urls forwarding) (few : urls.length ≤ 3) :
    forwarding.mServers.length = 3 * (mMaxLen + 1) := by
  rw [filled.mServers, List.length_append, List.length_replicate,
    length_slots (fun url member => Nat.le_succ_of_le (filled.short url member)), ← Nat.add_mul,
    Nat.add_sub_cancel' few]

/-- What is read at the three places. -/
theorem Filled.read (filled : Filled mMaxLen urls forwarding) (few : urls.length ≤ 3)
    (clean : ∀ url ∈ urls, Char.ofNat 0 ∉ url) :
    [forwarding.mServers, forwarding.mServers.drop (mMaxLen + 1),
      forwarding.mServers.drop (2 * (mMaxLen + 1))].mapM readText =
        some (urls ++ List.replicate (3 - urls.length) []) := by
  have places (i : Nat) (within : i < 3) :
      readText (forwarding.mServers.drop (i * (mMaxLen + 1))) = some (urls[i]?.getD []) := by
    rw [filled.mServers]
    exact readText_slots (fun url member => ⟨clean url member, filled.short url member⟩)
      (by omega)
  have first := places 0 (by decide)
  have second := places 1 (by decide)
  have third := places 2 (by decide)
  rw [Nat.zero_mul, List.drop_zero] at first
  rw [Nat.one_mul] at second
  rw [List.mapM_cons, List.mapM_cons, List.mapM_cons, List.mapM_nil, first, second, third]
  match urls, few with
  | [], _ | [_], _ | [_, _], _ | [_, _, _], _ => rfl

end

/-- A length whose buffer has an `int` as its size, and room for three terminators. -/
def Fits (maxlength : BitVec 32) : Prop :=
  0 ≤ maxlength.toInt ∧ maxlength.toInt ≤ 715827881

instance : DecidablePred Fits := fun maxlength =>
  inferInstanceAs (Decidable (0 ≤ maxlength.toInt ∧ maxlength.toInt ≤ 715827881))

/-- The urls that the report is about: a url of `gps.conf` replaces the one of the modem. -/
def chosen (gps_conf : LocGpsCfg) (url1 url2 url3 : List Char) : List (List Char) :=
  [overridden gps_conf.XTRA_SERVER_1 url1, overridden gps_conf.XTRA_SERVER_2 url2,
    overridden gps_conf.XTRA_SERVER_3 url3]

section

variable {maxlength : BitVec 32}

/-- A buffer that is made has the size that is asked for, without a wrap. -/
theorem newServers_some {mServers : List Char} (made : newServers maxlength = some mServers) :
    (maxlength.toInt = -1 ∨ Fits maxlength) ∧
      mServers = List.replicate (3 * (maxlength.toInt + 1)).toNat (Char.ofNat 0) := by
  unfold newServers at made
  split at made
  · cases made
  · rename_i fits
    cases made
    rw [not_or, not_or, Bool.not_eq_true, Bool.not_eq_true, Bool.not_eq_true] at fits
    obtain ⟨add, mul, sign⟩ := fits
    have one : (1 : BitVec 32).toInt = 1 := by decide
    have three : (3 : BitVec 32).toInt = 3 := by decide
    have size : (3 * (maxlength + 1)).toInt = 3 * (maxlength.toInt + 1) := by
      rw [BitVec.toInt_mul_of_not_smulOverflow (by rw [mul]; exact Bool.false_ne_true),
        BitVec.toInt_add_of_not_saddOverflow (by rw [add]; exact Bool.false_ne_true), one, three]
    have upper := BitVec.toInt_lt (x := 3 * (maxlength + 1))
    have lower : 0 ≤ (3 * (maxlength + 1)).toInt := by
      rw [BitVec.msb_eq_toInt, decide_eq_false_iff_not] at sign
      exact Int.not_lt.mp sign
    rw [size] at upper lower
    refine ⟨?_, ?_⟩
    · unfold Fits
      omega
    · rw [← size, BitVec.toInt_eq_toNat_of_msb sign, Int.toNat_natCast]

/-- The sizes of a buffer that fits, and the places of its second and third part. -/
theorem Fits.sizes (fits : Fits maxlength) :
    newServers maxlength =
        some (List.replicate (3 * (maxlength.toInt.toNat + 1)) (Char.ofNat 0)) ∧
      partSize maxlength = maxlength.toInt.toNat + 1 ∧
      (maxlength + 1).toNat = maxlength.toInt.toNat + 1 ∧
      ((maxlength + 1) <<< 1).toNat = 2 * (maxlength.toInt.toNat + 1) := by
  obtain ⟨lower, upper⟩ := fits
  have toNat : maxlength.toInt = maxlength.toNat := by
    rw [BitVec.toInt_eq_toNat_cond] at lower ⊢
    split at lower
    · exact if_pos ‹_›
    · have bound := maxlength.isLt
      omega
  rw [toNat] at upper
  rw [toNat, Int.toNat_natCast]
  have part : (maxlength + 1).toNat = maxlength.toNat + 1 := by
    rw [BitVec.toNat_add, show (1 : BitVec 32).toNat = 1 from rfl]
    exact Nat.mod_eq_of_lt (by omega)
  have size : (3 * (maxlength + 1)).toNat = 3 * (maxlength.toNat + 1) := by
    rw [BitVec.toNat_mul, part, show (3 : BitVec 32).toNat = 3 from rfl]
    exact Nat.mod_eq_of_lt (by omega)
  have sign : (maxlength + 1).msb = false :=
    BitVec.msb_eq_false_iff_two_mul_lt.mpr (by rw [part]; omega)
  have sizeSign : (3 * (maxlength + 1)).msb = false :=
    BitVec.msb_eq_false_iff_two_mul_lt.mpr (by rw [size]; omega)
  have partInt : (maxlength + 1).toInt = maxlength.toNat + 1 := by
    rw [BitVec.toInt_eq_toNat_of_msb sign, part]
    rfl
  refine ⟨?_, ?_, part, ?_⟩
  · rw [newServers, size, if_neg]
    rw [not_or, not_or, Bool.not_eq_true, Bool.not_eq_true, Bool.not_eq_true, BitVec.saddOverflow,
      BitVec.smulOverflow, partInt, toNat, show (1 : BitVec 32).toInt = 1 from by decide,
      show (3 : BitVec 32).toInt = 3 from by decide]
    simp only [Bool.or_eq_false_iff, decide_eq_false_iff_not]
    exact ⟨by omega, by omega, sizeSign⟩
  · rw [partSize, BitVec.signExtend_eq_setWidth_of_msb_false sign, BitVec.toNat_setWidth, part]
    exact Nat.mod_eq_of_lt (by omega)
  · rw [BitVec.toNat_shiftLeft, part, Nat.shiftLeft_eq]
    omega

theorem copyUrl_zero (url : List Char) (forwarding : Forwarding) :
    copyUrl 0 url forwarding = some forwarding := by
  unfold copyUrl copied
  split <;> rfl

/-- A buffer without any part is left as it is, and has no text to be reported. -/
theorem new_empty (gps_conf : LocGpsCfg) (url1 url2 url3 : List Char) :
    LocEngReportXtraServer.new gps_conf url1 url2 url3 (-1) = some ⟨-1, []⟩ := by
  have made : newServers (-1) = some [] := by decide
  have size : partSize (-1) = 0 := by decide
  unfold LocEngReportXtraServer.new
  simp only [made, size, copyUrl_zero, copyLast_eq, Option.bind_some, Option.map_some]

theorem Fits.reported (fits : Fits maxlength) (gps_conf : LocGpsCfg) (url1 url2 url3 : List Char) :
    ∃ msg, LocEngReportXtraServer.new gps_conf url1 url2 url3 maxlength = some msg ∧
      msg.mServers.length = 3 * (maxlength.toInt.toNat + 1) ∧
      msg.proc = some (reported maxlength.toInt.toNat (chosen gps_conf url1 url2 url3)) := by
  obtain ⟨made, size, second, third⟩ := fits.sizes
  generalize maxlength.toInt.toNat = mMaxLen at made size second third ⊢
  have one_le (url : List Char) : (forwarded mMaxLen [url]).length ≤ 1 :=
    length_forwarded_le mMaxLen [url]
  have le_one := one_le (overridden gps_conf.XTRA_SERVER_1 url1)
  have le_two := one_le (overridden gps_conf.XTRA_SERVER_2 url2)
  obtain ⟨one, copied, filled⟩ := copyUrl_filled (filled_nil mMaxLen) (by decide)
    (overridden gps_conf.XTRA_SERVER_1 url1)
  rw [List.nil_append] at filled
  obtain ⟨two, copied₂, filled⟩ := copyUrl_filled filled (by omega)
    (overridden gps_conf.XTRA_SERVER_2 url2)
  obtain ⟨three, copied₃, filled⟩ := copyUrl_filled filled (by rw [List.length_append]; omega)
    (overridden gps_conf.XTRA_SERVER_3 url3)
  rw [← forwarded_append, ← forwarded_append] at filled
  have few := length_forwarded_le mMaxLen (chosen gps_conf url1 url2 url3)
  refine ⟨⟨maxlength, three.mServers⟩, ?_, filled.length few, ?_⟩
  · unfold LocEngReportXtraServer.new
    simp only [made, size, copied, copied₂, copyLast_eq, copied₃, Option.bind_some,
      Option.map_some]
  · rw [LocEngReportXtraServer.proc, second, third]
    exact filled.read few (fun url member => (forwarded_clean mMaxLen _ url member).1)

end

/-- Whatever the modem and `gps.conf` name, a report of a length that fits does not leave its
buffer, and what is reported are the chosen urls but those at `xtra1.gpsonextra.net`, in their
order and each cut to the length, and empty ones behind them. A report of any other length is not
made, or has no buffer to report. -/
theorem servers_reported (gps_conf : LocGpsCfg) (url1 url2 url3 : List Char)
    (maxlength : BitVec 32) :
    (LocEngReportXtraServer.new gps_conf url1 url2 url3 maxlength).bind
        LocEngReportXtraServer.proc =
      (if Fits maxlength then
        some (reported maxlength.toInt.toNat (chosen gps_conf url1 url2 url3))
      else none) ∧
    ∀ msg, LocEngReportXtraServer.new gps_conf url1 url2 url3 maxlength = some msg →
      msg.mServers.length = 3 * (maxlength.toInt + 1) := by
  by_cases fits : Fits maxlength
  · obtain ⟨msg, made, length, read⟩ := fits.reported gps_conf url1 url2 url3
    rw [made, if_pos fits]
    refine ⟨read, fun other same => ?_⟩
    cases same
    rw [length]
    have lower := fits.1
    omega
  · rw [if_neg fits]
    cases made : newServers maxlength with
    | none =>
        rw [LocEngReportXtraServer.new, made]
        exact ⟨rfl, fun msg none => by cases none⟩
    | some mServers =>
        have empty : maxlength = -1 := by
          have toInt := (newServers_some made).1.resolve_right fits
          exact BitVec.eq_of_toInt_eq toInt
        rw [empty, new_empty]
        refine ⟨rfl, fun msg same => ?_⟩
        cases same
        rfl

end A5Common.Engine.XtraServers

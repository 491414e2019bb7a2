import A5Common.Number.Decimal

set_option autoImplicit false

namespace A5Common.Nmea

def NMEA_SENTENCE_MAX_LENGTH : Nat := 200

/-- The buffer of a sentence, as the characters in front of its terminator. -/
@[ext] structure Sentence where
  text : List Char
  terminated : text.length < NMEA_SENTENCE_MAX_LENGTH

namespace Sentence

def lengthRemaining (sentence : Sentence) : Nat :=
  NMEA_SENTENCE_MAX_LENGTH - sentence.text.length

/-- `snprintf` at the end of the text, in the length that remains. -/
def snprintf (sentence : Sentence) (printed : List Char) : Sentence where
  text := sentence.text ++ printed.take (sentence.lengthRemaining - 1)
  terminated := by
    have room := sentence.terminated
    unfold lengthRemaining
    rw [List.length_append, List.length_take]
    omega

/-- An `snprintf` whose length is checked. -/
def print (sentence : Sentence) (printed : List Char) : Option Sentence :=
  if sentence.lengthRemaining ≤ printed.length then none else some (sentence.snprintf printed)

def prints (sentence : Sentence) : List (List Char) → Option Sentence
  | [] => some sentence
  | printed :: rest =>
      match sentence.print printed with
      | none => none
      | some sentence => sentence.prints rest

def start : Sentence := ⟨[], by decide⟩

end Sentence

/-- A sentence of checked prints, and of a last one that is not checked. -/
def compose (checked : List (List Char)) (last : List Char) : Option Sentence :=
  match Sentence.start.prints checked with
  | none => none
  | some sentence => some (sentence.snprintf last)

def strlcpy (text : List Char) : Sentence := Sentence.start.snprintf text

/-- The string and the length that are passed to `nmea_cb`. -/
abbrev Message := List Char × Nat

def charByte (c : Char) : BitVec 8 := BitVec.ofNat 8 c.toNat

def hexDigits : List Char :=
  ['0', '1', '2', '3', '4', '5', '6', '7', '8', '9', 'A', 'B', 'C', 'D', 'E', 'F']

/-- `%02X` of a byte. -/
def hex02 (value : BitVec 8) : List Char :=
  [hexDigits.getD (value.toNat / 16) '0', hexDigits.getD (value.toNat % 16) '0']

def checksumLoop (checksum : BitVec 8) : List Char → BitVec 8
  | [] => checksum
  | c :: rest => checksumLoop (checksum ^^^ charByte c) rest

def putChecksum (pNmea : List Char) (maxSize : Nat) : Message :=
  let length := (pNmea.drop 1).length
  let printed := '*' :: hex02 (checksumLoop 0#8 (pNmea.drop 1)) ++ ['\r', '\n']
  (pNmea ++ printed.take (maxSize - length - 1 - 1), length + printed.length + 1)

/-- The exclusive or of the bytes of a text. -/
def checksum (body : List Char) : BitVec 8 :=
  body.foldr (fun c sum => charByte c ^^^ sum) 0#8

/-- What a sentence with a body is, with its checksum and its length. -/
def framed (body : List Char) : Message :=
  ('$' :: body ++ ('*' :: hex02 (checksum body) ++ ['\r', '\n']), body.length + 6)

def Plain (c : Char) : Prop := c ∉ ['*', '\r', '\n', '\x00']

instance (c : Char) : Decidable (Plain c) := inferInstanceAs (Decidable (¬_ ∈ _))

/-- A well formed message: its two digits read back as the checksum of its body. -/
def Framed (message : Message) : Prop :=
  ∃ body high low,
    message.1 = '$' :: body ++ ['*', high, low, '\r', '\n'] ∧
      (∀ c ∈ body, Plain c) ∧ high ∈ hexDigits ∧ low ∈ hexDigits ∧
      16 * hexDigits.idxOf high + hexDigits.idxOf low = (checksum body).toNat ∧
      message.2 = message.1.length ∧ message.1.length < NMEA_SENTENCE_MAX_LENGTH

theorem checksumLoop_eq (sum : BitVec 8) (body : List Char) :
    checksumLoop sum body = sum ^^^ checksum body := by
  induction body generalizing sum with
  | nil => exact (BitVec.xor_zero).symm
  | cons c rest ih =>
      unfold checksumLoop
      rw [ih, BitVec.xor_assoc]
      rfl

theorem hexDigits_getD {n : Nat} (small : n < 16) :
    hexDigits.getD n '0' ∈ hexDigits ∧ hexDigits.idxOf (hexDigits.getD n '0') = n := by
  have all : ∀ digit : Fin 16, hexDigits.getD digit.val '0' ∈ hexDigits ∧
      hexDigits.idxOf (hexDigits.getD digit.val '0') = digit.val := by
    decide
  exact all ⟨n, small⟩

theorem length_framed (body : List Char) : (framed body).1.length = body.length + 6 := by
  unfold framed
  simp only [List.length_append, List.length_cons, List.length_nil, hex02]

theorem framed_framed {body : List Char} (plain : ∀ c ∈ body, Plain c)
    (room : body.length + 6 < NMEA_SENTENCE_MAX_LENGTH) : Framed (framed body) := by
  have small := (checksum body).isLt
  obtain ⟨high, high_value⟩ := hexDigits_getD (n := (checksum body).toNat / 16) (by omega)
  obtain ⟨low, low_value⟩ := hexDigits_getD (n := (checksum body).toNat % 16) (by omega)
  refine ⟨body, _, _, rfl, plain, high, low, ?_, (length_framed body).symm,
    length_framed body ▸ room⟩
  rw [high_value, low_value]
  omega

theorem putChecksum_eq {body : List Char} (room : body.length + 6 < NMEA_SENTENCE_MAX_LENGTH) :
    putChecksum ('$' :: body) NMEA_SENTENCE_MAX_LENGTH = framed body := by
  have length : ('*' :: hex02 (checksum body) ++ ['\r', '\n']).length = 5 := rfl
  unfold putChecksum framed
  dsimp only
  rw [List.drop_one, List.tail_cons, checksumLoop_eq, BitVec.zero_xor, length,
    List.take_of_length_le (by rw [length]; omega)]

/-- A text that leaves no room for the checksum is not framed by it. -/
theorem putChecksum_not_framed {text : List Char}
    (full : NMEA_SENTENCE_MAX_LENGTH ≤ text.length + 5) :
    ¬Framed (putChecksum text NMEA_SENTENCE_MAX_LENGTH) := by
  rintro ⟨_, _, _, -, -, -, -, -, same, small⟩
  have returned : (putChecksum text NMEA_SENTENCE_MAX_LENGTH).2 = text.length - 1 + 5 + 1 := by
    unfold putChecksum
    rw [List.length_drop]
    rfl
  rw [← same, returned] at small
  omega

namespace Sentence

theorem print_eq (sentence : Sentence) {printed : List Char}
    (room : (sentence.text ++ printed).length < NMEA_SENTENCE_MAX_LENGTH) :
    sentence.print printed = some ⟨sentence.text ++ printed, room⟩ := by
  have lengths : (sentence.text ++ printed).length = sentence.text.length + printed.length :=
    List.length_append
  unfold print snprintf lengthRemaining
  rw [if_neg (by omega)]
  apply congrArg some
  apply Sentence.ext
  dsimp only
  rw [List.take_of_length_le (by omega)]

theorem start_print {printed : List Char} (room : printed.length < NMEA_SENTENCE_MAX_LENGTH) :
    start.print printed = some ⟨printed, room⟩ :=
  print_eq start room

theorem prints_eq (sentence : Sentence) {printed : List (List Char)}
    (room : (sentence.text ++ printed.flatten).length < NMEA_SENTENCE_MAX_LENGTH) :
    sentence.prints printed = some ⟨sentence.text ++ printed.flatten, room⟩ := by
  induction printed generalizing sentence with
  | nil =>
      unfold prints
      exact congrArg some (Sentence.ext (List.append_nil _).symm)
  | cons first rest ih =>
      have head : (sentence.text ++ first).length < NMEA_SENTENCE_MAX_LENGTH := by
        rw [List.flatten_cons, ← List.append_assoc, List.length_append] at room
        exact Nat.lt_of_le_of_lt (Nat.le_add_right _ _) room
      unfold prints
      rw [print_eq sentence head]
      dsimp only
      rw [ih ⟨_, head⟩ (by rw [List.append_assoc]; exact room)]
      exact congrArg some (Sentence.ext (List.append_assoc _ _ _))

end Sentence

theorem strlcpy_text {text : List Char} (room : text.length < NMEA_SENTENCE_MAX_LENGTH) :
    (strlcpy text).text = text :=
  List.take_of_length_le (Nat.le_sub_one_of_lt room)

theorem compose_eq {checked : List (List Char)}
    (room : checked.flatten.length < NMEA_SENTENCE_MAX_LENGTH) (last : List Char) :
    compose checked last = some (Sentence.snprintf ⟨checked.flatten, room⟩ last) := by
  unfold compose
  rw [Sentence.prints_eq Sentence.start room]
  rfl

/-- The message of a sentence whose prints fit with the checksum. -/
theorem compose_framed {checked : List (List Char)} {last body : List Char}
    (text : checked.flatten ++ last = '$' :: body)
    (room : body.length + 6 < NMEA_SENTENCE_MAX_LENGTH) :
    ∃ sentence, compose checked last = some sentence ∧ sentence.text = '$' :: body := by
  have lengths := congrArg List.length text
  rw [List.length_append, List.length_cons] at lengths
  refine ⟨_, compose_eq (by omega) last, ?_⟩
  unfold Sentence.snprintf Sentence.lengthRemaining
  dsimp only
  rw [List.take_of_length_le (by omega), text]

end A5Common.Nmea

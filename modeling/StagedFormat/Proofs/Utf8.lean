import Mathlib.Tactic.SplitIfs
import StagedFormat.World.Path

/-!
# Reading back what was written as UTF-8

A text written as bytes reads back as itself, and no other bytes read back without an ill-formed
run.  A line feed is found in bytes only where its own byte stands.  A path that was made of a text
can be told from another one by that text.
-/

set_option autoImplicit false

namespace StagedFormat.Text

/-! ## Well-formed sequences of bytes -/

theorem decodeFrom_open (pending : Pending) (byte : UInt8) (rest : List UInt8)
    (opened : openWith byte = ([], some pending)) :
    decodeFrom none (byte :: rest) = decodeFrom (some pending) rest := by
  simp [decodeFrom, readByte, opened]

/-- A byte between the bounds, with more to come. -/
theorem decodeFrom_continue (pending : Pending) (byte : UInt8) (rest : List UInt8)
    (low : pending.low ≤ byte.toNat) (high : byte.toNat ≤ pending.high)
    (more : 1 < pending.missing) :
    decodeFrom (some pending) (byte :: rest) =
      decodeFrom (some
        { value := pending.value * 0x40 + (byte.toNat - 0x80), missing := pending.missing - 1,
          low := 0x80, high := 0xBF }) rest := by
  have unfinished : ¬ pending.missing ≤ 1 := by omega
  simp [decodeFrom, readByte, low, high, unfinished]

theorem decodeFrom_finish (pending : Pending) (byte : UInt8) (rest : List UInt8)
    (low : pending.low ≤ byte.toNat) (high : byte.toNat ≤ pending.high)
    (last : pending.missing = 1) :
    decodeFrom (some pending) (byte :: rest) =
      some (Char.ofNat (pending.value * 0x40 + (byte.toNat - 0x80))) :: decodeFrom none rest := by
  simp [decodeFrom, readByte, low, high, last]

theorem openWith_two (first : UInt8) (low : 0xC2 ≤ first.toNat) (high : first.toNat < 0xE0) :
    openWith first =
      ([], some { value := first.toNat - 0xC0, missing := 1, low := 0x80, high := 0xBF }) := by
  have notAscii : ¬ first.toNat < 0x80 := by omega
  have notStray : ¬ first.toNat < 0xC2 := by omega
  simp only [openWith, if_neg notAscii, if_neg notStray, if_pos high]

theorem decodeFrom_two (first second : UInt8) (rest : List UInt8)
    (low : 0xC2 ≤ first.toNat) (high : first.toNat < 0xE0)
    (secondLow : 0x80 ≤ second.toNat) (secondHigh : second.toNat ≤ 0xBF) :
    decodeFrom none (first :: second :: rest) =
      some (Char.ofNat ((first.toNat - 0xC0) * 0x40 + (second.toNat - 0x80)))
        :: decodeFrom none rest := by
  rw [decodeFrom_open _ _ _ (openWith_two first low high),
    decodeFrom_finish _ _ _ secondLow secondHigh rfl]

theorem openWith_three (first : UInt8) (low : 0xE0 ≤ first.toNat) (high : first.toNat < 0xF0) :
    ∃ pending, openWith first = ([], some pending) ∧ pending.value = first.toNat - 0xE0 ∧
      pending.missing = 2 ∧ pending.low = (if first.toNat = 0xE0 then 0xA0 else 0x80) ∧
      pending.high = (if first.toNat = 0xED then 0x9F else 0xBF) := by
  have notAscii : ¬ first.toNat < 0x80 := by omega
  have notStray : ¬ first.toNat < 0xC2 := by omega
  have notTwo : ¬ first.toNat < 0xE0 := by omega
  simp only [openWith, if_neg notAscii, if_neg notStray, if_neg notTwo]
  by_cases lowest : first.toNat = 0xE0
  · rw [if_pos lowest]
    exact ⟨_, rfl, by simp [lowest]⟩
  by_cases surrogate : first.toNat = 0xED
  · rw [if_neg lowest, if_pos surrogate]
    exact ⟨_, rfl, by simp [surrogate]⟩
  · rw [if_neg lowest, if_neg surrogate, if_pos high]
    exact ⟨_, rfl, by simp [lowest, surrogate]⟩

theorem openWith_four (first : UInt8) (low : 0xF0 ≤ first.toNat) (high : first.toNat ≤ 0xF4) :
    ∃ pending, openWith first = ([], some pending) ∧ pending.value = first.toNat - 0xF0 ∧
      pending.missing = 3 ∧ pending.low = (if first.toNat = 0xF0 then 0x90 else 0x80) ∧
      pending.high = (if first.toNat = 0xF4 then 0x8F else 0xBF) := by
  have notAscii : ¬ first.toNat < 0x80 := by omega
  have notStray : ¬ first.toNat < 0xC2 := by omega
  have notTwo : ¬ first.toNat < 0xE0 := by omega
  have notThree : first.toNat ≠ 0xE0 ∧ first.toNat ≠ 0xED ∧ ¬ first.toNat < 0xF0 := by omega
  simp only [openWith, if_neg notAscii, if_neg notStray, if_neg notTwo, if_neg notThree.1,
    if_neg notThree.2.1, if_neg notThree.2.2]
  by_cases lowest : first.toNat = 0xF0
  · rw [if_pos lowest]
    exact ⟨_, rfl, by simp [lowest]⟩
  by_cases highest : first.toNat = 0xF4
  · have beyond : ¬ first.toNat < 0xF4 := by omega
    rw [if_neg lowest, if_neg beyond, if_pos highest]
    exact ⟨_, rfl, by simp [highest]⟩
  · have below : first.toNat < 0xF4 := by omega
    rw [if_neg lowest, if_pos below]
    exact ⟨_, rfl, by simp [lowest, highest]⟩

theorem decodeFrom_three (first second third : UInt8) (rest : List UInt8)
    (low : 0xE0 ≤ first.toNat) (high : first.toNat < 0xF0)
    (secondLow : (if first.toNat = 0xE0 then 0xA0 else 0x80) ≤ second.toNat)
    (secondHigh : second.toNat ≤ if first.toNat = 0xED then 0x9F else 0xBF)
    (thirdLow : 0x80 ≤ third.toNat) (thirdHigh : third.toNat ≤ 0xBF) :
    decodeFrom none (first :: second :: third :: rest) =
      some (Char.ofNat (((first.toNat - 0xE0) * 0x40 + (second.toNat - 0x80)) * 0x40
        + (third.toNat - 0x80))) :: decodeFrom none rest := by
  obtain ⟨pending, opened, value, missing, lowIs, highIs⟩ := openWith_three first low high
  rw [decodeFrom_open _ _ _ opened,
    decodeFrom_continue _ _ _ (lowIs ▸ secondLow) (highIs ▸ secondHigh) (by omega),
    decodeFrom_finish _ _ _ thirdLow thirdHigh (by simp [missing]), value]

theorem decodeFrom_four (first second third fourth : UInt8) (rest : List UInt8)
    (low : 0xF0 ≤ first.toNat) (high : first.toNat ≤ 0xF4)
    (secondLow : (if first.toNat = 0xF0 then 0x90 else 0x80) ≤ second.toNat)
    (secondHigh : second.toNat ≤ if first.toNat = 0xF4 then 0x8F else 0xBF)
    (thirdLow : 0x80 ≤ third.toNat) (thirdHigh : third.toNat ≤ 0xBF)
    (fourthLow : 0x80 ≤ fourth.toNat) (fourthHigh : fourth.toNat ≤ 0xBF) :
    decodeFrom none (first :: second :: third :: fourth :: rest) =
      some (Char.ofNat ((((first.toNat - 0xF0) * 0x40 + (second.toNat - 0x80)) * 0x40
        + (third.toNat - 0x80)) * 0x40 + (fourth.toNat - 0x80))) :: decodeFrom none rest := by
  obtain ⟨pending, opened, value, missing, lowIs, highIs⟩ := openWith_four first low high
  rw [decodeFrom_open _ _ _ opened,
    decodeFrom_continue _ _ _ (lowIs ▸ secondLow) (highIs ▸ secondHigh) (by omega),
    decodeFrom_continue _ _ _ thirdLow thirdHigh (by simp [missing]),
    decodeFrom_finish _ _ _ fourthLow fourthHigh (by simp [missing]), value]

/-! ## Reading back -/

theorem toNat_toUInt8 (n : Nat) (small : n < 256) : n.toUInt8.toNat = n := by
  simp only [Nat.toUInt8, UInt8.toNat_ofNat']
  omega

theorem decodeFrom_encodeChar (c : Char) (rest : List UInt8) :
    decodeFrom none (encodeChar c ++ rest) = some c :: decodeFrom none rest := by
  have valid : c.toNat < 0xD800 ∨ 0xDFFF < c.toNat ∧ c.toNat < 0x110000 := c.valid
  unfold encodeChar
  by_cases one : c.toNat < 0x80
  · simp only [if_pos one]
    have byte := toNat_toUInt8 c.toNat (by omega)
    have ascii := decodeFrom_append_ascii none [] rest c.toNat.toUInt8 (by omega)
    rw [byte, Char.ofNat_toNat] at ascii
    exact ascii
  by_cases two : c.toNat < 0x800
  · simp only [if_neg one, if_pos two, List.cons_append, List.nil_append]
    have first := toNat_toUInt8 (0xC0 + c.toNat / 0x40) (by omega)
    have second := toNat_toUInt8 (0x80 + c.toNat % 0x40) (by omega)
    rw [decodeFrom_two _ _ _ (by omega) (by omega) (by omega) (by omega), first, second]
    have whole : (0xC0 + c.toNat / 0x40 - 0xC0) * 0x40 + (0x80 + c.toNat % 0x40 - 0x80) =
        c.toNat := by omega
    rw [whole, Char.ofNat_toNat]
  by_cases three : c.toNat < 0x10000
  · simp only [if_neg one, if_neg two, if_pos three, List.cons_append, List.nil_append]
    have first := toNat_toUInt8 (0xE0 + c.toNat / 0x1000) (by omega)
    have second := toNat_toUInt8 (0x80 + c.toNat / 0x40 % 0x40) (by omega)
    have third := toNat_toUInt8 (0x80 + c.toNat % 0x40) (by omega)
    rw [decodeFrom_three _ _ _ _ (by omega) (by omega) (by split <;> omega)
      (by split <;> omega) (by omega) (by omega), first, second, third]
    have whole : ((0xE0 + c.toNat / 0x1000 - 0xE0) * 0x40
        + (0x80 + c.toNat / 0x40 % 0x40 - 0x80)) * 0x40 + (0x80 + c.toNat % 0x40 - 0x80) =
        c.toNat := by omega
    rw [whole, Char.ofNat_toNat]
  · simp only [if_neg one, if_neg two, if_neg three, List.cons_append, List.nil_append]
    have first := toNat_toUInt8 (0xF0 + c.toNat / 0x40000) (by omega)
    have second := toNat_toUInt8 (0x80 + c.toNat / 0x1000 % 0x40) (by omega)
    have third := toNat_toUInt8 (0x80 + c.toNat / 0x40 % 0x40) (by omega)
    have fourth := toNat_toUInt8 (0x80 + c.toNat % 0x40) (by omega)
    rw [decodeFrom_four _ _ _ _ _ (by omega) (by omega) (by split <;> omega)
      (by split <;> omega) (by omega) (by omega) (by omega) (by omega),
      first, second, third, fourth]
    have whole : (((0xF0 + c.toNat / 0x40000 - 0xF0) * 0x40
        + (0x80 + c.toNat / 0x1000 % 0x40 - 0x80)) * 0x40
        + (0x80 + c.toNat / 0x40 % 0x40 - 0x80)) * 0x40 + (0x80 + c.toNat % 0x40 - 0x80) =
        c.toNat := by omega
    rw [whole, Char.ofNat_toNat]

theorem decode_encode (text : List Char) : decode (encode text) = text.map some := by
  unfold decode encode
  induction text with
  | nil => rfl
  | cons c rest ih => rw [List.flatMap_cons, decodeFrom_encodeChar, ih, List.map_cons]

theorem decodeLossy_encode (text : List Char) : decodeLossy (encode text) = text := by
  rw [decodeLossy, decode_encode, List.map_map]
  exact List.map_id'' (fun _ => rfl) text

theorem decode?_encode (text : List Char) : decode? (encode text) = some text := by
  rw [decode?, decode_encode]
  induction text with
  | nil => rfl
  | cons c rest ih => simp [ih]

theorem encode_injective : Function.Injective encode := by
  intro one other same
  rw [← decodeLossy_encode one, same, decodeLossy_encode]

/-- A text whose first byte is ASCII begins with the character of that byte. -/
theorem head?_of_head?_encode (text : List Char) (byte : UInt8) (ascii : byte.toNat < 0x80)
    (first : (encode text).head? = some byte) : text.head? = some (Char.ofNat byte.toNat) := by
  obtain ⟨rest, bytes⟩ := List.head?_eq_some_iff.mp first
  have read := decode_encode text
  rw [bytes, decode, ← List.nil_append (byte :: rest),
    decodeFrom_append_ascii none [] rest byte ascii] at read
  cases text with
  | nil => simp [decodeFrom] at read
  | cons c others =>
    have head : some (Char.ofNat byte.toNat) = some c := by
      simpa [decodeFrom] using congrArg List.head? read
    rw [List.head?_cons, head]

/-! ## Only what was written reads back -/

/-- A character that is being read goes on with a byte between its bounds. -/
theorem exists_byte_of_pending {pending : Pending} {bytes : List UInt8}
    (clean : none ∉ decodeFrom (some pending) bytes) :
    ∃ byte rest, bytes = byte :: rest ∧ pending.low ≤ byte.toNat ∧
      byte.toNat ≤ pending.high := by
  cases bytes with
  | nil => simp [decodeFrom] at clean
  | cons byte rest =>
    by_cases bounds : pending.low ≤ byte.toNat ∧ byte.toNat ≤ pending.high
    · exact ⟨byte, rest, rfl, bounds⟩
    · simp [decodeFrom, readByte, bounds] at clean

theorem toUInt8_eq {n : Nat} (byte : UInt8) (same : n = byte.toNat) : n.toUInt8 = byte := by
  rw [same]
  exact UInt8.ofNat_toNat

theorem toNat_ofNat {n : Nat} (valid : n < 0xD800 ∨ 0xDFFF < n ∧ n < 0x110000) :
    (Char.ofNat n).toNat = n := by
  have isValid : n.isValidChar := valid
  rw [Char.ofNat, dif_pos isValid]
  rfl

section FirstCharacter

variable {first : UInt8} {rest : List UInt8}

theorem exists_char_of_two (low : 0xC2 ≤ first.toNat) (high : first.toNat < 0xE0)
    (clean : none ∉ decodeFrom none (first :: rest)) :
    ∃ c tail, first :: rest = encodeChar c ++ tail := by
  rw [decodeFrom_open _ _ _ (openWith_two first low high)] at clean
  obtain ⟨second, tail, rfl, secondLow, secondHigh⟩ := exists_byte_of_pending clean
  dsimp only at secondLow secondHigh
  obtain ⟨n, code⟩ : ∃ n, n = (first.toNat - 0xC0) * 0x40 + (second.toNat - 0x80) := ⟨_, rfl⟩
  refine ⟨.ofNat n, tail, ?_⟩
  simp only [encodeChar, toNat_ofNat (n := n) (.inl (by omega))]
  rw [if_neg (by omega), if_pos (by omega), toUInt8_eq first (by omega),
    toUInt8_eq second (by omega)]
  rfl

theorem exists_char_of_three (low : 0xE0 ≤ first.toNat) (high : first.toNat < 0xF0)
    (clean : none ∉ decodeFrom none (first :: rest)) :
    ∃ c tail, first :: rest = encodeChar c ++ tail := by
  obtain ⟨pending, opened, -, missing, lowIs, highIs⟩ := openWith_three first low high
  rw [decodeFrom_open _ _ _ opened] at clean
  obtain ⟨second, others, rfl, secondLow, secondHigh⟩ := exists_byte_of_pending clean
  rw [decodeFrom_continue _ _ _ secondLow secondHigh (by omega)] at clean
  obtain ⟨third, tail, rfl, thirdLow, thirdHigh⟩ := exists_byte_of_pending clean
  dsimp only at thirdLow thirdHigh
  rw [lowIs] at secondLow
  rw [highIs] at secondHigh
  -- No shorter sequence of bytes would do, and no surrogate comes out.
  have wide : 0x80 ≤ second.toNat ∧ (first.toNat = 0xE0 → 0xA0 ≤ second.toNat) := by
    split at secondLow <;> omega
  have narrow : second.toNat ≤ 0xBF ∧ (first.toNat = 0xED → second.toNat ≤ 0x9F) := by
    split at secondHigh <;> omega
  clear secondLow secondHigh
  obtain ⟨n, code⟩ : ∃ n, n = ((first.toNat - 0xE0) * 0x40 + (second.toNat - 0x80)) * 0x40
      + (third.toNat - 0x80) := ⟨_, rfl⟩
  refine ⟨.ofNat n, tail, ?_⟩
  simp only [encodeChar, toNat_ofNat (n := n) (by omega)]
  rw [if_neg (by omega), if_neg (by omega), if_pos (by omega),
    toUInt8_eq first (by omega), toUInt8_eq second (by omega),
    toUInt8_eq third (by omega)]
  rfl

theorem exists_char_of_four (low : 0xF0 ≤ first.toNat) (high : first.toNat ≤ 0xF4)
    (clean : none ∉ decodeFrom none (first :: rest)) :
    ∃ c tail, first :: rest = encodeChar c ++ tail := by
  obtain ⟨pending, opened, -, missing, lowIs, highIs⟩ := openWith_four first low high
  rw [decodeFrom_open _ _ _ opened] at clean
  obtain ⟨second, others, rfl, secondLow, secondHigh⟩ := exists_byte_of_pending clean
  rw [decodeFrom_continue _ _ _ secondLow secondHigh (by omega)] at clean
  obtain ⟨third, further, rfl, thirdLow, thirdHigh⟩ := exists_byte_of_pending clean
  rw [decodeFrom_continue _ _ _ thirdLow thirdHigh (by simp [missing])] at clean
  obtain ⟨fourth, tail, rfl, fourthLow, fourthHigh⟩ := exists_byte_of_pending clean
  dsimp only at thirdLow thirdHigh fourthLow fourthHigh
  rw [lowIs] at secondLow
  rw [highIs] at secondHigh
  -- No shorter sequence of bytes would do, and nothing beyond the last character comes out.
  have wide : 0x80 ≤ second.toNat ∧ (first.toNat = 0xF0 → 0x90 ≤ second.toNat) := by
    split at secondLow <;> omega
  have narrow : second.toNat ≤ 0xBF ∧ (first.toNat = 0xF4 → second.toNat ≤ 0x8F) := by
    split at secondHigh <;> omega
  clear secondLow secondHigh
  obtain ⟨n, code⟩ : ∃ n, n = (((first.toNat - 0xF0) * 0x40 + (second.toNat - 0x80)) * 0x40
      + (third.toNat - 0x80)) * 0x40 + (fourth.toNat - 0x80) := ⟨_, rfl⟩
  refine ⟨.ofNat n, tail, ?_⟩
  simp only [encodeChar, toNat_ofNat (n := n) (by omega)]
  rw [if_neg (by omega), if_neg (by omega), if_neg (by omega),
    toUInt8_eq first (by omega), toUInt8_eq second (by omega),
    toUInt8_eq third (by omega), toUInt8_eq fourth (by omega)]
  rfl

theorem exists_char_of_clean (clean : none ∉ decodeFrom none (first :: rest)) :
    ∃ c tail, first :: rest = encodeChar c ++ tail := by
  by_cases one : first.toNat < 0x80
  · refine ⟨.ofNat first.toNat, rest, ?_⟩
    rw [encodeChar, toNat_ofNat (.inl (by omega)), if_pos one, toUInt8_eq first rfl]
    rfl
  by_cases stray : first.toNat < 0xC2 ∨ 0xF4 < first.toNat
  · have opened : openWith first = ([none], none) := by
      rcases stray with low | high
      · simp only [openWith, if_neg one, if_pos low]
      · simp only [openWith]
        repeat rw [if_neg (by omega)]
    simp [decodeFrom, readByte, opened] at clean
  obtain ⟨low, high⟩ := not_or.mp stray
  by_cases two : first.toNat < 0xE0
  · exact exists_char_of_two (by omega) two clean
  by_cases three : first.toNat < 0xF0
  · exact exists_char_of_three (by omega) three clean
  · exact exists_char_of_four (by omega) (by omega) clean

end FirstCharacter

/-- Bytes without ill-formed runs are those of a text. -/
theorem exists_text_of_clean (bytes : List UInt8) (clean : none ∉ decode bytes) :
    ∃ text, bytes = encode text := by
  cases bytes with
  | nil => exact ⟨[], rfl⟩
  | cons first rest =>
    obtain ⟨c, tail, whole⟩ := exists_char_of_clean clean
    have shorter : tail.length < (first :: rest).length := by
      rw [whole, List.length_append]
      have some : 0 < (encodeChar c).length := by
        unfold encodeChar
        dsimp only
        split_ifs <;> simp
      omega
    rw [decode, whole, decodeFrom_encodeChar] at clean
    obtain ⟨text, rfl⟩ := exists_text_of_clean tail fun member =>
      clean (List.mem_cons_of_mem _ member)
    exact ⟨c :: text, whole⟩
termination_by bytes.length

theorem not_mem_of_mapM {items : List (Option Char)} {text : List Char}
    (read : items.mapM id = some text) : none ∉ items := by
  induction items generalizing text with
  | nil => simp
  | cons item rest ih =>
    cases item with
    | none => simp at read
    | some c =>
      cases later : rest.mapM id with
      | none => simp [later] at read
      | some others => simpa using ih later

theorem decode?_eq_some_iff (bytes : List UInt8) (text : List Char) :
    decode? bytes = some text ↔ bytes = encode text := by
  constructor
  · intro read
    obtain ⟨other, rfl⟩ := exists_text_of_clean bytes (not_mem_of_mapM read)
    rw [decode?_encode] at read
    rw [Option.some.inj read]
  · rintro rfl
    exact decode?_encode text
/-! ## Line feeds -/

/-- Bits with six more bits, all zero, for each of a number of bytes. -/
def widened (value : Nat) : Nat → Nat
  | 0 => value
  | more + 1 => widened (value * 0x40) more

theorem widened_le_widened (left right more : Nat) (le : left ≤ right) :
    widened left more ≤ widened right more := by
  induction more generalizing left right with
  | zero => exact le
  | succ more ih => exact ih _ _ (Nat.mul_le_mul_right 0x40 le)

/-- No ASCII character can come of what is waited for: the least that it can become is above. -/
def Pending.Wide (pending : Pending) : Prop :=
  0x80 ≤ widened (pending.value * 0x40 + (pending.low - 0x80)) (pending.missing - 1)

theorem openWith_wide (byte : UInt8) (pending : Pending)
    (opened : (openWith byte).2 = some pending) : pending.Wide := by
  unfold openWith at opened
  dsimp only at opened
  split_ifs at opened
  all_goals
    rw [← Option.some.inj opened, Pending.Wide]
    simp only [Nat.reduceSub, widened]
    omega

theorem eq_of_ofNat_eq_lineFeed (n : Nat) (feed : Char.ofNat n = '\n') : n = 10 := by
  by_cases valid : n.isValidChar
  · rw [Char.ofNat, dif_pos valid] at feed
    exact congrArg Char.toNat feed
  · rw [Char.ofNat, dif_neg valid] at feed
    exact absurd feed (by decide)

theorem openWith_lineFeed (byte : UInt8) (feed : some '\n' ∈ (openWith byte).1) :
    byte = 0x0A := by
  unfold openWith at feed
  dsimp only at feed
  split_ifs at feed
  · have code := eq_of_ofNat_eq_lineFeed byte.toNat (by simpa [eq_comm] using feed)
    exact UInt8.toNat_inj.mp code
  all_goals simp at feed

theorem readByte_wide (state : Option Pending) (byte : UInt8)
    (wide : ∀ pending, state = some pending → pending.Wide) (next : Pending)
    (reached : (readByte state byte).2 = some next) : next.Wide := by
  cases state with
  | none => exact openWith_wide byte next reached
  | some pending =>
    have before := wide pending rfl
    simp only [readByte] at reached
    split_ifs at reached with inBounds last
    · rw [← Option.some.inj reached]
      obtain ⟨more, missing⟩ : ∃ more, pending.missing = more + 2 :=
        ⟨pending.missing - 2, by omega⟩
      simp only [Pending.Wide, missing, Nat.add_one_sub_one, Nat.sub_self, Nat.add_zero]
        at before ⊢
      -- What is added at this byte is at least what was counted on.
      have counted : pending.value * 0x40 + (pending.low - 0x80) ≤
          pending.value * 0x40 + (byte.toNat - 0x80) := by
        omega
      have grown := widened_le_widened _ _ (more + 1) counted
      simp only [widened] at before grown ⊢
      omega
    · exact openWith_wide byte next reached

theorem readByte_lineFeed (state : Option Pending) (byte : UInt8)
    (wide : ∀ pending, state = some pending → pending.Wide)
    (feed : some '\n' ∈ (readByte state byte).1) : byte = 0x0A := by
  cases state with
  | none => exact openWith_lineFeed byte feed
  | some pending =>
    have before := wide pending rfl
    simp only [readByte] at feed
    split_ifs at feed with inBounds last
    · have code := eq_of_ofNat_eq_lineFeed (pending.value * 0x40 + (byte.toNat - 0x80))
        (by simpa [eq_comm] using feed)
      have none_left : pending.missing - 1 = 0 := by omega
      rw [Pending.Wide, none_left, widened] at before
      omega
    · simp at feed
    · exact openWith_lineFeed byte (by simpa using feed)

theorem lineFeed_of_mem_decodeFrom (bytes : List UInt8) (state : Option Pending)
    (wide : ∀ pending, state = some pending → pending.Wide)
    (feed : some '\n' ∈ decodeFrom state bytes) : 0x0A ∈ bytes := by
  induction bytes generalizing state with
  | nil => cases state <;> simp [decodeFrom] at feed
  | cons byte rest ih =>
    simp only [decodeFrom, List.mem_append] at feed
    rcases feed with here | later
    · rw [readByte_lineFeed state byte wide here]
      exact List.mem_cons_self
    · exact List.mem_cons_of_mem byte (ih _ (readByte_wide state byte wide) later)

theorem lineFeed_of_mem_decodeLossy (bytes : List UInt8) (feed : '\n' ∈ decodeLossy bytes) :
    0x0A ∈ bytes := by
  obtain ⟨item, member, same⟩ := List.mem_map.mp feed
  cases item with
  | none => cases same
  | some c =>
    cases same
    exact lineFeed_of_mem_decodeFrom bytes none (by simp) member

end StagedFormat.Text

namespace StagedFormat.Path

theorem ofText_injective : Function.Injective ofText := by
  intro one other same
  have bytes : Text.bytesOf one = Text.bytesOf other := congrArg Path.bytes same
  exact String.toList_injective (Text.encode_injective bytes)

theorem isAbsolute_ofText_iff (name : String) :
    (ofText name).isAbsolute = true ↔ name.toList.head? = some '/' := by
  constructor
  · intro absolute
    have first : (Text.encode name.toList).head? = some slash := by
      simpa [isAbsolute, ofText, Text.bytesOf] using absolute
    exact Text.head?_of_head?_encode name.toList slash (by decide) first
  · intro first
    obtain ⟨rest, text⟩ := List.head?_eq_some_iff.mp first
    rw [isAbsolute, ofText, Text.bytesOf, text]
    rfl

end StagedFormat.Path

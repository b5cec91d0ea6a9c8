/-!
# Text and bytes

`encode` writes characters as UTF-8.  `decode` reads bytes one at a time; what it has read of an
unfinished character is a `Pending`.  Its result lists, in order, the characters found and a `none`
for every maximal run of bytes that begins a character and does not finish it, or cannot begin one.
`decodeLossy` shows each such run as U+FFFD, `decode?` refuses a text that has one.
-/

set_option autoImplicit false

namespace StagedFormat.Text

def encodeChar (c : Char) : List UInt8 :=
  let n := c.toNat
  if n < 0x80 then [n.toUInt8]
  else if n < 0x800 then [(0xC0 + n / 0x40).toUInt8, (0x80 + n % 0x40).toUInt8]
  else if n < 0x10000 then
    [(0xE0 + n / 0x1000).toUInt8, (0x80 + n / 0x40 % 0x40).toUInt8, (0x80 + n % 0x40).toUInt8]
  else
    [(0xF0 + n / 0x40000).toUInt8, (0x80 + n / 0x1000 % 0x40).toUInt8,
      (0x80 + n / 0x40 % 0x40).toUInt8, (0x80 + n % 0x40).toUInt8]

def encode (text : List Char) : List UInt8 :=
  text.flatMap encodeChar

/-- A character of which some bytes have been read: the bits so far, how many bytes are missing,
and between which bounds the next byte has to lie.  No ASCII byte lies between them. -/
structure Pending where
  value : Nat
  missing : Nat
  low : Nat
  high : Nat
  low_ge : 0x80 ≤ low := by decide

def openWith (byte : UInt8) : List (Option Char) × Option Pending :=
  let n := byte.toNat
  if n < 0x80 then ([some (Char.ofNat n)], none)
  else if n < 0xC2 then ([none], none)
  else if n < 0xE0 then ([], some { value := n - 0xC0, missing := 1, low := 0x80, high := 0xBF })
  else if n = 0xE0 then ([], some { value := 0, missing := 2, low := 0xA0, high := 0xBF })
  else if n = 0xED then ([], some { value := 0xD, missing := 2, low := 0x80, high := 0x9F })
  else if n < 0xF0 then ([], some { value := n - 0xE0, missing := 2, low := 0x80, high := 0xBF })
  else if n = 0xF0 then ([], some { value := 0, missing := 3, low := 0x90, high := 0xBF })
  else if n < 0xF4 then ([], some { value := n - 0xF0, missing := 3, low := 0x80, high := 0xBF })
  else if n = 0xF4 then ([], some { value := 4, missing := 3, low := 0x80, high := 0x8F })
  else ([none], none)

/-- Reads one byte: what is known now, and the character that is being read. -/
def readByte (state : Option Pending) (byte : UInt8) : List (Option Char) × Option Pending :=
  match state with
  | none => openWith byte
  | some pending =>
    let n := byte.toNat
    if pending.low ≤ n ∧ n ≤ pending.high then
      let value := pending.value * 0x40 + (n - 0x80)
      if pending.missing ≤ 1 then ([some (Char.ofNat value)], none)
      else ([], some { value, missing := pending.missing - 1, low := 0x80, high := 0xBF })
    else
      let (found, next) := openWith byte
      (none :: found, next)

def decodeFrom : Option Pending → List UInt8 → List (Option Char)
  | none, [] => []
  | some _, [] => [none]
  | state, byte :: rest => (readByte state byte).1 ++ decodeFrom (readByte state byte).2 rest

/-- The characters of a byte sequence, with a `none` for each ill-formed run. -/
def decode (bytes : List UInt8) : List (Option Char) :=
  decodeFrom none bytes

/-- The text of a byte sequence, each ill-formed run shown as U+FFFD. -/
def decodeLossy (bytes : List UInt8) : List Char :=
  (decode bytes).map fun item => item.getD '\uFFFD'

def decode? (bytes : List UInt8) : Option (List Char) :=
  (decode bytes).mapM id

def bytesOf (text : String) : List UInt8 :=
  encode text.toList

def ofBytes (bytes : List UInt8) : String :=
  String.ofList (decodeLossy bytes)

@[simp] theorem encode_nil : encode [] = [] := rfl

@[simp] theorem encode_append (left right : List Char) :
    encode (left ++ right) = encode left ++ encode right := by
  simp [encode]

/-- An ASCII byte stands for itself wherever it is met: what was begun before it stays unfinished,
and what follows is read as from a fresh start. -/
theorem decodeFrom_append_ascii (state : Option Pending) (left right : List UInt8) (byte : UInt8)
    (ascii : byte.toNat < 0x80) :
    decodeFrom state (left ++ byte :: right) =
      decodeFrom state left ++ some (Char.ofNat byte.toNat) :: decodeFrom none right := by
  induction left generalizing state with
  | nil =>
    cases state with
    | none => simp [decodeFrom, readByte, openWith, ascii]
    | some pending =>
      have outside : ¬ (pending.low ≤ byte.toNat ∧ byte.toNat ≤ pending.high) := by
        have := pending.low_ge
        omega
      simp [decodeFrom, readByte, outside, openWith, ascii]
  | cons first rest ih => simp only [List.cons_append, decodeFrom, ih, List.append_assoc]

theorem decodeLossy_append_ascii (left right : List UInt8) (byte : UInt8)
    (ascii : byte.toNat < 0x80) :
    decodeLossy (left ++ byte :: right) =
      decodeLossy left ++ Char.ofNat byte.toNat :: decodeLossy right := by
  simp [decodeLossy, decode, decodeFrom_append_ascii none left right byte ascii]

end StagedFormat.Text

import StagedFormat.Proofs.JsonReader

/-!
# What is printed can be read

Reading the text of a document gives the document back.  The proof follows the two passes of the
reader: the text of a document has the tokens of the document, and the tokens of a document make
the document.
-/

set_option autoImplicit false

namespace StagedFormat.Json

/-! ## Reading character by character -/

theorem tokensFrom_cons {mode : Mode} {c : Char} (next : Mode) (found : List Token)
    (rest : List Char) (read : mode.read c = some (found, next)) :
    tokensFrom mode (c :: rest) = (tokensFrom next rest).map (found ++ ·) := by
  cases later : tokensFrom next rest with
  | none => cases mode <;> simp [tokensFrom, read, later]
  | some tokens => cases mode <;> simp [tokensFrom, read, later]

theorem tokensFrom_skip {mode : Mode} {c : Char} (next : Mode) (rest : List Char)
    (read : mode.read c = some ([], next)) :
    tokensFrom mode (c :: rest) = tokensFrom next rest := by
  rw [tokensFrom_cons next [] rest read]
  cases tokensFrom next rest <;> rfl

def Delimits (text : List Char) : Prop :=
  ∀ c ∈ text.head?, isWordChar c = false

theorem delimits_cons {c : Char} (text : List Char) (delimiter : isWordChar c = false) :
    Delimits (c :: text) := by
  intro d member
  obtain rfl : c = d := by simpa using member
  exact delimiter

/-! ## Words -/

theorem tokensFrom_word (letters read rest : List Char)
    (isWord : ∀ c ∈ letters, isWordChar c = true) :
    tokensFrom (.word read) (letters ++ rest) =
      tokensFrom (.word (letters.reverse ++ read)) rest := by
  induction letters generalizing read with
  | nil => rfl
  | cons c later ih =>
    have step : (Mode.word read).read c = some ([], .word (c :: read)) := by
      simp [Mode.read, isWord c (by simp)]
    rw [List.cons_append, tokensFrom_skip _ _ step,
      ih _ fun d member => isWord d (by simp [member])]
    simp

theorem tokensFrom_word_end (read rest : List Char) (value : Json)
    (spelled : word? read.reverse = some value) (delimits : Delimits rest) :
    tokensFrom (.word read) rest = (tokensFrom .between rest).map (.scalar value :: ·) := by
  cases rest with
  | nil => simp [tokensFrom, spelled]
  | cons c rest =>
    have delimiter := delimits c rfl
    cases after : readBetween c with
    | none => simp [tokensFrom, Mode.read, delimiter, spelled, after]
    | some reading =>
      obtain ⟨found, next⟩ := reading
      have ends : (Mode.word read).read c = some (.scalar value :: found, next) := by
        simp [Mode.read, delimiter, spelled, after]
      have later : Mode.between.read c = some (found, next) := after
      rw [tokensFrom_cons _ _ rest ends, tokensFrom_cons _ _ rest later, Option.map_map]
      rfl

theorem readBetween_of_isWordChar (c : Char) (isWord : isWordChar c = true) :
    readBetween c = some ([], .word [c]) := by
  have differs : ∀ d, isWordChar d = false → c ≠ d := by
    rintro d notWord rfl
    exact Bool.false_ne_true (notWord.symm.trans isWord)
  simp [readBetween, isBlank, isWord, differs ' ' (by decide), differs '\t' (by decide),
    differs '\n' (by decide), differs '\r' (by decide), differs '"' (by decide)]

/-- A word before a delimiter is the scalar that it spells. -/
theorem tokensFrom_scalar (letters rest : List Char) (value : Json)
    (isWord : ∀ c ∈ letters, isWordChar c = true) (spelled : word? letters = some value)
    (delimits : Delimits rest) :
    tokensFrom .between (letters ++ rest) =
      (tokensFrom .between rest).map (.scalar value :: ·) := by
  cases letters with
  | nil => simp [word?, integer?, natural?] at spelled
  | cons c later =>
    have first : Mode.between.read c = some ([], .word [c]) :=
      readBetween_of_isWordChar c (isWord c (by simp))
    rw [List.cons_append, tokensFrom_skip _ _ first,
      tokensFrom_word later [c] rest fun d member => isWord d (by simp [member])]
    exact tokensFrom_word_end _ rest value (by simpa using spelled) delimits

/-! ## Numbers -/

theorem head?_toDigits_ne_zero (n : Nat) (positive : 0 < n) :
    (Nat.toDigits 10 n).head? ≠ some '0' := by
  induction n using Nat.strongRecOn with
  | _ n ih =>
    by_cases small : n < 10
    · have digits : ∀ d < 10, 0 < d → d.digitChar ≠ '0' := by decide
      rw [Nat.toDigits_of_lt_base small]
      simpa using digits n small positive
    · have smaller := ih (n / 10) (by omega) (by omega)
      obtain ⟨first, rest, shape⟩ := List.exists_cons_of_ne_nil
        (Nat.toDigits_ne_nil (n := n / 10) (b := 10))
      rw [shape] at smaller
      rw [Nat.toDigits_of_base_le (by decide) (by omega), shape]
      exact smaller

theorem natural?_toDigits (n : Nat) : natural? (Nat.toDigits 10 n) = some n := by
  have digits : (Nat.toDigits 10 n).all Char.isDigit = true := by
    rw [List.all_eq_true]
    intro c member
    exact Nat.isDigit_of_mem_toDigits (by decide) (by decide) member
  have canonical : Nat.toDigits 10 n = ['0'] ∨
      Nat.toDigits 10 n ≠ [] ∧ (Nat.toDigits 10 n).head? ≠ some '0' := by
    rcases Nat.eq_zero_or_pos n with rfl | positive
    · exact .inl (Nat.toDigits_zero 10)
    · exact .inr ⟨Nat.toDigits_ne_nil, head?_toDigits_ne_zero n positive⟩
  rw [natural?, if_pos ⟨digits, canonical⟩, Nat.ofDigitChars_ten_toDigits]

theorem integer?_toDigits (n : Nat) : integer? (Nat.toDigits 10 n) = some (n : Int) := by
  have noDash : ∀ digits, Nat.toDigits 10 n ≠ '-' :: digits := by
    intro digits shape
    have isDigit := Nat.isDigit_of_mem_toDigits (b := 10) (n := n) (c := '-') (by decide)
      (by decide) (by simp [shape])
    exact absurd isDigit (by decide)
  rw [integer?]
  · rw [natural?_toDigits]
    rfl
  · exact noDash

theorem toList_toString (number : Int) :
    (toString number).toList =
      if 0 ≤ number then Nat.toDigits 10 number.toNat
      else '-' :: Nat.toDigits 10 (-number).toNat := by
  rw [Int.toString_eq_repr, Int.repr_eq_if]
  split
  · exact Nat.toList_repr
  · rw [String.toList_append, Nat.toList_repr]
    rfl

theorem integer?_toString (number : Int) :
    integer? (toString number).toList = some number := by
  rw [toList_toString]
  split
  · rename_i positive
    rw [integer?_toDigits, Int.toNat_of_nonneg positive]
  · rename_i negative
    have back : -((-number).toNat : Int) = number := by omega
    rw [integer?, natural?_toDigits, Option.map_some, back]

theorem isWordChar_of_mem_toString (number : Int) :
    ∀ c ∈ (toString number).toList, isWordChar c = true := by
  have ofDigit : ∀ c : Char, c.isDigit = true → isWordChar c = true := by
    intro c isDigit
    simp [isWordChar, Char.isAlphanum, isDigit]
  have digits : ∀ n, ∀ c ∈ Nat.toDigits 10 n, isWordChar c = true := fun n c member =>
    ofDigit c (Nat.isDigit_of_mem_toDigits (by decide) (by decide) member)
  rw [toList_toString]
  split
  · exact digits _
  · intro c member
    rcases List.mem_cons.mp member with rfl | digit
    · decide
    · exact digits _ c digit

theorem word?_toString (number : Int) :
    word? (toString number).toList = some (.integer number) := by
  have differs : ∀ word : String, integer? word.toList = none →
      (toString number).toList ≠ word.toList := by
    intro word noNumber same
    rw [← same, integer?_toString] at noNumber
    cases noNumber
  rw [word?, if_neg (differs "null" (by decide)), if_neg (differs "true" (by decide)),
    if_neg (differs "false" (by decide)), integer?_toString]
  rfl

/-! ## Strings -/

theorem tokensFrom_escape (text rest : List Char) (c meant : Char)
    (known : escape? c = some meant) (noCode : c ≠ 'u') :
    tokensFrom (.quoted text) ('\\' :: c :: rest) = tokensFrom (.quoted (meant :: text)) rest := by
  have opens : (Mode.quoted text).read '\\' = some ([], .escaped none text) := rfl
  have closes : (Mode.escaped none text).read c = some ([], .quoted (meant :: text)) := by
    simp [Mode.read, noCode, known]
  rw [tokensFrom_skip _ _ opens, tokensFrom_skip _ _ closes]

theorem controlEscape_eq (n : Nat) (control : n < 0x20) :
    controlEscape (Char.ofNat n) =
        ['\\', 'u', '0', '0', (n / 16).digitChar, (n % 16).digitChar] ∧
      hexValue? (n / 16).digitChar = some (n / 16) ∧
      hexValue? (n % 16).digitChar = some (n % 16) := by
  have all : ∀ n < 0x20,
      controlEscape (Char.ofNat n) =
          ['\\', 'u', '0', '0', (n / 16).digitChar, (n % 16).digitChar] ∧
        hexValue? (n / 16).digitChar = some (n / 16) ∧
        hexValue? (n % 16).digitChar = some (n % 16) := by
    decide +kernel
  exact all n control

theorem tokensFrom_controlEscape (text rest : List Char) (c : Char) (control : c.toNat < 0x20) :
    tokensFrom (.quoted text) (controlEscape c ++ rest) =
      tokensFrom (.quoted (c :: text)) rest := by
  obtain ⟨spelled, high, low⟩ := controlEscape_eq c.toNat control
  rw [Char.ofNat_toNat] at spelled
  have value : c.toNat / 16 * 16 + c.toNat % 16 = c.toNat := by omega
  have ends : (Mode.hex none 3 (c.toNat / 16) text).read (c.toNat % 16).digitChar =
      some ([], .quoted (c :: text)) := by
    have plain : afterHex none c.toNat text = some (.quoted (c :: text)) := by
      have below : ¬ (0xD800 ≤ c.toNat ∧ c.toNat < 0xDC00) := by omega
      have notLow : ¬ (0xDC00 ≤ c.toNat ∧ c.toNat < 0xE000) := by omega
      rw [afterHex, if_neg below, if_neg notLow, Char.ofNat_toNat]
    simp [Mode.read, low, value, plain]
  have third : (Mode.hex none 2 0 text).read (c.toNat / 16).digitChar =
      some ([], .hex none 3 (c.toNat / 16) text) := by
    simp [Mode.read, high]
  rw [spelled]
  simp only [List.cons_append, List.nil_append]
  rw [tokensFrom_skip (.escaped none text) _ rfl,
    tokensFrom_skip (.hex none 0 0 text) _ rfl,
    tokensFrom_skip (.hex none 1 0 text) _ rfl,
    tokensFrom_skip (.hex none 2 0 text) _ rfl,
    tokensFrom_skip _ _ third, tokensFrom_skip _ _ ends]

theorem tokensFrom_escapeChar (text rest : List Char) (c : Char) :
    tokensFrom (.quoted text) (escapeChar c ++ rest) =
      tokensFrom (.quoted (c :: text)) rest := by
  unfold escapeChar
  by_cases quote : c = '"' ∨ c = '\\'
  · rw [if_pos quote]
    rcases quote with rfl | rfl
    · exact tokensFrom_escape text rest _ _ rfl (by decide)
    · exact tokensFrom_escape text rest _ _ rfl (by decide)
  by_cases feed : c = '\n'
  · subst feed
    exact tokensFrom_escape text rest 'n' _ rfl (by decide)
  by_cases back : c = '\r'
  · subst back
    exact tokensFrom_escape text rest 'r' _ rfl (by decide)
  by_cases tab : c = '\t'
  · subst tab
    exact tokensFrom_escape text rest 't' _ rfl (by decide)
  by_cases backspace : c = '\x08'
  · subst backspace
    exact tokensFrom_escape text rest 'b' _ rfl (by decide)
  by_cases formFeed : c = '\x0c'
  · subst formFeed
    exact tokensFrom_escape text rest 'f' _ rfl (by decide)
  rw [if_neg quote, if_neg feed, if_neg back, if_neg tab, if_neg backspace, if_neg formFeed]
  by_cases control : c.toNat < 0x20
  · rw [if_pos control]
    exact tokensFrom_controlEscape text rest c control
  · obtain ⟨notQuote, notBackslash⟩ := not_or.mp quote
    have plain : (Mode.quoted text).read c = some ([], .quoted (c :: text)) := by
      simp [Mode.read, notQuote, notBackslash, control]
    rw [if_neg control]
    exact tokensFrom_skip _ rest plain

theorem tokensFrom_quoted (text word rest : List Char) :
    tokensFrom (.quoted text) (word.flatMap escapeChar ++ '"' :: rest) =
      (tokensFrom .between rest).map
        (.scalar (.string (String.ofList (text.reverse ++ word))) :: ·) := by
  induction word generalizing text with
  | nil =>
    have closes : (Mode.quoted text).read '"' =
        some ([.scalar (.string (String.ofList text.reverse))], .between) := rfl
    rw [List.flatMap_nil, List.nil_append, tokensFrom_cons _ _ _ closes, List.append_nil]
    rfl
  | cons c word ih =>
    rw [List.flatMap_cons, List.append_assoc, tokensFrom_escapeChar, ih]
    simp

theorem tokensFrom_printString (text : String) (rest : List Char) :
    tokensFrom .between (printString text ++ rest) =
      (tokensFrom .between rest).map (.scalar (.string text) :: ·) := by
  have opens : Mode.between.read '"' = some ([], .quoted []) := rfl
  rw [printString, List.cons_append, List.cons_append, tokensFrom_skip _ _ opens,
    List.append_assoc, List.singleton_append, tokensFrom_quoted]
  simp

/-! ## The tokens of a document -/

mutual

def tokens : Json → List Token
  | .array [] => [.openArray, .closeArray]
  | .array (first :: rest) => .openArray :: tokens first ++ itemTokens rest ++ [.closeArray]
  | .object [] => [.openObject, .closeObject]
  | .object ((name, value) :: rest) =>
    .openObject :: .scalar (.string name) :: .colon :: tokens value ++ memberTokens rest
      ++ [.closeObject]
  | value => [.scalar value]

def itemTokens : List Json → List Token
  | [] => []
  | item :: rest => .comma :: tokens item ++ itemTokens rest

def memberTokens : List (String × Json) → List Token
  | [] => []
  | (name, value) :: rest =>
    .comma :: .scalar (.string name) :: .colon :: tokens value ++ memberTokens rest

end

theorem tokensFrom_mark (c : Char) (token : Token) (rest : List Char)
    (read : Mode.between.read c = some ([token], .between)) :
    tokensFrom .between (c :: rest) = (tokensFrom .between rest).map (token :: ·) :=
  tokensFrom_cons _ _ rest read

theorem tokensFrom_blanks (blanks rest : List Char) (blank : ∀ c ∈ blanks, isBlank c = true) :
    tokensFrom .between (blanks ++ rest) = tokensFrom .between rest := by
  induction blanks with
  | nil => rfl
  | cons c later ih =>
    have skipped : Mode.between.read c = some ([], .between) := by
      simp [Mode.read, readBetween, blank c (by simp)]
    rw [List.cons_append, tokensFrom_skip _ _ skipped,
      ih fun d member => blank d (by simp [member])]

theorem isBlank_of_mem_newLine (depth : Nat) : ∀ c ∈ newLine depth, isBlank c = true := by
  intro c member
  rcases List.mem_cons.mp member with rfl | space
  · rfl
  · rw [List.eq_of_mem_replicate space]
    rfl

theorem tokensFrom_newLine (depth : Nat) (rest : List Char) :
    tokensFrom .between (newLine depth ++ rest) = tokensFrom .between rest :=
  tokensFrom_blanks _ rest (isBlank_of_mem_newLine depth)

theorem delimits_newLine (depth : Nat) (rest : List Char) : Delimits (newLine depth ++ rest) :=
  delimits_cons _ (by decide)

theorem delimits_printItems (depth : Nat) (items : List Json) (rest : List Char)
    (delimits : Delimits rest) : Delimits (printItems depth items ++ rest) := by
  cases items with
  | nil => simpa [printItems] using delimits
  | cons item others => exact delimits_cons _ (by decide)

theorem delimits_printMembers (depth : Nat) (members : List (String × Json)) (rest : List Char)
    (delimits : Delimits rest) : Delimits (printMembers depth members ++ rest) := by
  cases members with
  | nil => simpa [printMembers] using delimits
  | cons member others => exact delimits_cons _ (by decide)

theorem tokensFrom_colon (rest : List Char) :
    tokensFrom .between (": ".toList ++ rest) =
      (tokensFrom .between rest).map (.colon :: ·) := by
  have blank := tokensFrom_blanks [' '] rest (List.all_eq_true.mp (by decide))
  have text : ": ".toList ++ rest = ':' :: ([' '] ++ rest) := rfl
  rw [text, tokensFrom_mark ':' .colon _ rfl, blank]

mutual

theorem tokensFrom_print : ∀ (document : Json) (depth : Nat) (rest : List Char),
    Delimits rest → tokensFrom .between (print depth document ++ rest) =
      (tokensFrom .between rest).map (tokens document ++ ·)
  | .null, _, rest, delimits => by
    rw [print]
    exact tokensFrom_scalar _ rest .null (List.all_eq_true.mp (by decide)) rfl delimits
  | .boolean true, _, rest, delimits => by
    rw [print]
    exact tokensFrom_scalar _ rest (.boolean true) (List.all_eq_true.mp (by decide)) rfl delimits
  | .boolean false, _, rest, delimits => by
    rw [print]
    exact tokensFrom_scalar _ rest (.boolean false) (List.all_eq_true.mp (by decide)) rfl delimits
  | .integer number, _, rest, delimits => by
    rw [print]
    exact tokensFrom_scalar _ rest (.integer number) (isWordChar_of_mem_toString number)
      (word?_toString number) delimits
  | .string text, _, rest, _ => by
    rw [print, tokensFrom_printString]
    rfl
  | .array [], _, rest, _ => by
    have text : "[]".toList ++ rest = '[' :: ']' :: rest := rfl
    rw [print, text, tokensFrom_mark '[' .openArray _ rfl, tokensFrom_mark ']' .closeArray _ rfl,
      Option.map_map]
    rfl
  | .array (first :: others), depth, rest, _ => by
    have item := tokensFrom_print first (depth + 1) _
      (delimits_printItems (depth + 1) others _ (delimits_newLine depth (']' :: rest)))
    have items := tokensFrom_printItems others (depth + 1) _
      (delimits_newLine depth (']' :: rest))
    simp only [print, List.cons_append, List.append_assoc, List.nil_append]
    rw [tokensFrom_mark '[' .openArray _ rfl, tokensFrom_newLine, item, items,
      tokensFrom_newLine, tokensFrom_mark ']' .closeArray _ rfl]
    cases tokensFrom .between rest with
    | none => rfl
    | some later => simp [tokens]
  | .object [], _, rest, _ => by
    have text : "\x7b\x7d".toList ++ rest = '\x7b' :: '\x7d' :: rest := rfl
    rw [print, text, tokensFrom_mark '\x7b' .openObject _ rfl,
      tokensFrom_mark '\x7d' .closeObject _ rfl, Option.map_map]
    rfl
  | .object ((name, value) :: others), depth, rest, _ => by
    have member := tokensFrom_print value (depth + 1) _
      (delimits_printMembers (depth + 1) others _ (delimits_newLine depth ('\x7d' :: rest)))
    have members := tokensFrom_printMembers others (depth + 1) _
      (delimits_newLine depth ('\x7d' :: rest))
    simp only [print, List.cons_append, List.append_assoc, List.nil_append]
    rw [tokensFrom_mark '\x7b' .openObject _ rfl, tokensFrom_newLine, tokensFrom_printString,
      tokensFrom_colon, member, members, tokensFrom_newLine,
      tokensFrom_mark '\x7d' .closeObject _ rfl]
    cases tokensFrom .between rest with
    | none => rfl
    | some later => simp [tokens]

theorem tokensFrom_printItems : ∀ (items : List Json) (depth : Nat) (rest : List Char),
    Delimits rest → tokensFrom .between (printItems depth items ++ rest) =
      (tokensFrom .between rest).map (itemTokens items ++ ·)
  | [], _, rest, _ => by simp [printItems, itemTokens]
  | item :: others, depth, rest, delimits => by
    have first := tokensFrom_print item depth _ (delimits_printItems depth others rest delimits)
    have later := tokensFrom_printItems others depth rest delimits
    simp only [printItems, List.cons_append, List.append_assoc]
    rw [tokensFrom_mark ',' .comma _ rfl, tokensFrom_newLine, first, later]
    cases tokensFrom .between rest with
    | none => rfl
    | some found => simp [itemTokens]

theorem tokensFrom_printMembers :
    ∀ (members : List (String × Json)) (depth : Nat) (rest : List Char),
    Delimits rest → tokensFrom .between (printMembers depth members ++ rest) =
      (tokensFrom .between rest).map (memberTokens members ++ ·)
  | [], _, rest, _ => by simp [printMembers, memberTokens]
  | (name, value) :: others, depth, rest, delimits => by
    have first := tokensFrom_print value depth _
      (delimits_printMembers depth others rest delimits)
    have later := tokensFrom_printMembers others depth rest delimits
    simp only [printMembers, List.cons_append, List.append_assoc]
    rw [tokensFrom_mark ',' .comma _ rfl, tokensFrom_newLine, tokensFrom_printString,
      tokensFrom_colon, first, later]
    cases tokensFrom .between rest with
    | none => rfl
    | some found => simp [memberTokens]

end

/-! ## The document of the tokens -/

/-- The first item of an array is read like any value in it. -/
theorem foldlM_tokens_first (document : Json) (stack : List Frame) (rest : List Token) :
    (tokens document ++ rest).foldlM Expecting.step (.first stack) =
      (tokens document ++ rest).foldlM Expecting.step (.value (.array [] :: stack)) := by
  cases document with
  | array items => cases items <;> rfl
  | object members => cases members <;> rfl
  | _ => rfl

mutual

theorem foldlM_tokens : ∀ (document : Json) (stack : List Frame) (rest : List Token),
    (tokens document ++ rest).foldlM Expecting.step (.value stack) =
      rest.foldlM Expecting.step (.after stack document)
  | .null, _, _ => rfl
  | .boolean _, _, _ => rfl
  | .integer _, _, _ => rfl
  | .string _, _, _ => rfl
  | .array [], _, _ => rfl
  | .array (first :: others), stack, rest => by
    have opened : (Expecting.value stack).step .openArray = some (.first stack) := rfl
    simp only [tokens, List.cons_append, List.append_assoc, List.nil_append, List.foldlM_cons,
      opened, Option.bind_eq_bind, Option.bind_some]
    rw [foldlM_tokens_first, foldlM_tokens first, foldlM_itemTokens others]
    rfl
  | .object [], _, _ => rfl
  | .object ((name, value) :: others), stack, rest => by
    have opened : (Expecting.value stack).step .openObject = some (.name stack []) := rfl
    have named : (Expecting.name stack []).step (.scalar (.string name)) =
        some (.colon stack [] name) := rfl
    have divided : (Expecting.colon stack [] name).step .colon =
        some (.value (.object [] name :: stack)) := rfl
    simp only [tokens, List.cons_append, List.append_assoc, List.nil_append, List.foldlM_cons,
      opened, named, divided, Option.bind_eq_bind, Option.bind_some]
    rw [foldlM_tokens value, foldlM_memberTokens others]
    rfl

theorem foldlM_itemTokens : ∀ (items : List Json) (read : List Json) (item : Json)
    (stack : List Frame) (rest : List Token),
    (itemTokens items ++ .closeArray :: rest).foldlM Expecting.step
        (.after (.array read :: stack) item) =
      rest.foldlM Expecting.step (.after stack (.array ((item :: read).reverse ++ items)))
  | [], read, item, stack, rest => by
    rw [List.append_nil]
    rfl
  | next :: others, read, item, stack, rest => by
    have divided : (Expecting.after (.array read :: stack) item).step .comma =
        some (.value (.array (item :: read) :: stack)) := rfl
    simp only [itemTokens, List.cons_append, List.append_assoc, List.foldlM_cons, divided,
      Option.bind_eq_bind, Option.bind_some]
    rw [foldlM_tokens next, foldlM_itemTokens others]
    simp

theorem foldlM_memberTokens : ∀ (members read : List (String × Json)) (name : String)
    (value : Json) (stack : List Frame) (rest : List Token),
    (memberTokens members ++ .closeObject :: rest).foldlM Expecting.step
        (.after (.object read name :: stack) value) =
      rest.foldlM Expecting.step
        (.after stack (.object (((name, value) :: read).reverse ++ members)))
  | [], read, name, value, stack, rest => by
    rw [List.append_nil]
    rfl
  | (next, document) :: others, read, name, value, stack, rest => by
    have divided : (Expecting.after (.object read name :: stack) value).step .comma =
        some (.name stack ((name, value) :: read)) := rfl
    have named : (Expecting.name stack ((name, value) :: read)).step (.scalar (.string next)) =
        some (.colon stack ((name, value) :: read) next) := rfl
    have assigned : (Expecting.colon stack ((name, value) :: read) next).step .colon =
        some (.value (.object ((name, value) :: read) next :: stack)) := rfl
    simp only [memberTokens, List.cons_append, List.append_assoc, List.foldlM_cons, divided,
      named, assigned, Option.bind_eq_bind, Option.bind_some]
    rw [foldlM_tokens document, foldlM_memberTokens others]
    simp

end

/-- Reading what is printed gives the document back. -/
theorem read?_print (document : Json) : read? (document.print 0) = some document := by
  have lexed := tokensFrom_print document 0 [] (by simp [Delimits])
  have parsed := foldlM_tokens document [] []
  simp only [List.append_nil] at lexed parsed
  rw [read?, lexed]
  simp [tokensFrom, parsed]

end StagedFormat.Json

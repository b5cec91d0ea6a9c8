import Mathlib.Data.List.Basic
import StagedFormat.Hook.Install
import StagedFormat.Toml.Digit

/-!
# Reading quoted text

A text between quotes can be read back, and what follows its closing quote is what followed it when
it was written.  So a message that shows a text between quotes tells which text it is about,
whatever characters the text is made of.
-/

set_option autoImplicit false

namespace StagedFormat.Text

inductive Place
  | plain
  | escaped
  /-- Before the brace that opens a code point. -/
  | opening
  | codePoint (value : Nat)

/-- Reads up to the closing quote; what was read is given with what follows it. -/
def readQuoted : Place → List Char → Option (List Char × List Char)
  | _, [] => none
  | .plain, c :: rest =>
    if c = '"' then some ([], rest)
    else if c = '\\' then readQuoted .escaped rest
    else (readQuoted .plain rest).map (Prod.map (c :: ·) id)
  | .escaped, c :: rest =>
    if c = 'u' then readQuoted .opening rest
    else
      let meant :=
        if c = '0' then '\x00' else if c = 't' then '\t' else if c = 'r' then '\r'
        else if c = 'n' then '\n' else c
      (readQuoted .plain rest).map (Prod.map (meant :: ·) id)
  | .opening, c :: rest => if c = '\x7b' then readQuoted (.codePoint 0) rest else none
  | .codePoint value, c :: rest =>
    if c = '\x7d' then (readQuoted .plain rest).map (Prod.map (Char.ofNat value :: ·) id)
    else (Toml.hexDigit? c).bind fun digit => readQuoted (.codePoint (16 * value + digit)) rest

theorem readQuoted_toDigits (n : Nat) (rest : List Char) :
    readQuoted (.codePoint 0) (Nat.toDigits 16 n ++ rest) = readQuoted (.codePoint n) rest := by
  have digit : ∀ d < 16, d.digitChar ≠ '\x7d' ∧ Toml.hexDigit? d.digitChar = some d := by
    decide
  induction n using Nat.strongRecOn generalizing rest with
  | _ n ih =>
    by_cases small : n < 16
    · rw [Nat.toDigits_of_lt_base small, List.singleton_append, readQuoted,
        if_neg (digit n small).1, (digit n small).2]
      simp
    · have last := digit (n % 16) (Nat.mod_lt n (by omega))
      rw [Nat.toDigits_of_base_le (by omega) (by omega), List.append_assoc, ih (n / 16) (by omega),
        List.singleton_append, readQuoted, if_neg last.1, last.2, Option.bind_some,
        Nat.div_add_mod]

theorem readQuoted_quoteChar (c : Char) (rest : List Char) :
    readQuoted .plain (quoteChar c ++ rest) =
      (readQuoted .plain rest).map (Prod.map (c :: ·) id) := by
  unfold quoteChar
  split_ifs with zero tab carriage feed special code
  · subst zero; simp [readQuoted]
  · subst tab; simp [readQuoted]
  · subst carriage; simp [readQuoted]
  · subst feed; simp [readQuoted]
  · rcases special with rfl | rfl <;> simp [readQuoted]
  · have byCode : codePointEscape c ++ rest =
        '\\' :: 'u' :: '\x7b' :: (Nat.toDigits 16 c.toNat ++ '\x7d' :: rest) := by
      simp [codePointEscape]
    rw [byCode]
    simp only [readQuoted, readQuoted_toDigits, Char.ofNat_toNat]
    simp
  · obtain ⟨notBackslash, notQuote⟩ := not_or.mp special
    simp [readQuoted, notBackslash, notQuote]

theorem readQuoted_quoteChars (text rest : List Char) :
    readQuoted .plain (text.flatMap quoteChar ++ '"' :: rest) = some (text, rest) := by
  induction text with
  | nil => simp [readQuoted]
  | cons c text ih =>
    rw [List.flatMap_cons, List.append_assoc, readQuoted_quoteChar, ih]
    rfl

theorem toList_quote_append (text rest : String) :
    (quote text ++ rest).toList = '"' :: (text.toList.flatMap quoteChar ++ '"' :: rest.toList) := by
  simp [quote]

/-- What begins with a quoted text tells which text it is, and what follows. -/
theorem quote_append_inj {text other rest otherRest : String}
    (same : quote text ++ rest = quote other ++ otherRest) : text = other ∧ rest = otherRest := by
  have spelled := congrArg String.toList same
  rw [toList_quote_append, toList_quote_append, List.cons.injEq] at spelled
  have read := congrArg (readQuoted .plain) spelled.2
  rw [readQuoted_quoteChars, readQuoted_quoteChars] at read
  obtain ⟨sameText, sameRest⟩ := Prod.mk.inj (Option.some.inj read)
  exact ⟨String.toList_injective sameText, String.toList_injective sameRest⟩

theorem quote_injective : Function.Injective quote := by
  intro text other same
  exact (quote_append_inj (congrArg (· ++ "") same)).1

end StagedFormat.Text

namespace StagedFormat

/-! ## Messages about globs -/

theorem ConfigProblem.badGlob_text (glob : String) (error : Glob.Error) :
    (ConfigProblem.badGlob glob error).text =
      "invalid include pattern " ++ (Text.quote glob ++ (": " ++ error.message)) := by
  rw [← String.append_assoc, ← String.append_assoc]
  rfl

/-- The message about an invalid glob tells which glob it is, and what is wrong with it. -/
theorem ConfigProblem.badGlob_of_text_eq {glob other : String} {error otherError : Glob.Error}
    (same : (ConfigProblem.badGlob glob error).text =
      (ConfigProblem.badGlob other otherError).text) :
    glob = other ∧ error.message = otherError.message := by
  rw [badGlob_text, badGlob_text] at same
  obtain ⟨sameGlob, follows⟩ := Text.quote_append_inj ((String.append_right_inj _).mp same)
  exact ⟨sameGlob, (String.append_right_inj _).mp follows⟩

/-- The message about a glob that no script can hold tells which glob it is. -/
theorem Hook.InstallError.unsupportedGlob_of_message_eq {glob other : String}
    (same : (InstallError.unsupportedGlob glob).message =
      (InstallError.unsupportedGlob other).message) : glob = other := by
  have spelled : "Unsupported glob for hook: " ++ Text.quote glob =
      "Unsupported glob for hook: " ++ Text.quote other := same
  exact Text.quote_injective ((String.append_right_inj _).mp spelled)

end StagedFormat

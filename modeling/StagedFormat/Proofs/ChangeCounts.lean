import StagedFormat.Proofs.Attempts
import StagedFormat.Proofs.Lines
import StagedFormat.Proofs.Utf8

/-!
# What the counts of a comparison say

A comparison that succeeds prints a record for each file: two counts and a name, with a tab behind
each count and a line feed behind the name.  A name may be any bytes but line feeds, so it can hold
tabs, end with a carriage return or be no text at all.  None of this reaches the counts: a tab and a
line feed end whatever is read before them, the fields of a line are counted from its start, and a
return is lost at its end only.
-/

set_option autoImplicit false

namespace StagedFormat

namespace Numstat

/-! ## Records -/

/-- What is counted for a file: its lines added and removed, or nothing if it has no lines. -/
inductive Counts
  | lines (added removed : Nat)
  | dashes
  deriving DecidableEq, Repr

namespace Counts

def added : Counts → String
  | lines added _ => toString added
  | dashes => "-"

def removed : Counts → String
  | lines _ removed => toString removed
  | dashes => "-"

def isChange : Counts → Bool
  | lines added removed => added != 0 || removed != 0
  | dashes => true

end Counts

/-- The line about one file.  Its name may be any bytes but line feeds. -/
structure Record where
  counts : Counts
  name : List UInt8
  oneLine : 0x0A ∉ name

def Record.bytes (record : Record) : List UInt8 :=
  Text.bytesOf record.counts.added ++ 0x09 ::
    (Text.bytesOf record.counts.removed ++ 0x09 :: (record.name ++ [0x0A]))

theorem decodeLossy_record (record : Record) (rest : List UInt8) :
    Text.decodeLossy (record.bytes ++ rest) =
      (record.counts.added.toList ++ '\t' ::
        (record.counts.removed.toList ++ '\t' :: Text.decodeLossy record.name)) ++
        '\n' :: Text.decodeLossy rest := by
  have tab : Char.ofNat (0x09 : UInt8).toNat = '\t' := rfl
  have feed : Char.ofNat (0x0A : UInt8).toNat = '\n' := rfl
  have shape : record.bytes ++ rest = Text.encode record.counts.added.toList ++ 0x09 ::
      (Text.encode record.counts.removed.toList ++ 0x09 :: (record.name ++ 0x0A :: rest)) := by
    simp [Record.bytes, Text.bytesOf]
  rw [shape, Text.decodeLossy_append_ascii _ _ 0x09 (by decide), tab,
    Text.decodeLossy_append_ascii _ _ 0x09 (by decide), tab,
    Text.decodeLossy_append_ascii _ _ 0x0A (by decide), feed, Text.decodeLossy_encode,
    Text.decodeLossy_encode]
  simp only [List.append_assoc, List.cons_append]

/-! ## Fields -/

theorem isBlank_of_isDigit (c : Char) (digit : c.isDigit = true) : Text.isBlank c = false := by
  obtain ⟨low, high⟩ : 48 ≤ c.toNat ∧ c.toNat ≤ 57 := by
    simpa [Char.isDigit, UInt32.le_iff_toNat_le] using digit
  by_contra solid
  have blank : Text.isBlank c = true := by simpa using solid
  simp only [Text.isBlank, Bool.or_eq_true, Bool.and_eq_true, decide_eq_true_eq,
    beq_iff_eq] at blank
  omega

theorem solid_toString (n : Nat) : ∀ c ∈ (toString n).toList, Text.isBlank c = false := by
  intro c member
  rw [Nat.toString_eq_repr, Nat.toList_repr] at member
  exact isBlank_of_isDigit c (Nat.isDigit_of_mem_toDigits (by decide) (by decide) member)

theorem isNonzero_toString (n : Nat) : isNonzero (toString n).toList = (n != 0) := by
  have spelled : Nat.toDigits 10 n = ['0'] ↔ n = 0 := by
    constructor
    · intro zero
      have value := Nat.ofDigitChars_ten_toDigits (n := n)
      rw [zero] at value
      exact value.symm
    · rintro rfl
      rfl
  rw [isNonzero, Text.trim_of_solid _ (solid_toString n), Nat.toString_eq_repr, Nat.toList_repr,
    Bool.eq_iff_iff]
  simp [spelled]

namespace Counts

theorem solid_dash : ∀ c ∈ "-".toList, Text.isBlank c = false := by
  intro c member
  obtain rfl : c = '-' := by simpa using member
  rfl

theorem solid_added (counts : Counts) : ∀ c ∈ counts.added.toList, Text.isBlank c = false := by
  cases counts with
  | lines added removed => exact solid_toString added
  | dashes => exact solid_dash

theorem solid_removed (counts : Counts) :
    ∀ c ∈ counts.removed.toList, Text.isBlank c = false := by
  cases counts with
  | lines added removed => exact solid_toString removed
  | dashes => exact solid_dash

theorem isChange_eq (counts : Counts) :
    counts.isChange = (isNonzero counts.added.toList || isNonzero counts.removed.toList) := by
  cases counts with
  | lines added removed =>
    simp only [Counts.added, Counts.removed, isNonzero_toString, isChange]
  | dashes => rfl

end Counts

/-! ## Lines -/

theorem lineHasChanges_of_fields (added removed others : List Char)
    (addedSolid : ∀ c ∈ added, Text.isBlank c = false)
    (removedSolid : ∀ c ∈ removed, Text.isBlank c = false) :
    lineHasChanges (added ++ '\t' :: (removed ++ '\t' :: others)) =
      (isNonzero added || isNonzero removed) := by
  have plain : ∀ field : List Char, (∀ c ∈ field, Text.isBlank c = false) →
      ∀ c ∈ field, (c == '\t') = false := by
    intro field solid c member
    rw [beq_eq_false_iff_ne]
    rintro rfl
    exact Bool.false_ne_true ((solid '\t' member).symm.trans rfl)
  rw [lineHasChanges, Text.pieces_append_cons _ added _ '\t' (plain added addedSolid) rfl,
    Text.pieces_append_cons _ removed _ '\t' (plain removed removedSolid) rfl]

theorem hasChanges_record (record : Record) (rest : List UInt8) :
    hasChanges (Text.decodeLossy (record.bytes ++ rest)) =
      (record.counts.isChange || hasChanges (Text.decodeLossy rest)) := by
  have noFeed : '\n' ∉ record.counts.added.toList ++ '\t' ::
      (record.counts.removed.toList ++ '\t' :: Text.decodeLossy record.name) := by
    have solid : ∀ field : List Char, (∀ c ∈ field, Text.isBlank c = false) → '\n' ∉ field := by
      intro field plain feed
      exact Bool.false_ne_true ((plain '\n' feed).symm.trans rfl)
    have name : '\n' ∉ Text.decodeLossy record.name := fun feed =>
      record.oneLine (Text.lineFeed_of_mem_decodeLossy record.name feed)
    simp [solid _ record.counts.solid_added, solid _ record.counts.solid_removed, name]
  rw [decodeLossy_record, hasChanges, Text.lines_append_lineFeed,
    List.splitOn_eq_singleton noFeed, List.map_singleton, List.singleton_append, List.any_cons,
    Text.withoutReturn_append_cons _ _ '\t' (by decide),
    Text.withoutReturn_append_cons _ _ '\t' (by decide),
    lineHasChanges_of_fields _ _ _ record.counts.solid_added record.counts.solid_removed,
    ← record.counts.isChange_eq]
  rfl

/-- Whatever the names are, only the counts are read. -/
theorem hasChanges_records (records : List Record) :
    hasChanges (Text.decodeLossy (records.flatMap Record.bytes)) =
      records.any (·.counts.isChange) := by
  induction records with
  | nil => rfl
  | cons record rest ih => rw [List.flatMap_cons, hasChanges_record, ih, List.any_cons]

end Numstat

namespace Repository

open StagedFormat.Action

variable (host : Host) (past : List Started) (root : Path) (file : String)
  (whitespace : WhitespacePolicy)

theorem value_hasChanges :
    (hasChanges host root file whitespace past).value =
      match host.answer past (changeQuery root whitespace file) with
      | .error error => .error (.of error.message)
      | .ok completion =>
        if completion.ending = .exited 0 then
          .ok (Numstat.hasChanges (Text.decodeLossy completion.stdout))
        else .ok false := by
  simp only [hasChanges, value_bind, value_git, changeQuery]
  cases host.answer past ⟨.ofText "git",
      ["diff", "--cached", "--numstat", whitespace.flag, "--", file], root⟩ with
  | error error => rfl
  | ok completion =>
    by_cases success : completion.ending = .exited 0
    · simp only [if_pos ((Ending.isSuccess_iff _).mpr success), if_pos success, value_pure]
    · simp only [if_neg (mt (Ending.isSuccess_iff _).mp success), if_neg success, value_bind,
        value_pure]

theorem value_hasChanges_of_output? {output : List UInt8}
    (printed : host.output? past (changeQuery root whitespace file) = some output) :
    (hasChanges host root file whitespace past).value =
      .ok (Numstat.hasChanges (Text.decodeLossy output)) := by
  obtain ⟨completion, answered, success, rfl⟩ := value_git_of_output? printed
  simp only [hasChanges, value_bind, answered, if_pos success, value_pure]

/-- A comparison that succeeds is answered by its counts: a change is reported if some count is not
zero, or a dash.  The names in it and the order of its lines have no influence.  A comparison that
fails reports no change, and only one that cannot be started is no answer. -/
theorem hasChanges_counts :
    (∀ records : List Numstat.Record,
      host.output? past (changeQuery root whitespace file) =
          some (records.flatMap Numstat.Record.bytes) →
        (hasChanges host root file whitespace past).value =
          .ok (decide (∃ record ∈ records, record.counts.isChange = true))) ∧
    (∀ (other : Host) (before : List Started) (records others : List Numstat.Record),
      host.output? past (changeQuery root whitespace file) =
          some (records.flatMap Numstat.Record.bytes) →
        other.output? before (changeQuery root whitespace file) =
            some (others.flatMap Numstat.Record.bytes) →
          (records.map (·.counts)).Perm (others.map (·.counts)) →
            (hasChanges other root file whitespace before).value =
              (hasChanges host root file whitespace past).value) ∧
    (∀ started completion,
      host.start past (changeQuery root whitespace file) = .ok (started, completion) →
        completion.ending ≠ .exited 0 →
          (hasChanges host root file whitespace past).value = .ok false) ∧
    ((∃ trouble, (hasChanges host root file whitespace past).value = .error trouble) ↔
      ∃ error, host.start past (changeQuery root whitespace file) = .error error) := by
  have counted : ∀ (machine : Host) (before : List Started) (records : List Numstat.Record),
      machine.output? before (changeQuery root whitespace file) =
          some (records.flatMap Numstat.Record.bytes) →
        (hasChanges machine root file whitespace before).value =
          .ok (records.any (·.counts.isChange)) := by
    intro machine before records printed
    rw [value_hasChanges_of_output? machine before root file whitespace printed,
      Numstat.hasChanges_records]
  refine ⟨?_, ?_, ?_, ?_⟩
  · intro records printed
    rw [counted host past records printed, List.any_eq]
  · intro other before records others printed otherPrinted same
    have members : ∀ all : List Numstat.Record,
        all.any (·.counts.isChange) = (all.map (·.counts)).any Numstat.Counts.isChange := by
      intro all
      rw [List.any_map]
      rfl
    rw [counted host past records printed, counted other before others otherPrinted, members,
      members, same.any_eq]
  · intro started completion starts fails
    rw [value_hasChanges, Host.answer_eq_ok_iff.mpr ⟨started, starts⟩]
    exact if_neg fails
  · rw [value_hasChanges]
    simp only [← Host.answer_eq_error_iff]
    cases host.answer past (changeQuery root whitespace file) with
    | error error => simp
    | ok completion =>
      dsimp only
      split <;> simp

/-- A record of no changed lines.  The name of its file begins a character, has a tab in the place
of the next byte, and ends with a return. -/
def oddRecord : Numstat.Record :=
  ⟨.lines 0 0, [0x61, 0xE2, 0x09, 0x31, 0x0D], by decide⟩

def oddHost : Host where
  tree := .empty
  workdir := .top
  onSearchPath := fun name => name = .ofText "git"
  perform := fun _ _ => .ok ⟨.exited 0, oddRecord.bytes, []⟩
  rejection := fun _ => ""

theorem hasChanges_counts_odd :
    (hasChanges oddHost (.ofText "/") "a" .atLineEnd []).value = .ok false := by
  obtain ⟨counted, -, -, -⟩ := hasChanges_counts oddHost [] (.ofText "/") "a" .atLineEnd
  have printed : oddHost.output? [] (changeQuery (.ofText "/") .atLineEnd "a") =
      some ([oddRecord].flatMap Numstat.Record.bytes) := by
    decide +kernel
  rw [counted [oddRecord] printed]
  simp [oddRecord, Numstat.Counts.isChange]

end Repository
end StagedFormat

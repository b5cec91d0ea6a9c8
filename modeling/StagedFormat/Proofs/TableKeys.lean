import Mathlib.Data.List.Nodup
import StagedFormat.Toml.Document

/-!
# Keys of a document

No table of a document has a key twice, on whatever lines and in whatever notation its entries were
written.  A reader keeps this for its drafts with every token, and `Draft.close` for their values.
-/

set_option autoImplicit false

namespace StagedFormat.Toml

/-! ## Tables that have each key once -/

/-- Each key stands once. -/
def Distinct {α : Type} (entries : List (String × α)) : Prop :=
  (entries.map Prod.fst).Nodup

/-- All tables in a value have each key once. -/
inductive Value.KeysOnce : Value → Prop
  | string (text : String) : (Value.string text).KeysOnce
  | integer (number : Int) : (Value.integer number).KeysOnce
  | float (number : Binary64) : (Value.float number).KeysOnce
  | hugeFloat : Value.hugeFloat.KeysOnce
  | boolean (flag : Bool) : (Value.boolean flag).KeysOnce
  | dateTime : Value.dateTime.KeysOnce
  | array {items : List Value} (inside : ∀ item ∈ items, item.KeysOnce) :
      (Value.array items).KeysOnce
  | table {entries : Table} (once : Distinct entries)
      (inside : ∀ entry ∈ entries, entry.2.KeysOnce) : (Value.table entries).KeysOnce

inductive Node.KeysOnce : Node → Prop
  | leaf {value : Value} (once : value.KeysOnce) : (Node.leaf value).KeysOnce
  | table {origin : Origin} {entries : Draft} (once : Distinct entries)
      (inside : ∀ entry ∈ entries, entry.2.KeysOnce) : (Node.table origin entries).KeysOnce
  | tables {last : Draft} {earlier : List Draft} (once : Distinct last)
      (inside : ∀ entry ∈ last, entry.2.KeysOnce) (earlierOnce : ∀ draft ∈ earlier, Distinct draft)
      (earlierInside : ∀ draft ∈ earlier, ∀ entry ∈ draft, entry.2.KeysOnce) :
      (Node.tables last earlier).KeysOnce

structure Draft.KeysOnce (draft : Draft) : Prop where
  once : Distinct draft
  inside : ∀ entry ∈ draft, entry.2.KeysOnce

/-! ## Values of drafts -/

theorem insertEntry_perm (key : String) (value : Value) (table : Table) :
    (insertEntry key value table).Perm ((key, value) :: table) := by
  induction table with
  | nil => exact .refl _
  | cons entry rest ih =>
    obtain ⟨other, held⟩ := entry
    rw [insertEntry]
    split
    · exact .refl _
    · exact (ih.cons _).trans (.swap _ _ _)

/-- Closing a draft closes what is in it, and puts it into another order. -/
theorem closeEntries_perm (draft : Draft) :
    (closeEntries draft).Perm (draft.map fun entry => (entry.1, entry.2.close)) := by
  induction draft with
  | nil => exact .refl _
  | cons entry rest ih =>
    obtain ⟨key, node⟩ := entry
    rw [closeEntries, List.map_cons]
    exact (insertEntry_perm key node.close _).trans (ih.cons _)

theorem closeTables_eq (drafts : List Draft) :
    closeTables drafts = drafts.map fun draft => .table (closeEntries draft) := by
  induction drafts with
  | nil => rfl
  | cons draft rest ih => rw [closeTables, ih, List.map_cons]

theorem Distinct.closeEntries {draft : Draft} (once : Distinct draft) :
    Distinct (closeEntries draft) := by
  have sameKeys := (closeEntries_perm draft).map Prod.fst
  rw [List.map_map] at sameKeys
  exact sameKeys.nodup_iff.mpr once

theorem forall_mem_closeEntries {draft : Draft} (inside : ∀ entry ∈ draft, entry.2.close.KeysOnce) :
    ∀ entry ∈ closeEntries draft, entry.2.KeysOnce := by
  intro entry member
  obtain ⟨source, sourceMember, rfl⟩ :=
    List.mem_map.mp ((closeEntries_perm draft).mem_iff.mp member)
  exact inside source sourceMember

theorem Node.KeysOnce.close {node : Node} (keys : node.KeysOnce) : node.close.KeysOnce := by
  induction keys with
  | leaf once => exact once
  | table once inside ih => exact .table once.closeEntries (forall_mem_closeEntries ih)
  | @tables last earlier once inside earlierOnce earlierInside ih earlierIh =>
    refine .array fun item member => ?_
    rw [List.mem_reverse, closeTables_eq, List.mem_cons, List.mem_map] at member
    rcases member with rfl | ⟨draft, draftMember, rfl⟩
    · exact .table once.closeEntries (forall_mem_closeEntries ih)
    · exact .table (earlierOnce draft draftMember).closeEntries
        (forall_mem_closeEntries (earlierIh draft draftMember))

theorem Draft.KeysOnce.close {draft : Draft} (keys : draft.KeysOnce) :
    (Value.table draft.close).KeysOnce :=
  .table keys.once.closeEntries
    (forall_mem_closeEntries fun entry member => (keys.inside entry member).close)

/-! ## Drafts that grow -/

namespace Draft

variable {draft after : Draft} {key : String}

/-- What a change makes of nodes that are sound is sound. -/
def IsSafe (change : Option Node → Option Node) : Prop :=
  ∀ node? node, (∀ held ∈ node?, Node.KeysOnce held) → change node? = some node → node.KeysOnce

theorem KeysOnce.nil : KeysOnce [] :=
  ⟨List.nodup_nil, by simp⟩

theorem keysOnce_cons_iff {node : Node} :
    KeysOnce ((key, node) :: draft) ↔
      key ∉ draft.map Prod.fst ∧ node.KeysOnce ∧ draft.KeysOnce := by
  constructor
  · rintro ⟨once, inside⟩
    obtain ⟨fresh, restOnce⟩ := List.nodup_cons.mp once
    obtain ⟨first, rest⟩ := List.forall_mem_cons.mp inside
    exact ⟨fresh, first, restOnce, rest⟩
  · rintro ⟨fresh, first, restOnce, rest⟩
    exact ⟨List.nodup_cons.mpr ⟨fresh, restOnce⟩, List.forall_mem_cons.mpr ⟨first, rest⟩⟩

/-- The only key that can be new is the one that is changed. -/
theorem mem_keys_of_update {change : Option Node → Option Node}
    (updated : draft.update key change = some after) {other : String}
    (member : other ∈ after.map Prod.fst) : other = key ∨ other ∈ draft.map Prod.fst := by
  induction draft generalizing after with
  | nil =>
    obtain ⟨node, -, rfl⟩ := Option.map_eq_some_iff.mp updated
    exact .inl (by simpa using member)
  | cons entry rest ih =>
    obtain ⟨first, held⟩ := entry
    rw [update] at updated
    split at updated
    · obtain ⟨node, -, rfl⟩ := Option.map_eq_some_iff.mp updated
      exact .inr (by simpa using member)
    · obtain ⟨later, changed, rfl⟩ := Option.map_eq_some_iff.mp updated
      rcases List.mem_cons.mp member with rfl | inLater
      · exact .inr (by simp)
      · exact (ih changed inLater).imp_right (by simp +contextual)

theorem KeysOnce.update (keys : draft.KeysOnce) {change : Option Node → Option Node}
    (safe : IsSafe change) (updated : draft.update key change = some after) :
    after.KeysOnce := by
  induction draft generalizing after with
  | nil =>
    obtain ⟨node, made, rfl⟩ := Option.map_eq_some_iff.mp updated
    exact keysOnce_cons_iff.mpr ⟨by simp, safe none node (by simp) made, .nil⟩
  | cons entry rest ih =>
    obtain ⟨first, held⟩ := entry
    obtain ⟨fresh, heldKeys, restKeys⟩ := keysOnce_cons_iff.mp keys
    rw [Draft.update] at updated
    split at updated
    · obtain ⟨node, made, rfl⟩ := Option.map_eq_some_iff.mp updated
      exact keysOnce_cons_iff.mpr ⟨fresh, safe _ node (by simpa using heldKeys) made, restKeys⟩
    · rename_i differ
      obtain ⟨later, changed, rfl⟩ := Option.map_eq_some_iff.mp updated
      refine keysOnce_cons_iff.mpr ⟨fun member => ?_, heldKeys, ih restKeys changed⟩
      exact (mem_keys_of_update changed member).elim differ fresh

/-- Whatever keeps the keys of a table keeps them along a path to it. -/
theorem KeysOnce.within {dotted : Bool} {change : Origin → Draft → Option Draft}
    (keeps : ∀ origin table changed, KeysOnce table → change origin table = some changed →
      KeysOnce changed)
    (path : List String) (origin : Origin) (keys : draft.KeysOnce)
    (changed : draft.within dotted change path origin = some after) : after.KeysOnce := by
  induction path generalizing origin draft after with
  | nil => exact keeps origin draft after keys changed
  | cons first path ih =>
    -- The table that is made or entered behind the first key keeps its keys by induction.
    refine keys.update ?_ changed
    intro node? node held made
    cases node? with
    | none =>
      obtain ⟨entries, opened, rfl⟩ := Option.map_eq_some_iff.mp (show Option.map _ _ = _ from made)
      have inner := ih _ .nil opened
      exact .table inner.once inner.inside
    | some old =>
      cases held old rfl with
      | leaf once => cases made
      | @table origin entries once inside =>
        dsimp only at made
        split at made
        · cases made
        · obtain ⟨grown, opened, rfl⟩ := Option.map_eq_some_iff.mp made
          have inner := ih _ ⟨once, inside⟩ opened
          exact .table inner.once inner.inside
      | @tables last earlier once inside earlierOnce earlierInside =>
        obtain ⟨grown, opened, rfl⟩ := Option.map_eq_some_iff.mp made
        have inner := ih _ ⟨once, inside⟩ opened
        exact .tables inner.once inner.inside earlierOnce earlierInside

theorem KeysOnce.addValue (keys : draft.KeysOnce) (path : List String) {value : Value}
    (valueKeys : value.KeysOnce) (added : draft.addValue path key value = some after) :
    after.KeysOnce := by
  refine keys.within ?_ path .header added
  intro origin table changed tableKeys made
  split at made
  · cases made
  · refine tableKeys.update ?_ made
    intro node? node _ placed
    cases node? with
    | none =>
      cases placed
      exact .leaf valueKeys
    | some held => cases placed

theorem KeysOnce.addTable (keys : draft.KeysOnce) (path : List String)
    (added : draft.addTable path key = some after) : after.KeysOnce := by
  refine keys.within ?_ path .header added
  intro origin table changed tableKeys made
  refine tableKeys.update ?_ made
  intro node? node held placed
  cases node? with
  | none =>
    cases placed
    exact .table List.nodup_nil (by simp)
  | some old =>
    cases held old rfl with
    | leaf once => cases placed
    | @table origin entries once inside =>
      cases origin with
      | implied =>
        cases placed
        exact .table once inside
      | dotted => cases placed
      | header => cases placed
    | tables once inside earlierOnce earlierInside => cases placed

theorem KeysOnce.addElement (keys : draft.KeysOnce) (path : List String)
    (added : draft.addElement path key = some after) : after.KeysOnce := by
  refine keys.within ?_ path .header added
  intro origin table changed tableKeys made
  refine tableKeys.update ?_ made
  intro node? node held placed
  cases node? with
  | none =>
    cases placed
    exact .tables List.nodup_nil (by simp) (by simp) (by simp)
  | some old =>
    cases held old rfl with
    | leaf once => cases placed
    | table once inside => cases placed
    | tables once inside earlierOnce earlierInside =>
      cases placed
      exact .tables List.nodup_nil (by simp) (List.forall_mem_cons.mpr ⟨once, earlierOnce⟩)
        (List.forall_mem_cons.mpr ⟨inside, earlierInside⟩)

end Draft

/-! ## Readers -/

theorem keysOnce_of_fractional? {text : List Char} {value : Value}
    (read : fractional? text = some value) : value.KeysOnce := by
  unfold fractional? at read
  dsimp only at read
  split at read
  · cases read
    exact .float _
  split at read
  · cases read
    exact .float _
  split at read
  · cases read
  split at read
  · obtain rfl := Option.some.inj read
    rename_i whole fraction exponent _ _ _
    cases Binary64.ofDecimal (splitSign text).1 (digitsValue 10 (whole ++ fraction))
        (exponent - fraction.length) with
    | none => exact .hugeFloat
    | some number => exact .float number
  · cases read

theorem keysOnce_of_scalar? {text : List Char} {value : Value} (read : scalar? text = some value) :
    value.KeysOnce := by
  unfold scalar? at read
  split at read
  · cases read
    exact .boolean true
  split at read
  · cases read
    exact .boolean false
  split at read
  · cases read
    exact .dateTime
  split at read
  · cases read
    exact .integer _
  · exact keysOnce_of_fractional? read

def Frame.KeysOnce : Frame → Prop
  | .key _ _ => True
  | .array items => ∀ item ∈ items, item.KeysOnce
  | .inlineTable entries => entries.KeysOnce

namespace Reader

structure KeysOnce (reader : Reader) : Prop where
  root : reader.root.KeysOnce
  frames : ∀ frame ∈ reader.frames, frame.KeysOnce

variable {reader next : Reader}

theorem KeysOnce.start : Reader.start.KeysOnce :=
  ⟨.nil, by simp [Reader.start]⟩

theorem KeysOnce.expecting (keys : reader.KeysOnce) (expectation : Expectation) :
    (reader.expecting expectation).KeysOnce :=
  ⟨keys.root, keys.frames⟩

theorem KeysOnce.openContainer (keys : reader.KeysOnce) {frame : Frame} (frameKeys : frame.KeysOnce)
    {expectation : Expectation} (opened : reader.openContainer frame expectation = some next) :
    next.KeysOnce := by
  unfold Reader.openContainer at opened
  split at opened
  · cases opened
    exact ⟨keys.root, List.forall_mem_cons.mpr ⟨frameKeys, keys.frames⟩⟩
  · cases opened

theorem KeysOnce.takeKeyPart (keys : reader.KeysOnce) {role : KeyRole} {parts : List String}
    {token : Token} (taken : reader.takeKeyPart role parts token = some next) : next.KeysOnce := by
  unfold Reader.takeKeyPart at taken
  split at taken
  · obtain ⟨part, -, rfl⟩ := Option.map_eq_some_iff.mp taken
    exact keys.expecting _
  · cases taken

theorem KeysOnce.finishValue (keys : reader.KeysOnce) {value : Value} (valueKeys : value.KeysOnce)
    (finished : reader.finishValue value = some next) : next.KeysOnce := by
  have frames := keys.frames
  unfold Reader.finishValue at finished
  split at finished
  · rename_i path key entries outer shape
    rw [shape, List.forall_mem_cons, List.forall_mem_cons] at frames
    obtain ⟨grown, added, rfl⟩ := Option.map_eq_some_iff.mp finished
    exact ⟨keys.root, List.forall_mem_cons.mpr
      ⟨Draft.KeysOnce.addValue frames.2.1 path valueKeys added, frames.2.2⟩⟩
  · rename_i path key outer _ shape
    rw [shape, List.forall_mem_cons] at frames
    obtain ⟨root, added, rfl⟩ := Option.map_eq_some_iff.mp finished
    exact ⟨keys.root.within (fun _ _ _ tableKeys made => tableKeys.addValue path valueKeys made)
      _ _ added, frames.2⟩
  · rename_i items outer shape
    rw [shape, List.forall_mem_cons] at frames
    cases finished
    exact ⟨keys.root, List.forall_mem_cons.mpr
      ⟨List.forall_mem_cons.mpr ⟨valueKeys, frames.1⟩, frames.2⟩⟩
  · cases finished

theorem keysOnce_of_enter {path : List String} {key : String}
    {root? : Option Draft} (rootKeys : ∀ root ∈ root?, root.KeysOnce)
    (entered : reader.enter path key root? = some next) : next.KeysOnce := by
  obtain ⟨root, made, rfl⟩ := Option.map_eq_some_iff.mp entered
  exact ⟨rootKeys root made, by simp⟩

theorem KeysOnce.closeArray (keys : reader.KeysOnce) (closed : reader.closeArray = some next) :
    next.KeysOnce := by
  have frames := keys.frames
  unfold Reader.closeArray at closed
  split at closed
  · rename_i items outer shape
    rw [shape, List.forall_mem_cons] at frames
    have left : KeysOnce { reader with frames := outer } := ⟨keys.root, frames.2⟩
    have itemKeys : ∀ item ∈ items.reverse, item.KeysOnce := by
      simpa [Frame.KeysOnce] using frames.1
    exact left.finishValue (.array itemKeys) closed
  · cases closed

theorem KeysOnce.closeInlineTable (keys : reader.KeysOnce)
    (closed : reader.closeInlineTable = some next) : next.KeysOnce := by
  have frames := keys.frames
  unfold Reader.closeInlineTable at closed
  split at closed
  · rename_i entries outer shape
    rw [shape, List.forall_mem_cons] at frames
    have left : KeysOnce { reader with frames := outer } := ⟨keys.root, frames.2⟩
    exact left.finishValue (Draft.KeysOnce.close frames.1) closed
  · cases closed

theorem KeysOnce.assign (keys : reader.KeysOnce) (last : String) (parts : List String) :
    (reader.assign last parts).KeysOnce :=
  ⟨keys.root, List.forall_mem_cons.mpr ⟨trivial, keys.frames⟩⟩

variable {token : Token}

theorem KeysOnce.takeLine (keys : reader.KeysOnce) (taken : reader.takeLine token = some next) :
    next.KeysOnce := by
  unfold Reader.takeLine at taken
  split at taken
  · cases taken
    exact keys
  · cases taken
    exact keys
  · cases taken
    exact keys
  · cases taken
    exact keys.expecting _
  · exact keys.takeKeyPart taken

theorem KeysOnce.takeKeyEnd (keys : reader.KeysOnce) {role : KeyRole} {last : String}
    {parts : List String} (taken : reader.takeKeyEnd role last parts token = some next) :
    next.KeysOnce := by
  unfold Reader.takeKeyEnd at taken
  split at taken
  · cases taken
    exact keys
  · cases taken
    exact keys.expecting _
  · split at taken
    · cases taken
      exact keys.expecting _
    · cases taken
  · split at taken
    · cases taken
      exact keys.expecting _
    · cases taken
  · split at taken
    · cases taken
      exact keys.assign last parts
    · cases taken
  · split at taken
    · cases taken
    · exact keysOnce_of_enter (fun root added => keys.root.addTable _ added) taken
    · cases taken
      exact keys.expecting _
  · cases taken

theorem KeysOnce.takeEquals (keys : reader.KeysOnce) {last : String} {parts : List String}
    (taken : reader.takeEquals last parts token = some next) : next.KeysOnce := by
  cases token with
  | blank _ | newline | comment =>
    cases taken
    exact keys
  | equals =>
    cases taken
    exact keys.assign last parts
  | _ => cases taken

theorem KeysOnce.takeValue (keys : reader.KeysOnce) (taken : reader.takeValue token = some next) :
    next.KeysOnce := by
  cases token with
  | blank _ =>
    cases taken
    exact keys
  | newline | comment =>
    simp only [Reader.takeValue] at taken
    split at taken
    · cases taken
      exact keys
    · cases taken
  | closeBracket => exact keys.closeArray taken
  | openBracket => exact keys.openContainer (by simp [Frame.KeysOnce]) taken
  | openBrace =>
    have empty : (Frame.inlineTable []).KeysOnce := Draft.KeysOnce.nil
    exact keys.openContainer empty taken
  | quoted multiline content => exact keys.finishValue (.string _) taken
  | atom _ | dot =>
    cases taken
    exact keys.expecting _
  | equals | comma | closeBrace => cases taken

theorem KeysOnce.takeEntry (keys : reader.KeysOnce) (taken : reader.takeEntry token = some next) :
    next.KeysOnce := by
  unfold Reader.takeEntry at taken
  split at taken
  · cases taken
    exact keys
  · cases taken
    exact keys
  · cases taken
    exact keys
  · exact keys.closeInlineTable taken
  · exact keys.takeKeyPart taken

theorem KeysOnce.takeSeparator (keys : reader.KeysOnce)
    (taken : reader.takeSeparator token = some next) : next.KeysOnce := by
  cases token with
  | blank _ | comment =>
    cases taken
    exact keys
  | newline =>
    obtain rfl := Option.some.inj taken
    split
    · exact keys.expecting _
    · exact keys
  | comma =>
    simp only [Reader.takeSeparator] at taken
    split at taken
    · cases taken
      exact keys.expecting _
    · cases taken
      exact keys.expecting _
    · cases taken
  | closeBracket => exact keys.closeArray taken
  | closeBrace => exact keys.closeInlineTable taken
  | _ => cases taken

theorem KeysOnce.takeScalar (keys : reader.KeysOnce) {reversed : List Char}
    (taken : reader.takeScalar reversed token = some next) : next.KeysOnce := by
  unfold Reader.takeScalar at taken
  split at taken
  · cases taken
    exact keys.expecting _
  · cases taken
    exact keys.expecting _
  · cases taken
    exact keys.expecting _
  · obtain ⟨value, read, rest⟩ := Option.bind_eq_some_iff.mp taken
    obtain ⟨between, finished, separated⟩ := Option.bind_eq_some_iff.mp rest
    exact (keys.finishValue (keysOnce_of_scalar? read) finished).takeSeparator separated

theorem KeysOnce.passOrTakeKeyPart (keys : reader.KeysOnce) {passes : Bool} {other : Reader}
    (otherKeys : other.KeysOnce) {role : KeyRole} {parts : List String}
    (taken : (if passes then some other else reader.takeKeyPart role parts token) = some next) :
    next.KeysOnce := by
  split at taken
  · cases taken
    exact otherKeys
  · exact keys.takeKeyPart taken

/-- Taking a token keeps the keys. -/
theorem KeysOnce.take (keys : reader.KeysOnce) (taken : reader.take token = some next) :
    next.KeysOnce := by
  unfold Reader.take at taken
  split at taken
  · exact keys.takeLine taken
  · split at taken
    · cases taken
      exact keys.expecting _
    · exact keys.passOrTakeKeyPart (keys.expecting _) taken
  · exact keys.passOrTakeKeyPart keys taken
  · exact keys.takeKeyEnd taken
  · exact keys.takeEquals taken
  · split at taken
    · exact keysOnce_of_enter (fun root added => keys.root.addElement _ added) taken
    · cases taken
  · exact keys.takeValue taken
  · exact keys.takeScalar taken
  · exact keys.takeEntry taken
  · exact keys.takeSeparator taken

/-- Taking tokens keeps the keys. -/
theorem KeysOnce.takeAll (keys : reader.KeysOnce) {found : List Token}
    (taken : found.foldlM Reader.take reader = some next) : next.KeysOnce := by
  induction found generalizing reader with
  | nil =>
    cases taken
    exact keys
  | cons token rest ih =>
    obtain ⟨between, first, later⟩ := Option.bind_eq_some_iff.mp taken
    exact ih (keys.take first) later

theorem KeysOnce.finish (keys : reader.KeysOnce) {table : Table}
    (finished : reader.finish = some table) : (Value.table table).KeysOnce := by
  unfold Reader.finish at finished
  split at finished
  · cases finished
    exact keys.root.close
  · cases finished

end Reader

/-- All tables of a document have each key once. -/
theorem keysOnce_of_document? {text : List Char} {table : Table}
    (decoded : document? text = some table) : (Value.table table).KeysOnce := by
  obtain ⟨found, -, read⟩ := Option.bind_eq_some_iff.mp decoded
  obtain ⟨final, taken, finished⟩ := Option.bind_eq_some_iff.mp read
  exact (Reader.KeysOnce.start.takeAll taken).finish finished

end StagedFormat.Toml

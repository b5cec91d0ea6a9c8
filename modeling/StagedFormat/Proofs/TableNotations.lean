import Mathlib.Data.String.Basic
import StagedFormat.Config.Load
import StagedFormat.Proofs.TableKeys

/-!
# One table in several notations

A table can be written under a header of its own, with dotted keys, or as an inline table, and its
entries in any order.  Whatever values it holds, the document is the same.  The drafts differ,
because who may add to a table depends on its notation; their values do not.
-/

set_option autoImplicit false

namespace StagedFormat.Toml

/-! ## The order of entries -/

theorem insertEntry_comm {key other : String} (differ : key ≠ other) (value held : Value)
    (table : Table) :
    insertEntry key value (insertEntry other held table) =
      insertEntry other held (insertEntry key value table) := by
  induction table with
  | nil =>
    rcases lt_or_gt_of_ne differ with less | greater
    · simp [insertEntry, less, less.not_gt]
    · simp [insertEntry, greater, greater.not_gt]
  | cons entry rest ih =>
    obtain ⟨first, kept⟩ := entry
    by_cases keyFirst : key < first <;> by_cases otherFirst : other < first
    · rcases lt_or_gt_of_ne differ with less | greater
      · simp [insertEntry, keyFirst, otherFirst, less, less.not_gt]
      · simp [insertEntry, keyFirst, otherFirst, greater, greater.not_gt]
    · have less : key < other := lt_of_lt_of_le keyFirst (not_lt.mp otherFirst)
      simp [insertEntry, keyFirst, otherFirst, less.not_gt]
    · have less : other < key := lt_of_lt_of_le otherFirst (not_lt.mp keyFirst)
      simp [insertEntry, keyFirst, otherFirst, less.not_gt]
    · simp [insertEntry, keyFirst, otherFirst, ih]

def sorted (contents : List (String × Value)) : Table :=
  contents.foldr (fun entry table => insertEntry entry.1 entry.2 table) []

/-- The order in which entries were written does not matter. -/
theorem sorted_eq_of_perm {contents other : List (String × Value)} (same : contents.Perm other)
    (once : Distinct contents) : sorted contents = sorted other := by
  induction same with
  | nil => rfl
  | cons entry _ ih =>
    have rest := ih (List.nodup_cons.mp once).2
    exact congrArg (insertEntry entry.1 entry.2) rest
  | swap first second rest =>
    have differ : second.1 ≠ first.1 := by
      intro equal
      exact (List.nodup_cons.mp once).1 (by simp [equal])
    exact insertEntry_comm differ _ _ _
  | trans first _ ih laterIh =>
    exact (ih once).trans (laterIh ((first.map Prod.fst).nodup_iff.mp once))

/-- What a draft holds, in the order in which it was written. -/
def Draft.contents (draft : Draft) : List (String × Value) :=
  draft.map fun entry => (entry.1, entry.2.close)

theorem closeEntries_eq_sorted (draft : Draft) : closeEntries draft = sorted draft.contents := by
  induction draft with
  | nil => rfl
  | cons entry rest ih =>
    obtain ⟨key, node⟩ := entry
    rw [closeEntries, ih]
    rfl

theorem Draft.keys_contents (draft : Draft) :
    draft.contents.map Prod.fst = draft.map Prod.fst := by
  rw [contents, List.map_map]
  rfl

theorem Distinct.append_singleton {contents : List (String × Value)} {entry : String × Value}
    (once : Distinct contents) (fresh : entry.1 ∉ contents.map Prod.fst) :
    Distinct (contents ++ [entry]) := by
  rw [Distinct, List.map_append, List.map_singleton, ← List.concat_eq_append]
  exact List.Nodup.concat fresh once

theorem Distinct.before {draft rest : Draft} {key : String} {node : Node}
    (once : Distinct (draft ++ (key, node) :: rest)) :
    key ∉ draft.map Prod.fst ∧ Distinct draft := by
  rw [Distinct, List.map_append, List.map_cons, List.nodup_middle, List.nodup_cons] at once
  exact ⟨fun member => once.1 (List.mem_append_left _ member), List.Nodup.of_append_left once.2⟩

namespace Draft

variable {draft : Draft} {key : String}

theorem update_of_fresh (fresh : key ∉ draft.map Prod.fst)
    (change : Option Node → Option Node) :
    draft.update key change = (change none).map fun node => draft ++ [(key, node)] := by
  induction draft with
  | nil => rfl
  | cons entry rest ih =>
    obtain ⟨first, held⟩ := entry
    obtain ⟨differ, later⟩ := not_or.mp (List.mem_cons.not.mp fresh)
    rw [update, if_neg (Ne.symm differ), ih later]
    simp [Option.map_map, Function.comp_def]

theorem update_append_singleton (fresh : key ∉ draft.map Prod.fst) (node : Node)
    (change : Option Node → Option Node) :
    update key change (draft ++ [(key, node)]) =
      (change (some node)).map fun node => draft ++ [(key, node)] := by
  induction draft with
  | nil => simp [update]
  | cons entry rest ih =>
    obtain ⟨first, held⟩ := entry
    obtain ⟨differ, later⟩ := not_or.mp (List.mem_cons.not.mp fresh)
    rw [List.cons_append, update, if_neg (Ne.symm differ), ih later]
    simp [Option.map_map, Function.comp_def]

theorem addValue_of_fresh (fresh : key ∉ draft.map Prod.fst) (value : Value) :
    draft.addValue [] key value = some (draft ++ [(key, .leaf value)]) := by
  rw [addValue, within, if_neg (by simp), update_of_fresh fresh]
  rfl

end Draft

/-! ## Entries -/

theorem takeAll_append {reader next : Reader} {found : List Token}
    (taken : found.foldlM Reader.take reader = some next) (rest : List Token) :
    (found ++ rest).foldlM Reader.take reader = rest.foldlM Reader.take next := by
  rw [List.foldlM_append, taken]
  rfl

def openContainers (reader : Reader) : Nat :=
  (reader.frames.filter Frame.isContainer).length

inductive EndsValue : Token → Prop
  | newline : EndsValue .newline
  | comma : EndsValue .comma
  | closeBracket : EndsValue .closeBracket
  | closeBrace : EndsValue .closeBrace

/-- Tokens that spell a value wherever so many containers may still be opened: a reader that has
taken them and what ends a value has finished with this value. -/
def Spells (room : Nat) (found : List Token) (value : Value) : Prop :=
  ∀ (reader : Reader) (stop : Token), reader.expectation = .value →
    openContainers reader + room ≤ nestingLimit → EndsValue stop →
      (found ++ [stop]).foldlM Reader.take reader =
        (reader.finishValue value).bind (·.takeSeparator stop)

theorem finishValue_expecting (reader : Reader) (expectation : Expectation) (value : Value) :
    (reader.expecting expectation).finishValue value = reader.finishValue value := rfl

theorem take_of_finishValue {reader next : Reader} {value : Value}
    (finished : reader.finishValue value = some next) (stop : Token) :
    next.take stop = next.takeSeparator stop := by
  have separator : next.expectation = .separator := by
    unfold Reader.finishValue at finished
    split at finished
    · obtain ⟨_, -, rfl⟩ := Option.map_eq_some_iff.mp finished
      rfl
    · obtain ⟨_, -, rfl⟩ := Option.map_eq_some_iff.mp finished
      rfl
    · cases finished
      rfl
    · cases finished
  simp only [Reader.take, separator]

/-- It is enough that the tokens of a value finish it. -/
theorem Spells.of_finishes {room : Nat} {found : List Token} {value : Value}
    (finishes : ∀ reader, reader.expectation = .value →
      openContainers reader + room ≤ nestingLimit →
        found.foldlM Reader.take reader = reader.finishValue value) : Spells room found value := by
  intro reader stop due mayOpen ends
  rw [List.foldlM_append, finishes reader due mayOpen]
  cases finished : reader.finishValue value with
  | none => rfl
  | some next =>
    have taken := take_of_finishValue finished stop
    simp [taken]

theorem spells_quoted (multiline : Bool) (content : List Char) :
    Spells 0 [.quoted multiline content] (.string (String.ofList content)) := by
  refine .of_finishes fun reader due mayOpen => ?_
  simp [Reader.take, due, Reader.takeValue]

/-- A text outside quotes is a value only when its end is known. -/
theorem spells_atom {text : List Char} {value : Value}
    (read : scalar? (text.reverse.dropWhile isSpace).reverse = some value) :
    Spells 0 [.atom text] value := by
  intro reader stop due mayOpen ends
  have begun : reader.take (.atom text) = some (reader.expecting (.scalar text.reverse)) := by
    simp [Reader.take, due, Reader.takeValue]
  have taken : (reader.expecting (.scalar text.reverse)).take stop =
      (reader.finishValue value).bind (·.takeSeparator stop) := by
    rw [← finishValue_expecting reader (.scalar text.reverse)]
    cases ends <;>
      simp only [Reader.take, Reader.expecting, Reader.takeScalar, read, Option.bind_some]
  simp [begun, taken]

theorem Spells.blank {room : Nat} {found : List Token} {value : Value}
    (spells : Spells room found value) (text : List Char) :
    Spells room (.blank text :: found) value := by
  intro reader stop due mayOpen ends
  have passes : reader.take (.blank text) = some reader := by
    simp [Reader.take, due, Reader.takeValue]
  rw [List.cons_append, List.foldlM_cons, passes]
  exact spells reader stop due mayOpen ends

/-- Parts with commas between them. -/
def separated : List (List Token) → List Token
  | [] => []
  | [last] => last
  | part :: next :: rest => part ++ [.comma] ++ separated (next :: rest)

/-- In an array, the items that were read wait in its frame, the last one first. -/
def inArray (reader : Reader) (done : List Value) : Reader :=
  { reader with frames := .array done :: reader.frames, expectation := .value }

theorem takeAll_inArray {reader : Reader} {room : Nat} {parts : List (List Token × Value)}
    (mayOpen : openContainers reader + 1 + room ≤ nestingLimit)
    (each : ∀ part ∈ parts, Spells room part.1 part.2) (done : List Value) :
    (separated (parts.map Prod.fst) ++ [Token.closeBracket]).foldlM Reader.take
        (inArray reader done) =
      reader.finishValue (.array (done.reverse ++ parts.map Prod.snd)) := by
  induction parts generalizing done with
  | nil =>
    simp [separated, inArray, Reader.take, Reader.takeValue, Reader.closeArray, Reader.finishValue]
  | cons part rest ih =>
    obtain ⟨first, later⟩ := List.forall_mem_cons.mp each
    have finished : (inArray reader done).finishValue part.2 =
        some ((inArray reader (part.2 :: done)).expecting .separator) := rfl
    cases rest with
    | nil =>
      rw [List.map_singleton, separated,
        first (inArray reader done) _ rfl mayOpen .closeBracket, finished]
      simp [inArray, Reader.expecting, Reader.takeSeparator, Reader.closeArray, Reader.finishValue]
    | cons next rest =>
      have taken : (part.1 ++ [Token.comma]).foldlM Reader.take (inArray reader done) =
          some (inArray reader (part.2 :: done)) := by
        rw [first (inArray reader done) _ rfl mayOpen .comma, finished]
        rfl
      rw [List.map_cons, List.map_cons, separated, List.append_assoc, takeAll_append taken]
      simpa using ih later (part.2 :: done)

theorem Spells.array {room : Nat} {parts : List (List Token × Value)}
    (each : ∀ part ∈ parts, Spells room part.1 part.2) :
    Spells (room + 1) (.openBracket :: (separated (parts.map Prod.fst) ++ [.closeBracket]))
      (.array (parts.map Prod.snd)) := by
  refine .of_finishes fun reader due mayOpen => ?_
  have opened : reader.take .openBracket = some (inArray reader []) := by
    have free : openContainers reader < nestingLimit := by omega
    simp only [Reader.take, due, Reader.takeValue, Reader.openContainer]
    exact if_pos free
  rw [List.foldlM_cons, opened]
  exact takeAll_inArray (by omega) each []

/-- One entry of a table as it is written: blanks, its key, blanks again, and behind the equals
sign its value. -/
structure Entry where
  indent : List (List Char)
  part : Token
  key : String
  gap : List (List Char)
  found : List Token
  value : Value
  room : Nat
  names : part.keyPart? = some key
  spells : Spells room found value
  mayOpen : room < nestingLimit

namespace Entry

def behindKey (entry : Entry) : List Token :=
  entry.gap.map Token.blank ++ .equals :: entry.found

def tokens (entry : Entry) : List Token :=
  entry.indent.map Token.blank ++ entry.part :: entry.behindKey

def dottedTokens (name : Token) (entry : Entry) : List Token :=
  entry.indent.map Token.blank ++ name :: .dot :: entry.part :: entry.behindKey

end Entry

theorem takeAll_blanks {reader : Reader}
    (passes : ∀ text, reader.take (.blank text) = some reader) (blanks : List (List Char))
    (rest : List Token) :
    (blanks.map Token.blank ++ rest).foldlM Reader.take reader =
      rest.foldlM Reader.take reader := by
  induction blanks with
  | nil => rfl
  | cons text blanks ih =>
    rw [List.map_cons, List.cons_append, List.foldlM_cons, passes]
    exact ih

theorem take_keyPart (reader : Reader) {token : Token} {key : String} (role : KeyRole)
    (parts : List String) (few : parts.length < keyLimit) (named : token.keyPart? = some key) :
    reader.takeKeyPart role parts token = some (reader.expecting (.keyEnd role key parts)) := by
  rw [Reader.takeKeyPart, if_pos few, named]
  rfl

/-- Where an entry can begin, a part of a key begins it. -/
theorem take_first {reader : Reader} {token : Token} {key : String}
    (begins : reader.expectation = .line ∨ reader.expectation = .entry)
    (named : token.keyPart? = some key) :
    reader.take token = some (reader.expecting (.keyEnd .entry key [])) := by
  have taken := take_keyPart reader .entry [] (by decide) named
  cases token <;> simp only [Token.keyPart?, reduceCtorEq] at named <;>
    rcases begins with line | entry <;>
    simp only [Reader.take, Reader.takeLine, Reader.takeEntry, *]

theorem take_further (reader : Reader) {token : Token} {key : String} {role : KeyRole}
    {parts : List String} (due : reader.expectation = .keyPart role parts)
    (few : parts.length < keyLimit) (named : token.keyPart? = some key) :
    reader.take token = some (reader.expecting (.keyEnd role key parts)) := by
  have taken := take_keyPart reader role parts few named
  cases token <;> simp only [Token.keyPart?, reduceCtorEq] at named <;>
    simpa [Reader.take, due] using taken

theorem take_blank {reader : Reader}
    (begins : reader.expectation = .line ∨ reader.expectation = .entry) (text : List Char) :
    reader.take (.blank text) = some reader := by
  rcases begins with line | entry <;> simp [Reader.take, Reader.takeLine, Reader.takeEntry, *]

namespace Entry

variable (entry : Entry) (reader : Reader) {stop : Token}

theorem takeAll_behindKey (last : String) (parts : List String)
    (shallow : openContainers reader ≤ 1) (ends : EndsValue stop) :
    (entry.behindKey ++ [stop]).foldlM Reader.take (reader.expecting (.keyEnd .entry last parts)) =
      ((reader.assign last parts).finishValue entry.value).bind (·.takeSeparator stop) := by
  rw [behindKey, List.append_assoc, takeAll_blanks (fun text => rfl), List.cons_append,
    List.foldlM_cons]
  have mayOpen : openContainers (reader.assign last parts) + entry.room ≤ nestingLimit := by
    have same : openContainers (reader.assign last parts) = openContainers reader := rfl
    have within := entry.mayOpen
    omega
  exact entry.spells (reader.assign last parts) stop rfl mayOpen ends

theorem takeAll_tokens (begins : reader.expectation = .line ∨ reader.expectation = .entry)
    (shallow : openContainers reader ≤ 1) (ends : EndsValue stop) :
    (entry.tokens ++ [stop]).foldlM Reader.take reader =
      ((reader.assign entry.key []).finishValue entry.value).bind (·.takeSeparator stop) := by
  rw [tokens, List.append_assoc, takeAll_blanks (take_blank begins), List.cons_append,
    List.foldlM_cons, take_first begins entry.names]
  exact entry.takeAll_behindKey reader entry.key [] shallow ends

theorem takeAll_dottedTokens {name : Token} {table : String} (named : name.keyPart? = some table)
    (begins : reader.expectation = .line)
    (shallow : openContainers reader ≤ 1) (ends : EndsValue stop) :
    (entry.dottedTokens name ++ [stop]).foldlM Reader.take reader =
      ((reader.assign entry.key [table]).finishValue entry.value).bind (·.takeSeparator stop) := by
  have dot : (reader.expecting (.keyEnd .entry table [])).take .dot =
      some (reader.expecting (.keyPart .entry [table])) := rfl
  have second : (reader.expecting (.keyPart .entry [table])).take entry.part =
      some (reader.expecting (.keyEnd .entry entry.key [table])) :=
    take_further _ rfl (Nat.lt_of_sub_eq_succ rfl) entry.names
  rw [dottedTokens, List.append_assoc, takeAll_blanks (take_blank (.inl begins)), List.cons_append,
    List.foldlM_cons, take_first (.inl begins) named]
  simp only [Option.bind_eq_bind, Option.bind_some, List.cons_append, List.foldlM_cons, dot, second]
  exact entry.takeAll_behindKey reader entry.key [table] shallow ends

end Entry

def draftOf (entries : List Entry) : Draft :=
  entries.map fun entry => (entry.key, .leaf entry.value)

theorem draftOf_cons (entry : Entry) (entries : List Entry) :
    draftOf (entry :: entries) = (entry.key, .leaf entry.value) :: draftOf entries := rfl

theorem takeAll_flatMap {line : Entry → List Token} {place : Draft → Reader}
    (step : ∀ draft entry, entry.key ∉ draft.map Prod.fst →
      (line entry).foldlM Reader.take (place draft) =
        some (place (draft ++ [(entry.key, .leaf entry.value)])))
    (entries : List Entry) (draft : Draft) (once : Distinct (draft ++ draftOf entries)) :
    (entries.flatMap line).foldlM Reader.take (place draft) =
      some (place (draft ++ draftOf entries)) := by
  induction entries generalizing draft with
  | nil => simp [draftOf]
  | cons entry entries ih =>
    have fresh : entry.key ∉ draft.map Prod.fst := once.before.1
    rw [draftOf_cons, List.append_cons] at once
    rw [List.flatMap_cons, takeAll_append (step draft entry fresh), ih _ once, draftOf_cons,
      List.append_assoc, List.singleton_append]

/-! ## Three ways to fill a table -/

section Filling

variable {root draft : Draft} {key : String}

theorem within_append_singleton {dotted : Bool} {change : Origin → Draft → Option Draft}
    (fresh : key ∉ root.map Prod.fst) (origin outer : Origin)
    (mayEnter : ¬ (dotted ∧ origin = .header)) :
    Draft.within dotted change [key] outer (root ++ [(key, .table origin draft)]) =
      (change origin draft).map fun draft => root ++ [(key, .table origin draft)] := by
  rw [Draft.within, Draft.update_append_singleton fresh]
  simp only [if_neg mayEnter, Draft.within, Option.map_map, Function.comp_def]

def underHeader (root : Draft) (key : String) (draft : Draft) : Reader :=
  ⟨root ++ [(key, .table .header draft)], [key], [], .line⟩

def withDottedKeys (root : Draft) (key : String) : Draft → Reader
  | [] => ⟨root, [], [], .line⟩
  | draft => ⟨root ++ [(key, .table .dotted draft)], [], [], .line⟩

def inBraces (root : Draft) (key : String) (draft : Draft) : Reader :=
  ⟨root, [], [.inlineTable draft, .key [] key], .entry⟩

theorem takeAll_underHeader (fresh : key ∉ root.map Prod.fst) (entry : Entry)
    (new : entry.key ∉ draft.map Prod.fst) :
    (entry.tokens ++ [Token.newline]).foldlM Reader.take (underHeader root key draft) =
      some (underHeader root key (draft ++ [(entry.key, .leaf entry.value)])) := by
  rw [entry.takeAll_tokens (underHeader root key draft) (.inl rfl) (Nat.zero_le 1) .newline]
  simp [Reader.finishValue, underHeader, Reader.assign, within_append_singleton fresh,
    Draft.addValue_of_fresh new, Reader.takeSeparator, Reader.expecting]

theorem takeAll_withDottedKeys {name : Token} (named : name.keyPart? = some key)
    (fresh : key ∉ root.map Prod.fst) (entry : Entry) (new : entry.key ∉ draft.map Prod.fst) :
    (entry.dottedTokens name ++ [Token.newline]).foldlM Reader.take
        (withDottedKeys root key draft) =
      some (withDottedKeys root key (draft ++ [(entry.key, .leaf entry.value)])) := by
  cases draft with
  | nil =>
    rw [entry.takeAll_dottedTokens (withDottedKeys root key []) named rfl (Nat.zero_le 1) .newline]
    simp [Reader.finishValue, withDottedKeys, Reader.assign, Draft.within, Draft.addValue,
      Draft.update_of_fresh fresh, Draft.update, Reader.takeSeparator, Reader.expecting]
  | cons first draft =>
    rw [entry.takeAll_dottedTokens (withDottedKeys root key (first :: draft)) named rfl
      (Nat.zero_le 1) .newline]
    simp [Reader.finishValue, withDottedKeys, Reader.assign, Draft.within, Draft.addValue,
      Draft.update_append_singleton fresh, Draft.update_of_fresh new, Reader.takeSeparator,
      Reader.expecting]

theorem takeAll_inBraces (entry : Entry) (new : entry.key ∉ draft.map Prod.fst) :
    (entry.tokens ++ [Token.comma]).foldlM Reader.take (inBraces root key draft) =
      some (inBraces root key (draft ++ [(entry.key, .leaf entry.value)])) := by
  rw [entry.takeAll_tokens (inBraces root key draft) (.inr rfl) (Nat.le_refl 1) .comma]
  simp [Reader.finishValue, inBraces, Reader.assign, Draft.addValue_of_fresh new,
    Reader.takeSeparator, Reader.expecting]

theorem takeAll_atTop (entry : Entry) (new : entry.key ∉ root.map Prod.fst) :
    (entry.tokens ++ [Token.newline]).foldlM Reader.take ⟨root, [], [], .line⟩ =
      some ⟨root ++ [(entry.key, .leaf entry.value)], [], [], .line⟩ := by
  rw [entry.takeAll_tokens ⟨root, [], [], .line⟩ (.inl rfl) (Nat.zero_le 1) .newline]
  simp [Reader.finishValue, Reader.assign, Draft.within, Draft.addValue_of_fresh new,
    Reader.takeSeparator, Reader.expecting]

/-- The end of a table behind its last comma. -/
theorem takeAll_closeBrace (fresh : key ∉ root.map Prod.fst) :
    [Token.closeBrace].foldlM Reader.take (inBraces root key draft) =
      some ⟨root ++ [(key, .leaf (.table (closeEntries draft)))], [], [], .separator⟩ := by
  simp [inBraces, Reader.take, Reader.takeEntry, Reader.closeInlineTable, Reader.finishValue,
    Draft.within, Draft.addValue_of_fresh fresh, Draft.close]

theorem takeAll_header {name : Token} {current : List String} (named : name.keyPart? = some key)
    (fresh : key ∉ root.map Prod.fst) :
    [Token.openBracket, name, .closeBracket, .newline].foldlM Reader.take
        ⟨root, current, [], .line⟩ = some (underHeader root key []) := by
  have added : root.addTable [] key = some (root ++ [(key, .table .header [])]) := by
    rw [Draft.addTable, Draft.within, Draft.update_of_fresh fresh]
    rfl
  have second : (⟨root, current, [], .header⟩ : Reader).take name =
      some ⟨root, current, [], .keyEnd .header key []⟩ := by
    have taken := take_keyPart ⟨root, current, [], .header⟩ .header [] (by decide) named
    cases name <;> simp only [Token.keyPart?, reduceCtorEq] at named <;>
      simpa [Reader.take, Reader.expecting] using taken
  have third : (⟨root, current, [], .keyEnd .header key []⟩ : Reader).take .closeBracket =
      some ⟨root ++ [(key, .table .header [])], [key], [], .separator⟩ := by
    simp [Reader.take, Reader.takeKeyEnd, Reader.enter, added]
  have first : (⟨root, current, [], .line⟩ : Reader).take .openBracket =
      some ⟨root, current, [], .header⟩ := rfl
  simp only [List.foldlM_cons, first, second, third, Option.bind_eq_bind, Option.bind_some]
  rfl

/-- The last entries between braces, and the end of their table. -/
theorem takeAll_items (fresh : key ∉ root.map Prod.fst) (entries : List Entry)
    (once : Distinct (draft ++ draftOf entries)) :
    (separated (entries.map Entry.tokens) ++ [Token.closeBrace]).foldlM Reader.take
        (inBraces root key draft) =
      some ⟨root ++ [(key, .leaf (.table (closeEntries (draft ++ draftOf entries))))], [], [],
        .separator⟩ := by
  induction entries generalizing draft with
  | nil => simpa [draftOf, separated] using takeAll_closeBrace fresh
  | cons entry rest ih =>
    have new : entry.key ∉ draft.map Prod.fst := once.before.1
    cases rest with
    | nil =>
      rw [List.map_singleton, separated, entry.takeAll_tokens (inBraces root key draft) (.inr rfl)
        (Nat.le_refl 1) .closeBrace]
      simp [Reader.finishValue, inBraces, Reader.assign, Draft.close, Draft.within, draftOf,
        Reader.closeInlineTable, Draft.addValue_of_fresh new, Reader.takeSeparator,
        Draft.addValue_of_fresh fresh]
    | cons next rest =>
      have moved : draft ++ draftOf (entry :: next :: rest) =
          draft ++ [(entry.key, .leaf entry.value)] ++ draftOf (next :: rest) := by
        rw [draftOf_cons, List.append_cons]
      rw [moved] at once
      rw [List.map_cons, List.map_cons, separated, List.append_assoc,
        takeAll_append (takeAll_inBraces entry new), moved]
      exact ih once

end Filling

/-! ## Documents -/

def Entry.content (entry : Entry) : String × Value :=
  (entry.key, entry.value)

def tableOf (entries : List Entry) : Table :=
  sorted (entries.map Entry.content)

theorem closeEntries_draftOf (entries : List Entry) :
    closeEntries (draftOf entries) = tableOf entries := by
  rw [closeEntries_eq_sorted, Draft.contents, draftOf, List.map_map]
  rfl

/-- How a table is written: below its header, with dotted keys, or between braces, there with or
without a comma behind the last entry. -/
inductive TableForm
  | header
  | dotted
  | inline
  | inlineWithComma
  deriving DecidableEq

namespace TableForm

def tokens (name : Token) (entries : List Entry) : TableForm → List Token
  | header => [.openBracket, name, .closeBracket, .newline] ++
      entries.flatMap fun entry => entry.tokens ++ [.newline]
  | dotted => entries.flatMap fun entry => entry.dottedTokens name ++ [.newline]
  | inline => [name, .equals, .openBrace] ++
      (separated (entries.map Entry.tokens) ++ [.closeBrace]) ++ [.newline]
  | inlineWithComma => [name, .equals, .openBrace] ++
      (entries.flatMap fun entry => entry.tokens ++ [.comma]) ++ [.closeBrace] ++ [.newline]

/-- The table that the lines below belong to. -/
def current (key : String) : TableForm → List String
  | header => [key]
  | _ => []

/-- Whatever its form, a table comes behind what is there, and has the value of its entries. -/
theorem exists_node (form : TableForm) {above : List String} {root : Draft} {name : Token}
    {key : String} {entries : List Entry} (place : above = [] ∨ form = header)
    (filled : form = dotted → entries ≠ []) (named : name.keyPart? = some key)
    (fresh : key ∉ root.map Prod.fst) (once : Distinct (draftOf entries)) :
    ∃ node, (form.tokens name entries).foldlM Reader.take ⟨root, above, [], .line⟩ =
        some ⟨root ++ [(key, node)], form.current key, [], .line⟩ ∧
      node.close = .table (tableOf entries) := by
  have brace : [name, .equals, .openBrace].foldlM Reader.take ⟨root, [], [], .line⟩ =
      some (inBraces root key []) := by
    rw [List.foldlM_cons, take_first (.inl rfl) named]
    rfl
  cases form with
  | header =>
    refine ⟨.table .header (draftOf entries), ?_, congrArg _ (closeEntries_draftOf entries)⟩
    rw [tokens, takeAll_append (takeAll_header named fresh)]
    exact takeAll_flatMap (fun draft entry => takeAll_underHeader fresh entry) entries [] once
  | dotted =>
    obtain rfl : above = [] := by simpa using place
    obtain ⟨first, rest, rfl⟩ := List.exists_cons_of_ne_nil (filled rfl)
    exact ⟨.table .dotted (draftOf (first :: rest)),
      takeAll_flatMap (fun draft entry => takeAll_withDottedKeys named fresh entry) _ [] once,
      congrArg _ (closeEntries_draftOf (first :: rest))⟩
  | inline =>
    obtain rfl : above = [] := by simpa using place
    refine ⟨.leaf (.table (closeEntries (draftOf entries))), ?_,
      congrArg _ (closeEntries_draftOf entries)⟩
    rw [tokens, List.append_assoc, takeAll_append brace,
      takeAll_append (takeAll_items fresh entries once)]
    rfl
  | inlineWithComma =>
    obtain rfl : above = [] := by simpa using place
    refine ⟨.leaf (.table (closeEntries (draftOf entries))), ?_,
      congrArg _ (closeEntries_draftOf entries)⟩
    rw [tokens, List.append_assoc, List.append_assoc, takeAll_append brace,
      takeAll_append (takeAll_flatMap (fun draft entry => takeAll_inBraces entry) entries [] once),
      takeAll_append (takeAll_closeBrace fresh)]
    rfl

end TableForm

/-- The tokens of a document, the table that its last line belongs to, and what was written, in
its order: entries, and tables in any form.  Below a header, only headers lead out of its table. -/
inductive Writes : List Token → List String → List (String × Value) → Prop
  | nil : Writes [] [] []
  | blankLine {found : List Token} {current : List String} {contents : List (String × Value)}
      (before : Writes found current contents) : Writes (found ++ [.newline]) current contents
  | entry {found : List Token} {contents : List (String × Value)}
      (before : Writes found [] contents) (entry : Entry)
      (fresh : entry.key ∉ contents.map Prod.fst) :
      Writes (found ++ (entry.tokens ++ [.newline])) [] (contents ++ [entry.content])
  | table {found : List Token} {current : List String} {contents : List (String × Value)}
      {name : Token} {key : String} {entries : List Entry} (before : Writes found current contents)
      (form : TableForm) (place : current = [] ∨ form = .header)
      (filled : form = .dotted → entries ≠ []) (named : name.keyPart? = some key)
      (fresh : key ∉ contents.map Prod.fst) (once : (entries.map Entry.key).Nodup) :
      Writes (found ++ form.tokens name entries) (form.current key)
        (contents ++ [(key, .table (tableOf entries))])

theorem exists_root_of_writes {found : List Token} {current : List String}
    {contents : List (String × Value)} (writes : Writes found current contents) :
    ∃ root, found.foldlM Reader.take Reader.start = some ⟨root, current, [], .line⟩ ∧
      root.contents = contents ∧ Distinct contents := by
  induction writes with
  | nil => exact ⟨[], rfl, rfl, List.nodup_nil⟩
  | blankLine before ih =>
    obtain ⟨root, taken, same, once⟩ := ih
    exact ⟨root, by rw [takeAll_append taken]; rfl, same, once⟩
  | entry before entry fresh ih =>
    obtain ⟨root, taken, rfl, once⟩ := ih
    refine ⟨_, by rw [takeAll_append taken, takeAll_atTop entry (root.keys_contents ▸ fresh)], ?_,
      once.append_singleton fresh⟩
    simp [Draft.contents, Entry.content, Node.close]
  | table before form place filled named fresh once ih =>
    obtain ⟨root, taken, rfl, onceBefore⟩ := ih
    obtain ⟨node, takenTable, value⟩ := form.exists_node place filled named
      (root.keys_contents ▸ fresh) (by simpa [Distinct, draftOf, Function.comp_def] using once)
    refine ⟨_, by rw [takeAll_append taken, takenTable], ?_, onceBefore.append_singleton fresh⟩
    simp [Draft.contents, value]

/-- A document is the table of what was written. -/
theorem document?_of_writes {text : List Char} {found : List Token} {current : List String}
    {contents : List (String × Value)} (spelled : tokens (withoutMark text) = some found)
    (writes : Writes found current contents) : document? text = some (sorted contents) := by
  obtain ⟨root, taken, rfl, -⟩ := exists_root_of_writes writes
  rw [document?, spelled, Option.bind_some, takeAll_append taken, ← closeEntries_eq_sorted]
  rfl

/-- Documents with the same entries and tables are the same, in whatever forms the tables and in
whatever order the entries and tables are written. -/
theorem document?_eq_of_perm {text other : List Char} {found foundOther : List Token}
    {current currentOther : List String} {contents reordered : List (String × Value)}
    (spelled : tokens (withoutMark text) = some found) (writes : Writes found current contents)
    (spelledOther : tokens (withoutMark other) = some foundOther)
    (writesOther : Writes foundOther currentOther reordered) (same : contents.Perm reordered) :
    document? text = document? other := by
  obtain ⟨-, -, -, once⟩ := exists_root_of_writes writes
  rw [document?_of_writes spelled writes, document?_of_writes spelledOther writesOther,
    sorted_eq_of_perm same once]

/-- The entries of a table may be written in any order, too. -/
theorem tableOf_eq_of_perm {entries reordered : List Entry} (same : entries.Perm reordered)
    (once : (entries.map Entry.key).Nodup) : tableOf entries = tableOf reordered :=
  sorted_eq_of_perm (same.map _) (by simpa [Distinct, Entry.content, Function.comp_def] using once)

end StagedFormat.Toml

namespace StagedFormat.Config

open Toml

/-- A configuration depends neither on the forms of its tables nor on the order in which it is
written. -/
theorem parse_eq_of_perm {text other : List Char} {found foundOther : List Token}
    {current currentOther : List String} {contents reordered : List (String × Value)}
    (spelled : tokens (withoutMark text) = some found) (writes : Writes found current contents)
    (spelledOther : tokens (withoutMark other) = some foundOther)
    (writesOther : Writes foundOther currentOther reordered) (same : contents.Perm reordered)
    (rejection : List Char → String) : parse rejection text = parse rejection other := by
  have decoded := document?_of_writes spelled writes
  rw [parse, parse, ← document?_eq_of_perm spelled writes spelledOther writesOther same, decoded]

example (rejection : List Char → String) :
    parse rejection "[wrapper]\nunix = 'w'\n".toList =
      parse rejection "wrapper.unix = 'w'\n".toList := by
  let unix : Toml.Entry :=
    ⟨[], .atom "unix".toList, "unix", [[' ']], _, _, 0, by decide,
      (spells_quoted false ['w']).blank [' '], by decide⟩
  have written (form : TableForm) :
      Writes ([] ++ form.tokens (.atom "wrapper".toList) [unix]) (form.current "wrapper")
        ([] ++ [("wrapper", .table (tableOf [unix]))]) :=
    .table .nil form (.inl rfl) (by simp) (by decide) (by simp) (List.nodup_singleton _)
  exact parse_eq_of_perm (by decide +kernel) (written .header) (by decide +kernel)
    (written .dotted) (.refl _) rejection

end StagedFormat.Config

import StagedFormat.Glob.Compile
import StagedFormat.Glob.Match

/-!
# The language of a glob

`Spells` says which tokens a glob is written with, and `AcceptsAll` which texts they accept.  A glob
compiles exactly if it spells some tokens, and it accepts the texts that these accept: the
remainders that the matcher keeps are those that the tokens so far can leave.
-/

set_option autoImplicit false

namespace StagedFormat.Glob

/-! ## What a token leaves -/

/-- What can be left of a text once a token has accepted something at its front. -/
def Token.Leaves (token : Token) (text rest : List Char) : Prop :=
  (∃ piece, token.Accepts piece ∧ text = piece ++ rest) ∨ token = .anyDirectories ∧ rest = []

namespace Token

theorem acceptsAll_cons_iff (token : Token) (tokens : List Token) (text : List Char) :
    AcceptsAll (token :: tokens) text ↔
      ∃ rest, token.Leaves text rest ∧ AcceptsAll tokens rest := by
  constructor
  · intro accepted
    cases accepted with
    | cons _ _ piece rest first others => exact ⟨rest, .inl ⟨piece, first, rfl⟩, others⟩
    | toEnd _ _ others => exact ⟨[], .inr ⟨rfl, rfl⟩, others⟩
  · rintro ⟨rest, ⟨piece, first, rfl⟩ | ⟨rfl, rfl⟩, others⟩
    · exact .cons token tokens piece rest first others
    · exact .toEnd tokens text others

/-- Whether a token accepts a single character, one out of those it stands for. -/
def IsSingle (token : Token) : Prop :=
  token ≠ .anySequence ∧ token ≠ .anyDirectories

theorem leaves_iff_of_isSingle {token : Token} (single : token.IsSingle) (text rest : List Char) :
    token.Leaves text rest ↔ ∃ c, token.acceptsChar c = true ∧ text = c :: rest := by
  constructor
  · rintro (⟨piece, accepted, rfl⟩ | ⟨directories, -⟩)
    · cases accepted with
      | one _ c fits => exact ⟨c, fits, rfl⟩
      | sequence => exact absurd rfl single.1
      | noDirectory => exact absurd rfl single.2
      | directories => exact absurd rfl single.2
    · exact absurd directories single.2
  · rintro ⟨c, fits, rfl⟩
    exact .inl ⟨[c], .one token c fits, rfl⟩

theorem leaves_anySequence_iff (text rest : List Char) :
    anySequence.Leaves text rest ↔ rest <:+ text := by
  constructor
  · rintro (⟨piece, -, rfl⟩ | ⟨wrong, -⟩)
    · exact List.suffix_append piece rest
    · cases wrong
  · rintro ⟨piece, rfl⟩
    exact .inl ⟨piece, .sequence piece, rfl⟩

theorem leaves_anyDirectories_iff (text rest : List Char) :
    anyDirectories.Leaves text rest ↔
      rest = [] ∨ rest = text ∨ ∃ piece, text = piece ++ '/' :: rest := by
  constructor
  · rintro (⟨piece, accepted, rfl⟩ | ⟨-, rfl⟩)
    · cases accepted with
      | one _ c fits => cases fits
      | noDirectory => exact .inr (.inl rfl)
      | directories piece => exact .inr (.inr ⟨piece, by simp⟩)
    · exact .inl rfl
  · rintro (rfl | rfl | ⟨piece, rfl⟩)
    · exact .inr ⟨rfl, rfl⟩
    · exact .inl ⟨[], .noDirectory, rfl⟩
    · exact .inl ⟨piece ++ ['/'], .directories piece, by simp⟩

end Token

/-! ## Remainders -/

namespace Remainder

/-- Remainders as the matcher keeps them: ends of one text, the longest first. -/
def Ordered (remainders : List Remainder) : Prop :=
  remainders.Pairwise fun longer shorter =>
    shorter.text <:+ longer.text ∧ shorter.text.length < longer.text.length

theorem mem_ends_iff (text : List Char) (length : Nat) (same : text.length = length)
    (rest : List Char) : (∃ r ∈ ends text length same, r.text = rest) ↔ rest <:+ text := by
  induction text generalizing length with
  | nil => simp [ends, eq_comm]
  | cons c others ih =>
    simp only [ends, List.mem_cons, exists_eq_or_imp, ih, List.suffix_cons_iff]
    exact or_congr_left eq_comm

theorem ordered_ends (text : List Char) (length : Nat) (same : text.length = length) :
    Ordered (ends text length same) := by
  induction text generalizing length with
  | nil => exact List.pairwise_singleton _ _
  | cons c others ih =>
    refine List.pairwise_cons.mpr ⟨?_, ih (length - 1) (by simp [← same])⟩
    intro shorter member
    have later : shorter.text <:+ others := (mem_ends_iff _ _ _ _).mp ⟨shorter, member, rfl⟩
    exact ⟨later.trans (List.suffix_cons c others), Nat.lt_succ_of_le later.length_le⟩

theorem directoryEnds_sublist_ends (kept : Bool) (others : List Remainder) (text : List Char)
    (length : Nat) (same : text.length = length) :
    (directoryEnds kept others text length same).Sublist (ends text length same) := by
  induction text generalizing kept others length with
  | nil => exact List.Sublist.refl _
  | cons c rest ih =>
    rw [directoryEnds, ends]
    split
    · exact (ih _ _ _ _).cons_cons _
    · exact (ih _ _ _ _).cons _

/-- A text is among remainders no longer than it exactly if it is the first of them, and those that
are shorter are ends of what follows its first character. -/
theorem cases_of_ordered {c : Char} {rest : List Char} {others : List Remainder}
    (ordered : Ordered others) (within : ∀ other ∈ others, other.text <:+ c :: rest) (found : Bool)
    (isFound : (others.head?.any fun other => other.length == (c :: rest).length) = found) :
    let shorter := if found then others.tail else others
    (Ordered shorter ∧ ∀ other ∈ shorter, other.text <:+ rest) ∧
      ∀ text, (∃ other ∈ others, other.text = text) ↔
        (found = true ∧ text = c :: rest) ∨ ∃ other ∈ shorter, other.text = text := by
  cases others with
  | nil =>
    subst isFound
    simp [Ordered]
  | cons first others =>
    obtain ⟨below, tailOrdered⟩ := List.pairwise_cons.mp ordered
    have firstWithin := within first List.mem_cons_self
    have shorterThanFirst : first.text.length ≤ rest.length → first.text <:+ rest := fun short =>
      (List.suffix_cons_iff.mp firstWithin).resolve_left fun whole => by
        rw [whole, List.length_cons] at short
        omega
    simp only [List.head?_cons, Option.any_some, ← first.length_eq] at isFound
    cases found with
    | true =>
      have whole : first.text = c :: rest := firstWithin.eq_of_length (by simpa using isFound)
      refine ⟨⟨tailOrdered, ?_⟩, ?_⟩
      · intro other member
        obtain ⟨inside, short⟩ := below other member
        rw [whole] at inside short
        exact (List.suffix_cons_iff.mp inside).resolve_left fun same => by
          rw [same] at short
          exact absurd short (Nat.lt_irrefl _)
      · intro text
        simp [whole, eq_comm]
    | false =>
      have differs : first.text.length ≠ (c :: rest).length := by simpa using isFound
      have short : first.text.length ≤ rest.length := by
        have bound := firstWithin.length_le
        rw [List.length_cons] at differs bound
        omega
      refine ⟨⟨ordered, ?_⟩, by simp⟩
      intro other member
      rcases List.mem_cons.mp member with rfl | later
      · exact shorterThanFirst short
      · exact (below other later).1.trans (shorterThanFirst short)

theorem mem_directoryEnds_iff (kept : Bool) (others : List Remainder) (text : List Char)
    (length : Nat) (same : text.length = length) (ordered : Ordered others)
    (within : ∀ other ∈ others, other.text <:+ text) (rest : List Char) :
    (∃ r ∈ directoryEnds kept others text length same, r.text = rest) ↔
      rest = [] ∨ (kept = true ∧ rest = text) ∨ (∃ other ∈ others, other.text = rest) ∨
        ∃ piece, text = piece ++ '/' :: rest := by
  induction text generalizing kept others length with
  | nil =>
    have empty : (∃ other ∈ others, other.text = rest) → rest = [] := by
      rintro ⟨other, member, rfl⟩
      exact List.suffix_nil.mp (within other member)
    simp only [directoryEnds, List.mem_singleton, exists_eq_left, eq_comm (a := [])]
    grind
  | cons c tail ih =>
    obtain ⟨⟨laterOrdered, laterWithin⟩, members⟩ := cases_of_ordered ordered within _ rfl
    have later := ih (c == '/') _ (length - 1) (by simp [← same]) laterOrdered laterWithin
    have slash : (∃ piece, c :: tail = piece ++ '/' :: rest) ↔
        (c == '/') = true ∧ rest = tail ∨ ∃ piece, tail = piece ++ '/' :: rest := by
      simp only [List.cons_eq_append_iff, List.cons.injEq, beq_iff_eq]
      grind
    rw [members, slash, directoryEnds]
    subst same
    split
    · rename_i kept
      simp only [List.mem_cons, exists_eq_or_imp, later]
      grind
    · rename_i dropped
      rw [later]
      grind

end Remainder

open Remainder (Ordered)

theorem Remainder.dropOne?_eq_some {token : Token} {r next : Remainder}
    (dropped : Remainder.dropOne? token r = some next) :
    ∃ c, token.acceptsChar c = true ∧ r.text = c :: next.text := by
  obtain ⟨text, length, same⟩ := r
  cases text with
  | nil => cases dropped
  | cons c rest =>
    rw [Remainder.dropOne?] at dropped
    split at dropped
    · rename_i fits
      cases dropped
      exact ⟨c, fits, rfl⟩
    · cases dropped

theorem Remainder.exists_dropOne? {token : Token} {r : Remainder} {c : Char} {rest : List Char}
    (fits : token.acceptsChar c = true) (text : r.text = c :: rest) :
    ∃ next, Remainder.dropOne? token r = some next ∧ next.text = rest := by
  obtain ⟨_, length, same⟩ := r
  subst text
  exact ⟨⟨rest, length - 1, by simp [← same]⟩, by simp [Remainder.dropOne?, fits], rfl⟩

namespace Token

theorem leftovers_of_isSingle {token : Token} (single : token.IsSingle)
    (remainders : List Remainder) :
    token.leftovers remainders = remainders.filterMap (Remainder.dropOne? token) := by
  cases remainders with
  | nil => cases token <;> rfl
  | cons first others =>
    cases token with
    | anySequence => exact absurd rfl single.1
    | anyDirectories => exact absurd rfl single.2
    | _ => rfl

/-- The matcher keeps its remainders in order, and they are what can be left of those before. -/
theorem leftovers_spec (token : Token) {remainders : List Remainder}
    (ordered : Ordered remainders) :
    Ordered (token.leftovers remainders) ∧
      ∀ rest, (∃ r ∈ token.leftovers remainders, r.text = rest) ↔
        ∃ r ∈ remainders, token.Leaves r.text rest := by
  by_cases single : token.IsSingle
  · rw [leftovers_of_isSingle single]
    refine ⟨List.Pairwise.filterMap _ ?_ ordered, fun rest => ?_⟩
    · intro longer shorter ⟨inside, short⟩ left leftFrom right rightFrom
      obtain ⟨c, -, text⟩ := Remainder.dropOne?_eq_some leftFrom
      obtain ⟨d, -, other⟩ := Remainder.dropOne?_eq_some rightFrom
      rw [text, other] at short inside
      refine ⟨?_, by simpa using short⟩
      have within : d :: right.text <:+ left.text :=
        (List.suffix_cons_iff.mp inside).resolve_left fun same => by simp [same] at short
      exact (List.suffix_cons d right.text).trans within
    · constructor
      · rintro ⟨next, member, rfl⟩
        obtain ⟨r, found, dropped⟩ := List.mem_filterMap.mp member
        exact ⟨r, found, (leaves_iff_of_isSingle single _ _).mpr
          (Remainder.dropOne?_eq_some dropped)⟩
      · rintro ⟨r, found, leaves⟩
        obtain ⟨c, fits, text⟩ := (leaves_iff_of_isSingle single _ _).mp leaves
        obtain ⟨next, dropped, left⟩ := Remainder.exists_dropOne? fits text
        exact ⟨next, List.mem_filterMap.mpr ⟨r, found, dropped⟩, left⟩
  · cases remainders with
    | nil => cases token <;> simp [leftovers, Ordered]
    | cons longest shorter =>
      obtain ⟨below, shorterOrdered⟩ := List.pairwise_cons.mp ordered
      have within : ∀ r ∈ shorter, r.text <:+ longest.text := fun r member => (below r member).1
      cases token with
      | anySequence =>
        refine ⟨Remainder.ordered_ends _ _ _, fun rest => ?_⟩
        rw [leftovers, Remainder.mem_ends_iff]
        simp only [leaves_anySequence_iff, List.mem_cons, exists_eq_or_imp, iff_self_or]
        rintro ⟨r, member, suffix⟩
        exact suffix.trans (within r member)
      | anyDirectories =>
        refine ⟨(Remainder.ordered_ends _ _ _).sublist
          (Remainder.directoryEnds_sublist_ends _ _ _ _ longest.length_eq), fun rest => ?_⟩
        rw [leftovers, Remainder.mem_directoryEnds_iff _ _ _ _ _ shorterOrdered within]
        simp only [leaves_anyDirectories_iff, List.mem_cons, exists_eq_or_imp]
        -- A directory at the front of a shorter remainder is a directory of the longest one.
        have longer : ∀ r ∈ shorter, (∃ piece, r.text = piece ++ '/' :: rest) →
            ∃ piece, longest.text = piece ++ '/' :: rest := by
          rintro r member ⟨piece, text⟩
          obtain ⟨front, whole⟩ := within r member
          exact ⟨front ++ piece, by rw [← whole, text, List.append_assoc]⟩
        grind
      | _ => exact absurd ⟨by simp, by simp⟩ single

end Token

theorem exists_empty_foldl_iff (tokens : List Token) (remainders : List Remainder)
    (ordered : Ordered remainders) :
    (∃ r ∈ tokens.foldl (fun remainders token => token.leftovers remainders) remainders,
        r.text = []) ↔
      ∃ r ∈ remainders, AcceptsAll tokens r.text := by
  induction tokens generalizing remainders with
  | nil =>
    have done : ∀ text, AcceptsAll [] text ↔ text = [] := fun text =>
      ⟨fun accepted => by cases accepted; rfl, fun empty => by rw [empty]; exact .nil⟩
    simp only [List.foldl_nil, done]
  | cons token tokens ih =>
    obtain ⟨laterOrdered, members⟩ := token.leftovers_spec ordered
    rw [List.foldl_cons, ih _ laterOrdered]
    simp only [Token.acceptsAll_cons_iff]
    constructor
    · rintro ⟨next, member, accepted⟩
      obtain ⟨r, found, leaves⟩ := (members next.text).mp ⟨next, member, rfl⟩
      exact ⟨r, found, next.text, leaves, accepted⟩
    · rintro ⟨r, found, rest, leaves, accepted⟩
      obtain ⟨next, member, rfl⟩ := (members rest).mpr ⟨r, found, leaves⟩
      exact ⟨next, member, accepted⟩

/-- The matcher finds out whether tokens accept a text. -/
theorem tokensMatch_iff (tokens : List Token) (text : List Char) :
    tokensMatch tokens text = true ↔ AcceptsAll tokens text := by
  have matched := exists_empty_foldl_iff tokens [.whole text] (List.pairwise_singleton _ _)
  simpa [tokensMatch, Remainder.whole] using matched

/-! ## How a glob is written -/

/-- Whether a directory can begin behind a character, or at the front of a glob. -/
def BeginsDirectory (before : Option Char) : Prop :=
  before = none ∨ before = some '/'

/-- A text spells tokens, where it follows a character or stands at the front of a glob. -/
inductive Spells : (before : Option Char) → List Char → List Token → Prop
  | nil (before : Option Char) : Spells before [] []
  | anyChar (before : Option Char) (rest : List Char) (tokens : List Token)
      (later : Spells (some '?') rest tokens) :
      Spells before ('?' :: rest) (.anyChar :: tokens)
  | anySequence (before : Option Char) (rest : List Char) (tokens : List Token)
      (single : rest.head? ≠ some '*') (later : Spells (some '*') rest tokens) :
      Spells before ('*' :: rest) (.anySequence :: tokens)
  | anythingBelow (before : Option Char) (begins : BeginsDirectory before) :
      Spells before ['*', '*'] [.anyDirectories]
  | anyDirectories (before : Option Char) (begins : BeginsDirectory before) (rest : List Char)
      (tokens : List Token) (later : Spells (some '/') rest tokens) :
      Spells before ('*' :: '*' :: '/' :: rest) (.anyDirectories :: tokens)
  | anyWithin (before : Option Char) (first : Char) (inside rest : List Char)
      (tokens : List Token) (plain : first ≠ '!') (unclosed : ']' ∉ inside)
      (later : Spells (some ']') rest tokens) :
      Spells before ('[' :: first :: inside ++ ']' :: rest)
        (.anyWithin (specifiers (first :: inside)) :: tokens)
  | anyExcept (before : Option Char) (first : Char) (inside rest : List Char)
      (tokens : List Token) (unclosed : ']' ∉ inside) (later : Spells (some ']') rest tokens) :
      Spells before ('[' :: '!' :: first :: inside ++ ']' :: rest)
        (.anyExcept (specifiers (first :: inside)) :: tokens)
  | char (before : Option Char) (c : Char) (rest : List Char) (tokens : List Token)
      (plain : c ∉ ['?', '*', '[']) (later : Spells (some c) rest tokens) :
      Spells before (c :: rest) (.char c :: tokens)

theorem splitAtBracket_eq_some_iff (text inside outside : List Char) :
    splitAtBracket text = some (inside, outside) ↔
      text = inside ++ ']' :: outside ∧ ']' ∉ inside := by
  induction text generalizing inside with
  | nil => simp [splitAtBracket]
  | cons c rest ih =>
    rw [splitAtBracket]
    split
    · rename_i closes
      subst closes
      cases inside with
      | nil => simp [eq_comm]
      | cons d inside => simp; grind
    · rename_i other
      cases inside with
      | nil => simp; grind
      | cons d inside =>
        simp only [Option.map_eq_some_iff, Prod.exists]
        grind

/-! ## What a compiled glob accepts -/

def SameLanguage (tokens others : List Token) : Prop :=
  ∀ text, AcceptsAll tokens text ↔ AcceptsAll others text

theorem SameLanguage.append_left {tokens others : List Token} (front : List Token)
    (same : SameLanguage tokens others) : SameLanguage (front ++ tokens) (front ++ others) := by
  induction front with
  | nil => exact same
  | cons token front ih =>
    intro text
    simp only [List.cons_append, Token.acceptsAll_cons_iff, ih _]

/-- Directories that follow directories are directories. -/
theorem sameLanguage_anyDirectories_twice (tokens : List Token) :
    SameLanguage (.anyDirectories :: .anyDirectories :: tokens) (.anyDirectories :: tokens) := by
  have twice : ∀ text rest, (∃ middle, Token.anyDirectories.Leaves text middle ∧
      Token.anyDirectories.Leaves middle rest) ↔ Token.anyDirectories.Leaves text rest := by
    intro text rest
    simp only [Token.leaves_anyDirectories_iff]
    constructor
    · rintro ⟨middle, rfl | rfl | ⟨piece, rfl⟩, rfl | rfl | ⟨other, same⟩⟩
      · exact .inl rfl
      · exact .inl rfl
      · simp at same
      · exact .inl rfl
      · exact .inr (.inl rfl)
      · exact .inr (.inr ⟨other, same⟩)
      · exact .inl rfl
      · exact .inr (.inr ⟨piece, rfl⟩)
      · exact .inr (.inr ⟨piece ++ '/' :: other, by simp [same]⟩)
    · intro leaves
      exact ⟨text, .inr (.inl rfl), leaves⟩
  intro text
  simp only [Token.acceptsAll_cons_iff]
  constructor
  · rintro ⟨middle, first, rest, second, others⟩
    exact ⟨rest, (twice text rest).mp ⟨middle, first, second⟩, others⟩
  · rintro ⟨rest, leaves, others⟩
    obtain ⟨middle, first, second⟩ := (twice text rest).mpr leaves
    exact ⟨middle, first, rest, second, others⟩

theorem sameLanguage_addDirectories (reversed tokens : List Token) :
    SameLanguage ((addDirectories reversed).reverse ++ tokens)
      (reversed.reverse ++ .anyDirectories :: tokens) := by
  unfold addDirectories
  split
  · rename_i before others
    have same := (sameLanguage_anyDirectories_twice tokens).append_left (before :: others).reverse
    intro text
    simpa using (same text).symm
  · intro text
    simp

/-! ## Compiling and spelling -/

theorem exists_spells_of_compileFrom (position : Nat) (before : Option Char)
    (reversed : List Token) (text : List Char) {tokens : List Token}
    (compiled : compileFrom position before reversed text = .ok tokens) :
    ∃ read, Spells before text read := by
  fun_induction compileFrom position before reversed text with
  | case1 position before reversed => exact ⟨[], .nil before⟩
  | case2 position before reversed rest ih =>
    obtain ⟨read, spells⟩ := ih compiled
    exact ⟨_, .anyChar before rest read spells⟩
  | case4 position before reversed begins plain => exact ⟨_, .anythingBelow before begins⟩
  | case5 position before reversed begins rest plain ih =>
    obtain ⟨read, spells⟩ := ih compiled
    exact ⟨_, .anyDirectories before begins rest read spells⟩
  | case8 position before reversed rest notTwo notOne ih =>
    obtain ⟨read, spells⟩ := ih compiled
    have single : rest.head? ≠ some '*' := by
      intro star
      obtain ⟨others, text⟩ := List.head?_eq_some_iff.mp star
      exact notOne others text
    exact ⟨_, .anySequence before rest read single spells⟩
  | case10 position before reversed first rest inside outside found shorter ih =>
    obtain ⟨rfl, unclosed⟩ := (splitAtBracket_eq_some_iff _ _ _).mp found
    obtain ⟨read, spells⟩ := ih compiled
    exact ⟨_, .anyExcept before first inside outside read unclosed spells⟩
  | case13 position before reversed first rest notExcept plain inside outside found shorter ih =>
    obtain ⟨rfl, unclosed⟩ := (splitAtBracket_eq_some_iff _ _ _).mp found
    obtain ⟨read, spells⟩ := ih compiled
    exact ⟨_, .anyWithin before first inside outside read plain unclosed spells⟩
  | case15 position before reversed c rest notAny _ _ notStar _ notOpen notLast ih =>
    obtain ⟨read, spells⟩ := ih compiled
    have plain : c ∉ ['?', '*', '['] := by
      cases rest <;> simp_all
    exact ⟨_, .char before c rest read plain spells⟩
  | _ => cases compiled

/-- A text that spells tokens compiles, wherever it stands, to tokens with the same language. -/
theorem exists_compileFrom_of_spells {before : Option Char} {text : List Char}
    {read : List Token} (spells : Spells before text read) (position : Nat)
    (reversed : List Token) :
    ∃ tokens, compileFrom position before reversed text = .ok tokens ∧
      SameLanguage tokens (reversed.reverse ++ read) := by
  induction spells generalizing position reversed with
  | nil before =>
    refine ⟨reversed.reverse, by rw [compileFrom], fun text => ?_⟩
    rw [List.append_nil]
  | anyChar before rest tokens later ih =>
    rw [compileFrom]
    simpa using ih (position + 1) (.anyChar :: reversed)
  | anySequence before rest tokens single later ih =>
    rw [compileFrom]
    · simpa using ih (position + 1) (.anySequence :: reversed)
    · rintro others rfl
      exact single rfl
    · rintro others rfl
      exact single rfl
  | anythingBelow before begins =>
    refine ⟨(addDirectories reversed).reverse, ?_, ?_⟩
    · unfold BeginsDirectory at begins
      rw [compileFrom, if_pos begins]
    · simpa using sameLanguage_addDirectories reversed []
  | anyDirectories before begins rest tokens later ih =>
    obtain ⟨found, compiled, same⟩ := ih (position + 3) (addDirectories reversed)
    refine ⟨found, ?_, fun text => ?_⟩
    · unfold BeginsDirectory at begins
      rw [compileFrom, if_pos begins]
      exact compiled
    · exact (same text).trans (sameLanguage_addDirectories reversed tokens text)
  | anyWithin before first inside rest tokens plain unclosed later ih =>
    have cut := (splitAtBracket_eq_some_iff _ inside rest).mpr ⟨rfl, unclosed⟩
    rw [List.cons_append, List.cons_append, compileFrom, if_neg plain]
    · split
      · rename_i none
        cases cut.symm.trans none
      · rename_i found
        cases cut.symm.trans found
        simpa using ih (position + inside.length + 3)
          (.anyWithin (specifiers (first :: inside)) :: reversed)
    · intro _ _ except
      exact absurd except plain
  | anyExcept before first inside rest tokens unclosed later ih =>
    have cut := (splitAtBracket_eq_some_iff _ inside rest).mpr ⟨rfl, unclosed⟩
    rw [List.cons_append, List.cons_append, List.cons_append, compileFrom]
    split
    · rename_i none
      cases cut.symm.trans none
    · rename_i found
      cases cut.symm.trans found
      simpa using ih (position + inside.length + 4)
        (.anyExcept (specifiers (first :: inside)) :: reversed)
  | char before c rest tokens plain later ih =>
    simp only [List.mem_cons, List.not_mem_nil, or_false, not_or] at plain
    rw [compileFrom]
    · simpa using ih (position + 1) (.char c :: reversed)
    all_goals simp_all

/-! ## Whole globs -/

def IsValid (source : String) : Prop :=
  ∃ read, Spells none source.toList read

/-- Whether a glob, as it is written, matches a text. -/
def Matches (source : String) (text : List Char) : Prop :=
  ∃ read, Spells none source.toList read ∧ AcceptsAll read text

theorem isValid_iff (source : String) : IsValid source ↔ ∃ glob, compile source = .ok glob := by
  constructor
  · rintro ⟨read, spells⟩
    obtain ⟨tokens, compiled, -⟩ := exists_compileFrom_of_spells spells 0 []
    exact ⟨⟨source, tokens⟩, by rw [compile, compiled]; rfl⟩
  · rintro ⟨glob, compiled⟩
    cases tried : compileFrom 0 none [] source.toList with
    | error error => simp [compile, tried, Except.map] at compiled
    | ok tokens => exact exists_spells_of_compileFrom 0 none [] _ tried

theorem not_isValid_iff (source : String) :
    ¬ IsValid source ↔ ∃ error, compile source = .error error := by
  rw [isValid_iff]
  cases compile source <;> simp

/-- A compiled glob accepts what the glob matches as it is written. -/
theorem accepts_iff_matches {source : String} {glob : Glob} (compiled : compile source = .ok glob)
    (text : List Char) : glob.accepts text = true ↔ Matches source text := by
  have language : ∀ read, Spells none source.toList read → SameLanguage glob.tokens read := by
    intro read spells
    obtain ⟨tokens, found, same⟩ := exists_compileFrom_of_spells spells 0 []
    rw [compile, found] at compiled
    cases compiled
    exact same
  rw [accepts, tokensMatch_iff]
  constructor
  · intro accepted
    obtain ⟨read, spells⟩ := (isValid_iff source).mpr ⟨glob, compiled⟩
    exact ⟨read, spells, (language read spells text).mp accepted⟩
  · rintro ⟨read, spells, accepted⟩
    exact (language read spells text).mpr accepted

end StagedFormat.Glob

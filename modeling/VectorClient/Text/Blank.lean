/-
# VectorClient.Text.Blank — blank characters and blank text

A character is blank if Unicode gives it the white-space property, or if it is
one of the four information separators.  Zero-width characters are not blank.
-/
namespace VectorClient.Text

set_option autoImplicit false

/-- The inclusive ranges of the white-space property. -/
def spaceRanges : List (Nat × Nat) :=
  [(0x9, 0xd), (0x20, 0x20), (0x85, 0x85), (0xa0, 0xa0), (0x1680, 0x1680), (0x2000, 0x200a),
   (0x2028, 0x2029), (0x202f, 0x202f), (0x205f, 0x205f), (0x3000, 0x3000)]

/-- The information separators. -/
def separatorRanges : List (Nat × Nat) := [(0x1c, 0x1f)]

def inRanges (ranges : List (Nat × Nat)) (c : Char) : Bool :=
  ranges.any fun (low, high) => low ≤ c.toNat && c.toNat ≤ high

def isSpace (c : Char) : Bool := inRanges spaceRanges c

def isBlankChar (c : Char) : Bool := isSpace c || inRanges separatorRanges c

/-- A text is blank if it has no other than blank characters. -/
def isBlank (s : String) : Bool := s.toList.all isBlankChar

theorem isBlank_eq_false_iff {s : String} :
    isBlank s = false ↔ ∃ c ∈ s.toList, isBlankChar c = false := by
  rw [isBlank, List.all_eq_false]
  simp only [Bool.not_eq_true]

/-- The characters between the leading and the trailing spaces. -/
def trim (cs : List Char) : List Char :=
  ((cs.dropWhile isSpace).reverse.dropWhile isSpace).reverse

/-- Every character that core calls white space is blank. -/
theorem isBlankChar_of_isWhitespace {c : Char} (h : c.isWhitespace = true) :
    isBlankChar c = true := by
  simp only [Char.isWhitespace, Bool.or_eq_true, decide_eq_true_eq] at h
  rcases h with ((rfl | rfl) | rfl) | rfl <;> decide

end VectorClient.Text

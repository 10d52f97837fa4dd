import CommandRouter.Text.CodeSet

/-!
# Blank characters, trimming and words

Text is cut into words at blank characters. The blanks are the separators and the control
characters that act as separators; zero-width characters are not among them.

## Main definitions

* `isBlank` decides whether a character separates words.
* `trim` removes the blanks at both ends of a text.
* `words` lists the maximal runs of non-blank characters of a text, in order.
-/

namespace CommandRouter

/-- The code points of the blank characters. -/
def blankCodes : CodeSet := [
  ⟨0x0009, 0x000D⟩, ⟨0x001C, 0x0020⟩, ⟨0x0085, 0x0085⟩, ⟨0x00A0, 0x00A0⟩, ⟨0x1680, 0x1680⟩,
  ⟨0x2000, 0x200A⟩, ⟨0x2028, 0x2029⟩, ⟨0x202F, 0x202F⟩, ⟨0x205F, 0x205F⟩, ⟨0x3000, 0x3000⟩]

/-- Whether a character separates words. -/
def isBlank (c : Char) : Bool :=
  blankCodes.contains c.toNat

/-! ### Trimming -/

/-- The characters left when those satisfying `p` are dropped from both ends. -/
def trimChars (p : Char → Bool) (cs : List Char) : List Char :=
  ((cs.dropWhile p).reverse.dropWhile p).reverse

/-- The text without the blanks at its ends. -/
def trim (s : String) : String :=
  String.ofList (trimChars isBlank s.toList)

/-! ### Words -/

/-- The pieces of a list between the items satisfying `p`; a list with `n` such items has `n + 1`
pieces, some of them possibly empty. -/
def pieces {α : Type} (p : α → Bool) : List α → List (List α)
  | [] => [[]]
  | c :: cs => if p c then [] :: pieces p cs else (pieces p cs).modifyHead (c :: ·)

/-- The non-empty pieces of a character list between blanks. -/
def wordChars (cs : List Char) : List (List Char) :=
  (pieces isBlank cs).filter fun piece => !piece.isEmpty

/-- The words of a text, in order. -/
def words (s : String) : List String :=
  (wordChars s.toList).map String.ofList

/-- The pieces of a text between the occurrences of a separator. -/
def splitAt (separator : Char) (s : String) : List String :=
  (pieces (· == separator) s.toList).map String.ofList

example : words " ping \u3000 a\tb " = ["ping", "a", "b"] := by decide +kernel

end CommandRouter

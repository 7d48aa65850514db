/-!
# Blank characters

`isBlank` is the White_Space property of Unicode: the ASCII blanks and control characters, the
no-break space and the typographic spaces, but neither the zero-width space nor the byte order mark.
Texts are trimmed and cut into words by it. `isAsciiBlank` is the smaller set of four characters that
markup and expressions allow between their tokens.

## Main definitions

* `trim` — a text without leading and trailing blanks;
* `words` — the maximal runs of characters that are not blank.
-/

namespace PageGrid.Text

/-- The White_Space property. -/
def isBlank (c : Char) : Bool :=
  let n := c.toNat
  (0x9 ≤ n && n ≤ 0xD) || n == 0x20 || n == 0x85 || n == 0xA0 || n == 0x1680 ||
    (0x2000 ≤ n && n ≤ 0x200A) || n == 0x2028 || n == 0x2029 || n == 0x202F || n == 0x205F ||
    n == 0x3000

/-- Space, tab, line feed and carriage return. -/
def isAsciiBlank (c : Char) : Bool :=
  c == ' ' || c == '\t' || c == '\n' || c == '\r'

theorem isBlank_of_isAsciiBlank {c : Char} (h : isAsciiBlank c = true) : isBlank c = true := by
  simp only [isAsciiBlank, Bool.or_eq_true, beq_iff_eq] at h
  rcases h with ((rfl | rfl) | rfl) | rfl <;> decide

/-- A text without its leading and trailing blanks. -/
def trimChars (cs : List Char) : List Char :=
  ((cs.dropWhile isBlank).reverse.dropWhile isBlank).reverse

/-- A text without its leading and trailing blanks. -/
def trim (s : String) : String :=
  String.ofList (trimChars s.toList)

/-- The words of a text, at most `fuel` of them. -/
def wordsUpTo : Nat → List Char → List (List Char)
  | 0, _ => []
  | fuel + 1, cs =>
    match cs.dropWhile isBlank with
    | [] => []
    | c :: rest =>
      (c :: rest).takeWhile (!isBlank ·) :: wordsUpTo fuel ((c :: rest).dropWhile (!isBlank ·))

/-- The maximal runs of characters that are not blank; a text of `n` characters has at most `n`. -/
def words (cs : List Char) : List (List Char) :=
  wordsUpTo cs.length cs

/-- The words of a text joined by single spaces. -/
def normalizeBlanks (s : String) : String :=
  String.ofList ([' '].intercalate (words s.toList))

/-- Whether `needle` begins at some place of `haystack`. -/
def contains (haystack needle : List Char) : Bool :=
  match haystack with
  | [] => needle.isEmpty
  | c :: cs => needle.isPrefixOf (c :: cs) || contains cs needle

end PageGrid.Text

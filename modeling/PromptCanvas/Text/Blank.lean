set_option autoImplicit false
set_option relaxedAutoImplicit false

namespace PromptCanvas.Text

/-- The code points with the white-space property, as inclusive ranges in ascending order. -/
def blankRanges : List (Nat × Nat) :=
  [(0x09, 0x0D), (0x20, 0x20), (0x85, 0x85), (0xA0, 0xA0), (0x1680, 0x1680), (0x2000, 0x200A),
    (0x2028, 0x2029), (0x202F, 0x202F), (0x205F, 0x205F), (0x3000, 0x3000)]

def isBlank (c : Char) : Bool :=
  blankRanges.any fun range => range.1 ≤ c.toNat && c.toNat ≤ range.2

def trimStart (cs : List Char) : List Char := cs.dropWhile isBlank

def trimEnd (cs : List Char) : List Char := (cs.reverse.dropWhile isBlank).reverse

def trim (cs : List Char) : List Char := trimEnd (trimStart cs)

/-- The words of a text read so far in `word` (reversed) and still to come. -/
def wordsFrom (word : List Char) : List Char → List (List Char)
  | [] => if word.isEmpty then [] else [word.reverse]
  | c :: rest =>
    if isBlank c then
      if word.isEmpty then wordsFrom [] rest else word.reverse :: wordsFrom [] rest
    else wordsFrom (c :: word) rest

/-- The maximal runs of characters that are not white space, in order. -/
def words (cs : List Char) : List (List Char) := wordsFrom [] cs

def collapse (cs : List Char) : List Char := [' '].intercalate (words cs)

def partsBy (separates : Char → Bool) : List Char → List (List Char)
  | [] => [[]]
  | c :: rest =>
    if separates c then [] :: partsBy separates rest
    else
      match partsBy separates rest with
      | [] => [[c]]
      | part :: more => (c :: part) :: more

/-- The parts of a text between occurrences of one character. -/
def parts (separator : Char) (cs : List Char) : List (List Char) := partsBy (· = separator) cs

def lower (cs : List Char) : List Char := cs.map Char.toLower

/-- Whether `pre` starts the text when ASCII case is put aside; `pre` is given in small letters. -/
def startsWithIgnoringCase (pre : List Char) (cs : List Char) : Bool :=
  pre.isPrefixOf (lower cs)

example : isBlank ' ' ∧ isBlank '\n' ∧ isBlank '\u3000' ∧ ¬ isBlank '\u200b' := by decide

example : trim " a b ".toList = "a b".toList := by decide

example : collapse "  a \t b  ".toList = "a b".toList := by decide

end PromptCanvas.Text

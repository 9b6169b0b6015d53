/-!
Contract: cutting text into lines and blank-separated words.

Owns:
- the blank characters;
- splitting at separators, trimming, and the words of a line;
- the rest of a line after its first words.

Does not own: what a word means, or which lines are comments.
-/

namespace TypedBytecode.Text

/-- Blank characters are those with the Unicode property `White_Space`. -/
def isBlank (c : Char) : Bool :=
  let code := c.toNat
  (9 ≤ code && code ≤ 13) || code == 0x20 || code == 0x85 || code == 0xA0 ||
    code == 0x1680 || (0x2000 ≤ code && code ≤ 0x200A) || code == 0x2028 ||
    code == 0x2029 || code == 0x202F || code == 0x205F || code == 0x3000

/-- The pieces between separators. There is always one piece more than there are
separators, so that empty pieces keep their position. -/
def splitWhere (separates : Char → Bool) (text : List Char) : List (List Char) :=
  text.foldr
    (fun c pieces => if separates c then [] :: pieces else pieces.modifyHead (c :: ·))
    [[]]

def lines (text : List Char) : List (List Char) :=
  splitWhere (· == '\n') text

def words (text : List Char) : List (List Char) :=
  (splitWhere isBlank text).filter (fun piece => !piece.isEmpty)

def trimStart (text : List Char) : List Char :=
  text.dropWhile isBlank

def trimEnd (text : List Char) : List Char :=
  (text.reverse.dropWhile isBlank).reverse

def trim (text : List Char) : List Char :=
  trimEnd (trimStart text)

/-- What follows the first `count` words and the blanks after them. -/
def skipWords : Nat → List Char → List Char
  | 0, text => trimStart text
  | count + 1, text => skipWords count ((trimStart text).dropWhile (fun c => !isBlank c))

/-- The text from word number `count` on (counted from zero), its inner blanks kept. -/
def restAfter (text : List Char) (count : Nat) : List Char :=
  trimEnd (skipWords count text)

end TypedBytecode.Text

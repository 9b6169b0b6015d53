import TypedBytecode.Text.Word
import Mathlib.Data.List.DropRight
import Mathlib.Data.List.Induction

/-!
Contract: what cutting a text into lines and words keeps.

Owns:
- splitting at separators, piece by piece;
- words: what they are, the characters they are made of, and the words of a text from its first
  word and what follows it;
- trimming, which leaves the words alone;
- texts that are joined from lines and cut into the same lines again.

Does not own: what a word or a line means.
-/

namespace TypedBytecode.Text

/-! ## Splitting -/

section Splitting

variable {separates : Char → Bool} {text : List Char}

theorem splitWhere_cons (c : Char) :
    splitWhere separates (c :: text) =
      if separates c then [] :: splitWhere separates text
      else (splitWhere separates text).modifyHead (c :: ·) :=
  rfl

theorem splitWhere_ne_nil (separates : Char → Bool) (text : List Char) :
    splitWhere separates text ≠ [] := by
  induction text with
  | nil => simp [splitWhere]
  | cons c text inductionHypothesis =>
      rw [splitWhere_cons]
      split
      · simp
      · simpa using inductionHypothesis

/-- Splitting loses nothing but the separators. -/
theorem mem_splitWhere (separates : Char → Bool) {c : Char} (member : c ∈ text)
    (kept : separates c = false) : ∃ piece ∈ splitWhere separates text, c ∈ piece := by
  induction text with
  | nil => simp at member
  | cons first text inductionHypothesis =>
      rw [splitWhere_cons]
      obtain ⟨head, pieces, split⟩ := List.exists_cons_of_ne_nil (splitWhere_ne_nil separates text)
      rw [split] at inductionHypothesis ⊢
      rcases List.mem_cons.mp member with rfl | later
      · exact ⟨c :: head, by simp [kept], List.mem_cons_self⟩
      · obtain ⟨piece, inPieces, inPiece⟩ := inductionHypothesis later
        cases separates first with
        | true => exact ⟨piece, by simpa using Or.inr inPieces, inPiece⟩
        | false =>
            rcases List.mem_cons.mp inPieces with rfl | inRest
            · exact ⟨first :: piece, by simp, List.mem_cons_of_mem first inPiece⟩
            · exact ⟨piece, by simpa using Or.inr inRest, inPiece⟩

/-- A text is split on both sides of a separator alone. -/
theorem splitWhere_append (front back : List Char) {c : Char} (between : separates c = true) :
    splitWhere separates (front ++ c :: back) =
      splitWhere separates front ++ splitWhere separates back := by
  induction front with
  | nil =>
      rw [List.nil_append, splitWhere_cons, if_pos between]
      rfl
  | cons first front inductionHypothesis =>
      rw [List.cons_append, splitWhere_cons, splitWhere_cons, inductionHypothesis]
      by_cases separator : separates first = true
      · rw [if_pos separator, if_pos separator]
        rfl
      · rw [if_neg separator, if_neg separator]
        obtain ⟨head, pieces, split⟩ :=
          List.exists_cons_of_ne_nil (splitWhere_ne_nil separates front)
        rw [split]
        rfl

/-- A text without separators is one piece. -/
theorem splitWhere_of_none (none : ∀ c ∈ text, separates c = false) :
    splitWhere separates text = [text] := by
  induction text with
  | nil => rfl
  | cons first text inductionHypothesis =>
      have rest := inductionHypothesis fun c member => none c (List.mem_cons_of_mem first member)
      rw [splitWhere_cons, rest, none first List.mem_cons_self]
      rfl

/-- No piece holds a separator. -/
theorem separates_of_mem_splitWhere {piece : List Char}
    (member : piece ∈ splitWhere separates text) : ∀ c ∈ piece, separates c = false := by
  induction text generalizing piece with
  | nil =>
      rw [splitWhere, List.foldr_nil, List.mem_singleton] at member
      simp [member]
  | cons first text inductionHypothesis =>
      rw [splitWhere_cons] at member
      by_cases separator : separates first = true
      · rw [if_pos separator] at member
        rcases List.mem_cons.mp member with rfl | later
        · simp
        · exact inductionHypothesis later
      · rw [if_neg separator] at member
        obtain ⟨head, pieces, split⟩ :=
          List.exists_cons_of_ne_nil (splitWhere_ne_nil separates text)
        rw [split, List.modifyHead_cons] at member
        rcases List.mem_cons.mp member with rfl | later
        · intro c inPiece
          rcases List.mem_cons.mp inPiece with rfl | inHead
          · simpa using separator
          · exact inductionHypothesis (split ▸ List.mem_cons_self) c inHead
        · exact inductionHypothesis (split ▸ List.mem_cons_of_mem head later)

end Splitting

/-! ## Words -/

/-- A word has characters, and none of them is blank. -/
def IsWord (word : List Char) : Prop :=
  word ≠ [] ∧ ∀ c ∈ word, isBlank c = false

instance (word : List Char) : Decidable (IsWord word) :=
  decidable_of_iff ((!word.isEmpty && word.all (fun c => !isBlank c)) = true) (by simp [IsWord])

theorem isWord_of_mem_words {text word : List Char} (member : word ∈ words text) :
    IsWord word := by
  obtain ⟨piece, nonempty⟩ := List.mem_filter.mp member
  exact ⟨by simpa using nonempty, separates_of_mem_splitWhere piece⟩

@[simp] theorem words_nil : words [] = [] :=
  rfl

theorem words_append_blank (front back : List Char) {c : Char} (blank : isBlank c = true) :
    words (front ++ c :: back) = words front ++ words back := by
  rw [words, splitWhere_append front back blank, List.filter_append]
  rfl

theorem words_cons_blank {c : Char} (blank : isBlank c = true) (text : List Char) :
    words (c :: text) = words text :=
  words_append_blank [] text blank

theorem words_append_of_blank {blanks : List Char} (blank : ∀ c ∈ blanks, isBlank c = true)
    (text : List Char) : words (blanks ++ text) = words text := by
  induction blanks with
  | nil => rfl
  | cons c blanks inductionHypothesis =>
      rw [List.cons_append, words_cons_blank (blank c List.mem_cons_self)]
      exact inductionHypothesis fun d member => blank d (List.mem_cons_of_mem c member)

theorem IsWord.words {word : List Char} (isWord : IsWord word) : words word = [word] := by
  rw [Text.words, splitWhere_of_none isWord.2]
  simp [isWord.1]

/-- A text that does not go on with a word that was begun before it. -/
def Separated (text : List Char) : Prop :=
  ∀ c ∈ text.head?, isBlank c = true

theorem IsWord.words_append {word rest : List Char} (isWord : IsWord word)
    (separated : Separated rest) : Text.words (word ++ rest) = word :: Text.words rest := by
  cases rest with
  | nil => rw [List.append_nil, isWord.words, words_nil]
  | cons c rest =>
      have blank : isBlank c = true := separated c rfl
      rw [words_append_blank word rest blank, words_cons_blank blank, isWord.words]
      rfl

theorem words_trimStart (text : List Char) : words (trimStart text) = words text := by
  induction text with
  | nil => rfl
  | cons c text inductionHypothesis =>
      rw [trimStart, List.dropWhile_cons]
      by_cases blank : isBlank c = true
      · rw [if_pos blank, words_cons_blank blank]
        exact inductionHypothesis
      · rw [if_neg blank]

theorem words_trimEnd (text : List Char) : words (trimEnd text) = words text := by
  induction text using List.reverseRecOn with
  | nil => rfl
  | append_singleton text c inductionHypothesis =>
      have trimmed := List.rdropWhile_concat isBlank text c
      by_cases blank : isBlank c = true
      · rw [if_pos blank] at trimmed
        rw [words_append_blank text [] blank, words_nil, List.append_nil, ← inductionHypothesis]
        exact congrArg words trimmed
      · rw [if_neg blank] at trimmed
        exact congrArg words trimmed

@[simp] theorem words_trim (text : List Char) : words (trim text) = words text := by
  rw [trim, words_trimEnd, words_trimStart]

/-- The words of a text are made of all its characters but the blanks. -/
theorem flatten_words (text : List Char) :
    (words text).flatten = text.filter (fun c => !isBlank c) := by
  rw [words, List.flatten_filter_not_isEmpty]
  induction text with
  | nil => rfl
  | cons c text inductionHypothesis =>
      rw [splitWhere_cons]
      by_cases blank : isBlank c = true
      · rw [if_pos blank, List.flatten_cons, List.nil_append, inductionHypothesis,
          List.filter_cons_of_neg (by simp [blank])]
      · obtain ⟨head, pieces, split⟩ :=
          List.exists_cons_of_ne_nil (splitWhere_ne_nil isBlank text)
        rw [split, List.flatten_cons] at inductionHypothesis
        rw [if_neg blank, split, List.modifyHead_cons, List.flatten_cons, List.cons_append,
          inductionHypothesis, List.filter_cons_of_pos (by simp [blank])]

/-! ## The first word -/

def firstWord (text : List Char) : List Char :=
  (trimStart text).takeWhile (fun c => !isBlank c)

def afterFirstWord (text : List Char) : List Char :=
  (trimStart text).dropWhile (fun c => !isBlank c)

section FirstWord

variable {text : List Char}

theorem text_eq_firstWord (text : List Char) :
    text = text.takeWhile isBlank ++ (firstWord text ++ afterFirstWord text) := by
  rw [firstWord, afterFirstWord, List.takeWhile_append_dropWhile, trimStart,
    List.takeWhile_append_dropWhile]

/-- What is left of a text without its first blanks begins with a character of a word. -/
theorem trimStart_eq_cons (some : trimStart text ≠ []) :
    ∃ c rest, trimStart text = c :: rest ∧ isBlank c = false := by
  obtain ⟨c, rest, begins⟩ := List.exists_cons_of_ne_nil some
  refine ⟨c, rest, begins, ?_⟩
  have first := List.head?_dropWhile_not isBlank text
  rw [trimStart] at begins
  rw [begins] at first
  exact first

theorem isWord_firstWord (some : trimStart text ≠ []) : IsWord (firstWord text) := by
  obtain ⟨c, rest, begins, notBlank⟩ := trimStart_eq_cons some
  constructor
  · simp [firstWord, begins, notBlank]
  · intro d member
    simpa using List.mem_takeWhile_imp member

theorem separated_afterFirstWord (text : List Char) : Separated (afterFirstWord text) := by
  intro c first
  have ended := List.head?_dropWhile_not (fun c => !isBlank c) (trimStart text)
  rw [afterFirstWord] at first
  rw [Option.mem_def.mp first] at ended
  simpa using ended

theorem words_eq_nil (none : trimStart text = []) : words text = [] := by
  rw [← words_trimStart, none, words_nil]

/-- The words of a text are its first word and the words behind it. -/
theorem words_eq_cons (some : trimStart text ≠ []) :
    words text = firstWord text :: words (afterFirstWord text) := by
  rw [← words_trimStart, ← List.takeWhile_append_dropWhile (l := trimStart text)]
  exact (isWord_firstWord some).words_append (separated_afterFirstWord text)

/-- A trimmed text begins as its first word does. -/
theorem head?_trim (text : List Char) : (trim text).head? = ((words text).headD []).head? := by
  by_cases none : trimStart text = []
  · rw [words_eq_nil none, trim, none]
    rfl
  · obtain ⟨c, rest, begins, notBlank⟩ := trimStart_eq_cons none
    have kept : trimEnd (c :: rest) ≠ [] := by
      intro empty
      have blank := List.rdropWhile_eq_nil_iff.mp empty c List.mem_cons_self
      rw [notBlank] at blank
      cases blank
    obtain ⟨d, trimmed, split⟩ := List.exists_cons_of_ne_nil kept
    have whole : trimEnd (c :: rest) ++ List.rtakeWhile isBlank (c :: rest) = c :: rest :=
      List.rdropWhile_append_rtakeWhile
    rw [split, List.cons_append] at whole
    have same := (List.cons.inj whole).1
    rw [words_eq_cons none, trim, begins, split, same]
    simp [firstWord, begins, notBlank]

end FirstWord

/-! ## Lines -/

/-- The text of some lines, with a line feed between each two of them. -/
def joinLines (lines : List (List Char)) : List Char :=
  List.intercalate ['\n'] lines

theorem lines_joinLines {lines : List (List Char)} (some : lines ≠ [])
    (whole : ∀ line ∈ lines, '\n' ∉ line) : Text.lines (joinLines lines) = lines := by
  induction lines with
  | nil => exact absurd rfl some
  | cons line further inductionHypothesis =>
      have piece : Text.lines line = [line] := by
        apply splitWhere_of_none
        intro c member
        have other : c ≠ '\n' := by
          rintro rfl
          exact whole line List.mem_cons_self member
        simpa using other
      cases further with
      | nil => simpa [joinLines] using piece
      | cons next further =>
          have joined : joinLines (line :: next :: further) =
              line ++ '\n' :: joinLines (next :: further) := by
            simp [joinLines, List.intercalate_cons_cons]
          have rest := inductionHypothesis (by simp)
            fun other member => whole other (List.mem_cons_of_mem line member)
          rw [joined, Text.lines, splitWhere_append _ _ (by decide)]
          rw [Text.lines] at piece rest
          rw [piece, rest]
          rfl

theorem lines_ne_nil (text : List Char) : lines text ≠ [] :=
  splitWhere_ne_nil _ text

theorem not_mem_of_mem_lines {text line : List Char} (member : line ∈ lines text) :
    '\n' ∉ line := by
  intro feed
  have other := separates_of_mem_splitWhere member '\n' feed
  simp at other

end TypedBytecode.Text

import TypedBytecode.Proofs.Formatting
import TypedBytecode.Proofs.IntegerConstant

/-!
Contract: the text behind the first words of a line, as it stands in the line.

Owns:
- texts without blanks at their ends, and what trimming the end of a text takes away;
- skipping words: where the rest of the text begins, and which words it has;
- the one rest of a text that has the words behind the first ones and no blanks at its ends;
- `Text.IsExcerpt`: the piece of a text from one of its words to its last word;
- string constants, which are excerpts of the lines of a script.

Does not own: how a text is cut into words.
-/

namespace TypedBytecode

namespace Text

/-! ## The ends of a text -/

/-- A text with no blank at its beginning and none at its end. -/
structure Trimmed (text : List Char) : Prop where
  begins : ∀ c ∈ text.head?, isBlank c = false
  ends : ∀ c ∈ text.getLast?, isBlank c = false

/-- A text that leaves no word open for what follows it. -/
def Closed (text : List Char) : Prop :=
  ∀ c ∈ text.getLast?, isBlank c = true

section Ends

variable {text front back : List Char}

theorem closed_of_allBlank (blank : AllBlank text) : Closed text :=
  fun c last => blank c (List.mem_of_mem_getLast? last)

theorem Closed.append (front : List Char) (closed : Closed back) (some : back ≠ []) :
    Closed (front ++ back) := by
  intro c last
  rw [List.getLast?_append_of_ne_nil front some] at last
  exact closed c last

/-- Behind a text that leaves no word open, words begin afresh. -/
theorem Closed.words_append (closed : Closed front) (back : List Char) :
    words (front ++ back) = words front ++ words back := by
  rcases List.eq_nil_or_concat' front with rfl | ⟨init, c, rfl⟩
  · rfl
  · have blank : isBlank c = true := closed c List.getLast?_concat
    rw [List.append_assoc, List.singleton_append, words_append_blank init back blank,
      words_append_blank init [] blank, words_nil, List.append_nil]

/-- Trimming takes away blanks, and nothing else. -/
theorem trimEnd_append_blanks (text : List Char) :
    ∃ blanks, AllBlank blanks ∧ trimEnd text ++ blanks = text :=
  ⟨text.rtakeWhile isBlank, fun _ => List.mem_rtakeWhile_imp, List.rdropWhile_append_rtakeWhile⟩

theorem isBlank_getLast_trimEnd (text : List Char) :
    ∀ c ∈ (trimEnd text).getLast?, isBlank c = false := by
  intro c last
  obtain ⟨some, rfl⟩ := List.mem_getLast?_eq_getLast last
  exact eq_false_of_ne_true (List.rdropWhile_last_not isBlank text some)

theorem trimEnd_eq_self (kept : ∀ c ∈ text.getLast?, isBlank c = false) : trimEnd text = text := by
  refine (List.rdropWhile_eq_self_iff (p := isBlank)).mpr ?_
  intro some blank
  rw [kept _ (List.getLast?_eq_getLast_of_ne_nil some)] at blank
  cases blank

/-- A text that is trimmed ends with what it ended with, trimmed. -/
theorem trimEnd_suffix (ends : back <:+ text) : trimEnd back <:+ trimEnd text := by
  obtain ⟨front, rfl⟩ := ends
  by_cases none : trimEnd back = []
  · rw [none]
    exact List.nil_suffix
  · obtain ⟨blanks, blank, whole⟩ := trimEnd_append_blanks back
    have kept : trimEnd (front ++ trimEnd back) = front ++ trimEnd back := by
      apply trimEnd_eq_self
      rw [List.getLast?_append_of_ne_nil front none]
      exact isBlank_getLast_trimEnd back
    refine ⟨front, ?_⟩
    rw [← kept, ← trimEnd_append_of_blank blank, List.append_assoc, whole]

end Ends

/-! ## Skipped words -/

section Skipping

variable {text : List Char} {count : Nat}

theorem isBlank_head_skipWords (count : Nat) (text : List Char) :
    ∀ c ∈ (skipWords count text).head?, isBlank c = false := by
  induction count generalizing text with
  | zero =>
      intro c first
      have kept := List.head?_dropWhile_not isBlank text
      rw [skipWords, trimStart] at first
      rw [Option.mem_def.mp first] at kept
      exact kept
  | succ count inductionHypothesis => exact inductionHypothesis (afterFirstWord text)

/-- Skipping words of a text leaves the words behind them, or none where there are too few. -/
theorem words_skipWords (count : Nat) (text : List Char) :
    words (skipWords count text) = (words text).drop count := by
  induction count generalizing text with
  | zero => exact words_trimStart text
  | succ count inductionHypothesis =>
      have rest : words (skipWords (count + 1) text) = (words (afterFirstWord text)).drop count :=
        inductionHypothesis (afterFirstWord text)
      rw [rest]
      by_cases none : trimStart text = []
      · rw [words_eq_nil none, afterFirstWord, none]
        simp
      · rw [words_eq_cons none, List.drop_succ_cons]

/-- What is left begins behind a blank, unless it is the whole text or nothing. -/
theorem skipWords_placed (some : skipWords count text ≠ []) :
    ∃ front, text = front ++ skipWords count text ∧ Closed front := by
  induction count generalizing text with
  | zero =>
      refine ⟨text.takeWhile isBlank, ?_, closed_of_allBlank fun _ => List.mem_takeWhile_imp⟩
      rw [skipWords, trimStart, List.takeWhile_append_dropWhile]
  | succ count inductionHypothesis =>
      have left : skipWords count (afterFirstWord text) ≠ [] := some
      obtain ⟨front, placed, closed⟩ := inductionHypothesis left
      -- the first word ends before a blank, and what is left does not begin with one
      have between : front ≠ [] := by
        rintro rfl
        rw [List.nil_append] at placed
        obtain ⟨c, rest, begins⟩ := List.exists_cons_of_ne_nil some
        have first : c ∈ (skipWords (count + 1) text).head? := by rw [begins]; rfl
        have notBlank := isBlank_head_skipWords (count + 1) text c first
        have blank := separated_afterFirstWord text c (placed ▸ first)
        rw [notBlank] at blank
        cases blank
      refine ⟨text.takeWhile isBlank ++ (firstWord text ++ front), ?_, ?_⟩
      · conv_lhs => rw [text_eq_firstWord text, placed]
        simp only [List.append_assoc]
        rfl
      · rw [← List.append_assoc]
        exact closed.append _ between

theorem skipWords_suffix (count : Nat) (text : List Char) : skipWords count text <:+ text := by
  by_cases none : skipWords count text = []
  · rw [none]
    exact List.nil_suffix
  · obtain ⟨front, placed, -⟩ := skipWords_placed none
    exact ⟨front, placed.symm⟩

end Skipping

/-! ## The rest of a text -/

section Rest

variable {text back rest : List Char} {count : Nat}

/-- A text that begins with a word cannot lose any part of its beginning and keep its words. -/
theorem eq_of_suffix (ends : back <:+ text) (begins : ∀ c ∈ text.head?, isBlank c = false)
    (same : words back = words text) : back = text := by
  obtain ⟨front, rfl⟩ := ends
  have characters := congrArg List.flatten same
  rw [flatten_words, flatten_words, List.filter_append, List.self_eq_append_left,
    List.filter_eq_nil_iff] at characters
  cases front with
  | nil => rfl
  | cons c front =>
      have notBlank := begins c rfl
      exact absurd notBlank (by simpa using characters c List.mem_cons_self)

theorem trimmed_restAfter (text : List Char) (count : Nat) : Trimmed (restAfter text count) := by
  refine ⟨?_, isBlank_getLast_trimEnd (skipWords count text)⟩
  intro c first
  obtain ⟨blanks, -, whole⟩ := trimEnd_append_blanks (skipWords count text)
  apply isBlank_head_skipWords count text c
  rw [← whole]
  exact List.mem_head?_append_of_mem_head? first

theorem words_restAfter (text : List Char) (count : Nat) :
    words (restAfter text count) = (words text).drop count := by
  rw [restAfter, words_trimEnd, words_skipWords]

/-- The rest of a text behind its first words is the one text that it ends with, but for blanks,
that has no blank at its ends and has the words behind the first ones. -/
theorem eq_restAfter_iff : rest = restAfter text count ↔
    rest <:+ trimEnd text ∧ Trimmed rest ∧ words rest = (words text).drop count := by
  have ends : restAfter text count <:+ trimEnd text := trimEnd_suffix (skipWords_suffix count text)
  have trimmed := trimmed_restAfter text count
  have sameWords := words_restAfter text count
  constructor
  · rintro rfl
    exact ⟨ends, trimmed, sameWords⟩
  · rintro ⟨otherEnds, otherTrimmed, otherWords⟩
    rcases List.suffix_or_suffix_of_suffix otherEnds ends with shorter | longer
    · exact eq_of_suffix shorter trimmed.begins (otherWords.trans sameWords.symm)
    · exact (eq_of_suffix longer otherTrimmed.begins (sameWords.trans otherWords.symm)).symm

/-- Blanks around a text do not matter to what is behind its first words. -/
theorem restAfter_trim (text : List Char) (count : Nat) :
    restAfter (trim text) count = restAfter text count := by
  obtain ⟨ends, trimmed, sameWords⟩ := eq_restAfter_iff.mp (rfl : restAfter (trim text) count = _)
  refine eq_restAfter_iff.mpr ⟨?_, trimmed, by rw [sameWords, words_trim]⟩
  have kept : trimEnd (trim text) = trimEnd (trimStart text) :=
    trimEnd_eq_self (isBlank_getLast_trimEnd (trimStart text))
  rw [kept] at ends
  exact ends.trans (trimEnd_suffix (List.dropWhile_suffix isBlank))

end Rest

/-! ## Excerpts -/

/-- The piece of a text from its word number `count`, counted from zero, to its last word. Before it
are the words of lower numbers, closed off by a blank, and after it nothing but blanks. -/
def IsExcerpt (text : List Char) (count : Nat) (excerpt : List Char) : Prop :=
  ∃ front back first last, text = front ++ excerpt ++ back ∧
    words front = (words text).take count ∧ Closed front ∧ AllBlank back ∧
    (words text)[count]? = some first ∧ first <+: excerpt ∧
    (words text).getLast? = some last ∧ last <:+ excerpt

section Excerpts

variable {text excerpt : List Char} {count : Nat}

/-- A text that begins with no blank begins with its first word. -/
theorem prefix_of_words {first : List Char} (begins : ∀ c ∈ text.head?, isBlank c = false)
    (isFirst : (words text).head? = some first) : first <+: text := by
  have kept : trimStart text = text := by
    cases text with
    | nil => rfl
    | cons c rest => exact List.dropWhile_cons_of_neg (by simp [begins c rfl])
  have some : trimStart text ≠ [] := by
    intro none
    rw [words_eq_nil none] at isFirst
    cases isFirst
  rw [words_eq_cons some, firstWord, kept] at isFirst
  cases isFirst
  exact List.takeWhile_prefix _

/-- A text that ends with no blank ends with its last word. -/
theorem suffix_of_words {last : List Char} (ends : ∀ c ∈ text.getLast?, isBlank c = false)
    (isLast : (words text).getLast? = some last) : last <:+ text := by
  have whole : text.rdropWhile (fun c => !isBlank c) ++ text.rtakeWhile (fun c => !isBlank c) =
      text := List.rdropWhile_append_rtakeWhile
  have closed : Closed (text.rdropWhile (fun c => !isBlank c)) := by
    intro c final
    obtain ⟨some, rfl⟩ := List.mem_getLast?_eq_getLast final
    simpa using List.rdropWhile_last_not (fun c => !isBlank c) text some
  have isWord : IsWord (text.rtakeWhile (fun c => !isBlank c)) := by
    constructor
    · intro none
      have some : text ≠ [] := by
        rintro rfl
        cases isLast
      have final := List.rtakeWhile_eq_nil_iff.mp none some
      simp [ends _ (List.getLast?_eq_getLast_of_ne_nil some)] at final
    · intro c member
      simpa using List.mem_rtakeWhile_imp member
  rw [← whole, closed.words_append, isWord.words, List.getLast?_concat] at isLast
  cases isLast
  exact List.rtakeWhile_suffix _ _

theorem IsWord.isBlank_head {word : List Char} (isWord : IsWord word)
    (begins : word <+: text) : ∀ c ∈ text.head?, isBlank c = false := by
  obtain ⟨rest, rfl⟩ := begins
  intro c first
  rw [List.head?_append_of_ne_nil word isWord.1] at first
  exact isWord.2 c (List.mem_of_mem_head? first)

theorem IsWord.isBlank_getLast {word : List Char} (isWord : IsWord word)
    (ends : word <:+ text) : ∀ c ∈ text.getLast?, isBlank c = false := by
  obtain ⟨front, rfl⟩ := ends
  intro c last
  rw [List.getLast?_append_of_ne_nil front isWord.1] at last
  exact isWord.2 c (List.mem_of_mem_getLast? last)

/-- Nothing else than what follows the first words is an excerpt. -/
theorem IsExcerpt.eq_restAfter (isExcerpt : IsExcerpt text count excerpt) :
    excerpt = restAfter text count := by
  obtain ⟨front, back, first, last, placed, before, closed, blank, isFirst, begins, isLast, ends⟩ :=
    isExcerpt
  have trimmed : Trimmed excerpt :=
    ⟨(isWord_of_mem_words (List.mem_of_getElem? isFirst)).isBlank_head begins,
      (isWord_of_mem_words (List.mem_of_mem_getLast? isLast)).isBlank_getLast ends⟩
  have kept : trimEnd text = trimEnd (front ++ excerpt) := by
    rw [placed, trimEnd_append_of_blank blank]
  refine eq_restAfter_iff.mpr ⟨?_, trimmed, ?_⟩
  · have excerptEnds := trimEnd_suffix (List.suffix_append front excerpt)
    rwa [← kept, trimEnd_eq_self trimmed.ends] at excerptEnds
  · have split : words text = (words text).take count ++ words excerpt := by
      rw [← before, ← closed.words_append, ← words_trimEnd (front ++ excerpt), ← kept,
        words_trimEnd]
    exact List.append_cancel_left (split.symm.trans (List.take_append_drop count _).symm)

/-- From every word of a text on, what follows the words before it is an excerpt. -/
theorem isExcerpt_restAfter (inside : count < (words text).length) :
    IsExcerpt text count (restAfter text count) := by
  have sameWords := words_restAfter text count
  have trimmed := trimmed_restAfter text count
  have hasWords : words text ≠ [] := List.ne_nil_of_length_pos (by omega)
  have remains : skipWords count text ≠ [] := by
    intro none
    have left := words_skipWords count text
    rw [none, words_nil, eq_comm, List.drop_eq_nil_iff] at left
    omega
  obtain ⟨front, placed, closed⟩ := skipWords_placed remains
  obtain ⟨blanks, blank, whole⟩ := trimEnd_append_blanks (skipWords count text)
  have before : words front = (words text).take count := by
    have split := closed.words_append (skipWords count text)
    rw [← placed, words_skipWords] at split
    exact List.append_cancel_right (split.symm.trans (List.take_append_drop count _).symm)
  have isLast : (words text).getLast? = some ((words text).getLast hasWords) :=
    List.getLast?_eq_getLast_of_ne_nil hasWords
  refine ⟨front, blanks, (words text)[count], (words text).getLast hasWords, ?_, before, closed,
    blank, List.getElem?_eq_getElem inside, prefix_of_words trimmed.begins ?_, isLast,
    suffix_of_words trimmed.ends ?_⟩
  · rw [List.append_assoc, restAfter, whole, ← placed]
  · rw [sameWords, List.head?_drop, List.getElem?_eq_getElem inside]
  · rw [sameWords, List.getLast?_drop, if_neg (by omega), isLast]

end Excerpts

end Text

/-! ## String constants -/

/-- A constant is pushed wherever code can be reached, and nowhere else. -/
theorem Builder.call_constant_eq_ok {graph : ClassGraph} {builder next : Builder}
    {operation : Operation} {type : ValueType} {code : Code}
    (chosen : operation.constant? = some (type, code)) :
    builder.call graph (.operation operation) = .ok next ↔
      ∃ current, builder.current = some current ∧
        next = builder.afterCode current (current.frame.push type) code := by
  have pushing : ∀ {current}, builder.current = some current →
      builder.call graph (.operation operation) =
        .ok (builder.afterCode current (current.frame.push type) code) :=
    fun reachable => call_of_plan (Operation.plan_of_constant? chosen) reachable
  constructor
  · intro succeeds
    cases makes_of_call succeeds with
    | @operation _ current _ _ reachable _ =>
        exact ⟨current, reachable, Except.ok.inj (succeeds.symm.trans (pushing reachable))⟩
  · rintro ⟨current, reachable, rfl⟩
    exact pushing reachable

namespace Session

open Script Text

section Strings

variable {session next : Session} {graph extended : ClassGraph} {text : List Char}

theorem run_call_eq_ok {request : Call} : (session.call request).run graph = (.ok next, extended) ↔
    ∃ builder, session.builder.call graph request = .ok builder ∧
      next = { session with builder := builder } ∧ extended = graph := by
  have opened : (session.call request).run graph =
      (Resolving.assembling (session.builder.call graph request) >>=
        fun builder => pure { session with builder := builder } : Resolving Session).run graph :=
    rfl
  rw [opened]
  cases session.builder.call graph request with
  | ok builder =>
      constructor
      · rintro ⟨⟩
        exact ⟨builder, rfl, rfl, rfl⟩
      · rintro ⟨_, ⟨⟩, rfl, rfl⟩
        rfl
  | error cause =>
      constructor
      · rintro ⟨⟩
      · rintro ⟨_, ⟨⟩, -⟩

theorem runLine_of_no_value (isString : words text = ["const".toList, "string".toList]) :
    session.runLine text = throw (.wording .incompleteConstant) := by
  unfold runLine
  rw [isString]
  rfl

/-- A string constant with a value is accepted wherever code can be reached. The value is taken from
the line, not from its words. -/
theorem runLine_string_eq_ok {word : List Char} {further : List (List Char)}
    (isString : words text = "const".toList :: "string".toList :: word :: further) :
    (session.runLine text).run graph = (.ok next, extended) ↔
      ∃ current, session.builder.current = some current ∧
        next = { session with
          builder := session.builder.afterCode current (current.frame.push (.object .string))
            [.loadConstant (.string (String.ofList (restAfter text 2)))] } ∧
        extended = graph := by
  have read : session.runLine text =
      session.operate (.constString (String.ofList (restAfter text 2))) := by
    unfold runLine
    rw [isString]
    rfl
  rw [read, operate, run_call_eq_ok]
  constructor
  · rintro ⟨builder, called, rfl, rfl⟩
    obtain ⟨current, reachable, rfl⟩ := (Builder.call_constant_eq_ok rfl).mp called
    exact ⟨current, reachable, rfl, rfl⟩
  · rintro ⟨current, reachable, rfl, rfl⟩
    exact ⟨_, (Builder.call_constant_eq_ok rfl).mpr ⟨current, reachable, rfl⟩, rfl, rfl⟩

end Strings

end Session

namespace Script

open Text

/-- Line `number` of a script is a statement, and it is accepted: no line before it is refused, and
it takes the session that they leave to `next`. -/
def AcceptsLine (graph : ClassGraph) (source : String) (number : Nat) (session next : Session) :
    Prop :=
  ∃ header before text after begun between reached extended,
    countedLines source = header :: (before ++ (number, text) :: after) ∧
    (Session.begin header.2).run graph = (.ok begun, between) ∧
    begun.Passes between before session reached ∧
    (session.runLine text).run reached = (.ok next, extended)

/-- The lines that count are lines of the script, at their numbers. -/
theorem mem_countedFrom {first number : Nat} {texts : List (List Char)} {text : List Char}
    (member : (number, text) ∈ countedFrom first texts) :
    first ≤ number ∧ ∃ line, texts[number - first]? = some line ∧ text = trim line := by
  induction texts generalizing first with
  | nil => cases member
  | cons line texts inductionHypothesis =>
      have later : (number, text) ∈ countedFrom (first + 1) texts →
          first ≤ number ∧ ∃ found, (line :: texts)[number - first]? = some found ∧
            text = trim found := by
        intro inRest
        obtain ⟨bound, found, stands, trimmed⟩ := inductionHypothesis inRest
        have position : number - first = number - (first + 1) + 1 := by omega
        exact ⟨by omega, found, by rw [position, List.getElem?_cons_succ, stands], trimmed⟩
      rw [countedFrom] at member
      split at member
      · rcases List.mem_cons.mp member with here | inRest
        · cases here
          exact ⟨le_rfl, line, by simp, rfl⟩
        · exact later inRest
      · exact later member

/-- Cutting a text and reading its words agree. For every text and every number of words, the rest
behind so many words is the one text with these properties: the text ends with it, but for blanks,
it has no blank at its ends, and its words are those behind the first ones, so that it is empty
where there are too few. Therefore a string constant is what its line has from the third word to the
last, with the blanks in between: wherever such a line of a script is accepted, the code that it
adds pushes that very text, and one string more is tracked. -/
theorem cutting_agrees_with_words :
    (∀ (text rest : List Char) (count : Nat), rest = restAfter text count ↔
      rest <:+ trimEnd text ∧ Trimmed rest ∧ words rest = (words text).drop count) ∧
    ∀ (graph : ClassGraph) (source : String) (number : Nat) (line : List Char)
      (further : List (List Char)) (session next : Session),
      AcceptsLine graph source number session next →
      (Text.lines source.toList)[number - 1]? = some line →
      words line = "const".toList :: "string".toList :: further →
      ∃ literal current, IsExcerpt line 2 literal ∧ session.builder.current = some current ∧
        next.builder.emissions = session.builder.emissions ++
          [.instruction (.loadConstant (.string (String.ofList literal)))] ∧
        next.builder.current =
          some { current with frame := current.frame.push (.object .string) } := by
  refine ⟨fun _ _ _ => eq_restAfter_iff, ?_⟩
  intro graph source number line further session next accepted stands isString
  obtain ⟨header, before, text, after, begun, between, reached, extended, counted, -, -, ran⟩ :=
    accepted
  have member : (number, text) ∈ countedFrom 1 (Text.lines source.toList) := by
    rw [← countedLines_eq, counted]
    simp
  obtain ⟨-, found, standsThere, rfl⟩ := mem_countedFrom member
  cases stands.symm.trans standsThere
  have sameWords := (words_trim line).trans isString
  cases further with
  | nil =>
      rw [Session.runLine_of_no_value sameWords] at ran
      cases ran
  | cons word further =>
      obtain ⟨current, reachable, rfl, -⟩ := (Session.runLine_string_eq_ok sameWords).mp ran
      have inside : 2 < (words line).length := by simp [isString]
      refine ⟨restAfter line 2, current, isExcerpt_restAfter inside, reachable, ?_, rfl⟩
      rw [restAfter_trim, Builder.emissions_afterCode]
      rfl

def greetingHeader : String :=
  "routine static demo/Text greet ()Ljava/lang/String;"

/-- A line with blanks of several kinds around and within the value of its constant. -/
def greetingLine : String :=
  "\tconst  string \u2003hello,\u00a0 world \x0b"

def greetingSource : String :=
  greetingHeader ++ "\n" ++ greetingLine ++ "\nreturn\n"

theorem cutting_agrees_with_words_when_spaced :
    (Text.lines greetingSource.toList)[1]? = some greetingLine.toList ∧
      ∃ session next, AcceptsLine Standard.graph greetingSource 2 session next ∧
        next.builder.emissions = session.builder.emissions ++
          [.instruction (.loadConstant (.string "hello,\u00a0 world"))] := by
  have stands : (Text.lines greetingSource.toList)[1]? = some greetingLine.toList := by
    decide +kernel
  have isString : words greetingLine.toList =
      ["const".toList, "string".toList, "hello,".toList, "world".toList] := by decide +kernel
  have counted : countedLines greetingSource = (1, greetingHeader.toList) ::
      ([] ++ (2, trim greetingLine.toList) :: [(3, "return".toList)]) := by decide +kernel
  have begins : ((Session.begin greetingHeader.toList).run Standard.graph).1.toOption.map
      (fun begun => begun.builder.current.isSome) = some true := by decide +kernel
  rcases started : (Session.begin greetingHeader.toList).run Standard.graph with
    ⟨fault | begun, between⟩
  · rw [started] at begins
    cases begins
  · rw [started] at begins
    obtain ⟨current, reachable⟩ := Option.isSome_iff_exists.mp (Option.some.inj begins)
    have accepted : AcceptsLine Standard.graph greetingSource 2 begun _ :=
      ⟨_, [], _, _, begun, between, between, between, counted, started, .done,
        (Session.runLine_string_eq_ok ((words_trim _).trans isString)).mpr
          ⟨current, reachable, rfl, rfl⟩⟩
    obtain ⟨literal, -, isExcerpt, -, emitted, -⟩ := cutting_agrees_with_words.2 Standard.graph
      greetingSource 2 greetingLine.toList _ begun _ accepted stands isString
    have value : String.ofList (restAfter greetingLine.toList 2) = "hello,\u00a0 world" := by
      decide +kernel
    rw [isExcerpt.eq_restAfter, value] at emitted
    exact ⟨stands, begun, _, accepted, emitted⟩

end Script

end TypedBytecode

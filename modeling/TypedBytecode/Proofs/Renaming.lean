import TypedBytecode.Proofs.Words
import TypedBytecode.Script
import Mathlib.Logic.Equiv.Basic

/-!
Contract: scripts do not depend on how their labels are named.

Owns:
- `Script.LabelRenaming`, and the text of a script with its labels renamed in place;
- the words of a renamed line, and the statement they are read as;
- sessions with renamed labels, which take every statement to the same effect;
- the theorem on whole scripts: the outcome and the class graph stay the same.

Does not own: renaming anything but labels.
-/

namespace TypedBytecode.Script

open Text

/-! ## Renaming in a text -/

/-- Which arguments of an operation name labels. -/
def labelArguments : String → List Bool
  | "label" => [true]
  | "label_from_entry" => [true]
  | "label_from" => [true, true]
  | "goto" => [true, true]
  | "if_zero" => [false, true, true]
  | "if_icmp" => [false, true, true]
  | "if_acmp" => [false, true, true]
  | "if_null" => [false, true, true]
  | _ => []

/-- Rename the marked ones among the first words of a text. Blanks stay as they are. -/
def renameWords (rename : String → String) : List Bool → List Char → List Char
  | [], text => text
  | marked :: further, text =>
    if trimStart text = [] then text
    else
      let word := firstWord text
      text.takeWhile isBlank ++
        ((if marked then (rename (String.ofList word)).toList else word) ++
          renameWords rename further (afterFirstWord text))

/-- Rename the marked ones among the first words of a list. -/
def renameMarked {α : Type} (rename : α → α) : List Bool → List α → List α
  | [], words => words
  | _ :: _, [] => []
  | marked :: further, word :: words =>
    (if marked then rename word else word) :: renameMarked rename further words

/-- A renaming of labels. Labels are named by words and different labels keep different names. A
dash, which stands for the entry of the routine where a jump names its source, keeps its name. -/
structure LabelRenaming where
  rename : String → String
  word : ∀ name, IsWord name.toList → IsWord (rename name).toList
  injective : ∀ first second, IsWord first.toList → IsWord second.toList →
    rename first = rename second → first = second
  dash : rename "-" = "-"

namespace LabelRenaming

variable (names : LabelRenaming)

/-- A line with its labels renamed. The first word of a line is its operation. -/
def line (text : List Char) : List Char :=
  renameWords names.rename (false :: labelArguments (String.ofList (firstWord text))) text

/-- The lines of a script with their labels renamed. The first line that counts is the header of
the routine, and has no labels. -/
def lines : List (List Char) → List (List Char)
  | [] => []
  | text :: further =>
    if counts (trim text) then text :: further.map names.line else text :: lines further

/-- The text of a script with its labels renamed. -/
def source (text : String) : String :=
  String.ofList (joinLines (names.lines (Text.lines text.toList)))

end LabelRenaming

/-! ## Words of a renamed text -/

section Words

variable {rename : String → String} {text : List Char}

theorem separated_renameWords (marks : List Bool) (separated : Separated text) :
    Separated (renameWords rename marks text) := by
  cases marks with
  | nil => exact separated
  | cons marked further =>
      rw [renameWords]
      split
      · exact separated
      · rename_i some
        cases text with
        | nil => exact absurd rfl some
        | cons c rest =>
            have blank : isBlank c = true := separated c rfl
            simp [blank, Separated]

theorem isWord_renamed (word : ∀ name, IsWord name.toList → IsWord (rename name).toList)
    (marked : Bool) (isWord : IsWord text) :
    IsWord (if marked then (rename (String.ofList text)).toList else text) := by
  cases marked with
  | true => exact word (String.ofList text) (by simpa using isWord)
  | false => exact isWord

/-- Renaming words in a text renames them among its words. -/
theorem words_renameWords (word : ∀ name, IsWord name.toList → IsWord (rename name).toList)
    (marks : List Bool) (text : List Char) :
    words (renameWords rename marks text) =
      renameMarked (fun word => (rename (String.ofList word)).toList) marks (words text) := by
  induction marks generalizing text with
  | nil => rfl
  | cons marked further inductionHypothesis =>
      by_cases none : trimStart text = []
      · rw [renameWords, if_pos none, words_eq_nil none]
        rfl
      · have renamedWord := isWord_renamed word marked (isWord_firstWord none)
        -- What follows still begins with a blank, so the new word ends where the old one did.
        have separated : Separated (renameWords rename further (afterFirstWord text)) :=
          separated_renameWords further (separated_afterFirstWord text)
        have blanks : ∀ c ∈ text.takeWhile isBlank, isBlank c = true :=
          fun c => List.mem_takeWhile_imp
        rw [renameWords, if_neg none, words_append_of_blank blanks,
          renamedWord.words_append separated, inductionHypothesis, words_eq_cons none]
        rfl

/-- Renaming words puts no blanks into a text. -/
theorem mem_renameWords (word : ∀ name, IsWord name.toList → IsWord (rename name).toList)
    (marks : List Bool) (text : List Char) {c : Char} (member : c ∈ renameWords rename marks text) :
    c ∈ text ∨ isBlank c = false := by
  induction marks generalizing text with
  | nil => exact .inl member
  | cons marked further inductionHypothesis =>
      rw [renameWords] at member
      split at member
      · exact .inl member
      · rename_i none
        have parts := text_eq_firstWord text
        rcases List.mem_append.mp member with inBlanks | behind
        · rw [parts]
          exact .inl (List.mem_append_left _ inBlanks)
        · rcases List.mem_append.mp behind with inWord | later
          · have renamedWord := isWord_renamed word marked (isWord_firstWord none)
            exact .inr (renamedWord.2 c inWord)
          · rcases inductionHypothesis (afterFirstWord text) later with inRest | notBlank
            · rw [parts]
              exact .inl (List.mem_append_right _ (List.mem_append_right _ inRest))
            · exact .inr notBlank

end Words

theorem firstWord_of_words {text : List Char} {operation : String} {arguments : List String}
    (read : (words text).map String.ofList = operation :: arguments) :
    String.ofList (firstWord text) = operation := by
  by_cases none : trimStart text = []
  · rw [words_eq_nil none] at read
    cases read
  · rw [words_eq_cons none] at read
    exact (List.cons.inj read).1

section Marked

variable {α : Type} {rename other : α → α}

theorem renameMarked_congr (marks : List Bool) {words : List α}
    (same : ∀ word ∈ words, rename word = other word) :
    renameMarked rename marks words = renameMarked other marks words := by
  induction marks generalizing words with
  | nil => rfl
  | cons marked further inductionHypothesis =>
      cases words with
      | nil => rfl
      | cons word words =>
          rw [renameMarked, renameMarked, same word List.mem_cons_self,
            inductionHypothesis fun later member => same later (List.mem_cons_of_mem word member)]

theorem headD_renameMarked (marks : List Bool) (words : List α) (default : α) :
    (renameMarked rename (false :: marks) words).headD default = words.headD default := by
  cases words <;> rfl

theorem ofList_renameMarked (rename : String → String) (marks : List Bool)
    (words : List (List Char)) :
    (renameMarked (fun word => (rename (String.ofList word)).toList) marks words).map
        String.ofList =
      renameMarked rename marks (words.map String.ofList) := by
  induction marks generalizing words with
  | nil => rfl
  | cons marked further inductionHypothesis =>
      cases words with
      | nil => rfl
      | cons word words =>
          cases marked with
          | true => simp [renameMarked, inductionHypothesis]
          | false => simp [renameMarked, inductionHypothesis]

end Marked

namespace LabelRenaming

variable (names : LabelRenaming)

/-- The renaming, with every text that is no word left as it is. -/
def total (name : String) : String :=
  if IsWord name.toList then names.rename name else name

theorem total_of_word {name : String} (isWord : IsWord name.toList) :
    names.total name = names.rename name := by
  rw [total, if_pos isWord]

theorem total_injective : Function.Injective names.total := by
  intro first second same
  rw [total, total] at same
  by_cases firstWord : IsWord first.toList <;> by_cases secondWord : IsWord second.toList
  · rw [if_pos firstWord, if_pos secondWord] at same
    exact names.injective first second firstWord secondWord same
  · rw [if_pos firstWord, if_neg secondWord] at same
    exact absurd (same ▸ names.word first firstWord) secondWord
  · rw [if_neg firstWord, if_pos secondWord] at same
    exact absurd (same ▸ names.word second secondWord) firstWord
  · rwa [if_neg firstWord, if_neg secondWord] at same

theorem total_dash : names.total "-" = "-" := by
  rw [names.total_of_word (by decide), names.dash]

/-- The words of a renamed line: the operation stays, and of the arguments those that name labels
are renamed. -/
theorem words_line {text : List Char} {operation : String} {arguments : List String}
    (read : (words text).map String.ofList = operation :: arguments) :
    (words (names.line text)).map String.ofList =
      operation :: renameMarked names.total (labelArguments operation) arguments := by
  have isWord : ∀ word ∈ arguments, IsWord word.toList := by
    intro word member
    have inLine := List.mem_cons_of_mem operation member
    rw [← read] at inLine
    obtain ⟨characters, inText, rfl⟩ := List.mem_map.mp inLine
    simpa using isWord_of_mem_words inText
  have renamed : renameMarked names.rename (labelArguments operation) arguments =
      renameMarked names.total (labelArguments operation) arguments := by
    apply renameMarked_congr
    intro word member
    exact (names.total_of_word (isWord word member)).symm
  rw [line, words_renameWords names.word, firstWord_of_words read, ofList_renameMarked, read,
    ← renamed]
  rfl

theorem words_line_of_nil {text : List Char} (blank : words text = []) :
    words (names.line text) = [] := by
  rw [line, words_renameWords names.word, blank]
  rfl

/-- A line whose operation takes no labels stays as it is. -/
theorem line_of_plain {text : List Char}
    (plain : labelArguments (String.ofList (firstWord text)) = []) : names.line text = text := by
  rw [line, plain, renameWords]
  split
  · rfl
  · exact (text_eq_firstWord text).symm

theorem counts_line (text : List Char) : counts (trim (names.line text)) = counts (trim text) := by
  have first : (trim (names.line text)).head? = (trim text).head? := by
    rw [head?_trim, head?_trim, line, words_renameWords names.word, headD_renameMarked]
  -- Whether a line counts is seen from its first character.
  generalize trim (names.line text) = renamed at first ⊢
  generalize trim text = plain at first ⊢
  cases renamed <;> cases plain <;> simp_all [counts]

end LabelRenaming

/-! ## Statements -/

/-- A statement with its labels renamed. -/
def Statement.rename (rename : String → String) : Statement → Statement
  | .jump branch source target => .jump branch (source.map rename) (rename target)
  | .label name => .label (rename name)
  | .labelFromEntry name => .labelFromEntry (rename name)
  | .labelFrom source name => .labelFrom (rename source) (rename name)
  | statement => statement

section Statements

variable {rename : String → String}

theorem sourceLabel_rename (injective : Function.Injective rename) (dash : rename "-" = "-")
    (word : String) : sourceLabel (rename word) = (sourceLabel word).map rename := by
  rw [sourceLabel, sourceLabel]
  by_cases entry : word = "-"
  · rw [entry, dash]
    rfl
  · have named : rename word ≠ "-" := by
      intro same
      exact entry (injective (same.trans dash.symm))
    rw [if_neg entry, if_neg named]
    rfl

/-- What is read has no labels to be renamed. -/
def Unlabelled (rename : String → String) (reading : Except SyntaxFault Statement) : Prop :=
  reading.map (Statement.rename rename) = reading

namespace Unlabelled

variable {operation : String} {arguments : List String}

theorem bind {α : Type} (value : Except SyntaxFault α) {next : α → Except SyntaxFault Statement}
    (unlabelled : ∀ value, Unlabelled rename (next value)) :
    Unlabelled rename (value >>= next) := by
  cases value with
  | error fault => rfl
  | ok value => exact unlabelled value

theorem noArguments {result : Statement} (unlabelled : Unlabelled rename (.ok result)) :
    Unlabelled rename (noArguments operation arguments result) := by
  cases arguments with
  | nil => exact unlabelled
  | cons first further => rfl

theorem oneArgument {result : String → Except SyntaxFault Statement}
    (unlabelled : ∀ word, Unlabelled rename (result word)) :
    Unlabelled rename (oneArgument operation arguments result) := by
  rcases arguments with _ | ⟨first, _ | ⟨second, further⟩⟩
  · rfl
  · exact unlabelled first
  · rfl

theorem twoArguments {result : String → String → Except SyntaxFault Statement}
    (unlabelled : ∀ first second, Unlabelled rename (result first second)) :
    Unlabelled rename (twoArguments operation arguments result) := by
  rcases arguments with _ | ⟨first, _ | ⟨second, _ | ⟨third, further⟩⟩⟩
  · rfl
  · rfl
  · exact unlabelled first second
  · rfl

theorem constant (kind word : String) : Unlabelled rename (constant kind word) := by
  unfold Script.constant
  dsimp only
  split
  all_goals first
    | rfl
    | exact bind _ fun _ => rfl

end Unlabelled

/-- Other operations than the eight that take labels are read as statements without labels. -/
theorem unlabelled_ofWords {operation : String} (plain : labelArguments operation = [])
    (text : List Char) (arguments : List String) :
    Unlabelled rename (Statement.ofWords text operation arguments) := by
  unfold Statement.ofWords
  split
  · exact .noArguments rfl
  · split
    · -- `field`
      split
      · exact .bind _ fun _ => rfl
      · rfl
    · -- `const`
      split
      · split
        · rfl
        · split
          · exact .constant _ _
          · rfl
      · rfl
    · -- `default`
      exact .oneArgument fun _ => rfl
    · -- `convert`
      apply Unlabelled.oneArgument
      intro keyword
      split <;> rfl
    · -- `load_param`
      exact .oneArgument fun _ => .bind _ fun _ => rfl
    · -- `load`
      exact .oneArgument fun _ => .bind _ fun _ => rfl
    · -- `store`
      split
      · rfl
      · exact .bind _ fun _ => rfl
      · rfl
    · -- `inc`
      exact .twoArguments fun _ _ => .bind _ fun _ => .bind _ fun _ => rfl
    -- The operations that take labels.
    iterate 8 exact absurd plain (by decide)
    · -- `get_field`
      exact .oneArgument fun _ => rfl
    · -- `put_field`
      exact .oneArgument fun _ => rfl
    · -- `new_array`
      exact .oneArgument fun _ => rfl
    · -- `new`
      exact .oneArgument fun _ => rfl
    · -- `cast`
      exact .oneArgument fun _ => rfl
    · -- `cast_unchecked`
      exact .oneArgument fun _ => rfl
    · -- `instance_of`
      exact .oneArgument fun _ => rfl
    · -- `invoke`
      split
      · exact .bind _ fun _ => rfl
      · rfl
    · -- `lambda`
      split <;> rfl
    · -- `lambda_field`
      exact .twoArguments fun _ _ => rfl
    · rfl

section Labelled

variable {operation : String} (arguments : List String)

theorem oneArgument_rename {result : String → Except SyntaxFault Statement}
    (renamed : ∀ word, result (rename word) = (result word).map (Statement.rename rename)) :
    oneArgument operation (renameMarked rename [true] arguments) result =
      (oneArgument operation arguments result).map (Statement.rename rename) := by
  rcases arguments with _ | ⟨first, _ | ⟨second, further⟩⟩
  · rfl
  · exact renamed first
  · rfl

theorem twoArguments_rename {result : String → String → Except SyntaxFault Statement}
    (renamed : ∀ first second, result (rename first) (rename second) =
      (result first second).map (Statement.rename rename)) :
    twoArguments operation (renameMarked rename [true, true] arguments) result =
      (twoArguments operation arguments result).map (Statement.rename rename) := by
  rcases arguments with _ | ⟨first, _ | ⟨second, _ | ⟨third, further⟩⟩⟩
  · rfl
  · rfl
  · exact renamed first second
  · rfl

theorem conditional_rename {α : Type} (injective : Function.Injective rename)
    (dash : rename "-" = "-") (ofMnemonic? : String → Option α) (branch : α → Branch) :
    conditional operation (renameMarked rename [false, true, true] arguments) ofMnemonic? branch =
      (conditional operation arguments ofMnemonic? branch).map (Statement.rename rename) := by
  rcases arguments with _ | ⟨mnemonic, _ | ⟨source, _ | ⟨target, _ | ⟨fourth, further⟩⟩⟩⟩
  · rfl
  · rfl
  · rfl
  · show conditional operation [mnemonic, rename source, rename target] ofMnemonic? branch = _
    rw [conditional, conditional]
    cases ofMnemonic? mnemonic with
    | none => rfl
    | some comparison =>
        dsimp only
        rw [sourceLabel_rename injective dash]
        rfl
  · rfl

end Labelled

/-- The statement of renamed arguments is the statement with its labels renamed. The text of the
line plays no part in operations that take labels. -/
theorem ofWords_rename (injective : Function.Injective rename) (dash : rename "-" = "-")
    {operation : String} (labelled : labelArguments operation ≠ []) (text renamedText : List Char)
    (arguments : List String) :
    Statement.ofWords renamedText operation
        (renameMarked rename (labelArguments operation) arguments) =
      (Statement.ofWords text operation arguments).map (Statement.rename rename) := by
  revert labelled
  fun_cases labelArguments operation with
  | case1 => exact fun _ => oneArgument_rename arguments fun _ => rfl
  | case2 => exact fun _ => oneArgument_rename arguments fun _ => rfl
  | case3 => exact fun _ => twoArguments_rename arguments fun _ _ => rfl
  | case4 =>
      intro _
      apply twoArguments_rename arguments
      intro source target
      rw [sourceLabel_rename injective dash]
      rfl
  | case5 => exact fun _ => conditional_rename arguments injective dash _ _
  | case6 => exact fun _ => conditional_rename arguments injective dash _ _
  | case7 => exact fun _ => conditional_rename arguments injective dash _ _
  | case8 => exact fun _ => conditional_rename arguments injective dash _ _
  | case9 => exact fun labelled => absurd rfl labelled

end Statements

/-- A renamed line is read as the statement with its labels renamed. -/
theorem LabelRenaming.ofWords_line (names : LabelRenaming) {text : List Char} {operation : String}
    {arguments : List String} (read : (words text).map String.ofList = operation :: arguments) :
    Statement.ofWords (trim (names.line text)) operation
        (renameMarked names.total (labelArguments operation) arguments) =
      (Statement.ofWords (trim text) operation arguments).map (Statement.rename names.total) := by
  by_cases plain : labelArguments operation = []
  · have unchanged : names.line text = text := by
      apply names.line_of_plain
      rw [firstWord_of_words read, plain]
    rw [unchanged, plain]
    exact (unlabelled_ofWords plain _ _).symm
  · exact ofWords_rename names.total_injective names.total_dash plain _ _ _

/-! ## Lines that count -/

/-- Trimmed lines that count, numbered from a first number on. -/
def countedFrom : Nat → List (List Char) → List (Nat × List Char)
  | _, [] => []
  | number, text :: further =>
    if counts (trim text) then (number, trim text) :: countedFrom (number + 1) further
    else countedFrom (number + 1) further

theorem countedLines_eq (source : String) :
    countedLines source = countedFrom 1 (lines source.toList) := by
  unfold countedLines
  generalize lines source.toList = texts
  generalize 1 = number
  induction texts generalizing number with
  | nil => rfl
  | cons text further inductionHypothesis =>
      rw [List.zipIdx_cons, List.filterMap_cons, countedFrom, ← inductionHypothesis]
      by_cases counted : counts (trim text) = true
      · simp only [counted, ↓reduceIte]
      · simp only [counted, Bool.false_eq_true, ↓reduceIte]

namespace LabelRenaming

variable (names : LabelRenaming)

theorem not_mem_line {text : List Char} (whole : '\n' ∉ text) : '\n' ∉ names.line text := by
  intro member
  rcases mem_renameWords names.word _ text member with inText | notBlank
  · exact whole inText
  · exact absurd notBlank (by decide)

theorem lines_ne_nil {texts : List (List Char)} (some : texts ≠ []) : names.lines texts ≠ [] := by
  cases texts with
  | nil => exact some
  | cons text further =>
      rw [lines]
      split <;> simp

theorem not_mem_lines {texts : List (List Char)} (whole : ∀ text ∈ texts, '\n' ∉ text) :
    ∀ text ∈ names.lines texts, '\n' ∉ text := by
  induction texts with
  | nil => simp [lines]
  | cons first further inductionHypothesis =>
      have wholeFirst := whole first List.mem_cons_self
      have wholeFurther : ∀ text ∈ further, '\n' ∉ text :=
        fun text member => whole text (List.mem_cons_of_mem first member)
      intro text member
      rw [lines] at member
      split at member
      · rcases List.mem_cons.mp member with rfl | later
        · exact wholeFirst
        · obtain ⟨plain, inFurther, rfl⟩ := List.mem_map.mp later
          exact names.not_mem_line (wholeFurther plain inFurther)
      · rcases List.mem_cons.mp member with rfl | later
        · exact wholeFirst
        · exact inductionHypothesis wholeFurther text later

/-- The text of a renamed script is cut into the renamed lines. -/
theorem lines_source (text : String) :
    Text.lines (names.source text).toList = names.lines (Text.lines text.toList) := by
  rw [source, String.toList_ofList]
  apply lines_joinLines
  · exact names.lines_ne_nil (Text.lines_ne_nil text.toList)
  · exact names.not_mem_lines fun line => not_mem_of_mem_lines

/-- The header of a renamed script is the header of the script, and the lines behind it are
renamed. -/
theorem countedFrom_lines (number : Nat) (texts : List (List Char)) :
    (countedFrom number texts = [] ∧ countedFrom number (names.lines texts) = []) ∨
      ∃ header later further,
        countedFrom number texts = header :: countedFrom later further ∧
        countedFrom number (names.lines texts) =
          header :: countedFrom later (further.map names.line) := by
  induction texts generalizing number with
  | nil => exact .inl ⟨rfl, rfl⟩
  | cons text further inductionHypothesis =>
      by_cases counted : counts (trim text) = true
      · refine .inr ⟨(number, trim text), number + 1, further, ?_, ?_⟩
        · rw [countedFrom, if_pos counted]
        · rw [lines, if_pos counted, countedFrom, if_pos counted]
      · rw [lines, if_neg counted, countedFrom, countedFrom, if_neg counted, if_neg counted]
        exact inductionHypothesis (number + 1)

end LabelRenaming

theorem Resolving.run_map {α β : Type} (view : α → β) (resolving : Resolving α)
    (graph : ClassGraph) :
    (view <$> resolving).run graph =
      ((resolving.run graph).1.map view, (resolving.run graph).2) := by
  rw [ExceptT.run_map]
  rfl

end TypedBytecode.Script

/-! ## Sessions -/

namespace TypedBytecode.Session

open Script

/-- A session with the names of its labels changed. -/
def rename (rename : String → String) (session : Session) : Session :=
  { session with labels := session.labels.map (Prod.map rename id) }

section Renamed

variable {rename : String → String}

theorem lookup_rename (injective : Function.Injective rename) (labels : List (String × Label))
    (name : String) :
    (labels.map (Prod.map rename id)).lookup (rename name) = labels.lookup name := by
  induction labels with
  | nil => rfl
  | cons entry labels inductionHypothesis =>
      obtain ⟨known, label⟩ := entry
      have same : (rename name == rename known) = (name == known) := by
        simp [injective.eq_iff]
      rw [List.map_cons, Prod.map_apply, List.lookup_cons, List.lookup_cons, same,
        inductionHypothesis]
      rfl

/-- The label of a new name is the label of the old one, given out at the same moment. -/
theorem label_rename (injective : Function.Injective rename) (session : Session) (name : String) :
    (session.rename rename).label (rename name) =
      ((session.label name).1, (session.label name).2.rename rename) := by
  have found : (session.rename rename).labels.lookup (rename name) = session.labels.lookup name :=
    lookup_rename injective session.labels name
  rw [label, label, found]
  cases session.labels.lookup name with
  | none => rfl
  | some known => rfl

theorem label?_rename (injective : Function.Injective rename) (session : Session)
    (name : Option String) :
    (session.rename rename).label? (name.map rename) =
      ((session.label? name).1, (session.label? name).2.rename rename) := by
  cases name with
  | none => rfl
  | some name =>
      rw [Option.map_some, label?, label?, label_rename injective]

theorem call_rename (session : Session) (request : Call) :
    (session.rename rename).call request = Session.rename rename <$> session.call request := by
  simp only [call, map_bind, map_pure]
  rfl

/-- Every statement has the same effect on a session with renamed labels, if its own labels are
renamed as well. -/
theorem run_rename (injective : Function.Injective rename) (session : Session)
    (statement : Statement) :
    (session.rename rename).run (statement.rename rename) =
      Session.rename rename <$> session.run statement := by
  have operates : ∀ operation, (session.rename rename).operate operation =
      Session.rename rename <$> session.operate operation :=
    fun operation => call_rename session (.operation operation)
  cases statement with
  | field isStatic name descriptor =>
      simp only [Statement.rename, run, map_bind, map_pure]
      rfl
  | operation operation => exact operates operation
  | null descriptor => simp only [Statement.rename, run, map_bind, operates]
  | default descriptor => simp only [Statement.rename, run, map_bind, operates]
  | newArray descriptor => simp only [Statement.rename, run, map_bind, operates]
  | newObject name => simp only [Statement.rename, run, map_bind, operates]
  | cast descriptor unchecked => simp only [Statement.rename, run, map_bind, operates]
  | instanceOf descriptor => simp only [Statement.rename, run, map_bind, operates]
  | invoke kind words =>
      simp only [Statement.rename, run, map_bind, operates]
      congr 1
      funext method
      split <;> rfl
  | lambda interfaceWord kindWord words =>
      simp only [Statement.rename, run, map_bind, operates]
  | lambdaField interfaceWord name =>
      simp only [Statement.rename, run, map_bind, operates]
      rfl
  | jump branch sourceName targetName =>
      simp only [Statement.rename, run, label?_rename injective, label_rename injective,
        call_rename]
  | label name => simp only [Statement.rename, run, label_rename injective, call_rename]
  | labelFromEntry name => simp only [Statement.rename, run, label_rename injective, call_rename]
  | labelFrom sourceName name =>
      simp only [Statement.rename, run, label_rename injective, call_rename]

theorem begin_rename (text : List Char) : Session.rename rename <$> begin text = begin text := by
  simp only [begin, map_bind, map_pure]
  rfl

end Renamed

/-- No label is named yet when a session begins. -/
theorem rename_of_begin (rename : String → String) {text : List Char} {graph extended : ClassGraph}
    {session : Session} (begun : (begin text).run graph = (.ok session, extended)) :
    session.rename rename = session := by
  have renamed := Resolving.run_map (Session.rename rename) (begin text) graph
  rw [begin_rename, begun] at renamed
  exact (Except.ok.inj (Prod.mk.inj renamed).1).symm

/-! ## Lines -/

section Lines

variable (names : LabelRenaming)

/-- A line with renamed labels has the effect of the line, on a session with renamed labels. -/
theorem runLine_rename (session : Session) (text : List Char) :
    (session.rename names.total).runLine (Text.trim (names.line text)) =
      Session.rename names.total <$> session.runLine (Text.trim text) := by
  rw [runLine, runLine, Text.words_trim, Text.words_trim]
  rcases read : (Text.words text).map String.ofList with _ | ⟨operation, arguments⟩
  · have blank := names.words_line_of_nil (List.map_eq_nil_iff.mp read)
    rw [blank]
    rfl
  · rw [names.words_line read]
    dsimp only
    rw [names.ofWords_line read]
    cases Statement.ofWords (Text.trim text) operation arguments with
    | error fault => rfl
    | ok statement => exact run_rename names.total_injective session statement

theorem runLines_rename (session : Session) (graph : ClassGraph) (lastLine number : Nat)
    (texts : List (List Char)) :
    (session.rename names.total).runLines graph lastLine
        (countedFrom number (texts.map names.line)) =
      session.runLines graph lastLine (countedFrom number texts) := by
  -- The induction is on all lines and not on those that count, since it is all lines that are
  -- renamed; what carries it is that the two sessions differ in the names of their labels only.
  induction texts generalizing session graph lastLine number with
  | nil => rfl
  | cons text further inductionHypothesis =>
      rw [List.map_cons, countedFrom, countedFrom, names.counts_line]
      split
      · have stepped : ((session.rename names.total).runLine (Text.trim (names.line text))).run
            graph =
            (((session.runLine (Text.trim text)).run graph).1.map (Session.rename names.total),
              ((session.runLine (Text.trim text)).run graph).2) := by
          rw [runLine_rename, Resolving.run_map]
        rw [runLines, runLines, stepped]
        rcases (session.runLine (Text.trim text)).run graph with ⟨fault | next, extended⟩
        · rfl
        · exact inductionHypothesis next extended number (number + 1)
      · exact inductionHypothesis session graph lastLine (number + 1)

end Lines

end TypedBytecode.Session

namespace TypedBytecode.Script

open Text

/-- Label names do not matter: whatever class graph a script is assembled in, and however its
labels are renamed, it comes to the same listing or is refused on the same line for the same cause,
and leaves the same class graph. -/
theorem assemble_renamed (names : LabelRenaming) (graph : ClassGraph) (source : String) :
    assemble graph (names.source source) = assemble graph source := by
  rw [assemble, assemble, countedLines_eq, countedLines_eq, names.lines_source]
  rcases names.countedFrom_lines 1 (Text.lines source.toList) with
    ⟨none, renamedNone⟩ | ⟨header, later, further, counted, renamed⟩
  · rw [none, renamedNone]
  · rw [counted, renamed]
    dsimp only
    rcases begun : (Session.begin header.2).run graph with ⟨fault | session, extended⟩
    · rfl
    · have unnamed := Session.rename_of_begin names.total begun
      have ran := Session.runLines_rename names session extended header.1 later further
      rw [unnamed] at ran
      exact ran

/-- The renaming that exchanges two names. -/
def LabelRenaming.exchange (first second : String) (firstWord : IsWord first.toList)
    (secondWord : IsWord second.toList) (firstNamed : "-" ≠ first) (secondNamed : "-" ≠ second) :
    LabelRenaming where
  rename := Equiv.swap first second
  word := by
    intro name isWord
    rw [Equiv.swap_apply_def]
    split
    · exact secondWord
    · split
      · exact firstWord
      · exact isWord
  injective := fun _ _ _ _ same => (Equiv.swap first second).injective same
  dash := Equiv.swap_apply_of_ne_of_ne firstNamed secondNamed

def exchanged : LabelRenaming :=
  .exchange "loop" "done" (by decide) (by decide) (by decide) (by decide)

/-- A script in which a constant reads like a jump. -/
def loopSource : String :=
  "routine static demo/A f ()V\nlabel_from_entry loop\nconst string goto - loop\n" ++
    "\tif_null  eq loop\tdone\ngoto - loop\nlabel done\nreturn\n"

theorem assemble_renamed_of_exchanged :
    exchanged.source loopSource =
        "routine static demo/A f ()V\nlabel_from_entry done\nconst string goto - loop\n" ++
          "\tif_null  eq done\tloop\ngoto - done\nlabel loop\nreturn\n" ∧
      (assemble Standard.graph loopSource).1.isOk = true ∧
      assemble Standard.graph (exchanged.source loopSource) =
        assemble Standard.graph loopSource :=
  ⟨by decide +kernel, by decide +kernel,
    assemble_renamed exchanged Standard.graph loopSource⟩

end TypedBytecode.Script

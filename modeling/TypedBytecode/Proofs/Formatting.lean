import Mathlib.Data.List.Forall2
import TypedBytecode.Proofs.Renaming

/-!
Contract: scripts do not depend on comments, blank lines and the blanks around a line.

Owns:
- idle lines, which are blank or comments, and lines that differ in the blanks around them;
- `Script.Reformatted`: a text with idle lines put in and left out and blanks changed, and where
  the lines that are kept have moved to;
- the lines that count of a reformatted script, which are the same at other places;
- the theorem on whole scripts: the same listing, or a refusal for the same cause where the refused
  line has moved to, and the same class graph.

Does not own: what a line means.
-/

namespace TypedBytecode

/-! ## Blanks around a text -/

namespace Text

def AllBlank (text : List Char) : Prop :=
  ∀ c ∈ text, isBlank c = true

instance (text : List Char) : Decidable (AllBlank text) :=
  decidable_of_iff (text.all isBlank = true) List.all_eq_true

section Blanks

variable {text blanks trailing : List Char}

theorem trimStart_append_of_blank (blank : AllBlank blanks) (text : List Char) :
    trimStart (blanks ++ text) = trimStart text := by
  rw [trimStart, trimStart, List.dropWhile_append_of_pos blank]

theorem trimStart_eq_nil : trimStart text = [] ↔ AllBlank text := by
  rw [trimStart, List.dropWhile_eq_nil_iff, AllBlank]

theorem trimEnd_append_of_blank (blank : AllBlank trailing) (text : List Char) :
    trimEnd (text ++ trailing) = trimEnd text := by
  have reversed : ∀ c ∈ trailing.reverse, isBlank c = true :=
    fun c member => blank c (List.mem_reverse.mp member)
  rw [trimEnd, trimEnd, List.reverse_append, List.dropWhile_append_of_pos reversed]

/-- Trimming takes away whatever blanks stand around a text. -/
theorem trim_of_blanks (leading : AllBlank blanks) (following : AllBlank trailing)
    (text : List Char) : trim (blanks ++ text ++ trailing) = trim text := by
  rw [List.append_assoc, trim, trimStart_append_of_blank leading, trim]
  by_cases none : trimStart text = []
  · have allBlank : AllBlank (text ++ trailing) := by
      intro c member
      rcases List.mem_append.mp member with inText | after
      · exact trimStart_eq_nil.mp none c inText
      · exact following c after
    rw [none, trimStart_eq_nil.mpr allBlank]
  · have kept : trimStart (text ++ trailing) = trimStart text ++ trailing := by
      rw [trimStart, List.dropWhile_append, if_neg (by simpa [trimStart] using none), trimStart]
    rw [kept, trimEnd_append_of_blank following]

/-- A trimmed text begins with the first character that is not blank. -/
theorem head?_trim_eq (text : List Char) : (trim text).head? = (trimStart text).head? := by
  rw [head?_trim]
  by_cases none : trimStart text = []
  · rw [words_eq_nil none, none]
    rfl
  · obtain ⟨c, rest, begins, notBlank⟩ := trimStart_eq_cons none
    rw [words_eq_cons none, firstWord, begins, List.takeWhile_cons_of_pos (by simp [notBlank])]
    rfl

end Blanks

end Text

namespace Script

open Text

/-! ## Idle lines -/

/-- A line that is blank, or a comment behind blanks. -/
def IsIdle (text : List Char) : Prop :=
  AllBlank text ∨ ∃ blanks rest, text = blanks ++ '#' :: rest ∧ AllBlank blanks

/-- The same text between other blanks. -/
def Respaced (text edited : List Char) : Prop :=
  ∃ core leading trailing newLeading newTrailing, text = leading ++ core ++ trailing ∧
    edited = newLeading ++ core ++ newTrailing ∧ AllBlank leading ∧ AllBlank trailing ∧
    AllBlank newLeading ∧ AllBlank newTrailing

section Lines

variable {text edited : List Char}

theorem counts_eq (text : List Char) : counts text = text.head?.any (· != '#') := by
  cases text <;> rfl

/-- The lines that do not count are the idle ones. -/
theorem counts_trim : counts (trim text) = false ↔ IsIdle text := by
  rw [counts_eq, head?_trim_eq]
  constructor
  · intro uncounted
    rcases begins : trimStart text with _ | ⟨first, rest⟩
    · exact .inl (trimStart_eq_nil.mp begins)
    · rw [begins] at uncounted
      have comment : first = '#' := by simpa using uncounted
      refine .inr ⟨text.takeWhile isBlank, rest, ?_, fun c => List.mem_takeWhile_imp⟩
      rw [← comment, ← begins, trimStart, List.takeWhile_append_dropWhile]
  · intro idle
    rcases idle with blank | ⟨blanks, rest, rfl, blank⟩
    · rw [trimStart_eq_nil.mpr blank]
      rfl
    · rw [trimStart_append_of_blank blank, trimStart, List.dropWhile_cons_of_neg (by decide)]
      rfl

theorem counts_trim_eq_true : counts (trim text) = true ↔ ¬ IsIdle text := by
  rw [← counts_trim, Bool.not_eq_false]

theorem Respaced.trim_eq (respaced : Respaced text edited) : trim edited = trim text := by
  obtain ⟨core, leading, trailing, newLeading, newTrailing, rfl, rfl, before, after, newBefore,
    newAfter⟩ := respaced
  rw [trim_of_blanks newBefore newAfter, trim_of_blanks before after]

end Lines

/-! ## Reformatted scripts -/

/-- `Reformatted old new texts edited moves`: the lines `edited`, counted from `new` on, are the
lines `texts`, counted from `old` on, but for idle lines that are put in or left out and for the
blanks around the lines that are kept. Where these were and where they are now is listed in
`moves`. -/
inductive Reformatted :
    Nat → Nat → List (List Char) → List (List Char) → List (Nat × Nat) → Prop where
  | done {old new : Nat} : Reformatted old new [] [] []
  | keep {old new : Nat} {text edited : List Char} {texts editedTexts : List (List Char)}
      {moves : List (Nat × Nat)} (respaced : Respaced text edited)
      (further : Reformatted (old + 1) (new + 1) texts editedTexts moves) :
      Reformatted old new (text :: texts) (edited :: editedTexts) ((old, new) :: moves)
  | putIn {old new : Nat} {edited : List Char} {texts editedTexts : List (List Char)}
      {moves : List (Nat × Nat)} (idle : IsIdle edited)
      (further : Reformatted old (new + 1) texts editedTexts moves) :
      Reformatted old new texts (edited :: editedTexts) moves
  | leaveOut {old new : Nat} {text : List Char} {texts editedTexts : List (List Char)}
      {moves : List (Nat × Nat)} (idle : IsIdle text)
      (further : Reformatted (old + 1) new texts editedTexts moves) :
      Reformatted old new (text :: texts) editedTexts moves

/-- Two numbered lines that are one line, before and after it has moved. -/
def Moved (moves : List (Nat × Nat)) (line moved : Nat × List Char) : Prop :=
  line.2 = moved.2 ∧ (line.1, moved.1) ∈ moves

/-- The number of the last line that is not idle. -/
def IsLastLine (texts : List (List Char)) (number : Nat) : Prop :=
  ∃ front text back, texts = front ++ text :: back ∧ number = front.length + 1 ∧
    ¬ IsIdle text ∧ ∀ later ∈ back, IsIdle later

section Counted

variable {old new number : Nat} {text : List Char} {texts editedTexts : List (List Char)}
  {moves : List (Nat × Nat)}

theorem countedFrom_of_idle (idle : IsIdle text) :
    countedFrom number (text :: texts) = countedFrom (number + 1) texts := by
  rw [countedFrom, counts_trim.mpr idle]
  rfl

theorem countedFrom_of_counts (counted : ¬ IsIdle text) :
    countedFrom number (text :: texts) = (number, trim text) :: countedFrom (number + 1) texts := by
  rw [countedFrom, if_pos (counts_trim_eq_true.mpr counted)]

/-- The lines that count stay what they are, and each has moved to its new place. -/
theorem Reformatted.counted (reformatted : Reformatted old new texts editedTexts moves) :
    List.Forall₂ (Moved moves) (countedFrom old texts) (countedFrom new editedTexts) := by
  induction reformatted with
  | done => exact .nil
  | @keep old new text edited texts editedTexts moves respaced further inductionHypothesis =>
      have later : List.Forall₂ (Moved ((old, new) :: moves)) (countedFrom (old + 1) texts)
          (countedFrom (new + 1) editedTexts) := by
        refine List.Forall₂.imp ?_ inductionHypothesis
        intro line moved same
        exact ⟨same.1, List.mem_cons_of_mem _ same.2⟩
      rw [countedFrom, countedFrom, respaced.trim_eq]
      by_cases counted : counts (trim text) = true
      · rw [if_pos counted, if_pos counted]
        exact .cons ⟨rfl, List.mem_cons_self⟩ later
      · rw [if_neg counted, if_neg counted]
        exact later
  | putIn idle further inductionHypothesis =>
      rw [countedFrom_of_idle idle]
      exact inductionHypothesis
  | leaveOut idle further inductionHypothesis =>
      rw [countedFrom_of_idle idle]
      exact inductionHypothesis

theorem countedFrom_eq_nil : countedFrom number texts = [] ↔ ∀ text ∈ texts, IsIdle text := by
  induction texts generalizing number with
  | nil => simp [countedFrom]
  | cons text texts inductionHypothesis =>
      rw [List.forall_mem_cons]
      by_cases idle : IsIdle text
      · rw [countedFrom_of_idle idle, inductionHypothesis]
        exact ⟨fun rest => ⟨idle, rest⟩, fun all => all.2⟩
      · rw [countedFrom_of_counts idle]
        exact ⟨fun none => absurd none (List.cons_ne_nil _ _), fun all => absurd all.1 idle⟩

/-- The last of the lines that count is the last one that is not idle. -/
theorem last_of_countedFrom {last : Nat × List Char}
    (isLast : (countedFrom number texts).getLast? = some last) :
    ∃ front text back, texts = front ++ text :: back ∧ last.1 = number + front.length ∧
      ¬ IsIdle text ∧ ∀ later ∈ back, IsIdle later := by
  induction texts generalizing number with
  | nil => cases isLast
  | cons text texts inductionHypothesis =>
      by_cases later : countedFrom (number + 1) texts = []
      · have counted : ¬ IsIdle text := by
          intro idle
          rw [countedFrom_of_idle idle, later] at isLast
          cases isLast
        rw [countedFrom_of_counts counted, later] at isLast
        cases isLast
        exact ⟨[], text, texts, rfl, rfl, counted, countedFrom_eq_nil.mp later⟩
      · have isLastLater : (countedFrom (number + 1) texts).getLast? = some last := by
          by_cases idle : IsIdle text
          · rwa [countedFrom_of_idle idle] at isLast
          · rwa [countedFrom_of_counts idle, List.getLast?_cons_of_ne_nil later] at isLast
        obtain ⟨front, found, back, split, counted, rest⟩ := inductionHypothesis isLastLater
        refine ⟨text :: front, found, back, by rw [split, List.cons_append], ?_, rest⟩
        rw [counted, List.length_cons]
        omega

end Counted

end Script

/-! ## Runs -/

namespace Script

/-- The same listing, or a refusal for the same cause where the refused line has moved to. -/
inductive SameOutcome (moves : List (Nat × Nat)) :
    Except ScriptError Listing → Except ScriptError Listing → Prop where
  | assembled (listing : Listing) : SameOutcome moves (.ok listing) (.ok listing)
  | refused (fault : Fault) {line newLine : Nat} (moved : (line, newLine) ∈ moves) :
      SameOutcome moves (.error ⟨line, fault⟩) (.error ⟨newLine, fault⟩)

end Script

namespace Session

open Script

/-- `Passes session graph lines last extended`: no line is refused, and after all of them the
session is `last` and the class graph `extended`. -/
inductive Passes :
    Session → ClassGraph → List (Nat × List Char) → Session → ClassGraph → Prop where
  | done {session : Session} {graph : ClassGraph} : Passes session graph [] session graph
  | line {session next last : Session} {graph between extended : ClassGraph}
      {line : Nat × List Char} {further : List (Nat × List Char)}
      (ran : (session.runLine line.2).run graph = (.ok next, between))
      (rest : Passes next between further last extended) :
      Passes session graph (line :: further) last extended

section Runs

variable {session last : Session} {graph extended : ClassGraph}
  {lines newLines : List (Nat × List Char)} {lastLine newLastLine : Nat}
  {moves : List (Nat × Nat)}

theorem runLines_of_ok {next : Session} {line : Nat × List Char}
    (ran : (session.runLine line.2).run graph = (.ok next, extended)) :
    session.runLines graph lastLine (line :: lines) = next.runLines extended line.1 lines := by
  rw [runLines, ran]

theorem runLines_of_error {fault : Fault} {line : Nat × List Char}
    (ran : (session.runLine line.2).run graph = (.error fault, extended)) :
    session.runLines graph lastLine (line :: lines) = (.error ⟨line.1, fault⟩, extended) := by
  rw [runLines, ran]

/-- Lines that have only moved run to the same outcome. -/
theorem runLines_moved (moved : List.Forall₂ (Moved moves) lines newLines) (session : Session)
    (graph : ClassGraph) (lastMoved : (lastLine, newLastLine) ∈ moves) :
    (session.runLines graph lastLine lines).2 = (session.runLines graph newLastLine newLines).2 ∧
      SameOutcome moves (session.runLines graph lastLine lines).1
        (session.runLines graph newLastLine newLines).1 := by
  induction moved generalizing session graph lastLine newLastLine with
  | nil =>
      refine ⟨rfl, ?_⟩
      rw [runLines, runLines]
      cases session.builder.finish with
      | ok listing => exact .assembled listing
      | error error => exact .refused (.assembly error) lastMoved
  | @cons line newLine lines newLines same rest inductionHypothesis =>
      rcases ran : (session.runLine line.2).run graph with ⟨fault | next, extended⟩
      · rw [runLines_of_error ran, runLines_of_error (same.1 ▸ ran)]
        exact ⟨rfl, .refused fault same.2⟩
      · rw [runLines_of_ok ran, runLines_of_ok (same.1 ▸ ran)]
        exact inductionHypothesis next extended same.2

/-- Where no line is refused, the routine is finished on the last line. -/
theorem Passes.runLines_eq (passes : Passes session graph lines last extended)
    (lastLine : Nat) :
    session.runLines graph lastLine lines =
      (last.builder.finish.mapError
        (fun error => ⟨(lines.getLast?.map Prod.fst).getD lastLine, .assembly error⟩),
        extended) := by
  induction passes generalizing lastLine with
  | done => rfl
  | @line session next last graph between extended line further ran rest inductionHypothesis =>
      rw [runLines_of_ok ran, inductionHypothesis, List.getLast?_cons]
      cases further.getLast? <;> rfl

theorem Passes.moved (passes : Passes session graph lines last extended)
    (moved : List.Forall₂ (Moved moves) lines newLines) :
    Passes session graph newLines last extended := by
  induction passes generalizing newLines with
  | done =>
      cases moved
      exact .done
  | line ran rest inductionHypothesis =>
      cases moved with
      | cons same further => exact .line (same.1 ▸ ran) (inductionHypothesis further)

end Runs

end Session

/-! ## Whole scripts -/

namespace Script

/-- No line of the script is refused, and `last` and `extended` are what its lines leave to the
finishing of the routine. -/
def Passes (graph : ClassGraph) (source : String) (last : Session) (extended : ClassGraph) : Prop :=
  ∃ line further begun between, countedLines source = line :: further ∧
    (Session.begin line.2).run graph = (.ok begun, between) ∧
    begun.Passes between further last extended

section Scripts

variable {graph extended : ClassGraph} {source edited : String} {last : Session}
  {line : Nat × List Char} {further : List (Nat × List Char)} {moves : List (Nat × Nat)}

theorem assemble_of_begun {begun : Session} (counted : countedLines source = line :: further)
    (header : (Session.begin line.2).run graph = (.ok begun, extended)) :
    assemble graph source = begun.runLines extended line.1 further := by
  rw [assemble, counted]
  dsimp only
  rw [header]

theorem assemble_of_refused {fault : Fault} (counted : countedLines source = line :: further)
    (header : (Session.begin line.2).run graph = (.error fault, extended)) :
    assemble graph source = (.error ⟨line.1, fault⟩, extended) := by
  rw [assemble, counted]
  dsimp only
  rw [header]

theorem isLastLine_of_countedLines (counted : countedLines source = line :: further) :
    IsLastLine (Text.lines source.toList) ((further.getLast?.map Prod.fst).getD line.1) := by
  have isLast : (countedFrom 1 (Text.lines source.toList)).getLast? =
      some (further.getLast?.getD line) := by
    rw [← countedLines_eq, counted, List.getLast?_cons]
  obtain ⟨front, text, back, split, number, rest⟩ := last_of_countedFrom isLast
  refine ⟨front, text, back, split, ?_, rest⟩
  rw [Nat.add_comm, ← number]
  cases further.getLast? <;> rfl

/-- A script whose lines all pass is refused, if at all, on its last line. -/
theorem Passes.refused (passes : Passes graph source last extended) {error : Error}
    (unfinished : last.builder.finish = .error error) :
    ∃ number, IsLastLine (Text.lines source.toList) number ∧
      assemble graph source = (.error ⟨number, .assembly error⟩, extended) := by
  obtain ⟨line, further, begun, between, counted, header, rest⟩ := passes
  refine ⟨_, isLastLine_of_countedLines counted, ?_⟩
  rw [assemble_of_begun counted header, rest.runLines_eq, unfinished]
  rfl

theorem counted_moved
    (reformatted : Reformatted 1 1 (Text.lines source.toList) (Text.lines edited.toList) moves) :
    List.Forall₂ (Moved moves) (countedLines source) (countedLines edited) := by
  rw [countedLines_eq, countedLines_eq]
  exact reformatted.counted

theorem Passes.reformatted (passes : Passes graph source last extended)
    (reformatted : Reformatted 1 1 (Text.lines source.toList) (Text.lines edited.toList) moves) :
    Passes graph edited last extended := by
  obtain ⟨line, further, begun, between, counted, header, rest⟩ := passes
  have moved := counted_moved reformatted
  rw [counted] at moved
  rcases newCounted : countedLines edited with _ | ⟨newLine, newFurther⟩
  · rw [newCounted] at moved
    cases moved
  · rw [newCounted] at moved
    cases moved with
    | cons same movedFurther =>
        exact ⟨newLine, newFurther, begun, between, newCounted, same.1 ▸ header,
          rest.moved movedFurther⟩

/-- Comments, blank lines and the blanks around a line have no effect. However a script with some
line that is not idle is reformatted, the class graph it leaves is the same, and either both are
assembled to the same listing or both are refused for the same cause, on the same line at its old
and at its new place. What is found only when the routine is finished is found on the last line
that is not idle, in both. -/
theorem assemble_reformatted
    (reformatted : Reformatted 1 1 (Text.lines source.toList) (Text.lines edited.toList) moves)
    (hasLine : ∃ text ∈ Text.lines source.toList, ¬ IsIdle text) (graph : ClassGraph) :
    (assemble graph source).2 = (assemble graph edited).2 ∧
      SameOutcome moves (assemble graph source).1 (assemble graph edited).1 ∧
      ∀ last extended error, Passes graph source last extended →
        last.builder.finish = .error error →
        ∃ number newNumber, IsLastLine (Text.lines source.toList) number ∧
          IsLastLine (Text.lines edited.toList) newNumber ∧
          assemble graph source = (.error ⟨number, .assembly error⟩, extended) ∧
          assemble graph edited = (.error ⟨newNumber, .assembly error⟩, extended) := by
  have moved := counted_moved reformatted
  have agree : (assemble graph source).2 = (assemble graph edited).2 ∧
      SameOutcome moves (assemble graph source).1 (assemble graph edited).1 := by
    rcases counted : countedLines source with _ | ⟨line, further⟩
    · -- a line that is not idle counts
      obtain ⟨text, member, notIdle⟩ := hasLine
      rw [countedLines_eq] at counted
      exact absurd (countedFrom_eq_nil.mp counted text member) notIdle
    rcases newCounted : countedLines edited with _ | ⟨newLine, newFurther⟩
    · rw [counted, newCounted] at moved
      cases moved
    rw [counted, newCounted, List.forall₂_cons] at moved
    obtain ⟨same, movedFurther⟩ := moved
    rcases header : (Session.begin line.2).run graph with ⟨fault | begun, extended⟩
    · rw [assemble_of_refused counted header, assemble_of_refused newCounted (same.1 ▸ header)]
      exact ⟨rfl, .refused fault same.2⟩
    · rw [assemble_of_begun counted header, assemble_of_begun newCounted (same.1 ▸ header)]
      exact Session.runLines_moved movedFurther begun extended same.2
  refine ⟨agree.1, agree.2, ?_⟩
  intro last extended error passes unfinished
  obtain ⟨number, isLast, refused⟩ := passes.refused unfinished
  obtain ⟨newNumber, isNewLast, newRefused⟩ := (passes.reformatted reformatted).refused unfinished
  exact ⟨number, newNumber, isLast, isNewLast, refused, newRefused⟩

/-- A script that jumps to a label it never declares. -/
def plainSource : String :=
  "routine static demo/A f ()V\n# a loop\ngoto - done\n"

def spacedSource : String :=
  "\n\n routine static demo/A f ()V \n\tgoto - done\n# the end\n"

theorem assemble_reformatted_when_spaced :
    Reformatted 1 1 (Text.lines plainSource.toList) (Text.lines spacedSource.toList)
        [(1, 3), (3, 4), (4, 6)] ∧
      (assemble Standard.graph plainSource).1.isOk = false ∧
      SameOutcome [(1, 3), (3, 4), (4, 6)] (assemble Standard.graph plainSource).1
        (assemble Standard.graph spacedSource).1 := by
  have lines : Text.lines plainSource.toList = ["routine static demo/A f ()V".toList,
      "# a loop".toList, "goto - done".toList, []] := by decide +kernel
  have spacedLines : Text.lines spacedSource.toList = [[], [],
      " routine static demo/A f ()V ".toList, "\tgoto - done".toList, "# the end".toList, []] := by
    decide +kernel
  have header : Respaced "routine static demo/A f ()V".toList
      " routine static demo/A f ()V ".toList :=
    ⟨"routine static demo/A f ()V".toList, [], [], [' '], [' '], by decide, by decide, by decide,
      by decide, by decide, by decide⟩
  have jump : Respaced "goto - done".toList "\tgoto - done".toList :=
    ⟨"goto - done".toList, [], [], ['\t'], [], by decide, by decide, by decide, by decide,
      by decide, by decide⟩
  have reformatted : Reformatted 1 1 (Text.lines plainSource.toList)
      (Text.lines spacedSource.toList) [(1, 3), (3, 4), (4, 6)] := by
    rw [lines, spacedLines]
    refine .putIn (.inl (by decide)) (.putIn (.inl (by decide)) (.keep header (.leaveOut ?_
      (.keep jump (.putIn ?_ (.keep ?_ .done))))))
    · exact .inr ⟨[], " a loop".toList, by decide, by decide⟩
    · exact .inr ⟨[], " the end".toList, by decide, by decide⟩
    · exact ⟨[], [], [], [], [], by decide, by decide, by decide, by decide, by decide, by decide⟩
  have hasLine : ∃ text ∈ Text.lines plainSource.toList, ¬ IsIdle text := by
    refine ⟨"goto - done".toList, by rw [lines]; decide, ?_⟩
    exact counts_trim_eq_true.mp (by decide)
  exact ⟨reformatted, by decide +kernel,
    (assemble_reformatted reformatted hasLine Standard.graph).2.1⟩

end Scripts

end Script

end TypedBytecode

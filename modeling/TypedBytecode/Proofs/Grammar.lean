import TypedBytecode.Error
import TypedBytecode.Proofs.Covariance
import TypedBytecode.Proofs.Words
import Mathlib.Logic.Function.Iterate

/-!
Contract: the grammar of descriptors.

Owns:
- the classes that a type names, and what makes them legal;
- the dimensions of a type, and how many of them can be counted;
- `Descriptor.Exact`: a reader takes the spelling of a readable value off the front of a text, takes
  nothing else, and overflows on stated texts only;
- the loop over the parameters of a method, round by round, with a bound on its rounds;
- the grammar theorem: a text is accepted exactly if it is the rendering of a legal type whose
  dimensions can be counted, and reading overflows exactly where it meets too many brackets.

Does not own: the offset and wording of a refusal.
-/

namespace TypedBytecode

/-! ## Legal names -/

namespace ClassName

/-- The text of the name passes the check that admits names. -/
def Legal (name : ClassName) : Prop :=
  ofString name.text = .ok name

theorem ofString_eq_ok {text : String} {name : ClassName} :
    ofString text = .ok name ↔ isLegal text.toList = true ∧ name.text = text := by
  unfold ofString
  split
  · rename_i empty
    simp [isLegal, empty]
  · split
    · rename_i accepted
      simp only [Except.ok.injEq, accepted, true_and]
      exact ⟨fun same => same ▸ rfl, fun same => same ▸ rfl⟩
    · rename_i refused
      simp [refused]

/-- A semicolon ends a class name in a descriptor, and none stands in the name. -/
theorem Legal.semicolon_not_mem {name : ClassName} (legal : name.Legal) : ';' ∉ name.spell := by
  intro member
  obtain ⟨accepted, -⟩ := ofString_eq_ok.mp legal
  simp only [isLegal, Bool.and_eq_true, List.all_eq_true] at accepted
  obtain ⟨segment, inName, inSegment⟩ :=
    Text.mem_splitWhere (· == '/') member (by decide)
  have segmentLegal := accepted.2 segment inName
  simp only [isSegment, Bool.and_eq_true, List.all_eq_true] at segmentLegal
  have notReserved := segmentLegal.2 ';' inSegment
  simp at notReserved

end ClassName

/-! ## Legal types and their spelling -/

theorem Primitive.ofLetter?_eq_some {c : Char} {primitive : Primitive} :
    ofLetter? c = some primitive ↔ c = primitive.letter := by
  constructor
  · intro found
    have same := List.find?_some found
    simp only [beq_iff_eq] at same
    exact same.symm
  · rintro rfl
    cases primitive <;> rfl

namespace FieldType

/-- All classes that the type names have legal names. -/
def Legal (type : FieldType) : Prop :=
  ∀ name ∈ type.className?, name.Legal

/-- Number of dimensions, none for a type that is no array. -/
def dimensions : FieldType → Nat
  | .primitive _ => 0
  | .reference type => type.dimensions

/-- The dimensions of the type can be counted in reading it. -/
def Countable (type : FieldType) : Prop :=
  type.dimensions ≤ Descriptor.maxDimensions

/-- A type that is read back from its spelling. -/
def Readable (type : FieldType) : Prop :=
  type.Legal ∧ type.Countable

/-- A type that is no array. -/
inductive IsElement : FieldType → Prop where
  | primitive (type : Primitive) : IsElement (.primitive type)
  | object (name : ClassName) : IsElement (.object name)

theorem spell_arrays (dimensions : Nat) (element : FieldType) :
    (arrays dimensions element).spell = List.replicate dimensions '[' ++ element.spell := by
  have bracket : ∀ component : FieldType, (array component).spell = '[' :: component.spell := by
    rintro (primitive | (name | ⟨extra, name⟩ | ⟨extra, primitive⟩)) <;> rfl
  induction dimensions generalizing element with
  | zero => rfl
  | succ dimensions inductionHypothesis =>
      rw [arrays, inductionHypothesis, bracket, List.replicate_succ', List.append_assoc]
      rfl

theorem className?_arrays (dimensions : Nat) (element : FieldType) :
    (arrays dimensions element).className? = element.className? := by
  have same : ∀ component : FieldType, (array component).className? = component.className? := by
    rintro (primitive | (name | ⟨extra, name⟩ | ⟨extra, primitive⟩)) <;> rfl
  induction dimensions generalizing element with
  | zero => rfl
  | succ dimensions inductionHypothesis => rw [arrays, inductionHypothesis, same]

theorem legal_arrays {dimensions : Nat} {element : FieldType} :
    (arrays dimensions element).Legal ↔ element.Legal := by
  simp only [Legal, className?_arrays]

theorem IsElement.dimensions_eq {element : FieldType} (isElement : element.IsElement) :
    element.dimensions = 0 := by
  cases isElement <;> rfl

theorem dimensions_arrays {element : FieldType} (isElement : element.IsElement)
    (dimensions : Nat) : (arrays dimensions element).dimensions = dimensions := by
  have deeper : ∀ component : FieldType,
      (array component).dimensions = component.dimensions + 1 := by
    rintro (primitive | (name | ⟨extra, name⟩ | ⟨extra, primitive⟩)) <;> rfl
  have general : ∀ component : FieldType,
      (arrays dimensions component).dimensions = component.dimensions + dimensions := by
    induction dimensions with
    | zero => exact fun _ => rfl
    | succ dimensions inductionHypothesis =>
        intro component
        rw [arrays, inductionHypothesis, deeper]
        omega
  rw [general, isElement.dimensions_eq, Nat.zero_add]

theorem array_arrays (dimensions : Nat) (element : FieldType) :
    array (arrays dimensions element) = arrays (dimensions + 1) element := by
  induction dimensions generalizing element with
  | zero => rfl
  | succ dimensions inductionHypothesis => exact inductionHypothesis (array element)

/-- Every type is an array with some dimensions over an element type, possibly with none. -/
theorem exists_arrays (type : FieldType) :
    ∃ dimensions element, element.IsElement ∧ type = arrays dimensions element := by
  have deeper : ∀ component : FieldType,
      (∃ dimensions element, element.IsElement ∧ component = arrays dimensions element) →
        ∃ dimensions element, element.IsElement ∧ array component = arrays dimensions element := by
    rintro _ ⟨dimensions, element, isElement, rfl⟩
    exact ⟨dimensions + 1, element, isElement, array_arrays dimensions element⟩
  rcases type with primitive | (name | ⟨extra, name⟩ | ⟨extra, primitive⟩)
  · exact ⟨0, _, .primitive primitive, rfl⟩
  · exact ⟨0, _, .object name, rfl⟩
  · induction extra with
    | zero => exact ⟨1, _, .object name, rfl⟩
    | succ extra inductionHypothesis => exact deeper _ inductionHypothesis
  · induction extra with
    | zero => exact ⟨1, _, .primitive primitive, rfl⟩
    | succ extra inductionHypothesis => exact deeper _ inductionHypothesis

end FieldType

/-- All classes that the type names have legal names. -/
def MethodType.Legal (type : MethodType) : Prop :=
  ∀ name ∈ type.classNames, name.Legal

theorem MethodType.legal_iff {type : MethodType} :
    type.Legal ↔ (∀ parameter ∈ type.parameters, parameter.Legal) ∧
      ∀ result ∈ type.result, result.Legal := by
  simp only [Legal, FieldType.Legal, classNames, List.mem_append, List.mem_filterMap,
    Option.mem_toList, Option.mem_def, Option.bind_eq_some_iff]
  constructor
  · intro legal
    exact ⟨fun parameter member name named => legal name (Or.inl ⟨parameter, member, named⟩),
      fun result returned name named => legal name (Or.inr ⟨result, returned, named⟩)⟩
  · rintro ⟨parameters, result⟩ name (⟨parameter, member, named⟩ | ⟨returned, isResult, named⟩)
    · exact parameters parameter member name named
    · exact result returned isResult name named

/-- The dimensions of all parameters and of the result can be counted. -/
def MethodType.Countable (type : MethodType) : Prop :=
  (∀ parameter ∈ type.parameters, parameter.Countable) ∧
    ∀ result ∈ type.result, result.Countable

/-- A type that is read back from its spelling. -/
def MethodType.Readable (type : MethodType) : Prop :=
  type.Legal ∧ type.Countable

theorem MethodType.readable_iff {type : MethodType} :
    type.Readable ↔ (∀ parameter ∈ type.parameters, parameter.Readable) ∧
      ∀ result ∈ type.result, result.Readable := by
  simp only [Readable, Countable, legal_iff, FieldType.Readable, forall₂_and]
  exact and_and_and_comm

/-! ## Readers -/

namespace Descriptor

/-- A reader that takes the spelling of a readable value off the front of a text, whatever stands
behind it, that takes nothing else, and that overflows on the texts given. -/
structure Exact {α : Type} (reader : List Char → Read α) (spell : α → List Char)
    (Readable : α → Prop) (Exceeds : List Char → Prop) : Prop where
  spelled : ∀ {text value rest}, reader text = (.ok value, rest) →
    text = spell value ++ rest ∧ Readable value
  reads : ∀ {value} rest, Readable value → reader (spell value ++ rest) = (.ok value, rest)
  overflows : ∀ {text}, (∃ rest, reader text = (.error .overflow, rest)) ↔ Exceeds text

/-- Where nothing is counted, nothing overflows. -/
def Never (_ : List Char) : Prop :=
  False

/-- The text begins with more brackets than can be counted. -/
def TooDeep (text : List Char) : Prop :=
  List.replicate (maxDimensions + 1) '[' <+: text

/-- A text in which a character occurs is cut at its first occurrence. -/
theorem cut_at_first {text : List Char} {c : Char} (member : c ∈ text) :
    text = text.takeWhile (· != c) ++ c :: (text.dropWhile (· != c)).drop 1 := by
  induction text with
  | nil => simp at member
  | cons first text inductionHypothesis =>
      by_cases same : first = c
      · simp [same]
      · have later : c ∈ text := (List.mem_cons.mp member).resolve_left (Ne.symm same)
        have differs : (first != c) = true := by simpa using same
        rw [List.takeWhile_cons_of_pos (p := (· != c)) differs,
          List.dropWhile_cons_of_pos (p := (· != c)) differs, List.cons_append,
          ← inductionHypothesis later]

/-- A class name is read with the semicolon that ends it. -/
theorem exact_readClass :
    Exact readClass (fun name => name.spell ++ [';']) ClassName.Legal Never where
  spelled := by
    intro text name rest read
    unfold readClass at read
    split at read
    · rename_i terminated
      split at read
      · rename_i accepted
        simp only [Prod.mk.injEq, Except.ok.injEq] at read
        obtain ⟨rfl, rfl⟩ := read
        have named := (ClassName.ofString_eq_ok.mp accepted).2
        have cut := cut_at_first (List.contains_iff_mem.mp terminated)
        refine ⟨?_, by rwa [ClassName.Legal, named]⟩
        rw [ClassName.spell, named, String.toList_ofList, List.append_assoc]
        exact cut
      · cases read
    · cases read
  reads := by
    intro name rest legal
    have inside : ∀ c ∈ name.spell, (c != ';') = true := by
      intro c member
      simpa using fun same : c = ';' => legal.semicolon_not_mem (same ▸ member)
    have front : (name.spell ++ ';' :: rest).takeWhile (· != ';') = name.spell := by
      rw [List.takeWhile_append_of_pos inside]
      simp
    have back : (name.spell ++ ';' :: rest).dropWhile (· != ';') = ';' :: rest := by
      rw [List.dropWhile_append_of_pos inside]
      simp
    have terminated : (name.spell ++ ';' :: rest).contains ';' = true := by simp
    have accepted : ClassName.ofString (String.ofList name.spell) = .ok name := by
      rw [ClassName.spell, String.ofList_toList]
      exact legal
    rw [List.append_assoc, List.singleton_append, readClass, if_pos terminated, front, accepted,
      back]
    rfl
  overflows := by
    intro text
    refine iff_of_false ?_ id
    rintro ⟨rest, read⟩
    unfold readClass at read
    split at read
    · split at read <;> cases read
    · cases read

theorem readElement_object (rest : List Char) :
    readElement ('L' :: rest) = ((readClass rest).1.map .object, (readClass rest).2) := by
  rw [readElement, if_pos rfl]
  rcases readClass rest with ⟨_ | _, _⟩ <;> rfl

theorem readElement_primitive (primitive : Primitive) (rest : List Char) :
    readElement (primitive.letter :: rest) = (.ok (.primitive primitive), rest) := by
  have notObject : primitive.letter ≠ 'L' := by cases primitive <;> decide
  rw [readElement, if_neg notObject, Primitive.ofLetter?_eq_some.mpr rfl]

/-- An element type is read by its first letter. -/
theorem exact_readElement :
    Exact readElement FieldType.spell (fun type => type.IsElement ∧ type.Legal) Never where
  spelled := by
    intro text type rest read
    rcases text with _ | ⟨c, text⟩
    · cases read
    · by_cases isObject : c = 'L'
      · rw [isObject, readElement_object] at read
        rcases classRead : readClass text with ⟨fault | name, left⟩
        · rw [classRead] at read
          cases read
        · rw [classRead] at read
          cases read
          obtain ⟨cut, legal⟩ := exact_readClass.spelled classRead
          refine ⟨?_, .object name, ?_⟩
          · rw [isObject, cut]
            rfl
          · rintro _ ⟨⟩
            exact legal
      · rw [readElement, if_neg isObject] at read
        split at read
        · rename_i primitive found
          cases read
          refine ⟨?_, .primitive primitive, ?_⟩
          · rw [Primitive.ofLetter?_eq_some.mp found]
            rfl
          · rintro _ ⟨⟩
        · cases read
  reads := by
    rintro _ rest ⟨primitive | name, legal⟩
    · exact readElement_primitive primitive rest
    · have spelled : (FieldType.object name).spell ++ rest = 'L' :: (name.spell ++ [';'] ++ rest) :=
        rfl
      rw [spelled, readElement_object, exact_readClass.reads rest (legal name rfl)]
      rfl
  overflows := by
    intro text
    refine iff_of_false ?_ id
    rintro ⟨rest, read⟩
    rcases text with _ | ⟨c, text⟩
    · cases read
    · by_cases isObject : c = 'L'
      · rw [isObject, readElement_object] at read
        rcases classRead : readClass text with ⟨halt | name, left⟩
        · rw [classRead] at read
          cases read
          exact exact_readClass.overflows.mp ⟨_, classRead⟩
        · rw [classRead] at read
          cases read
      · rw [readElement, if_neg isObject] at read
        split at read <;> cases read

/-- Brackets at the front of a text, and the text behind them. -/
theorem cut_at_brackets (text : List Char) :
    text = List.replicate (text.takeWhile (· == '[')).length '[' ++
      text.dropWhile (· == '[') := by
  have brackets : text.takeWhile (· == '[') =
      List.replicate (text.takeWhile (· == '[')).length '[' := by
    rw [List.eq_replicate_iff]
    refine ⟨rfl, ?_⟩
    intro c member
    simpa using List.all_eq_true.mp List.all_takeWhile c member
  rw [← brackets, List.takeWhile_append_dropWhile]

theorem tooDeep_replicate {dimensions : Nat} (exceeds : maxDimensions < dimensions)
    (rest : List Char) : TooDeep (List.replicate dimensions '[' ++ rest) := by
  obtain ⟨extra, rfl⟩ : ∃ extra, dimensions = maxDimensions + 1 + extra :=
    Nat.exists_eq_add_of_le exceeds
  refine ⟨List.replicate extra '[' ++ rest, ?_⟩
  rw [← List.append_assoc, List.replicate_append_replicate]

/-- A text is too deep if the run of brackets at its front is too long. -/
theorem tooDeep_iff {text : List Char} :
    TooDeep text ↔ maxDimensions < (text.takeWhile (· == '[')).length := by
  constructor
  · rintro ⟨rest, rfl⟩
    rw [List.takeWhile_append_of_pos (by simp), List.length_append, List.length_replicate]
    omega
  · intro exceeds
    rw [cut_at_brackets text]
    exact tooDeep_replicate exceeds _

/-- The element type stands right behind the brackets. -/
theorem exact_readField : Exact readField FieldType.spell FieldType.Readable TooDeep where
  spelled := by
    intro text type rest read
    simp only [readField] at read
    split at read
    · cases read
    · rename_i counted
      split at read
      · rename_i element left elementRead
        cases read
        obtain ⟨cut, isElement, legal⟩ := exact_readElement.spelled elementRead
        refine ⟨?_, FieldType.legal_arrays.mpr legal, ?_⟩
        · rw [FieldType.spell_arrays, List.append_assoc, ← cut]
          exact cut_at_brackets text
        · rw [FieldType.Countable, FieldType.dimensions_arrays isElement]
          exact Nat.le_of_not_lt counted
      · cases read
  reads := by
    rintro type rest ⟨legal, countable⟩
    obtain ⟨dimensions, element, isElement, rfl⟩ := type.exists_arrays
    rw [FieldType.Countable, FieldType.dimensions_arrays isElement] at countable
    -- The first letter of the element ends the run of brackets, so they are counted right.
    obtain ⟨c, later, spelled, notBracket⟩ : ∃ c later, element.spell = c :: later ∧
        (c == '[') = false := by
      rcases isElement with primitive | name
      · exact ⟨_, [], rfl, by cases primitive <;> decide⟩
      · exact ⟨'L', _, rfl, by decide⟩
    have elementRead := exact_readElement.reads rest ⟨isElement, FieldType.legal_arrays.mp legal⟩
    rw [FieldType.spell_arrays, List.append_assoc, spelled, List.cons_append]
    rw [spelled, List.cons_append] at elementRead
    have front : (List.replicate dimensions '[' ++ c :: (later ++ rest)).takeWhile (· == '[') =
        List.replicate dimensions '[' := by
      simp [List.takeWhile_append_of_pos, notBracket]
    have back : (List.replicate dimensions '[' ++ c :: (later ++ rest)).dropWhile (· == '[') =
        c :: (later ++ rest) := by
      simp [List.dropWhile_append_of_pos, notBracket]
    simp only [readField, front, back, elementRead, List.length_replicate]
    rw [if_neg (Nat.not_lt.mpr countable)]
  overflows := by
    intro text
    rw [tooDeep_iff]
    simp only [readField]
    split
    · rename_i exceeds
      exact iff_of_true ⟨_, rfl⟩ exceeds
    · rename_i counted
      refine iff_of_false ?_ counted
      rintro ⟨rest, read⟩
      split at read
      · cases read
      · rename_i elementRead
        cases read
        exact exact_readElement.overflows.mp ⟨_, elementRead⟩

/-- A type whose dimensions cannot be counted has a spelling that begins with too many
brackets. -/
theorem tooDeep_spell {type : FieldType} (uncountable : ¬type.Countable) (rest : List Char) :
    TooDeep (type.spell ++ rest) := by
  obtain ⟨dimensions, element, isElement, rfl⟩ := type.exists_arrays
  rw [FieldType.Countable, FieldType.dimensions_arrays isElement] at uncountable
  rw [FieldType.spell_arrays, List.append_assoc]
  exact tooDeep_replicate (Nat.lt_of_not_le uncountable) _

/-! ## Methods -/

/-- No type begins with the parenthesis that ends the parameters, or with the letter that stands
for no result. -/
theorem head_spell (type : FieldType) :
    ∃ c later, type.spell = c :: later ∧ c ≠ ')' ∧ c ≠ 'V' := by
  rcases type with primitive | (name | ⟨extra, name⟩ | ⟨extra, primitive⟩)
  · exact ⟨_, [], rfl, by cases primitive <;> decide, by cases primitive <;> decide⟩
  · exact ⟨'L', _, rfl, by decide, by decide⟩
  · exact ⟨'[', _, rfl, by decide, by decide⟩
  · exact ⟨'[', _, rfl, by decide, by decide⟩

section Parameters

variable {text rest : List Char} {type : FieldType} {types : List FieldType}
  {halt : Halt Fault}

theorem readParameters_closed (closed : text.head? = some ')') :
    readParameters text = (.ok [], text) := by
  rw [readParameters, if_pos closed]

theorem readParameters_of_field (opened : text.head? ≠ some ')')
    (read : readField text = (.ok type, rest)) :
    readParameters text =
      ((readParameters rest).1.map (type :: ·), (readParameters rest).2) := by
  rw [readParameters, if_neg opened]
  split
  · rename_i again
    rw [read] at again
    cases again
    rcases readParameters rest with ⟨_ | _, _⟩ <;> rfl
  · rename_i again
    rw [read] at again
    cases again

theorem readParameters_of_halt (opened : text.head? ≠ some ')')
    (read : readField text = (.error halt, rest)) :
    readParameters text = (.error halt, rest) := by
  rw [readParameters, if_neg opened]
  split
  · rename_i again
    rw [read] at again
    cases again
  · rename_i again
    rw [read] at again
    cases again
    rfl

/-- Types that are spelled at the front are read, and reading goes on behind them. -/
theorem readParameters_append (rest : List Char) (readable : ∀ type ∈ types, type.Readable) :
    readParameters ((types.map FieldType.spell).flatten ++ rest) =
      ((readParameters rest).1.map (types ++ ·), (readParameters rest).2) := by
  induction types with
  | nil => rcases read : readParameters rest with ⟨halt | others, last⟩ <;> simp [read, Except.map]
  | cons type types inductionHypothesis =>
      obtain ⟨typeReadable, othersReadable⟩ := List.forall_mem_cons.mp readable
      obtain ⟨c, later, spelled, notClosed, -⟩ := head_spell type
      rw [List.map_cons, List.flatten_cons, List.append_assoc]
      have opened : (type.spell ++ ((types.map FieldType.spell).flatten ++ rest)).head? ≠
          some ')' := by
        simp [spelled, notClosed]
      rw [readParameters_of_field opened (exact_readField.reads _ typeReadable),
        inductionHypothesis othersReadable]
      rcases (readParameters rest).1 with halt | others <;> rfl

/-- Any text is readable types and then a parenthesis, or something at which reading a type
halts. -/
theorem cut_at_parameters (text : List Char) :
    ∃ (types : List FieldType) (rest : List Char), (∀ type ∈ types, type.Readable) ∧
      text = (types.map FieldType.spell).flatten ++ rest ∧
      (rest.head? = some ')' ∨
        rest.head? ≠ some ')' ∧ ∃ halt left, readField rest = (.error halt, left)) := by
  -- Every type that is read leaves a shorter text.
  induction bound : text.length using Nat.strongRecOn generalizing text with
  | _ length inductionHypothesis =>
      by_cases closed : text.head? = some ')'
      · exact ⟨[], text, by simp, rfl, .inl closed⟩
      · rcases fieldRead : readField text with ⟨halt | type, left⟩
        · exact ⟨[], text, by simp, rfl, .inr ⟨closed, halt, left, fieldRead⟩⟩
        · have shorter : left.length < length := bound ▸ length_readField fieldRead
          obtain ⟨types, rest, readable, cut, stops⟩ := inductionHypothesis _ shorter left rfl
          obtain ⟨front, typeReadable⟩ := exact_readField.spelled fieldRead
          refine ⟨type :: types, rest, List.forall_mem_cons.mpr ⟨typeReadable, readable⟩, ?_, stops⟩
          rw [front, cut, List.map_cons, List.flatten_cons, List.append_assoc]

/-- Reading parameters stops at a parenthesis and nowhere else. -/
theorem spelled_of_readParameters (read : readParameters text = (.ok types, rest)) :
    text = (types.map FieldType.spell).flatten ++ rest ∧ (∀ type ∈ types, type.Readable) ∧
      rest.head? = some ')' := by
  obtain ⟨found, left, readable, rfl, closed | ⟨opened, halt, last, fieldRead⟩⟩ :=
    cut_at_parameters text
  · rw [readParameters_append left readable, readParameters_closed closed] at read
    simp only [Except.map, List.append_nil, Prod.mk.injEq, Except.ok.injEq] at read
    obtain ⟨rfl, rfl⟩ := read
    exact ⟨rfl, readable, closed⟩
  · rw [readParameters_append left readable, readParameters_of_halt opened fieldRead] at read
    cases read

/-- Reading parameters overflows at a type that is too deep, behind types that are read. -/
theorem readParameters_overflows :
    (∃ last, readParameters text = (.error .overflow, last)) ↔
      ∃ (types : List FieldType) (rest : List Char), (∀ type ∈ types, type.Readable) ∧
        TooDeep rest ∧ text = (types.map FieldType.spell).flatten ++ rest := by
  constructor
  · rintro ⟨last, exceeds⟩
    obtain ⟨types, rest, readable, rfl, closed | ⟨opened, halt, left, fieldRead⟩⟩ :=
      cut_at_parameters text
    · rw [readParameters_append rest readable, readParameters_closed closed] at exceeds
      cases exceeds
    · rw [readParameters_append rest readable, readParameters_of_halt opened fieldRead] at exceeds
      cases exceeds
      exact ⟨types, rest, readable, exact_readField.overflows.mp ⟨_, fieldRead⟩, rfl⟩
  · rintro ⟨types, rest, readable, deep, rfl⟩
    have opened : rest.head? ≠ some ')' := by
      obtain ⟨later, rfl⟩ := deep
      simp [List.replicate_succ]
    obtain ⟨last, fieldRead⟩ := exact_readField.overflows.mpr deep
    rw [readParameters_append rest readable, readParameters_of_halt opened fieldRead]
    exact ⟨last, rfl⟩

end Parameters

/-- The spelling of a result, or of its absence. -/
def spellResult (result : Option FieldType) : List Char :=
  (result.map FieldType.spell).getD ['V']

theorem exact_readResult :
    Exact readResult spellResult (fun result => ∀ type ∈ result, type.Readable) TooDeep where
  spelled := by
    intro text result rest read
    unfold readResult at read
    split at read
    · cases read
      exact ⟨rfl, by simp⟩
    · split at read
      · rename_i type left fieldRead
        cases read
        obtain ⟨cut, readable⟩ := exact_readField.spelled fieldRead
        refine ⟨cut, ?_⟩
        rintro _ ⟨⟩
        exact readable
      · cases read
  reads := by
    intro result rest readable
    rcases result with _ | type
    · rfl
    · obtain ⟨c, later, spelled, -, notVoid⟩ := head_spell type
      have fieldRead := exact_readField.reads rest (readable type rfl)
      have text : spellResult (some type) ++ rest = type.spell ++ rest := rfl
      rw [text]
      unfold readResult
      split
      · rename_i void
        rw [spelled] at void
        cases void
        exact absurd rfl notVoid
      · rw [fieldRead]
  overflows := by
    intro text
    unfold readResult
    split
    · refine iff_of_false nofun ?_
      rintro ⟨later, isBracket⟩
      simp [List.replicate_succ] at isBracket
    · rw [← exact_readField.overflows]
      split
      · rename_i fieldRead
        simp [fieldRead]
      · rename_i fieldRead
        simp [fieldRead]

/-- A method descriptor in which too many brackets are met: at a parameter or at the result, behind
types that are read. -/
inductive MethodTooDeep : List Char → Prop where
  | parameter {types : List FieldType} {rest : List Char}
      (readable : ∀ type ∈ types, type.Readable) (deep : TooDeep rest) :
      MethodTooDeep ('(' :: ((types.map FieldType.spell).flatten ++ rest))
  | result {types : List FieldType} {rest : List Char}
      (readable : ∀ type ∈ types, type.Readable) (deep : TooDeep rest) :
      MethodTooDeep ('(' :: ((types.map FieldType.spell).flatten ++ ')' :: rest))

theorem exact_readMethod :
    Exact readMethod MethodType.spell MethodType.Readable MethodTooDeep where
  spelled := by
    intro text type rest read
    unfold readMethod at read
    split at read
    · split at read
      · cases read
      · rename_i parameters left parametersRead
        split at read
        · rename_i result last resultRead
          cases read
          obtain ⟨cut, parametersReadable, ended⟩ := spelled_of_readParameters parametersRead
          obtain ⟨behind, resultReadable⟩ := exact_readResult.spelled resultRead
          obtain ⟨later, rfl⟩ : ∃ later, left = ')' :: later := List.head?_eq_some_iff.mp ended
          rw [List.drop_one, List.tail_cons] at behind
          refine ⟨?_, MethodType.readable_iff.mpr ⟨parametersReadable, resultReadable⟩⟩
          rw [cut, behind]
          simp [MethodType.spell, spellResult]
        · cases read
    · cases read
  reads := by
    intro type rest readable
    obtain ⟨parametersReadable, resultReadable⟩ := MethodType.readable_iff.mp readable
    have text : type.spell ++ rest = '(' :: ((type.parameters.map FieldType.spell).flatten ++
        ')' :: (spellResult type.result ++ rest)) := by
      simp [MethodType.spell, spellResult]
    rw [text, readMethod, readParameters_append _ parametersReadable, readParameters_closed rfl]
    simp only [Except.map, List.append_nil, List.drop_one, List.tail_cons]
    rw [exact_readResult.reads rest resultReadable]
  overflows := by
    intro text
    constructor
    · rintro ⟨last, exceeds⟩
      unfold readMethod at exceeds
      split at exceeds
      · split at exceeds
        · rename_i parametersRead
          cases exceeds
          obtain ⟨types, rest, readable, deep, rfl⟩ :=
            readParameters_overflows.mp ⟨_, parametersRead⟩
          exact .parameter readable deep
        · rename_i types left parametersRead
          split at exceeds
          · cases exceeds
          · rename_i resultRead
            cases exceeds
            have deep := exact_readResult.overflows.mp ⟨_, resultRead⟩
            obtain ⟨cut, readable, ended⟩ := spelled_of_readParameters parametersRead
            obtain ⟨later, rfl⟩ : ∃ later, left = ')' :: later := List.head?_eq_some_iff.mp ended
            rw [cut]
            exact .result readable deep
      · cases exceeds
    · rintro (⟨readable, deep⟩ | ⟨readable, deep⟩)
      · obtain ⟨last, exceeds⟩ := readParameters_overflows.mpr ⟨_, _, readable, deep, rfl⟩
        rw [readMethod, exceeds]
        exact ⟨last, rfl⟩
      · obtain ⟨last, exceeds⟩ := exact_readResult.overflows.mpr deep
        rw [readMethod, readParameters_append _ readable, readParameters_closed rfl]
        simp only [Except.map, List.append_nil, List.drop_one, List.tail_cons]
        rw [exceeds]
        exact ⟨last, rfl⟩

/-- A method type that is legal but cannot be read back is too deep at its first parameter, or at
its result, whose dimensions cannot be counted. -/
theorem methodTooDeep_spell {type : MethodType} (legal : type.Legal)
    (uncountable : ¬type.Countable) : MethodTooDeep type.spell := by
  obtain ⟨parametersLegal, -⟩ := MethodType.legal_iff.mp legal
  have spelled : type.spell = '(' :: ((type.parameters.map FieldType.spell).flatten ++
      ')' :: spellResult type.result) := by
    simp [MethodType.spell, spellResult]
  rw [spelled]
  by_cases countable : ∀ parameter ∈ type.parameters, parameter.Countable
  · obtain ⟨result, returned, deep⟩ : ∃ result ∈ type.result, ¬result.Countable := by
      by_contra allCounted
      refine uncountable ⟨countable, ?_⟩
      intro result returned
      by_contra deep
      exact allCounted ⟨result, returned, deep⟩
    have isResult : spellResult type.result = result.spell ++ [] := by
      rw [spellResult, Option.mem_def.mp returned, List.append_nil]
      rfl
    rw [isResult]
    exact .result (fun parameter member =>
      ⟨parametersLegal parameter member, countable parameter member⟩) (tooDeep_spell deep [])
  · -- The first parameter that cannot be counted stands behind parameters that are read.
    obtain ⟨deepest, member, deep⟩ : ∃ deepest ∈ type.parameters, ¬deepest.Countable := by
      simpa using countable
    obtain ⟨parameter, found⟩ : ∃ parameter,
        type.parameters.find? (fun parameter => maxDimensions < parameter.dimensions) =
          some parameter := by
      rw [← Option.isSome_iff_exists, List.find?_isSome]
      exact ⟨deepest, member, by simpa [FieldType.Countable] using deep⟩
    obtain ⟨exceeds, front, back, cut, counted⟩ := List.find?_eq_some_iff_append.mp found
    have readable : ∀ other ∈ front, other.Readable := by
      intro other inFront
      refine ⟨parametersLegal other (by simp [cut, inFront]), ?_⟩
      simpa [FieldType.Countable] using counted other inFront
    rw [cut, List.map_append, List.flatten_append, List.map_cons, List.flatten_cons,
      List.append_assoc, List.append_assoc]
    exact .parameter readable
      (tooDeep_spell (by simpa [FieldType.Countable] using exceeds) _)

/-! ## Rounds -/

/-- The loop over the parameters of a method: under way with the types read so far, or ended. -/
inductive Loop where
  | running (types : List FieldType) (text : List Char)
  | ended (result : Read (List FieldType))

namespace Loop

/-- One round. A parenthesis or a fault ends the loop, and otherwise it has one type more. -/
def round : Loop → Loop
  | .running types text =>
    if text.head? = some ')' then .ended (.ok types, text)
    else
      match readField text with
      | (.ok type, rest) => .running (types ++ [type]) rest
      | (.error halt, rest) => .ended (.error halt, rest)
  | .ended result => .ended result

theorem iterate_ended (rounds : Nat) (result : Read (List FieldType)) :
    Nat.iterate round rounds (.ended result) = .ended result :=
  Function.iterate_fixed rfl rounds

/-- A round that goes on uses up some text, so the loop ends before it runs out of rounds, and
with the types that reading in one go gives. -/
theorem iterate_round {rounds : Nat} {text : List Char} (types : List FieldType)
    (enough : text.length < rounds) :
    Nat.iterate round rounds (.running types text) =
      .ended ((readParameters text).1.map (types ++ ·), (readParameters text).2) := by
  induction rounds generalizing types text with
  | zero => omega
  | succ rounds inductionHypothesis =>
      rw [Function.iterate_succ_apply, round]
      by_cases closed : text.head? = some ')'
      · rw [if_pos closed, iterate_ended, readParameters_closed closed]
        simp [Except.map]
      · rw [if_neg closed]
        rcases fieldRead : readField text with ⟨halt | type, rest⟩
        · rw [readParameters_of_halt closed fieldRead]
          exact iterate_ended rounds _
        · have shorter := length_readField fieldRead
          rw [readParameters_of_field closed fieldRead]
          dsimp only
          rw [inductionHypothesis (types ++ [type]) (by omega)]
          rcases (readParameters rest).1 with halt | others <;> simp [Except.map]

end Loop

/-! ## Complete texts -/

/-- What comes of reading a text. It is accepted if it is the rendering of a legal value whose
dimensions can be counted, and then as that value, which gives the text back. Reading overflows on
the texts given, the renderings of the other legal values among them. Every other text is
refused. -/
structure Grammar {α : Type} (read : String → Except (Halt ReadError) α) (render : α → String)
    (Legal Countable : α → Prop) (Exceeds : List Char → Prop) (source : String) : Prop where
  accepts : ∀ value,
    read source = .ok value ↔ render value = source ∧ Legal value ∧ Countable value
  reads_back : ∀ value, render value = source → Legal value → Countable value →
    read (render value) = .ok value
  renders_back : ∀ value, read source = .ok value → render value = source
  overflows : read source = .error .overflow ↔ Exceeds source.toList
  uncounted : ∀ value, render value = source → Legal value → ¬Countable value →
    Exceeds source.toList
  refuses : ¬Exceeds source.toList → (∀ value, render value = source → ¬Legal value) →
    ∃ cause, (read source).mapError Error.ofReading = .error (.badDescriptor cause) ∧
      cause.source = source

section Complete

variable {α : Type} {reader : List Char → Read α} {spell : α → List Char}
  {Readable Legal Countable : α → Prop} {Exceeds : List Char → Prop}

theorem Exact.readAll_eq_ok (exact : Exact reader spell Readable Exceeds) {source : String}
    {value : α} :
    readAll reader source = .ok value ↔ String.ofList (spell value) = source ∧ Readable value := by
  unfold readAll Cursor.next Cursor.start
  constructor
  · intro read
    rcases front : reader source.toList with ⟨halt | found, rest⟩
    · simp [front] at read
    · simp only [front, List.isEmpty_iff] at read
      split at read
      · rename_i complete
        cases read
        obtain ⟨cut, readable⟩ := exact.spelled front
        rw [complete, List.append_nil] at cut
        exact ⟨by rw [← cut, String.ofList_toList], readable⟩
      · cases read
  · rintro ⟨rfl, readable⟩
    have front := exact.reads [] readable
    rw [List.append_nil] at front
    simp [front]

theorem Exact.readAll_eq_overflow (exact : Exact reader spell Readable Exceeds)
    {source : String} : readAll reader source = .error .overflow ↔ Exceeds source.toList := by
  rw [← exact.overflows]
  unfold readAll Cursor.next Cursor.start
  rcases front : reader source.toList with ⟨halt | found, rest⟩
  · cases halt <;> simp [Halt.map]
  · refine iff_of_false ?_ nofun
    dsimp only
    split <;> exact nofun

theorem source_of_refused {source : String} {cause : ReadError}
    (refused : readAll reader source = .error (.refused cause)) : cause.source = source := by
  unfold readAll Cursor.next Cursor.start at refused
  rcases front : reader source.toList with ⟨halt | found, rest⟩
  · rw [front] at refused
    rcases halt with fault | _
    · cases refused
      rfl
    · cases refused
  · simp only [front] at refused
    split at refused
    · cases refused
    · cases refused
      rfl

/-- A reader of the front of texts makes a grammar of complete ones. -/
theorem Exact.grammar
    (exact : Exact reader spell (fun value => Legal value ∧ Countable value) Exceeds)
    (exceeds : ∀ value, Legal value → ¬Countable value → Exceeds (spell value))
    (source : String) :
    Grammar (readAll reader) (fun value => String.ofList (spell value)) Legal Countable
      Exceeds source where
  accepts _ := exact.readAll_eq_ok
  reads_back _ _ legal countable := exact.readAll_eq_ok.mpr ⟨rfl, legal, countable⟩
  renders_back _ read := (exact.readAll_eq_ok.mp read).1
  overflows := exact.readAll_eq_overflow
  uncounted := by
    rintro value rfl legal uncountable
    rw [String.toList_ofList]
    exact exceeds value legal uncountable
  refuses := by
    intro counted unspelled
    cases read : readAll reader source with
    | ok value =>
        obtain ⟨spelled, legal, -⟩ := exact.readAll_eq_ok.mp read
        exact absurd legal (unspelled value spelled)
    | error halt =>
        cases halt with
        | refused cause => exact ⟨cause, rfl, source_of_refused read⟩
        | overflow => exact absurd (exact.readAll_eq_overflow.mp read) counted

end Complete

/-- Any text is accepted as a descriptor exactly if it is the rendering of a type with legal class
names, none of whose arrays has more dimensions than can be counted, and then as that type. Reading
overflows exactly on the texts in which it meets more brackets than that, and any other text is
refused as a bad descriptor. The loop over the parameters has ended once it has had a round for
every character and one more. -/
theorem accepts_countable_renderings (source : String) :
    Grammar MethodType.ofString MethodType.render MethodType.Legal MethodType.Countable
        MethodTooDeep source ∧
      Grammar FieldType.ofString FieldType.render FieldType.Legal FieldType.Countable TooDeep
        source ∧
      ∀ text, Nat.iterate Loop.round (text.length + 1) (.running [] text) =
        .ended (readParameters text) := by
  refine ⟨exact_readMethod.grammar (fun _ => methodTooDeep_spell) source,
    exact_readField.grammar ?_ source, ?_⟩
  · intro type _ uncountable
    rw [← type.spell.append_nil]
    exact tooDeep_spell uncountable []
  · intro text
    rw [Loop.iterate_round [] (Nat.lt_succ_self text.length)]
    rcases readParameters text with ⟨halt | types, rest⟩ <;> rfl

/-- An array type with one dimension more than can be counted. -/
def deepestArray : FieldType :=
  .reference (.primitiveArray maxDimensions .int)

/-- Not every legal type is read back from its rendering. -/
theorem deepestArray_overflows :
    deepestArray.Legal ∧ FieldType.ofString deepestArray.render = .error .overflow ∧
      ¬ ∀ source value,
        FieldType.ofString source = .ok value ↔ FieldType.render value = source ∧ value.Legal := by
  have legal : deepestArray.Legal := nofun
  have uncountable : ¬deepestArray.Countable := Nat.not_succ_le_self maxDimensions
  have exceeds : FieldType.ofString deepestArray.render = .error .overflow := by
    refine exact_readField.readAll_eq_overflow.mpr ?_
    rw [FieldType.render, String.toList_ofList, ← deepestArray.spell.append_nil]
    exact tooDeep_spell uncountable []
  refine ⟨legal, exceeds, ?_⟩
  intro always
  have accepted := (always deepestArray.render deepestArray).mpr ⟨rfl, legal⟩
  rw [exceeds] at accepted
  cases accepted

end Descriptor

end TypedBytecode

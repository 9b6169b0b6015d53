import TypedBytecode.Proofs.Covariance
import TypedBytecode.Proofs.Layout

/-!
Contract: the texts that listings are made of are single lines as long as the names in them are.

Owns:
- `Text.OneLine`: texts without a line feed, and the texts made of such texts;
- numbers in digits and text between quotes, which have no line feed whatever they stand for;
- the texts of types, members, descriptions, instructions and emissions, taken back to the names
  in them.

Does not own: where the names of a routine come from.
-/

namespace TypedBytecode

/-! ## Texts -/

namespace Text

/-- A text without a line feed. -/
def OneLine (text : String) : Prop :=
  '\n' ∉ text.toList

instance (text : String) : Decidable (OneLine text) :=
  inferInstanceAs (Decidable ('\n' ∉ text.toList))

section OneLine

variable {first second separator : String}

@[simp] theorem oneLine_append :
    OneLine (first ++ second) ↔ OneLine first ∧ OneLine second := by
  rw [OneLine, String.toList_append, List.mem_append, not_or, OneLine, OneLine]

@[simp] theorem oneLine_ofList {text : List Char} :
    OneLine (String.ofList text) ↔ '\n' ∉ text := by
  rw [OneLine, String.toList_ofList]

/-- Text that is written out is looked through. -/
@[simp low] theorem oneLine_of_contains (absent : first.toList.contains '\n' = false) :
    OneLine first := by
  simpa [OneLine] using absent

theorem oneLine_intercalate (separated : OneLine separator) {parts : List String} :
    OneLine (separator.intercalate parts) ↔ ∀ part ∈ parts, OneLine part := by
  induction parts with
  | nil => simp
  | cons part parts inductionHypothesis =>
      cases parts with
      | nil => simp
      | cons next further =>
          rw [String.intercalate_cons_cons, oneLine_append, oneLine_append, inductionHypothesis,
            List.forall_mem_cons (a := part)]
          exact ⟨fun all => ⟨all.1.1, all.2⟩, fun all => ⟨⟨all.1, separated⟩, all.2⟩⟩

end OneLine

/-! ## Numbers -/

theorem digitChar_ne : ∀ digit < 16, '\n' ≠ Nat.digitChar digit := by
  decide

theorem not_mem_toDigits {base : Nat} (many : 1 < base) (few : base ≤ 16) (number : Nat) :
    '\n' ∉ Nat.toDigits base number := by
  induction number using Nat.strongRecOn with
  | ind number inductionHypothesis =>
      rw [Nat.toDigits_eq_if many]
      split
      · rename_i small
        exact List.not_mem_cons_of_ne_of_not_mem (digitChar_ne number (by omega)) List.not_mem_nil
      · have smaller : number / base < number := Nat.div_lt_self (by omega) many
        have remainder : number % base < base := Nat.mod_lt number (by omega)
        rw [List.mem_append, List.mem_singleton, not_or]
        exact ⟨inductionHypothesis _ smaller, digitChar_ne _ (by omega)⟩

@[simp] theorem oneLine_nat (number : Nat) : OneLine number.repr := by
  rw [Nat.repr_eq_ofList_toDigits, oneLine_ofList]
  exact not_mem_toDigits (by decide) (by decide) number

@[simp] theorem oneLine_int (number : Int) : OneLine number.repr := by
  cases number with
  | ofNat number => exact oneLine_nat number
  | negSucc number => exact oneLine_append.mpr ⟨by decide, oneLine_nat (number + 1)⟩

/-! ## Quoted texts -/

theorem not_mem_escape (c : Char) : '\n' ∉ escape c := by
  unfold escape
  split_ifs with quote backslash lineFeed carriageReturn tab zero ascii hidden
  iterate 6 decide
  · exact List.not_mem_cons_of_ne_of_not_mem (Ne.symm lineFeed) List.not_mem_nil
  · have digits := not_mem_toDigits (by decide) (Nat.le_refl 16) c.toNat
    simp only [hexDigits, List.cons_append, List.nil_append, List.mem_cons, List.mem_append,
      List.not_mem_nil, or_false, not_or]
    exact ⟨by decide, by decide, by decide, digits, by decide⟩
  · exact List.not_mem_cons_of_ne_of_not_mem (Ne.symm lineFeed) List.not_mem_nil

/-- Whatever a text holds, it is one line between quotes. -/
@[simp] theorem oneLine_quoted (text : String) : OneLine (quoted text) := by
  rw [quoted, oneLine_ofList]
  intro member
  rcases List.mem_append.mp member with opened | closed
  · rcases List.mem_cons.mp opened with quote | escaped
    · exact absurd quote (by decide)
    · obtain ⟨c, -, inEscape⟩ := List.mem_flatMap.mp escaped
      exact not_mem_escape c inEscape
  · exact absurd closed (by decide)

end Text

open Text

/-! ## Decimals -/

namespace Decimal

variable {digits : String}

theorem oneLine_zeros (count : Nat) : OneLine (zeros count) := by
  rw [zeros, oneLine_ofList]
  intro member
  exact absurd (List.eq_of_mem_replicate member) (by decide)

theorem oneLine_take (oneLine : OneLine digits) (count : Nat) :
    OneLine (String.ofList (digits.toList.take count)) :=
  oneLine_ofList.mpr fun member => oneLine (List.mem_of_mem_take member)

theorem oneLine_drop (oneLine : OneLine digits) (count : Nat) :
    OneLine (String.ofList (digits.toList.drop count)) :=
  oneLine_ofList.mpr fun member => oneLine (List.mem_of_mem_drop member)

theorem oneLine_positional (oneLine : OneLine digits) (leading : Int) :
    OneLine (positional digits leading) := by
  unfold positional
  dsimp only
  split_ifs
  · exact oneLine_append.mpr ⟨oneLine_append.mpr ⟨by decide, oneLine_zeros _⟩, oneLine⟩
  · exact oneLine_append.mpr ⟨oneLine_append.mpr ⟨oneLine, oneLine_zeros _⟩, by decide⟩
  · exact oneLine_append.mpr
      ⟨oneLine_append.mpr ⟨oneLine_take oneLine _, by decide⟩, oneLine_drop oneLine _⟩

theorem oneLine_scientific (oneLine : OneLine digits) (leading : Int) :
    OneLine (scientific digits leading) := by
  unfold scientific
  dsimp only
  refine oneLine_append.mpr ⟨oneLine_append.mpr ⟨?_, by decide⟩, oneLine_int leading⟩
  split_ifs
  · exact oneLine
  · exact oneLine_append.mpr
      ⟨oneLine_append.mpr ⟨oneLine_take oneLine _, by decide⟩, oneLine_drop oneLine _⟩

theorem oneLine_text (layout : DecimalLayout) (decimal : Decimal) :
    OneLine (decimal.text layout) := by
  have digits := oneLine_nat decimal.digits
  unfold text
  dsimp only
  split_ifs
  · exact oneLine_positional digits _
  · exact oneLine_scientific digits _

end Decimal

@[simp] theorem FloatFormat.oneLine_text (format : FloatFormat) (layout : DecimalLayout)
    (pattern : Nat) : OneLine (format.text layout pattern) := by
  have sign : ∀ negative : Bool, OneLine (if negative then "-" else "") := by decide
  unfold FloatFormat.text
  dsimp only
  split
  · decide
  · exact oneLine_append.mpr ⟨sign _, by decide⟩
  · split_ifs
    iterate 2 exact oneLine_append.mpr ⟨by decide, by decide⟩
    iterate 2 exact oneLine_append.mpr ⟨by decide, Decimal.oneLine_text _ _⟩

/-! ## Types -/

theorem Primitive.oneLine_keyword (primitive : Primitive) : OneLine primitive.keyword := by
  cases primitive <;> decide

namespace RefType

/-- A class operand is one line exactly if the descriptor is. -/
@[simp] theorem oneLine_operandText {type : RefType} :
    OneLine type.operandText ↔ OneLine type.render := by
  cases type with
  | object name =>
      rw [operandText, render, oneLine_ofList, spell, spellClass, ClassName.spell]
      simp [OneLine]
  | objectArray | primitiveArray => exact Iff.rfl

theorem oneLine_object {name : ClassName} :
    OneLine (RefType.object name).render ↔ OneLine name.text := by
  rw [← oneLine_operandText, operandText]

@[simp] theorem oneLine_array {component : FieldType} :
    OneLine (array component).render ↔ OneLine component.render := by
  have bracketed : (array component).spell = '[' :: component.spell := by
    rcases component with primitive | (name | ⟨extra, name⟩ | ⟨extra, primitive⟩) <;> rfl
  rw [render, FieldType.render, oneLine_ofList, oneLine_ofList, bracketed, List.mem_cons, not_or]
  exact ⟨fun both => both.2, fun later => ⟨by decide, later⟩⟩

end RefType

@[simp] theorem FieldType.oneLine_primitive (primitive : Primitive) :
    OneLine (FieldType.primitive primitive).render := by
  cases primitive <;> decide

@[simp] theorem FieldType.oneLine_reference {type : RefType} :
    OneLine (FieldType.reference type).render ↔ OneLine type.render :=
  Iff.rfl

@[simp] theorem FieldType.oneLine_object {name : ClassName} :
    OneLine (FieldType.object name).render ↔ OneLine name.text :=
  RefType.oneLine_object

/-- The descriptor of a method is one line exactly if those of its parameters and its result
are. -/
theorem MethodType.oneLine_render {type : MethodType} :
    OneLine type.render ↔ (∀ parameter ∈ type.parameters, OneLine parameter.render) ∧
      ∀ result ∈ type.result, OneLine result.render := by
  have parameters : '\n' ∉ (type.parameters.map FieldType.spell).flatten ↔
      ∀ parameter ∈ type.parameters, OneLine parameter.render := by
    simp [FieldType.render]
  have result : '\n' ∉ (type.result.map FieldType.spell).getD ['V'] ↔
      ∀ result ∈ type.result, OneLine result.render := by
    cases type.result <;> simp [FieldType.render]
  rw [← parameters, ← result, render, spell, oneLine_ofList]
  simp

namespace ValueType

@[simp] theorem oneLine_ofPrimitive (primitive : Primitive) :
    OneLine (ofPrimitive primitive).text := by
  cases primitive <;> decide

@[simp] theorem oneLine_int (kind : IntKind) : OneLine (ValueType.int kind).text := by
  cases kind <;> decide

@[simp] theorem oneLine_reference {type : RefType} :
    OneLine (ValueType.reference type).text ↔ OneLine type.render :=
  RefType.oneLine_operandText

@[simp] theorem oneLine_object {name : ClassName} :
    OneLine (ValueType.object name).text ↔ OneLine name.text :=
  Iff.rfl

@[simp] theorem oneLine_ofFieldType {type : FieldType} :
    OneLine (ofFieldType type).text ↔ OneLine type.render := by
  cases type with
  | primitive primitive => simp [ofFieldType]
  | reference type => exact oneLine_reference

/-- The field that a value fits in has its type. -/
theorem oneLine_of_fieldType? {value : ValueType} {type : FieldType}
    (held : value.fieldType? = some type) (oneLine : OneLine value.text) :
    OneLine type.render := by
  cases value with
  | int | long | float | double =>
      cases held
      exact FieldType.oneLine_primitive _
  | reference type =>
      cases held
      exact oneLine_reference.mp oneLine
  | top => cases held

theorem oneLine_listText {values : List ValueType} :
    OneLine (listText values) ↔ ∀ value ∈ values, OneLine value.text := by
  rw [listText, oneLine_append, oneLine_append, oneLine_intercalate (by decide)]
  simp

end ValueType

/-- A description is one line exactly if the values that it lists are. -/
theorem FrameDelta.oneLine_text {delta : FrameDelta} :
    OneLine delta.text ↔ ∀ value ∈ delta.payload, OneLine value.text := by
  unfold text payload
  cases delta with
  | same => simp
  | sameOneStack value => simp
  | append locals => simp [ValueType.oneLine_listText]
  | chop locals => simp [ValueType.oneLine_listText]
  | full locals stack => simp [ValueType.oneLine_listText, or_imp, forall_and]

/-! ## Members -/

theorem Method.oneLine_text {method : Method} :
    OneLine method.text ↔
      OneLine method.owner.text ∧ OneLine method.name.text ∧ OneLine method.type.render := by
  unfold text
  simp [and_assoc]

theorem Field.oneLine_text {field : Field} :
    OneLine field.text ↔
      OneLine field.owner.text ∧ OneLine field.name.text ∧ OneLine field.type.render := by
  unfold text
  simp [and_assoc]

/-! ## Instructions -/

theorem HandleKind.oneLine_text (kind : HandleKind) : OneLine kind.text := by
  cases kind <;> decide

theorem InvokeKind.oneLine_mnemonic (kind : InvokeKind) : OneLine kind.mnemonic := by
  unfold mnemonic
  cases kind <;> simp

theorem Label.oneLine_text (label : Label) : OneLine label.text := by
  unfold text
  simp

theorem Constant.oneLine_methodHandle {kind : HandleKind} {method : Method} :
    OneLine (Constant.methodHandle kind method).text ↔ OneLine method.text := by
  unfold text
  simp [kind.oneLine_text]

theorem Constant.oneLine_fieldHandle {kind : HandleKind} {field : Field} :
    OneLine (Constant.fieldHandle kind field).text ↔ OneLine field.text := by
  unfold text
  simp [kind.oneLine_text]

theorem CallSite.oneLine_text {site : CallSite} (name : OneLine site.name.text)
    (type : OneLine site.type.render) (bootstrap : OneLine site.bootstrap.text)
    (arguments : ∀ argument ∈ site.arguments, OneLine argument.text) : OneLine site.text := by
  have listed : OneLine
      (String.intercalate ", " (site.bootstrap.text :: site.arguments.map Constant.text)) := by
    rw [oneLine_intercalate (by decide), List.forall_mem_cons, List.forall_mem_map]
    exact ⟨bootstrap, arguments⟩
  unfold text
  simp [name, type, listed]

namespace Instruction

/-- Texts of the operands that come from outside: constants, members and classes. -/
def operandTexts : Instruction → List String
  | .loadConstant constant | .loadWideConstant constant => [constant.text]
  | .getStatic field | .putStatic field | .getField field | .putField field => [field.text]
  | .invoke _ method => [method.text]
  | .invokeDynamic site => [site.text]
  | .newObject name => [name.text]
  | .newReferenceArray type | .checkCast type | .instanceOf type => [type.operandText]
  | _ => []

/-- All else in an instruction is one line. -/
theorem oneLine_text {instruction : Instruction}
    (operands : ∀ operand ∈ instruction.operandTexts, OneLine operand) :
    OneLine instruction.text := by
  unfold text
  cases instruction with
  | load kind slot | store kind slot | arrayLoad kind | arrayStore kind | negate kind
  | returnValue kind =>
      cases kind <;> simp [SlotKind.letter, ElementKind.letter, NumericKind.letter]
  | arithmetic op kind | bitwise op kind | shift op kind => cases op <;> cases kind <;> decide
  | convert conversion => cases conversion <;> decide
  | compareFloat withNaN | compareDouble withNaN => cases withNaN <;> decide
  | ifZero comparison target | ifInt comparison target =>
      cases comparison <;> simp [OrdComparison.mnemonic, target.oneLine_text]
  | ifReference comparison target | ifNull comparison target =>
      cases comparison <;> simp [EqComparison.mnemonic, target.oneLine_text]
  | goto target => simp [target.oneLine_text]
  | invoke kind method =>
      have named : OneLine method.text := operands _ List.mem_cons_self
      simp [named, kind.oneLine_mnemonic]
  | newArray element => simp [element.oneLine_keyword]
  | loadConstant | loadWideConstant | getStatic | putStatic | getField | putField | invokeDynamic
  | newObject =>
      have named := operands _ List.mem_cons_self
      simp [named]
  | newReferenceArray | checkCast | instanceOf =>
      have named := RefType.oneLine_operandText.mp (operands _ List.mem_cons_self)
      simp [named]
  | _ => simp

theorem oneLine_of_plain {instruction : Instruction} (plain : instruction.operandTexts = []) :
    OneLine instruction.text := by
  apply oneLine_text
  rw [plain]
  exact List.forall_mem_nil _

theorem oneLine_of_operand {instruction : Instruction} {operand : String}
    (single : instruction.operandTexts = [operand]) (oneLine : OneLine operand) :
    OneLine instruction.text := by
  apply oneLine_text
  rw [single]
  exact List.forall_mem_singleton.mpr oneLine

end Instruction

theorem Emission.oneLine_label (label : Label) : OneLine (Emission.label label).text := by
  unfold text
  simp [label.oneLine_text]

theorem Emission.oneLine_frame {delta : FrameDelta} (listed : OneLine delta.text) :
    OneLine (Emission.frame delta).text := by
  unfold text
  simp [listed]

theorem Emission.oneLine_instruction {instruction : Instruction}
    (oneLine : OneLine instruction.text) : OneLine (Emission.instruction instruction).text := by
  unfold text
  simp [oneLine]

theorem CodeSize.oneLine_text (size : CodeSize) : OneLine size.text := by
  unfold text
  simp

end TypedBytecode

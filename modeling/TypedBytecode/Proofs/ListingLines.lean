import TypedBytecode.CommandLine
import TypedBytecode.Proofs.Formatting
import TypedBytecode.Proofs.Grammar
import TypedBytecode.Proofs.OneLineRun
import TypedBytecode.Proofs.Size

/-!
Contract: no operand of a script breaks or imitates a line of its listing.

Owns:
- `Resolving.Gives`: what the words of a script stand for is one line, because the words are;
- statements, sessions and whole scripts as computations that keep everything on one line;
- the lines of a printed listing, one for each emission, and which of them are instructions.

Does not own: how calls keep a routine on one line.
-/

namespace TypedBytecode

open Text

/-! ## Words and what they stand for -/

namespace Script

namespace Resolving

/-- From a graph on one line, the computation comes to values of the given kind, and whatever it
comes to, it leaves a graph on one line. -/
def Gives {α : Type} (resolving : Resolving α) (Kind : α → Prop) : Prop :=
  ∀ graph : ClassGraph, graph.OneLine → (resolving.run graph).2.OneLine ∧
    ∀ value, (resolving.run graph).1 = .ok value → Kind value

section Gives

variable {α β : Type} {Kind : α → Prop} {LaterKind : β → Prop}

theorem Gives.pure {value : α} (kind : Kind value) :
    Gives (Pure.pure value : Resolving α) Kind := by
  intro graph named
  refine ⟨named, ?_⟩
  rintro result ⟨⟩
  exact kind

theorem Gives.throw (fault : Fault) : Gives (MonadExcept.throw fault : Resolving α) Kind := by
  intro graph named
  exact ⟨named, nofun⟩

theorem Gives.get : Gives (MonadState.get : Resolving ClassGraph) ClassGraph.OneLine := by
  intro graph named
  refine ⟨named, ?_⟩
  rintro result ⟨⟩
  exact named

theorem Gives.bind {first : Resolving α} {next : α → Resolving β} (gives : first.Gives Kind)
    (givesOn : ∀ value, Kind value → (next value).Gives LaterKind) :
    (first >>= next).Gives LaterKind := by
  intro graph named
  obtain ⟨after, kind⟩ := gives graph named
  show ((ExceptT.bindCont next (first.run graph).1) (first.run graph).2).2.OneLine ∧
    ∀ value, ((ExceptT.bindCont next (first.run graph).1) (first.run graph).2).1 = .ok value →
      LaterKind value
  generalize first.run graph = outcome at after kind ⊢
  rcases outcome with ⟨fault | value, extended⟩
  · exact ⟨after, nofun⟩
  · exact givesOn value (kind value rfl) extended after

theorem Gives.checked {ε : Type} {checked : Except ε α} {resolve : Except ε α → Resolving α}
    (ok : ∀ value, resolve (.ok value) = Pure.pure value)
    (error : ∀ cause, ∃ fault, resolve (.error cause) = MonadExcept.throw fault)
    (kind : ∀ value, checked = .ok value → Kind value) : (resolve checked).Gives Kind := by
  cases checked with
  | ok value =>
      rw [ok]
      exact .pure (kind value rfl)
  | error cause =>
      obtain ⟨fault, refused⟩ := error cause
      rw [refused]
      exact .throw fault

theorem Gives.wording {checked : Except SyntaxFault α}
    (kind : ∀ value, checked = .ok value → Kind value) : (wording checked).Gives Kind :=
  .checked (fun _ => rfl) (fun _ => ⟨_, rfl⟩) kind

theorem Gives.assembling {checked : Except Error α}
    (kind : ∀ value, checked = .ok value → Kind value) : (assembling checked).Gives Kind :=
  .checked (fun _ => rfl) (fun _ => ⟨_, rfl⟩) kind

theorem Gives.naming {checked : Except NameError α}
    (kind : ∀ value, checked = .ok value → Kind value) : (naming checked).Gives Kind :=
  .checked (fun _ => rfl) (fun _ => ⟨_, rfl⟩) kind

end Gives

theorem gives_addClass (name : ClassName) (isInterface : Bool) :
    (addClass name isInterface).Gives fun _ => True := by
  refine .bind .get ?_
  intro graph named
  split
  · exact .pure trivial
  · split
    · exact fun _ _ => ⟨named.insert (.of_bare rfl rfl), fun _ _ => trivial⟩
    · exact .throw _

theorem gives_addMethod {method : Method} (oneLine : OneLine method.text) :
    (modifyGet (fun graph => graph.addMethod method) : Resolving Method).Gives
      fun method => OneLine method.text := by
  intro graph named
  have added := named.addMethod oneLine
  refine ⟨added.2, ?_⟩
  rintro value ⟨⟩
  exact added.1

theorem gives_addField {field : Field} (oneLine : OneLine field.text) :
    (modifyGet (fun graph => graph.addField field) : Resolving Field).Gives
      fun field => OneLine field.text := by
  intro graph named
  have added := named.addField oneLine
  refine ⟨added.2, ?_⟩
  rintro value ⟨⟩
  exact added.1

theorem gives_mention (names : List ClassName) : (mention names).Gives fun _ => True := by
  induction names with
  | nil => exact .pure trivial
  | cons name further inductionHypothesis =>
      exact .bind (gives_addClass name false) fun _ _ => inductionHypothesis

section Words

variable {word name descriptor : String}

theorem gives_classNamed (oneLine : OneLine word) (isInterface : Bool) :
    (classNamed word isInterface).Gives fun name => OneLine name.text := by
  have names : (naming (ClassName.ofString word)).Gives fun name => OneLine name.text := by
    apply Gives.naming
    intro name accepted
    rw [(ClassName.ofString_eq_ok.mp accepted).2]
    exact oneLine
  refine .bind names ?_
  intro name named
  exact .bind (gives_addClass name isInterface) fun _ _ => .pure named

theorem gives_memberName (oneLine : OneLine name) :
    (naming (MemberName.ofString name)).Gives fun member => OneLine member.text := by
  apply Gives.naming
  intro member accepted
  unfold MemberName.ofString at accepted
  split_ifs at accepted
  cases accepted
  exact oneLine

/-- A descriptor is read as what it spells. -/
theorem gives_descriptor {α : Type} {reader : List Char → Descriptor.Read α}
    {spell : α → List Char} {Readable : α → Prop} {Exceeds : List Char → Prop}
    (exact : Descriptor.Exact reader spell Readable Exceeds) (oneLine : OneLine descriptor) :
    (assembling ((Descriptor.readAll reader descriptor).mapError .ofReading)).Gives
      fun value => OneLine (String.ofList (spell value)) := by
  apply Gives.assembling
  intro value accepted
  cases read : Descriptor.readAll reader descriptor with
  | error cause =>
      rw [read] at accepted
      cases accepted
  | ok found =>
      rw [read] at accepted
      cases accepted
      rw [(exact.readAll_eq_ok.mp read).1]
      exact oneLine

theorem gives_fieldType (oneLine : OneLine descriptor) :
    (fieldType descriptor).Gives fun type => OneLine type.render := by
  refine .bind (gives_descriptor Descriptor.exact_readField oneLine) ?_
  intro type typeOneLine
  exact .bind (gives_mention _) fun _ _ => .pure typeOneLine

theorem gives_refType (oneLine : OneLine descriptor) :
    (refType descriptor).Gives fun type => OneLine type.render := by
  refine .bind (gives_fieldType oneLine) ?_
  intro type typeOneLine
  cases type with
  | reference type => exact .pure typeOneLine
  | primitive type => exact .throw _

theorem gives_methodType (oneLine : OneLine descriptor) :
    (methodType descriptor).Gives fun type => OneLine type.render := by
  refine .bind (gives_descriptor Descriptor.exact_readMethod oneLine) ?_
  intro type typeOneLine
  exact .bind (gives_mention _) fun _ _ => .pure typeOneLine

end Words

end Resolving

/-- The three words for a method are one line each. -/
structure MethodWords.OneLine (words : MethodWords) : Prop where
  owner : Text.OneLine words.owner
  name : Text.OneLine words.name
  descriptor : Text.OneLine words.descriptor

namespace Resolving

theorem gives_method {words : MethodWords} (oneLine : words.OneLine) (flags : MethodFlags)
    (isInterface : Bool) :
    (method words flags isInterface).Gives fun method => OneLine method.text := by
  refine .bind (gives_classNamed oneLine.owner isInterface) ?_
  intro owner ownerOneLine
  refine .bind (gives_memberName oneLine.name) ?_
  intro name nameOneLine
  refine .bind (gives_methodType oneLine.descriptor) ?_
  intro type typeOneLine
  exact gives_addMethod (Method.oneLine_text.mpr ⟨ownerOneLine, nameOneLine, typeOneLine⟩)

theorem gives_methodOfKind {words : MethodWords} (oneLine : words.OneLine) (kind : MethodKind) :
    (methodOfKind kind words).Gives fun method => OneLine method.text := by
  cases kind <;> exact gives_method oneLine _ _

theorem gives_field {owner : ClassName} {name descriptor : String} (isStatic : Bool)
    (ownerOneLine : OneLine owner.text) (nameOneLine : OneLine name)
    (descriptorOneLine : OneLine descriptor) :
    (field owner isStatic name descriptor).Gives fun field => OneLine field.text := by
  refine .bind (gives_memberName nameOneLine) ?_
  intro member memberOneLine
  refine .bind (gives_fieldType descriptorOneLine) ?_
  intro type typeOneLine
  exact gives_addField (Field.oneLine_text.mpr ⟨ownerOneLine, memberOneLine, typeOneLine⟩)

end Resolving

/-! ## Statements -/

/-- The words of a statement are one line each. Names of labels do not matter, since they are not
written. -/
def Statement.OneLine : Statement → Prop
  | .field _ name descriptor => Text.OneLine name ∧ Text.OneLine descriptor
  | .operation performed => performed.OneLine
  | .null word | .default word | .newArray word | .newObject word | .cast word _
  | .instanceOf word => Text.OneLine word
  | .invoke _ words => words.OneLine
  | .lambda interface _ words => Text.OneLine interface ∧ words.OneLine
  | .lambdaField interface _ => Text.OneLine interface
  | .jump _ _ _ | .label _ | .labelFromEntry _ | .labelFrom _ _ => True

/-- What is read is a statement on one line. -/
def ReadsOneLine (reading : Except SyntaxFault Statement) : Prop :=
  ∀ statement, reading = .ok statement → statement.OneLine

namespace ReadsOneLine

variable {operation : String} {arguments : List String}

theorem ok {statement : Statement} (oneLine : statement.OneLine) :
    ReadsOneLine (.ok statement) := by
  rintro _ ⟨⟩
  exact oneLine

theorem error (fault : SyntaxFault) : ReadsOneLine (.error fault) := by
  rintro _ ⟨⟩

/-- Operations without members or types are one line. -/
theorem plain {operation : Operation} (none : operation.operandTexts = []) :
    ReadsOneLine (.ok (.operation operation)) := by
  apply ok
  rw [Statement.OneLine, Operation.OneLine, none]
  exact List.forall_mem_nil _

theorem bind {α : Type} (value : Except SyntaxFault α) {next : α → Except SyntaxFault Statement}
    (reads : ∀ value, ReadsOneLine (next value)) : ReadsOneLine (value >>= next) := by
  cases value with
  | error fault => exact error fault
  | ok value => exact reads value

theorem noArguments {result : Statement} (reads : ReadsOneLine (.ok result)) :
    ReadsOneLine (noArguments operation arguments result) := by
  cases arguments with
  | nil => exact reads
  | cons first further => exact error _

theorem oneArgument {result : String → Except SyntaxFault Statement}
    (oneLine : ∀ word ∈ arguments, Text.OneLine word)
    (reads : ∀ word, Text.OneLine word → ReadsOneLine (result word)) :
    ReadsOneLine (oneArgument operation arguments result) := by
  rcases arguments with _ | ⟨first, _ | ⟨second, further⟩⟩
  · exact error _
  · exact reads first (oneLine first List.mem_cons_self)
  · exact error _

theorem twoArguments {result : String → String → Except SyntaxFault Statement}
    (oneLine : ∀ word ∈ arguments, Text.OneLine word)
    (reads : ∀ first second, Text.OneLine first → ReadsOneLine (result first second)) :
    ReadsOneLine (twoArguments operation arguments result) := by
  rcases arguments with _ | ⟨first, _ | ⟨second, _ | ⟨third, further⟩⟩⟩
  · exact error _
  · exact error _
  · exact reads first second (oneLine first List.mem_cons_self)
  · exact error _

theorem conditional {α : Type} {ofMnemonic? : String → Option α} {branch : α → Branch} :
    ReadsOneLine (conditional operation arguments ofMnemonic? branch) := by
  unfold Script.conditional
  split
  · split
    · exact ok trivial
    · exact error _
  · exact error _

theorem constant (kind : String) {word : String} (oneLine : Text.OneLine word) :
    ReadsOneLine (constant kind word) := by
  unfold Script.constant
  dsimp only
  split
  iterate 8 exact bind _ fun _ => plain rfl
  · exact ok oneLine
  · exact error _

end ReadsOneLine

theorem plainOperation?_operandTexts {word : String} {operation : Operation}
    (found : plainOperation? word = some operation) : operation.operandTexts = [] := by
  unfold plainOperation? at found
  split at found <;> cases found <;> rfl

/-- Statements are made of words of their line. -/
theorem readsOneLine_ofWords (text : List Char) (operation : String) {arguments : List String}
    (oneLine : ∀ word ∈ arguments, Text.OneLine word) :
    ReadsOneLine (Statement.ofWords text operation arguments) := by
  unfold Statement.ofWords
  split
  · rename_i operation found
    exact .noArguments (.plain (plainOperation?_operandTexts found))
  · split
    · -- `field`
      split
      · exact .bind _ fun _ => .ok ⟨oneLine _ (by simp), oneLine _ (by simp)⟩
      · exact .error _
    · -- `const`
      split
      · split
        · exact .plain rfl
        · split
          · exact .constant _ (oneLine _ (by simp))
          · exact .error _
      · exact .error _
    · -- `default`
      exact .oneArgument oneLine fun _ word => .ok word
    · -- `convert`
      apply ReadsOneLine.oneArgument oneLine
      intro keyword _
      split
      · exact .plain rfl
      · exact .error _
    · -- `load_param`
      exact .oneArgument oneLine fun _ _ => .bind _ fun _ => .plain rfl
    · -- `load`
      exact .oneArgument oneLine fun _ _ => .bind _ fun _ => .plain rfl
    · -- `store`
      split
      · exact .plain rfl
      · exact .bind _ fun _ => .plain rfl
      · exact .error _
    · -- `inc`
      exact .twoArguments oneLine fun _ _ _ => .bind _ fun _ => .bind _ fun _ => .plain rfl
    · -- `label`
      exact .oneArgument oneLine fun _ _ => .ok trivial
    · -- `label_from_entry`
      exact .oneArgument oneLine fun _ _ => .ok trivial
    · -- `label_from`
      exact .twoArguments oneLine fun _ _ _ => .ok trivial
    · -- `goto`
      exact .twoArguments oneLine fun _ _ _ => .ok trivial
    -- The four conditional jumps.
    iterate 4 exact .conditional
    · -- `get_field`
      exact .oneArgument oneLine fun _ _ => .plain rfl
    · -- `put_field`
      exact .oneArgument oneLine fun _ _ => .plain rfl
    · -- `new_array`
      exact .oneArgument oneLine fun _ word => .ok word
    · -- `new`
      exact .oneArgument oneLine fun _ word => .ok word
    · -- `cast`
      exact .oneArgument oneLine fun _ word => .ok word
    · -- `cast_unchecked`
      exact .oneArgument oneLine fun _ word => .ok word
    · -- `instance_of`
      exact .oneArgument oneLine fun _ word => .ok word
    · -- `invoke`
      split
      · exact .bind _ fun _ =>
          .ok ⟨oneLine _ (by simp), oneLine _ (by simp), oneLine _ (by simp)⟩
      · exact .error _
    · -- `lambda`
      split
      · exact .ok ⟨oneLine _ (by simp), oneLine _ (by simp), oneLine _ (by simp),
          oneLine _ (by simp)⟩
      · exact .error _
    · -- `lambda_field`
      exact .twoArguments oneLine fun _ _ word => .ok word
    · exact .error _

/-- A line feed is blank, so that no word holds one. -/
theorem oneLine_of_mem_words {text : List Char} {word : String}
    (member : word ∈ (Text.words text).map String.ofList) : Text.OneLine word := by
  obtain ⟨characters, isListed, rfl⟩ := List.mem_map.mp member
  rw [oneLine_ofList]
  intro feed
  exact absurd ((isWord_of_mem_words isListed).2 _ feed) (by decide)

theorem oneLine_of_header {text : List Char} {header : Header}
    (read : Header.ofLine text = .ok header) : header.words.OneLine := by
  have words : ∀ word ∈ (Text.words text).map String.ofList, Text.OneLine word :=
    fun _ => oneLine_of_mem_words
  unfold Header.ofLine at read
  split at read
  · rename_i kind owner name descriptor split
    rw [split] at words
    obtain ⟨isStatic, -, rest⟩ := bind_eq_ok.mp read
    cases rest
    exact ⟨words _ (by simp), words _ (by simp), words _ (by simp)⟩
  · cases read
  · cases read

end Script

/-! ## Sessions -/

namespace Session

open Script Resolving

variable {session next last : Session} {graph extended : ClassGraph}

theorem gives_begin (text : List Char) :
    (begin text).Gives fun session => session.builder.OneLine := by
  have headers : (wording (Header.ofLine text)).Gives fun header => header.words.OneLine :=
    .wording fun _ => oneLine_of_header
  refine .bind headers ?_
  intro header words
  refine .bind (gives_methodOfKind words _) ?_
  intro routine named
  exact .pure (.start named)

theorem gives_call {request : Call} (oneLine : session.builder.OneLine) (given : request.OneLine) :
    (session.call request).Gives fun next => next.builder.OneLine := by
  refine .bind .get ?_
  intro graph named
  have calls : (assembling (session.builder.call graph request)).Gives Builder.OneLine :=
    .assembling fun _ called => oneLine.makes named given (Builder.makes_of_call called)
  exact .bind calls fun _ nextOneLine => .pure nextOneLine

theorem oneLine_label (oneLine : session.builder.OneLine) (name : String) :
    (session.label name).2.builder.OneLine := by
  unfold label
  split
  · exact oneLine
  · exact ⟨oneLine.routine, ⟨oneLine.frames.entry, oneLine.frames.current, oneLine.frames.labels⟩,
      oneLine.deltas, oneLine.emissions⟩

theorem oneLine_label? (oneLine : session.builder.OneLine) (name : Option String) :
    (session.label? name).2.builder.OneLine := by
  cases name with
  | none => exact oneLine
  | some name => exact oneLine_label oneLine name

/-- A statement on one line keeps a session on one line. -/
theorem gives_run (oneLine : session.builder.OneLine) {statement : Statement}
    (words : statement.OneLine) :
    (session.run statement).Gives fun next => next.builder.OneLine := by
  have operates : ∀ operation : Operation, operation.OneLine →
      (session.operate operation).Gives fun next => next.builder.OneLine :=
    fun _ operands => gives_call oneLine operands
  have one : ∀ {operation : Operation} {text : String}, operation.operandTexts = [text] →
      Text.OneLine text → operation.OneLine :=
    fun listed => (Operation.oneLine_iff_of_operand listed).mpr
  cases statement with
  | field isStatic name descriptor =>
      have owner := (Method.oneLine_text.mp oneLine.routine).1
      exact .bind (gives_field isStatic owner words.1 words.2) fun _ _ => .pure oneLine
  | operation operation => exact operates operation words
  | null descriptor =>
      exact .bind (gives_refType words) fun _ type => operates _ (one rfl type)
  | default descriptor =>
      exact .bind (gives_fieldType words) fun _ type => operates _ (one rfl type)
  | newArray descriptor =>
      exact .bind (gives_fieldType words) fun _ type => operates _ (one rfl type)
  | newObject name =>
      exact .bind (gives_classNamed words false) fun _ named => operates _ (one rfl named)
  | cast descriptor unchecked =>
      exact .bind (gives_refType words) fun _ type => operates _ (one rfl type)
  | instanceOf descriptor =>
      exact .bind (gives_refType words) fun _ type => operates _ (one rfl type)
  | invoke kind methodWords =>
      refine .bind (gives_methodOfKind words kind) ?_
      intro method named
      split
      · exact operates _ (one rfl named)
      · exact operates _ (one rfl named)
  | lambda interfaceWord kindWord methodWords =>
      refine .bind (gives_classNamed words.1 true) ?_
      intro interface interfaceOneLine
      have kinds : (wording (staticness kindWord)).Gives fun _ => True :=
        .wording fun _ _ => trivial
      refine .bind kinds ?_
      intro isStatic _
      refine .bind (gives_methodOfKind words.2 _) ?_
      intro method named
      exact operates _ ((Operation.oneLine_iff_of_operands rfl).mpr ⟨named, interfaceOneLine⟩)
  | lambdaField interfaceWord name =>
      refine .bind (gives_classNamed words true) ?_
      intro interface interfaceOneLine
      refine .bind .get ?_
      intro graph named
      have fields : (assembling (Operation.ownField graph session.builder.routine name)).Gives
          fun field => Text.OneLine field.text := by
        apply Gives.assembling
        intro field owned
        exact named.ownField owned
      refine .bind fields ?_
      intro field fieldOneLine
      exact operates _ ((Operation.oneLine_iff_of_operands rfl).mpr ⟨fieldOneLine, interfaceOneLine⟩)
  | jump branch sourceName targetName =>
      exact gives_call (oneLine_label (oneLine_label? oneLine sourceName) targetName) trivial
  | label name | labelFromEntry name => exact gives_call (oneLine_label oneLine name) trivial
  | labelFrom sourceName name =>
      exact gives_call (oneLine_label (oneLine_label oneLine sourceName) name) trivial

theorem gives_runLine (oneLine : session.builder.OneLine) (text : List Char) :
    (session.runLine text).Gives fun next => next.builder.OneLine := by
  have words : ∀ word ∈ (Text.words text).map String.ofList, Text.OneLine word :=
    fun _ => oneLine_of_mem_words
  unfold runLine
  split
  · exact .pure oneLine
  · rename_i operation arguments split
    rw [split] at words
    have statements : (wording (Statement.ofWords text operation arguments)).Gives
        Statement.OneLine :=
      .wording (readsOneLine_ofWords text operation fun word member =>
        words word (List.mem_cons_of_mem operation member))
    exact .bind statements fun _ statement => gives_run oneLine statement

/-- Lines that come to a listing all pass, and the routine is then finished. -/
theorem passes_of_finished {lines : List (Nat × List Char)} {lastLine : Nat} {listing : Listing}
    (finished : (session.runLines graph lastLine lines).1 = .ok listing) :
    ∃ last extended, session.Passes graph lines last extended ∧
      last.builder.finish = .ok listing := by
  induction lines generalizing session graph lastLine with
  | nil =>
      rw [runLines] at finished
      refine ⟨session, graph, .done, ?_⟩
      cases built : session.builder.finish with
      | ok found =>
          rw [built] at finished
          cases finished
          rfl
      | error cause =>
          rw [built] at finished
          cases finished
  | cons line lines inductionHypothesis =>
      rcases ran : (session.runLine line.2).run graph with ⟨fault | next, between⟩
      · rw [runLines_of_error ran] at finished
        cases finished
      · rw [runLines_of_ok ran] at finished
        obtain ⟨last, extended, rest, built⟩ := inductionHypothesis finished
        exact ⟨last, extended, .line ran rest, built⟩

/-- Lines that pass keep a session on one line. -/
theorem Passes.oneLine {lines : List (Nat × List Char)}
    (passes : session.Passes graph lines last extended) (named : graph.OneLine)
    (oneLine : session.builder.OneLine) : last.builder.OneLine := by
  induction passes with
  | done => exact oneLine
  | line ran rest inductionHypothesis =>
      obtain ⟨after, next⟩ := gives_runLine oneLine _ _ named
      rw [ran] at after next
      exact inductionHypothesis after (next _ rfl)

end Session

namespace Script

/-- A script that is assembled passes line by line and is then finished. -/
theorem passes_of_assembled {graph : ClassGraph} {source : String} {listing : Listing}
    (assembled : (assemble graph source).1 = .ok listing) :
    ∃ last extended, Passes graph source last extended ∧ last.builder.finish = .ok listing := by
  rcases counted : countedLines source with _ | ⟨line, further⟩
  · rw [assemble, counted] at assembled
    cases assembled
  · rcases header : (Session.begin line.2).run graph with ⟨fault | begun, between⟩
    · rw [assemble_of_refused counted header] at assembled
      cases assembled
    · rw [assemble_of_begun counted header] at assembled
      obtain ⟨last, extended, rest, finished⟩ := Session.passes_of_finished assembled
      exact ⟨last, extended, ⟨line, further, begun, between, counted, header, rest⟩, finished⟩

/-- Whatever a script holds, every emission of the listing it is assembled to is one line. -/
theorem oneLine_of_assembled {graph : ClassGraph} {source : String} {listing : Listing}
    (named : graph.OneLine) (assembled : (assemble graph source).1 = .ok listing) :
    ∀ emission ∈ listing.emissions, Text.OneLine emission.text := by
  obtain ⟨last, extended, passes, finished⟩ := passes_of_assembled assembled
  obtain ⟨line, further, begun, between, -, header, rest⟩ := passes
  obtain ⟨after, begunOneLine⟩ := Session.gives_begin line.2 graph named
  rw [header] at after begunOneLine
  rw [Builder.emissions_of_finish finished]
  exact (rest.oneLine after (begunOneLine begun rfl)).emissions

end Script

/-! ## Printed listings -/

namespace Listing

/-- A printed line that is an instruction: it is indented, and what follows is neither a frame in
brackets nor the size behind a semicolon. -/
def isInstructionLine (line : List Char) : Bool :=
  line.take 2 == [' ', ' '] && (line.drop 2).head?.any (fun first => first != '[' && first != ';')

theorem isInstructionLine_instruction (instruction : Instruction) :
    isInstructionLine (' ' :: ' ' :: instruction.text.toList) = true := by
  unfold isInstructionLine Instruction.text
  cases instruction with
  | load kind slot | store kind slot | returnValue kind =>
      unfold SlotKind.letter
      cases kind <;> simp
  | arrayLoad kind | arrayStore kind =>
      unfold ElementKind.letter
      cases kind <;> simp
  | arithmetic op kind | negate kind =>
      unfold NumericKind.letter
      cases kind <;> simp
  | bitwise op kind | shift kind op =>
      unfold IntegralKind.letter NumericKind.letter
      cases kind <;> simp [IntegralKind.numeric]
  | convert conversion =>
      unfold Conversion.mnemonic
      cases conversion <;> simp
  | ifNull comparison target => cases comparison <;> simp
  | invoke kind method =>
      unfold InvokeKind.mnemonic
      cases kind <;> simp
  | _ => simp

/-- Which lines are instructions can be told from their text. -/
theorem isInstructionLine_text (emission : Emission) :
    isInstructionLine emission.text.toList = emission.isInstruction := by
  unfold Emission.text
  cases emission with
  | label position =>
      unfold Label.text isInstructionLine
      simp [Emission.isInstruction]
  | frame delta =>
      unfold isInstructionLine
      simp [Emission.isInstruction]
  | instruction emitted =>
      have indented : ("  " ++ emitted.text).toList = ' ' :: ' ' :: emitted.text.toList := by simp
      rw [indented]
      exact isInstructionLine_instruction emitted

theorem isInstructionLine_size (size : CodeSize) : isInstructionLine size.text.toList = false := by
  unfold CodeSize.text isInstructionLine
  simp

/-- Texts of one line each, each ended by a line feed, are the lines of what they make up. -/
theorem lines_unlines {texts : List String} (oneLine : ∀ text ∈ texts, OneLine text) :
    Text.lines (unlines texts).toList = texts.map String.toList ++ [[]] := by
  induction texts with
  | nil => rfl
  | cons text texts inductionHypothesis =>
      obtain ⟨first, further⟩ := List.forall_mem_cons.mp oneLine
      have joined : (unlines (text :: texts)).toList =
          text.toList ++ '\n' :: (unlines texts).toList := by
        simp [unlines, String.toList_join]
      have single : splitWhere (· == '\n') text.toList = [text.toList] := by
        apply splitWhere_of_none
        intro c member
        exact beq_eq_false_iff_ne.mpr fun same => first (same ▸ member)
      rw [Text.lines] at inductionHypothesis
      rw [joined, Text.lines, splitWhere_append _ _ (by decide), single,
        inductionHypothesis further]
      rfl

/-- The text of a listing can be taken apart line by line. -/
structure LineByLine (listing : Listing) : Prop where
  /-- One line for each emission, in order, then the size, and nothing behind the last line feed. -/
  whole : Text.lines listing.text.toList =
    listing.emissions.map (fun emission => emission.text.toList) ++ [listing.size.text.toList, []]
  unbroken : ∀ emission ∈ listing.emissions, '\n' ∉ emission.text.toList
  told : ∀ emission ∈ listing.emissions,
    isInstructionLine emission.text.toList = emission.isInstruction
  /-- Without the instructions, just the lines of the instructions are missing. -/
  framesOnly : Text.lines listing.framesOnly.text.toList =
    (Text.lines listing.text.toList).filter (fun line => !isInstructionLine line)

theorem lines_text {listing : Listing}
    (oneLine : ∀ emission ∈ listing.emissions, OneLine emission.text) :
    Text.lines listing.text.toList =
      listing.emissions.map (fun emission => emission.text.toList) ++
        [listing.size.text.toList, []] := by
  have texts : ∀ text ∈ listing.lines, OneLine text := by
    rw [lines, List.forall_mem_append, List.forall_mem_map, List.forall_mem_singleton]
    exact ⟨oneLine, listing.size.oneLine_text⟩
  rw [text, lines_unlines texts, lines, List.map_append, List.map_map, List.append_assoc]
  rfl

theorem lineByLine {listing : Listing}
    (oneLine : ∀ emission ∈ listing.emissions, OneLine emission.text) : listing.LineByLine := by
  have kept : ∀ emission ∈ listing.framesOnly.emissions, OneLine emission.text :=
    fun emission member => oneLine emission (List.mem_filter.mp member).1
  have chosen : ((fun line => !isInstructionLine line) ∘ fun emission : Emission =>
      emission.text.toList) = fun emission => !emission.isInstruction := by
    funext emission
    exact congrArg Bool.not (isInstructionLine_text emission)
  have size : [listing.size.text.toList, []].filter (fun line => !isInstructionLine line) =
      [listing.size.text.toList, []] := by
    rw [List.filter_cons_of_pos (by simp [isInstructionLine_size])]
    rfl
  refine ⟨lines_text oneLine, oneLine, fun emission _ => isInstructionLine_text emission, ?_⟩
  rw [lines_text kept, lines_text oneLine, List.filter_append, List.filter_map, chosen, size]
  rfl

end Listing

namespace CommandLine

/-- No operand forges a line. Whatever constants and names a script holds, the listing that it is
assembled to is printed with one line for each emission, the text of that emission, and one line
for the size; and without its instructions it is printed with just the lines of the instructions
taken out. Both are what the command puts out for a file with that script. -/
theorem lines_not_forged {graph : ClassGraph} (named : graph.OneLine) {source : String}
    {listing : Listing} (assembled : (Script.assemble graph source).1 = .ok listing) :
    listing.LineByLine ∧
      (graph = Standard.graph → ∀ file : SourceFile, file.text = .ok source →
        run false file = .success listing.text ∧
          run true file = .success listing.framesOnly.text) := by
  refine ⟨Listing.lineByLine (Script.oneLine_of_assembled named assembled), ?_⟩
  rintro rfl file readable
  have printed : ∀ framesOnly, run framesOnly file = .success (listingText framesOnly listing) := by
    intro framesOnly
    rw [run, readable]
    dsimp only
    rw [assembled]
  exact ⟨printed false, printed true⟩

/-- A script whose constant reads like a line of a listing, and whose names end like labels. -/
def imitatingSource : String :=
  "routine static demo/l0: l1: ()V\nconst string \"\\n  [frame same]\nstore\n" ++
    "label_from_entry l0:\ninvoke static demo/l0: l1: ()V\nreturn\n"

theorem lines_not_forged_by_imitation :
    ∃ listing, (Script.assemble Standard.graph imitatingSource).1 = .ok listing ∧
      listing.LineByLine := by
  have succeeds : (Script.assemble Standard.graph imitatingSource).1.isOk = true := by
    decide +kernel
  cases assembled : (Script.assemble Standard.graph imitatingSource).1 with
  | error cause =>
      rw [assembled] at succeeds
      cases succeeds
  | ok listing =>
      exact ⟨listing, rfl, (lines_not_forged ClassGraph.oneLine_standard assembled).1⟩

end CommandLine

end TypedBytecode

import TypedBytecode.Script

/-!
Contract: properties of the class graph that scripts keep.

Owns:
- `Resolving.Keeps`: a computation that leaves a graph with a property, also if it is refused on
  the way;
- `Script.Stable`: properties kept by the three ways in which a script adds to a graph;
- every part of a script as a computation that keeps such a property, up to whole scripts.

Does not own: any property of graphs.
-/

namespace TypedBytecode

namespace Script

namespace Resolving

/-- Whatever the computation comes to, the graph it leaves has the property. -/
def Keeps {α : Type} (resolving : Resolving α) (Holds : ClassGraph → Prop) : Prop :=
  ∀ graph, Holds graph → Holds (resolving.run graph).2

section Keeps

variable {α β : Type} {Holds : ClassGraph → Prop}

theorem Keeps.pure (value : α) : Keeps (Pure.pure value : Resolving α) Holds :=
  fun _ held => held

theorem Keeps.throw (fault : Fault) : Keeps (MonadExcept.throw fault : Resolving α) Holds :=
  fun _ held => held

theorem Keeps.get : Keeps (MonadState.get : Resolving ClassGraph) Holds :=
  fun _ held => held

/-- A computation that looks at the graph goes on from the graph it has seen. -/
theorem Keeps.get_bind {next : ClassGraph → Resolving β}
    (keepsOn : ∀ graph, Holds graph → Holds ((next graph).run graph).2) :
    (MonadState.get >>= next).Keeps Holds :=
  keepsOn

/-- What is added before a computation is refused stays, and what comes behind adds to it. -/
theorem Keeps.bind {first : Resolving α} {next : α → Resolving β} (keeps : first.Keeps Holds)
    (keepsOn : ∀ value, (next value).Keeps Holds) : (first >>= next).Keeps Holds := by
  intro graph held
  have begins := keeps graph held
  show Holds ((ExceptT.bindCont next (first.run graph).1) (first.run graph).2).2
  generalize first.run graph = outcome at begins ⊢
  rcases outcome with ⟨fault | value, after⟩
  · exact begins
  · exact keepsOn value after begins

theorem Keeps.wording (checked : Except SyntaxFault α) : (wording checked).Keeps Holds := by
  cases checked with
  | ok value => exact .pure value
  | error fault => exact .throw _

theorem Keeps.assembling (checked : Except Error α) : (assembling checked).Keeps Holds := by
  cases checked with
  | ok value => exact .pure value
  | error fault => exact .throw _

theorem Keeps.naming (checked : Except NameError α) : (naming checked).Keeps Holds := by
  cases checked with
  | ok value => exact .pure value
  | error fault => exact .throw _

end Keeps

end Resolving

/-- A property that a graph keeps when a class is mentioned and when a member is declared. Classes
are mentioned only where the root class is there. -/
structure Stable (Holds : ClassGraph → Prop) : Prop where
  insert : ∀ graph name isInterface, graph.contains .object = true → Holds graph →
    Holds (graph.insert (Resolving.mentionedClass name isInterface))
  addField : ∀ graph field, Holds graph → Holds (graph.addField field).2
  addMethod : ∀ graph method, Holds graph → Holds (graph.addMethod method).2

/-! ## Words -/

namespace Stable

open Resolving

variable {Holds : ClassGraph → Prop}

theorem addClass (stable : Stable Holds) (name : ClassName) (isInterface : Bool) :
    (addClass name isInterface).Keeps Holds := by
  refine .get_bind ?_
  intro graph held
  split
  · exact held
  · split
    · rename_i rooted
      exact stable.insert graph name isInterface rooted held
    · exact held

theorem classNamed (stable : Stable Holds) (word : String) (isInterface : Bool) :
    (classNamed word isInterface).Keeps Holds :=
  .bind (.naming _) fun name => .bind (stable.addClass name isInterface) fun _ => .pure name

theorem mention (stable : Stable Holds) (names : List ClassName) :
    (mention names).Keeps Holds := by
  induction names with
  | nil => exact .pure ()
  | cons name further inductionHypothesis =>
      exact .bind (stable.addClass name false) fun _ => inductionHypothesis

theorem fieldType (stable : Stable Holds) (descriptor : String) :
    (fieldType descriptor).Keeps Holds :=
  .bind (.assembling _) fun type => .bind (stable.mention _) fun _ => .pure type

theorem refType (stable : Stable Holds) (descriptor : String) :
    (refType descriptor).Keeps Holds := by
  apply Keeps.bind (stable.fieldType descriptor)
  intro type
  cases type with
  | reference type => exact .pure type
  | primitive type => exact .throw _

theorem methodType (stable : Stable Holds) (descriptor : String) :
    (methodType descriptor).Keeps Holds :=
  .bind (.assembling _) fun type => .bind (stable.mention _) fun _ => .pure type

theorem method (stable : Stable Holds) (words : MethodWords) (flags : MethodFlags)
    (isInterface : Bool) : (method words flags isInterface).Keeps Holds := by
  apply Keeps.bind (stable.classNamed words.owner isInterface)
  intro owner
  refine .bind (.naming _) ?_
  intro name
  apply Keeps.bind (stable.methodType words.descriptor)
  intro type graph held
  exact stable.addMethod graph _ held

theorem methodOfKind (stable : Stable Holds) (kind : MethodKind) (words : MethodWords) :
    (methodOfKind kind words).Keeps Holds := by
  cases kind <;> exact stable.method words _ _

theorem field (stable : Stable Holds) (owner : ClassName) (isStatic : Bool)
    (nameWord descriptor : String) : (field owner isStatic nameWord descriptor).Keeps Holds := by
  refine .bind (.naming _) ?_
  intro name
  apply Keeps.bind (stable.fieldType descriptor)
  intro type graph held
  exact stable.addField graph _ held

end Stable

end Script

/-! ## Sessions -/

namespace Session

open Script Resolving

variable {Holds : ClassGraph → Prop}

theorem keeps_begin (stable : Stable Holds) (text : List Char) : (begin text).Keeps Holds := by
  refine .bind (.wording _) ?_
  intro header
  exact .bind (stable.methodOfKind _ header.words) fun routine => .pure _

theorem keeps_call (session : Session) (request : Call) : (session.call request).Keeps Holds :=
  .bind .get fun _ => .bind (.assembling _) fun _ => .pure _

/-- Every statement adds to the graph by what it mentions, before it is assembled. -/
theorem keeps_run (stable : Stable Holds) (session : Session) (statement : Statement) :
    (session.run statement).Keeps Holds := by
  have operates : ∀ operation, (session.operate operation).Keeps Holds :=
    fun operation => keeps_call session (.operation operation)
  cases statement with
  | field isStatic name descriptor => exact .bind (stable.field _ _ _ _) fun _ => .pure _
  | operation operation => exact operates operation
  | null descriptor => exact .bind (stable.refType descriptor) fun _ => operates _
  | default descriptor => exact .bind (stable.fieldType descriptor) fun _ => operates _
  | newArray descriptor => exact .bind (stable.fieldType descriptor) fun _ => operates _
  | newObject name => exact .bind (stable.classNamed name false) fun _ => operates _
  | cast descriptor unchecked => exact .bind (stable.refType descriptor) fun _ => operates _
  | instanceOf descriptor => exact .bind (stable.refType descriptor) fun _ => operates _
  | invoke kind words =>
      apply Keeps.bind (stable.methodOfKind kind words)
      intro method
      split
      · exact operates _
      · exact operates _
  | lambda interfaceWord kindWord words =>
      apply Keeps.bind (stable.classNamed interfaceWord true)
      intro interface
      refine .bind (.wording _) ?_
      intro isStatic
      exact .bind (stable.methodOfKind _ words) fun _ => operates _
  | lambdaField interfaceWord name =>
      apply Keeps.bind (stable.classNamed interfaceWord true)
      intro interface
      refine .bind .get ?_
      intro graph
      exact .bind (.assembling _) fun _ => operates _
  | jump branch sourceName targetName => exact keeps_call _ _
  | label name => exact keeps_call _ _
  | labelFromEntry name => exact keeps_call _ _
  | labelFrom sourceName name => exact keeps_call _ _

theorem keeps_runLine (stable : Stable Holds) (session : Session) (text : List Char) :
    (session.runLine text).Keeps Holds := by
  unfold runLine
  split
  · exact .pure session
  · exact .bind (.wording _) fun statement => keeps_run stable session statement

/-- The lines of a script add one after the other, up to the one that is refused. -/
theorem keeps_runLines (stable : Stable Holds) (session : Session) {graph : ClassGraph}
    (lastLine : Nat) (lines : List (Nat × List Char)) (held : Holds graph) :
    Holds (session.runLines graph lastLine lines).2 := by
  induction lines generalizing session graph lastLine with
  | nil => exact held
  | cons numbered further inductionHypothesis =>
      have keptOn := keeps_runLine stable session numbered.2 graph held
      rw [runLines]
      split
      · rename_i next extended ran
        rw [ran] at keptOn
        exact inductionHypothesis next numbered.1 keptOn
      · rename_i fault extended ran
        rwa [ran] at keptOn

end Session

/-- A script keeps what its additions keep, whether or not it is refused. -/
theorem Script.Stable.assemble {Holds : ClassGraph → Prop} (stable : Stable Holds)
    {graph : ClassGraph} (held : Holds graph) (source : String) :
    Holds (assemble graph source).2 := by
  unfold Script.assemble
  split
  · exact held
  · rename_i line header further _
    have keptOn := Session.keeps_begin stable header graph held
    split
    · rename_i session extended ran
      rw [ran] at keptOn
      exact session.keeps_runLines stable line further keptOn
    · rename_i fault extended ran
      rwa [ran] at keptOn

end TypedBytecode

import TypedBytecode.Script.Statement

/-!
Contract: what the words of a script stand for in a class graph.

Classes that are mentioned and missing join the graph below the root class, and members that are
mentioned are declared. The graph keeps what joined it even if the rest of the line is refused.
-/

namespace TypedBytecode.Script

/-- A computation that can extend the class graph and can be refused. -/
abbrev Resolving := ExceptT Fault (StateM ClassGraph)

namespace Resolving

def wording {α : Type} : Except SyntaxFault α → Resolving α
  | .ok value => pure value
  | .error fault => throw (.wording fault)

def assembling {α : Type} : Except Error α → Resolving α
  | .ok value => pure value
  | .error error => throw (.assembly error)

def naming {α : Type} : Except NameError α → Resolving α
  | .ok value => pure value
  | .error error => throw (.wording (.name error))

/-- A class of which nothing is known but its name: a direct subclass of the root class, without
members. -/
def mentionedClass (name : ClassName) (isInterface : Bool) : ClassEntry where
  name := name
  superclass := some .object
  interfaces := []
  flags :=
    if isInterface then ClassFlags.publicBit ||| ClassFlags.interfaceBit ||| .abstractBit
    else .publicBit
  methods := []
  fields := []

/-- A class that is missing joins the graph, if the root class is there. -/
def addClass (name : ClassName) (isInterface : Bool) : Resolving Unit := do
  let graph ← get
  if graph.contains name then pure ()
  else if graph.contains .object then set (graph.insert (mentionedClass name isInterface))
  else throw (.assembly (.missingMember .rootClass))

def classNamed (word : String) (isInterface : Bool) : Resolving ClassName := do
  let name ← naming (ClassName.ofString word)
  addClass name isInterface
  pure name

/-- Classes that a descriptor mentions join the graph. -/
def mention : List ClassName → Resolving Unit
  | [] => pure ()
  | name :: further => do
    addClass name false
    mention further

def fieldType (descriptor : String) : Resolving FieldType := do
  let type ← assembling ((FieldType.ofString descriptor).mapError .ofReading)
  mention type.className?.toList
  pure type

def refType (descriptor : String) : Resolving RefType := do
  match ← fieldType descriptor with
  | .reference type => pure type
  | .primitive _ => throw (.wording (.notReference descriptor))

def methodType (descriptor : String) : Resolving MethodType := do
  let type ← assembling ((MethodType.ofString descriptor).mapError .ofReading)
  mention type.classNames
  pure type

/-- Declare a method, so that it can be called. -/
def method (words : MethodWords) (flags : MethodFlags) (isInterface : Bool) :
    Resolving Method := do
  let owner ← classNamed words.owner isInterface
  let name ← naming (MemberName.ofString words.name)
  let type ← methodType words.descriptor
  modifyGet (fun graph => graph.addMethod ⟨owner, name, type, flags⟩)

def methodOfKind (kind : MethodKind) (words : MethodWords) : Resolving Method :=
  match kind with
  | .static => method words (MethodFlags.publicBit ||| .staticBit) false
  | .virtual => method words .publicBit false
  | .special => method words .publicBit false
  | .interface => method words (MethodFlags.publicBit ||| .abstractBit) true

def field (owner : ClassName) (isStatic : Bool) (nameWord descriptor : String) :
    Resolving Field := do
  let name ← naming (MemberName.ofString nameWord)
  let type ← fieldType descriptor
  let flags := if isStatic then FieldFlags.publicBit ||| .staticBit else .publicBit
  modifyGet (fun graph => graph.addField ⟨owner, name, type, flags⟩)

end Resolving

end TypedBytecode.Script

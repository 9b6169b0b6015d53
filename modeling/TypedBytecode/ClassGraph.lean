import TypedBytecode.Access
import TypedBytecode.Descriptor

/-!
Contract: the classes that code can refer to, with their members.

Owns:
- methods, fields and classes as plain data, a member naming its class;
- the class graph, which only grows: an entry whose key is present is never replaced;
- the superclass chain of a class, inherited fields and functional methods.

Does not own: subtyping, the standard classes, or how a method is invoked.
-/

namespace TypedBytecode

structure Method where
  owner : ClassName
  name : MemberName
  type : MethodType
  flags : MethodFlags
deriving DecidableEq, Repr

structure Field where
  owner : ClassName
  name : MemberName
  type : FieldType
  flags : FieldFlags
deriving DecidableEq, Repr

/-- A class or interface with its members in the order in which they were added. -/
structure ClassEntry where
  name : ClassName
  superclass : Option ClassName
  interfaces : List ClassName
  flags : ClassFlags
  methods : List Method
  fields : List Field
deriving DecidableEq, Repr

/-- Classes by name, the newest first. A superclass is older than the classes below it. -/
structure ClassGraph where
  entries : List ClassEntry
deriving DecidableEq, Repr

namespace Method

def initializerName : MemberName := ⟨"<init>"⟩

def isStatic (method : Method) : Bool :=
  method.flags.contains .staticBit

def isConstructor (method : Method) : Bool :=
  method.name == initializerName

/-- A subclass can provide another implementation. -/
def isOverridable (method : Method) : Bool :=
  !method.isStatic && !method.isConstructor && !method.flags.contains .privateBit

/-- Two methods of one class are the same when name, type and staticness agree. -/
def sameKey (left right : Method) : Bool :=
  left.name == right.name && left.type == right.type && left.isStatic == right.isStatic

def text (method : Method) : String :=
  method.owner.text ++ "." ++ method.name.text ++ ":" ++ method.type.render

end Method

namespace Field

def isStatic (field : Field) : Bool :=
  field.flags.contains .staticBit

def text (field : Field) : String :=
  field.owner.text ++ "." ++ field.name.text ++ ":" ++ field.type.render

end Field

namespace ClassEntry

def isInterface (entry : ClassEntry) : Bool :=
  entry.flags.contains .interfaceBit

/-- The only abstract method of an interface. Inherited methods do not count. -/
def functionalMethod? (entry : ClassEntry) : Option Method :=
  if entry.isInterface then
    match entry.methods.filter (fun method => method.flags.contains .abstractBit) with
    | [method] => some method
    | _ => none
  else none

end ClassEntry

namespace ClassGraph

def empty : ClassGraph := ⟨[]⟩

def find? (graph : ClassGraph) (name : ClassName) : Option ClassEntry :=
  graph.entries.find? (fun entry => entry.name == name)

def contains (graph : ClassGraph) (name : ClassName) : Bool :=
  (graph.find? name).isSome

def isInterface (graph : ClassGraph) (name : ClassName) : Bool :=
  (graph.find? name).any ClassEntry.isInterface

/-- Add a class; a class of that name that is already present stays as it is. -/
def insert (graph : ClassGraph) (entry : ClassEntry) : ClassGraph :=
  if graph.contains entry.name then graph else ⟨entry :: graph.entries⟩

def modify (graph : ClassGraph) (name : ClassName) (change : ClassEntry → ClassEntry) :
    ClassGraph :=
  ⟨graph.entries.map (fun entry => if entry.name == name then change entry else entry)⟩

/-- Add a field to its class and give the field of that name which the class then has. -/
def addField (graph : ClassGraph) (field : Field) : Field × ClassGraph :=
  match (graph.find? field.owner).bind (fun entry =>
    entry.fields.find? (fun other => other.name == field.name)) with
  | some existing => (existing, graph)
  | none =>
    (field, graph.modify field.owner (fun entry =>
      { entry with fields := entry.fields ++ [field] }))

/-- Add a method to its class and give the method of that key which the class then has. -/
def addMethod (graph : ClassGraph) (method : Method) : Method × ClassGraph :=
  match (graph.find? method.owner).bind (fun entry =>
    entry.methods.find? (fun other => other.sameKey method)) with
  | some existing => (existing, graph)
  | none =>
    (method, graph.modify method.owner (fun entry =>
      { entry with methods := entry.methods ++ [method] }))

/-- Add an interface to those a class lists. Interfaces may be listed in a cycle. -/
def addInterface (graph : ClassGraph) (name added : ClassName) : ClassGraph :=
  graph.modify name (fun entry => { entry with interfaces := entry.interfaces ++ [added] })

/-- Classes from `name` upwards. A superclass is looked for among the older classes only,
which is where `insert` requires it to be. -/
def chainIn : List ClassEntry → ClassName → List ClassEntry
  | [], _ => []
  | entry :: older, name =>
    if entry.name = name then
      match entry.superclass with
      | some superclass => entry :: chainIn older superclass
      | none => [entry]
    else chainIn older name

def superChain (graph : ClassGraph) (name : ClassName) : List ClassEntry :=
  chainIn graph.entries name

/-- The field of that name on the nearest class of the superclass chain that has one. -/
def findField? (graph : ClassGraph) (owner : ClassName) (name : String) : Option Field :=
  (graph.superChain owner).findSome? (fun entry =>
    entry.fields.find? (fun field => field.name.text == name))

def functionalMethod? (graph : ClassGraph) (name : ClassName) : Option Method :=
  (graph.find? name).bind ClassEntry.functionalMethod?

end ClassGraph

end TypedBytecode

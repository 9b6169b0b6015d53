import TypedBytecode.Script.Resolve

/-!
Contract: assembling a script.

A script describes one routine. Its first line is a header, every other line is one statement,
and blank lines and lines that start with a number sign do not count.

Owns:
- the lines that count, with their numbers;
- a session, which is a builder with the labels named so far;
- running statements, and the result of a script with the class graph it leaves.
-/

namespace TypedBytecode

namespace Script

/-! ## Lines -/

/-- A line counts if it has text and is no comment. -/
def counts (text : List Char) : Bool :=
  match text with
  | [] => false
  | first :: _ => first != '#'

/-- Trimmed lines that count, with their numbers. -/
def countedLines (source : String) : List (Nat × List Char) :=
  ((Text.lines source.toList).zipIdx 1).filterMap (fun (line, number) =>
    let text := Text.trim line
    if counts text then some (number, text) else none)

end Script

/-- A builder with the labels that the script has named. -/
structure Session where
  builder : Builder
  labels : List (String × Label)

namespace Session

open Script

/-- The label of a name, made fresh when the name first comes up. -/
def label (session : Session) (name : String) : Label × Session :=
  match session.labels.lookup name with
  | some known => (known, session)
  | none =>
    let (fresh, builder) := session.builder.freshLabel
    (fresh, ⟨builder, (name, fresh) :: session.labels⟩)

def label? (session : Session) : Option String → Option Label × Session
  | none => (none, session)
  | some name =>
    let (found, next) := session.label name
    (some found, next)

/-- Begin the routine of a header. -/
def begin (text : List Char) : Resolving Session := do
  let header ← Resolving.wording (Header.ofLine text)
  let kind : MethodKind := if header.isStatic then .static else .virtual
  let routine ← Resolving.methodOfKind kind header.words
  pure ⟨.start routine, []⟩

def call (session : Session) (request : Call) : Resolving Session := do
  let graph ← get
  let builder ← Resolving.assembling (session.builder.call graph request)
  pure { session with builder := builder }

def operate (session : Session) (operation : Operation) : Resolving Session :=
  session.call (.operation operation)

/-- Run one statement. -/
def run (session : Session) : Statement → Resolving Session
  | .field isStatic name descriptor => do
    let _ ← Resolving.field session.builder.routine.owner isStatic name descriptor
    pure session
  | .operation operation => session.operate operation
  | .null descriptor => do
    session.operate (.constNull (← Resolving.refType descriptor))
  | .default descriptor => do
    session.operate (.defaultValue (← Resolving.fieldType descriptor))
  | .newArray descriptor => do
    session.operate (.newArray (← Resolving.fieldType descriptor))
  | .newObject name => do
    session.operate (.newObject (← Resolving.classNamed name false))
  | .cast descriptor unchecked => do
    session.operate (.cast (← Resolving.refType descriptor) unchecked)
  | .instanceOf descriptor => do
    session.operate (.instanceOf (← Resolving.refType descriptor))
  | .invoke kind words => do
    let method ← Resolving.methodOfKind kind words
    if kind = .special then session.operate (.invokeOn method session.builder.routine.owner)
    else session.operate (.invoke method)
  | .lambda interfaceWord kindWord words => do
    let interface ← Resolving.classNamed interfaceWord true
    let isStatic ← Resolving.wording (staticness kindWord)
    let method ← Resolving.methodOfKind (if isStatic then .static else .virtual) words
    session.operate (.lambda method interface)
  | .lambdaField interfaceWord name => do
    let interface ← Resolving.classNamed interfaceWord true
    let graph ← get
    let field ← Resolving.assembling (Operation.ownField graph session.builder.routine name)
    session.operate (.lambdaField field interface)
  | .jump branch sourceName targetName =>
    let (source, afterSource) := session.label? sourceName
    let (target, afterTarget) := afterSource.label targetName
    afterTarget.call (.jump branch source target)
  | .label name =>
    let (declared, next) := session.label name
    next.call (.declare declared .recorded)
  | .labelFromEntry name =>
    let (declared, next) := session.label name
    next.call (.declare declared .fromEntry)
  | .labelFrom sourceName name =>
    let (source, afterSource) := session.label sourceName
    let (declared, afterTarget) := afterSource.label name
    afterTarget.call (.declare declared (.fromLabel source))

/-- Run the statement of a line. A line without words does nothing. -/
def runLine (session : Session) (text : List Char) : Resolving Session :=
  match (Text.words text).map String.ofList with
  | [] => pure session
  | operation :: arguments => do
    let statement ← Resolving.wording (Statement.ofWords text operation arguments)
    session.run statement

/-- Run numbered lines and finish the routine. Labels that are never declared are found on the
last line. -/
def runLines (session : Session) (graph : ClassGraph) (lastLine : Nat) :
    List (Nat × List Char) → Except ScriptError Listing × ClassGraph
  | [] =>
    (session.builder.finish.mapError (fun error => ⟨lastLine, .assembly error⟩), graph)
  | (line, text) :: further =>
    match (session.runLine text).run graph with
    | (.ok next, extended) => next.runLines extended line further
    | (.error fault, extended) => (.error ⟨line, fault⟩, extended)

end Session

namespace Script

/-- Assemble a script. The class graph is given back with all that the script has added, also
if the script is refused. -/
def assemble (graph : ClassGraph) (source : String) : Except ScriptError Listing × ClassGraph :=
  match countedLines source with
  | [] => (.error ⟨1, .wording .missingHeader⟩, graph)
  | (line, header) :: further =>
    match (Session.begin header).run graph with
    | (.ok session, extended) => session.runLines extended line further
    | (.error fault, extended) => (.error ⟨line, fault⟩, extended)

end Script

end TypedBytecode

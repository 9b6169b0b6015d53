import TypedBytecode.ClassGraph.Assignable

/-!
Contract: the standard classes that assembled code leans on.

Owns:
- the names of the standard classes and the class graph that holds just them;
- the box class of each primitive type and the two conversions of a box;
- the bootstrap method that makes functional interface instances.

Does not own: classes that a program adds.
-/

namespace TypedBytecode

namespace ClassName

def charSequence : ClassName := ⟨"java/lang/CharSequence"⟩
def runnable : ClassName := ⟨"java/lang/Runnable"⟩
def string : ClassName := ⟨"java/lang/String"⟩
def number : ClassName := ⟨"java/lang/Number"⟩
def throwable : ClassName := ⟨"java/lang/Throwable"⟩
def error : ClassName := ⟨"java/lang/Error"⟩
def exception : ClassName := ⟨"java/lang/Exception"⟩
def runtimeException : ClassName := ⟨"java/lang/RuntimeException"⟩
def callSite : ClassName := ⟨"java/lang/invoke/CallSite"⟩
def lambdaMetafactory : ClassName := ⟨"java/lang/invoke/LambdaMetafactory"⟩
def methodHandle : ClassName := ⟨"java/lang/invoke/MethodHandle"⟩
def methodHandlesLookup : ClassName := ⟨"java/lang/invoke/MethodHandles$Lookup"⟩
def methodType : ClassName := ⟨"java/lang/invoke/MethodType"⟩
def consumer : ClassName := ⟨"java/util/function/Consumer"⟩
def function : ClassName := ⟨"java/util/function/Function"⟩
def intUnaryOperator : ClassName := ⟨"java/util/function/IntUnaryOperator"⟩
def supplier : ClassName := ⟨"java/util/function/Supplier"⟩

end ClassName

/-! ## Boxes -/

/-- A primitive type with its box class and the conversions between them. -/
structure Boxing where
  primitive : Primitive
  box : ClassName
  valueOf : Method
  unbox : Method
deriving DecidableEq, Repr

namespace Primitive

def boxName : Primitive → ClassName
  | .boolean => ⟨"java/lang/Boolean"⟩
  | .byte => ⟨"java/lang/Byte"⟩
  | .char => ⟨"java/lang/Character"⟩
  | .short => ⟨"java/lang/Short"⟩
  | .int => ⟨"java/lang/Integer"⟩
  | .long => ⟨"java/lang/Long"⟩
  | .float => ⟨"java/lang/Float"⟩
  | .double => ⟨"java/lang/Double"⟩

/-- Static method that makes a box of a value. -/
def valueOf (primitive : Primitive) : Method where
  owner := primitive.boxName
  name := ⟨"valueOf"⟩
  type := ⟨[.primitive primitive], some (.object primitive.boxName)⟩
  flags := .publicBit ||| .staticBit

/-- Method that takes the value out of its box. -/
def unbox (primitive : Primitive) : Method where
  owner := primitive.boxName
  name := ⟨primitive.keyword ++ "Value"⟩
  type := ⟨[], some (.primitive primitive)⟩
  flags := .publicBit

def boxing (primitive : Primitive) : Boxing :=
  ⟨primitive, primitive.boxName, primitive.valueOf, primitive.unbox⟩

end Primitive

namespace Boxing

/-- The boxing whose box is the given class. -/
def ofBox? (name : ClassName) : Option Boxing :=
  (Primitive.all.find? (fun primitive => primitive.boxName == name)).map Primitive.boxing

end Boxing

/-! ## The graph -/

namespace Standard

def classFlags : ClassFlags := .publicBit ||| .superBit
def finalFlags : ClassFlags := classFlags ||| .finalBit
def abstractFlags : ClassFlags := classFlags ||| .abstractBit
def interfaceFlags : ClassFlags := .publicBit ||| .interfaceBit ||| .abstractBit

def objectInit : Method :=
  ⟨.object, Method.initializerName, ⟨[], none⟩, .publicBit⟩

def abstractMethod (owner : ClassName) (name : String) (type : MethodType) : Method :=
  ⟨owner, ⟨name⟩, type, .publicBit ||| .abstractBit⟩

/-- Bootstrap method of the call sites that make functional interface instances. -/
def metafactory : Method where
  owner := .lambdaMetafactory
  name := ⟨"metafactory"⟩
  type :=
    ⟨[.object .methodHandlesLookup, .object .string, .object .methodType,
      .object .methodType, .object .methodHandle, .object .methodType],
      some (.object .callSite)⟩
  flags := .publicBit ||| .staticBit

def subclass (name superclass : ClassName) (interfaces : List ClassName)
    (flags : ClassFlags) : ClassEntry :=
  ⟨name, some superclass, interfaces, flags, [], []⟩

def interface (name : ClassName) (methods : List Method) : ClassEntry :=
  ⟨name, some .object, [], interfaceFlags, methods, []⟩

def box (primitive : Primitive) (superclass : ClassName) (interfaces : List ClassName) :
    ClassEntry :=
  ⟨primitive.boxName, some superclass, interfaces, finalFlags,
    [primitive.valueOf, primitive.unbox], []⟩

/-- The standard classes, each after its superclass and interfaces. -/
def classes : List ClassEntry :=
  [⟨.object, none, [], classFlags, [objectInit], []⟩,
    interface .serializable [],
    interface .cloneable [],
    interface .charSequence [],
    interface .runnable [abstractMethod .runnable "run" ⟨[], none⟩],
    subclass .string .object [.charSequence, .serializable] finalFlags,
    subclass .number .object [.serializable] abstractFlags,
    box .boolean .object [.serializable],
    box .char .object [.serializable],
    box .byte .number [],
    box .short .number [],
    box .int .number [],
    box .long .number [],
    box .float .number [],
    box .double .number [],
    subclass .throwable .object [.serializable] classFlags,
    subclass .error .throwable [] classFlags,
    subclass .exception .throwable [] classFlags,
    subclass .runtimeException .exception [] classFlags,
    subclass .callSite .object [] abstractFlags,
    ⟨.lambdaMetafactory, some .object, [], finalFlags, [metafactory], []⟩,
    subclass .methodHandle .object [] abstractFlags,
    subclass .methodHandlesLookup .object [] finalFlags,
    subclass .methodType .object [] finalFlags,
    interface .consumer
      [abstractMethod .consumer "accept" ⟨[.object .object], none⟩],
    interface .function
      [abstractMethod .function "apply" ⟨[.object .object], some (.object .object)⟩],
    interface .intUnaryOperator
      [abstractMethod .intUnaryOperator "applyAsInt"
        ⟨[.primitive .int], some (.primitive .int)⟩],
    interface .supplier [abstractMethod .supplier "get" ⟨[], some (.object .object)⟩]]

def graph : ClassGraph :=
  ⟨classes.reverse⟩

end Standard

end TypedBytecode

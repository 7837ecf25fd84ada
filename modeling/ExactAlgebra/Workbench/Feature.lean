import ExactAlgebra.Workbench.Value
import ExactAlgebra.Workbench.Fault

/-!
# Features of values

A feature of a value can be set or removed only where its kind allows it. Fractions
and expressions are frozen. Plain values have features that can only be read.
Passes, pipelines, steps and traces hold the features that they are given.
-/

namespace ExactAlgebra
namespace Workbench
namespace Feature

/-- The name of a feature that stands for an operator or another special use. -/
def special (name : String) : String :=
  "__" ++ name ++ "__"

/-- The feature that tells the kind of a value. -/
def kind : String := special "class"

/-- The feature that lists the held features of a value. -/
def table : String := special "dict"

/-- The feature that lists the loose references to a value. -/
def references : String := special "weakref"

/-- Special features of all values. -/
def ofEveryKind : List String :=
  ["delattr", "dir", "doc", "eq", "format", "ge", "getattribute", "getstate", "gt", "hash",
    "init", "init_subclass", "le", "lt", "ne", "new", "reduce", "reduce_ex", "repr",
    "setattr", "sizeof", "str", "subclasshook"].map special

/-- Features of plain numbers. -/
def ofNumbers : List String :=
  ["abs", "add", "bool", "ceil", "divmod", "float", "floor", "floordiv", "getnewargs",
    "int", "mod", "mul", "neg", "pos", "pow", "radd", "rdivmod", "rfloordiv", "rmod",
    "rmul", "round", "rpow", "rsub", "rtruediv", "sub", "truediv", "trunc"].map special ++
  ["as_integer_ratio", "conjugate"]

/-- Features of integers alone. -/
def ofIntegers : List String :=
  ["and", "index", "invert", "lshift", "or", "rand", "rlshift", "ror", "rrshift", "rshift",
    "rxor", "xor"].map special ++
  ["bit_count", "bit_length", "from_bytes", "to_bytes"]

/-- Features of double-precision numbers alone. -/
def ofBinaries : List String :=
  [special "getformat", "fromhex", "hex", "is_integer"]

/-- Features of texts, lists and tuples. -/
def ofSequences : List String :=
  ["add", "contains", "getitem", "iter", "len", "mul", "rmul"].map special ++
  ["count", "index"]

/-- Features of texts alone. -/
def ofTexts : List String :=
  ["getnewargs", "mod", "rmod"].map special ++
  ["capitalize", "casefold", "center", "encode", "endswith", "expandtabs", "find", "format",
    "format_map", "isalnum", "isalpha", "isascii", "isdecimal", "isdigit", "isidentifier",
    "islower", "isnumeric", "isprintable", "isspace", "istitle", "isupper", "join", "ljust",
    "lower", "lstrip", "maketrans", "partition", "removeprefix", "removesuffix", "replace",
    "rfind", "rindex", "rjust", "rpartition", "rsplit", "rstrip", "split", "splitlines",
    "startswith", "strip", "swapcase", "title", "trans" ++ "late", "upper", "zfill"]

/-- Features of lists alone. -/
def ofLists : List String :=
  ["class_getitem", "delitem", "iadd", "imul", "reversed", "setitem"].map special ++
  ["append", "clear", "copy", "extend", "insert", "pop", "remove", "reverse", "sort"]

/-- Features of tuples alone. -/
def ofTuples : List String :=
  ["class_getitem", "getnewargs"].map special

end Feature

/-- What a kind of value allows to be done to its features. -/
inductive Features
  /-- Nothing can be changed. -/
  | frozen
  /-- The named features can only be read, and so can those that belong to the kind
  `owner`. -/
  | readable (names : List String) (owner : String) (owned : List String)
  /-- Features can be set, and those that are held can be removed; computed ones are
  neither. Loose references belong to the kind `owner`. -/
  | held (names computed : List String) (owner : String)

namespace Features

/-- The features of an integer. -/
def ofInteger : Features :=
  .readable (Feature.ofNumbers ++ Feature.ofIntegers) "int"
    ["real", "imag", "numerator", "denominator"]

/-- The features of a double-precision number. -/
def ofBinary : Features :=
  .readable (Feature.ofNumbers ++ Feature.ofBinaries) "float" ["real", "imag"]

/-- The features of a value. -/
def of : Value → Features
  | .atom .nothing => .readable [Feature.special "bool"] "" []
  | .atom (.truth _) => ofInteger
  | .atom (.integer _) => ofInteger
  | .atom (.binary _) => ofBinary
  | .atom .undefined => ofBinary
  | .atom (.text _) => .readable (Feature.ofSequences ++ Feature.ofTexts) "" []
  | .list _ => .readable (Feature.ofSequences ++ Feature.ofLists) "" []
  | .tuple _ => .readable (Feature.ofSequences ++ Feature.ofTuples) "" []
  | .atom (.fraction _) => .frozen
  | .atom (.node _) => .frozen
  | .atom (.stage (.pass (.differentiate _))) =>
      .held ["_variable"] ["variable", "name"] "Transform"
  | .atom (.stage (.treePrinter _ _)) => .held ["_prefix", "_child_prefix"] [] "Transform"
  | .atom (.stage _) => .held [] [] "Transform"
  | .atom (.pipeline _) => .held ["_passes"] [] "Pipeline"
  | .step .. => .held ["index", "name", "before", "after"] ["changed"] "PassStep"
  | .trace _ => .held ["steps", "initial", "final"] [] "PassTrace"

end Features

namespace Value

/-- The fault of changing a feature that can only be read. -/
def readableFault (subject : Value) (feature : String) (names : List String) (owner : String)
    (owned : List String) : Fault :=
  if feature ∈ owned then .unwritable owner feature
  else if feature ∈ names || feature ∈ Feature.ofEveryKind then
    .readOnly subject.typeName feature
  else .missing subject.typeName feature

/-- Set a feature of a value to something of the given kind. -/
def setFeature (subject : Value) (feature typeName : String) : Outcome Unit :=
  match Features.of subject with
  | .frozen => .error (.immutable subject.typeName)
  | .readable names owner owned =>
      if feature = Feature.kind then .error (.mismatch (.kindFeature typeName))
      else .error (subject.readableFault feature names owner owned)
  | .held _ computed owner =>
      if feature = Feature.kind then .error (.mismatch (.kindFeature typeName))
      else if feature = Feature.table then .error (.mismatch (.featureTable typeName))
      else if feature = Feature.references then .error (.unwritable owner feature)
      else if feature ∈ computed then .error (.unsettable subject.typeName feature)
      else .ok ()

/-- Remove a feature of a value. -/
def removeFeature (subject : Value) (feature : String) : Outcome Unit :=
  match Features.of subject with
  | .frozen => .error (.immutable subject.typeName)
  | .readable names owner owned =>
      if feature = Feature.kind then .error (.mismatch .kindRemoval)
      else .error (subject.readableFault feature names owner owned)
  | .held names computed owner =>
      if feature = Feature.kind then .error (.mismatch .kindRemoval)
      else if feature = Feature.references then .error (.unwritable owner feature)
      else if feature ∈ computed then .error (.unremovable subject.typeName feature)
      else if feature ∈ names || feature = Feature.table then .ok ()
      else .error (.missing subject.typeName feature)

end Value
end Workbench
end ExactAlgebra

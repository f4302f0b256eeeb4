import TestSkeleton.Number.Reading
import TestSkeleton.Source.ClassTable
import TestSkeleton.Source.Fault

set_option autoImplicit false

/-! # Calls of what is built in

What the built-in functions and classes do when they are called with one argument, with none, or as
what makes a class, as far as this can be told: which arguments they refuse, with the words of the
refusal, and the class of what they yield. A text is an argument of its own kind, because some read
it.
-/

namespace TestSkeleton

open Text

/-- What a built-in function or class does with one argument. -/
structure Signature where
  /-- The attributes of which the class of the argument has to have one; nothing if any argument
  will do. -/
  needs : Option (List Text)
  /-- The words of a refusal, in which `%` stands for the name of the class of the argument. -/
  refusal : Text
  /-- The class of what it yields. -/
  result : Text

namespace Signature

/-- The words of the refusal of an argument. -/
def refusalOf (s : Signature) (typeName : Text) : Text :=
  s.refusal.flatMap fun c => if c == '%' then typeName else [c]

/-- Takes any argument. -/
def any (result : String) : Signature := ⟨none, [], result.toList⟩

/-- Takes arguments whose class has one of some attributes. -/
def having (needs : List String) (refusal result : String) : Signature :=
  ⟨some (needs.map String.toList), refusal.toList, result.toList⟩

/-- Takes no argument at all, or more than one. -/
def never (refusal : String) : Signature := ⟨some [], refusal.toList, []⟩

/-- Takes something with members. -/
def members (result : String) : Signature :=
  having ["__iter__", "__getitem__"] "'%' object is not iterable" result

/-- Takes a whole number. -/
def whole (result : String) : Signature :=
  having ["__index__"] "'%' object cannot be interpreted as an integer" result

end Signature

namespace Builtin

open Signature

/-- The functions with one argument. -/
def functionSignatures : List (String × Signature) := [
  ("__build_class__", never "__build_class__: not enough arguments"),
  ("__import__", never "module name must be a string"),
  ("abs", having ["__abs__"] "bad operand type for abs(): '%'" "int"),
  ("aiter", having ["__aiter__"] "'%' object is not an async iterable" "object"),
  ("all", members "bool"),
  ("anext", having ["__anext__"] "'%' object is not an async iterator" "object"),
  ("any", members "bool"), ("ascii", any "str"), ("bin", whole "str"), ("callable", any "bool"),
  ("chr", whole "str"),
  ("compile", never "compile() missing required argument 'filename' (pos 2)"),
  ("delattr", never "delattr expected 2 arguments, got 1"), ("dir", any "list"),
  ("divmod", never "divmod expected 2 arguments, got 1"),
  ("eval", never "eval() arg 1 must be a string, bytes or code object"),
  ("exec", never "exec() arg 1 must be a string, bytes or code object"), ("format", any "str"),
  ("get_cache_token", never "_abc.get_cache_token() takes no arguments (1 given)"),
  ("getattr", never "getattr expected at least 2 arguments, got 1"),
  ("globals", never "globals() takes no arguments (1 given)"),
  ("hasattr", never "hasattr expected 2 arguments, got 1"),
  ("hash", having ["__hash__"] "unhashable type: '%'" "int"), ("hex", whole "str"),
  ("id", any "int"), ("isinstance", never "isinstance expected 2 arguments, got 1"),
  ("issubclass", never "issubclass expected 2 arguments, got 1"), ("iter", members "object"),
  ("len", having ["__len__"] "object of type '%' has no len()" "int"),
  ("locals", never "locals() takes no arguments (1 given)"), ("max", members "object"),
  ("min", members "object"), ("next", having ["__next__"] "'%' object is not an iterator" "object"),
  ("oct", whole "str"), ("open", never "expected str, bytes or os.PathLike object, not %"),
  ("ord", never "ord() expected string of length 1, but % found"),
  ("pow", never "pow() missing required argument 'exp' (pos 2)"), ("repr", any "str"),
  ("round", having ["__round__"] "type % doesn't define __round__ method" "int"),
  ("setattr", never "setattr expected 3 arguments, got 1"), ("sorted", members "list"),
  ("sum", members "int"),
  ("vars", having ["__dict__"] "vars() argument must have __dict__ attribute" "dict")]

/-- The classes with one argument. -/
def classSignatures : List (String × Signature) := [
  ("object", never "object() takes no arguments"), ("bool", any "bool"),
  ("bytearray",
    having ["__iter__", "__index__"] "cannot convert '%' object to bytearray" "bytearray"),
  ("bytes", having ["__iter__", "__index__"] "cannot convert '%' object to bytes" "bytes"),
  ("complex", having ["__complex__", "__float__", "__index__"]
    "complex() first argument must be a string or a number, not '%'" "complex"),
  ("dict", members "dict"), ("enumerate", members "enumerate"),
  ("filter", never "filter expected 2 arguments, got 1"),
  ("float", having ["__float__", "__index__"]
    "float() argument must be a string or a real number, not '%'" "float"),
  ("frozenset", members "frozenset"),
  ("int", having ["__int__", "__index__", "__trunc__"]
    "int() argument must be a string, a bytes-like object or a real number, not '%'" "int"),
  ("list", members "list"), ("map", never "map() must have at least two arguments."),
  ("memoryview", never "memoryview: a bytes-like object is required, not '%'"),
  ("range", whole "range"),
  ("reversed", having ["__reversed__", "__getitem__"] "'%' object is not reversible" "reversed"),
  ("set", members "set"), ("slice", any "slice"), ("str", any "str"),
  ("super", having ["__mro__"] "super() argument 1 must be a type, not %" "super"),
  ("tuple", members "tuple"), ("zip", members "zip"),
  ("BaseExceptionGroup", never "BaseExceptionGroup.__new__() takes exactly 2 arguments (1 given)"),
  ("UnicodeDecodeError", never "function takes exactly 5 arguments (1 given)"),
  ("UnicodeEncodeError", never "function takes exactly 5 arguments (1 given)"),
  ("UnicodeTranslateError", never "function takes exactly 4 arguments (1 given)"),
  ("function", never "function() missing required argument 'globals' (pos 2)"),
  ("method", never "method expected 2 arguments, got 1"),
  ("NoneType", never "NoneType takes no arguments"),
  ("ellipsis", never "EllipsisType takes no arguments"),
  ("NotImplementedType", never "NotImplementedType takes no arguments"),
  ("module", never "module() argument 'name' must be str, not %"),
  ("mappingproxy",
    having ["__getitem__"] "mappingproxy() argument must be a mapping, not %" "mappingproxy"),
  ("code", never "code expected at least 16 arguments, got 1"),
  ("ABCMeta", never
    "ABCMeta.__new__() missing 2 required positional arguments: 'bases' and 'namespace'")]

/-- What a function or a class does with one argument. -/
def signature? (table : List (String × Signature)) (name : Text) : Option Signature :=
  (table.find? fun e => e.1.toList == name).map Prod.snd

/-- The operators of its argument that a function or a class asks if it takes any argument. -/
def operatorsAsked (name : Text) : List Text :=
  match name.asString with
  | "bool" => words "__bool__ __len__".toList
  | "str" | "print" => words "__str__ __repr__".toList
  | "repr" | "ascii" => words "__repr__".toList
  | "format" => words "__format__ __str__ __repr__".toList
  | "dir" => words "__dir__".toList
  | _ => []

/-! ## Texts as arguments -/

/-- The functions and classes that read a text or the members of their argument. -/
def readers : List Text :=
  words "bytearray bytes complex dict float frozenset int max min module ord set sorted sum".toList

/-- The text without the underscores that stand between digits. -/
def withoutSeparators : Text → Text
  | c :: '_' :: d :: t =>
    if (digitValue? c).isSome && (digitValue? d).isSome then c :: withoutSeparators (d :: t)
    else c :: '_' :: withoutSeparators (d :: t)
  | c :: t => c :: withoutSeparators t
  | [] => []

/-- Whether a text is a complex number without a real part. -/
def isImaginary (t : Text) : Bool :=
  match (strip t).reverse with
  | c :: r => (c == 'j' || c == 'J') && (r.isEmpty || (Number.float? r.reverse).isSome)
  | [] => false

/-- The functions and classes for which a text can be a wrong value. -/
def valueReaders : List Text := words "complex dict float int max min".toList

/-- How a function or a class refuses a text, if it does otherwise than with other arguments. -/
def refusalOfText? (name t : Text) : Option Text :=
  let reading (isRead : Bool) (refusal : Text) : Option Text :=
    if isRead then some [] else some refusal
  let number := withoutSeparators t
  match name.asString with
  | "int" => reading (Number.int? 10 number).isSome
      ("invalid literal for int() with base 10: " ++ t.quoted.take 200)
  | "float" => reading (Number.float? number).isSome
      ("could not convert string to float: " ++ t.quoted)
  | "complex" => reading ((Number.float? number).isSome || isImaginary number)
      "complex() arg is a malformed string"
  | "bytes" | "bytearray" => some "string argument without an encoding"
  | "ord" => reading (t.length == 1)
      ("ord() expected a character, but string of length " ++ ofNat t.length ++ " found")
  | "dict" =>
    reading t.isEmpty "dictionary update sequence element #0 has length 1; 2 is required"
  | "max" | "min" => reading (!t.isEmpty) (name ++ "() arg is an empty sequence")
  | "sum" => reading t.isEmpty "unsupported operand type(s) for +: 'int' and 'str'"
  | "module" => some []
  | _ => none

/-- The functions that carry out a text, look for a file or a module of its name, or ask whoever runs
the program. -/
def textCarriers : List Text := words "__import__ eval exec open".toList
def askingFunctions : List Text := words "breakpoint input".toList

/-- Whether what a function does with an argument is not known here. -/
def isOutward (name : Text) (isText : Bool) : Bool :=
  askingFunctions.contains name || (isText && textCarriers.contains name)

/-! ## No argument -/

/-- The functions that do not take exactly one argument, called with none. -/
def functionsOfNone : List (String × Signature) := [
  ("__build_class__", never "__build_class__: not enough arguments"),
  ("__import__", never "__import__() missing required argument 'name' (pos 1)"),
  ("anext", never "anext expected at least 1 argument, got 0"),
  ("compile", never "compile() missing required argument 'source' (pos 1)"),
  ("delattr", never "delattr expected 2 arguments, got 0"), ("dir", any "list"),
  ("divmod", never "divmod expected 2 arguments, got 0"),
  ("eval", never "eval expected at least 1 argument, got 0"),
  ("exec", never "exec() takes at least 1 positional argument (0 given)"),
  ("format", never "format expected at least 1 argument, got 0"), ("get_cache_token", any "int"),
  ("getattr", never "getattr expected at least 2 arguments, got 0"), ("globals", any "dict"),
  ("hasattr", never "hasattr expected 2 arguments, got 0"),
  ("isinstance", never "isinstance expected 2 arguments, got 0"),
  ("issubclass", never "issubclass expected 2 arguments, got 0"),
  ("iter", never "iter expected at least 1 argument, got 0"), ("locals", any "dict"),
  ("max", never "max expected at least 1 argument, got 0"),
  ("min", never "min expected at least 1 argument, got 0"),
  ("next", never "next expected at least 1 argument, got 0"),
  ("open", never "open() missing required argument 'file' (pos 1)"),
  ("pow", never "pow() missing required argument 'base' (pos 1)"),
  ("round", never "round() missing required argument 'number' (pos 1)"),
  ("setattr", never "setattr expected 3 arguments, got 0"),
  ("sorted", never "sorted expected 1 argument, got 0"),
  ("sum", never "sum() takes at least 1 positional argument (0 given)"), ("vars", any "dict")]

/-- How classes refuse to make an object without arguments. -/
def makersOfNone : List (String × String) := [
  ("ABCMeta", "ABCMeta.__new__() missing 3 required positional arguments: 'name', 'bases', and "
    ++ "'namespace'"),
  ("BaseExceptionGroup", "BaseExceptionGroup.__new__() takes exactly 2 arguments (0 given)"),
  ("code", "code expected at least 16 arguments, got 0"),
  ("enumerate", "enumerate() missing required argument 'iterable'"),
  ("filter", "filter expected 2 arguments, got 0"),
  ("function", "function() missing required argument 'code' (pos 1)"),
  ("map", "map() must have at least two arguments."),
  ("mappingproxy", "mappingproxy() missing required argument 'mapping' (pos 1)"),
  ("memoryview", "memoryview() missing required argument 'object' (pos 1)"),
  ("method", "method expected 2 arguments, got 0"),
  ("range", "range expected at least 1 argument, got 0"),
  ("reversed", "reversed expected 1 argument, got 0"),
  ("slice", "slice expected at least 1 argument, got 0"),
  ("type", "type() takes 1 or 3 arguments")]

/-- How classes refuse to prepare an object without arguments. -/
def preparersOfNone : List (String × String) := [
  ("UnicodeDecodeError", "function takes exactly 5 arguments (0 given)"),
  ("UnicodeEncodeError", "function takes exactly 5 arguments (0 given)"),
  ("UnicodeTranslateError", "function takes exactly 4 arguments (0 given)"),
  ("abstractclassmethod",
    "abstractclassmethod.__init__() missing 1 required positional argument: 'callable'"),
  ("abstractstaticmethod",
    "abstractstaticmethod.__init__() missing 1 required positional argument: 'callable'"),
  ("classmethod", "classmethod expected 1 argument, got 0"),
  ("module", "module() missing required argument 'name' (pos 1)"),
  ("staticmethod", "staticmethod expected 1 argument, got 0")]

/-- How a class refuses to make or to prepare an object without arguments, if it does. -/
def refusalOfNone? (table : List (String × String)) (name : Text) : Option Text :=
  (table.find? fun e => e.1.toList == name).map fun e => e.2.toList

/-! ## Three arguments -/

/-- How classes refuse the name, the bases and the names of a class as arguments; behind the name of
the class. -/
def refusalsOfThree : List (String × String) := [
  ("bool", " expected at most 1 argument, got 3"),
  ("bytearray", "() argument 'encoding' must be str, not tuple"),
  ("bytes", "() argument 'encoding' must be str, not tuple"),
  ("classmethod", " expected 1 argument, got 3"),
  ("code", " expected at least 16 arguments, got 3"),
  ("complex", "() takes at most 2 arguments (3 given)"),
  ("dict", " expected at most 1 argument, got 3"),
  ("enumerate", "() takes at most 2 arguments (3 given)"),
  ("filter", " expected 2 arguments, got 3"),
  ("float", " expected at most 1 argument, got 3"),
  ("frozenset", " expected at most 1 argument, got 3"),
  ("function", "() argument 'code' must be code, not str"),
  ("int", "() takes at most 2 arguments (3 given)"),
  ("list", " expected at most 1 argument, got 3"),
  ("mappingproxy", "() takes at most 1 argument (3 given)"),
  ("memoryview", "() takes at most 1 argument (3 given)"),
  ("method", " expected 2 arguments, got 3"),
  ("module", "() takes at most 2 arguments (3 given)"),
  ("object", "() takes no arguments"),
  ("reversed", " expected 1 argument, got 3"),
  ("set", " expected at most 1 argument, got 3"),
  ("staticmethod", " expected 1 argument, got 3"),
  ("str", "() argument 'encoding' must be str, not tuple"),
  ("super", "() expected at most 2 arguments, got 3"),
  ("tuple", " expected at most 1 argument, got 3"),
  ("NoneType", " takes no arguments"), ("ABC", "() takes no arguments"),
  ("abstractclassmethod", ".__init__() takes 2 positional arguments but 4 were given"),
  ("abstractstaticmethod", ".__init__() takes 2 positional arguments but 4 were given")]

/-- Classes that refuse all arguments in words of their own. -/
def otherRefusals : List (Text × Text) := [
  ("ellipsis", "EllipsisType takes no arguments"),
  ("NotImplementedType", "NotImplementedType takes no arguments"),
  ("range", "'str' object cannot be interpreted as an integer")]

/-- How a class refuses the name, the bases and the names of a class, if it does. -/
def refusalOfThree? (name : Text) : Option Text :=
  match otherRefusals.lookup name, refusalsOfThree.find? fun e => e.1.toList == name with
  | some refusal, _ => some refusal
  | none, some e => some (name ++ e.2)
  | none, none =>
    if hiddenClasses.contains name && !abstractClasses.contains name then
      some ("cannot create '" ++ name ++ "' instances")
    else none

/-! ## Methods -/

/-- The operators that take nothing but the object. -/
def unaryOperators : List Text :=
  words ("__abs__ __aiter__ __anext__ __await__ __bool__ __del__ __float__ __hash__ __index__
    __int__ __invert__ __iter__ __len__ __neg__ __next__ __pos__ __repr__ __str__").toList

/-- The operators that compare or reckon with another thing. -/
def binaryOperators : List Text :=
  words ("__add__ __and__ __divmod__ __eq__ __floordiv__ __ge__ __gt__ __le__ __lshift__ __lt__
    __matmul__ __mod__ __mul__ __ne__ __or__ __pow__ __radd__ __rand__ __rdivmod__ __rfloordiv__
    __rlshift__ __rmatmul__ __rmod__ __rmul__ __ror__ __rpow__ __rrshift__ __rshift__ __rsub__
    __rtruediv__ __rxor__ __sub__ __truediv__ __xor__").toList

/-- The other methods that take nothing but the object. -/
def bareMethods : List Text :=
  words ("__alloc__ __bytes__ __ceil__ __complex__ __dir__ __enter__ __floor__ __getnewargs__
    __getstate__ __init_subclass__ __length_hint__ __reduce__ __reversed__ __sizeof__
    __subclasses__ __trunc__ as_integer_ratio bit_count bit_length capitalize casefold clear
    co_lines co_positions conjugate copy is_integer isalnum isalpha isascii isdecimal isdigit
    isidentifier islower isnumeric isprintable isspace istitle isupper items keys lower mro
    popitem release reverse swapcase title tolist toreadonly upper values").toList

/-- How a method of a built-in class that was taken from an object refuses a number of arguments, if
it does; `title` is the name of the method behind that of its class. -/
def refusalOfCount? (kind : AttributeKind) (title name : Text) (count : Nat) : Option Text :=
  if kind == .operator then
    let expected (n : Nat) (noun : String) : Option Text :=
      if count == n then none
      else some ("expected " ++ ofNat n ++ noun.toList ++ ofNat count)
    if unaryOperators.contains name then expected 0 " arguments, got "
    else if binaryOperators.contains name then expected 1 " argument, got "
    else none
  else if bareMethods.contains name && count != 0 then
    some (title ++ "() takes no arguments (" ++ ofNat count ++ " given)")
  else none

/-- The class of what a method of a built-in class yields, as far as it is known: nothing is said of
the comparison with a thing of another class. -/
def resultOfMethod (kind : AttributeKind) (name : Text) : Text :=
  if (kind == .operator && binaryOperators.contains name) || name == "__subclasshook__".toList then
    "NotImplementedType"
  else if name == "__prepare__".toList then "dict"
  else object

end Builtin

end TestSkeleton

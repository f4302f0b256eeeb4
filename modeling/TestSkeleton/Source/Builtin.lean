import TestSkeleton.Source.Binding
import TestSkeleton.Source.Linearization
import TestSkeleton.Source.Table.Attribute
import TestSkeleton.Source.Table.ClassDoc
import TestSkeleton.Source.Table.FunctionDoc
import TestSkeleton.Source.Table.MethodDoc

set_option autoImplicit false

/-! # Built-in names

What names stand for that no module defines, and what is known of the built-in classes: their
ancestors, their attributes, and the form of their objects.
-/

namespace TestSkeleton

namespace AttributeKind

/-- The class of an attribute of this kind. -/
def className : AttributeKind → Text
  | operator => "wrapper_descriptor"
  | method => "method_descriptor"
  | classMethod => "classmethod_descriptor"
  | getter => "getset_descriptor"
  | member => "member_descriptor"
  | function => "builtin_function_or_method"

/-- The class of an attribute of this kind that was taken from an object. -/
def boundClassName : AttributeKind → Text
  | operator => "method-wrapper"
  | _ => "builtin_function_or_method"

/-- Whether objects compute or store the attribute, so that nothing of their own hides it. -/
def isData : AttributeKind → Bool
  | getter | member => true
  | _ => false

end AttributeKind

namespace Builtin

open Text (words)

/-! ## Classes -/

/-- The class that all classes have as an ancestor. -/
def object : Text := "object"

/-- The class that all classes are instances of. -/
def metaclass : Text := "type"

/-- The class of exceptions. -/
def exception : Text := "BaseException"

/-- A built-in class with its own attributes. An attribute without a kind is absent on purpose. -/
structure BuiltinClass where
  name : Text
  bases : List Text
  attributes : List (Text × Option AttributeKind)

/-- The headings of the names of attributes. -/
def headings : List (Text × Option AttributeKind) := [
  ("operator:", some .operator), ("method:", some .method), ("classMethod:", some .classMethod),
  ("getter:", some .getter), ("member:", some .member), ("function:", some .function),
  ("absent:", none)]

/-- The attributes among words, each of the kind of the last heading before it. -/
def attributesOfWords (kind : Option AttributeKind) :
    List Text → List (Text × Option AttributeKind)
  | [] => []
  | w :: ws =>
    match headings.lookup w with
    | some kind => attributesOfWords kind ws
    | none => (w, kind) :: attributesOfWords kind ws

/-- The built-in classes. -/
def classes : List BuiltinClass :=
  rows.map (fun (name, bases, attributes) =>
    ⟨name.toList, words bases.toList, attributesOfWords none (words attributes.toList)⟩)
  ++ plainRows.map fun (name, bases) =>
    ⟨name.toList, words bases.toList,
      [("__init__".toList, some .operator), ("__new__".toList, some .function)]⟩

/-- The built-in class of this name. -/
def class? (name : Text) : Option BuiltinClass := classes.find? fun c => c.name == name

/-- The names of a class and of its ancestors that are found in as many steps as `fuel`. -/
def ancestry : Nat → Text → List Text
  | 0, name => [name]
  | fuel + 1, name =>
    match class? name with
    | some c =>
      name :: match Linearization.merge (c.bases.map (ancestry fuel) ++ [c.bases]) with
        | .ok names => names
        | .error _ => []
    | none => [name, object]

/-- A built-in class and its ancestors. No chain of ancestors is longer than six. -/
def linearization (name : Text) : List Text := ancestry 6 name

/-- Whether a built-in class is another one or derived from it. -/
def isSubclass (name ancestor : Text) : Bool := (linearization name).contains ancestor

/-- The classes that no name stands for. -/
def hiddenClasses : List Text :=
  words ("function method builtin_function_or_method method_descriptor wrapper_descriptor
    method-wrapper classmethod_descriptor getset_descriptor member_descriptor NoneType ellipsis
    NotImplementedType module mappingproxy code
    ABC ABCMeta abstractclassmethod abstractstaticmethod abstractproperty").toList

/-- Second names of classes. -/
def otherNames : List (Text × Text) := [("EnvironmentError", "OSError"), ("IOError", "OSError")]

/-- The class that a name stands for. -/
def classNamed? (name : Text) : Option Text :=
  (otherNames.lookup name).orElse fun _ =>
    if hiddenClasses.contains name then none else (class? name).map (·.name)

/-- The classes that no class can have as an ancestor. -/
def finalClasses : List Text :=
  words ("bool memoryview range slice function method builtin_function_or_method method_descriptor
    wrapper_descriptor method-wrapper classmethod_descriptor getset_descriptor member_descriptor
    NoneType ellipsis NotImplementedType mappingproxy code").toList

/-- The classes whose objects have a form of their own. -/
def layouts : List Text :=
  words ("object AttributeError BaseException BaseExceptionGroup OSError ImportError NameError
    StopIteration SyntaxError SystemExit UnicodeDecodeError UnicodeEncodeError
    UnicodeTranslateError bytearray bytes classmethod complex dict enumerate filter float frozenset
    int list map property reversed set staticmethod str super tuple type zip module").toList

/-- The classes whose objects have a size of their own. -/
def sizedClasses : List Text := words "int bytes tuple type ABCMeta".toList

/-- The classes but for exceptions whose objects can have attributes of their own. -/
def openClasses : List Text :=
  words ("classmethod staticmethod type function module ABCMeta abstractclassmethod
    abstractstaticmethod abstractproperty").toList

/-- Whether the objects of a class can have attributes of their own. -/
def hasDictionary (name : Text) : Bool := openClasses.contains name || isSubclass name exception

/-- The classes whose objects can be referred to without being kept. -/
def weaklyReferable : List Text :=
  words ("frozenset set type function method builtin_function_or_method module ExceptionGroup
    ABCMeta abstractclassmethod abstractstaticmethod abstractproperty").toList

/-- The module for abstract classes, and its class that other classes are derived from. -/
def abstractModule : Text := "abc"
def abstractClass : Text := "ABC"

/-- The class of the classes that keep count of what is abstract in them. -/
def abstractMetaclass : Text := "ABCMeta"

/-- The classes of the module for abstract classes. -/
def abstractClasses : List Text := [
  abstractClass, abstractMetaclass, "abstractclassmethod", "abstractstaticmethod",
  "abstractproperty"]

/-- The module that defines a class. -/
def moduleOf (name : Text) : Text :=
  if abstractClasses.contains name then abstractModule else "builtins"

/-! ## Doc comments -/

/-- The doc comment of a class. -/
def classDoc? (name : Text) : Option Text :=
  (classDocs.find? fun e => e.1.toList == name).map fun e => e.2.toList

/-- The doc comment of a function. -/
def functionDoc? (name : Text) : Option Text :=
  (functionDocs.find? fun e => e.1.toList == name).map fun e => e.2.toList

/-- The doc comment of the functions that make objects. -/
def makerDoc : Text := "Create and return a new object.  See help(type) for accurate signature."

/-- The doc comment of an attribute of a class. -/
def methodDoc? (kind : AttributeKind) (owner name : Text) : Option Text :=
  if kind == .operator then
    (operatorDocs.find? fun e => e.1.toList == name).map fun e => e.2.toList
  else if name == "__new__".toList then some makerDoc
  else
    (methodDocs.find? fun e => e.1.toList == owner && e.2.1.toList == name).map fun e =>
      e.2.2.toList

/-! ## Attributes -/

/-- The name of the doc comment among the attributes. -/
def docName : Text := "__doc__"

/-- The attribute by which a method tells that subclasses have to override it. -/
def abstractMark : Text := "__isabstractmethod__"

/-- A function of a class. -/
def functionOf (cls name : Text) (doc : Option Text) (effect : FunctionEffect) : Text × Binding :=
  (name, .function
    { name, qualifiedName := cls ++ '.' :: name, module := abstractModule, doc, effect })

/-- The attributes of the metaclass for abstract classes. -/
def metaclassLayer : Layer :=
  let doc (t : String) : Option Text := some t.toList
  ("__new__", .staticMethod (.builtin "staticmethod")
    (functionOf abstractMetaclass "__new__" none .nothing).2) ::
  List.map (fun (p : Text × Option Text) => functionOf abstractMetaclass p.1 p.2 .nothing) [
  ("register", doc "Register a virtual subclass of an ABC.

            Returns the subclass, to allow usage as a class decorator.
            "),
  ("__instancecheck__", doc "Override for isinstance(instance, cls)."),
  ("__subclasscheck__", doc "Override for issubclass(subclass, cls)."),
  ("_dump_registry", doc "Debug helper to print the ABC registry."),
  ("_abc_registry_clear", doc "Clear the registry (for debugging or testing)."),
  ("_abc_caches_clear", doc "Clear the caches (for debugging or testing).")]

/-- The attributes of the classes for abstract methods. -/
def abstractMethodLayer (cls : Text) : Layer :=
  (abstractMark, .value (.bool true)) ::
    if cls == "abstractproperty".toList then []
    else [functionOf cls "__init__" none .wrapsAbstract]

/-- The attributes of a class that the module for abstract classes defines. -/
def abstractLayer (name : Text) : Layer :=
  if !abstractClasses.contains name then []
  else
    ("__module__", .text abstractModule) ::
      if name == abstractClass then
        [("__slots__", .value (.tuple [])), ("__abstractmethods__", .objectOf "frozenset"),
          ("_abc_impl", .objectOf "_abc_data")]
      else if name == abstractMetaclass then metaclassLayer
      else abstractMethodLayer name

/-- What tells how a module is loaded: the classes of it and the names of its members. -/
def loadingMembers : List (Text × List Text) := [
  ("ModuleSpec", words ("__dict__ __module__ __weakref__ _cached _set_fileattr
    _uninitialized_submodules cached has_location loader loader_state name origin parent
    submodule_search_locations").toList),
  ("SourceFileLoader", words ("__dict__ __module__ __weakref__ _cache_bytecode create_module
    exec_module get_code get_data get_filename get_resource_reader get_source is_package load_module
    name path path_mtime path_stats set_data source_to_code").toList)]

/-- An attribute that a class has of its own. -/
def ownAttribute? (cls name : Text) : Option Binding :=
  match (abstractLayer cls).lookup name with
  | some b => some b
  | none =>
    match (class? cls).bind fun c => c.attributes.lookup name with
    | some none => some .nothing
    | some (some kind) =>
      let b := .descriptor kind cls name
      some (if name == "maketrans".toList then .staticMethod (.builtin "staticmethod") b else b)
    | none =>
      if name == docName then some ((classDoc? cls).elim .nothing .text)
      else if ((loadingMembers.lookup cls).getD []).contains name then some (.objectOf object)
      else none

/-- The names of the attributes that a class has of its own, each once. -/
def attributeNames (cls : Text) : List Text :=
  (docName :: (abstractLayer cls).map Prod.fst
    ++ ((class? cls).map fun c => c.attributes.map Prod.fst).getD []).eraseDups

/-- The attributes of a class that are methods or tell what it says about itself. -/
def layer (cls : Text) : Layer :=
  (attributeNames cls).filterMap fun n => (ownAttribute? cls n).map fun b => (n, b)

/-! ## Names -/

/-- The functions. -/
def functions : List Text :=
  words ("__build_class__ __import__ abs aiter all anext any ascii bin breakpoint callable chr
    compile delattr dir divmod eval exec format getattr globals hasattr hash hex id input isinstance
    issubclass iter len locals max min next oct open ord pow print repr round setattr sorted sum
    vars").toList

/-- The constants, and the objects that belong to conversations. -/
def constants : List (Text × Binding) := [
  ("None", .nothing), ("True", .value (.bool true)), ("False", .value (.bool false)),
  ("__debug__", .value (.bool true)), ("Ellipsis", .objectOf "ellipsis"),
  ("NotImplemented", .objectOf "NotImplementedType"),
  ("copyright", .objectOf "_Printer"), ("credits", .objectOf "_Printer"),
  ("license", .objectOf "_Printer"), ("exit", .objectOf "Quitter"), ("quit", .objectOf "Quitter"),
  ("help", .objectOf "_Helper")]

/-- What a name stands for that no module defines. -/
def binding? (name : Text) : Option Binding :=
  match classNamed? name with
  | some c => some (.cls (.builtin c))
  | none => if functions.contains name then some (.builtinFunction name) else constants.lookup name

/-- The modules that can be loaded without being given. -/
def modules : List Text :=
  abstractModule ::
  words ("collections dataclasses datetime enum functools itertools json logging math os pathlib
    random re string sys time typing unittest").toList

/-- The doc comment of the function that marks methods as abstract. -/
def markDoc : Text :=
  "A decorator indicating abstract methods.

    Requires that the metaclass is ABCMeta or derived from it.  A
    class that has a metaclass derived from ABCMeta cannot be
    instantiated unless all of its abstract methods are overridden.
    The abstract methods can be called using any of the normal
    'super' call mechanisms.  abstractmethod() may be used to declare
    abstract methods for properties and descriptors.

    Usage:

        class C(metaclass=ABCMeta):
            @abstractmethod
            def my_abstract_method(self, arg1, arg2, argN):
                ...
    "

/-- The doc comment of the function that counts anew what is abstract in a class. -/
def updateDoc : Text :=
  "Recalculate the set of abstract methods of an abstract class.

    If a class has had one of its abstract methods implemented after the
    class was created, the method will not be considered implemented until
    this function is called. Alternatively, if a new abstract method has been
    added to the class, it will only be considered an abstract method of the
    class after this function is called.

    This function should be called before any use is made of the class,
    usually in class decorators that add methods to the subject class.

    Returns cls, to allow usage as a class decorator.

    If cls is not an instance of ABCMeta, does nothing.
    "

/-- The members of the module for abstract classes that are no classes. -/
def abstractFunctions : Layer := [
  ("__name__", .text abstractModule), ("__package__", .text []),
  ("__doc__", .text "Abstract Base Classes (ABCs) according to PEP 3119."),
  ("__builtins__", .objectOf "dict"), ("__file__", .objectOf "str"),
  ("__spec__", .objectOf "ModuleSpec"), ("__loader__", .objectOf metaclass),
  ("abstractmethod", .function
    { name := "abstractmethod", qualifiedName := "abstractmethod", module := abstractModule,
      doc := some markDoc, effect := .marksAbstract }),
  ("update_abstractmethods", .function
    { name := "update_abstractmethods", qualifiedName := "update_abstractmethods",
      module := abstractModule, doc := some updateDoc, effect := .yieldsArgument }),
  ("get_cache_token", .builtinFunction "get_cache_token")]

/-- The members of the module for abstract classes. -/
def abstractMembers : Layer :=
  abstractFunctions ++ abstractClasses.map fun c => (c, Binding.cls (.builtin c))

end Builtin

end TestSkeleton

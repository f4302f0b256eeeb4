import TestSkeleton.Text.Encoding
import TestSkeleton.ClassInfo.Basic
import TestSkeleton.Value.Part
import TestSkeleton.Value.Printing
import TestSkeleton.Text.Case

set_option autoImplicit false

/-! # Reading class descriptions

A class description is a mapping with the fields `class`, `module`, `doc` and `methods`, and each
method is its name or a mapping in turn. Most fields have a short and a long key, of which the short
one wins; keys that mean nothing here are passed over. Reading does not stop at the first fault but
finds all of them. Collections may be given by their numbers among `parts`.
-/

namespace TestSkeleton

/-- What is wrong with a field of a class description. -/
inductive FieldFault where
  | missing
  | notText
  | notUnicode
  | emptyText
  | notBoolean
  | unknownBoolean
  | notList
  /-- The value that describes a class or method, named here, is no mapping. -/
  | notMapping (what : Text)
  | unknownVisibility (value : Value)

namespace FieldFault

/-- The kinds of visibility. -/
def visibilities : List Text := ["public", "protected", "private"]

/-- The message for a number that is too long to be written. -/
def longNumber : Text :=
  "Exceeds the limit (" ++ Text.ofNat Number.maxDigits ++ " digits) for integer string conversion; "
    ++ "use sys.set_int_max_str_digits() to increase the limit"

/-- The message of a fault. -/
def message : FieldFault → Text
  | missing => "Field required"
  | notText => "Input should be a valid string"
  | notUnicode => "Input should be a valid string, unable to parse raw data as a unicode string"
  | emptyText => "String should have at least 1 character"
  | notBoolean => "Input should be a valid boolean"
  | unknownBoolean => "Input should be a valid boolean, unable to interpret input"
  | notList => "Input should be a valid list"
  | notMapping what => "Input should be a valid dictionary or instance of " ++ what
  | unknownVisibility value =>
    "Value error, " ++
      if value.hasLongNumber then longNumber
      else "visibility must be one of " ++ Text.joinWith ", " visibilities ++ ", got "
        ++ value.literal

/-- The code of a fault. -/
def code : FieldFault → Text
  | missing => "missing"
  | notText => "string_type"
  | notUnicode => "string_unicode"
  | emptyText => "string_too_short"
  | notBoolean => "bool_type"
  | unknownBoolean => "bool_parsing"
  | notList => "list_type"
  | notMapping _ => "model_type"
  | unknownVisibility _ => "value_error"

end FieldFault

/-- A fault and the keys and positions that lead to it. -/
structure FieldError where
  path : List Text
  fault : FieldFault

namespace FieldError

/-- The path with dots between its parts. -/
def location (e : FieldError) : Text := Text.joinWith ['.'] e.path

/-- The error seen from outside the field `key`. -/
def inside (key : Text) (e : FieldError) : FieldError := ⟨key :: e.path, e.fault⟩

end FieldError

/-- A part of a description: its value, or all of its faults. -/
abbrev Checked (α : Type) := Except (List FieldError) α

namespace Checked

/-- The function applied to the argument; the faults of both if there are any. -/
def apply {α β : Type} (f : Checked (α → β)) (x : Checked α) : Checked β :=
  match f, x with
  | .ok f, .ok x => .ok (f x)
  | .error e, .ok _ => .error e
  | .ok _, .error e => .error e
  | .error e, .error e' => .error (e ++ e')

/-- All parts, or the faults of all. -/
def all {α : Type} : List (Checked α) → Checked (List α)
  | [] => .ok []
  | x :: xs => apply (apply (.ok (· :: ·)) x) (all xs)

/-- A part with its faults seen from outside the field `key`. -/
def inside {α : Type} (key : Text) (x : Checked α) : Checked α :=
  x.mapError (·.map (.inside key))

/-- A part with one fault. -/
def fail {α : Type} (fault : FieldFault) : Checked α := .error [⟨[], fault⟩]

end Checked

/-- The entries of a mapping. -/
abbrev Fields := List (Value × Value)

namespace Fields

/-- The field with a short and a long key, with the key that it was found under. -/
def find? (es : Fields) (key longKey : Text) : Option (Text × Value) :=
  match Value.field? es key with
  | some v => some (key, v)
  | none => (Value.field? es longKey).map (longKey, ·)

/-- Reads a field that may be missing. -/
def optional {α : Type} (es : Fields) (key longKey : Text) (default : α)
    (read : Value → Checked α) :
    Checked α :=
  match find? es key longKey with
  | some (k, v) => (read v).inside k
  | none => .ok default

/-- Reads a field that may not be missing. -/
def required {α : Type} (es : Fields) (key longKey : Text) (read : Value → Checked α) : Checked α :=
  match find? es key longKey with
  | some (k, v) => (read v).inside k
  | none => .error [⟨[key], .missing⟩]

/-- The entries with the empty text in place of a null doc comment. -/
def normalizeDoc (es : Fields) : Fields :=
  es.map fun
    | (.str k, .none) =>
      (.str k, if k == "doc".toList || k == "doc_comment".toList then .str [] else .none)
    | e => e

end Fields

namespace Value

/-- Reads a text. -/
def readText : Value → Checked Text
  | str t => .ok t
  | bytes bs => match Text.decode? bs with
    | some t => .ok t
    | Option.none => .fail .notUnicode
  | _ => .fail .notText

/-- Reads a text that is not empty. -/
def readName (v : Value) : Checked Text := do
  let t ← v.readText
  if t.isEmpty then .fail .emptyText else .ok t

/-- Reads a text or nothing. -/
def readText? : Value → Checked (Option Text)
  | none => .ok Option.none
  | v => v.readText.map some

/-- The words for true, in lower case. -/
def trueWords : List Text := ["1", "on", "t", "true", "y", "yes"]

/-- The words for false, in lower case. -/
def falseWords : List Text := ["0", "off", "f", "false", "n", "no"]

/-- Reads a word for true or false, in any case of its ASCII letters. -/
def booleanOfWord (t : Text) : Checked Bool :=
  let word := t.map Char.toLower
  if trueWords.contains word then .ok true
  else if falseWords.contains word then .ok false
  else .fail .unknownBoolean

/-- The power of two that numbers of 64 bits stay below. -/
def wordLimit : Int := 9223372036854775808

/-- Reads a number for true or false. Numbers beyond 64 bits count as no numbers. -/
def booleanOfInt (n : Int) : Checked Bool :=
  if n = 0 then .ok false
  else if n = 1 then .ok true
  else if -wordLimit ≤ n ∧ n < wordLimit then .fail .unknownBoolean
  else .fail .notBoolean

/-- Reads a boolean: true or false, one or zero, or a word. -/
def readBool : Value → Checked Bool
  | bool b => .ok b
  | str t => booleanOfWord t
  | bytes bs => match Text.decode? bs with
    | some t => booleanOfWord t
    | Option.none => .fail .unknownBoolean
  | int n => booleanOfInt n
  | float x => match x.toInt? with
    | some n => if n = -wordLimit then .fail .notBoolean else booleanOfInt n
    | Option.none => .fail .notBoolean
  | _ => .fail .notBoolean

end Value

namespace Method

/-- The entries of a method with its visibility turned into the flag `public`. -/
def normalizeVisibility (parts : Parts) (es : Fields) : Checked Fields :=
  match Value.field? es "visibility" with
  | none => .ok es
  | some (.str v) =>
    if FieldFault.visibilities.contains v then
      .ok (Value.setField "public" (.bool (v == "public".toList)) (Value.dropField "visibility" es))
    else .fail (.unknownVisibility (.str v))
  | some v => .fail (.unknownVisibility (v.expanded parts))

/-- Reads the fields of a method. -/
def ofFields (es : Fields) : Checked Method :=
  let mk (name : Text) (isStatic isPublic isAbstract isConstructor isOwn : Bool) (doc : Text) :
      Method := ⟨name, isStatic, isPublic, isAbstract, isConstructor, isOwn, doc⟩
  ((((((Checked.apply (.ok mk) (es.required "name" "name" Value.readText)).apply
    (es.optional "static" "is_static" false Value.readBool)).apply
    (es.optional "public" "is_public" true Value.readBool)).apply
    (es.optional "abstract" "is_abstract" false Value.readBool)).apply
    (es.optional "constructor" "is_constructor" false Value.readBool)).apply
    (es.optional "declared" "declared_on_target_class" true Value.readBool)).apply
    (es.optional "doc" "doc_comment" [] Value.readText)

/-- Reads a method. -/
def ofValue (parts : Parts) (v : Value) : Checked Method :=
  match v.opened parts with
  | .dict es => do ofFields (Fields.normalizeDoc (← normalizeVisibility parts es))
  | _ => .fail (.notMapping "SourceMethod")

end Method

namespace ClassInfo

/-- Reads the methods at their positions, the first of them at `i`. -/
def methodsFrom (parts : Parts) (i : Nat) : List Value → List (Checked Method)
  | [] => []
  | v :: vs => (Method.ofValue parts v).inside (Text.ofNat i) :: methodsFrom parts (i + 1) vs

/-- A method that is only named, as the mapping that stands for it. -/
def expandName : Value → Value
  | .str name => .dict [(.str "name".toList, .str name)]
  | v => v

/-- Reads the list of methods. Nothing stands for no methods. Only in a list may a method be only
named. -/
def readMethods (parts : Parts) (v : Value) : Checked (List Method) :=
  match v.opened parts with
  | .none => .ok []
  | .list vs => .all (methodsFrom parts 0 (vs.map expandName))
  | .tuple vs | .set vs | .frozenset vs => .all (methodsFrom parts 0 vs)
  | _ => .fail .notList

/-- Reads the fields of a class. -/
def ofFields (parts : Parts) (es : Fields) : Checked ClassInfo :=
  let mk (name : Text) (module? : Option Text) (doc : Text) (methods : List Method) : ClassInfo :=
    ⟨name, module?, doc, methods⟩
  (((Checked.apply (.ok mk) (es.required "class" "name" Value.readName)).apply
    (es.optional "module" "module" none Value.readText?)).apply
    (es.optional "doc" "doc_comment" [] Value.readText)).apply
    (es.optional "methods" "methods" [] (readMethods parts))

/-- Reads a class. -/
def ofValue (parts : Parts) (v : Value) : Checked ClassInfo :=
  match v.opened parts with
  | .dict es => ofFields parts (Fields.normalizeDoc es)
  | _ => .fail (.notMapping "ClassMetadata")

end ClassInfo

end TestSkeleton

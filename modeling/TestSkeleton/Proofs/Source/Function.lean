import TestSkeleton.Proofs.Event
import TestSkeleton.Proofs.Source.Lookup
import TestSkeleton.Source.Execution

set_option autoImplicit false

/-! # What is known of functions

A function of a module is described by its own mark and by its own doc comment: its class computes
the one for each function, and knows nothing of the other (`describeFunction_function`).
-/

namespace TestSkeleton

open Text

namespace Builtin

/-- The class of functions. -/
def functionClass : Text := "function"

/-! ## Attributes of built-in classes

These two are lemmas about any class, since the tables are gone through again wherever one is put
in. -/

theorem ownAttribute?_of_none {cls name : Text}
    (habstract : (abstractLayer cls).lookup name = none)
    (hclass : (class? cls).bind (fun c => c.attributes.lookup name) = none)
    (hdoc : (name == docName) = false) (hloading : loadingMembers.lookup cls = none) :
    ownAttribute? cls name = none := by
  unfold ownAttribute?
  rw [habstract, hclass, hloading, hdoc]
  rfl

theorem ownAttribute?_of_some {cls name : Text} {kind : AttributeKind}
    (habstract : (abstractLayer cls).lookup name = none)
    (hclass : (class? cls).bind (fun c => c.attributes.lookup name) = some (some kind))
    (hname : (name == "maketrans".toList) = false) :
    ownAttribute? cls name = some (.descriptor kind cls name) := by
  unfold ownAttribute?
  rw [habstract, hclass, hname]
  rfl

theorem linearization_functionClass :
    linearization functionClass = [functionClass, object] := by
  decide +kernel

theorem ownAttribute?_functionClass_mark : ownAttribute? functionClass abstractMark = none := by
  have hclass : (class? functionClass).bind (fun c => c.attributes.lookup abstractMark) = none := by
    have hrow : class? functionClass
        = some ⟨functionClass, [object], attributesOfWords none (words (String.toList _))⟩ := rfl
    rw [hrow, String.toList_ofList]
    decide
  exact ownAttribute?_of_none (by decide) hclass (by decide) (by decide)

theorem ownAttribute?_object_mark : ownAttribute? object abstractMark = none := by
  have hclass : (class? object).bind (fun c => c.attributes.lookup abstractMark) = none := by
    have hrow : class? object
        = some ⟨object, [], attributesOfWords none (words (String.toList _))⟩ := rfl
    rw [hrow, String.toList_ofList]
    decide
  exact ownAttribute?_of_none (by decide) hclass (by decide) (by decide)

theorem ownAttribute?_functionClass_doc : ownAttribute? functionClass docName
    = some (.descriptor .member functionClass docName) := by
  have hclass : (class? functionClass).bind (fun c => c.attributes.lookup docName)
      = some (some .member) := by
    have hrow : class? functionClass
        = some ⟨functionClass, [object], attributesOfWords none (words (String.toList _))⟩ := rfl
    rw [hrow, String.toList_ofList]
    decide
  exact ownAttribute?_of_some (by decide) hclass (by decide)

end Builtin

/-! ## Attributes of functions -/

namespace ClassTable

variable (t : ClassTable)

theorem linearization_functionClass : t.linearization (.builtin Builtin.functionClass)
    = [.builtin Builtin.functionClass, .builtin Builtin.object] :=
  congrArg (List.map ClassRef.builtin) Builtin.linearization_functionClass

theorem find?_functionClass_mark :
    t.find? (.builtin Builtin.functionClass) Builtin.abstractMark = none := by
  have hfunction := (t.own?_builtin _ _).trans Builtin.ownAttribute?_functionClass_mark
  have hobject := (t.own?_builtin _ _).trans Builtin.ownAttribute?_object_mark
  exact (find?_of_linearization t.linearization_functionClass).trans
    ((firstOwner?_of_none hfunction).trans (firstOwner?_of_none hobject))

theorem find?_functionClass_doc : t.find? (.builtin Builtin.functionClass) Builtin.docName
    = some (.builtin Builtin.functionClass,
      .descriptor .member Builtin.functionClass Builtin.docName) := by
  have hfunction := (t.own?_builtin _ _).trans Builtin.ownAttribute?_functionClass_doc
  exact (find?_of_linearization t.linearization_functionClass).trans (firstOwner?_of_some hfunction)

theorem classOf_function (f : Function) :
    t.classOf (.function f) = .builtin Builtin.functionClass := rfl

variable {t} {c : ClassRef} {b : Binding} {name : Text}

/-- A thing whose class declares nothing of how attributes are found has them as all objects do. -/
theorem byClass_of_none (hall : t.declaredAttribute? (t.classOf b) "__getattribute__".toList = none)
    (hmissing : t.declaredAttribute? (t.classOf b) "__getattr__".toList = none) (fuel : Nat)
    (name : Text) (own : Unit → Option Binding) :
    t.byClass fuel b name own = t.plainAttribute fuel b name own := by
  unfold byClass
  simp only [hall, hmissing]
  split
  next heq => cases heq
  next => rfl

/-- An object of a declared class has the attributes that its class gives it, and its mark. -/
theorem getAttribute_object (t : ClassTable) (members : Text → Option Layer) (fuel n : Nat)
    (isMarked : Bool) (name : Text) :
    t.getAttribute members fuel name (.object (.declared n) isMarked)
      = t.byClass fuel (.object (.declared n) isMarked) name
        fun _ => markOf (.object (.declared n) isMarked) name := by
  have hknown : (Binding.object (.declared n) isMarked).isUnknown = false := rfl
  have hobject : t.getAttribute members fuel name (.object (.declared n) isMarked)
      = t.ofObject fuel (.object (.declared n) isMarked) name := rfl
  rw [hobject, ofObject, hknown, if_neg Bool.false_ne_true]

theorem byClass_of_builtin {cls : Text} (h : t.classOf b = .builtin cls) (fuel : Nat) (name : Text)
    (own : Unit → Option Binding) : t.byClass fuel b name own = t.plainAttribute fuel b name own :=
  byClass_of_none (by rw [h, declaredAttribute?_builtin]) (by rw [h, declaredAttribute?_builtin])
    fuel name own

/-- What the class of a thing stores for each object comes first. -/
theorem plainAttribute_of_stored {fuel : Nat} {raw : Binding} {own : Unit → Option Binding}
    (h : t.find? (t.classOf b) name = some (c, raw)) (hdata : t.isData raw = true) :
    t.plainAttribute fuel b name own = t.take (some b) (t.classOf b) fuel raw := by
  unfold plainAttribute
  simp only [h, hdata, if_true]

/-- What the class of a thing has for all of them, the thing has if it has nothing of its own. -/
theorem plainAttribute_of_shared {fuel : Nat} {raw : Binding} {own : Unit → Option Binding}
    (h : t.find? (t.classOf b) name = some (c, raw)) (hdata : t.isData raw = false)
    (hown : own () = none) :
    t.plainAttribute fuel b name own = t.take (some b) (t.classOf b) fuel raw := by
  unfold plainAttribute
  simp only [h, hdata, hown, Bool.false_eq_true, if_false]

theorem take_stored {owner : ClassRef} {limit : Nat} (kind : AttributeKind)
    (hdata : kind.isData = true) (s : Binding) (cls name : Text) :
    t.take (some s) owner (limit + 1) (.descriptor kind cls name)
      = Logged.ofExcept (t.field name s) := by
  cases kind with
  | getter | member => simp only [take, AttributeKind.isData, if_true]; rfl
  | _ => cases hdata

/-- What the class of a thing does not know is an attribute of the thing itself. -/
theorem plainAttribute_of_unknown {fuel : Nat} {own : Unit → Option Binding}
    (h : t.find? (t.classOf b) name = none) :
    t.plainAttribute fuel b name own = match own () with
      | some a => pure a
      | none => .fail (t.missing b name) := by
  unfold plainAttribute
  cases own () <;> simp only [h]

end ClassTable

namespace Execution

variable {x : Execution}

theorem attributeOf_function (f : Function) (name : Text) : x.attributeOf (.function f) name
    = x.table.plainAttribute x.callLimit (.function f) name
        fun _ => ClassTable.markOf (.function f) name := by
  have hclass : x.attributeOf (.function f) name = x.table.byClass x.callLimit (.function f) name
      fun _ => ClassTable.markOf (.function f) name := rfl
  rw [hclass, ClassTable.byClass_of_builtin (x.table.classOf_function f)]

/-- The mark of a function is its own. -/
theorem attributeOf_mark (f : Function) : x.attributeOf (.function f) Builtin.abstractMark
    = if f.isAbstract then pure (.value (.bool true))
      else .fail (x.table.missing (.function f) Builtin.abstractMark) := by
  have hown : ClassTable.markOf (.function f) Builtin.abstractMark
      = if f.isAbstract then some (.value (.bool true)) else none := by
    simp [ClassTable.markOf, ClassTable.isAbstract]
  rw [attributeOf_function, ClassTable.plainAttribute_of_unknown, hown]
  · cases f.isAbstract <;> rfl
  · rw [ClassTable.classOf_function, ClassTable.find?_functionClass_mark]

/-- The doc comment of a function is stored for it by its class. -/
theorem attributeOf_doc (hlimit : x.callLimit ≠ 0) (f : Function) :
    x.attributeOf (.function f) Builtin.docName = pure (f.doc.elim .nothing .text) := by
  have hstored : x.table.find? (x.table.classOf (.function f)) Builtin.docName
      = some (.builtin Builtin.functionClass,
        .descriptor .member Builtin.functionClass Builtin.docName) := by
    rw [ClassTable.classOf_function, ClassTable.find?_functionClass_doc]
  obtain ⟨limit, hlimit⟩ := Nat.exists_eq_succ_of_ne_zero hlimit
  rw [attributeOf_function, ClassTable.plainAttribute_of_stored hstored rfl, hlimit,
    ClassTable.take_stored .member rfl]
  rfl

theorem isMarked_function (f : Function) : x.isMarked (.function f) = pure f.isAbstract := by
  rw [isMarked, attributeOf_mark]
  cases f.isAbstract <;> rfl

/-- A function whose definition says nothing has an empty doc comment. -/
theorem docText_definition (doc : Option Text) :
    x.docText (doc.elim .nothing .text) = pure (some (doc.getD [])) := by
  cases doc with
  | none => rfl
  | some doc => cases doc <;> rfl

/-- **What is known of a function** is what its definition says. It tells this without failing, and
writes nothing. -/
theorem describeFunction_function (hlimit : x.callLimit ≠ 0) (isStatic : Bool) (f : Function) :
    x.describeFunction isStatic (.function f)
      = { isStatic, isAbstract := f.isAbstract, doc := some (f.doc.getD []) } := by
  have htelling : x.tellingOf (.function f) = pure (f.isAbstract, some (f.doc.getD [])) := by
    rw [tellingOf, isMarked_function, attributeOf_doc hlimit]
    show (do return (f.isAbstract, ← x.docText (f.doc.elim .nothing .text))) = _
    rw [docText_definition]
    rfl
  rw [describeFunction, htelling]
  rfl

/-- What has something else than a text as its doc comment tells no text, whether or not it is
marked. -/
theorem describeFunction_doc_of_not_text {isStatic : Bool} {b doc : Binding}
    (hdoc : (x.attributeOf b Builtin.docName).result = .ok doc)
    (htext : (x.docText doc).result = .ok none) : (x.describeFunction isStatic b).doc = none := by
  have htelling : (x.tellingOf b).result = (x.isMarked b).result.map fun m => (m, none) := by
    cases hmarked : (x.isMarked b).result with
    | error e => exact Logged.result_bind_of_error hmarked _
    | ok m =>
        refine (Logged.result_bind_of_ok hmarked _).trans ?_
        refine (Logged.result_bind_of_ok hdoc _).trans ?_
        exact Logged.result_bind_of_ok htext _
  unfold describeFunction
  extract_lets telling
  rw [htelling]
  cases (x.isMarked b).result <;> rfl

theorem methodAttribute?_function (hlimit : x.callLimit ≠ 0) (f : Function) :
    x.methodAttribute? (.function f)
      = some { isStatic := false, isAbstract := f.isAbstract, doc := some (f.doc.getD []) } :=
  congrArg some (describeFunction_function hlimit false f)

end Execution

end TestSkeleton

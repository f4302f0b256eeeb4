import Mathlib.Data.List.Forall2
import TestSkeleton.Proofs.ClassInfo.Fields

set_option autoImplicit false

/-! # Class descriptions as they are written

A class can be described in many ways: each field under its short or its long key, or not at all if
it has its default; nothing in the place of an empty doc comment or of no methods; a method that has
its name alone as that name; and the visibility of a method in the place of its flag.
`ClassInfo.IsWritten` are the mappings that describe a class in some mixture of these ways, and all
of them are read as that class (`read_written`).
-/

namespace TestSkeleton

open Fields

/-! ## The ways to write a value -/

/-- A doc comment is given as its text, and an empty one also by nothing. -/
inductive ShowsDoc (doc : Text) : Value → Prop
  | text : ShowsDoc doc (.str doc)
  | nothing (empty : doc = []) : ShowsDoc doc .none

/-- A module is given as its name, or by nothing if it is not known. -/
def moduleValue : Option Text → Value
  | none => .none
  | some m => .str m

/-- Whether a method is public is written as its visibility, whatever is under the keys of the flag,
or else as the flag. -/
inductive WritesPublic (es : Fields) : Bool → Prop
  | visible (found : Value.field? es "visibility" = some (.str "public".toList)) :
      WritesPublic es true
  | hidden {word : Text} (found : Value.field? es "visibility" = some (.str word))
      (isHidden : word = "protected" ∨ word = "private") : WritesPublic es false
  | flag {b : Bool} (absent : Value.field? es "visibility" = none)
      (written : es.Writes "public" "is_public" (· = .bool b) (b = true)) : WritesPublic es b

/-- The entries describe the method. -/
structure Method.IsWritten (m : Method) (es : Fields) : Prop where
  name : Value.field? es "name" = some (.str m.name)
  isStatic : es.Writes "static" "is_static" (· = .bool m.isStatic) (m.isStatic = false)
  isPublic : WritesPublic es m.isPublic
  isAbstract : es.Writes "abstract" "is_abstract" (· = .bool m.isAbstract) (m.isAbstract = false)
  isConstructor : es.Writes "constructor" "is_constructor" (· = .bool m.isConstructor)
    (m.isConstructor = false)
  isOwn : es.Writes "declared" "declared_on_target_class" (· = .bool m.isOwn) (m.isOwn = true)
  doc : es.Writes "doc" "doc_comment" (ShowsDoc m.doc) (m.doc = [])

/-- The value describes the method: it is the name, if all other fields have their defaults, or a
mapping. -/
inductive ShowsMethod (parts : Parts) (m : Method) : Value → Prop
  | named (defaults : m = { name := m.name }) : ShowsMethod parts m (.str m.name)
  | fields {v : Value} {es : Fields} (opened : v.opened parts = .dict es)
      (written : m.IsWritten es) : ShowsMethod parts m v

/-- The value describes the methods in order. -/
inductive ShowsMethods (parts : Parts) : List Method → Value → Prop
  | nothing {v : Value} (opened : v.opened parts = .none) : ShowsMethods parts [] v
  | list {ms : List Method} {v : Value} {vs : List Value} (opened : v.opened parts = .list vs)
      (shown : List.Forall₂ (ShowsMethod parts) ms vs) : ShowsMethods parts ms v

/-- The entries describe the class. -/
structure ClassInfo.IsWritten (c : ClassInfo) (parts : Parts) (es : Fields) : Prop where
  name : es.Writes "class" "name" (· = .str c.name) False
  module? : es.Writes "module" "module" (· = moduleValue c.module?) (c.module? = none)
  doc : es.Writes "doc" "doc_comment" (ShowsDoc c.doc) (c.doc = [])
  methods : es.Writes "methods" "methods" (ShowsMethods parts c.methods) (c.methods = [])

/-! ## Methods -/

theorem readText_of_eq {t : Text} : ∀ v : Value, v = .str t → v.readText = .ok t := by
  rintro v rfl
  rfl

theorem readBool_of_eq {b : Bool} : ∀ v : Value, v = .bool b → v.readBool = .ok b := by
  rintro v rfl
  rfl

/-- A doc comment is its text in either form, once nothing is made empty. -/
theorem normalValue_of_showsDoc {doc : Text} {v : Value} (h : ShowsDoc doc v) :
    normalValue "doc" v = .str doc ∧ normalValue "doc_comment" v = .str doc := by
  cases h with
  | text => exact ⟨rfl, rfl⟩
  | nothing empty =>
      subst empty
      exact ⟨rfl, rfl⟩

theorem writes_normalizeDoc {es : Fields} {doc : Text} {isDefault : Prop}
    (h : es.Writes "doc" "doc_comment" (ShowsDoc doc) isDefault) :
    (normalizeDoc es).Writes "doc" "doc_comment" (· = .str doc) isDefault :=
  h.map (field?_normalizeDoc es _) (field?_normalizeDoc es _) fun _ hv =>
    normalValue_of_showsDoc hv

/-- **The visibility goes before the flag.** However it is written whether a method is public, the
flag says so afterwards; and all but the flag and the visibility is as it was. -/
theorem exists_normalizeVisibility {es : Fields} {b : Bool} (h : WritesPublic es b)
    (parts : Parts) :
    ∃ es', Method.normalizeVisibility parts es = .ok es'
      ∧ es'.Writes "public" "is_public" (· = .bool b) (b = true)
      ∧ ∀ key, key ≠ "public".toList → key ≠ "visibility".toList →
        Value.field? es' key = Value.field? es key := by
  let flagged (b' : Bool) : Fields :=
    Value.setField "public" (.bool b') (Value.dropField "visibility" es)
  have hflag : ∀ b', (flagged b').Writes "public" "is_public" (· = .bool b') (b' = true) :=
    fun b' => .short (Value.field?_setField_self _ _ _) rfl
  have hrest : ∀ b' key, key ≠ "public".toList → key ≠ "visibility".toList →
      Value.field? (flagged b') key = Value.field? es key := by
    intro b' key hpublic hvisibility
    rw [Value.field?_setField_of_ne hpublic, Value.field?_dropField_of_ne hvisibility]
  unfold Method.normalizeVisibility
  cases h with
  | visible found =>
      rw [found]
      exact ⟨flagged true, rfl, hflag true, hrest true⟩
  | @hidden word found isHidden =>
      rw [found]
      have hpublic : (word == "public".toList) = false := by
        rcases isHidden with rfl | rfl <;> decide
      have hword : FieldFault.visibilities.contains word = true := by
        rcases isHidden with rfl | rfl <;> decide
      simp only [hword, hpublic, if_true]
      exact ⟨flagged false, rfl, hflag false, hrest false⟩
  | flag absent written =>
      rw [absent]
      exact ⟨es, rfl, written, fun _ _ _ => rfl⟩

/-- **A method is read from every mapping that describes it.** -/
theorem Method.ofValue_of_isWritten {parts : Parts} {v : Value} {es : Fields} {m : Method}
    (hopened : v.opened parts = .dict es) (h : m.IsWritten es) :
    Method.ofValue parts v = .ok m := by
  obtain ⟨es', hvisibility, hpublic, hrest⟩ := exists_normalizeVisibility h.isPublic parts
  -- what is under the other keys goes through both steps unchanged
  have hkept : ∀ key : Text, key ∉ (["public", "visibility", "doc", "doc_comment"] : List Text) →
      Value.field? (normalizeDoc es') key = Value.field? es key := by
    intro key hkey
    simp only [List.mem_cons, List.not_mem_nil, or_false, not_or] at hkey
    obtain ⟨hnotPublic, hnotVisibility, hnotDoc, hnotLong⟩ := hkey
    rw [field?_normalizeDoc_of_ne hnotDoc hnotLong, hrest key hnotPublic hnotVisibility]
  have hname : (normalizeDoc es').Writes "name" "name" (· = .str m.name) False :=
    .short ((hkept _ (by decide)).trans h.name) rfl
  have hstatic := h.isStatic.congr (hkept _ (by decide)) (hkept _ (by decide))
  have habstract := h.isAbstract.congr (hkept _ (by decide)) (hkept _ (by decide))
  have hconstructor := h.isConstructor.congr (hkept _ (by decide)) (hkept _ (by decide))
  have hown := h.isOwn.congr (hkept _ (by decide)) (hkept _ (by decide))
  have hflag : (normalizeDoc es').Writes "public" "is_public" (· = .bool m.isPublic)
      (m.isPublic = true) :=
    hpublic.congr (field?_normalizeDoc_of_ne (by decide) (by decide) _)
      (field?_normalizeDoc_of_ne (by decide) (by decide) _)
  have hdoc : (normalizeDoc es').Writes "doc" "doc_comment" (· = .str m.doc) (m.doc = []) :=
    writes_normalizeDoc (h.doc.congr (hrest _ (by decide) (by decide))
      (hrest _ (by decide) (by decide)))
  have hfields : Method.ofFields (normalizeDoc es') = .ok m := by
    unfold Method.ofFields
    rw [hname.required_eq readText_of_eq, hstatic.optional_eq readBool_of_eq,
      hflag.optional_eq readBool_of_eq, habstract.optional_eq readBool_of_eq,
      hconstructor.optional_eq readBool_of_eq, hown.optional_eq readBool_of_eq,
      hdoc.optional_eq readText_of_eq]
    rfl
  unfold Method.ofValue
  rw [hopened]
  simp only [hvisibility]
  exact hfields

/-- A method that has its defaults is described by its name alone. -/
theorem Method.isWritten_name (name : Text) :
    Method.IsWritten { name := name } [(.str "name".toList, .str name)] where
  name := rfl
  isStatic := .omitted rfl rfl rfl
  isPublic := .flag rfl (.omitted rfl rfl rfl)
  isAbstract := .omitted rfl rfl rfl
  isConstructor := .omitted rfl rfl rfl
  isOwn := .omitted rfl rfl rfl
  doc := .omitted rfl rfl rfl

/-- In a list a method may be only named. -/
theorem Method.ofValue_expandName {parts : Parts} {v : Value} {m : Method}
    (h : ShowsMethod parts m v) : Method.ofValue parts (ClassInfo.expandName v) = .ok m := by
  cases h with
  | named defaults =>
      have hread : Method.ofValue parts (.dict [(.str "name".toList, .str m.name)])
          = .ok { name := m.name } := Method.ofValue_of_isWritten rfl (isWritten_name m.name)
      rw [← defaults] at hread
      exact hread
  | fields opened written =>
      have hname : ClassInfo.expandName v = v := by
        cases v with
        | str t => cases opened
        | _ => rfl
      rw [hname]
      exact Method.ofValue_of_isWritten opened written

/-- **The methods of a list** are read in their order. -/
theorem all_methodsFrom {parts : Parts} {ms : List Method} {vs : List Value}
    (h : List.Forall₂ (ShowsMethod parts) ms vs) (i : Nat) :
    Checked.all (ClassInfo.methodsFrom parts i (vs.map ClassInfo.expandName)) = .ok ms := by
  induction h generalizing i with
  | nil => rfl
  | cons hshown hrest ih =>
      rw [List.map_cons, ClassInfo.methodsFrom, Checked.all, ih (i + 1),
        Method.ofValue_expandName hshown]
      rfl

/-! ## Classes -/

namespace ClassInfo

theorem readMethods_of_showsMethods {parts : Parts} {ms : List Method} (v : Value)
    (h : ShowsMethods parts ms v) : readMethods parts v = .ok ms := by
  unfold readMethods
  cases h with
  | nothing opened => rw [opened]
  | list opened shown =>
      rw [opened]
      exact all_methodsFrom shown 0

/-- **A class is read from every mapping that describes it.** -/
theorem ofValue_of_isWritten {parts : Parts} {v : Value} {es : Fields} {c : ClassInfo}
    (hname : c.name ≠ []) (hopened : v.opened parts = .dict es) (h : c.IsWritten parts es) :
    ofValue parts v = .ok c := by
  have hkept : ∀ key : Text, key ≠ "doc".toList → key ≠ "doc_comment".toList →
      Value.field? (normalizeDoc es) key = Value.field? es key :=
    fun key hdoc hlong => field?_normalizeDoc_of_ne hdoc hlong es
  have hcls := h.name.congr (hkept _ (by decide) (by decide)) (hkept _ (by decide) (by decide))
  have hmodule := h.module?.congr (hkept _ (by decide) (by decide))
    (hkept _ (by decide) (by decide))
  have hmethods := h.methods.congr (hkept _ (by decide) (by decide))
    (hkept _ (by decide) (by decide))
  have hdoc := writes_normalizeDoc h.doc
  have hreadName : ∀ v : Value, v = .str c.name → v.readName = .ok c.name := by
    rintro v rfl
    show (if c.name.isEmpty = true then _ else _) = _
    rw [List.isEmpty_eq_false_iff.mpr hname]
    rfl
  have hreadModule : ∀ v : Value, v = moduleValue c.module? → v.readText? = .ok c.module? := by
    rintro v rfl
    cases c.module? <;> rfl
  unfold ofValue
  rw [hopened]
  show ofFields parts (normalizeDoc es) = .ok c
  unfold ofFields
  rw [hcls.required_eq hreadName, hmodule.optional_eq hreadModule, hdoc.optional_eq readText_of_eq,
    hmethods.optional_eq readMethods_of_showsMethods]
  rfl

end ClassInfo

/-! ## A way to describe each class -/

/-- The entries of a method with all of its fields under their short keys. -/
def Method.entries (m : Method) : Fields := [
  (.str "name".toList, .str m.name),
  (.str "static".toList, .bool m.isStatic),
  (.str "public".toList, .bool m.isPublic),
  (.str "abstract".toList, .bool m.isAbstract),
  (.str "constructor".toList, .bool m.isConstructor),
  (.str "declared".toList, .bool m.isOwn),
  (.str "doc".toList, .str m.doc)]

/-- The entries of a class with all of its fields under their short keys. -/
def ClassInfo.entries (c : ClassInfo) : Fields := [
  (.str "class".toList, .str c.name),
  (.str "module".toList, moduleValue c.module?),
  (.str "doc".toList, .str c.doc),
  (.str "methods".toList, .list (c.methods.map fun m => .dict m.entries))]

theorem Method.isWritten_entries (m : Method) : m.IsWritten m.entries where
  name := rfl
  isStatic := .short rfl rfl
  isPublic := .flag rfl (.short rfl rfl)
  isAbstract := .short rfl rfl
  isConstructor := .short rfl rfl
  isOwn := .short rfl rfl
  doc := .short rfl .text

theorem ClassInfo.isWritten_entries (c : ClassInfo) (parts : Parts) :
    c.IsWritten parts c.entries where
  name := .short rfl rfl
  module? := .short rfl rfl
  doc := .short rfl .text
  methods := by
    refine .short rfl (.list rfl ?_)
    rw [List.forall₂_map_right_iff, List.forall₂_same]
    exact fun m _ => .fields rfl m.isWritten_entries

/-- **Every way of writing a class means the same.** Each class with a name can be described by a
mapping, and whatever mapping describes it, whether its collections are in their places or given by
their numbers, is read as this class with its methods in order. -/
theorem read_written (c : ClassInfo) (hname : c.name ≠ []) :
    (∀ parts, c.IsWritten parts c.entries)
      ∧ ∀ (parts : Parts) (v : Value) (es : Fields), v.opened parts = .dict es →
        c.IsWritten parts es → ClassInfo.ofValue parts v = .ok c := by
  refine ⟨c.isWritten_entries, ?_⟩
  intro parts v es hopened hwritten
  exact ClassInfo.ofValue_of_isWritten hname hopened hwritten

/-- A static method that is not public. -/
def putMethod : Method where
  name := "put"
  isStatic := true
  isPublic := false
  doc := "@assert (1) == 1"

/-- An abstract method. -/
def oldMethod : Method := { name := "old", isAbstract := true }

/-- A class with these two methods and one that has its name alone. -/
def boxInfo : ClassInfo := { name := "Box", methods := [{ name := "get" }, putMethod, oldMethod] }

/-- What describes the static method. A flag without meaning stands beside the visibility. -/
def putEntries : Fields := [
  (.str "visibility".toList, .str "protected".toList),
  (.str "public".toList, .str "maybe".toList),
  (.str "is_public".toList, .list []),
  (.str "is_static".toList, .bool true),
  (.str "doc_comment".toList, .str "@assert (1) == 1".toList),
  (.str "name".toList, .str "put".toList)]

/-- What describes the abstract method. A long key counts for nothing beside the short one. -/
def oldEntries : Fields := [
  (.str "is_abstract".toList, .none),
  (.str "name".toList, .str "old".toList),
  (.str "abstract".toList, .bool true),
  (.str "doc".toList, .none)]

/-- What describes the class, with keys that mean nothing here. -/
def boxEntries : Fields := [
  (.int 3, .none),
  (.str "name".toList, .str "Box".toList),
  (.str "size".toList, .str "big".toList),
  (.str "doc_comment".toList, .none),
  (.str "methods".toList, .list [.str "get".toList, .part 1 [], .dict oldEntries])]

theorem boxEntries_read :
    boxInfo.name ≠ []
      ∧ (Value.part 0 []).opened #[.dict boxEntries, .dict putEntries] = .dict boxEntries
      ∧ boxInfo.IsWritten #[.dict boxEntries, .dict putEntries] boxEntries
      ∧ ClassInfo.ofValue #[.dict boxEntries, .dict putEntries] (.part 0 []) = .ok boxInfo := by
  have hname : boxInfo.name ≠ [] := List.cons_ne_nil _ _
  have hput : putMethod.IsWritten putEntries :=
    ⟨rfl, .long rfl rfl rfl, .hidden rfl (Or.inl rfl), .omitted rfl rfl rfl, .omitted rfl rfl rfl,
      .omitted rfl rfl rfl, .long rfl rfl .text⟩
  have hold : oldMethod.IsWritten oldEntries :=
    ⟨rfl, .omitted rfl rfl rfl, .flag rfl (.omitted rfl rfl rfl), .short rfl rfl,
      .omitted rfl rfl rfl, .omitted rfl rfl rfl, .short rfl (.nothing rfl)⟩
  have hwritten : boxInfo.IsWritten #[.dict boxEntries, .dict putEntries] boxEntries :=
    ⟨.long rfl rfl rfl, .omitted rfl rfl rfl, .long rfl rfl (.nothing rfl),
      .short rfl (.list rfl (.cons (.named rfl) (.cons (.fields rfl hput)
        (.cons (.fields rfl hold) .nil))))⟩
  exact ⟨hname, rfl, hwritten, (read_written boxInfo hname).2 _ _ _ rfl hwritten⟩

end TestSkeleton

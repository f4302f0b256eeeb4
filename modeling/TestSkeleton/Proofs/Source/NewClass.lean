import TestSkeleton.Proofs.Result
import TestSkeleton.Proofs.Source.Layer
import TestSkeleton.Source.NewClass

set_option autoImplicit false

/-! # What a class has of its own

A class keeps the names that its body has bound, and adds some of its own making: members of its
objects, a doc comment, and what the form of its objects asks for. The bases of the class have a say
in the last of these only (`lookup_settle_congr`).
-/

namespace TestSkeleton.ClassTable

open Text

/-! ## Members of objects -/

/-- The names of members are the items that they were read from. -/
theorem eq_map_of_checkSlots {mayHaveDictionary mayBeWeak : Bool} {vs : List Value}
    {slots : List Text} (h : checkSlots mayHaveDictionary mayBeWeak vs = .ok slots) :
    vs = slots.map Value.str := by
  induction vs generalizing mayHaveDictionary mayBeWeak slots with
  | nil =>
      cases h
      rfl
  | cons v vs ih =>
      unfold checkSlots at h
      split at h
      next s =>
        split at h
        next => cases h
        split at h
        next => cases h
        split at h
        next => cases h
        obtain ⟨rest, hrest, h⟩ := bind_eq_ok_iff.mp h
        cases h
        rw [List.map_cons, ih hrest]
      next => cases h

/-- Whichever class is made, the items that name members are the same. -/
theorem slotItems_congr {t₁ t₂ : ClassTable} {b : Binding} {vs₁ vs₂ : List Value}
    (h₁ : t₁.slotItems b = .ok vs₁) (h₂ : t₂.slotItems b = .ok vs₂) : vs₁ = vs₂ := by
  unfold slotItems at h₁ h₂
  cases b with
  | value v =>
      dsimp only at h₁ h₂
      split at h₁ <;> simp_all
  | _ => cases h₁

/-- The members of the objects of a class are read from what its body says of them. -/
theorem exists_slots_of_objectForm {t : ClassTable} {d : ClassDraft} {base : ClassRef}
    {form : ObjectForm} {b : Binding} (hslots : d.names.lookup "__slots__".toList = some b)
    (h : t.objectForm d base = .ok form) :
    ∃ slots : List Text, t.slotItems b = .ok (slots.map Value.str)
      ∧ memberNames d.name d.names slots = .ok form.members := by
  unfold objectForm at h
  simp only [hslots] at h
  obtain ⟨items, hitems, h⟩ := bind_eq_ok_iff.mp h
  split at h
  next => cases h
  next =>
    obtain ⟨slots, hchecked, h⟩ := bind_eq_ok_iff.mp h
    obtain ⟨members, hmembers, h⟩ := bind_eq_ok_iff.mp h
    cases h
    exact ⟨slots, by rw [hitems, eq_map_of_checkSlots hchecked], hmembers⟩

/-- The members of the objects of a class are those that its body asks for, whatever its bases. -/
theorem members_congr {t₁ t₂ : ClassTable} {d₁ d₂ : ClassDraft} (hname : d₁.name = d₂.name)
    (hnames : d₁.names = d₂.names) {base₁ base₂ : ClassRef} {form₁ form₂ : ObjectForm}
    (h₁ : t₁.objectForm d₁ base₁ = .ok form₁) (h₂ : t₂.objectForm d₂ base₂ = .ok form₂) :
    form₁.members = form₂.members := by
  cases hslots : d₁.names.lookup "__slots__".toList with
  | none =>
      simp only [objectForm, hslots] at h₁
      simp only [objectForm, ← hnames, hslots] at h₂
      cases h₁
      cases h₂
      rfl
  | some b =>
      obtain ⟨slots₁, hitems₁, hmembers₁⟩ := exists_slots_of_objectForm hslots h₁
      obtain ⟨slots₂, hitems₂, hmembers₂⟩ :=
        exists_slots_of_objectForm (hnames ▸ hslots) h₂
      have hslots : slots₁ = slots₂ :=
        (List.map_inj_right fun _ _ => Value.str.inj).mp (slotItems_congr hitems₁ hitems₂)
      rw [hslots, hname, hnames] at hmembers₁
      exact Except.ok.inj (hmembers₁.symm.trans hmembers₂)

/-! ## Attributes -/

/-- The names that a class keeps of those that its body has bound. -/
def kept (names : Layer) : Layer :=
  (names.filter fun a => !passingNames.contains a.1).map settleMethod

/-- The attribute of a member of objects, and that of a value that is computed for each object. -/
def memberOf (cls name : Text) : Text × Binding := (name, .descriptor .member cls name)
def getterOf (cls name : Text) : Text × Binding := (name, .descriptor .getter cls name)

/-- The attributes that a class adds to those that it keeps, where they are missing. -/
def added (d : ClassDraft) (form : ObjectForm) : Layer :=
  form.members.map (memberOf d.name)
    ++ (if form.addsDictionary then [getterOf d.name dictionarySlot] else [])
    ++ (if form.addsWeakReference then [getterOf d.name weakReferenceSlot] else [])
    ++ [(Builtin.docName, .nothing)]
    ++ if ((kept d.names).lookup "__eq__".toList).isSome then [("__hash__".toList, .nothing)]
      else []

theorem settle_eq (d : ClassDraft) (form : ObjectForm) :
    settle d form = (added d form).foldl (fun l a => l.bindMissing a.1 a.2) (kept d.names) := rfl

theorem lookup_settle (d : ClassDraft) (form : ObjectForm) (n : Text) :
    (settle d form).lookup n = ((kept d.names).lookup n).or ((added d form).lookup n) := by
  rw [settle_eq, Layer.lookup_foldl_bindMissing]

/-- **The bases of a class have no say in its attributes**, but for those by which objects have
attributes of their own and are referred to without being kept. -/
theorem lookup_settle_congr {d₁ d₂ : ClassDraft} (hname : d₁.name = d₂.name)
    (hnames : d₁.names = d₂.names) {form₁ form₂ : ObjectForm}
    (hmembers : form₁.members = form₂.members) {n : Text} (hdictionary : n ≠ dictionarySlot)
    (hweak : n ≠ weakReferenceSlot) :
    (settle d₁ form₁).lookup n = (settle d₂ form₂).lookup n := by
  have hgetter : ∀ (c : Bool) (m : Text), n ≠ m →
      List.lookup n (if c then [getterOf d₂.name m] else []) = none := by
    intro c m hne
    cases c with
    | false => rfl
    | true => simp [getterOf, List.lookup_cons, beq_false_of_ne hne]
  simp only [lookup_settle, added, List.lookup_append, hname, hnames, hgetter _ _ hdictionary,
    hgetter _ _ hweak, hmembers]

@[simp] theorem settleMethod_fst (a : Text × Binding) : (settleMethod a).1 = a.1 := by
  unfold settleMethod
  split
  · split
    · rfl
    · split <;> rfl
  · rfl

/-- Only functions whose names are not public are made methods of the class itself. -/
theorem settleMethod_of_public {a : Text × Binding} (h : a.1.head? ≠ some '_') :
    settleMethod a = a := by
  have hne : ∀ n : Text, n.head? = some '_' → (a.1 == n) = false := fun n hn =>
    beq_false_of_ne fun heq => h (heq ▸ hn)
  unfold settleMethod
  split
  · rw [hne "__new__".toList rfl, hne subclassHook rfl, hne "__class_getitem__".toList rfl]
    rfl
  · rfl

/-- A name that the body of a class leaves unbound is not kept. -/
theorem lookup_kept_eq_none {names : Layer} {n : Text} (h : names.lookup n = none) :
    (kept names).lookup n = none := by
  rw [List.lookup_eq_none_iff] at h ⊢
  intro p hp
  obtain ⟨a, ha, rfl⟩ := List.mem_map.mp hp
  rw [settleMethod_fst]
  exact h a (List.mem_filter.mp ha).1

/-- A class keeps each name once. -/
theorem isDistinct_kept {names : Layer} (h : names.IsDistinct) : (kept names).IsDistinct := by
  have hnames : (kept names).map Prod.fst
      = (names.filter fun a => !passingNames.contains a.1).map Prod.fst := by
    rw [kept, List.map_map]
    exact List.map_congr_left fun a _ => settleMethod_fst a
  rw [Layer.IsDistinct, hnames]
  exact Layer.isDistinct_of_sublist List.filter_sublist h

/-! ## New classes -/

/-- **A class has each attribute once** if its body has bound each name once. -/
theorem isDistinct_ownLayer {d : ClassDraft} (h : d.names.IsDistinct) (t : ClassTable)
    (form : ObjectForm) (maker : ClassRef) : (t.ownLayer d form maker).IsDistinct := by
  have hsettled : (settle d form).IsDistinct := by
    rw [settle_eq]
    exact Layer.isDistinct_foldl_bindMissing (isDistinct_kept h)
  unfold ownLayer
  split
  · exact Layer.isDistinct_bind hsettled
  · exact hsettled

/-- The form of objects is among what is settled of a class. -/
theorem objectForm_of_formOf {t : ClassTable} {d : ClassDraft} {settled : ClassForm}
    (h : t.formOf d = .ok settled) : t.objectForm d settled.base = .ok settled.form := by
  obtain ⟨base, -, h⟩ := bind_eq_ok_iff.mp h
  obtain ⟨form, hform, h⟩ := bind_eq_ok_iff.mp h
  obtain ⟨qualifiedName, -, h⟩ := bind_eq_ok_iff.mp h
  obtain ⟨-, -, h⟩ := bind_eq_ok_iff.mp h
  cases h
  exact hform

/-- A class whose maker has no say in it comes first in its order. -/
theorem exists_of_orderOf {t : ClassTable} {d : ClassDraft} {self layout : ClassRef}
    {bases order : List ClassRef} (h : t.orderOf d self layout bases = .ok order)
    (hmaker : d.order? = none) : ∃ ancestors, order = self :: ancestors := by
  rw [orderOf, hmaker] at h
  obtain ⟨ancestors, -, horder⟩ := map_eq_ok_iff.mp h
  exact ⟨ancestors, horder.symm⟩

/-- **What making a class comes to.** The table has one class more, with the attributes that its
body asks for. -/
theorem exists_of_declare {t t' : ClassTable} {d : ClassDraft} {c : ClassRef}
    (h : t.declare d = .ok (t', c)) :
    ∃ (base : ClassRef) (form : ObjectForm) (made : DeclaredClass),
      t.objectForm d base = .ok form ∧ c = .declared t.classes.length
        ∧ t'.classes = t.classes ++ [made] ∧ made.name = d.name
        ∧ (d.order? = none → ∃ ancestors, made.linearization = c :: ancestors)
        ∧ made.own = t.ownLayer d form made.maker := by
  obtain ⟨settled, hsettled, h⟩ := bind_eq_ok_iff.mp h
  obtain ⟨order, horder, h⟩ := bind_eq_ok_iff.mp h
  obtain ⟨htable, hself⟩ := Prod.mk.inj (Except.ok.inj h)
  exact ⟨settled.base, settled.form, _, objectForm_of_formOf hsettled, hself.symm,
    (congrArg classes htable).symm, rfl, fun hmaker => hself ▸ exists_of_orderOf horder hmaker, rfl⟩

/-- The class was made from the draft and is in the table as it was made. -/
inductive IsMade (t : ClassTable) (d : ClassDraft) (c : ClassRef) : Prop
  | intro {before after : ClassTable} (made : before.declare d = .ok (after, c))
      (kept : after.classes <+: t.classes)

/-- What the table knows of a class that was made from a draft. -/
theorem IsMade.exists_declared {t : ClassTable} {d : ClassDraft} {c : ClassRef}
    (h : t.IsMade d c) :
    ∃ (n : Nat) (made : DeclaredClass) (before : ClassTable) (base : ClassRef) (form : ObjectForm),
      c = .declared n ∧ t.declared? n = some made ∧ before.classes <+: t.classes
        ∧ before.objectForm d base = .ok form ∧ made.name = d.name
        ∧ (d.order? = none → ∃ ancestors, made.linearization = c :: ancestors)
        ∧ made.own = before.ownLayer d form made.maker := by
  obtain ⟨made, hkept⟩ := h
  obtain ⟨base, form, cls, hform, hself, hclasses, hname, horder, hown⟩ := exists_of_declare made
  refine ⟨_, cls, _, base, form, hself, ?_, ?_, hform, hname, horder, hown⟩
  · obtain ⟨rest, hrest⟩ := hkept
    rw [declared?, ← hrest, hclasses]
    simp
  · rw [hclasses] at hkept
    exact (List.prefix_append _ _).trans hkept

/-- **A class whose maker has no say in it comes first** when its attributes are looked up. -/
theorem IsMade.exists_linearization {t : ClassTable} {d : ClassDraft} {c : ClassRef}
    (h : t.IsMade d c) (hmaker : d.order? = none) :
    ∃ ancestors, t.linearization c = c :: ancestors := by
  obtain ⟨n, made, -, -, -, rfl, hmade, -, -, -, horder, -⟩ := h.exists_declared
  obtain ⟨ancestors, hancestors⟩ := horder hmaker
  exact ⟨ancestors, by rw [linearization, hmade, Option.map_some, Option.getD_some, hancestors]⟩

/-! ## Tables with more classes -/

variable {t t' : ClassTable}

theorem declared?_of_isPrefixOf (hkept : t.classes <+: t'.classes) {n : Nat} {made : DeclaredClass}
    (h : t.declared? n = some made) : t'.declared? n = some made := by
  obtain ⟨rest, hrest⟩ := hkept
  have hn : n < t.classes.length := (List.getElem?_eq_some_iff.mp h).1
  rw [declared?, ← hrest, List.getElem?_append_left hn]
  exact h

/-- A class keeps its ancestors when others come behind it. -/
theorem isSubclass_of_prefix (hkept : t.classes <+: t'.classes) {c ancestor : ClassRef}
    (h : t.isSubclass c ancestor = true) : t'.isSubclass c ancestor = true := by
  cases c with
  | builtin name => exact h
  | declared n =>
      simp only [isSubclass, linearization] at h ⊢
      cases hmade : t.declared? n with
      | none =>
          rw [hmade] at h
          cases h
      | some made =>
          rw [hmade] at h
          rwa [declared?_of_isPrefixOf hkept hmade]

end TestSkeleton.ClassTable

import TestSkeleton.ClassInfo.Description
import TestSkeleton.Proofs.Event
import TestSkeleton.Proofs.Yields
import TestSkeleton.Proofs.Yaml.Document

set_option autoImplicit false

/-! # What reading a description comes to

A description that is read leads to a class with a name, or to a failure that is told of with its
path, and if fields are in error at least one of them is named. Nothing else happens
(`ClassInfo.ofDocument_ends`) but for a scalar without the value that its tag asks for, which the
tokens of the text tell, and for a number that is too long to be shown; so a date that the calendar
does not have breaks the reading off (`ClassInfo.dateless_unforeseen`). What becomes of halves of
characters is not known here.
-/

namespace TestSkeleton

/-! ## Parts of descriptions -/

/-- The part has a value as in `P`, or faults that are told. -/
abbrev Checked.Tells {α : Type} (x : Checked α) (P : α → Prop) : Prop := Yields x P (· ≠ [])

namespace Checked

variable {α β : Type} {f : Checked (α → β)} {x : Checked α} {P : α → Prop} {Q : (α → β) → Prop}
  {R : β → Prop}

theorem tells_fail (fault : FieldFault) : (fail fault : Checked α).Tells P :=
  .error (List.cons_ne_nil _ _)

theorem tells_inside (key : Text) (h : x.Tells P) : (x.inside key).Tells P := by
  cases x with
  | ok a => exact h
  | error es => exact .error fun hnil => h.of_error es rfl (List.map_eq_nil_iff.mp hnil)

theorem tells_apply (hf : f.Tells Q) (hx : x.Tells P) (h : ∀ g a, Q g → P a → R (g a)) :
    (apply f x).Tells R := by
  cases f with
  | ok g =>
      cases x with
      | ok a => exact .ok (h g a (hf.of_ok g rfl) (hx.of_ok a rfl))
      | error es => exact .error (hx.of_error es rfl)
  | error es =>
      cases x with
      | ok a => exact .error (hf.of_error es rfl)
      | error es' => exact .error (List.append_ne_nil_of_left_ne_nil (hf.of_error es rfl) es')

theorem tells_all {xs : List (Checked α)} (h : ∀ x ∈ xs, x.Tells P) :
    (all xs).Tells fun as => ∀ a ∈ as, P a := by
  induction xs with
  | nil => exact .ok fun a ha => nomatch ha
  | cons x xs ih =>
      obtain ⟨hx, hxs⟩ := List.forall_mem_cons.mp h
      have hcons : (apply (.ok List.cons) x).Tells
          fun g => ∀ as, (∀ a ∈ as, P a) → ∀ a ∈ g as, P a :=
        tells_apply (Q := (· = List.cons)) (.ok rfl) hx (by
          rintro g a rfl ha as has
          exact List.forall_mem_cons.mpr ⟨ha, has⟩)
      exact tells_apply hcons (ih hxs) fun g as hg has => hg as has

end Checked

namespace Fields

variable {α : Type} {es : Fields} {key longKey : Text} {default : α} {read : Value → Checked α}
  {P : α → Prop}

theorem tells_optional (hdefault : P default) (h : ∀ v, (read v).Tells P) :
    (optional es key longKey default read).Tells P := by
  unfold optional
  split
  next k v hfound => exact Checked.tells_inside k (h v)
  next => exact .ok hdefault

theorem tells_required (h : ∀ v, (read v).Tells P) : (required es key longKey read).Tells P := by
  unfold required
  split
  next k v hfound => exact Checked.tells_inside k (h v)
  next => exact .error (List.cons_ne_nil _ _)

end Fields

namespace Value

variable (v : Value)

theorem tells_readText : v.readText.Tells fun _ => True := by
  unfold readText
  split
  next => exact .ok trivial
  next => split <;> first | exact .ok trivial | exact Checked.tells_fail _
  next => exact Checked.tells_fail _

theorem tells_readName : v.readName.Tells (· ≠ []) := by
  refine Yields.bind v.tells_readText fun t _ => ?_
  split
  next => exact Checked.tells_fail _
  next h => exact .ok fun hnil => h (List.isEmpty_iff.mpr hnil)

theorem tells_readText? : v.readText?.Tells fun _ => True := by
  unfold readText?
  split
  next => exact .ok trivial
  next => exact Yields.map (tells_readText _)

theorem tells_booleanOfWord (t : Text) : (booleanOfWord t).Tells fun _ => True := by
  unfold booleanOfWord
  dsimp only
  split
  next => exact .ok trivial
  next => split <;> first | exact .ok trivial | exact Checked.tells_fail _

theorem tells_booleanOfInt (n : Int) : (booleanOfInt n).Tells fun _ => True := by
  unfold booleanOfInt
  split
  next => exact .ok trivial
  next =>
    split
    next => exact .ok trivial
    next => split <;> exact Checked.tells_fail _

theorem tells_readBool : v.readBool.Tells fun _ => True := by
  unfold readBool
  split
  next => exact .ok trivial
  next t => exact tells_booleanOfWord t
  next bs =>
    split
    next t _ => exact tells_booleanOfWord t
    next => exact Checked.tells_fail _
  next n => exact tells_booleanOfInt n
  next x =>
    split
    next n _ => split <;> first | exact Checked.tells_fail _ | exact tells_booleanOfInt n
    next => exact Checked.tells_fail _
  next => exact Checked.tells_fail _

end Value

/-! ## Methods and classes -/

theorem Method.tells_ofFields (es : Fields) : (Method.ofFields es).Tells fun _ => True := by
  have hbool (key longKey : Text) (default : Bool) :
      (es.optional key longKey default Value.readBool).Tells fun _ => True :=
    Fields.tells_optional trivial Value.tells_readBool
  have hname : (es.required "name" "name" Value.readText).Tells fun _ => True :=
    Fields.tells_required Value.tells_readText
  have hdoc : (es.optional "doc" "doc_comment" [] Value.readText).Tells fun _ => True :=
    Fields.tells_optional trivial Value.tells_readText
  have hall {α β : Type} {f : Checked (α → β)} {x : Checked α} (hf : f.Tells fun _ => True)
      (hx : x.Tells fun _ => True) : (Checked.apply f x).Tells fun _ => True :=
    Checked.tells_apply hf hx fun _ _ _ _ => trivial
  unfold Method.ofFields
  exact hall (hall (hall (hall (hall (hall (hall (.ok trivial) hname) (hbool _ _ _)) (hbool _ _ _))
    (hbool _ _ _)) (hbool _ _ _)) (hbool _ _ _)) hdoc

theorem Method.tells_normalizeVisibility (parts : Parts) (es : Fields) :
    (Method.normalizeVisibility parts es).Tells fun _ => True := by
  unfold Method.normalizeVisibility
  split
  next => exact .ok trivial
  next => split <;> first | exact .ok trivial | exact Checked.tells_fail _
  next => exact Checked.tells_fail _

theorem Method.tells_ofValue (parts : Parts) (v : Value) :
    (Method.ofValue parts v).Tells fun _ => True := by
  unfold Method.ofValue
  split
  next es _ =>
    exact Yields.bind (Method.tells_normalizeVisibility parts es) fun es _ =>
      Method.tells_ofFields (Fields.normalizeDoc es)
  next => exact Checked.tells_fail _

namespace ClassInfo

theorem tells_methodsFrom (parts : Parts) (i : Nat) (vs : List Value) :
    ∀ x ∈ methodsFrom parts i vs, x.Tells fun _ => True := by
  induction vs generalizing i with
  | nil => exact fun x hx => nomatch hx
  | cons v vs ih =>
      refine List.forall_mem_cons.mpr ⟨?_, ih (i + 1)⟩
      exact Checked.tells_inside _ (Method.tells_ofValue parts v)

theorem tells_readMethods (parts : Parts) (v : Value) :
    (readMethods parts v).Tells fun _ => True := by
  have hall (vs : List Value) : (Checked.all (methodsFrom parts 0 vs)).Tells fun _ => True :=
    (Checked.tells_all (tells_methodsFrom parts 0 vs)).mono (fun _ _ => trivial) fun _ => id
  unfold readMethods
  split
  next => exact .ok trivial
  next vs _ => exact hall _
  next vs _ => exact hall vs
  next vs _ => exact hall vs
  next vs _ => exact hall vs
  next => exact Checked.tells_fail _

theorem tells_ofFields (parts : Parts) (es : Fields) :
    (ofFields parts es).Tells fun c => c.name ≠ [] := by
  have hname : (es.required "class" "name" Value.readName).Tells (· ≠ []) :=
    Fields.tells_required Value.tells_readName
  have hmodule : (es.optional "module" "module" none Value.readText?).Tells fun _ => True :=
    Fields.tells_optional trivial Value.tells_readText?
  have hdoc : (es.optional "doc" "doc_comment" [] Value.readText).Tells fun _ => True :=
    Fields.tells_optional trivial Value.tells_readText
  have hmethods : (es.optional "methods" "methods" [] (readMethods parts)).Tells fun _ => True :=
    Fields.tells_optional trivial (tells_readMethods parts)
  unfold ofFields
  -- the name is known from the first argument on
  refine Checked.tells_apply (Q := fun g => ∀ ms, (g ms).name ≠ []) ?_ hmethods
    fun g ms hg _ => hg ms
  refine Checked.tells_apply (Q := fun g => ∀ doc ms, (g doc ms).name ≠ []) ?_ hdoc
    fun g doc hg _ => hg doc
  refine Checked.tells_apply (Q := fun g => ∀ m doc ms, (g m doc ms).name ≠ []) ?_ hmodule
    fun g m hg _ => hg m
  exact Checked.tells_apply (Q := fun g => ∀ name m doc ms, name ≠ [] → (g name m doc ms).name ≠ [])
    (.ok fun name m doc ms hname => hname) hname fun g name hg hne m doc ms => hg name m doc ms hne

/-- **A class that is read has a name**, and else at least one field is in error. -/
theorem tells_ofValue (parts : Parts) (v : Value) :
    (ofValue parts v).Tells fun c => c.name ≠ [] := by
  unfold ofValue
  split
  next es _ => exact tells_ofFields parts (Fields.normalizeDoc es)
  next => exact Checked.tells_fail _

end ClassInfo

/-! ## Documents -/

/-- A failure that the program foresees, and tells of with the path of the description. -/
def DescriptionError.IsForeseen (path : Option Text) : DescriptionError → Prop
  | .notADocument p => p = path
  | .notAMapping p _ => p = path
  | .invalidFields p _ errors => p = path ∧ errors ≠ []
  | .unreadableFile .. | .unforeseen _ | .unknown => False

namespace ClassInfo

/-- A document leads to a failure that is not foreseen. A scalar that does so is at fault in the
tokens of the text. -/
inductive LeadsTo (text : Text) : UnforeseenFault → Prop where
  | scalar {f : Yaml.Fault} (h : Yaml.Document.ofText? text = .error f) (hf : f ≠ .malformed)
    (hcause : Yaml.DocumentFault (Yaml.Tokens.ofText text) f) : LeadsTo text (.scalar f)
  | longNumber {d : Yaml.Document} {es : Fields} {cls : Value}
    (h : Yaml.Document.ofText? text = .ok (some d)) (hroot : d.value.opened d.parts = .dict es)
    (hclass : Value.field? es "class" = some cls)
    (hlong : (cls.expanded d.parts).hasLongNumber = true) : LeadsTo text .longNumber

theorem ofEntries_ends (parts : Parts) (es : Fields) (path : Option Text) :
    Yields (ofDocument.ofEntries parts es path).result (fun c => c.name ≠ []) fun e =>
      e.IsForeseen path ∨ e = .unforeseen .longNumber ∧ ∃ cls,
        Value.field? es "class" = some cls ∧ (cls.expanded parts).hasLongNumber = true := by
  have htells := tells_ofValue parts (.dict es)
  unfold ofDocument.ofEntries
  split
  next c hc => exact .ok (htells.of_ok c hc)
  next errors herrors =>
    dsimp only
    split
    next hlong =>
      obtain ⟨v, hv, hlong⟩ := (Option.any_eq_true ..).mp hlong
      obtain ⟨cls, hcls, rfl⟩ := Option.map_eq_some_iff.mp hv
      exact .error (.inr ⟨rfl, cls, hcls, hlong⟩)
    next => exact .error (.inl ⟨rfl, htells.of_error errors herrors⟩)

/-- **What reading a description comes to**: a class with a name, or a failure that is told of, unless
a scalar of the document lacks its value or a number in its class is too long to be written. Of a
document with half of a character it is not known here. -/
theorem ofDocument_ends (text : Text) (path : Option Text) :
    Yields (ofDocument text path).result (fun c => c.name ≠ []) fun e =>
      e.IsForeseen path ∨ (∃ f, e = .unforeseen f ∧ LeadsTo text f)
        ∨ e = .unknown ∧ Yaml.DocumentFault (Yaml.Tokens.ofText text) .halfCharacter := by
  have hcause {f : Yaml.Fault} (h : Yaml.Document.ofText? text = .error f) :
      Yaml.DocumentFault (Yaml.Tokens.ofText text) f :=
    (Yaml.Document.ofText?_ends text).of_error f h
  unfold ofDocument
  split
  next h => exact .error (.inl rfl)
  next h => exact .error (.inr (.inr ⟨rfl, hcause h⟩))
  next f hmalformed _ h =>
    exact .error (.inr (.inl ⟨_, rfl, .scalar h (hmalformed ·) (hcause h)⟩))
  next d h =>
    dsimp only
    split
    next =>
      refine (ofEntries_ends _ [] path).mono (fun _ => id) fun e he => he.imp_right ?_
      rintro ⟨-, cls, hcls, -⟩
      cases hcls
    next es hes =>
      refine (ofEntries_ends _ es path).mono (fun _ => id) fun e he => he.imp_right ?_
      rintro ⟨rfl, cls, hcls, hlong⟩
      refine .inl ⟨_, rfl, ?_⟩
      cases d with
      | none => cases hes
      | some d => exact .longNumber h hes hcls hlong
    next => exact .error (.inl rfl)

/-- Whether the failure is not foreseen. -/
def breaksOff : Except DescriptionError ClassInfo → Bool
  | .error (.unforeseen _) => true
  | _ => false

theorem not_yields_of_breaksOff {r : Except DescriptionError ClassInfo} {path : Option Text}
    (h : breaksOff r = true) : ¬ Yields r (fun c => c.name ≠ []) fun e => e.IsForeseen path := by
  unfold breaksOff at h
  split at h
  next f => exact fun hyields => hyields.of_error _ rfl
  next => cases h

/-- A description with a date that the calendar does not have. -/
def dateless : Text := "class: A\nmodule: 2020-13-45\n"

/-- **A failure that is not foreseen is met** with a date that the calendar does not have. -/
theorem dateless_unforeseen :
    ¬ ∀ text path, Yields (ofDocument text path).result (fun c => c.name ≠ []) fun e =>
      e.IsForeseen path := fun h =>
  not_yields_of_breaksOff (by decide +kernel) (h dateless none)

end ClassInfo

end TestSkeleton

import TestSkeleton.Proofs.Event
import TestSkeleton.Proofs.Result
import TestSkeleton.Source.Loading

set_option autoImplicit false

/-! # Describing classes

A class is described if it tells what is asked of it: of each method, also of the inherited ones, its
mark and its doc comment, and then its own doc comment (`describe?_eq_ok_iff`). What is no function
can fail to tell, or have something else than a text as its doc comment. Of the methods that are
described, only those of the class itself are tested (`eligible_describe`).
-/

namespace TestSkeleton

/-- The methods that are checked can all be described. -/
theorem MethodAttribute.result_checkAll_eq_ok_iff {ms : List MethodAttribute} :
    (checkAll ms).result = .ok () ↔ ∀ m ∈ ms, m.IsDescribable := by
  induction ms with
  | nil => exact iff_of_true rfl fun _ hm => nomatch hm
  | cons m ms ih =>
      rw [checkAll, Logged.result_bind_eq_ok_iff, List.forall_mem_cons, ← ih]
      have hm : m.check.result = .ok () ↔ m.IsDescribable := by
        rw [check, Logged.result_after, IsDescribable]
        cases m.fault? <;> cases m.doc <;> simp [checkDoc]
      exact ⟨fun ⟨_, hcheck, hrest⟩ => ⟨hm.mp hcheck, hrest⟩,
        fun ⟨hdescribable, hrest⟩ => ⟨(), hm.mpr hdescribable, hrest⟩⟩

/-- Methods that can be described do not matter behind others. -/
theorem MethodAttribute.result_checkAll_append {ms ms' : List MethodAttribute}
    (h : ∀ m ∈ ms', m.IsDescribable) : (checkAll (ms ++ ms')).result = (checkAll ms).result := by
  induction ms with
  | nil => exact result_checkAll_eq_ok_iff.mpr h
  | cons m ms ih =>
      rw [List.cons_append, checkAll, checkAll]
      cases hm : m.check.result with
      | ok => rw [Logged.result_bind_of_ok hm, Logged.result_bind_of_ok hm, ih]
      | error e => rw [Logged.result_bind_of_error hm, Logged.result_bind_of_error hm]

namespace SourceClass

variable {c : SourceClass}

/-- The methods that the class has itself, and those that it inherits. -/
def ownMethods (c : SourceClass) : List (Text × MethodAttribute) :=
  (c.foundMethods.filter fun m => m.1).map Prod.snd
def inheritedMethods (c : SourceClass) : List (Text × MethodAttribute) :=
  (c.foundMethods.filter fun m => !m.1).map Prod.snd

/-- The class tells its doc comment, which is a text, and its own methods can be described. -/
def TellsOwn (c : SourceClass) : Prop :=
  (∃ doc, c.doc.result = .ok (some doc)) ∧ ∀ m ∈ c.ownMethods, m.2.IsDescribable

/-- The inherited methods can be described, and no other attribute fails when it is asked if it is a
method. -/
def InheritsDescribable (c : SourceClass) : Prop := ∀ m ∈ c.inheritedMethods, m.2.IsDescribable

theorem forall_mem_foundMethods_iff : (∀ m ∈ c.foundMethods, m.2.2.IsDescribable)
    ↔ (∀ m ∈ c.ownMethods, m.2.IsDescribable) ∧ c.InheritsDescribable := by
  simp only [InheritsDescribable, ownMethods, inheritedMethods, List.forall_mem_map,
    List.mem_filter, and_imp]
  constructor
  · exact fun h => ⟨fun m hm _ => h m hm, fun m hm _ => h m hm⟩
  · rintro ⟨hown, hinherited⟩ m hm
    cases hflag : m.1 with
    | true => exact hown m hm hflag
    | false => exact hinherited m hm (by rw [hflag]; rfl)

/-- A class is described in four steps, each of which can fail. -/
theorem result_describe? (c : SourceClass) (module? : Option Text) : (c.describe? module?).result
    = (MethodAttribute.checkAll (c.foundMethods.map fun m => m.2.2)).result >>= fun _ =>
      c.doc.result.mapError LoadError.ofDescribing >>= fun doc =>
      checkDoc doc >>= fun _ =>
      if (module?.isNone && c.importModule?.isNone) = true then .error .moduleNotText
      else .ok (c.describe module?) := by
  unfold describe?
  simp only [Logged.result_bind, Logged.result_mapError]
  congr 1
  funext _
  congr 1
  funext doc
  cases doc with
  | none => rfl
  | some doc => show Logged.result (ite ..) = ite ..; split <;> rfl

/-- **When a class is described**: the class and all methods, also the inherited ones, have to tell
what is asked of them, their doc comments have to be texts, and so has the module of the class, if no
other one is given. -/
theorem describe?_eq_ok_iff {module? : Option Text} {i : ClassInfo} :
    (c.describe? module?).result = .ok i
      ↔ c.TellsOwn ∧ c.InheritsDescribable
        ∧ (module?.isSome = true ∨ c.importModule?.isSome = true) ∧ i = c.describe module? := by
  have hmodule : (if (module?.isNone && c.importModule?.isNone) = true then
        Except.error LoadError.moduleNotText else .ok (c.describe module?)) = .ok i
      ↔ (module?.isSome = true ∨ c.importModule?.isSome = true) ∧ i = c.describe module? := by
    cases module? <;> cases c.importModule? <;> simp [eq_comm]
  have hmethods : (MethodAttribute.checkAll (c.foundMethods.map fun m => m.2.2)).result = .ok ()
      ↔ (∀ m ∈ c.ownMethods, m.2.IsDescribable) ∧ c.InheritsDescribable := by
    rw [MethodAttribute.result_checkAll_eq_ok_iff, List.forall_mem_map, forall_mem_foundMethods_iff]
  simp only [result_describe?, bind_eq_ok_iff, mapError_eq_ok_iff, hmodule, TellsOwn]
  constructor
  · rintro ⟨⟨⟩, hchecked, doc, hdoc, ⟨⟩, hcheck, h⟩
    obtain ⟨hown, hinherited⟩ := hmethods.mp hchecked
    cases doc with
    | none => cases hcheck
    | some doc => exact ⟨⟨⟨doc, hdoc⟩, hown⟩, hinherited, h⟩
  · rintro ⟨⟨⟨doc, hdoc⟩, hown⟩, hinherited, h⟩
    exact ⟨(), hmethods.mpr ⟨hown, hinherited⟩, some doc, hdoc, (), rfl, h⟩

theorem mem_inheritedMethods {m : Text × MethodAttribute} (h : (false, m) ∈ c.foundMethods) :
    m ∈ c.inheritedMethods :=
  List.mem_map.mpr ⟨(false, m), List.mem_filter.mpr ⟨h, rfl⟩, rfl⟩

theorem exists_layer_of_mem_firstMethods {seen : List Text} {ls : List (Bool × MethodLayer)}
    {m : Bool × Text × MethodAttribute} (h : m ∈ firstMethods seen ls) :
    ∃ l, (m.1, l) ∈ ls ∧ m.2 ∈ methodsOf l := by
  induction ls generalizing seen with
  | nil => cases h
  | cons l ls ih =>
      rw [firstMethods, List.mem_append] at h
      rcases h with h | h
      · obtain ⟨m, hm, rfl⟩ := List.mem_map.mp h
        exact ⟨l.2, List.mem_cons_self, (List.mem_filter.mp hm).1⟩
      · obtain ⟨l', hl', hm⟩ := ih h
        exact ⟨l', List.mem_cons_of_mem _ hl', hm⟩

/-- The names of the methods of two layers: those of the first one, and then the other ones of the
second. -/
theorem map_firstMethods_pair (isOwn isOwn' : Bool) (l l' : MethodLayer) :
    (firstMethods [] [(isOwn, l), (isOwn', l')]).map (fun m => (m.1, m.2.1))
      = ((methodsOf l).map Prod.fst).map (fun n => (isOwn, n))
        ++ (((methodsOf l').map Prod.fst).filter fun n =>
          !((methodsOf l).map Prod.fst).contains n).map fun n => (isOwn', n) := by
  have hall : (methodsOf l).filter (fun _ => true) = methodsOf l :=
    List.filter_eq_self.mpr fun _ _ => rfl
  simp [firstMethods, List.filter_map, Function.comp_def, hall]

/-- An inherited method is one of a layer that is not that of the class itself. -/
theorem exists_layer_of_mem_inheritedMethods {m : Text × MethodAttribute}
    (h : m ∈ c.inheritedMethods) : ∃ l, (false, l) ∈ c.layers ∧ m ∈ methodsOf l := by
  obtain ⟨⟨isOwn, m⟩, hm, rfl⟩ := List.mem_map.mp h
  obtain ⟨hfound, hflag⟩ := List.mem_filter.mp hm
  obtain rfl : isOwn = false := by simpa using hflag
  exact exists_layer_of_mem_firstMethods hfound

theorem methods_describe (c : SourceClass) (module? : Option Text) :
    (c.describe module?).methods = c.methods := rfl

/-- No inherited method is tested. -/
theorem eligible_describe (module? : Option Text) :
    (c.describe module?).eligible
      = (c.ownMethods.map fun m => method true m.1 m.2).filter Method.isEligible := by
  show c.methods.filter Method.isEligible = _
  unfold methods ownMethods
  induction c.foundMethods with
  | nil => rfl
  | cons m ms ih =>
      obtain ⟨isOwn, n, m⟩ := m
      cases isOwn with
      | true => simp only [List.map_cons, List.filter_cons, ih, if_true]
      | false => simpa [method, Method.isEligible] using ih

end SourceClass

end TestSkeleton

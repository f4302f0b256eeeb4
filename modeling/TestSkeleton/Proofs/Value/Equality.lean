import Mathlib.Data.List.Forall2
import TestSkeleton.Value.Equality

set_option autoImplicit false

/-! # Equality as an equivalence

Equality looks at the first of two values to see how to compare them, and a set or a mapping equals
another one that is as large and holds all of its members. On values that are made of plain data and
of objects that equal only themselves (`IsMadeOf`) it is an equivalence all the same (`equal_self`,
`equal_comm`, `equal_trans`). This takes that the members of a set and the keys of a mapping differ,
as they do if these are made from values (`isMadeOf_distinct`, `isMadeOf_collectEntries`): then
different members equal different ones, and no other is left over (`IsMatchedIn.exists_of_mem`).
-/

namespace TestSkeleton

/-! ## Matching the members of two lists -/

/-- Each member of the first list relates to one of the second list, which is as long. -/
def IsMatchedIn {α : Type} (R : α → α → Prop) (xs ys : List α) : Prop :=
  xs.length = ys.length ∧ ∀ x ∈ xs, ∃ y ∈ ys, R x y

section Matching

variable {α : Type} {R : α → α → Prop} {xs ys zs : List α}

/-- If no two members of the first list relate to the same one, no member of the second list is left
over. -/
theorem IsMatchedIn.exists_of_mem (h : IsMatchedIn R xs ys)
    (hdistinct : xs.Pairwise fun x x' => ∀ y ∈ ys, R x y → ¬ R x' y) :
    ∀ y ∈ ys, ∃ x ∈ xs, R x y := by
  obtain ⟨hlength, h⟩ := h
  induction xs generalizing ys with
  | nil =>
      obtain rfl : ys = [] := List.eq_nil_of_length_eq_zero hlength.symm
      exact nofun
  | cons x xs ih =>
      obtain ⟨hx, hxs⟩ := List.pairwise_cons.mp hdistinct
      obtain ⟨y, hy, hxy⟩ := h x List.mem_cons_self
      -- without `y` there are as many members left as in the first list without `x`
      obtain ⟨before, after, rfl⟩ := List.append_of_mem hy
      have hrest : xs.length = (before ++ after).length := by
        simp only [List.length_cons, List.length_append] at hlength ⊢
        omega
      have hsub : ∀ z ∈ before ++ after, z ∈ before ++ y :: after := by
        intro z hz
        rw [List.mem_append] at hz ⊢
        exact hz.imp_right (List.mem_cons_of_mem y)
      have hkept : ∀ x' ∈ xs, ∃ z ∈ before ++ after, R x' z := by
        intro x' hx'
        obtain ⟨z, hz, hxz⟩ := h x' (List.mem_cons_of_mem x hx')
        have hne : z ≠ y := fun hzy => hx x' hx' y hy hxy (hzy ▸ hxz)
        exact ⟨z, by simpa [hne] using hz, hxz⟩
      have hall := ih (hxs.imp fun hab z hz => hab z (hsub z hz)) hrest hkept
      intro z hz
      by_cases hzy : z = y
      · exact ⟨x, List.mem_cons_self, hzy ▸ hxy⟩
      · obtain ⟨x', hx', hxz⟩ := hall z (by simpa [hzy] using hz)
        exact ⟨x', List.mem_cons_of_mem x hx', hxz⟩

/-- If no two members of the first list relate to the same one, the second list is as long at
least. -/
theorem length_le_of_matched (h : ∀ x ∈ xs, ∃ y ∈ ys, R x y)
    (hdistinct : xs.Pairwise fun x x' => ∀ y ∈ ys, R x y → ¬ R x' y) : xs.length ≤ ys.length := by
  by_contra hlt
  have hmatched : IsMatchedIn R (xs.take ys.length) ys :=
    ⟨List.length_take_of_le (Nat.le_of_not_le hlt), fun x hx => h x (List.mem_of_mem_take hx)⟩
  -- one more member would relate to what another one relates to
  obtain ⟨x, hx⟩ : ∃ x, x ∈ xs.drop ys.length :=
    List.exists_mem_of_length_pos (by rw [List.length_drop]; omega)
  obtain ⟨y, hy, hxy⟩ := h x (List.mem_of_mem_drop hx)
  rw [← List.take_append_drop ys.length xs, List.pairwise_append] at hdistinct
  obtain ⟨x', hx', hR⟩ := hmatched.exists_of_mem hdistinct.1 y hy
  exact hdistinct.2.2 x' hx' x hx y hy hR hxy

theorem IsMatchedIn.refl (h : ∀ x ∈ xs, R x x) : IsMatchedIn R xs xs :=
  ⟨rfl, fun x hx => ⟨x, hx, h x hx⟩⟩

theorem IsMatchedIn.symm (h : IsMatchedIn R xs ys)
    (hdistinct : xs.Pairwise fun x x' => ∀ y ∈ ys, R x y → ¬ R x' y)
    (hsymm : ∀ x ∈ xs, ∀ y ∈ ys, R x y → R y x) : IsMatchedIn R ys xs := by
  refine ⟨h.1.symm, fun y hy => ?_⟩
  obtain ⟨x, hx, hxy⟩ := h.exists_of_mem hdistinct y hy
  exact ⟨x, hx, hsymm x hx y hy hxy⟩

theorem IsMatchedIn.trans (hxy : IsMatchedIn R xs ys) (hyz : IsMatchedIn R ys zs)
    (htrans : ∀ x ∈ xs, ∀ y ∈ ys, ∀ z ∈ zs, R x y → R y z → R x z) : IsMatchedIn R xs zs := by
  refine ⟨hxy.1.trans hyz.1, fun x hx => ?_⟩
  obtain ⟨y, hy, hR⟩ := hxy.2 x hx
  obtain ⟨z, hz, hR'⟩ := hyz.2 y hy
  exact ⟨z, hz, htrans x hx y hy z hz hR hR'⟩

end Matching

namespace Value

/-! ## Values made of plain data and objects -/

/-- Members of a set, or keys of a mapping: no two are equal. -/
def AreDistinct (vs : List Value) : Prop := vs.Pairwise fun v w => v.equal w = false

/-- A value that is made of plain data without fractions, and of objects of a kind which are not
plain data too. -/
inductive IsMadeOf (objects : Value → Prop) : Value → Prop where
  | none : IsMadeOf objects none
  | bool (b : Bool) : IsMadeOf objects (bool b)
  | int (n : Int) : IsMadeOf objects (int n)
  | str (t : Text) : IsMadeOf objects (str t)
  | bytes (bs : List UInt8) : IsMadeOf objects (bytes bs)
  | list {vs : List Value} (h : ∀ v ∈ vs, IsMadeOf objects v) : IsMadeOf objects (list vs)
  | tuple {vs : List Value} (h : ∀ v ∈ vs, IsMadeOf objects v) : IsMadeOf objects (tuple vs)
  | set {vs : List Value} (h : ∀ v ∈ vs, IsMadeOf objects v) (hdistinct : AreDistinct vs) :
    IsMadeOf objects (set vs)
  | frozenset {vs : List Value} (h : ∀ v ∈ vs, IsMadeOf objects v) (hdistinct : AreDistinct vs) :
    IsMadeOf objects (frozenset vs)
  | dict {es : List (Value × Value)} (hkeys : ∀ e ∈ es, IsMadeOf objects e.1)
    (hvalues : ∀ e ∈ es, IsMadeOf objects e.2) (hdistinct : AreDistinct (es.map Prod.fst)) :
    IsMadeOf objects (dict es)
  | object {name className : Text} {c : ClassRef}
    (h : objects (object name c className Option.none)) :
    IsMadeOf objects (object name c className Option.none)

/-! ## Members and entries -/

/-- Two entries are equal in key and value. -/
def equalEntry (e f : Value × Value) : Bool := e.1.equal f.1 && e.2.equal f.2

/-- The members of two sets are equal. -/
def SameMembers : List Value → List Value → Prop := IsMatchedIn fun v w => v.equal w = true

/-- The entries of two mappings are equal. -/
def SameEntries : List (Value × Value) → List (Value × Value) → Prop :=
  IsMatchedIn fun e f => equalEntry e f = true

theorem allIn_iff {vs ws : List Value} :
    allIn vs ws = true ↔ ∀ v ∈ vs, ∃ w ∈ ws, v.equal w = true := by
  induction vs with
  | nil => simp [allIn]
  | cons v vs ih => simp [allIn, ih]

theorem entriesIn_iff {es fs : List (Value × Value)} :
    entriesIn es fs = true ↔ ∀ e ∈ es, ∃ f ∈ fs, equalEntry e f = true := by
  induction es with
  | nil => simp [entriesIn]
  | cons e es ih =>
      obtain ⟨k, v⟩ := e
      simp [entriesIn, equalEntry, ih]

theorem sameMembers_iff {vs ws : List Value} :
    SameMembers vs ws ↔ (vs.length == ws.length && allIn vs ws) = true := by
  simp [SameMembers, IsMatchedIn, allIn_iff]

theorem sameEntries_iff {es fs : List (Value × Value)} :
    SameEntries es fs ↔ (es.length == fs.length && entriesIn es fs) = true := by
  simp [SameEntries, IsMatchedIn, entriesIn_iff]

/-! ## Views of values -/

section Views

variable {objects : Value → Prop} {v w : Value} {n : Int} {vs ws : List Value}

/-- A bare object is equal to what is the object of its name. -/
theorem equal_object {name className : Text} {c : ClassRef} :
    (Value.object name c className .none).equal w = w.isObject name := by
  rw [equal, Option.any_none, Bool.or_false]

theorem parts?_of_int? (h : v.int? = some n) : v.parts? = some (.whole n, .whole 0) := by
  unfold int? at h
  split at h <;> cases h <;> rfl

theorem equalNumbers_of_int? (hv : v.int? = some n) (hw : w.int? = some n) :
    v.equalNumbers w = true := by
  simp [equalNumbers, parts?_of_int? hv, parts?_of_int? hw, RealNumber.equal, RealNumber.compare?]

theorem equal_of_int? (hv : v.int? = some n) (hw : w.int? = some n) : v.equal w = true := by
  have hnumbers := equalNumbers_of_int? hv hw
  unfold int? at hv
  split at hv
  next => rwa [equal.eq_def]
  next => rwa [equal.eq_def]
  next =>
    obtain rfl : 0 = n := Option.some.inj hv
    simp [equal, equalsEmpty, equalNumbers_of_int? (v := .int 0) rfl hw]
  next => cases hv

theorem equal_of_members? (hv : v.members? = some vs) (hw : w.members? = some ws)
    (h : SameMembers vs ws) : v.equal w = true := by
  have hmembers := sameMembers_iff.mp h
  unfold members? at hv
  split at hv
  next => cases hv; simpa [equal, hw] using hmembers
  next => cases hv; simpa [equal, hw] using hmembers
  next =>
    cases hv
    obtain rfl : ws = [] := List.eq_nil_of_length_eq_zero h.1.symm
    simp [equal, equalsEmpty, hw]
  next =>
    cases hv
    obtain rfl : ws = [] := List.eq_nil_of_length_eq_zero h.1.symm
    simp [equal, equalsEmpty, hw]
  next => cases hv

theorem equal_of_sameEntries {es fs : List (Value × Value)} (h : SameEntries es fs) :
    (Value.dict es).equal (.dict fs) = true := by
  simpa [equal, entries?] using sameEntries_iff.mp h

end Views

section Equal

variable {objects : Value → Prop} {v w u : Value}

/-! ## What a value equals -/

section Shapes

variable (hw : w.IsMadeOf objects)

include hw

namespace IsMadeOf

theorem eq_str {t : Text} (h : w.text? = some t) : w = .str t := by
  cases hw with
  | str s => cases h; rfl
  | _ => cases h

theorem eq_bytes {bs : List UInt8} (h : w.bytes? = some bs) : w = .bytes bs := by
  cases hw with
  | bytes bs' => cases h; rfl
  | _ => cases h

theorem eq_list {ws : List Value} (h : w.listItems? = some ws) : w = .list ws := by
  cases hw with
  | list hws => cases h; rfl
  | _ => cases h

theorem eq_tuple {ws : List Value} (h : w.tupleItems? = some ws) : w = .tuple ws := by
  cases hw with
  | tuple hws => cases h; rfl
  | _ => cases h

theorem eq_dict {fs : List (Value × Value)} (h : w.entries? = some fs) : w = .dict fs := by
  cases hw with
  | dict hkeys hvalues hdistinct => cases h; rfl
  | _ => cases h

theorem eq_none (h : (Value.none).equal w = true) : w = .none := by
  cases hw with
  | none => rfl
  | _ => simp [equal, equalNumbers, parts?] at h

theorem eq_object {name className : Text} {c : ClassRef}
    (h : (Value.object name c className .none).equal w = true) :
    ∃ c' className', w = .object name c' className' .none := by
  rw [equal_object] at h
  cases hw with
  | object hw => exact ⟨_, _, by rw [beq_iff_eq.mp h]⟩
  | _ => cases h

theorem int?_of_equalNumbers {n : Int} (hv : v.int? = some n) (h : v.equalNumbers w = true) :
    w.int? = some n := by
  rw [equalNumbers, parts?_of_int? hv] at h
  cases hw with
  | bool b =>
      have hn : n = b.toNat := by simpa [parts?, RealNumber.equal, RealNumber.compare?] using h
      exact congrArg some hn.symm
  | int m =>
      have hn : n = m := by simpa [parts?, RealNumber.equal, RealNumber.compare?] using h
      exact congrArg some hn.symm
  | _ => cases h

/-- What equals a number is one. -/
theorem int?_of_equal {n : Int} (hmade : v.IsMadeOf objects) (hv : v.int? = some n)
    (h : v.equal w = true) : w.int? = some n := by
  cases hmade with
  | bool b => exact hw.int?_of_equalNumbers hv (by rwa [equal.eq_def] at h)
  | int m => exact hw.int?_of_equalNumbers hv (by rwa [equal.eq_def] at h)
  | _ => cases hv

theorem exists_list {vs : List Value} (h : (Value.list vs).equal w = true) :
    ∃ ws, w = .list ws ∧ equalAll vs ws = true := by
  simp only [equal] at h
  split at h
  next ws hws => exact ⟨ws, hw.eq_list hws, h⟩
  next => cases h

theorem exists_tuple {vs : List Value} (h : (Value.tuple vs).equal w = true) :
    ∃ ws, w = .tuple ws ∧ equalAll vs ws = true := by
  simp only [equal] at h
  split at h
  next ws hws => exact ⟨ws, hw.eq_tuple hws, h⟩
  next => cases h

theorem exists_dict {es : List (Value × Value)} (h : (Value.dict es).equal w = true) :
    ∃ fs, w = .dict fs ∧ SameEntries es fs := by
  simp only [equal] at h
  split at h
  next fs hfs => exact ⟨fs, hw.eq_dict hfs, sameEntries_iff.mpr h⟩
  next => cases h

end IsMadeOf

end Shapes

/-- What equals a set is one, of either kind. -/
theorem IsMadeOf.exists_members {vs : List Value} (hmade : v.IsMadeOf objects)
    (hv : v.members? = some vs) (h : v.equal w = true) :
    ∃ ws, w.members? = some ws ∧ SameMembers vs ws := by
  cases hmade with
  | set hvs hdistinct =>
      cases hv
      simp only [equal] at h
      split at h
      next ws hws => exact ⟨ws, hws, sameMembers_iff.mpr h⟩
      next => cases h
  | frozenset hvs hdistinct =>
      cases hv
      simp only [equal] at h
      split at h
      next ws hws => exact ⟨ws, hws, sameMembers_iff.mpr h⟩
      next => cases h
  | _ => cases hv

/-- The members of a set differ, and are made of what the set is made of. -/
theorem IsMadeOf.members {vs : List Value} (hmade : v.IsMadeOf objects)
    (hv : v.members? = some vs) : (∀ w ∈ vs, w.IsMadeOf objects) ∧ AreDistinct vs := by
  cases hmade with
  | set hvs hdistinct => cases hv; exact ⟨hvs, hdistinct⟩
  | frozenset hvs hdistinct => cases hv; exact ⟨hvs, hdistinct⟩
  | _ => cases hv

/-! ## An equivalence -/

/-- Equality treats a value as an equivalence does. -/
structure IsFair (objects : Value → Prop) (v : Value) : Prop where
  refl : v.equal v = true
  symm : ∀ w, w.IsMadeOf objects → v.equal w = true → w.equal v = true
  trans : ∀ w u, w.IsMadeOf objects → u.IsMadeOf objects →
    v.equal w = true → w.equal u = true → v.equal u = true

section Rows

variable {vs ws us : List Value}

/-- Rows are equal if they are so place by place. -/
theorem equalAll_iff :
    equalAll vs ws = true ↔ List.Forall₂ (fun v w => v.equal w = true) vs ws := by
  induction vs generalizing ws with
  | nil => cases ws <;> simp [equalAll]
  | cons v vs ih => cases ws <;> simp [equalAll, ih]

theorem length_eq_of_equalAll (h : equalAll vs ws = true) : vs.length = ws.length :=
  (equalAll_iff.mp h).length_eq

theorem equalAll_self (h : ∀ v ∈ vs, v.IsFair objects) : equalAll vs vs = true :=
  equalAll_iff.mpr (List.forall₂_same.mpr fun v hv => (h v hv).refl)

theorem equalAll_symm (h : ∀ v ∈ vs, v.IsFair objects) (hws : ∀ w ∈ ws, w.IsMadeOf objects)
    (hequal : equalAll vs ws = true) : equalAll ws vs = true := by
  rw [equalAll_iff] at hequal ⊢
  induction hequal with
  | nil => exact .nil
  | cons hvw _ ih =>
      obtain ⟨hv, hvs⟩ := List.forall_mem_cons.mp h
      obtain ⟨hw, hws⟩ := List.forall_mem_cons.mp hws
      exact .cons (hv.symm _ hw hvw) (ih hvs hws)

theorem equalAll_trans (h : ∀ v ∈ vs, v.IsFair objects) (hws : ∀ w ∈ ws, w.IsMadeOf objects)
    (hus : ∀ u ∈ us, u.IsMadeOf objects) (hvw : equalAll vs ws = true)
    (hwu : equalAll ws us = true) : equalAll vs us = true := by
  rw [equalAll_iff] at hvw hwu ⊢
  induction hvw generalizing us with
  | nil => exact hwu
  | cons hvw _ ih =>
      cases hwu with
      | cons hwu hrest =>
          obtain ⟨hv, hvs⟩ := List.forall_mem_cons.mp h
          obtain ⟨hw, hws⟩ := List.forall_mem_cons.mp hws
          obtain ⟨hu, hus⟩ := List.forall_mem_cons.mp hus
          exact .cons (hv.trans _ _ hw hu hvw hwu) (ih hvs hws hus hrest)

end Rows

/-- Two members of a set do not equal the same value. -/
theorem IsFair.not_common {v' : Value} (hv : v.IsFair objects) (hv' : v'.IsFair objects)
    (hmade : v'.IsMadeOf objects) (hne : v.equal v' = false) (hw : w.IsMadeOf objects)
    (h : v.equal w = true) : ¬ v'.equal w = true := by
  intro h'
  have hequal := hv.trans w v' hw hmade h (hv'.symm w hw h')
  rw [hne] at hequal
  cases hequal

namespace IsFair

theorem of_eq (hrefl : v.equal v = true)
    (h : ∀ w, w.IsMadeOf objects → v.equal w = true → w = v) : v.IsFair objects where
  refl := hrefl
  symm := by
    intro w hw hvw
    obtain rfl := h w hw hvw
    exact hrefl
  trans := by
    intro w u hw hu hvw hwu
    obtain rfl := h w hw hvw
    exact hwu

theorem number {n : Int} (hmade : v.IsMadeOf objects) (hv : v.int? = some n) :
    v.IsFair objects where
  refl := equal_of_int? hv hv
  symm := by
    intro w hw hvw
    have hwn : w.int? = some n := hw.int?_of_equal hmade hv hvw
    exact equal_of_int? hwn hv
  trans := by
    intro w u hw hu hvw hwu
    have hwn : w.int? = some n := hw.int?_of_equal hmade hv hvw
    have hun : u.int? = some n := hu.int?_of_equal hw hwn hwu
    exact equal_of_int? hv hun

theorem object {name className : Text} {c : ClassRef} :
    (Value.object name c className .none).IsFair objects where
  refl := by simp [equal, isObject]
  symm := by
    intro w hw h
    obtain ⟨c', className', rfl⟩ := hw.eq_object h
    simp [equal, isObject]
  trans := by
    intro w u hw hu hvw hwu
    obtain ⟨c', className', rfl⟩ := hw.eq_object hvw
    obtain ⟨c'', className'', rfl⟩ := hu.eq_object hwu
    simp [equal, isObject]

section Collections

variable {vs : List Value} {es : List (Value × Value)}

theorem list (h : ∀ v ∈ vs, v.IsFair objects) : (Value.list vs).IsFair objects where
  refl := by simpa [equal, listItems?] using equalAll_self h
  symm := by
    intro w hw hvw
    obtain ⟨ws, rfl, hall⟩ := hw.exists_list hvw
    cases hw with
    | list hws => simpa [equal, listItems?] using equalAll_symm h hws hall
  trans := by
    intro w u hw hu hvw hwu
    obtain ⟨ws, rfl, hall⟩ := hw.exists_list hvw
    obtain ⟨us, rfl, hall'⟩ := hu.exists_list hwu
    cases hw with
    | list hws =>
      cases hu with
      | list hus => simpa [equal, listItems?] using equalAll_trans h hws hus hall hall'

theorem tuple (h : ∀ v ∈ vs, v.IsFair objects) : (Value.tuple vs).IsFair objects where
  refl := by simpa [equal, tupleItems?] using equalAll_self h
  symm := by
    intro w hw hvw
    obtain ⟨ws, rfl, hall⟩ := hw.exists_tuple hvw
    cases hw with
    | tuple hws => simpa [equal, tupleItems?] using equalAll_symm h hws hall
  trans := by
    intro w u hw hu hvw hwu
    obtain ⟨ws, rfl, hall⟩ := hw.exists_tuple hvw
    obtain ⟨us, rfl, hall'⟩ := hu.exists_tuple hwu
    cases hw with
    | tuple hws =>
      cases hu with
      | tuple hus => simpa [equal, tupleItems?] using equalAll_trans h hws hus hall hall'

theorem ofMembers (hmade : v.IsMadeOf objects) (hv : v.members? = some vs)
    (h : ∀ v ∈ vs, v.IsFair objects) : v.IsFair objects where
  refl := equal_of_members? hv hv (.refl fun v hv => (h v hv).refl)
  symm := by
    intro w hw hvw
    obtain ⟨ws, hws, hmatched⟩ := hmade.exists_members hv hvw
    obtain ⟨hvs, hdistinct⟩ := hmade.members hv
    have hmembers := (hw.members hws).1
    refine equal_of_members? hws hv (hmatched.symm ?_ ?_)
    · exact hdistinct.imp_of_mem fun hx hx' hne y hy =>
        (h _ hx).not_common (h _ hx') (hvs _ hx') hne (hmembers y hy)
    · exact fun x hx y hy => (h x hx).symm y (hmembers y hy)
  trans := by
    intro w u hw hu hvw hwu
    obtain ⟨ws, hws, hmatched⟩ := hmade.exists_members hv hvw
    obtain ⟨us, hus, hmatched'⟩ := hw.exists_members hws hwu
    refine equal_of_members? hv hus (hmatched.trans hmatched' fun x hx y hy z hz => ?_)
    exact (h x hx).trans y z ((hw.members hws).1 y hy) ((hu.members hus).1 z hz)

theorem dict (hmade : (Value.dict es).IsMadeOf objects) (hkeys : ∀ e ∈ es, e.1.IsFair objects)
    (hvalues : ∀ e ∈ es, e.2.IsFair objects) : (Value.dict es).IsFair objects where
  refl := equal_of_sameEntries (.refl fun e he => by
    rw [equalEntry, (hkeys e he).refl, (hvalues e he).refl, Bool.and_self])
  symm := by
    intro w hw hvw
    obtain ⟨fs, rfl, hmatched⟩ := hw.exists_dict hvw
    cases hw with
    | dict hfkeys hfvalues _ =>
    cases hmade with
    | dict hekeys _ hdistinct =>
    refine equal_of_sameEntries (hmatched.symm ?_ ?_)
    · refine (List.pairwise_map.mp hdistinct).imp_of_mem fun he he' hne f hf h h' => ?_
      rw [equalEntry, Bool.and_eq_true] at h h'
      exact (hkeys _ he).not_common (hkeys _ he') (hekeys _ he') hne (hfkeys f hf) h.1 h'.1
    · intro e he f hf h
      rw [equalEntry, Bool.and_eq_true] at h ⊢
      exact ⟨(hkeys e he).symm _ (hfkeys f hf) h.1, (hvalues e he).symm _ (hfvalues f hf) h.2⟩
  trans := by
    intro w u hw hu hvw hwu
    obtain ⟨fs, rfl, hmatched⟩ := hw.exists_dict hvw
    obtain ⟨gs, rfl, hmatched'⟩ := hu.exists_dict hwu
    cases hw with
    | dict hfkeys hfvalues _ =>
    cases hu with
    | dict hgkeys hgvalues _ =>
    refine equal_of_sameEntries (hmatched.trans hmatched' fun e he f hf g hg h h' => ?_)
    rw [equalEntry, Bool.and_eq_true] at h h' ⊢
    exact ⟨(hkeys e he).trans _ _ (hfkeys f hf) (hgkeys g hg) h.1 h'.1,
      (hvalues e he).trans _ _ (hfvalues f hf) (hgvalues g hg) h.2 h'.2⟩

end Collections

end IsFair

theorem IsMadeOf.isFair (hv : v.IsMadeOf objects) : v.IsFair objects := by
  induction hv with
  | none => exact .of_eq (by simp [equal]) fun w hw h => hw.eq_none h
  | bool b => exact .number (.bool b) rfl
  | int n => exact .number (.int n) rfl
  | str t =>
      exact .of_eq (by simp [equal, text?]) fun w hw h => hw.eq_str (by simpa [equal] using h)
  | bytes bs =>
      exact .of_eq (by simp [equal, bytes?]) fun w hw h => hw.eq_bytes (by simpa [equal] using h)
  | list h ih => exact .list ih
  | tuple h ih => exact .tuple ih
  | set h hdistinct ih => exact .ofMembers (.set h hdistinct) rfl ih
  | frozenset h hdistinct ih => exact .ofMembers (.frozenset h hdistinct) rfl ih
  | dict hkeys hvalues hdistinct ihkeys ihvalues =>
      exact .dict (.dict hkeys hvalues hdistinct) ihkeys ihvalues
  | object h => exact .object

/-- **Equality is an equivalence**. -/
theorem equal_self (hv : v.IsMadeOf objects) : v.equal v = true := hv.isFair.refl

theorem equal_comm (hv : v.IsMadeOf objects) (hw : w.IsMadeOf objects) :
    v.equal w = w.equal v := by
  rw [Bool.eq_iff_iff]
  exact ⟨hv.isFair.symm w hw, hw.isFair.symm v hv⟩

theorem equal_trans (hv : v.IsMadeOf objects) (hw : w.IsMadeOf objects) (hu : u.IsMadeOf objects)
    (hvw : v.equal w = true) (hwu : w.equal u = true) : v.equal u = true :=
  hv.isFair.trans w u hw hu hvw hwu

/-- Of entries whose keys differ, the first one with an equal key is the only one. -/
theorem any_entry {k : Value} {fs : List (Value × Value)} (hk : k.IsMadeOf objects)
    (hkeys : ∀ f ∈ fs, f.1.IsMadeOf objects) (hdistinct : AreDistinct (fs.map Prod.fst)) :
    (fs.any fun f => k.equal f.1 && v.equal f.2)
      = (fs.find? fun f => k.equal f.1).any fun f => v.equal f.2 := by
  induction fs with
  | nil => rfl
  | cons f fs ih =>
      obtain ⟨hf, hfs⟩ := List.forall_mem_cons.mp hkeys
      obtain ⟨hne, hrest⟩ := List.pairwise_cons.mp hdistinct
      rw [List.any_cons, List.find?_cons]
      cases hkf : k.equal f.1 with
      | false =>
          rw [Bool.false_and, Bool.false_or]
          exact ih hfs hrest
      | true =>
          have hfk : f.1.equal k = true := equal_comm hk hf ▸ hkf
          have hothers : ∀ g ∈ fs, k.equal g.1 = false := by
            intro g hg
            rw [Bool.eq_false_iff]
            intro hkg
            have hfg : f.1.equal g.1 = true := equal_trans hf hk (hfs g hg) hfk hkg
            rw [hne g.1 (List.mem_map_of_mem hg)] at hfg
            cases hfg
          have hnone : (fs.any fun g => k.equal g.1 && v.equal g.2) = false := by
            rw [List.any_eq_false]
            intro g hg
            rw [hothers g hg, Bool.false_and]
            exact Bool.false_ne_true
          rw [hnone, Bool.true_and, Bool.or_false]
          rfl

/-! ## Sets and mappings made from values -/

/-- The members that a set has with a new value. -/
def keep (kept : List Value) (v : Value) : List Value :=
  if kept.any v.equal then kept else kept ++ [v]

theorem distinct_eq_foldl (vs : List Value) : distinct vs = vs.foldl keep [] := rfl

/-- A set with a new value is a set. -/
theorem isMadeOf_keep {kept : List Value} (h : (Value.set kept).IsMadeOf objects)
    (hv : v.IsMadeOf objects) : (Value.set (keep kept v)).IsMadeOf objects := by
  unfold keep
  split
  next => exact h
  next hnew =>
    cases h with
    | set hkept hdistinct =>
    refine .set (fun w hw => ?_)
      (List.pairwise_append.mpr ⟨hdistinct, List.pairwise_singleton _ v, ?_⟩)
    · rcases List.mem_append.mp hw with hw | hw
      · exact hkept w hw
      · exact List.mem_singleton.mp hw ▸ hv
    · intro w hw v' hv'
      obtain rfl := List.mem_singleton.mp hv'
      rw [equal_comm (hkept w hw) hv]
      simpa using List.any_eq_false.mp (Bool.not_eq_true _ ▸ hnew) w hw

/-- The set made from values is one. -/
theorem isMadeOf_distinct {vs : List Value} (h : ∀ v ∈ vs, v.IsMadeOf objects) :
    (Value.set (distinct vs)).IsMadeOf objects := by
  rw [distinct_eq_foldl]
  -- the members kept so far are a set
  exact List.foldlRecOn vs keep (motive := fun kept => (Value.set kept).IsMadeOf objects)
    (.set nofun .nil) fun _ hkept v hv => isMadeOf_keep hkept (h v hv)

/-- The keys of a mapping are the members of a set. -/
theorem isMadeOf_dict_iff {es : List (Value × Value)} :
    (Value.dict es).IsMadeOf objects
      ↔ (Value.set (es.map Prod.fst)).IsMadeOf objects ∧ ∀ e ∈ es, e.2.IsMadeOf objects := by
  constructor
  · rintro ⟨⟩
    next hkeys hvalues hdistinct => exact ⟨.set (List.forall_mem_map.mpr hkeys) hdistinct, hvalues⟩
  · rintro ⟨⟨⟩, hvalues⟩
    next hkeys hdistinct => exact .dict (List.forall_mem_map.mp hkeys) hvalues hdistinct

theorem keys_setEntry (key value : Value) (es : List (Value × Value)) :
    (setEntry key value es).map Prod.fst = keep (es.map Prod.fst) key := by
  induction es with
  | nil => simp [setEntry, keep]
  | cons e es ih =>
      by_cases hkey : key.equal e.1 = true
      · simp [setEntry, keep, hkey]
      · rw [setEntry, if_neg hkey, List.map_cons, ih]
        simp only [keep, List.map_cons, List.any_cons, hkey, Bool.false_or]
        split <;> rfl

theorem mem_setEntry {key value : Value} {e : Value × Value} {es : List (Value × Value)}
    (h : e ∈ setEntry key value es) : e.2 = value ∨ ∃ f ∈ es, e.2 = f.2 := by
  induction es with
  | nil => exact .inl (List.mem_singleton.mp h ▸ rfl)
  | cons f es ih =>
      rw [setEntry] at h
      split at h <;> rcases List.mem_cons.mp h with rfl | h
      · exact .inl rfl
      · exact .inr ⟨e, List.mem_cons_of_mem f h, rfl⟩
      · exact .inr ⟨e, List.mem_cons_self, rfl⟩
      · exact (ih h).imp_right fun ⟨g, hg, heq⟩ => ⟨g, List.mem_cons_of_mem f hg, heq⟩

/-- A mapping with a new entry is a mapping. -/
theorem isMadeOf_setEntry {es : List (Value × Value)} (h : (Value.dict es).IsMadeOf objects)
    (hv : v.IsMadeOf objects) (hw : w.IsMadeOf objects) :
    (Value.dict (setEntry v w es)).IsMadeOf objects := by
  obtain ⟨hkeys, hvalues⟩ := isMadeOf_dict_iff.mp h
  refine isMadeOf_dict_iff.mpr ⟨keys_setEntry v w es ▸ isMadeOf_keep hkeys hv, fun e he => ?_⟩
  obtain heq | ⟨f, hf, heq⟩ := mem_setEntry he
  · exact heq ▸ hw
  · exact heq ▸ hvalues f hf

/-- The mapping made from entries is one. -/
theorem isMadeOf_collectEntries {es : List (Value × Value)}
    (hkeys : ∀ e ∈ es, e.1.IsMadeOf objects) (hvalues : ∀ e ∈ es, e.2.IsMadeOf objects) :
    (Value.dict (collectEntries es)).IsMadeOf objects :=
  List.foldlRecOn es _ (motive := fun kept => (Value.dict kept).IsMadeOf objects)
    (.dict nofun nofun .nil) fun _ hkept e he =>
      isMadeOf_setEntry hkept (hkeys e he) (hvalues e he)

end Equal

end Value

end TestSkeleton

import TestSkeleton.ClassInfo.Reading

set_option autoImplicit false

/-! # Fields under their keys

What is found under a key of a mapping after another one was set or dropped, and after null doc
comments were made empty. A field is written in one of three ways (`Fields.Writes`), and each of
them is read as the same value (`Writes.optional_eq`, `Writes.required_eq`).
-/

namespace TestSkeleton

/-! ## What is found under a key -/

namespace Value

variable {key key' : Text}

theorem field?_cons_self (key : Text) (v : Value) (es : Fields) :
    field? ((.str key, v) :: es) key = some v := by
  simp [field?]

theorem field?_cons_of_ne {k : Value} (h : k ≠ .str key) (v : Value) (es : Fields) :
    field? ((k, v) :: es) key = field? es key := by
  cases k with
  | str t =>
      have ht : t ≠ key := by simpa using h
      simp [field?, ht]
  | _ => rfl

/-- In front of entries where the same is found, an entry makes no difference. -/
theorem field?_cons_congr {es es' : Fields} (h : field? es key = field? es' key) (k v : Value) :
    field? ((k, v) :: es) key = field? ((k, v) :: es') key := by
  by_cases hk : k = .str key
  · rw [hk, field?_cons_self, field?_cons_self]
  · rw [field?_cons_of_ne hk, field?_cons_of_ne hk, h]

/-- What is set under a key is found there. -/
theorem field?_setField_self (key : Text) (v : Value) (es : Fields) :
    field? (setField key v es) key = some v := by
  fun_induction setField key v es with
  | case1 => exact field?_cons_self key v []
  | case2 k v' es hk =>
      obtain rfl : k = key := by simpa using hk
      exact field?_cons_self k v es
  | case3 k v' es hk ih =>
      have hne : Value.str k ≠ .str key := by simpa using hk
      rw [field?_cons_of_ne hne, ih]
  | case4 e es he ih =>
      have hne : e.1 ≠ .str key := fun h => he key e.2 (by rw [← h])
      rw [field?_cons_of_ne hne, ih]

/-- Under the other keys all is as it was. -/
theorem field?_setField_of_ne (h : key' ≠ key) (v : Value) (es : Fields) :
    field? (setField key v es) key' = field? es key' := by
  have hother : Value.str key ≠ .str key' := by simpa using h.symm
  fun_induction setField key v es with
  | case1 => exact field?_cons_of_ne hother v []
  | case2 k v' es hk =>
      obtain rfl : k = key := by simpa using hk
      rw [field?_cons_of_ne hother, field?_cons_of_ne hother]
  | case3 k v' es hk ih => exact field?_cons_congr ih _ _
  | case4 e es he ih => exact field?_cons_congr ih _ _

theorem field?_dropField_of_ne (h : key' ≠ key) (es : Fields) :
    field? (dropField key es) key' = field? es key' := by
  induction es with
  | nil => rfl
  | cons e es ih =>
      obtain ⟨k, v⟩ := e
      by_cases hk : k = .str key
      · -- the entry is dropped, and it is not looked for
        have hother : k ≠ .str key' := by simpa [hk] using h.symm
        have hdropped : dropField key ((k, v) :: es) = dropField key es := by
          simp [dropField, hk]
        rw [hdropped, field?_cons_of_ne hother, ih]
      · have hkept : dropField key ((k, v) :: es) = (k, v) :: dropField key es := by
          cases k with
          | str t =>
              have ht : t ≠ key := by simpa using hk
              simp [dropField, ht]
          | _ => rfl
        rw [hkept]
        exact field?_cons_congr ih k v

end Value

namespace Fields

open Value

/-- What a value under a key stands for: nothing is the empty text under the keys of a doc comment. -/
def normalValue (key : Text) : Value → Value
  | .none => if key == "doc".toList || key == "doc_comment".toList then .str [] else .none
  | v => v

/-- An entry keeps its key when null doc comments are made empty. -/
theorem normalizeDoc_cons (k v : Value) (es : Fields) :
    ∃ w, normalizeDoc ((k, v) :: es) = (k, w) :: normalizeDoc es
      ∧ ∀ key, k = .str key → w = normalValue key v := by
  cases k with
  | str t =>
      refine ⟨normalValue t v, ?_, fun key hkey => by cases hkey; rfl⟩
      cases v <;> rfl
  | _ => exact ⟨v, rfl, fun key hkey => by cases hkey⟩

/-- Only values under the keys of a doc comment are changed. -/
theorem field?_normalizeDoc (es : Fields) (key : Text) :
    field? (normalizeDoc es) key = (field? es key).map (normalValue key) := by
  induction es with
  | nil => rfl
  | cons e es ih =>
      obtain ⟨k, v⟩ := e
      obtain ⟨w, hstep, hvalue⟩ := normalizeDoc_cons k v es
      rw [hstep]
      by_cases hk : k = .str key
      · rw [hvalue key hk, hk, field?_cons_self, field?_cons_self]
        rfl
      · rw [field?_cons_of_ne hk, field?_cons_of_ne hk, ih]

/-- Under the other keys all is as it was. -/
theorem field?_normalizeDoc_of_ne {key : Text} (h : key ≠ "doc".toList)
    (h' : key ≠ "doc_comment".toList) (es : Fields) :
    field? (normalizeDoc es) key = field? es key := by
  have hshort : (key == "doc".toList) = false := beq_eq_false_iff_ne.mpr h
  have hlong : (key == "doc_comment".toList) = false := beq_eq_false_iff_ne.mpr h'
  have hid : normalValue key = id := by
    funext v
    cases v with
    | none =>
        rw [normalValue, hshort, hlong]
        rfl
    | _ => rfl
  rw [field?_normalizeDoc, hid, Option.map_id_fun, id]

/-! ## How a field is written -/

/-- A field with a short and a long key is written: under the short key, whatever is under the long
one; or under the long key alone; or under neither, if its value is the default. `shows` are the
values that it can be given as. -/
inductive Writes (es : Fields) (key longKey : Text) (shows : Value → Prop) (isDefault : Prop) : Prop
  | short {v : Value} (found : field? es key = some v) (shown : shows v)
  | long {v : Value} (absent : field? es key = Option.none) (found : field? es longKey = some v)
      (shown : shows v)
  | omitted (absent : field? es key = Option.none) (absentLong : field? es longKey = Option.none)
      (isDefault : isDefault)

section Writes

variable {es es' : Fields} {key longKey : Text} {shows shows' : Value → Prop} {isDefault : Prop}
  {α : Type} {x default : α} {read : Value → Checked α}

/-- A field stays written when what is under its keys is changed as it should. -/
theorem Writes.map (h : Writes es key longKey shows isDefault) {f g : Value → Value}
    (hkey : field? es' key = (field? es key).map f)
    (hlongKey : field? es' longKey = (field? es longKey).map g)
    (hshows : ∀ v, shows v → shows' (f v) ∧ shows' (g v)) :
    Writes es' key longKey shows' isDefault := by
  cases h with
  | short found shown =>
      rw [found] at hkey
      exact .short hkey (hshows _ shown).1
  | long absent found shown =>
      rw [absent] at hkey
      rw [found] at hlongKey
      exact .long hkey hlongKey (hshows _ shown).2
  | omitted absent absentLong isDefault =>
      rw [absent] at hkey
      rw [absentLong] at hlongKey
      exact .omitted hkey hlongKey isDefault

/-- A field stays written when nothing is changed under its keys. -/
theorem Writes.congr (h : Writes es key longKey shows isDefault)
    (hkey : field? es' key = field? es key) (hlongKey : field? es' longKey = field? es longKey) :
    Writes es' key longKey shows isDefault :=
  h.map (f := id) (g := id) (by rw [hkey, Option.map_id_fun, id])
    (by rw [hlongKey, Option.map_id_fun, id]) fun _ hv => ⟨hv, hv⟩

/-- **A field that may be missing** is read as the value that it was written from. -/
theorem Writes.optional_eq (h : Writes es key longKey shows (x = default))
    (hread : ∀ v, shows v → read v = .ok x) : optional es key longKey default read = .ok x := by
  unfold optional find?
  cases h with
  | short found shown =>
      rw [found]
      simp only [hread _ shown]
      rfl
  | long absent found shown =>
      rw [absent, found]
      simp only [Option.map_some, hread _ shown]
      rfl
  | omitted absent absentLong isDefault =>
      rw [absent, absentLong, isDefault]
      rfl

/-- **A field that may not be missing** is read as the value that it was written from. -/
theorem Writes.required_eq (h : Writes es key longKey shows False)
    (hread : ∀ v, shows v → read v = .ok x) : required es key longKey read = .ok x := by
  unfold required find?
  cases h with
  | short found shown =>
      rw [found]
      simp only [hread _ shown]
      rfl
  | long absent found shown =>
      rw [absent, found]
      simp only [Option.map_some, hread _ shown]
      rfl
  | omitted absent absentLong isDefault => exact absurd isDefault id

end Writes

end Fields

end TestSkeleton

import TestSkeleton.Proofs.Check.Opposite
import TestSkeleton.Proofs.Source.Lookup
import TestSkeleton.Proofs.Value.Equality

set_option autoImplicit false

/-! # Being the same

To be the same as expected plain data is to be of its class and equal to it, and to be the same as
anything else is to be that object. Only the expected value is looked at for this, and objects can
answer themselves if they are equal. For plain data and plain objects, nested as one likes
(`IsComparable`), it is an equivalence all the same: there, equality comes to `Value.equal`
(`equal_eq`), and an object is identical just to what it equals (`same_iff`).
-/

namespace TestSkeleton

namespace Declarations

/-- A declared object that is no plain data, and whose class changes neither what it is equal to nor
how its attributes are found. -/
structure IsPlainObject (d : Declarations) (v : Value) : Prop where
  declared : ∃ name, d.objectValue? name = some v
  no_base : d.plainBase? (d.classOf v) = none
  no_equality : d.fails v "__eq__" = false
  no_attribute : d.fails v "__getattribute__" = false

variable {d : Declarations} {v w : Value}

theorem IsPlainObject.exists_name (h : d.IsPlainObject v) :
    ∃ name c className, v = .object name c className none ∧ d.objectValue? name = some v := by
  obtain ⟨name, hname⟩ := h.declared
  obtain ⟨o, -, rfl⟩ := Option.map_eq_some_iff.mp hname
  have hbase : d.plainBase? o.cls = none := h.no_base
  exact ⟨name, o.cls, d.table.className o.cls, by rw [hbase], hname⟩

/-- A value that is made of plain data and plain objects. -/
def IsComparable (d : Declarations) (v : Value) : Prop := v.IsMadeOf d.IsPlainObject

theorem IsPlainObject.isComparable (h : d.IsPlainObject v) : d.IsComparable v := by
  obtain ⟨name, c, className, rfl, -⟩ := h.exists_name
  exact .object h

/-! ## Equality of such values -/

theorem IsComparable.fails_eq (hv : d.IsComparable v) : d.fails v "__eq__" = false := by
  cases hv with
  | object h => exact h.no_equality
  | _ => rfl

theorem IsComparable.equalAnswer?_eq (hv : d.IsComparable v) (hw : d.IsComparable w) :
    d.equalAnswer? v w = none :=
  equalAnswer?_eq_none hv.fails_eq hw.fails_eq

theorem equal_of_isIdentical (hv : d.IsComparable v) (h : isIdentical v w = true) :
    v.equal w = true := by
  cases hv with
  | object hv =>
      cases w with
      | object =>
          rw [isIdentical, beq_iff_eq] at h
          simp [Value.equal, Value.isObject, h]
      | _ => cases h
  | _ => cases h

/-- It does not matter for members that they are not asked if they are the same. -/
theorem equal_member {k : Bool → Except Misuse Bool} (hv : d.IsComparable v)
    (h : d.equal v w = .ok (v.equal w)) :
    (if isIdentical v w then pure true >>= k else d.equal v w >>= k) = k (v.equal w) := by
  split
  next hsame => rw [equal_of_isIdentical hv hsame]; rfl
  next => rw [h]; rfl

/-! ### Hashes -/

theorem ownHash?_eq_none (hv : d.IsComparable v) (hobject : ¬ d.IsPlainObject v) :
    d.ownHash? v = none := by
  cases hv with
  | object h => exact absurd h hobject
  | _ => rfl

/-- An object equals itself alone. -/
theorem IsPlainObject.eq_of_equal (hv : d.IsPlainObject v) (hw : d.IsComparable w)
    (h : v.equal w = true) : w = v := by
  obtain ⟨name, c, className, rfl, hname⟩ := hv.exists_name
  obtain ⟨c', className', rfl⟩ := Value.IsMadeOf.eq_object hw h
  cases hw with
  | object hw =>
      obtain ⟨name', c'', className'', hobject, hname'⟩ := hw.exists_name
      obtain ⟨rfl, -, -, -⟩ := Value.object.inj hobject
      exact Option.some.inj (hname'.symm.trans hname)

/-- A value that is no tuple has the hash of what equals it. -/
theorem sameHash_of_equal_of_ne_tuple (hv : d.IsComparable v) (hw : d.IsComparable w)
    (h : v.equal w = true) (hne : ∀ vs ws, v = .tuple vs → w ≠ .tuple ws) :
    d.sameHash v w = true := by
  rw [sameHash_of_ne_tuple hne]
  by_cases hobject : d.IsPlainObject v ∨ d.IsPlainObject w
  · -- an object has its own hash
    obtain rfl : w = v := by
      rcases hobject with hobject | hobject
      · exact hobject.eq_of_equal hw h
      · exact (hobject.eq_of_equal hv (Value.equal_comm hv hw ▸ h)).symm
    cases hown : (d.ownHash? w).isSome with
    | true => simp [hashesToZero, hown]
    | false => rfl
  · obtain ⟨hobject, hobject'⟩ := not_or.mp hobject
    rw [ownHash?_eq_none hv hobject, ownHash?_eq_none hw hobject']
    rfl

/-- **Equal values have the same hash.** -/
theorem sameHash_of_equal (hv : d.IsComparable v) (hw : d.IsComparable w)
    (h : v.equal w = true) : d.sameHash v w = true := by
  induction hv generalizing w with
  | tuple hvs ih =>
      rename_i vs
      obtain ⟨ws, rfl, hequal⟩ := hw.exists_tuple h
      cases hw with
      | tuple hws =>
      rw [sameHash]
      rw [Value.equalAll_iff] at hequal
      clear h
      induction hequal with
      | nil => rfl
      | cons hvw _ ihrest =>
          obtain ⟨hv, hvs⟩ := List.forall_mem_cons.mp hvs
          obtain ⟨hw, hws⟩ := List.forall_mem_cons.mp hws
          obtain ⟨ihv, ih⟩ := List.forall_mem_cons.mp ih
          rw [sameHashes, ihv hw hvw, ihrest hvs ih hws, Bool.and_true]
  | _ => exact sameHash_of_equal_of_ne_tuple (by constructor <;> assumption) hw h nofun

/-- So a member matches what it equals. -/
theorem matchesKey_eq (hv : d.IsComparable v) (hw : d.IsComparable w)
    (h : d.equal v w = .ok (v.equal w)) : d.matchesKey v w = .ok (v.equal w) := by
  rw [matchesKey]
  split
  next hsame => rw [equal_of_isIdentical hv hsame]
  next =>
    split
    next => exact h
    next hhash =>
      rw [Bool.eq_false_iff.mpr fun hequal => hhash (sameHash_of_equal hv hw hequal)]

/-! ### Collections -/

/-- The members of two collections are compared as in `Value.equal`, either way round. -/
def Agree (d : Declarations) (vs ws : List Value) : Prop :=
  ∀ v ∈ vs, ∀ w ∈ ws, d.equal v w = .ok (v.equal w) ∧ d.equal w v = .ok (w.equal v)

theorem Agree.symm {vs ws : List Value} (h : d.Agree vs ws) : d.Agree ws vs :=
  fun w hw v hv => (h v hv w hw).symm

section Collections

variable {vs ws : List Value} {es fs : List (Value × Value)}

theorem equalItems_eq (hvs : ∀ v ∈ vs, d.IsComparable v) (h : d.Agree vs ws) :
    d.equalItems vs ws = .ok (Value.equalAll vs ws) := by
  induction vs generalizing ws with
  | nil => cases ws <;> simp [equalItems, Value.equalAll]
  | cons v vs ih =>
      cases ws with
      | nil => simp [equalItems, Value.equalAll]
      | cons w ws =>
          have hequal := (h v List.mem_cons_self w List.mem_cons_self).1
          have hrest := ih (fun v hv => hvs v (List.mem_cons_of_mem _ hv))
            (fun v hv w hw => h v (List.mem_cons_of_mem _ hv) w (List.mem_cons_of_mem _ hw))
          rw [equalItems, Value.equalAll]
          refine (equal_member (hvs v List.mem_cons_self) hequal).trans ?_
          cases v.equal w with
          | true => exact hrest
          | false => rfl

/-- The members of a set are those that are found in another one. -/
theorem areFound_eq_allIn (hvs : ∀ v ∈ vs, d.IsComparable v) (hws : ∀ w ∈ ws, d.IsComparable w)
    (h : d.Agree vs ws) : d.areFound vs ws = .ok (Value.allIn vs ws) := by
  rw [areFound_eq fun v hv w hw => matchesKey_eq (hws w hw) (hvs v hv) (h v hv w hw).2]
  congr 1
  rw [Bool.eq_iff_iff, Value.allIn_iff]
  simp only [List.all_eq_true, List.any_eq_true]
  refine forall₂_congr fun v hv => exists_congr fun w => and_congr_right fun hw => ?_
  rw [Value.equal_comm (hws w hw) (hvs v hv)]

/-- A value under a key is the one that stands with an equal key. -/
theorem equalsEntry_eq {k v : Value} (hk : d.IsComparable k) (hv : d.IsComparable v)
    (hfs : ∀ f ∈ fs, d.IsComparable f.1) (hdistinct : Value.AreDistinct (fs.map Prod.fst))
    (hkeys : ∀ f ∈ fs, d.equal f.1 k = .ok (f.1.equal k))
    (hvalues : ∀ f ∈ fs, d.equal v f.2 = .ok (v.equal f.2)) :
    d.equalsEntry k v fs = .ok (fs.any fun f => Value.equalEntry (k, v) f) := by
  have hany : (fs.any fun f => Value.equalEntry (k, v) f)
      = (fs.find? fun f => k.equal f.1).any fun f => v.equal f.2 := Value.any_entry hk hfs hdistinct
  rw [hany]
  clear hany hdistinct
  induction fs with
  | nil => rw [equalsEntry]; rfl
  | cons f fs ih =>
      obtain ⟨hf, hfs⟩ := List.forall_mem_cons.mp hfs
      obtain ⟨hkey, hkeys⟩ := List.forall_mem_cons.mp hkeys
      obtain ⟨hvalue, hvalues⟩ := List.forall_mem_cons.mp hvalues
      rw [equalsEntry, matchesKey_eq hf hk hkey, Value.equal_comm hf hk, List.find?_cons]
      cases k.equal f.1 with
      | false => exact ih hfs hkeys hvalues
      | true =>
          change (if isIdentical v f.2 then .ok true else d.equal v f.2) = .ok (v.equal f.2)
          split
          next hsame => rw [equal_of_isIdentical hv hsame]
          next => exact hvalue

theorem equalEntries_eq (hkeys : ∀ e ∈ es, d.IsComparable e.1)
    (hvalues : ∀ e ∈ es, d.IsComparable e.2) (hfkeys : ∀ f ∈ fs, d.IsComparable f.1)
    (hdistinct : Value.AreDistinct (fs.map Prod.fst))
    (hagree : d.Agree (es.map Prod.fst) (fs.map Prod.fst))
    (hagree' : d.Agree (es.map Prod.snd) (fs.map Prod.snd)) :
    d.equalEntries es fs = .ok (Value.entriesIn es fs) := by
  induction es with
  | nil => simp [equalEntries, Value.entriesIn]
  | cons e es ih =>
      obtain ⟨k, v⟩ := e
      obtain ⟨hk, hkeys⟩ := List.forall_mem_cons.mp hkeys
      obtain ⟨hv, hvalues⟩ := List.forall_mem_cons.mp hvalues
      have hrest := ih hkeys hvalues (fun u hu => hagree u (List.mem_cons_of_mem _ hu))
        (fun u hu => hagree' u (List.mem_cons_of_mem _ hu))
      have hentry := equalsEntry_eq hk hv hfkeys hdistinct
        (fun f hf => (hagree k List.mem_cons_self f.1 (List.mem_map_of_mem hf)).2)
        (fun f hf => (hagree' v List.mem_cons_self f.2 (List.mem_map_of_mem hf)).1)
      rw [equalEntries, hentry, Value.entriesIn]
      change (if fs.any (fun f => Value.equalEntry (k, v) f) then d.equalEntries es fs else .ok false)
        = .ok (fs.any (fun f => Value.equalEntry (k, v) f) && Value.entriesIn es fs)
      cases fs.any fun f => Value.equalEntry (k, v) f with
      | true => exact hrest
      | false => rfl

theorem equal_lists (hvs : ∀ v ∈ vs, d.IsComparable v) (h : d.Agree vs ws) :
    d.equal (.list vs) (.list ws) = .ok ((Value.list vs).equal (.list ws)) := by
  rw [equal.eq_def, equalAnswer?_eq_none rfl rfl, Value.equal]
  dsimp only [Value.listItems?]
  split
  next => exact equalItems_eq hvs h
  next hlength =>
    have hne : ¬ Value.equalAll vs ws = true :=
      fun h => hlength (beq_iff_eq.mpr (Value.length_eq_of_equalAll h))
    rw [Bool.eq_false_iff.mpr hne]

theorem equal_tuples (hvs : ∀ v ∈ vs, d.IsComparable v) (h : d.Agree vs ws) :
    d.equal (.tuple vs) (.tuple ws) = .ok ((Value.tuple vs).equal (.tuple ws)) := by
  rw [equal.eq_def, equalAnswer?_eq_none rfl rfl, Value.equal]
  exact equalItems_eq hvs h

theorem equal_dicts (hes : d.IsComparable (.dict es)) (hfs : d.IsComparable (.dict fs))
    (h : d.Agree (es.map Prod.fst) (fs.map Prod.fst))
    (h' : d.Agree (es.map Prod.snd) (fs.map Prod.snd)) :
    d.equal (.dict es) (.dict fs) = .ok ((Value.dict es).equal (.dict fs)) := by
  cases hes with
  | dict hkeys hvalues hdistinct =>
  cases hfs with
  | dict hfkeys hfvalues hfdistinct =>
  have hentries := equalEntries_eq hkeys hvalues hfkeys hfdistinct h h'
  rw [equal.eq_def, equalAnswer?_eq_none rfl rfl, Value.equal]
  dsimp only [Value.entries?]
  split
  next hlength => rw [hentries, hlength, Bool.true_and]
  next hlength => rw [Bool.eq_false_iff.mpr hlength, Bool.false_and]

/-- Sets of either kind are compared by their members. -/
theorem equal_sets (hv : d.IsComparable v) (hw : d.IsComparable w) (hvs : v.members? = some vs)
    (hws : w.members? = some ws) (h : d.Agree vs ws) : d.equal v w = .ok (v.equal w) := by
  have hfound := areFound_eq_allIn (Value.IsMadeOf.members hv hvs).1
    (Value.IsMadeOf.members hw hws).1 h
  have hequal : d.equal v w = if vs.length == ws.length then d.areFound vs ws else .ok false := by
    cases hv <;> cases hvs <;> cases hw <;> cases hws <;>
      rw [equal.eq_def, equalAnswer?_eq_none rfl rfl]
  have hvalue : v.equal w = (vs.length == ws.length && Value.allIn vs ws) := by
    cases hv <;> cases hvs <;> rw [Value.equal, hws]
  rw [hequal, hvalue, hfound]
  cases vs.length == ws.length <;> rfl

end Collections

/-! ### All values -/

/-- A set is compared as in `Value.equal` if its members are. -/
theorem equal_set_both {vs : List Value} (hv : d.IsComparable v) (hw : d.IsComparable w)
    (hvs : v.members? = some vs) (h : ∀ ws, w.members? = some ws → d.Agree vs ws) :
    d.equal v w = .ok (v.equal w) ∧ d.equal w v = .ok (w.equal v) := by
  have hanswer := hv.equalAnswer?_eq hw
  have hanswer' := hw.equalAnswer?_eq hv
  cases hws : w.members? with
  | some ws =>
      exact ⟨equal_sets hv hw hvs hws (h ws hws), equal_sets hw hv hws hvs (h ws hws).symm⟩
  | none =>
      cases hv <;> cases hvs <;> cases hw <;> cases hws <;>
        exact ⟨by rw [equal.eq_def, hanswer], by rw [equal.eq_def, hanswer']⟩

/-- What is no collection is compared as in `Value.equal` without more ado. -/
theorem equal_simple_both (hv : d.IsComparable v) (hw : d.IsComparable w)
    (hrow : v.sequence? = none) (hset : v.members? = none) (hmapping : v.entries? = none) :
    d.equal v w = .ok (v.equal w) ∧ d.equal w v = .ok (w.equal v) := by
  have hanswer := hv.equalAnswer?_eq hw
  have hanswer' := hw.equalAnswer?_eq hv
  cases hv <;> cases hrow <;> cases hset <;> cases hmapping <;>
    refine ⟨by rw [equal.eq_def, hanswer], ?_⟩ <;>
    cases hw <;> rw [equal.eq_def, hanswer']

/-- Values are equal as in `Value.equal`, whichever of the two comes first. -/
theorem equal_eq_both (hv : d.IsComparable v) (hw : d.IsComparable w) :
    d.equal v w = .ok (v.equal w) ∧ d.equal w v = .ok (w.equal v) := by
  have hmembers {u : Value} {us ws : List Value} (hu : d.IsComparable u)
      (hws : u.members? = some ws)
      (ih : ∀ v ∈ us, ∀ {w : Value}, d.IsComparable w →
        d.equal v w = .ok (v.equal w) ∧ d.equal w v = .ok (w.equal v)) : d.Agree us ws :=
    fun v hv w hw => ih v hv ((Value.IsMadeOf.members hu hws).1 w hw)
  induction hv generalizing w with
  | list hvs ih =>
      have hanswer := IsComparable.equalAnswer?_eq (.list hvs) hw
      have hanswer' := IsComparable.equalAnswer?_eq hw (.list hvs)
      cases hw with
      | list hws =>
          have hagree : d.Agree _ _ := fun v hv w hw => ih v hv (hws w hw)
          exact ⟨equal_lists hvs hagree, equal_lists hws hagree.symm⟩
      | _ => exact ⟨by rw [equal.eq_def, hanswer], by rw [equal.eq_def, hanswer']⟩
  | tuple hvs ih =>
      have hanswer := IsComparable.equalAnswer?_eq (.tuple hvs) hw
      have hanswer' := IsComparable.equalAnswer?_eq hw (.tuple hvs)
      cases hw with
      | tuple hws =>
          have hagree : d.Agree _ _ := fun v hv w hw => ih v hv (hws w hw)
          exact ⟨equal_tuples hvs hagree, equal_tuples hws hagree.symm⟩
      | _ => exact ⟨by rw [equal.eq_def, hanswer], by rw [equal.eq_def, hanswer']⟩
  | set hvs hdistinct ih =>
      exact equal_set_both (.set hvs hdistinct) hw rfl fun ws hws => hmembers hw hws ih
  | frozenset hvs hdistinct ih =>
      exact equal_set_both (.frozenset hvs hdistinct) hw rfl fun ws hws => hmembers hw hws ih
  | dict hkeys hvalues hdistinct ihkeys ihvalues =>
      have hes := Value.IsMadeOf.dict hkeys hvalues hdistinct
      have hanswer := IsComparable.equalAnswer?_eq hes hw
      have hanswer' := IsComparable.equalAnswer?_eq hw hes
      cases hw with
      | dict hfkeys hfvalues hfdistinct =>
          have hfs := Value.IsMadeOf.dict hfkeys hfvalues hfdistinct
          have hagree : d.Agree _ _ := List.forall_mem_map.mpr fun e he =>
            List.forall_mem_map.mpr fun f hf => ihkeys e he (hfkeys f hf)
          have hagree' : d.Agree _ _ := List.forall_mem_map.mpr fun e he =>
            List.forall_mem_map.mpr fun f hf => ihvalues e he (hfvalues f hf)
          exact ⟨equal_dicts hes hfs hagree hagree',
            equal_dicts hfs hes hagree.symm hagree'.symm⟩
      | _ => exact ⟨by rw [equal.eq_def, hanswer], by rw [equal.eq_def, hanswer']⟩
  | _ => exact equal_simple_both (by constructor <;> assumption) hw rfl rfl rfl

theorem equal_eq (hv : d.IsComparable v) (hw : d.IsComparable w) :
    d.equal v w = .ok (v.equal w) := (equal_eq_both hv hw).1

/-! ## Classes of such values -/

/-- It can be told what classes a value is of, if its class leaves attributes as they are. -/
theorem hasClass_eq (h : d.fails v "__getattribute__" = false) :
    ∃ claims : ClassRef → Bool,
      ∀ c, d.hasClass v c = .ok (d.table.isSubclass (d.classOf v) c || claims c) := by
  unfold hasClass
  rw [h]
  cases hclaim : d.claim? v with
  | none => exact ⟨fun _ => false, fun c => by cases d.table.isSubclass (d.classOf v) c <;> rfl⟩
  | some b =>
      cases b with
      | cls k =>
          exact ⟨d.table.isSubclass k, fun c => by cases d.table.isSubclass (d.classOf v) c <;> rfl⟩
      | _ => exact ⟨fun _ => false, fun c => by cases d.table.isSubclass (d.classOf v) c <;> rfl⟩

theorem exists_hasAnyClass (h : d.fails v "__getattribute__" = false) (names : List String) :
    ∃ b, d.hasAnyClass v names = .ok b := by
  obtain ⟨claims, hclass⟩ := hasClass_eq h
  exact ⟨_, anyM_of_ok fun n _ => hclass (.builtin n.toList)⟩

/-- A value of one of some classes is found to be of one. -/
theorem hasAnyClass_of_mem {names : List String} {name : String}
    (h : d.fails v "__getattribute__" = false) (hname : name ∈ names)
    (hclass : d.classOf v = .builtin name.toList) : d.hasAnyClass v names = .ok true := by
  obtain ⟨claims, hclaims⟩ := hasClass_eq h
  refine (anyM_of_ok fun n _ => hclaims (.builtin n.toList)).trans (congrArg Except.ok ?_)
  have hself : d.table.isSubclass (d.classOf v) (.builtin name.toList) = true :=
    (congrArg (d.table.isSubclass · _) hclass).trans (ClassTable.derivesFrom_self d.table _)
  exact List.any_eq_true.mpr ⟨name, hname, by rw [hself, Bool.true_or]⟩

theorem IsComparable.data_or_object (hv : d.IsComparable v) :
    (d.fails v "__getattribute__" = false
      ∧ ∃ name ∈ valueClasses, d.classOf v = .builtin name.toList) ∨ d.IsPlainObject v := by
  cases hv with
  | none => exact .inl ⟨rfl, "NoneType", by decide, rfl⟩
  | bool b => exact .inl ⟨rfl, "bool", by decide, rfl⟩
  | int n => exact .inl ⟨rfl, "int", by decide, rfl⟩
  | str t => exact .inl ⟨rfl, "str", by decide, rfl⟩
  | bytes bs => exact .inl ⟨rfl, "bytes", by decide, rfl⟩
  | list h => exact .inl ⟨rfl, "list", by decide, rfl⟩
  | tuple h => exact .inl ⟨rfl, "tuple", by decide, rfl⟩
  | set h hdistinct => exact .inl ⟨rfl, "set", by decide, rfl⟩
  | frozenset h hdistinct => exact .inl ⟨rfl, "frozenset", by decide, rfl⟩
  | dict hkeys hvalues hdistinct => exact .inl ⟨rfl, "dict", by decide, rfl⟩
  | object h => exact .inr h

/-! ## Being the same -/

theorem isIdentical_object {name className : Text} {c : ClassRef} {base : Option PlainType} :
    isIdentical w (.object name c className base) = w.isObject name := by
  cases w <;> rfl

/-- **A value is the same as another one just if it is of its class and equals it.** -/
theorem same_iff (hv : d.IsComparable v) (hw : d.IsComparable w) :
    d.same v w = .ok true ↔ d.classOf w = d.classOf v ∧ w.equal v = true := by
  have hdata (hclass : d.hasAnyClass v valueClasses = .ok true) :
      d.same v w = .ok true ↔ d.classOf w = d.classOf v ∧ w.equal v = true := by
    unfold same
    rw [hclass, equal_eq hw hv]
    by_cases hsame : d.classOf w = d.classOf v
    · simp [hsame, bind, Except.bind]
    · simp [hsame, bind, Except.bind, pure, Except.pure]
  obtain ⟨hattribute, name, hname, hclass⟩ | hobject := hv.data_or_object
  · exact hdata (hasAnyClass_of_mem hattribute hname hclass)
  · obtain ⟨b, hb⟩ := exists_hasAnyClass hobject.no_attribute valueClasses
    cases b with
    | true => exact hdata hb
    | false =>
        obtain ⟨name, c, className, rfl, -⟩ := hobject.exists_name
        have hsame : d.same (.object name c className none) w = .ok (w.isObject name) := by
          rw [same, hb, ← isIdentical_object]
          rfl
        rw [hsame, Value.equal_comm hw hv, Value.equal_object]
        constructor
        · intro h
          have hequal : w.isObject name = true := Except.ok.inj h
          obtain rfl := hobject.eq_of_equal hw (Value.equal_object.trans hequal)
          exact ⟨rfl, hequal⟩
        · exact fun h => congrArg Except.ok h.2

end Declarations

namespace Check

variable {s : Setting} {v w : Value} {note : Option Value}

/-- The members of sets that are made of plain data and plain objects are compared fairly. -/
theorem setsCompareFairly_of_isComparable {d : Declarations} (hv : d.IsComparable v)
    (hw : d.IsComparable w) : d.SetsCompareFairly v w := by
  intro vs ws h
  obtain ⟨hvs, hdistinct⟩ : (∀ u ∈ vs, d.IsComparable u) ∧ Value.AreDistinct vs := by
    cases h <;> exact Value.IsMadeOf.members hv rfl
  obtain ⟨hws, hdistinct'⟩ : (∀ u ∈ ws, d.IsComparable u) ∧ Value.AreDistinct ws := by
    cases h <;> exact Value.IsMadeOf.members hw rfl
  have hall : ∀ u ∈ vs ++ ws, d.IsComparable u := fun u hu =>
    (List.mem_append.mp hu).elim (hvs u) (hws u)
  exact ⟨Value.equal, {
    matchesKey_eq := fun u hu u' hu' =>
      Declarations.matchesKey_eq (hall u hu) (hall u' hu')
        (Declarations.equal_eq (hall u hu) (hall u' hu'))
    symm := fun u hu u' hu' h => Value.equal_comm (hall u hu) (hall u' hu') ▸ h
    trans := fun u hu u' hu' u'' hu'' =>
      Value.equal_trans (hall u hu) (hall u' hu') (hall u'' hu'')
    distinct_left := hdistinct
    distinct_right := hdistinct' }⟩

theorem equals_passed_iff (hv : s.declarations.IsComparable v)
    (hw : s.declarations.IsComparable w) :
    outcome s .equals v w note = .passed ↔ w.equal v = true := by
  rw [outcome_eq rfl, Outcome.ofVerdict_eq_passed_iff,
    requireEqual_eq_ok_none_iff (setsCompareFairly_of_isComparable hw hv),
    Declarations.equal_eq hw hv, Except.ok.injEq]

theorem same_passed_iff (hv : s.declarations.IsComparable v) (hw : s.declarations.IsComparable w) :
    outcome s .same v w note = .passed
      ↔ s.declarations.classOf w = s.declarations.classOf v ∧ w.equal v = true := by
  rw [outcome_eq rfl, Outcome.ofVerdict_eq_passed_iff, require_eq_ok_none_iff]
  exact Declarations.same_iff hv hw

/-- **Being the same is a strict equality.** On plain data and plain objects it is an equivalence,
which relates what is equal and of the same class, and a plain object to itself alone. -/
theorem same_is_strict_equality (s : Setting) (note : Option Value) :
    Equivalence (fun v w : { v // s.declarations.IsComparable v } =>
      outcome s .same v.1 w.1 note = .passed)
    ∧ ∀ v w, s.declarations.IsComparable v → s.declarations.IsComparable w →
      (outcome s .same v w note = .passed
        ↔ outcome s .equals v w note = .passed
          ∧ s.declarations.classOf v = s.declarations.classOf w)
      ∧ (s.declarations.IsPlainObject v ∨ s.declarations.IsPlainObject w →
        outcome s .same v w note = .passed → v = w) := by
  refine ⟨⟨?_, ?_, ?_⟩, fun v w hv hw => ⟨?_, ?_⟩⟩
  · rintro ⟨v, hv⟩
    exact (same_passed_iff hv hv).mpr ⟨rfl, Value.equal_self hv⟩
  · rintro ⟨v, hv⟩ ⟨w, hw⟩ h
    obtain ⟨hclass, hequal⟩ := (same_passed_iff hv hw).mp h
    exact (same_passed_iff hw hv).mpr ⟨hclass.symm, Value.equal_comm hw hv ▸ hequal⟩
  · rintro ⟨v, hv⟩ ⟨w, hw⟩ ⟨u, hu⟩ hvw hwu
    obtain ⟨hclass, hequal⟩ := (same_passed_iff hv hw).mp hvw
    obtain ⟨hclass', hequal'⟩ := (same_passed_iff hw hu).mp hwu
    exact (same_passed_iff hv hu).mpr
      ⟨hclass'.trans hclass, Value.equal_trans hu hw hv hequal' hequal⟩
  · rw [same_passed_iff hv hw, equals_passed_iff hv hw, and_comm]
    exact and_congr_right' eq_comm
  · intro hobject h
    have hequal := ((same_passed_iff hv hw).mp h).2
    rcases hobject with hobject | hobject
    · exact (hobject.eq_of_equal hw (Value.equal_comm hv hw ▸ hequal)).symm
    · exact hobject.eq_of_equal hv hequal

/-- A class and two objects of it. -/
def twoObjects : Declarations :=
  { Declarations.withClass {} "A" [] with
    objects := [⟨"a", .declared 0, ["_label"]⟩, ⟨"b", .declared 0, ["_label"]⟩] }

theorem special?_twoObjects {operator : String} (h : operator.toList ∉ ClassTable.addedNames)
    (hnew : (ClassTable.kept (Declarations.bodyOf "A" []).names).lookup operator.toList = none) :
    twoObjects.special? (.declared 0) operator = none :=
  (show (Declarations.withClass {} "A" []).special? (.declared 0) operator = _ from
    Declarations.special?_withClass h).trans hnew

theorem isPlainObject_twoObjects {name : Text} (h : name = "a".toList ∨ name = "b".toList) :
    twoObjects.IsPlainObject (.object name (.declared 0) "A" none) where
  declared := ⟨name, by rcases h with rfl | rfl <;> rfl⟩
  no_base := rfl
  no_equality := by
    rw [Declarations.fails, special?_twoObjects (by decide) rfl, Option.isSome_none]
  no_attribute := by
    rw [Declarations.fails, special?_twoObjects (by decide) rfl, Option.isSome_none]

/-- An object in a list with a set that holds a number. -/
def objectWith (number : Value) : Value :=
  .list [.object "a" (.declared 0) "A" none, .set (Value.distinct [number])]

theorem isComparable_objectWith {number : Value} (h : twoObjects.IsComparable number) :
    twoObjects.IsComparable (objectWith number) := by
  refine .list ?_
  intro v hv
  obtain rfl | hv := List.mem_cons.mp hv
  · exact (isPlainObject_twoObjects (.inl rfl)).isComparable
  · obtain rfl := List.mem_singleton.mp hv
    exact Value.isMadeOf_distinct fun w hw => List.mem_singleton.mp hw ▸ h

/-- Inside of collections a number and a boolean are the same if they are equal, but two objects of
a class are not. -/
theorem objectWith_same :
    (objectWith (.int 1)).equal (objectWith (.bool true)) = true
    ∧ outcome { declarations := twoObjects } .same (objectWith (.bool true)) (objectWith (.int 1))
      none = .passed
    ∧ outcome { declarations := twoObjects } .same (.object "a" (.declared 0) "A" none)
      (.object "b" (.declared 0) "A" none) none ≠ .passed := by
  have hint : twoObjects.IsComparable (objectWith (.int 1)) := isComparable_objectWith (.int 1)
  have hbool : twoObjects.IsComparable (objectWith (.bool true)) :=
    isComparable_objectWith (.bool true)
  have ha : twoObjects.IsPlainObject (.object "a" (.declared 0) "A" none) :=
    isPlainObject_twoObjects (.inl rfl)
  have hb : twoObjects.IsPlainObject (.object "b" (.declared 0) "A" none) :=
    isPlainObject_twoObjects (.inr rfl)
  have hequal : (objectWith (.int 1)).equal (objectWith (.bool true)) = true := by decide +kernel
  have hstrict := (same_is_strict_equality { declarations := twoObjects } none).2
  refine ⟨hequal, ?_, fun h => ?_⟩
  · exact (hstrict _ _ hbool hint).1.mpr ⟨(equals_passed_iff hbool hint).mpr hequal, rfl⟩
  · have hsame := (hstrict _ _ ha.isComparable hb.isComparable).2 (.inl ha) h
    exact absurd (Value.object.inj hsame).1 (by decide)

end Check

end TestSkeleton

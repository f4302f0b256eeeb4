import TestSkeleton.Check.Outcome
import TestSkeleton.Proofs.Check.Declaration
import TestSkeleton.Proofs.Check.Membership

set_option autoImplicit false

/-! # Opposite assertions

Of two opposite kinds one asks that a condition holds and the other that it does not, so that for
values that both can look at exactly one passes. Three kinds have exceptions. What has no keys has
neither a key nor lacks it, so both kinds fail (`HasKeys`). An empty collection contains only what
one asks for, but does not count as one that does, so both kinds pass. And objects are asked both if
they are equal and if they differ, and can answer as they like if their class does not leave the
second question to the first (`LeavesInequality`).
-/

namespace TestSkeleton

namespace Check

/-! ## Verdicts -/

/-- Of two verdicts exactly one is to pass, if both are reached. -/
def Verdict.Oppose (a b : Verdict) : Prop :=
  ∀ x y, a = .ok x → b = .ok y → (x = none ↔ y ≠ none)

section Oppose

variable {a b : Verdict} {c c' : Complaint} {condition : Except Misuse Bool}

theorem Verdict.Oppose.symm (h : Verdict.Oppose a b) : Verdict.Oppose b a := by
  intro y x hb ha
  have := h x y ha hb
  cases x <;> cases y <;> simp_all

/-- Asking that a condition holds is the opposite of asking that it does not. -/
theorem require_oppose_refuse :
    Verdict.Oppose (require condition c) (refuse condition c') := by
  cases condition with
  | error m => intro x y hx; simp [require, bind, Except.bind] at hx
  | ok holds =>
      rintro x y ⟨⟩ ⟨⟩
      cases holds <;> simp

/-- Asking that the negation of a condition holds is asking that the condition does not. -/
theorem require_map_not : require (condition.map not) c = refuse condition c := by
  cases condition with
  | error m => rfl
  | ok holds => cases holds <;> rfl

/-- Steps that two verdicts share do not matter. -/
theorem Verdict.Oppose.bind {α : Type} {x : Except Misuse α} {f g : α → Verdict}
    (h : ∀ v, x = .ok v → Verdict.Oppose (f v) (g v)) : Verdict.Oppose (x >>= f) (x >>= g) := by
  cases x with
  | error m => intro y z hy; simp [Bind.bind, Except.bind] at hy
  | ok v => exact h v rfl

end Oppose

/-- Asking that two values are equal is the opposite of asking that they differ, where the second
question is left to the first and the members of sets are compared fairly. -/
theorem requireEqual_oppose {d : Declarations} {v w : Value} {c : Complaint}
    (hv : d.LeavesInequality v) (hw : d.LeavesInequality w) (hsets : d.SetsCompareFairly v w) :
    Verdict.Oppose (requireEqual d v w) (require (d.differ v w) c) := by
  rw [Declarations.differ_eq hv hw, require_map_not]
  intro x y hx hy
  obtain ⟨isEqual, hequal, hy⟩ := bind_eq_ok_iff.mp hy
  have hpasses := requireEqual_eq_ok_none_iff hsets
  rw [hx, hequal, Except.ok.injEq, Except.ok.injEq] at hpasses
  rw [hpasses]
  cases isEqual <;> cases hy <;> simp

/-! ## Keys -/

/-- A mapping, or a sequence of other things than characters. -/
def HasKeys (d : Declarations) (v : Value) : Prop :=
  d.hasAnyClass v mappingClasses = .ok true
    ∨ d.hasAnyClass v sequenceClasses = .ok true ∧ d.hasAnyClass v characterClasses = .ok false

/-- A key is looked for just in what has keys. -/
theorem hasKey_eq_ok {d : Declarations} {container key : Value} {r : Option Bool}
    (h : hasKey d container key = .ok r) : r = none ↔ ¬ HasKeys d container := by
  unfold hasKey at h
  extract_lets isClaim at h
  split at h
  · contradiction
  obtain ⟨isMapping, hmapping, h⟩ := bind_eq_ok_iff.mp h
  cases isMapping with
  | true =>
      obtain ⟨holds, -, h⟩ := bind_eq_ok_iff.mp h
      cases h
      simp [HasKeys, hmapping]
  | false =>
      obtain ⟨isSequence, hsequence, h⟩ := bind_eq_ok_iff.mp h
      cases isSequence with
      | false =>
          cases h
          simp [HasKeys, hmapping, hsequence]
      | true =>
          obtain ⟨isText, htext, h⟩ := bind_eq_ok_iff.mp h
          cases isText with
          | true =>
              cases h
              simp [HasKeys, hmapping, hsequence, htext]
          | false =>
              have hkeys : HasKeys d container := .inr ⟨hsequence, htext⟩
              refine iff_of_false ?_ (not_not_intro hkeys)
              rintro rfl
              -- from here on there is an answer, whatever the key
              obtain ⟨isBool, -, h⟩ := bind_eq_ok_iff.mp h
              split at h
              · cases h
              obtain ⟨isNumber, -, h⟩ := bind_eq_ok_iff.mp h
              split at h
              · cases h
              obtain ⟨isPositive, -, h⟩ := bind_eq_ok_iff.mp h
              split at h
              · cases h
              obtain ⟨size, -, h⟩ := bind_eq_ok_iff.mp h
              obtain ⟨holds, -, h⟩ := bind_eq_ok_iff.mp h
              cases h

/-! ## Members -/

section Members

variable {d : Declarations} {expected actual v : Value} {vs : List Value}

theorem require_eq_ok_none_iff {condition : Except Misuse Bool} {c : Complaint} :
    require condition c = .ok none ↔ condition = .ok true := by
  cases condition with
  | error m => exact ⟨nofun, nofun⟩
  | ok holds =>
      cases holds with
      | false => exact ⟨nofun, nofun⟩
      | true => exact ⟨fun _ => rfl, fun _ => rfl⟩

theorem return_not_eq_ok_iff {condition : Except Misuse Bool} {b : Bool} :
    (do return !(← condition)) = Except.ok (ε := Misuse) b ↔ condition = .ok !b := by
  rw [bind_eq_ok_iff]
  constructor
  · rintro ⟨holds, rfl, h⟩
    obtain rfl : (!holds) = b := Except.ok.inj h
    rw [Bool.not_not]
  · exact fun h => ⟨!b, h, congrArg Except.ok b.not_not⟩

/-- The check of all members passes just if each member is found to be of the type. -/
theorem requireAll_eq_ok_none_iff :
    requireAll d expected actual = .ok none
      ↔ ∃ vs, d.items actual = .ok vs ∧ ∀ v ∈ vs, d.isOfType v expected = .ok true := by
  rw [requireAll, bind_eq_ok_iff]
  refine exists_congr fun vs => and_congr_right fun _ => ?_
  rw [bind_eq_ok_iff]
  constructor
  · rintro ⟨offending, hoffending, h⟩
    obtain rfl : offending = [] := by
      cases offending with
      | nil => rfl
      | cons => cases h
    exact fun v hv => return_not_eq_ok_iff.mp (filterM_eq_ok_nil_iff.mp hoffending v hv)
  · intro h
    exact ⟨[], filterM_eq_ok_nil_iff.mpr fun v hv => return_not_eq_ok_iff.mpr (h v hv), rfl⟩

/-- What contains only members of a type, if it has members, is refused. -/
theorem refuseAll_eq_ok {x : Option Complaint} (hitems : d.items actual = .ok vs)
    (h : refuseAll d expected actual = .ok x) :
    x ≠ none ↔ vs ≠ [] ∧ ∀ v ∈ vs, d.isOfType v expected = .ok true := by
  unfold refuseAll at h
  obtain ⟨vs', hvs', h⟩ := bind_eq_ok_iff.mp h
  obtain rfl : vs = vs' := Except.ok.inj (hitems.symm.trans hvs')
  obtain ⟨areAll, hall, h⟩ := bind_eq_ok_iff.mp h
  rw [← allM_eq_ok_true_iff, hall]
  cases vs <;> cases areAll <;> cases h <;> simp

theorem requireAll_oppose (h : d.items actual ≠ .ok []) :
    Verdict.Oppose (requireAll d expected actual) (refuseAll d expected actual) := by
  intro x y hx hy
  obtain ⟨vs, hitems, -⟩ := bind_eq_ok_iff.mp hx
  have hvs : vs ≠ [] := by
    rintro rfl
    exact h hitems
  have hall : x = none ↔ ∀ v ∈ vs, d.isOfType v expected = .ok true := by
    have hpasses : requireAll d expected actual = .ok none ↔ x = none := by
      rw [hx, Except.ok.injEq]
    rw [← hpasses, requireAll_eq_ok_none_iff, hitems]
    simp only [Except.ok.injEq, exists_eq_left']
  rw [hall, refuseAll_eq_ok hitems hy, and_iff_right hvs]

end Members

/-! ## Outcomes -/

namespace Outcome

/-- The assertion fails. -/
def Fails (o : Outcome) : Prop := ∃ message, o = failed message

/-- The call of the assertion is not possible for its values. -/
def IsBroken (o : Outcome) : Prop := ∃ m, o = broken m

/-- Of two assertions one passes and the other one fails. -/
def Exclude (a b : Outcome) : Prop := a = passed ∧ b.Fails ∨ a.Fails ∧ b = passed

variable {d : Declarations} {note note' : Option Value} {v w : Verdict}

theorem ofVerdict_eq_passed_iff : ofVerdict d note v = passed ↔ v = .ok none := by
  constructor
  · intro h
    unfold ofVerdict at h
    split at h
    · rfl
    · split at h <;> cases h
    · cases h
  · rintro rfl
    rfl

/-- An assertion that is not broken passes or fails by its verdict. -/
theorem ofVerdict_cases (h : ¬ (ofVerdict d note v).IsBroken) :
    v = .ok none ∧ ofVerdict d note v = passed
      ∨ ∃ c, v = .ok (some c) ∧ (ofVerdict d note v).Fails := by
  unfold ofVerdict at h ⊢
  split
  · exact .inl ⟨rfl, rfl⟩
  next c =>
    split
    · exact .inr ⟨c, rfl, _, rfl⟩
    next m hm => exact absurd ⟨m, by rw [hm]⟩ h
  next m => exact absurd ⟨m, rfl⟩ h

/-- **Of two opposite verdicts one passes and the other one fails.** -/
theorem exclude_of_oppose (h : Verdict.Oppose v w) (hv : ¬ (ofVerdict d note v).IsBroken)
    (hw : ¬ (ofVerdict d note' w).IsBroken) :
    (ofVerdict d note v).Exclude (ofVerdict d note' w) := by
  obtain ⟨rfl, hpass⟩ | ⟨c, rfl, hfail⟩ := ofVerdict_cases hv <;>
    obtain ⟨rfl, hpass'⟩ | ⟨c', rfl, hfail'⟩ := ofVerdict_cases hw
  -- both pass
  · exact absurd rfl ((h _ _ rfl rfl).mp rfl)
  · exact .inl ⟨hpass, hfail'⟩
  · exact .inr ⟨hfail, hpass'⟩
  -- both fail
  · exact absurd ((h _ _ rfl rfl).mpr nofun) nofun

end Outcome

end Check

/-! ## Pairs of kinds -/

namespace AssertionKind

/-- Kinds that ask that a condition holds, each with the one that asks that it does not. -/
def opposites : List (AssertionKind × AssertionKind) := [
  (equals, notEquals), (same, notSame), (empty, notEmpty), (instanceOf, notInstanceOf),
  (internalType, notInternalType), (contains, notContains),
  (objectHasAttribute, objectNotHasAttribute), (count, notCount), (fileExists, fileNotExists),
  (arrayHasKey, arrayNotHasKey), (containsOnly, notContainsOnly)]

/-- The values that an assertion is called with. -/
def arguments (k : AssertionKind) (expected actual : Value) : List Value :=
  if k.isUnary then [actual] else [expected, actual]

/-- The values that are compared, but for numbers of members. -/
def compared (expected actual : Value) : AssertionKind → List Value
  | equals => [expected, actual]
  | count => [expected]
  | _ => []

end AssertionKind

namespace Check

open AssertionKind

/-- Calls the assertion of a kind with the values that it takes. -/
def outcome (s : Setting) (k : AssertionKind) (expected actual : Value) (note : Option Value) :
    Outcome :=
  assertion s k (k.arguments expected actual) note

variable {s : Setting} {k l : AssertionKind} {expected actual : Value} {note note' : Option Value}

theorem verdict?_of_isUnary (h : k.isUnary = true) (v w : Value) :
    verdict? s k v actual = verdict? s k w actual := by
  cases k <;> first | rfl | cases h

theorem outcome_eq {v : Verdict} (h : verdict? s k expected actual = some v) :
    outcome s k expected actual note = .ofVerdict s.declarations note v := by
  unfold outcome assertion arguments
  cases hunary : k.isUnary with
  | true => simp [separateNote, verdict?_of_isUnary hunary .none expected, h]
  | false => simp [separateNote, h]

/-- What two opposite kinds find out is opposite, unless there is nothing to find out about keys or
members. -/
theorem verdicts_oppose (hkl : (k, l) ∈ opposites)
    (hcompared : ∀ v ∈ k.compared expected actual, s.declarations.LeavesInequality v)
    (hsets : k = .equals → s.declarations.SetsCompareFairly actual expected)
    (hkeys : k = .arrayHasKey → HasKeys s.declarations actual)
    (hmembers : k = .containsOnly → s.declarations.items actual ≠ .ok []) :
    ∃ a b, verdict? s k expected actual = some a ∧ verdict? s l expected actual = some b
      ∧ Verdict.Oppose a b := by
  simp only [opposites, List.mem_cons, List.not_mem_nil, or_false, Prod.mk.injEq] at hkl
  obtain ⟨rfl, rfl⟩ | ⟨rfl, rfl⟩ | ⟨rfl, rfl⟩ | ⟨rfl, rfl⟩ | ⟨rfl, rfl⟩ | ⟨rfl, rfl⟩ | ⟨rfl, rfl⟩
    | ⟨rfl, rfl⟩ | ⟨rfl, rfl⟩ | ⟨rfl, rfl⟩ | ⟨rfl, rfl⟩ := hkl <;> refine ⟨_, _, rfl, rfl, ?_⟩
  -- most kinds look at the same condition
  all_goals try exact require_oppose_refuse
  · exact requireEqual_oppose (hcompared actual (by simp [compared]))
      (hcompared expected (by simp [compared])) (hsets rfl)
  · exact require_oppose_refuse.symm
  · exact .bind fun n _ => requireEqual_oppose (Declarations.leavesInequality_int n)
      (hcompared expected (by simp [compared])) (Declarations.setsCompareFairly_int n)
  · refine .bind fun r hr => ?_
    cases r with
    | some holds => exact require_oppose_refuse
    | none => exact absurd (hkeys rfl) ((hasKey_eq_ok hr).mp rfl)
  · exact requireAll_oppose (hmembers rfl)

theorem exclude_of_mem_opposites (hkl : (k, l) ∈ opposites)
    (hcompared : ∀ v ∈ k.compared expected actual, s.declarations.LeavesInequality v)
    (hsets : k = .equals → s.declarations.SetsCompareFairly actual expected)
    (hk : ¬ (outcome s k expected actual note).IsBroken)
    (hl : ¬ (outcome s l expected actual note').IsBroken)
    (hkeys : k = .arrayHasKey → HasKeys s.declarations actual)
    (hmembers : k = .containsOnly → s.declarations.items actual ≠ .ok []) :
    (outcome s k expected actual note).Exclude (outcome s l expected actual note') := by
  obtain ⟨a, b, ha, hb, hoppose⟩ := verdicts_oppose hkl hcompared hsets hkeys hmembers
  rw [outcome_eq ha] at hk ⊢
  rw [outcome_eq hb] at hl ⊢
  exact Outcome.exclude_of_oppose hoppose hk hl

/-- Neither a key nor the lack of one is found in what has no keys. -/
theorem fails_of_not_hasKeys (hk : k ∈ [arrayHasKey, arrayNotHasKey])
    (h : ¬ (outcome s k expected actual note).IsBroken)
    (hkeys : ¬ HasKeys s.declarations actual) : (outcome s k expected actual note).Fails := by
  have hneither {f : Option Bool → Verdict} (hf : f none ≠ .ok none) :
      hasKey s.declarations actual expected >>= f ≠ .ok none := by
    intro hv
    obtain ⟨r, hr, hv⟩ := bind_eq_ok_iff.mp hv
    obtain rfl : r = none := (hasKey_eq_ok hr).mpr hkeys
    exact hf hv
  obtain rfl | rfl : k = arrayHasKey ∨ k = arrayNotHasKey := by simpa using hk
  all_goals
    rw [outcome_eq rfl] at h ⊢
    obtain ⟨hv, -⟩ | ⟨-, -, hfails⟩ := Outcome.ofVerdict_cases h
    · exact absurd hv (hneither nofun)
    · exact hfails

/-- What has no members both contains only members of a type and does not. -/
theorem passed_of_items_eq_nil (hk : k ∈ [containsOnly, notContainsOnly])
    (h : s.declarations.items actual = .ok []) :
    outcome s k expected actual note = .passed := by
  obtain rfl | rfl : k = containsOnly ∨ k = notContainsOnly := by simpa using hk
  · rw [outcome_eq rfl, Outcome.ofVerdict_eq_passed_iff, requireAll_eq_ok_none_iff]
    exact ⟨[], h, nofun⟩
  · rw [outcome_eq rfl, Outcome.ofVerdict_eq_passed_iff, refuseAll, h]
    rfl

/-- A collection contains only members of a type just if each of its members is of the type. -/
theorem containsOnly_passed_iff :
    outcome s .containsOnly expected actual note = .passed
      ↔ ∃ vs, s.declarations.items actual = .ok vs
        ∧ ∀ v ∈ vs, outcome s .internalType expected v note' = .passed := by
  have htype (v : Value) : outcome s .internalType expected v note' = .passed
      ↔ s.declarations.isOfType v expected = .ok true := by
    rw [outcome_eq rfl, Outcome.ofVerdict_eq_passed_iff, require_eq_ok_none_iff]
  rw [outcome_eq rfl, Outcome.ofVerdict_eq_passed_iff, requireAll_eq_ok_none_iff]
  simp only [htype]

/-- A class has `bool` in the place of an operator, and its objects count as true, so that each
answers with yes if it is asked about itself. -/
structure AnswersYes (d : Declarations) (operator : String) (c : ClassRef) : Prop where
  operator_eq : d.special? c operator = some (.cls (.builtin "bool".toList))
  truth_eq : d.special? c "__bool__" = none
  length_eq : d.special? c "__len__" = none

section Answering

variable {d : Declarations} {c : ClassRef} {name cls : Text} {v w : Value}

theorem AnswersYes.answer?_eq {operator : String} (h : AnswersYes d operator c) :
    d.answer? operator (.object name c cls none) (.object name c cls none) = some (.ok true) := by
  have hclass : d.classOf (.object name c cls none) = c := rfl
  have htruthy : d.isTruthy (.object name c cls none) = .ok true := by
    simp [Declarations.isTruthy, hclass, h.truth_eq, h.length_eq, Value.isTruthy]
  rw [Declarations.answer?, h.operator_eq]
  exact congrArg some htruthy

theorem ownAnswer?_self {knows : PlainType → PlainType → Bool}
    {asked : Value → Value → Option (Except Misuse Bool)} {r : Except Misuse Bool}
    (h : asked v v = some r) : d.ownAnswer? knows asked asked v v = some r := by
  simp [Declarations.ownAnswer?, h]

theorem AnswersYes.equal_self (h : AnswersYes d "__eq__" c) :
    d.equal (.object name c cls none) (.object name c cls none) = .ok true :=
  Declarations.equal_of_equalAnswer? (ownAnswer?_self h.answer?_eq)

theorem AnswersYes.differ_self (h : AnswersYes d "__ne__" c) :
    d.differ (.object name c cls none) (.object name c cls none) = .ok true := by
  have hanswer : d.answerDiffers? (.object name c cls none) (.object name c cls none)
      = some (.ok true) := by
    rw [Declarations.answerDiffers?, h.answer?_eq]
    rfl
  rw [Declarations.differ, Declarations.differAnswer?, ownAnswer?_self hanswer]

/-- An object that is not asked is equal to itself. -/
theorem equal_self_of_special? (h : d.special? c "__eq__" = none) :
    d.equal (.object name c cls none) (.object name c cls none) = .ok true := by
  simp [Declarations.equal.eq_def, Declarations.equalAnswer?, Declarations.ownAnswer?,
    Declarations.answer?, h, Value.equal, Value.isObject]

theorem equals_passed (hsets : ∀ vs ws, ¬ Declarations.AreSets w v vs ws)
    (h : d.equal w v = .ok true) :
    outcome { declarations := d } .equals v w note = .passed := by
  rw [outcome_eq rfl, Outcome.ofVerdict_eq_passed_iff, requireEqual_of_not_areSets hsets, h]
  rfl

theorem notEquals_passed (h : d.differ w v = .ok true) :
    outcome { declarations := d } .notEquals v w note = .passed := by
  rw [outcome_eq rfl, Outcome.ofVerdict_eq_passed_iff, h]
  rfl

theorem notEquals_fails (h : d.differ w v = .ok false) :
    (outcome { declarations := d } .notEquals v w none).Fails := by
  rw [outcome_eq rfl, h]
  exact ⟨_, rfl⟩

end Answering

/-- What is declared by a class with `bool` in the place of an operator, and an object of it. -/
def answering (operator : String) : Declarations :=
  .withClass {} "A" [(operator.toList, .type (.builtin "bool") "<class 'bool'>")]
def answeringObject : Value := .object "a" (.declared 0) "A" none

theorem special?_answering {operator other : String} (h : other.toList ∉ ClassTable.addedNames) :
    (answering operator).special? (.declared 0) other
      = (ClassTable.kept (Declarations.bodyOf "A"
          [(operator.toList, .type (.builtin "bool") "<class 'bool'>")]).names).lookup
            other.toList :=
  Declarations.special?_withClass h

theorem answersYes_inequality : AnswersYes (answering "__ne__") "__ne__" (.declared 0) where
  operator_eq := (special?_answering (by decide)).trans rfl
  truth_eq := (special?_answering (by decide)).trans rfl
  length_eq := (special?_answering (by decide)).trans rfl

theorem answersYes_equality : AnswersYes (answering "__eq__") "__eq__" (.declared 0) where
  operator_eq := (special?_answering (by decide)).trans rfl
  truth_eq := (special?_answering (by decide)).trans rfl
  length_eq := (special?_answering (by decide)).trans rfl

/-! ### Members that answer -/

/-- What is declared by a class whose objects say of everything that it is equal to them, and have
the hash zero. -/
def agreeingAttributes : List (Text × Value) :=
  [("__eq__", .type (.builtin "type") "<class 'type'>"),
    ("__hash__", .type (.builtin "int") "<class 'int'>")]
def agreeing : Declarations := .withClass {} "A" agreeingAttributes

/-- A set with such an object, and one with two values that it agrees with. -/
def agreeingMembers : List Value := [answeringObject]
def emptyMembers : List Value := [.int 0, .str []]

theorem special?_agreeing {other : String} (h : other.toList ∉ ClassTable.addedNames) :
    agreeing.special? (.declared 0) other
      = (ClassTable.kept (Declarations.bodyOf "A" agreeingAttributes).names).lookup other.toList :=
  Declarations.special?_withClass h

theorem equalAnswer?_agreeing {w : Value} (hw : agreeing.fails w "__eq__" = false) :
    agreeing.equalAnswer? answeringObject w = some (.ok true)
    ∧ agreeing.equalAnswer? w answeringObject = some (.ok true) := by
  have hspecial : agreeing.special? (.declared 0) "__eq__"
      = some (.cls (.builtin "type".toList)) := (special?_agreeing (by decide)).trans rfl
  refine Declarations.equalAnswer?_of_answer? ?_ rfl hw
  rw [answeringObject, Declarations.answer?, hspecial]
  rfl

/-- The object has the hash of such values. -/
theorem sameHash_agreeing {w : Value} (hw : w ∈ emptyMembers) :
    agreeing.sameHash answeringObject w = true ∧ agreeing.sameHash w answeringObject = true := by
  have hown : agreeing.ownHash? answeringObject = some (.cls (.builtin "int".toList)) :=
    Declarations.ownHash?_withClass rfl
  have hothers : ∀ w ∈ emptyMembers,
      agreeing.ownHash? w = none ∧ agreeing.hashesToZero w = true := by decide
  have hne : ∀ vs, answeringObject ≠ .tuple vs := nofun
  obtain ⟨hnone, hzero⟩ := hothers w hw
  rw [Declarations.sameHash_of_ne_tuple fun vs _ h => absurd h (hne vs),
    Declarations.sameHash_of_ne_tuple fun _ ws _ => hne ws, hnone]
  simp [hown, hzero]

/-- The object is found among such values, and they are found with it. -/
theorem areFound_agreeing :
    agreeing.areFound agreeingMembers emptyMembers = .ok true
    ∧ agreeing.areFound emptyMembers agreeingMembers = .ok true := by
  have hboth : ∀ w ∈ emptyMembers, agreeing.matchesKey answeringObject w = .ok true
      ∧ agreeing.matchesKey w answeringObject = .ok true := by
    have hother : ∀ w ∈ emptyMembers, Declarations.isIdentical answeringObject w = false
        ∧ Declarations.isIdentical w answeringObject = false
        ∧ agreeing.fails w "__eq__" = false := by
      decide
    intro w hw
    obtain ⟨hleft, hright⟩ := sameHash_agreeing hw
    obtain ⟨hleft', hright', hfails⟩ := hother w hw
    obtain ⟨hanswer, hanswer'⟩ := equalAnswer?_agreeing hfails
    exact ⟨Declarations.matchesKey_of_equalAnswer? hleft' hleft hanswer,
      Declarations.matchesKey_of_equalAnswer? hright' hright hanswer'⟩
  have hmember {v : Value} (hv : v ∈ agreeingMembers) : v = answeringObject :=
    List.mem_singleton.mp hv
  constructor
  · rw [Declarations.areFound_eq (R := fun _ _ => true)
      fun v hv w hw => hmember hv ▸ (hboth w hw).2]
    rfl
  · rw [Declarations.areFound_eq (R := fun _ _ => true)
      fun v hv w hw => hmember hw ▸ (hboth v hv).1]
    rfl

theorem not_areSets_answeringObject {vs ws : List Value} :
    ¬ Declarations.AreSets answeringObject answeringObject vs ws := by
  intro h
  unfold answeringObject at h
  cases h

/-- The two values of the other set do not match each other. -/
theorem collectMembers_empty : agreeing.collectMembers emptyMembers = .ok emptyMembers := by
  have hequal : agreeing.equal (.int 0) (.str []) = .ok false := by
    rw [Declarations.equal.eq_def, Declarations.equalAnswer?_eq_none rfl rfl]
    exact congrArg Except.ok (by decide +kernel)
  have hmatches : agreeing.matchesKey (.int 0) (.str []) = .ok false := by
    rw [Declarations.matchesKey, hequal, if_neg (by decide)]
    split <;> rfl
  rw [Declarations.collectMembers, emptyMembers, List.foldlM_cons, Declarations.addMember,
    Declarations.isFound]
  change agreeing.addMember [.int 0] (.str []) >>= pure = _
  rw [Declarations.addMember, Declarations.isFound, hmatches]
  change ((agreeing.isFound (.str []) []) >>= _) >>= _ = _
  rw [Declarations.isFound]
  rfl

/-- An object that is asked only if it is equal leaves it at that. -/
theorem answeringObject_leavesInequality :
    (answering "__eq__").LeavesInequality answeringObject := by
  have hne : (answering "__eq__").special? (.declared 0) "__ne__" = none :=
    (special?_answering (by decide)).trans rfl
  refine ⟨?_, fun _ => rfl⟩
  rw [answeringObject, Declarations.fails, hne, Option.isSome_none]

theorem answeringObject_no_sets {d : Declarations} :
    d.SetsCompareFairly answeringObject answeringObject :=
  fun _ _ h => absurd h not_areSets_answeringObject

end Check

end TestSkeleton

import TestSkeleton.Proofs.Source.ClassLine
import TestSkeleton.Proofs.Source.Growth
import TestSkeleton.Proofs.Source.SingleBase
import TestSkeleton.Proofs.Text.Encoding
import TestSkeleton.Proofs.Text.Word

set_option autoImplicit false

/-! # Loading the first class of a file

The name of the first class of a file is read in its text, while its classes are made by carrying it
out. The two agree on the class: what the first class statement binds its name to is what is loaded,
unless the name is bound again, or a text in front of the statement has a line that starts like a
class statement. Then the name in that line is asked for instead (`firstClass_loaded`).
-/

namespace TestSkeleton

open Text

/-! ## What statements bind -/

namespace Item

mutual

/-- The names that a statement of a module binds in it. -/
def boundNames : Item → List Text
  | .cls name .. | .function name .. | .lambda name | .value name _ | .rename name _ => [name]
  | .load module => [((splitOn '.' module).head?).getD []]
  | .block body => allBoundNames body
  | .comment _ | .text _ | .raise .. => []

/-- The names that statements of a module bind in it. -/
def allBoundNames : List Item → List Text
  | [] => []
  | i :: is => boundNames i ++ allBoundNames is

end

end Item

namespace Execution

variable {known : Text → Bool} {s : Surroundings} {x y z : Execution} {names more : List Text}

/-- Only these names may have been bound in the module, and none inside of a class. -/
structure BindsOnly (names : List Text) (x y : Execution) : Prop where
  inside : y.locals.isSome = x.locals.isSome
  kept : x.locals.isSome = true → y.globals = x.globals
  others : ∀ n ∉ names, y.globals.lookup n = x.globals.lookup n

namespace BindsOnly

theorem refl (x : Execution) : BindsOnly [] x x := ⟨rfl, fun _ => rfl, fun _ _ => rfl⟩

theorem trans (h : BindsOnly names x y) (h' : BindsOnly more y z) :
    BindsOnly (names ++ more) x z := by
  refine ⟨h'.inside.trans h.inside, fun hx => ?_, fun n hn => ?_⟩
  · exact (h'.kept (h.inside.trans hx)).trans (h.kept hx)
  · rw [List.mem_append, not_or] at hn
    exact (h'.others n hn.2).trans (h.others n hn.1)

end BindsOnly

theorem bindsOnly_bind (hplace : s.cls = none ∨ x.locals.isSome = true) (name : Text)
    (b : Binding) : BindsOnly [name] x (x.bind (mangle s name) b) := by
  unfold bind
  cases hlocals : x.locals with
  | some names => exact ⟨by rw [hlocals]; rfl, fun _ => rfl, fun _ _ => rfl⟩
  | none =>
      have hname : mangle s name = name := by
        rcases hplace with hcls | hinside
        · rw [mangle, hcls]
          rfl
        · rw [hlocals] at hinside
          cases hinside
      refine ⟨by simp [hlocals], fun hx => ?_, fun n hn => ?_⟩
      · rw [hlocals] at hx
        cases hx
      · rw [hname]
        exact Layer.lookup_bind_of_ne (by simpa using hn)

theorem Binds.boundNames_eq {i : Item} {name : Text} {b : Binding}
    (h : Binds known s x i name b) : i.boundNames = [name] := by
  cases h with
  | load _ hpart _ => rw [Item.boundNames, hpart]
  | _ => rfl

/-- **What statements bind.** -/
theorem bindsOnly_of_runs {is : List Item} (h : Runs known s x is y)
    (hplace : s.cls = none ∨ x.locals.isSome = true) :
    BindsOnly (Item.allBoundNames is) x y := by
  induction h with
  | done => exact .refl _
  | comment _ ih | text _ ih => exact ih hplace
  | @binds s x y i name b is h _ ih =>
      have hbind := bindsOnly_bind hplace name b
      rw [Item.allBoundNames, h.boundNames_eq]
      exact hbind.trans (ih (hplace.imp_right hbind.inside.trans))
  | block _ _ ihinside ih =>
      have hinside := ihinside hplace
      exact hinside.trans (ih (hplace.imp_right hinside.inside.trans))
  | @cls s x y z w name bases doc body is bs given? maker names _ _ _ _ _ hmade _ ihinside ih =>
      -- the body binds names in the class only
      have hinside := ihinside (Or.inr rfl)
      have hglobals : z.globals = x.globals := hinside.kept rfl
      obtain ⟨table, b, rfl, -⟩ := exists_of_makeClass hmade
      have hbind := bindsOnly_bind (x := { z with table, locals := x.locals }) hplace name b
      have hclass : BindsOnly [name] x _ :=
        ⟨hbind.inside, fun hx => (hbind.kept hx).trans hglobals,
          fun n hn => (hbind.others n hn).trans (congrArg (List.lookup n) hglobals)⟩
      exact hclass.trans (ih (hplace.imp_right hclass.inside.trans))

/-- A class statement binds the name of the class. -/
theorem exists_lookup_of_class {name : Text} {bases : List Text} {doc : Option Text}
    {body : List Item} (h : (steps known {} x [.cls name bases doc body]).result = .ok y)
    (hlocals : x.locals = none) : ∃ b, y.globals.lookup name = some b := by
  cases result_steps_eq_ok_iff.mp h with
  | binds h => cases h
  | cls _ _ _ _ _ hmade rest =>
      cases rest
      obtain ⟨table, b, rfl, -⟩ := exists_of_makeClass hmade
      refine ⟨b, ?_⟩
      rw [bind, hlocals]
      exact Layer.lookup_bind_self

/-! ## Classes with an empty body -/

/-- What is bound in the body of a class without a statement. -/
def bareNames (module : Binding) (name : Text) : Layer :=
  [("__module__", module), ("__qualname__", .text name)]

/-- A class without bases. -/
def bareDraft (name : Text) (names : Layer) : ClassDraft :=
  { name, names, bases := [], maker? := some (.builtin Builtin.metaclass) }

/-- The table with a class without bases and without a statement in its body. -/
def bareTable (t : ClassTable) (module : Binding) (name : Text) : ClassTable :=
  t.withBaseless (bareDraft name (bareNames module name))

/-- A module behind the statement of such a class. -/
def withBareClass (x : Execution) (module : Binding) (name : Text) : Execution :=
  { x with
    table := bareTable x.table module name
    globals := x.globals.bind name (.cls (.declared x.table.classes.length))
    locals := none }

/-- Built-in ancestors are not told of a new class. -/
theorem tellAncestors_of_builtin {self : ClassRef} (names : List Text)
    (h : x.table.linearization self = self :: names.map .builtin) :
    x.tellAncestors self = pure () := by
  have hbehind : (self :: names.map ClassRef.builtin).dropWhile (· != self)
      = self :: names.map ClassRef.builtin := by
    simp
  unfold tellAncestors
  rw [h, hbehind]
  dsimp only
  split
  next k b hfirst =>
    obtain ⟨cls, hcls⟩ := ClassTable.firstOwner?_builtin hfirst
    cases hcls
  next => rfl

/-- The built-in classes make classes in one way. -/
theorem isPlainMaker_builtin (t : ClassTable) (maker : Text) :
    isPlainMaker t (.builtin maker) = true := by
  unfold isPlainMaker ClassTable.linearization
  simp

/-- A class without bases is bound to its name once it is made and no ancestor has anything to
say. -/
theorem makeClass_of_declare {name : Text} {layer : Layer} {table : ClassTable} {self : ClassRef}
    (hknown : x.table.isOpen (bareDraft name layer) = false)
    (hdeclare : x.table.declare (bareDraft name layer) = .ok (table, self))
    (htell : tellAncestors { x with table } self = pure ()) :
    makeClass s name none [] layer x = pure (bind (mangle s name) (.cls self) { x with table }) := by
  have hmaker : makerOf x.table none [] = .ok (.builtin Builtin.metaclass) := rfl
  have horder : { x with locals := none }.orderBy (.builtin Builtin.metaclass)
      (.declared x.table.classes.length) = .ok none := by
    rw [orderBy, ClassTable.declaredAttribute?_builtin]
  unfold makeClass
  rw [hmaker, Logged.ofExcept_ok_bind, isPlainMaker_builtin,
    if_pos (ClassTable.derivesFrom_self _ _)]
  -- one equation at a time: a computed step would make the class in the table
  extract_lets refs
  have hrefs : refs = [] := rfl
  obtain ⟨settled, hsettled, -⟩ := bind_eq_ok_iff.mp hdeclare
  have hdraft : ({ name, bases := [], names := layer, maker? := some (.builtin Builtin.metaclass) } :
      ClassDraft) = bareDraft name layer := rfl
  have hdeclare : (x.table.declare { bareDraft name layer with order? := none }).mapError
      Fault.classFault = .ok (table, self) := mapError_eq_ok_iff.mpr hdeclare
  rw [hrefs, if_neg (by decide), makeBy, hdraft, hknown, if_neg Bool.false_ne_true,
    mapError_eq_ok_iff.mpr hsettled, Logged.ofExcept_ok_bind, horder, Logged.ofExcept_ok_bind,
    hdeclare, Logged.ofExcept_ok_bind]
  simp only [htell]
  rfl

/-- Nothing of a class without bases and with an empty body is left open. -/
theorem isOpen_bareDraft (t : ClassTable) (module name : Text) :
    t.isOpen (bareDraft name (bareNames (.text module) name)) = false := by
  have hasked : (bareNames (.text module) name).any (fun a => t.asksForName a.2) = false := by
    rw [bareNames, List.any_cons, List.any_cons, ClassTable.asksForName_of_builtin rfl,
      ClassTable.asksForName_of_builtin rfl]
    rfl
  have hkept : t.keepsCount ((bareDraft name (bareNames (.text module) name)).maker?.getD
      (.builtin Builtin.metaclass)) = false := ClassTable.keepsCount_metaclass
  rw [ClassTable.isOpen, hkept, Bool.and_false, Bool.or_false]
  unfold bareDraft
  rw [hasked]
  rfl

theorem makeClass_bare {module name : Text} (hlocals : x.locals = none) :
    makeClass {} name none [] (bareNames (.text module) name) x
      = pure (x.withBareClass (.text module) name) := by
  have hdeclare : x.table.declare (bareDraft name (bareNames (.text module) name))
      = .ok (bareTable x.table (.text module) name, .declared x.table.classes.length) :=
    ClassTable.declare_of_noBase rfl rfl rfl rfl rfl
  have htell : tellAncestors { x with table := bareTable x.table (.text module) name }
      (.declared x.table.classes.length) = pure () :=
    tellAncestors_of_builtin [Builtin.object] ClassTable.linearization_withPlain
  have hbind : bind (mangle {} name) (.cls (.declared x.table.classes.length))
      { x with table := bareTable x.table (.text module) name }
      = x.withBareClass (.text module) name := by
    rw [bind, hlocals]
    rfl
  rw [makeClass_of_declare (isOpen_bareDraft _ module name) hdeclare htell, hbind]

/-- **A class without bases and with an empty body** can be made in every module whose name is a
text. -/
theorem result_step_bareClass {module name : Text} (hlocals : x.locals = none)
    (hmodule : x.globals.lookup "__name__".toList = some (.text module)) :
    (step known {} x (.cls name [] none [])).result = .ok (x.withBareClass (.text module) name) := by
  have hsimple : simple { x with locals := none } "__name__".toList = .ok (.text module) := by
    simp only [simple, Option.getD_none, List.lookup_nil, hmodule]
  have hnames : (liftM (firstNames { x with locals := none } (([] : Text) ++ name)
      (docOf none [])) : Action Layer).result = .ok (bareNames (.text module) name) := by
    rw [firstNames, hsimple]
    rfl
  rw [step]
  refine (Logged.result_bind_of_ok (a := []) rfl _).trans ?_
  refine (Logged.result_bind_of_ok (a := none) rfl _).trans ?_
  refine (Logged.result_bind_of_ok (a := .builtin Builtin.metaclass) rfl _).trans ?_
  refine (Logged.result_bind_of_ok hnames _).trans ?_
  rw [steps]
  refine (Logged.result_bind_of_ok (Logged.result_pure _) _).trans ?_
  exact congrArg Logged.result (makeClass_bare hlocals)

/-! ## Up to the first class -/

theorem result_steps_append_iff {is js : List Item} : (steps known s x (is ++ js)).result = .ok y
    ↔ ∃ z, (steps known s x is).result = .ok z ∧ (steps known s z js).result = .ok y := by
  induction is generalizing x with
  | nil => simp [steps]
  | cons i is ih =>
      simp only [List.cons_append, steps, Logged.result_bind_eq_ok_iff, ih]
      constructor
      · rintro ⟨w, hw, z, hz, hy⟩
        exact ⟨z, ⟨w, hw, hz⟩, hy⟩
      · rintro ⟨z, ⟨w, hw, hz⟩, hy⟩
        exact ⟨w, hw, z, hz, hy⟩

theorem result_steps_singleton_iff {i : Item} :
    (steps known s x [i]).result = .ok y ↔ (step known s x i).result = .ok y := by
  simp [steps, Logged.result_bind_eq_ok_iff]

theorem result_steps_cons {i : Item} {is : List Item} (h : (step known s x i).result = .ok z) :
    (steps known s x (i :: is)).result = (steps known s z is).result := by
  rw [steps, Logged.result_bind_of_ok h]

theorem result_step_comment (t : Text) : (step known s x (.comment t)).result = .ok x := by
  rw [step]
  rfl

theorem result_step_text (t : Text) : (step known s x (.text t)).result = .ok x := by
  rw [step]
  rfl

mutual

/-- **A statement with a class in it** is carried out by what is before the class, the class and
what is behind it. -/
theorem result_step_iff : ∀ {i : Item} {p : ClassPlace} {x y : Execution},
    i.firstClass? = some p → ((step known s x i).result = .ok y
      ↔ (steps known s x p.items).result = .ok y)
  | .cls .., p, x, y, hp => by
      cases hp
      exact result_steps_singleton_iff.symm
  | .block body, p, x, y, hp => by
      rw [step]
      exact result_steps_iff hp

theorem result_steps_iff : ∀ {is : List Item} {p : ClassPlace} {x y : Execution},
    Item.firstClassIn? is = some p → ((steps known s x is).result = .ok y
      ↔ (steps known s x p.items).result = .ok y)
  | i :: is, p, x, y, hp => by
      rw [Item.firstClassIn?] at hp
      rw [steps, Logged.result_bind_eq_ok_iff]
      split at hp
      next q hfirst =>
        cases hp
        have hitems : ClassPlace.items { q with after := q.after ++ is } = q.items ++ is := by
          simp [ClassPlace.items, ClassPlace.statement]
        rw [hitems, result_steps_append_iff]
        exact exists_congr fun z => and_congr_left' (result_step_iff hfirst)
      next =>
        obtain ⟨q, hq, rfl⟩ := Option.map_eq_some_iff.mp hp
        have hitems : ClassPlace.items { q with before := i :: q.before } = i :: q.items := rfl
        rw [hitems, steps, Logged.result_bind_eq_ok_iff]
        exact exists_congr fun z => and_congr_right' (result_steps_iff hq)

end

/-- A module as it is before its first statement. -/
def start (before : Execution) (o : Origin) (m : SourceModule) : Execution :=
  { before with globals := o.names m.doc, callLimit := max before.callLimit m.toText.length }

theorem result_steps_of_run {before : Execution} {o : Origin} {m : SourceModule}
    (h : (run known before o m).result = .ok y) :
    (steps known {} (before.start o m) m.items).result = .ok y := by
  unfold run at h
  split at h
  next => cases h
  next => exact h

/-- Behind a module, nothing is inside of a class if nothing was before. -/
theorem inside_of_run {before : Execution} {o : Origin} {m : SourceModule}
    (h : (run known before o m).result = .ok y) : y.locals.isSome = before.locals.isSome :=
  (bindsOnly_of_runs (result_steps_eq_ok_iff.mp (result_steps_of_run h)) (Or.inl rfl)).inside

end Execution

/-! ## Loading -/

namespace CodeBase

variable {b : CodeBase} {path : FilePath} {x y : Execution}

/-- The file has the text of the module that it holds. -/
def HoldsText (b : CodeBase) (path : FilePath) : Prop :=
  b.files.read path.toText = .ok (encode (b.moduleAt path.toText).toText)

/-- What the first class statement of a file binds its name to. -/
def firstBinding? (b : CodeBase) (path : FilePath) : Option Binding := do
  let m := b.moduleAt path.toText
  let p ← Item.firstClassIn? m.items
  let x ← (Execution.steps b.known.knows {} (b.known.start (b.fileOrigin path) m)
    (p.before ++ [p.statement])).result.toOption
  x.globals.lookup p.name

theorem locals_known (b : CodeBase) : b.known.locals = none := by
  refine importAll_keeps (P := fun z => z.locals = none) (fun x y name m hx h => ?_) b.modules rfl
  obtain ⟨z, hz, h⟩ := Logged.result_bind_eq_ok_iff.mp h
  cases h
  simpa [hx] using Execution.inside_of_run hz

/-- **What the first class statement binds stays bound**, if nothing binds its name again. -/
theorem exists_firstBinding {p : ClassPlace}
    (hp : Item.firstClassIn? (b.moduleAt path.toText).items = some p)
    (hrun : (b.runFile path).result = .ok y) (hlast : p.name ∉ Item.allBoundNames p.after) :
    ∃ v, b.firstBinding? path = some v ∧ y.globals.lookup p.name = some v := by
  have hsteps := (Execution.result_steps_iff hp).mp
    (Execution.result_steps_of_run (exists_of_runFile hrun))
  have hitems : p.items = (p.before ++ [p.statement]) ++ p.after := by simp [ClassPlace.items]
  rw [hitems, Execution.result_steps_append_iff] at hsteps
  obtain ⟨z, hz, hafter⟩ := hsteps
  obtain ⟨w, hw, hclass⟩ := Execution.result_steps_append_iff.mp hz
  have hlocals : w.locals = none := by
    have hinside := (Execution.bindsOnly_of_runs (Execution.result_steps_eq_ok_iff.mp hw)
      (Or.inl rfl)).inside
    simpa [Execution.start, b.locals_known] using hinside
  obtain ⟨v, hv⟩ :=
    Execution.exists_lookup_of_class hclass hlocals
  have hbinds := Execution.bindsOnly_of_runs (Execution.result_steps_eq_ok_iff.mp hafter)
    (Or.inl rfl)
  refine ⟨v, ?_, ?_⟩
  · simp [firstBinding?, hp, hz, hv, Except.toOption]
  · rw [hbinds.others _ hlast, hv]

theorem firstClassName_of_holdsText {n : Text} (h : b.HoldsText path)
    (hn : firstClassName? (normalizeNewlines (b.moduleAt path.toText).toText) = some n) :
    firstClassName b.files path = .ok n := by
  have hread : b.files.read path.toText = .ok (encode (b.moduleAt path.toText).toText) := h
  simp only [firstClassName, hread, decode?_encode, hn]

theorem ne_nil_of_isPlainName {n : Text} (h : n.isPlainName = true) : n ≠ [] := by
  rintro rfl
  cases h

theorem ne_firstClass_of_isPlainName {n : Text} (h : n.isPlainName = true) : n ≠ firstClass := by
  rintro rfl
  exact absurd h (by decide)

/-- A plain name is what a file is asked for. -/
theorem nameIn_of_isPlainName {n : Text} (h : n.isPlainName = true) :
    ClassRequest.nameIn ⟨n, some path⟩ b.files path = .ok n := by
  have hname : (n == firstClass) = false := beq_false_of_ne (ne_firstClass_of_isPlainName h)
  simp only [ClassRequest.nameIn, hname]
  rfl

/-- Asking for the first class of a file is asking for the name that is read in its text. -/
theorem load_firstClass {n : Text} (h : firstClassName b.files path = .ok n)
    (hn : n.isPlainName = true) :
    b.load ⟨firstClass, some path⟩ = b.load ⟨n, some path⟩ := by
  have hasked : ClassRequest.nameIn ⟨firstClass, some path⟩ b.files path = .ok n := by
    rw [ClassRequest.nameIn, if_pos (beq_self_eq_true _), h]
  have hne : firstClass ≠ [] := List.cons_ne_nil _ _
  rw [load_of_file hne, load_of_file (ne_nil_of_isPlainName hn), hasked, nameIn_of_isPlainName hn]

theorem lastPart_of_isPlainName {n : Text} (h : n.isPlainName = true) : lastPart n = n := by
  have hpoint : '.' ∉ n := fun hmem =>
    absurd (isWordChar_of_isPlainName h _ hmem) (by decide)
  have hcut : cutLast? '.' n = none := by
    cases hcut : cutLast? '.' n with
    | none => rfl
    | some r =>
        obtain ⟨hn, -⟩ := cutLast?_eq_some_iff.mp hcut
        exact absurd (hn ▸ by simp) hpoint
  rw [lastPart, hcut]

/-- A class of a file is loaded by its name. -/
theorem result_load_of_lookup {n : Text} {c : ClassRef} (hn : n.isPlainName = true)
    (hrun : (b.runFile path).result = .ok y) (hc : y.globals.lookup n = some (.cls c)) :
    (b.load ⟨n, some path⟩).result = .ok (y.sourceClass c) := by
  have hclass : (classIn y (lastPart n)).result = .ok (some (y.sourceClass c)) := by
    unfold classIn memberOf
    rw [lastPart_of_isPlainName hn, hc]
    rfl
  rw [load_of_file (ne_nil_of_isPlainName hn), hrun, nameIn_of_isPlainName hn]
  exact result_classNamed hclass _

/-- **Loading the first class of a file.** Asked for its first class, a file is asked for the first
name that a text standing by itself in front of the first class statement has in a line that starts
like a class statement. If there is no such line, the file is asked for the name of the statement;
and what the statement binds this name to is loaded, if it is a class, unless the name is bound
again behind the statement. -/
theorem firstClass_loaded {p : ClassPlace} (htext : b.HoldsText path)
    (horderly : Item.areOrderly (b.moduleAt path.toText).items = true)
    (hp : Item.firstClassIn? (b.moduleAt path.toText).items = some p)
    (hname : p.name.isPlainName = true) (hrun : (b.runFile path).result = .ok y) :
    b.load ⟨firstClass, some path⟩
      = b.load ⟨(quotedClassName? (Item.allTexts p.before)).getD p.name, some path⟩ ∧
    (quotedClassName? (Item.allTexts p.before) = none → p.name ∉ Item.allBoundNames p.after →
      (∃ v, b.firstBinding? path = some v) ∧
      ∀ c, b.firstBinding? path = some (.cls c) →
        (b.load ⟨firstClass, some path⟩).result = .ok (y.sourceClass c)) := by
  have hread := firstClassName_of_holdsText htext
    (SourceModule.firstClassName?_toText horderly hp hname)
  have hasked : b.load ⟨firstClass, some path⟩
      = b.load ⟨(quotedClassName? (Item.allTexts p.before)).getD p.name, some path⟩ := by
    refine load_firstClass hread ?_
    cases hquoted : quotedClassName? (Item.allTexts p.before) with
    | none => exact hname
    | some n => exact isPlainName_of_quotedClassName? hquoted
  refine ⟨hasked, fun hquoted hlast => ?_⟩
  obtain ⟨v, hv, hlookup⟩ := exists_firstBinding hp hrun hlast
  refine ⟨⟨v, hv⟩, fun c hc => ?_⟩
  obtain rfl : v = .cls c := Option.some.inj (hv.symm.trans hc)
  rw [hasked, hquoted]
  exact result_load_of_lookup hname hrun hlookup

end CodeBase

/-! ## A file with two classes -/

namespace ShapeFile

/-- A module with a text that stands by itself and, behind it, two classes. -/
def shapes (t : Text) : SourceModule where
  doc := some "Shapes."
  items := [.comment "class of shapes", .text t, .block [.cls "Circle" [] none []],
    .cls "Square" [] none []]

/-- The first of the classes. -/
def circlePlace (t : Text) : ClassPlace where
  before := [.comment "class of shapes", .text t]
  name := "Circle"
  bases := []
  doc := none
  body := []
  after := [.cls "Square" [] none []]

def path : FilePath := ⟨[], ["shapes.py"]⟩

/-- A file with this module. -/
def fileOf (t : Text) : CodeBase where
  files := { entries := [(["shapes.py"], .file (encode (shapes t).toText))] }
  sources := [(["shapes.py"], shapes t)]

def moduleName : Binding := .text "docassert_source.shapes"

/-- The module before its first statement, and behind each of the classes. -/
def atStart (t : Text) : Execution :=
  Execution.start {} ((fileOf t).fileOrigin path) (shapes t)
def behindCircle (t : Text) : Execution := (atStart t).withBareClass moduleName "Circle"
def atEnd (t : Text) : Execution := (behindCircle t).withBareClass moduleName "Square"

variable {t : Text}

theorem fileOf_holdsText (t : Text) : (fileOf t).HoldsText path := by
  have hpath : path.toText = "shapes.py".toList := by decide
  unfold CodeBase.HoldsText
  rw [hpath]
  rfl

theorem firstClassIn_fileOf (t : Text) :
    Item.firstClassIn? ((fileOf t).moduleAt path.toText).items = some (circlePlace t) := rfl

theorem areOrderly_fileOf (t : Text) :
    Item.areOrderly ((fileOf t).moduleAt path.toText).items = true := by
  have hshapes : (fileOf t).moduleAt path.toText = shapes t := rfl
  have hcomment : Item.isOrderly (.comment "class of shapes") = true := by decide
  rw [hshapes, shapes, Item.areOrderly, hcomment]
  rfl

theorem result_steps_shapes (t : Text) :
    (Execution.steps (fileOf t).known.knows {} (atStart t) (shapes t).items).result
      = .ok (atEnd t) := by
  have hcircle : (Execution.step (fileOf t).known.knows {} (atStart t)
      (.cls "Circle" [] none [])).result = .ok (behindCircle t) :=
    Execution.result_step_bareClass rfl rfl
  have hsquare : (Execution.step (fileOf t).known.knows {} (behindCircle t)
      (.cls "Square" [] none [])).result = .ok (atEnd t) :=
    Execution.result_step_bareClass rfl rfl
  have hplace : Item.firstClassIn? (shapes t).items = some (circlePlace t) := rfl
  have hitems : (circlePlace t).items = [.comment "class of shapes", .text t,
      .cls "Circle" [] none [], .cls "Square" [] none []] := rfl
  rw [Execution.result_steps_iff hplace, hitems,
    Execution.result_steps_cons (Execution.result_step_comment _),
    Execution.result_steps_cons (Execution.result_step_text t),
    Execution.result_steps_cons hcircle, Execution.result_steps_singleton_iff]
  exact hsquare

/-- The file can be carried out. -/
theorem result_runFile (h : (shapes t).fault? = none) :
    ((fileOf t).runFile path).result = .ok (atEnd t) := by
  have hread : (fileOf t).files.read path.toText = .ok (encode (shapes t).toText) :=
    fileOf_holdsText t
  have hshapes : (fileOf t).moduleAt path.toText = shapes t := rfl
  rw [CodeBase.runFile_of_source hread (by decide) (by decide), Logged.result_onMachine,
    Logged.result_mapError_eq_ok_iff, CodeBase.runSource, Logged.result_mapError_eq_ok_iff, hshapes]
  unfold Execution.run
  rw [h]
  exact result_steps_shapes t

theorem lookup_circle (t : Text) :
    (atEnd t).globals.lookup "Circle".toList = some (.cls (.declared 0)) := rfl

theorem lookup_square (t : Text) :
    (atEnd t).globals.lookup "Square".toList = some (.cls (.declared 1)) := rfl

theorem firstBinding_fileOf (h : (shapes t).fault? = none) :
    (fileOf t).firstBinding? path = some (.cls (.declared 0)) := by
  have hlast : "Circle".toList ∉ ["Square".toList] := by decide
  obtain ⟨v, hv, hlookup⟩ :=
    CodeBase.exists_firstBinding (firstClassIn_fileOf t) (result_runFile h) hlast
  rw [hv, ← hlookup]
  exact lookup_circle t

/-- Texts of more than one line. The second one has a line that starts like a class statement. -/
def plainText : Text := "Shapes\nwith a class each"
def quotingText : Text := "\nclass Square has corners\n"

/-- The class of the first class statement is loaded, even if it is in a block and a comment and a
text go before it. -/
theorem circle_loaded :
    (fileOf plainText).HoldsText path ∧
    (shapes plainText).fault? = none ∧
    ((fileOf plainText).load ⟨CodeBase.firstClass, some path⟩).result
      = .ok ((atEnd plainText).sourceClass (.declared 0)) := by
  have hfault : (shapes plainText).fault? = none := by decide
  have hloaded := CodeBase.firstClass_loaded (fileOf_holdsText _) (areOrderly_fileOf _)
    (firstClassIn_fileOf plainText) (by decide) (result_runFile hfault)
  exact ⟨fileOf_holdsText _, hfault,
    (hloaded.2 (by decide) (by decide)).2 _ (firstBinding_fileOf hfault)⟩

/-- **Not every file gives its first class**: a text in front of it can have a line that starts like
the statement of another one. -/
theorem quoted_class_loaded :
    ¬ ∀ (b : CodeBase) (path : FilePath) (p : ClassPlace) (y : Execution) (c : ClassRef),
      b.HoldsText path → Item.areOrderly (b.moduleAt path.toText).items = true →
      Item.firstClassIn? (b.moduleAt path.toText).items = some p → p.name.isPlainName = true →
      (b.runFile path).result = .ok y → p.name ∉ Item.allBoundNames p.after →
      b.firstBinding? path = some (.cls c) →
      (b.load ⟨CodeBase.firstClass, some path⟩).result = .ok (y.sourceClass c) := by
  intro h
  have hfault : (shapes quotingText).fault? = none := by decide
  have hname : (circlePlace quotingText).name.isPlainName = true := by decide
  have hquoted : (quotedClassName? (Item.allTexts (circlePlace quotingText).before)).getD
      (circlePlace quotingText).name = "Square".toList := by decide
  have hread : firstClassName (fileOf quotingText).files path = .ok "Square".toList := by
    rw [← hquoted]
    exact CodeBase.firstClassName_of_holdsText (fileOf_holdsText _)
      (SourceModule.firstClassName?_toText (areOrderly_fileOf _) (firstClassIn_fileOf _) hname)
  have hsquare : ((fileOf quotingText).load ⟨CodeBase.firstClass, some path⟩).result
      = .ok ((atEnd quotingText).sourceClass (.declared 1)) := by
    rw [CodeBase.load_firstClass hread (by decide)]
    exact CodeBase.result_load_of_lookup (by decide) (result_runFile hfault) (lookup_square _)
  have hcircle := h (fileOf quotingText) path (circlePlace quotingText) (atEnd quotingText)
    (.declared 0) (fileOf_holdsText _) (areOrderly_fileOf _) (firstClassIn_fileOf _) hname
    (result_runFile hfault) (by decide) (firstBinding_fileOf hfault)
  have hnames := congrArg SourceClass.name (Except.ok.inj (hsquare.symm.trans hcircle))
  exact absurd hnames (by decide)

end ShapeFile

end TestSkeleton

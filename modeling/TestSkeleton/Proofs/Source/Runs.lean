import TestSkeleton.Proofs.Event
import TestSkeleton.Source.Execution

set_option autoImplicit false

/-! # What statements do

Carrying statements out has one rule for each kind of statement that others can follow (`Runs`). The
rules hold just of the results that there are (`result_steps_eq_ok_iff`), so that what statements
leave as it was is shown by induction on a run, with the class statement as the one case that is
more than binding a name. What is said of making a class is enough for that too
(`exists_of_makeClass`).
-/

namespace TestSkeleton.Execution

open Text

variable {known : Text → Bool} {s : Surroundings} {x y z : Execution}

/-! ## Rules -/

/-- The statement binds this name to this, before names are mangled. -/
inductive Binds (known : Text → Bool) (s : Surroundings) (x : Execution) :
    Item → Text → Binding → Prop
  | function {name : Text} {doc : Option Text} {decorators : List Text} {ds : List Binding}
      {b : Binding}
      (hdecorators : (decorators.mapM fun d => x.dotted s (Item.qualifyDecorator d)).result
        = .ok ds)
      (hcalls : (ds.reverse.foldlM (fun b d => x.call d [b]) (x.function s name doc)).result
        = .ok b) :
      Binds known s x (.function name doc decorators) name b
  | lambda {name : Text} : Binds known s x (.lambda name) name (x.function s "<lambda>" none)
  | value {name : Text} {v : Value} : Binds known s x (.value name v) name (.value v)
  | rename {name t : Text} {b : Binding} (h : (x.target s t).result = .ok b) :
      Binds known s x (.rename name t) name b
  | load {module first : Text} (hmodule : findModule known (module.length + 1) module = .ok ())
      (hpart : ((splitOn '.' module).head?).getD [] = first)
      (hfirst : findModule known (first.length + 1) first = .ok ()) :
      Binds known s x (.load module) first (.module first)

/-- The statements are carried out to their end, one after the other. Behind a statement that raises
an exception nothing is. -/
inductive Runs (known : Text → Bool) :
    Surroundings → Execution → List Item → Execution → Prop
  | done {s : Surroundings} {x : Execution} : Runs known s x [] x
  | comment {s : Surroundings} {x y : Execution} {t : Text} {is : List Item}
      (rest : Runs known s x is y) : Runs known s x (.comment t :: is) y
  | text {s : Surroundings} {x y : Execution} {t : Text} {is : List Item}
      (rest : Runs known s x is y) : Runs known s x (.text t :: is) y
  | binds {s : Surroundings} {x y : Execution} {i : Item} {name : Text} {b : Binding}
      {is : List Item} (h : Binds known s x i name b)
      (rest : Runs known s (x.bind (mangle s name) b) is y) : Runs known s x (i :: is) y
  | block {s : Surroundings} {x y z : Execution} {body is : List Item}
      (inside : Runs known s x body z) (rest : Runs known s z is y) :
      Runs known s x (.block body :: is) y
  /-- The body is carried out among names of its own. Then the names around it come back and the
  class is made. -/
  | cls {s : Surroundings} {x y z w : Execution} {name : Text} {bases : List Text}
      {doc : Option Text} {body is : List Item} {bs : List Binding} {given? : Option Binding}
      {maker : ClassRef} {names : Layer}
      (hbases : ((Item.basesOf bases).mapM fun n => x.dotted s (Item.qualifyBase n)).result
        = .ok bs)
      (hgiven : ((Item.makerOf? bases).mapM (x.dotted s)).result = .ok given?)
      (hmaker : makerOf x.table given? bs = .ok maker)
      (hnames : firstNames { x with locals := none } (s.path ++ name) (docOf doc body) = .ok names)
      (inside : Runs known ⟨some name, s.path ++ name ++ ['.']⟩ { x with locals := some names }
        body z)
      (hmade : (makeClass s name given? bs (z.locals.getD []) { z with locals := x.locals }).result
        = .ok w)
      (rest : Runs known s w is y) : Runs known s x (.cls name bases doc body :: is) y

/-! ## Runs are results -/

theorem Binds.result_step {i : Item} {name : Text} {b : Binding} (h : Binds known s x i name b) :
    (step known s x i).result = .ok (x.bind (mangle s name) b) := by
  cases h with
  | function hdecorators hcalls =>
      rw [step, Logged.result_bind_of_ok hdecorators, Logged.result_bind_of_ok hcalls]
      rfl
  | lambda | value =>
      rw [step]
      rfl
  | rename h =>
      rw [step, Logged.result_bind_of_ok h]
      rfl
  | load hmodule hpart hfirst =>
      subst hpart
      rw [step]
      exact (Logged.result_bind_of_ok hmodule _).trans (Logged.result_bind_of_ok hfirst _)

mutual

theorem runs_of_step : ∀ {i : Item} {s : Surroundings} {x z : Execution},
    (step known s x i).result = .ok z →
      ∀ {is : List Item} {y : Execution}, Runs known s z is y → Runs known s x (i :: is) y
  | .cls name bases doc body, s, x, z, h => by
      rw [step] at h
      obtain ⟨bs, hbases, h⟩ := Logged.result_bind_eq_ok_iff.mp h
      obtain ⟨given, hgiven, h⟩ := Logged.result_bind_eq_ok_iff.mp h
      obtain ⟨maker, hmaker, h⟩ := Logged.result_bind_eq_ok_iff.mp h
      obtain ⟨names, hnames, h⟩ := Logged.result_bind_eq_ok_iff.mp h
      obtain ⟨w, hbody, hmade⟩ := Logged.result_bind_eq_ok_iff.mp h
      exact .cls hbases hgiven hmaker hnames (runs_of_steps hbody) hmade
  | .function name doc decorators, s, x, z, h => by
      rw [step] at h
      obtain ⟨ds, hdecorators, h⟩ := Logged.result_bind_eq_ok_iff.mp h
      obtain ⟨b, hcalls, h⟩ := Logged.result_bind_eq_ok_iff.mp h
      cases h
      exact .binds (.function hdecorators hcalls)
  | .lambda name, s, x, z, h => by
      rw [step] at h
      cases h
      exact .binds .lambda
  | .value name v, s, x, z, h => by
      rw [step] at h
      cases h
      exact .binds .value
  | .rename name t, s, x, z, h => by
      rw [step] at h
      obtain ⟨b, hb, h⟩ := Logged.result_bind_eq_ok_iff.mp h
      cases h
      exact .binds (.rename hb)
  | .comment t, s, x, z, h => by
      rw [step] at h
      cases h
      exact .comment
  | .text t, s, x, z, h => by
      rw [step] at h
      cases h
      exact .text
  | .block body, s, x, z, h => by
      rw [step] at h
      exact .block (runs_of_steps h)
  | .raise exception message, s, x, z, h => by
      rw [step] at h
      obtain ⟨cls, -, h⟩ := Logged.result_bind_eq_ok_iff.mp h
      obtain ⟨raised, -, h⟩ := Logged.result_bind_eq_ok_iff.mp h
      cases h
  | .load module, s, x, z, h => by
      rw [step] at h
      obtain ⟨⟨⟩, hmodule, h⟩ := Logged.result_bind_eq_ok_iff.mp h
      obtain ⟨⟨⟩, hfirst, h⟩ := Logged.result_bind_eq_ok_iff.mp h
      cases h
      exact .binds (.load hmodule rfl hfirst)

theorem runs_of_steps : ∀ {is : List Item} {s : Surroundings} {x y : Execution},
    (steps known s x is).result = .ok y → Runs known s x is y
  | [], s, x, y, h => by
      rw [steps] at h
      cases h
      exact .done
  | i :: is, s, x, y, h => by
      rw [steps] at h
      obtain ⟨z, hz, h⟩ := Logged.result_bind_eq_ok_iff.mp h
      exact runs_of_step hz (runs_of_steps h)

end

/-- **What statements do**: what they are carried out to is what the rules lead to. -/
theorem result_steps_eq_ok_iff {is : List Item} :
    (steps known s x is).result = .ok y ↔ Runs known s x is y := by
  refine ⟨runs_of_steps, fun h => ?_⟩
  induction h with
  | done => rw [steps]; rfl
  | comment _ ih | text _ ih =>
      rw [steps, step, Logged.result_bind_of_ok rfl]
      exact ih
  | binds h _ ih =>
      rw [steps, Logged.result_bind_of_ok h.result_step]
      exact ih
  | block _ _ ihinside ih =>
      rw [steps, step, Logged.result_bind_of_ok ihinside]
      exact ih
  | cls hbases hgiven hmaker hnames _ hmade _ ihinside ih =>
      rw [steps, step]
      refine (Logged.result_bind_of_ok ?_ _).trans ih
      rw [Logged.result_bind_of_ok hbases, Logged.result_bind_of_ok hgiven]
      refine (Logged.result_bind_of_ok hmaker _).trans ?_
      refine (Logged.result_bind_of_ok hnames _).trans ?_
      exact (Logged.result_bind_of_ok ihinside _).trans hmade

/-! ## Making a class -/

/-- Making a class ends with binding its name. The table either stays as it is or gets the one class
that is declared. -/
theorem exists_of_makeClass {name : Text} {given? : Option Binding} {bases : List Binding}
    {names : Layer} (h : (makeClass s name given? bases names x).result = .ok y) :
    ∃ table b, y = bind (mangle s name) b { x with table } ∧
      (table = x.table ∨ ∃ (d : ClassDraft) (self : ClassRef), d.names = names
        ∧ x.table.declare d = .ok (table, self)) := by
  unfold makeClass at h
  obtain ⟨maker, -, h⟩ := Logged.result_bind_eq_ok_iff.mp h
  split at h
  · cases h
  split at h
  · unfold makeBy at h
    extract_lets refs d at h
    split at h
    · cases h
    obtain ⟨settled, -, h⟩ := Logged.result_bind_eq_ok_iff.mp h
    obtain ⟨order, -, h⟩ := Logged.result_bind_eq_ok_iff.mp h
    obtain ⟨⟨table, self⟩, hdeclare, h⟩ := Logged.result_bind_eq_ok_iff.mp h
    obtain ⟨-, -, h⟩ := Logged.result_bind_eq_ok_iff.mp h
    cases h
    exact ⟨table, _, rfl, .inr ⟨_, self, rfl, mapError_eq_ok_iff.mp hdeclare⟩⟩
  · obtain ⟨made, -, h⟩ := Logged.result_bind_eq_ok_iff.mp h
    cases h
    exact ⟨x.table, made, rfl, .inl rfl⟩

end TestSkeleton.Execution

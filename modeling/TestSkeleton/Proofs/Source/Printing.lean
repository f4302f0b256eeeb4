import TestSkeleton.Proofs.Event
import TestSkeleton.Proofs.Source.Lookup
import TestSkeleton.Source.Execution

set_option autoImplicit false

/-! # Modules that write

Code that is carried out can write to the standard output. A statement that raises the value of
`print` writes its message before it fails (`step_raise_print`), unless the name has another meaning
where it stands; and a module that begins with it writes no more (`run_raise_print`).
-/

namespace TestSkeleton

open Text

/-! ## The function that writes -/

namespace Builtin

/-- The name of the function that writes. -/
def printName : Text := "print"

theorem class?_eq_none {name : String} (hrows : ∀ r ∈ rows, r.1 ≠ name)
    (hplain : ∀ r ∈ plainRows, r.1 ≠ name) : class? name.toList = none := by
  refine List.find?_eq_none.mpr fun c hc => ?_
  rcases List.mem_append.mp hc with hc | hc
  · obtain ⟨r, hr, rfl⟩ := List.mem_map.mp hc
    simpa [String.toList_inj] using hrows r hr
  · obtain ⟨r, hr, rfl⟩ := List.mem_map.mp hc
    simpa [String.toList_inj] using hplain r hr

theorem binding?_of_function {name : Text} (hother : otherNames.lookup name = none)
    (hclass : class? name = none) (hfunction : functions.contains name = true) :
    binding? name = some (.builtinFunction name) := by
  have hnamed : classNamed? name = none := by
    simp [classNamed?, hother, hclass]
  simp only [binding?, hnamed, hfunction, if_true]

theorem binding?_print : binding? printName = some (.builtinFunction printName) := by
  have hclass : class? printName = none := class?_eq_none (by decide) (by decide)
  have hfunction : functions.contains printName = true := by
    unfold functions
    rw [String.toList_ofList]
    rfl
  -- by the lemma for any name: if this one were put in, its tables would be gone through again
  exact binding?_of_function rfl hclass hfunction

end Builtin

/-- A thing of a built-in class has no operators but those of the language. -/
theorem ClassTable.declaresAny_builtin (t : ClassTable) (cls : Text) (names : List Text) :
    t.declaresAny (.builtin cls) names = false := by
  simp [declaresAny, declaredAttribute?_builtin]

theorem ClassTable.callFunction_print (t : ClassTable) (message : Text) :
    t.callFunction Builtin.printName [.text message]
      = ⟨[.textWritten (message ++ ['\n'])], .ok .nothing⟩ := by
  have hwrite : t.write [.text message] = ⟨[.textWritten (message ++ ['\n'])], .ok ()⟩ := by
    show Logged.tell (.textWritten (joinWith [' '] [message] ++ ['\n'])) = _
    rw [joinWith, List.intercalate_singleton]
    rfl
  have htext : t.hasOwnText (.text message) = false := by
    have hclass : t.classOf (.text message) = .builtin "str" := rfl
    unfold hasOwnText
    rw [hclass, declaresAny_builtin]
    rfl
  unfold callFunction
  rw [if_pos (by decide), List.any_cons, htext, List.any_nil, Bool.or_false,
    if_neg Bool.false_ne_true, hwrite]
  rfl

/-! ## Statements -/

namespace Execution

/-- The name `print` stands for the function that writes, unless it is bound. -/
theorem dotted_print {x : Execution}
    (hlocals : (x.locals.getD []).lookup Builtin.printName = none)
    (hglobals : x.globals.lookup Builtin.printName = none) :
    x.dotted {} Builtin.printName = pure (.builtinFunction Builtin.printName) := by
  have hsimple : x.simple Builtin.printName = .ok (.builtinFunction Builtin.printName) := by
    rw [simple, hlocals, hglobals, Builtin.binding?_print]
  have hnames : splitOn '.' Builtin.printName = [Builtin.printName] := by decide
  have hname : Text.isName Builtin.printName = true := by decide
  rw [dotted, hnames, List.all_cons, hname, List.all_nil]
  show (do List.foldlM x.attributeOf (← liftM (x.simple Builtin.printName)) []) = _
  rw [hsimple]
  rfl

/-- **A statement that raises the value of `print`** writes the message, and then fails since that
value is no exception. -/
theorem step_raise_print {known : Text → Bool} {x : Execution} {message : Text}
    (hlocals : (x.locals.getD []).lookup Builtin.printName = none)
    (hglobals : x.globals.lookup Builtin.printName = none) (hlimit : x.callLimit ≠ 0) :
    step known {} x (.raise Builtin.printName message)
      = ⟨[.textWritten (message ++ ['\n'])], .error .notAnException⟩ := by
  have hcall : x.call (.builtinFunction Builtin.printName) [.text message]
      = ⟨[.textWritten (message ++ ['\n'])], .ok .nothing⟩ := by
    obtain ⟨limit, hlimit⟩ := Nat.exists_eq_succ_of_ne_zero hlimit
    rw [call, hlimit, ClassTable.call]
    exact x.table.callFunction_print message
  rw [step, dotted_print hlocals hglobals]
  show (do
    let b ← x.call (.builtinFunction Builtin.printName) [.text message]
    Logged.fail (x.raisedBy b message)) = _
  rw [hcall]
  rfl

/-! ## Modules -/

/-- No module starts with a meaning of its own for `print`. -/
theorem lookup_names_print (o : Origin) (doc : Option Text) :
    (o.names doc).lookup Builtin.printName = none := by
  unfold Origin.names
  cases o.file? <;> cases o.isRead <;> rfl

/-- **A module that begins by raising the value of `print`** writes the message and fails. -/
theorem run_raise_print {known : Text → Bool} {before : Execution} {o : Origin} {m : SourceModule}
    {message : Text} {rest : List Item} (hlocals : before.locals = none) (hfault : m.fault? = none)
    (hitems : m.items = .raise Builtin.printName message :: rest) (htext : m.toText ≠ []) :
    run known before o m = ⟨[.textWritten (message ++ ['\n'])], .error .notAnException⟩ := by
  let x : Execution :=
    { before with globals := o.names m.doc, callLimit := max before.callLimit m.toText.length }
  have hlimit : x.callLimit ≠ 0 := by
    have := List.length_pos_iff.mpr htext
    show max before.callLimit m.toText.length ≠ 0
    omega
  have hstep : step known {} x (.raise Builtin.printName message)
      = ⟨[.textWritten (message ++ ['\n'])], .error .notAnException⟩ :=
    step_raise_print (by show (before.locals.getD []).lookup _ = _; rw [hlocals]; rfl)
      (lookup_names_print o m.doc) hlimit
  rw [run, hfault]
  show steps known {} x m.items = _
  rw [hitems, steps, hstep]
  rfl

end Execution

end TestSkeleton

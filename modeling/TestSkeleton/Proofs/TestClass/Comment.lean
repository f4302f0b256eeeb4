import TestSkeleton.Proofs.Annotation.Preface
import TestSkeleton.Proofs.TestClass.Text

set_option autoImplicit false

/-! # The preface as a comment

A test shows the preface of its tag as a comment in front of what it asserts, one line of the comment
for each line of the preface. Whatever the preface says, it stays in that comment: a test with a
preface is the test without it, with the lines of the comment put in front of the call
(`preface_only_adds_comment_lines`).
-/

namespace TestSkeleton

open Annotation Text

/-- What a line of a comment in the body of a test starts with. -/
def commentSign : Text := "        # "

/-- A line of a comment in the body of a test. -/
def commentLine (p : Text) : Text := commentSign ++ p ++ ['\n']

/-- A comment of several lines with an empty line behind it; nothing if there are none. -/
def commentLines (ps : List Text) : Text :=
  if ps.isEmpty then [] else ps.flatMap commentLine ++ ['\n']

theorem prefaceSeparator_eq : prefaceSeparator = ['\n'] ++ commentSign := by decide

theorem commentText_eq (preface : Text) :
    commentText preface
      = if preface.isEmpty then [] else commentSign ++ preface ++ ['\n'] ++ ['\n'] := by
  have hend : ("\n\n" : Text) = ['\n'] ++ ['\n'] := by decide
  rw [commentText, hend, ← List.append_assoc]
  rfl

/-- Between its first sign of a comment and a line feed at its end, the joined text is made of
lines of a comment. -/
theorem joinWith_prefaceSeparator (p : Text) (ps : List Text) :
    commentSign ++ joinWith prefaceSeparator (p :: ps) ++ ['\n'] = (p :: ps).flatMap commentLine := by
  induction ps generalizing p with
  | nil => rw [joinWith_singleton, List.flatMap_singleton, commentLine]
  | cons q ps ih =>
      rw [List.flatMap_cons, ← ih q, joinWith_cons_cons, commentLine]
      generalize joinWith prefaceSeparator (q :: ps) = rest
      rw [prefaceSeparator_eq]
      simp only [List.append_assoc]

/-- **The text of a preface makes one line of the comment for each of its lines.** -/
theorem commentText_prefaceText {t : Tag} (h : ∀ p ∈ t.preface, IsTrimmedLine p) :
    commentText t.prefaceText = commentLines t.preface := by
  rw [prefaceText_eq h, commentText_eq, commentLines]
  cases hlines : t.preface with
  | nil => rfl
  | cons p ps =>
      have hp : p ≠ [] := (h p (by rw [hlines]; exact List.mem_cons_self)).ne_nil
      have hnonempty : (joinWith prefaceSeparator (p :: ps)).isEmpty = false :=
        List.isEmpty_eq_false_iff.mpr (joinWith_cons_ne_nil prefaceSeparator hp ps)
      rw [hnonempty, joinWith_prefaceSeparator]
      rfl

/-- **A preface never becomes code.** Take any tag of any doc comment. Each line of its preface is a
single line, and if there are any, the text of the preface parts into exactly these lines at the
separator. A test that is rendered with this text from a packaged template for assertions, whatever
the other values, is the test without a preface, with one line of a comment for each line of the
preface and an empty line put in front of the call; without lines of preface nothing is put there. -/
theorem preface_only_adds_comment_lines {doc : Text} {ts : List Tag} (hread : extract doc = .ok ts)
    {t : Tag} (ht : t ∈ ts) :
    (∀ p ∈ t.preface, IsLine p) ∧
    (t.preface ≠ [] → pieces prefaceSeparator t.prefaceText = t.preface) ∧
    ∀ (className name : Text) (m : Method) (a : Assertion),
      a.template ≠ .incomplete → a.template ≠ .testClass →
        ∃ head : Text,
          (TemplateLibrary.packaged.renderer
              ((PlannedMethod.mk name m (some ([], a))).request className)).result
            = .ok (head ++ a.text (callText a.template.isOnClass className m.name a.arguments)) ∧
          (TemplateLibrary.packaged.renderer
              ((PlannedMethod.mk name m (some (t.prefaceText, a))).request className)).result
            = .ok (head ++ commentLines t.preface
              ++ a.text (callText a.template.isOnClass className m.name a.arguments)) := by
  have htrimmed := preface_trimmed_of_extract hread ht
  refine ⟨fun p hp => (htrimmed p hp).isLine, pieces_prefaceText htrimmed, ?_⟩
  intro className name m a hincomplete hclass
  have hrender : ∀ preface, (TemplateLibrary.packaged.renderer
      ((PlannedMethod.mk name m (some (preface, a))).request className)).result
      = .ok (headText "from @assert for" className m.name name ++ commentText preface
        ++ a.text (callText a.template.isOnClass className m.name a.arguments)) := by
    intro preface
    refine PlannedMethod.result_renderer_packaged (fun x hx => ?_) className
    obtain rfl := Option.some.inj hx
    exact ⟨hincomplete, hclass⟩
  refine ⟨headText "from @assert for" className m.name name, ?_, ?_⟩
  · rw [hrender, commentText_eq]
    simp
  · rw [hrender, commentText_prefaceText htrimmed]

/-- A doc comment whose preface tries to end the doc comment of the test, to break its line and to
be read as a template. -/
def sneakyComment : Text :=
  "@assert-odd Quits.\u000b\"\"\" import os\u2028\x7b\x7b os \x7d\x7d # exit()\n(1) == 1"

/-- The tag in it. -/
def sneakyTag : Tag where
  note := some "odd"
  preface := ["Quits.", "\"\"\" import os", "\x7b\x7b os \x7d\x7d # exit()"]
  expression := "(1) == 1"
  raw := unlines ["@assert-odd Quits.", "\"\"\" import os", "\x7b\x7b os \x7d\x7d # exit()",
    "(1) == 1"]

/-- The assertion of the tag, about an instance. -/
def sneakyAssertion : Assertion := ⟨.equals, "1", "1", .generic, false⟩

theorem sneakyTag_only_adds_comment_lines :
    extract sneakyComment = .ok [sneakyTag] ∧ sneakyTag ∈ [sneakyTag] ∧
    pieces prefaceSeparator sneakyTag.prefaceText = sneakyTag.preface ∧
    ∃ head : Text,
      (TemplateLibrary.packaged.renderer ((PlannedMethod.mk "Get" { name := "get" }
          (some ([], sneakyAssertion))).request "Box")).result
        = .ok (head ++ sneakyAssertion.text "self.object.get(1)") ∧
      (TemplateLibrary.packaged.renderer ((PlannedMethod.mk "Get" { name := "get" }
          (some (sneakyTag.prefaceText, sneakyAssertion))).request "Box")).result
        = .ok (head ++ unlines ["        # Quits.", "        # \"\"\" import os",
            "        # \x7b\x7b os \x7d\x7d # exit()", "", ""]
          ++ sneakyAssertion.text "self.object.get(1)") := by
  have hread : extract sneakyComment = .ok [sneakyTag] := by decide +kernel
  have hmem : sneakyTag ∈ [sneakyTag] := List.mem_cons_self
  obtain ⟨-, hpieces, hrender⟩ := preface_only_adds_comment_lines hread hmem
  exact ⟨hread, hmem, hpieces (List.cons_ne_nil _ _),
    hrender "Box" "Get" { name := "get" } sneakyAssertion (by decide) (by decide)⟩

end TestSkeleton

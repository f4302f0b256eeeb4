import TestSkeleton.Proofs.Template.Rendering
import TestSkeleton.Template.Library

set_option autoImplicit false

/-! # The pieces of the packaged templates

What the packaged templates are read as. The tags in them take their lines along, so that nothing
but the text between the marks is left. The methods with assertions share their pieces and differ in the
call that they make, which in turn differs between instances and classes in its receiver only.
-/

namespace TestSkeleton

namespace TemplateKind

/-! ## Parts -/

/-- The head of a test method. -/
def headPieces (origin behind : Text) : Template :=
  [.text "\n    def test", .value (.name "methodName"),
    .text ("(self):\n        \"\"\"Generated " ++ origin ++ " "), .value (.name "className"),
    .text ".", .value (.name "origMethodName"), .text (".\"\"\"\n" ++ behind)]

/-- The preface as a comment, if there is one. -/
def commentPieces : Template :=
  [.branch (.name "preface") [.text "        # ", .value (.name "preface"), .text "\n\n"] []]

/-- The receiver of a call behind some text: the class, or else the instance under test. -/
def receiverPieces (before : Text) : Bool → Template
  | true => [.text before, .value (.name "className"), .text "."]
  | false => [.text (before ++ ("self.object" ++ "."))]

/-- A call of the method under test between two texts. -/
def callPieces (onClass : Bool) (before behind : Text) : Template :=
  receiverPieces before onClass
    ++ [.value (.name "origMethodName"), .text "(", .value (.name "arguments"),
      .text (")" ++ behind)]

/-- A test method with an assertion that some pieces make. -/
def assertionPieces (pieces : Template) : Template :=
  headPieces "from @assert for" [] ++ (commentPieces ++ pieces)

/-! ## Templates -/

/-- The pieces of a template that compares an expected value with the result of a call. -/
def genericPieces (onClass : Bool) : Template :=
  assertionPieces ([.text "        self.assert", .value (.name "assertion"),
    .text "(\n            ", .value (.name "expected")]
      ++ callPieces onClass ",\n            " ",\n        )\n")

/-- The pieces of a template that looks at the result of a call. -/
def booleanPieces (onClass : Bool) : Template :=
  assertionPieces ([.text "        self.assert", .value (.name "assertion")]
    ++ callPieces onClass "(" ")\n")

/-- The pieces of a template that expects a call to raise an exception. -/
def exceptionPieces (onClass : Bool) : Template :=
  assertionPieces ([.text "        with self.assertRaises(", .value (.name "expected")]
    ++ callPieces onClass "):\n            " "\n")

/-- The pieces of the template of a placeholder. -/
def incompletePieces : Template :=
  headPieces "for"
    "        self.markTestIncomplete(\"This test has not been implemented yet.\")\n"

/-- The pieces of the template of the test class. -/
def testClassPieces : Template :=
  [.text "\"\"\"Generated by docassert ", .value (.name "version"), .text " on ",
    .value (.name "date"), .text " at ", .value (.name "time"), .text ".\"\"\"\n",
    .value (.name "namespace_declaration"),
    .text "\nfrom docassert.testing import SkeletonTestCase\n\n\nclass ",
    .value (.name "testClassName"), .text "(SkeletonTestCase):\n    \"\"\"Tests for ",
    .value (.name "className"), .text ".\"\"\"\n\n    def setUp(self):\n        self.object = ",
    .value (.name "className"), .text "(", .value (.name "constructorArgs"), .text ")\n",
    .branch (.name "methods") [.text [], .value (.name "methods"), .text "\n"] []]

/-- The pieces of the template of a kind. -/
def pieces : TemplateKind → Template
  | generic => genericPieces false
  | genericStatic => genericPieces true
  | boolean => booleanPieces false
  | booleanStatic => booleanPieces true
  | exception => exceptionPieces false
  | exceptionStatic => exceptionPieces true
  | incomplete => incompletePieces
  | testClass => testClassPieces

/-! ## Reading

The texts are taken apart into their characters first, on which the reader runs. -/

section Reading

set_option maxRecDepth 4000

theorem ofText?_generic :
    Template.ofText? generic.packagedText = some (genericPieces false)
      ∧ Template.ofText? genericStatic.packagedText = some (genericPieces true) := by
  unfold packagedText assertionMethod methodHead prefaceComment genericCall callOn instanceReceiver
    classReceiver
  repeat rw [String.toList_append]
  repeat rw [String.toList_ofList]
  exact ⟨rfl, rfl⟩

theorem ofText?_boolean :
    Template.ofText? boolean.packagedText = some (booleanPieces false)
      ∧ Template.ofText? booleanStatic.packagedText = some (booleanPieces true) := by
  unfold packagedText assertionMethod methodHead prefaceComment booleanCall callOn instanceReceiver
    classReceiver
  repeat rw [String.toList_append]
  repeat rw [String.toList_ofList]
  exact ⟨rfl, rfl⟩

theorem ofText?_exception :
    Template.ofText? exception.packagedText = some (exceptionPieces false)
      ∧ Template.ofText? exceptionStatic.packagedText = some (exceptionPieces true) := by
  unfold packagedText assertionMethod methodHead prefaceComment exceptionCall callOn
    instanceReceiver classReceiver
  repeat rw [String.toList_append]
  repeat rw [String.toList_ofList]
  exact ⟨rfl, rfl⟩

theorem ofText?_incomplete :
    Template.ofText? incomplete.packagedText = some incompletePieces := by
  unfold packagedText methodHead
  repeat rw [String.toList_append]
  repeat rw [String.toList_ofList]
  rfl

theorem ofText?_testClass :
    Template.ofText? testClass.packagedText = some testClassPieces := by
  unfold packagedText testClassText
  rw [String.toList_ofList]
  rfl

end Reading

/-- **The packaged templates are read as their pieces.** -/
theorem ofText?_packagedText (k : TemplateKind) :
    Template.ofText? k.packagedText = some k.pieces := by
  cases k with
  | generic => exact ofText?_generic.1
  | genericStatic => exact ofText?_generic.2
  | boolean => exact ofText?_boolean.1
  | booleanStatic => exact ofText?_boolean.2
  | exception => exact ofText?_exception.1
  | exceptionStatic => exact ofText?_exception.2
  | incomplete => exact ofText?_incomplete
  | testClass => exact ofText?_testClass

theorem hasAsciiNames_pieces (k : TemplateKind) : k.pieces.HasAsciiNames := by
  cases k <;> decide +kernel

end TemplateKind

namespace TemplateLibrary

theorem source_packaged (k : TemplateKind) :
    packaged.source (templateFile k.name) = .ok k.packagedText := by
  cases k <;> rfl

theorem ofText_packagedText (k : TemplateKind) : Template.ofText k.packagedText = .ok k.pieces := by
  rw [Template.ofText, TemplateKind.ofText?_packagedText]

end TemplateLibrary

end TestSkeleton

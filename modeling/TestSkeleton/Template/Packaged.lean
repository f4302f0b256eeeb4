import TestSkeleton.Assertion.Template

set_option autoImplicit false

/-! # The packaged templates

The text of the template of each kind. The methods differ only in what they do; each starts with an
empty line and its head, and assertions show their preface as a comment.
-/

namespace TestSkeleton.TemplateKind

/-- The head of a test method, whose doc comment says what it was `origin` for. -/
def methodHead (origin : String) : String :=
  "
    def test\x7b\x7b methodName \x7d\x7d(self):
        \"\"\"Generated " ++ origin ++ " \x7b\x7b className \x7d\x7d.\x7b\x7b origMethodName \x7d\x7d.\"\"\"
"

/-- The preface of an assertion as a comment, with an empty line behind it. -/
def prefaceComment : String :=
  "\x7b% if preface %\x7d
        # \x7b\x7b preface \x7d\x7d

\x7b% endif %\x7d
"

/-- The template of a method with an assertion. -/
def assertionMethod (call : String) : String :=
  methodHead "from @assert for" ++ prefaceComment ++ call

/-- The call of the method under test on a receiver. -/
def callOn (receiver : String) : String :=
  receiver ++ ".\x7b\x7b origMethodName \x7d\x7d(\x7b\x7b arguments \x7d\x7d)"

/-- The instance that a test calls methods on. -/
def instanceReceiver : String := "self.object"

/-- The class as the receiver of calls. -/
def classReceiver : String := "\x7b\x7b className \x7d\x7d"

/-- Compares the expected value with the result of a call. -/
def genericCall (receiver : String) : String :=
  "        self.assert\x7b\x7b assertion \x7d\x7d(
            \x7b\x7b expected \x7d\x7d,
            " ++ callOn receiver ++ ",
        )
"

/-- Looks at the result of a call. -/
def booleanCall (receiver : String) : String :=
  "        self.assert\x7b\x7b assertion \x7d\x7d(" ++ callOn receiver ++ ")
"

/-- Expects a call to raise an exception. -/
def exceptionCall (receiver : String) : String :=
  "        with self.assertRaises(\x7b\x7b expected \x7d\x7d):
            " ++ callOn receiver ++ "
"

/-- The template of the test class. -/
def testClassText : String :=
  "\"\"\"Generated by docassert \x7b\x7b version \x7d\x7d on \x7b\x7b date \x7d\x7d at \x7b\x7b time \x7d\x7d.\"\"\"
\x7b\x7b namespace_declaration \x7d\x7d
from docassert.testing import SkeletonTestCase


class \x7b\x7b testClassName \x7d\x7d(SkeletonTestCase):
    \"\"\"Tests for \x7b\x7b className \x7d\x7d.\"\"\"

    def setUp(self):
        self.object = \x7b\x7b className \x7d\x7d(\x7b\x7b constructorArgs \x7d\x7d)
\x7b% if methods %\x7d
\x7b\x7b methods \x7d\x7d
\x7b% endif %\x7d
"

/-- The text of the packaged template of a kind. -/
def packagedText : TemplateKind → String
  | generic => assertionMethod (genericCall instanceReceiver)
  | genericStatic => assertionMethod (genericCall classReceiver)
  | boolean => assertionMethod (booleanCall instanceReceiver)
  | booleanStatic => assertionMethod (booleanCall classReceiver)
  | exception => assertionMethod (exceptionCall instanceReceiver)
  | exceptionStatic => assertionMethod (exceptionCall classReceiver)
  | incomplete =>
    methodHead "for"
      ++ "        self.markTestIncomplete(\"This test has not been implemented yet.\")\n"
  | testClass => testClassText

/-- All kinds of templates. -/
def all : List TemplateKind :=
  [generic, genericStatic, boolean, booleanStatic, exception, exceptionStatic, incomplete,
    testClass]

end TestSkeleton.TemplateKind

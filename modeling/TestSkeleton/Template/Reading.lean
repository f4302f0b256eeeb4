import TestSkeleton.Template.Basic
import TestSkeleton.Template.Token

set_option autoImplicit false

/-! # Reading templates

A template is read from its tokens. Expressions are names, literals and what `not`, `and` and `or`
make of them, the first binding most tightly; the only tags are those of conditional parts and those
for templates in other files, which are named by literals. The language of templates has more than
that, and a template that is not read is malformed only if it uses none of it (`usesMore`).
-/

namespace TestSkeleton

open TemplateToken

namespace TemplateExpression

/-- The constant that a word stands for, if any. -/
def constant? (w : Text) : Option Value :=
  [(("true" : Text), Value.bool true), ("True", .bool true), ("false", .bool false),
    ("False", .bool false), ("none", .none), ("None", .none)].lookup w

/-- Reads string literals, which are joined if they stand side by side. -/
def leadingStrings : List TemplateToken → Text × List TemplateToken
  | string t :: ts => let (u, rest) := leadingStrings ts; (t ++ u, rest)
  | ts => ([], ts)

/-- What an expression is read as: a chain of operands between `or`, one between `and`, or a single
operand. -/
inductive Level where
  | disjunction | conjunction | operand

/-- Reads an expression at the start of some tokens, in as many steps as `fuel`. -/
def read? : Nat → Level → List TemplateToken → Option (TemplateExpression × List TemplateToken)
  | 0, _, _ => none
  | fuel + 1, .disjunction, ts => do
    let (e, rest) ← read? fuel .conjunction ts
    match rest with
    | word ['o', 'r'] :: rest' =>
      let (f, rest'') ← read? fuel .disjunction rest'
      return (.or e f, rest'')
    | _ => return (e, rest)
  | fuel + 1, .conjunction, ts => do
    let (e, rest) ← read? fuel .operand ts
    match rest with
    | word ['a', 'n', 'd'] :: rest' =>
      let (f, rest'') ← read? fuel .conjunction rest'
      return (.and e f, rest'')
    | _ => return (e, rest)
  | fuel + 1, .operand, ts =>
    match ts with
    | word ['n', 'o', 't'] :: rest => do
      let (e, rest') ← read? fuel .operand rest
      return (.not e, rest')
    | word w :: rest =>
      match constant? w with
      | some v => some (.constant v, rest)
      | none => some (.name w, rest)
    | string t :: rest =>
      let (u, rest') := leadingStrings rest
      some (.constant (.str (t ++ u)), rest')
    | number n :: rest => some (.constant (.int n), rest)
    | sign '(' :: rest => do
      let (e, rest') ← read? fuel .disjunction rest
      match rest' with
      | sign ')' :: rest'' => return (e, rest'')
      | _ => none
    | _ => none

/-- Reads an expression at the start of some tokens. Each token takes at most three steps. -/
def ofTokens? (ts : List TemplateToken) : Option (TemplateExpression × List TemplateToken) :=
  read? (3 * ts.length + 3) .disjunction ts

end TemplateExpression

namespace TemplatePiece

/-- The words that end a conditional part. -/
def endWords : List Text := ["elif", "else", "endif"]

/-- Reads the end of a tag, before which a colon may stand. -/
def tagEnd? : List TemplateToken → Option (List TemplateToken)
  | tagClose :: ts => some ts
  | sign ':' :: tagClose :: ts => some ts
  | _ => none

/-- Reads the name of another file up to the end of its tag. -/
def partEnd? : List TemplateToken → Option (Text × List TemplateToken)
  | .string t :: ts =>
    match TemplateExpression.leadingStrings ts with
    | (u, tagClose :: rest) => some (t ++ u, rest)
    | _ => none
  | _ => none

mutual

/-- Reads pieces up to the end of the tokens or to a tag that ends a conditional part. -/
def readAll? : Nat → List TemplateToken → Option (List TemplatePiece × List TemplateToken)
  | 0, _ => none
  | fuel + 1, ts =>
    match ts with
    | [] => some ([], [])
    | .text t :: rest => do
      let (ps, rest') ← readAll? fuel rest
      return (.text t :: ps, rest')
    | .valueOpen :: rest => do
      let (e, rest') ← TemplateExpression.ofTokens? rest
      match rest' with
      | .valueClose :: rest'' =>
        let (ps, rest''') ← readAll? fuel rest''
        return (.value e :: ps, rest''')
      | _ => none
    | .tagOpen :: .word w :: rest =>
      if w == "if".toList then do
        let (p, rest') ← readBranch? fuel rest
        let (ps, rest'') ← readAll? fuel rest'
        return (p :: ps, rest'')
      else if w == "include".toList then do
        let (file, rest') ← partEnd? rest
        let (ps, rest'') ← readAll? fuel rest'
        return (.part file :: ps, rest'')
      else if w ∈ endWords then some ([], ts)
      else none
    | _ => none

/-- Reads a conditional part behind the word `if` or `elif`. -/
def readBranch? : Nat → List TemplateToken → Option (TemplatePiece × List TemplateToken)
  | 0, _ => none
  | fuel + 1, ts => do
    let (condition, rest) ← TemplateExpression.ofTokens? ts
    let (yes, rest) ← readAll? fuel (← tagEnd? rest)
    match rest with
    | .tagOpen :: .word w :: rest =>
      if w == "elif".toList then do
        let (p, rest) ← readBranch? fuel rest
        return (.branch condition yes [p], rest)
      else if w == "else".toList then do
        let (no, rest) ← readAll? fuel (← tagEnd? rest)
        match rest with
        | .tagOpen :: .word w :: .tagClose :: rest =>
          if w == "endif".toList then return (.branch condition yes no, rest) else none
        | _ => none
      else
        match rest with
        | .tagClose :: rest => return (.branch condition yes [], rest)
        | _ => none
    | _ => none

end

end TemplatePiece

namespace TemplateToken

/-- The words of tags that are not read here. -/
def furtherTags : List Text :=
  ["for", "block", "extends", "print", "macro", "from", "import", "set", "with", "autoescape", "call",
    "filter"]

/-- The words that are not read as names or constants inside of expressions. -/
def furtherWords : List Text := ["if", "else", "is", "in"]

/-- Whether a token ends an operand, so that what is behind it can be arguments of a call. -/
def endsOperand : TemplateToken → Bool
  | word w => !(["not".toList, "and".toList, "or".toList].contains w)
  | string _ | number _ | sign ')' => true
  | _ => false

/-- Whether a template with these tokens uses more of the language than is read here: further tags,
words or signs, calls, lists, or numbers in other forms. -/
def usesMore : List TemplateToken → Bool
  | [] => false
  | tagOpen :: word w :: ts =>
    furtherTags.contains w || (w == "include".toList && (TemplatePiece.partEnd? ts).isNone)
      || usesMore ts
  | number _ :: word _ :: _ => true
  | sign '(' :: sign ')' :: _ => true
  | t :: ts =>
    (match t with
      | word w => furtherWords.contains w
      | sign c => !(['(', ')', ':'].contains c)
      | _ => false)
      || (endsOperand t && ts.head? == some (sign '(')) || usesMore ts

end TemplateToken

/-- Reads a template of which no more is used than is read here. -/
def Template.ofText? (t : Text) : Option Template := do
  let tokens ← TemplateToken.ofText? t
  match ← TemplatePiece.readAll? (2 * tokens.length + 2) tokens with
  | (pieces, []) => return pieces
  | _ => none

/-- Reads a template, or tells why it cannot be read. -/
def Template.ofText (t : Text) : Except RenderFault Template :=
  match ofText? t with
  | some template => .ok template
  | none => .error (if (TemplateToken.ofText? t).any TemplateToken.usesMore then .unknown
    else .malformed)

end TestSkeleton

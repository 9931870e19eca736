import DocPipeline.Text.Blank

/-!
# Node paths

A node path names elements of a document by the way that leads to them: `/a/b` from the root,
`//item` from anywhere, `item/sub` from the children of the root, with `*` for any name. A double
slash in front of a step lets it be any number of levels further down.

## Main definitions

* `NodePath`: a path as an origin, a first test and the steps behind it.
* `NodePath.parse`: the path that a text writes, or why it writes none.
* `NodePath.toString`: the text of a path.
-/

namespace DocPipeline

/-- How far a step leads from an element: to its children, or to any element within it. -/
inductive Axis where
  | child
  | descendant
deriving DecidableEq, Repr

/-- Which elements a step accepts. -/
inductive NameTest where
  | any
  | named (name : String)
deriving DecidableEq, Repr

/-- One step of a path. -/
structure PathStep where
  axis : Axis
  test : NameTest
deriving DecidableEq, Repr

/-- Where the first test of a path looks. -/
inductive Origin where
  /-- At the root element only. -/
  | root
  /-- At the root element and all elements within it. -/
  | anywhere
  /-- At the children of the root element. -/
  | belowRoot
deriving DecidableEq, Repr

/-- A path through a document. -/
structure NodePath where
  origin : Origin
  first : NameTest
  rest : List PathStep
deriving DecidableEq, Repr

/-- Why a text is no path. -/
inductive PathFault where
  | emptyPath
  | emptyStep
  | unsupportedStep (segment : String)
deriving DecidableEq, Repr

/-- A fault in words. -/
def PathFault.message : PathFault → String
  | .emptyPath => "path is empty"
  | .emptyStep => "empty step"
  | .unsupportedStep segment => s!"unsupported step '{segment}'"

namespace NodePath

/-! ### Names -/

/-- A character that a name may start with. -/
def isNameStart (c : Char) : Bool := c.isAlpha || c = '_'

/-- A character that a name may go on with. -/
def isNameChar (c : Char) : Bool := c.isAlphanum || c = '_' || c = '.' || c = '-'

/-- A name without a colon. -/
def isSimpleName : List Char → Bool
  | [] => false
  | c :: cs => isNameStart c && cs.all isNameChar

/-- A name, or two names with a colon between them. -/
def isName (cs : List Char) : Bool :=
  match cs.dropWhile (· ≠ ':') with
  | [] => isSimpleName cs
  | _ :: localPart => isSimpleName (cs.takeWhile (· ≠ ':')) && isSimpleName localPart

/-- The test that a segment of a path writes. -/
def readTest (segment : List Char) : Except PathFault NameTest :=
  match segment with
  | [] => .error .emptyStep
  | ['*'] => .ok .any
  | c :: cs =>
    if isName (c :: cs) then .ok (.named (String.ofList (c :: cs)))
    else .error (.unsupportedStep (String.ofList (c :: cs)))

/-! ### Reading -/

/-- The segments of a path, each with the axis that its separator asks for. `axis` is the axis of
the segment being read and `segment` what is read of it, latest character first. -/
def segments (axis : Axis) (segment : List Char) : List Char → List (Axis × List Char)
  | [] => [(axis, segment.reverse)]
  | '/' :: '/' :: cs => (axis, segment.reverse) :: segments .descendant [] cs
  | '/' :: cs => (axis, segment.reverse) :: segments .child [] cs
  | c :: cs => segments axis (c :: segment) cs

/-- The step that a segment writes. -/
def readStep (segment : Axis × List Char) : Except PathFault PathStep :=
  (readTest segment.2).map (⟨segment.1, ·⟩)

/-- The origin that the start of a path writes, and the text behind it. -/
def readOrigin : List Char → Origin × List Char
  | '/' :: '/' :: cs => (.anywhere, cs)
  | '/' :: cs => (.root, cs)
  | cs => (.belowRoot, cs)

/-- The path that characters without blanks at their ends write. -/
def ofChars (cs : List Char) : Except PathFault NodePath :=
  if cs.isEmpty then .error .emptyPath
  else
    let (origin, body) := readOrigin cs
    match segments .child [] body with
    | [] => .error .emptyStep
    | first :: rest => do
      let test ← readTest first.2
      let steps ← rest.mapM readStep
      .ok ⟨origin, test, steps⟩

/-- The path that a text writes, blanks at its ends aside. -/
def parse (expression : String) : Except PathFault NodePath :=
  ofChars (Text.trimChars expression.toList)

/-! ### Writing -/

/-- The text of a test. -/
def writeTest : NameTest → List Char
  | .any => ['*']
  | .named name => name.toList

/-- The separator that stands in front of a step. -/
def writeAxis : Axis → List Char
  | .child => ['/']
  | .descendant => ['/', '/']

/-- The start of a path. -/
def writeOrigin : Origin → List Char
  | .root => ['/']
  | .anywhere => ['/', '/']
  | .belowRoot => []

/-- The text of a path, as characters. -/
def toChars (path : NodePath) : List Char :=
  writeOrigin path.origin ++ writeTest path.first ++
    path.rest.flatMap fun step => writeAxis step.axis ++ writeTest step.test

/-- The text of a path. -/
protected def toString (path : NodePath) : String := String.ofList path.toChars

end NodePath

end DocPipeline

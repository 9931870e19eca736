import DocPipeline.Json.Token

/-!
# Drafts of JSON values

A draft is a JSON text taken apart into containers and leaves, before anybody reads its leaves. Its
strings may spell no text and its numbers may be too large for a value; whether that matters
depends on who reads them.

Drafts are put together from tokens one at a time. The containers that are open are held in a
list, so texts may nest to any depth.

## Main definitions

* `Json.Draft.ofTokens?`: the one draft that a list of tokens writes.
-/

namespace DocPipeline.Json

/-- A JSON text taken apart, its leaves unread. -/
inductive Draft where
  | null
  | bool (value : Bool)
  | number (numeral : Numeral)
  | string (text : Option String)
  | array (items : List Draft)
  | object (fields : List (Option String × Draft))
deriving Inhabited

namespace Draft

/-- A container that is not closed yet, what it holds so far latest first. -/
inductive Frame where
  | array (items : List Draft)
  | object (fields : List (Option String × Draft))
  /-- An object whose latest field has its name but not yet its value. -/
  | field (fields : List (Option String × Draft)) (name : Option String)

/-- What may come next in a text. -/
inductive Expected where
  /-- A value. -/
  | value
  /-- A value, or the end of the array that was just opened. -/
  | itemOrEnd
  /-- The name of a field, or the end of the object that was just opened. -/
  | nameOrEnd
  /-- The name of a field. -/
  | name
  /-- The colon behind the name of a field. -/
  | colon
  /-- A comma, or the end of the innermost container. -/
  | commaOrEnd
  /-- Nothing: the text is a whole value. -/
  | nothing (whole : Draft)

/-- A text read in part: the containers still open, innermost first, and what may come next. -/
structure Assembly where
  frames : List Frame
  expected : Expected

/-- Before the first token a value is expected. -/
def Assembly.start : Assembly := ⟨[], .value⟩

/-- A finished value goes into the innermost open container, or is the whole text. -/
def Assembly.finishValue (value : Draft) : List Frame → Option Assembly
  | [] => some ⟨[], .nothing value⟩
  | .array items :: frames => some ⟨.array (value :: items) :: frames, .commaOrEnd⟩
  | .field fields name :: frames => some ⟨.object ((name, value) :: fields) :: frames, .commaOrEnd⟩
  | .object _ :: _ => none

/-- A value starts: a leaf is finished at once, a bracket opens a container. -/
def Assembly.startValue (frames : List Frame) : Token → Option Assembly
  | .null => finishValue .null frames
  | .bool value => finishValue (.bool value) frames
  | .number numeral => finishValue (.number numeral) frames
  | .string text => finishValue (.string text) frames
  | .openArray => some ⟨.array [] :: frames, .itemOrEnd⟩
  | .openObject => some ⟨.object [] :: frames, .nameOrEnd⟩
  | _ => none

/-- The innermost container ends with the bracket that belongs to it. -/
def Assembly.close : Token → List Frame → Option Assembly
  | .closeArray, .array items :: frames => finishValue (.array items.reverse) frames
  | .closeObject, .object fields :: frames => finishValue (.object fields.reverse) frames
  | _, _ => none

/-- The name of a field of the innermost container. -/
def Assembly.startField : Token → List Frame → Option Assembly
  | .string name, .object fields :: frames => some ⟨.field fields name :: frames, .colon⟩
  | _, _ => none

/-- One more token. -/
def Assembly.step (assembly : Assembly) (token : Token) : Option Assembly :=
  match assembly.expected with
  | .value => startValue assembly.frames token
  | .itemOrEnd =>
    if token = .closeArray then close token assembly.frames else startValue assembly.frames token
  | .nameOrEnd =>
    if token = .closeObject then close token assembly.frames else startField token assembly.frames
  | .name => startField token assembly.frames
  | .colon => if token = .colon then some ⟨assembly.frames, .value⟩ else none
  | .commaOrEnd =>
    if token = .comma then
      match assembly.frames with
      | .array items :: frames => some ⟨.array items :: frames, .value⟩
      | .object fields :: frames => some ⟨.object fields :: frames, .name⟩
      | _ => none
    else close token assembly.frames
  | .nothing _ => none

/-- The whole value, once there is one. -/
def Assembly.result? (assembly : Assembly) : Option Draft :=
  match assembly.expected with
  | .nothing whole => some whole
  | _ => none

/-- The one draft that a list of tokens writes. -/
def ofTokens? (tokens : List Token) : Option Draft :=
  (tokens.foldlM Assembly.step Assembly.start).bind Assembly.result?

end Draft

end DocPipeline.Json

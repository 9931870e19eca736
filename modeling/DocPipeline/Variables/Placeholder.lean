import DocPipeline.NameMap

/-!
# Placeholders

A placeholder `${name}` in a value stands for the value of a variable. Every text splits in one way
into placeholders and other characters, read from the left; both the names that a text refers to
and its expansion are taken from that split.

## Main definitions

* `Placeholder.pieces`: the split of a text.
* `Placeholder.references`: the names that a text refers to, in order.
* `Placeholder.expand`: a text with the known names replaced by their values.
-/

namespace DocPipeline

/-- The variables of a run: names and their values. -/
abbrev Variables := NameMap String

namespace Placeholder

/-- A part of a text: a character that stands for itself, or a placeholder. -/
inductive Piece where
  | char (c : Char)
  | reference (name : String)
deriving DecidableEq, Repr

/-- A character that the name in a placeholder may have. -/
def isNameChar (c : Char) : Bool := c.isAlphanum || c = '_' || c = '.' || c = '-'

/-- The name of the placeholder that a text starts with, and the text behind it. -/
def leading? : List Char → Option (List Char × List Char)
  | '$' :: '\x7b' :: cs =>
    match cs.takeWhile isNameChar, cs.dropWhile isNameChar with
    | c :: name, '\x7d' :: rest => some (c :: name, rest)
    | _, _ => none
  | _ => none

/-- What stands behind a placeholder is less than there was. -/
theorem leading?_length {cs name rest : List Char} (h : leading? cs = some (name, rest)) :
    rest.length < cs.length := by
  unfold leading? at h
  split at h
  · rename_i body
    split at h
    · rename_i hd
      simp only [Option.some.injEq, Prod.mk.injEq] at h
      have := (List.dropWhile_sublist (l := body) isNameChar).length_le
      rw [hd, h.2] at this
      simp only [List.length_cons] at this ⊢
      omega
    · cases h
  · cases h

/-- The pieces of a text behind those already `found`, latest first. -/
def piecesFrom (found : List Piece) (cs : List Char) : List Piece :=
  match _h : leading? cs with
  | some (name, rest) => piecesFrom (.reference (String.ofList name) :: found) rest
  | none =>
    match cs with
    | [] => found.reverse
    | c :: rest => piecesFrom (.char c :: found) rest
termination_by cs.length
decreasing_by
  · exact leading?_length _h
  · exact Nat.lt_succ_self _

/-- The pieces of a text, from the left. -/
def pieces (value : String) : List Piece := piecesFrom [] value.toList

/-- The name of a piece that is a placeholder. -/
def Piece.name? : Piece → Option String
  | .char _ => none
  | .reference name => some name

/-- The names that a text refers to, in order and as often as it does. -/
def references (value : String) : List String := (pieces value).filterMap Piece.name?

/-- A piece with its placeholder replaced, or as it is written if its name is unknown. -/
def Piece.expand (vars : Variables) : Piece → List Char
  | .char c => [c]
  | .reference name =>
    match vars.get? name with
    | some value => value.toList
    | none => '$' :: '\x7b' :: name.toList ++ ['\x7d']

/-- A text with the known names replaced by their values. What is put in is not read again. -/
def expand (value : String) (vars : Variables) : String :=
  String.ofList ((pieces value).flatMap (Piece.expand vars))

end Placeholder

/-- A way to expand values: what becomes of a value under given variables, and the names that it
refers to as far as that is known. -/
structure Expander where
  expand : String → Variables → String
  references : String → List String

namespace Expander

/-- Expansion of placeholders. -/
def placeholders : Expander := ⟨Placeholder.expand, Placeholder.references⟩

/-- An expander that doubles a value a number of times over and knows of no references. -/
def repeating (times : Nat) : Expander where
  expand value _ := String.join (List.replicate times value)
  references _ := []

/-- An expander that turns a value around and knows of no references. -/
def reversing : Expander where
  expand value _ := String.ofList value.toList.reverse
  references _ := []

end Expander

end DocPipeline

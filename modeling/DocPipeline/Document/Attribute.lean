import DocPipeline.Document.Reference
import DocPipeline.Document.Token

/-!
# Attributes

The name of a tag runs up to its first space; behind it stand the attributes. An attribute is a
key, an equals sign and a value in quotes, with spaces allowed around the equals sign and none
needed between one attribute and the next. A key has one character at least, whichever that is,
and goes on to the next space or equals sign.

## Main definitions

* `Markup.tagName`: the name of a tag.
* `Markup.readAttributes`: the attributes of a tag, in order.
-/

namespace DocPipeline.Markup

/-- The name of a tag: everything up to its first space. -/
def tagName (tag : List Char) : List Char := tag.takeWhile (!isSpace ·)

/-- What stands behind the name of a tag. -/
def tagRest (tag : List Char) : List Char := tag.dropWhile (!isSpace ·)

/-- Ends the key of an attribute. -/
def endsKey (c : Char) : Bool := c = '=' || isSpace c

/-- The attribute whose key starts with `c` and goes on in `cs`: its key, its value with the
references unread, and the rest of the text behind the closing quote. -/
def firstAttribute (c : Char) (cs : List Char) :
    Except ContentFault (List Char × List Char × List Char) :=
  let key := c :: cs.takeWhile (!endsKey ·)
  match (cs.dropWhile (!endsKey ·)).dropWhile isSpace with
  | '=' :: behind =>
    match behind.dropWhile isSpace with
    | quote :: value =>
      if quote = '"' ∨ quote = '\'' then
        match value.dropWhile (· ≠ quote) with
        | [] => .error (.unclosedValue (String.ofList key))
        | _ :: rest => .ok (key, value.takeWhile (· ≠ quote), rest)
      else .error (.missingQuote (String.ofList key))
    | [] => .error (.missingQuote (String.ofList key))
  | _ => .error (.missingEquals (String.ofList key))

/-- What stands behind an attribute is less than there was. -/
theorem firstAttribute_length {c : Char} {cs key value rest : List Char}
    (h : firstAttribute c cs = .ok (key, value, rest)) : rest.length < cs.length := by
  simp only [firstAttribute] at h
  split at h
  · rename_i behind hb
    split at h
    · rename_i quote body hq
      split at h
      · split at h
        · cases h
        · rename_i last hr
          simp only [Except.ok.injEq, Prod.mk.injEq] at h
          obtain ⟨-, -, rfl⟩ := h
          have one := (List.dropWhile_sublist (l := cs) (!endsKey ·)).length_le
          have two := (List.dropWhile_sublist (l := cs.dropWhile (!endsKey ·)) isSpace).length_le
          have three := (List.dropWhile_sublist (l := behind) isSpace).length_le
          have four := (List.dropWhile_sublist (l := body) (· ≠ quote)).length_le
          rw [hb] at two
          rw [hq] at three
          rw [hr] at four
          simp only [List.length_cons] at two three four
          omega
      · cases h
    · cases h
  · cases h

/-- The attributes of a text behind those already `found`, latest first. A key that is already
there is refused, and so is a value with a reference that stands for no character. -/
def readAttributesFrom (found : List (String × String)) (cs : List Char) :
    Except ContentFault (List (String × String)) :=
  match _behind : cs.dropWhile isSpace with
  | [] => .ok found.reverse
  | c :: tail =>
    match _h : firstAttribute c tail with
    | .error fault => .error fault
    | .ok (key, raw, rest) =>
      if (found.any fun e => e.1 == String.ofList key) then
        .error (.repeatedKey (String.ofList key))
      else
        match unescape? raw with
        | none => .error .badReference
        | some value => readAttributesFrom ((String.ofList key, String.ofList value) :: found) rest
termination_by cs.length
decreasing_by
  have one := firstAttribute_length _h
  have two := (List.dropWhile_sublist (l := cs) isSpace).length_le
  rw [_behind, List.length_cons] at two
  omega

/-- The attributes of a tag, in order. -/
def readAttributes (cs : List Char) : Except ContentFault (List (String × String)) :=
  readAttributesFrom [] cs

end DocPipeline.Markup

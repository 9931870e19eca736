import DocPipeline.Json.Value
import DocPipeline.Number.Decimal

/-!
# JSON values as texts

The compact text of a value: no blanks, fields in the order in which they are listed, and in texts
only what has to be escaped escaped.

A number that is not whole has a point or an exponent even if nothing stands behind it but zero, so
that it is not read as a whole number again.
-/

namespace DocPipeline

namespace Json

/-- The written form of one character of a text. -/
def escapeChar (c : Char) : String :=
  if c = '"' then "\\\""
  else if c = '\\' then "\\\\"
  else if c.toNat < 0x20 then
    let digits := Nat.toDigits 16 c.toNat
    "\\u" ++ String.ofList (List.replicate (4 - digits.length) '0' ++ digits)
  else c.toString

/-- `out` with a text behind it, between quotes. -/
def writeString (out : String) (s : String) : String :=
  (s.toList.foldl (fun out c => out ++ escapeChar c) (out.push '"')).push '"'

mutual

/-- `out` with a value behind it. -/
def write (out : String) : Json → String
  | .null => out ++ "null"
  | .bool b => out ++ if b then "true" else "false"
  | .int n => out ++ toString n
  | .real x => out ++ x.toText
  | .str s => writeString out s
  | .arr items => (writeItems (out.push '[') true items).push ']'
  | .obj fields => (writeFields (out.push '\x7b') true fields).push '\x7d'

/-- `out` with the items of an array behind it; the first one needs no comma. -/
def writeItems (out : String) (first : Bool) : List Json → String
  | [] => out
  | item :: items => writeItems (write (if first then out else out.push ',') item) false items

/-- `out` with the fields of an object behind it; the first one needs no comma. -/
def writeFields (out : String) (first : Bool) : List (String × Json) → String
  | [] => out
  | (name, value) :: fields =>
    let out := writeString (if first then out else out.push ',') name
    writeFields (write (out.push ':') value) false fields

end

/-- The compact text of a value. -/
def toText (json : Json) : String := write "" json

end Json

end DocPipeline

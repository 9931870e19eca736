import DocPipeline.Document.Parse
import DocPipeline.Document.Write
import DocPipeline.Proofs.Document.Reference
import Mathlib.Data.List.TakeWhile

/-!
# Tags read back

A tag ends at the first closing bracket that is not within quotes. So a tag whose quotes pair up,
with closing brackets in them only, is cut out of the text at its own bracket, and it gives the name
and the attributes that it was written with. Tags with plain names are like that, whatever their
attribute values are.

## Main definitions

* `Markup.isPlain`: names that can be told from the marks around them.
* `Markup.writeTag`: what stands between the brackets of a tag.
* `Markup.IsBalanced`: texts that a tag can be made of.
* `Markup.IsName`, `Markup.IsKey`: names and keys as tags have them.

## Main results

* `Markup.splitTag?_eq_some_iff`: where a tag ends.
* `Markup.readAttributesFrom_induction`: induction on attributes that were read.
* `Markup.readAttributes_written`: attributes are read as they were written.
* `Markup.tagElement_writeTag`: the element that a written tag starts.
-/

namespace DocPipeline.Markup

/-! ### Plain names -/

/-- A character that names are made of: no space, no bracket or quote, and none of `/=!?`. -/
def isPlainChar (c : Char) : Bool :=
  !isSpace c && !isMark c && c != '/' && c != '=' && c != '!' && c != '?'

/-- A name that can be told from the marks around it. -/
def isPlain (name : String) : Bool := !name.toList.isEmpty && name.toList.all isPlainChar

/-- What a plain character is not. -/
theorem isPlainChar_iff {c : Char} :
    isPlainChar c = true ↔
      isSpace c = false ∧ isMark c = false ∧ c ≠ '/' ∧ c ≠ '=' ∧ c ≠ '!' ∧ c ≠ '?' := by
  simp [isPlainChar, and_assoc]

/-- A plain name has a first character, and all of its characters are plain. -/
theorem exists_of_isPlain {name : String} (plain : isPlain name = true) :
    ∃ c cs, name.toList = c :: cs ∧ ∀ d ∈ c :: cs, isPlainChar d = true := by
  rw [isPlain, Bool.and_eq_true, List.all_eq_true] at plain
  obtain ⟨nonempty, all⟩ := plain
  cases chars : name.toList with
  | nil => simp [chars] at nonempty
  | cons c cs => exact ⟨c, cs, rfl, fun d mem => all d (by rw [chars]; exact mem)⟩

theorem plain_of_mem {name : String} (plain : isPlain name = true) {c : Char}
    (mem : c ∈ name.toList) : isPlainChar c = true := by
  rw [isPlain, Bool.and_eq_true, List.all_eq_true] at plain
  exact plain.2 c mem

/-! ### Where a tag ends -/

/-- What stands between the brackets of a tag. -/
def writeTag (name : String) (attributes : List (String × String)) : List Char :=
  name.toList ++ attributes.flatMap writeAttribute

/-- The quote that is open behind a text, given the quote that is open in front of it. There is no
telling if a closing bracket stands outside of quotes. -/
def quoteBehind : (quote : Option Char) → List Char → Option (Option Char)
  | quote, [] => some quote
  | none, c :: cs =>
    if c = '>' then none else quoteBehind (if c = '"' ∨ c = '\'' then some c else none) cs
  | some quote, c :: cs => quoteBehind (if c = quote then none else some quote) cs

/-- The quotes of a text pair up, and closing brackets stand within quotes only. -/
def IsBalanced (cs : List Char) : Prop := quoteBehind none cs = some none

theorem quoteBehind_append (quote : Option Char) (first second : List Char) :
    quoteBehind quote (first ++ second) =
      (quoteBehind quote first).bind (quoteBehind · second) := by
  induction first generalizing quote with
  | nil => cases quote <;> rfl
  | cons c first ih =>
      cases quote with
      | none =>
          rw [List.cons_append, quoteBehind, quoteBehind]
          split
          · rfl
          · exact ih _
      | some quote => exact ih _

/-- **A tag ends** at the first closing bracket that is not within quotes. -/
theorem splitTag?_eq_some_iff {quote : Option Char} {passed cs content rest : List Char} :
    splitTag? quote passed cs = some (content, rest) ↔
      ∃ inner, content = passed.reverse ++ inner ∧ cs = inner ++ '>' :: rest ∧
        quoteBehind quote inner = some none := by
  induction cs generalizing quote passed with
  | nil => cases quote <;> simp [splitTag?]
  | cons c cs ih =>
      have moved (next : Option Char) :
          splitTag? next (c :: passed) cs = some (content, rest) ↔
            ∃ inner, content = passed.reverse ++ c :: inner ∧ cs = inner ++ '>' :: rest ∧
              quoteBehind next inner = some none := by
        simp [ih]
      -- the text in front of the bracket is empty, or it starts with the first character
      cases quote with
      | none =>
          rw [splitTag?]
          split
          · next closes =>
              subst closes
              constructor
              · intro found
                obtain ⟨rfl, rfl⟩ : passed.reverse = content ∧ cs = rest := by simpa using found
                exact ⟨[], by simp, rfl, rfl⟩
              · rintro ⟨_ | ⟨d, inner⟩, rfl, same, closed⟩
                · obtain ⟨-, rfl⟩ := List.cons.inj same
                  simp
                · obtain ⟨rfl, -⟩ := List.cons.inj same
                  cases closed
          · next stays =>
              rw [moved]
              constructor
              · rintro ⟨inner, rfl, rfl, closed⟩
                exact ⟨c :: inner, rfl, rfl, by rw [quoteBehind, if_neg stays, closed]⟩
              · rintro ⟨_ | ⟨d, inner⟩, rfl, same, closed⟩
                · exact absurd (List.cons.inj same).1 stays
                · obtain ⟨rfl, rfl⟩ := List.cons.inj same
                  rw [quoteBehind, if_neg stays] at closed
                  exact ⟨inner, rfl, rfl, closed⟩
      | some quote =>
          rw [splitTag?, moved]
          constructor
          · rintro ⟨inner, rfl, rfl, closed⟩
            exact ⟨c :: inner, rfl, rfl, closed⟩
          · rintro ⟨_ | ⟨d, inner⟩, rfl, same, closed⟩
            · cases closed
            · obtain ⟨rfl, rfl⟩ := List.cons.inj same
              exact ⟨inner, rfl, rfl, closed⟩

/-- A balanced text is cut off at the bracket behind it. -/
theorem splitTag?_of_isBalanced {cs : List Char} (balanced : IsBalanced cs) (rest : List Char) :
    splitTag? none [] (cs ++ '>' :: rest) = some (cs, rest) := by
  rw [splitTag?_eq_some_iff]
  exact ⟨cs, rfl, rfl, balanced⟩

/-- What stands between brackets is balanced. -/
theorem isBalanced_of_splitTag? {cs content rest : List Char}
    (cut : splitTag? none [] cs = some (content, rest)) :
    IsBalanced content ∧ cs = content ++ '>' :: rest := by
  rw [splitTag?_eq_some_iff] at cut
  obtain ⟨inner, rfl, rfl, closed⟩ := cut
  exact ⟨closed, rfl⟩

/-- A balanced text in front of another makes no difference. -/
theorem isBalanced_append_iff {first second : List Char} (balanced : IsBalanced first) :
    IsBalanced (first ++ second) ↔ IsBalanced second := by
  rw [IsBalanced, quoteBehind_append, balanced]
  rfl

theorem IsBalanced.append {first second : List Char} (balanced : IsBalanced first)
    (others : IsBalanced second) : IsBalanced (first ++ second) :=
  (isBalanced_append_iff balanced).mpr others

/-- Without brackets and quotes, nothing changes. -/
theorem quoteBehind_unmarked {cs : List Char} (unmarked : ∀ c ∈ cs, isMark c = false)
    {quote : Option Char} (quotes : ∀ c, quote = some c → isMark c = true) :
    quoteBehind quote cs = some quote := by
  induction cs with
  | nil => cases quote <;> rfl
  | cons c cs ih =>
      have others := ih fun d mem => unmarked d (List.mem_cons_of_mem _ mem)
      have notMark := unmarked c List.mem_cons_self
      cases quote with
      | none =>
          simp only [isMark, Bool.or_eq_false_iff, decide_eq_false_iff_not] at notMark
          obtain ⟨⟨⟨-, notClose⟩, notDouble⟩, notSingle⟩ := notMark
          have noQuote : ¬(c = '"' ∨ c = '\'') := by simp [notDouble, notSingle]
          rw [quoteBehind, if_neg notClose, if_neg noQuote, others]
      | some quote =>
          have other : c ≠ quote := by
            rintro rfl
            rw [quotes c rfl] at notMark
            cases notMark
          rw [quoteBehind, if_neg other, others]

theorem isBalanced_of_unmarked {cs : List Char} (unmarked : ∀ c ∈ cs, isMark c = false) :
    IsBalanced cs :=
  quoteBehind_unmarked unmarked (by simp)

/-- A quote that is open is a mark. -/
theorem isMark_of_quoteBehind {cs : List Char} {quote behind : Option Char}
    (quotes : ∀ c, quote = some c → isMark c = true) (reads : quoteBehind quote cs = some behind) :
    ∀ c, behind = some c → isMark c = true := by
  induction cs generalizing quote with
  | nil =>
      obtain rfl : quote = behind := by
        cases quote <;> exact Option.some.inj reads
      exact quotes
  | cons c cs ih =>
      cases quote with
      | none =>
          rw [quoteBehind] at reads
          split at reads
          · cases reads
          · refine ih (fun d opened => ?_) reads
            split at opened
            · next quote =>
                obtain rfl := Option.some.inj opened
                rcases quote with rfl | rfl <;> rfl
            · cases opened
      | some open' =>
          rw [quoteBehind] at reads
          refine ih (fun d opened => ?_) reads
          split at opened
          · cases opened
          · exact quotes d opened

/-- Without brackets and quotes, the end of a balanced text makes no difference. -/
theorem isBalanced_of_append_unmarked {cs more : List Char}
    (unmarked : ∀ c ∈ more, isMark c = false) (balanced : IsBalanced (cs ++ more)) :
    IsBalanced cs := by
  rw [IsBalanced, quoteBehind_append] at balanced
  cases reads : quoteBehind none cs with
  | none =>
      rw [reads] at balanced
      cases balanced
  | some quote =>
      rw [reads] at balanced
      have quotes := isMark_of_quoteBehind (by simp) reads
      rw [IsBalanced, reads, ← balanced]
      exact (quoteBehind_unmarked unmarked quotes).symm

/-- Within double quotes, all up to the next of them is passed. -/
theorem quoteBehind_quoted {cs : List Char} (unquoted : '"' ∉ cs) :
    quoteBehind (some '"') (cs ++ ['"']) = some none := by
  induction cs with
  | nil => rfl
  | cons c cs ih =>
      rw [List.mem_cons, not_or] at unquoted
      obtain ⟨other, unquoted⟩ := unquoted
      rw [List.cons_append, quoteBehind, if_neg (Ne.symm other)]
      exact ih unquoted

/-- Escaped text may stand in double quotes. -/
theorem quote_notMem_escape (cs : List Char) : '"' ∉ escape cs := by
  intro mem
  have := escape_spares mem
  contradiction

/-- An attribute with a plain key is balanced. -/
theorem isBalanced_writeAttribute {pair : String × String} (plain : isPlain pair.1 = true) :
    IsBalanced (writeAttribute pair) := by
  have unmarked : ∀ c ∈ ' ' :: pair.1.toList ++ ['='], isMark c = false := by
    intro c mem
    simp only [List.cons_append, List.mem_cons, List.mem_append, List.not_mem_nil, or_false] at mem
    rcases mem with rfl | mem | rfl
    · rfl
    · exact (isPlainChar_iff.mp (plain_of_mem plain mem)).2.1
    · rfl
  have cut : writeAttribute pair =
      (' ' :: pair.1.toList ++ ['=']) ++ '"' :: (escape pair.2.toList ++ ['"']) := by
    simp [writeAttribute]
  rw [cut, isBalanced_append_iff (isBalanced_of_unmarked unmarked)]
  exact quoteBehind_quoted (quote_notMem_escape _)

theorem isBalanced_of_isPlain {name : String} (plain : isPlain name = true) :
    IsBalanced name.toList :=
  isBalanced_of_unmarked fun _ mem => (isPlainChar_iff.mp (plain_of_mem plain mem)).2.1

/-- **A tag with plain names is balanced.** -/
theorem isBalanced_writeTag {name : String} {attributes : List (String × String)}
    (plainName : isPlain name = true) (plainKeys : ∀ pair ∈ attributes, isPlain pair.1 = true) :
    IsBalanced (writeTag name attributes) := by
  rw [writeTag, isBalanced_append_iff (isBalanced_of_isPlain plainName)]
  induction attributes with
  | nil => rfl
  | cons pair attributes ih =>
      exact (isBalanced_writeAttribute (plainKeys pair List.mem_cons_self)).append
        (ih fun other mem => plainKeys other (List.mem_cons_of_mem _ mem))

/-! ### What a tag says -/

/-- A name as tags have them: there is no space in it, and it does not start like other markup. -/
structure IsName (name : String) : Prop where
  noSpace : ∀ c ∈ name.toList, isSpace c = false
  starts : ∀ c, name.toList.head? = some c → c ≠ '!' ∧ c ≠ '?' ∧ c ≠ '/'

/-- A key as attributes have them: some character, and then all up to a space or an equals sign. -/
def IsKey (key : String) : Prop :=
  ∃ c cs, key.toList = c :: cs ∧ isSpace c = false ∧ ∀ d ∈ cs, endsKey d = false

theorem isName_of_isPlain {name : String} (plain : isPlain name = true) : IsName name where
  noSpace c mem := (isPlainChar_iff.mp (plain_of_mem plain mem)).1
  starts c first := by
    obtain ⟨-, -, noSlash, -, noBang, noQuestion⟩ :=
      isPlainChar_iff.mp (plain_of_mem plain (List.mem_of_head? first))
    exact ⟨noBang, noQuestion, noSlash⟩

theorem isKey_of_isPlain {key : String} (plain : isPlain key = true) : IsKey key := by
  obtain ⟨c, cs, chars, plainChars⟩ := exists_of_isPlain plain
  refine ⟨c, cs, chars, (isPlainChar_iff.mp (plainChars c List.mem_cons_self)).1, ?_⟩
  intro d mem
  obtain ⟨noSpace, -, -, noEquals, -⟩ :=
    isPlainChar_iff.mp (plainChars d (List.mem_cons_of_mem _ mem))
  simp [endsKey, noSpace, noEquals]

/-- Taking from a list what lies in front of the first element that is refused. -/
theorem takeWhile_append_cons (p : Char → Bool) {cs : List Char} (all : ∀ c ∈ cs, p c = true)
    {stop : Char} (stops : p stop = false) (rest : List Char) :
    (cs ++ stop :: rest).takeWhile p = cs ∧ (cs ++ stop :: rest).dropWhile p = stop :: rest := by
  rw [List.takeWhile_append_of_pos all, List.dropWhile_append_of_pos all]
  simp [stops]

/-- An attribute in double quotes is read up to its closing quote. -/
theorem firstAttribute_written {c : Char} {cs value : List Char}
    (inKey : ∀ d ∈ cs, endsKey d = false) (unquoted : '"' ∉ value) (rest : List Char) :
    firstAttribute c (cs ++ '=' :: '"' :: (value ++ '"' :: rest)) = .ok (c :: cs, value, rest) := by
  have goesOn : ∀ d ∈ cs, (!endsKey d) = true := by
    intro d mem
    rw [inKey d mem]
    rfl
  have inValue : ∀ d ∈ value, decide (d ≠ '"') = true := by
    intro d mem
    rw [decide_eq_true_eq]
    rintro rfl
    exact unquoted mem
  have equalsEnds : (!endsKey '=') = false := by decide
  have quoteEnds : decide ('"' ≠ '"') = false := by decide
  obtain ⟨key, behindKey⟩ :=
    takeWhile_append_cons (!endsKey ·) goesOn equalsEnds ('"' :: (value ++ '"' :: rest))
  obtain ⟨inside, behind⟩ := takeWhile_append_cons (· ≠ '"') inValue quoteEnds rest
  have equals : List.dropWhile isSpace ('=' :: '"' :: (value ++ '"' :: rest)) =
      '=' :: '"' :: (value ++ '"' :: rest) := rfl
  have quote : List.dropWhile isSpace ('"' :: (value ++ '"' :: rest)) =
      '"' :: (value ++ '"' :: rest) := rfl
  rw [firstAttribute, key, behindKey, equals]
  simp only [quote, true_or, reduceIte, inside, behind]

/-- A written attribute without the space in front of it. -/
theorem dropWhile_writeAttribute {pair : String × String} {c : Char} {cs : List Char}
    (chars : pair.1.toList = c :: cs) (noSpace : isSpace c = false) (rest : List Char) :
    (writeAttribute pair ++ rest).dropWhile isSpace =
      c :: (cs ++ '=' :: '"' :: (escape pair.2.toList ++ '"' :: rest)) := by
  have space : isSpace ' ' = true := rfl
  simp [writeAttribute, chars, noSpace, space]

/-- Behind the last attribute there are spaces only. -/
theorem readAttributesFrom_of_blank {found : List (String × String)} {cs : List Char}
    (ends : cs.dropWhile isSpace = []) : readAttributesFrom found cs = .ok found.reverse := by
  rw [readAttributesFrom]
  split
  · rfl
  · next behind =>
      rw [ends] at behind
      cases behind

/-- One attribute after the other is read. -/
theorem readAttributesFrom_of_cons {found : List (String × String)} {cs tail : List Char} {c : Char}
    (behind : cs.dropWhile isSpace = c :: tail) :
    readAttributesFrom found cs =
      match firstAttribute c tail with
      | .error fault => .error fault
      | .ok (key, raw, rest) =>
        if (found.any fun e => e.1 == String.ofList key) then
          .error (.repeatedKey (String.ofList key))
        else
          match unescape? raw with
          | none => .error .badReference
          | some value =>
            readAttributesFrom ((String.ofList key, String.ofList value) :: found) rest := by
  rw [readAttributesFrom]
  split
  · next ends =>
      rw [behind] at ends
      cases ends
  · next d others same =>
      rw [behind] at same
      obtain ⟨rfl, rfl⟩ := List.cons.inj same
      split
      · next fault failed => rw [failed]
      · next key raw rest read => exact read ▸ rfl

/-- **Induction on the attributes that were read**: behind the last of them there are spaces only,
and each was read in front of the others. -/
theorem readAttributesFrom_induction {attributes : List (String × String)}
    {motive : List (String × String) → List Char → Prop}
    (blank : ∀ cs, cs.dropWhile isSpace = [] → motive attributes.reverse cs)
    (cons : ∀ found cs c tail key raw rest value, cs.dropWhile isSpace = c :: tail →
      firstAttribute c tail = .ok (key, raw, rest) →
      (found.any fun e => e.1 == String.ofList key) = false → unescape? raw = some value →
      motive ((String.ofList key, String.ofList value) :: found) rest → motive found cs)
    {found : List (String × String)} {cs : List Char}
    (reads : readAttributesFrom found cs = .ok attributes) : motive found cs := by
  induction found, cs using readAttributesFrom.induct with
  | case1 found cs ends =>
      rw [readAttributesFrom_of_blank ends] at reads
      obtain rfl := Except.ok.inj reads
      simpa using blank cs ends
  | case2 found cs c tail behind fault failed =>
      rw [readAttributesFrom_of_cons behind, failed] at reads
      cases reads
  | case3 found cs c tail behind key raw rest read repeated =>
      rw [readAttributesFrom_of_cons behind, read] at reads
      simp only [repeated, reduceIte] at reads
      cases reads
  | case4 found cs c tail behind key raw rest read fresh bad =>
      rw [readAttributesFrom_of_cons behind, read] at reads
      simp only [fresh, bad, Bool.false_eq_true, reduceIte] at reads
      cases reads
  | case5 found cs c tail behind key raw rest read fresh value good ih =>
      rw [readAttributesFrom_of_cons behind, read] at reads
      simp only [fresh, good, Bool.false_eq_true, reduceIte] at reads
      exact cons found cs c tail key raw rest value behind read (Bool.eq_false_iff.mpr fresh) good
        (ih reads)

/-- Written attributes are read one after the other. -/
theorem readAttributesFrom_written {found attributes : List (String × String)}
    (keys : ∀ pair ∈ attributes, IsKey pair.1)
    (distinct : ((found ++ attributes).map Prod.fst).Nodup) :
    readAttributesFrom found (attributes.flatMap writeAttribute) =
      .ok (found.reverse ++ attributes) := by
  induction attributes generalizing found with
  | nil =>
      rw [List.flatMap_nil, readAttributesFrom_of_blank rfl, List.append_nil]
  | cons pair attributes ih =>
      obtain ⟨c, cs, chars, noSpace, inKey⟩ := keys pair List.mem_cons_self
      have text := dropWhile_writeAttribute chars noSpace (attributes.flatMap writeAttribute)
      have first := @firstAttribute_written c cs _ inKey (quote_notMem_escape pair.2.toList)
        (attributes.flatMap writeAttribute)
      have key : String.ofList (c :: cs) = pair.1 := by rw [← chars, String.ofList_toList]
      have moved : ((pair :: found ++ attributes).map Prod.fst).Nodup :=
        (List.Perm.nodup_iff (List.perm_middle.map Prod.fst)).mp distinct
      have fresh : (found.any fun entry => entry.1 == pair.1) = false := by
        rw [List.any_eq_false]
        intro entry mem same
        rw [List.cons_append, List.map_cons, List.nodup_cons] at moved
        refine moved.1 (List.mem_map.mpr ⟨entry, List.mem_append_left _ mem, ?_⟩)
        exact eq_of_beq same
      rw [List.flatMap_cons, readAttributesFrom_of_cons text, first]
      simp only [key, fresh, Bool.false_eq_true, reduceIte, unescape?_escape, String.ofList_toList]
      rw [ih (fun other mem => keys other (List.mem_cons_of_mem _ mem)) moved]
      simp

/-- **Attributes are read as they were written.** -/
theorem readAttributes_written {attributes : List (String × String)}
    (keys : ∀ pair ∈ attributes, IsKey pair.1) (distinct : (attributes.map Prod.fst).Nodup) :
    readAttributes (attributes.flatMap writeAttribute) = .ok attributes :=
  readAttributesFrom_written keys distinct

/-- The name of a written tag ends at the first attribute. -/
theorem tagName_writeTag {name : String} (noSpace : ∀ c ∈ name.toList, isSpace c = false)
    (attributes : List (String × String)) :
    tagName (writeTag name attributes) = name.toList ∧
      tagRest (writeTag name attributes) = attributes.flatMap writeAttribute := by
  have inName : ∀ c ∈ name.toList, (!isSpace c) = true := by
    intro c mem
    rw [noSpace c mem]
    rfl
  cases attributes with
  | nil =>
      rw [writeTag, List.flatMap_nil, List.append_nil, tagName, tagRest]
      exact ⟨List.takeWhile_eq_self_iff.mpr inName, List.dropWhile_eq_nil_iff.mpr inName⟩
  | cons pair attributes =>
      rw [writeTag, List.flatMap_cons, writeAttribute, tagName, tagRest]
      simp only [List.cons_append]
      exact takeWhile_append_cons _ inName rfl _

/-- **A written tag starts the element that it was written for**, without children. -/
theorem tagElement_writeTag {name : String} {attributes : List (String × String)}
    (noSpace : ∀ c ∈ name.toList, isSpace c = false)
    (keys : ∀ pair ∈ attributes, IsKey pair.1) (distinct : (attributes.map Prod.fst).Nodup) :
    Assembly.tagElement (writeTag name attributes) = .ok ⟨name, attributes, []⟩ := by
  obtain ⟨sameName, sameRest⟩ := tagName_writeTag noSpace attributes
  rw [Assembly.tagElement, sameName, sameRest, readAttributes_written keys distinct,
    String.ofList_toList]

/-- A tag with attributes ends in a quote. -/
theorem getLast?_writeTag (name : String) {attributes : List (String × String)}
    (some : attributes ≠ []) : (writeTag name attributes).getLast? = .some '"' := by
  obtain ⟨others, pair, rfl⟩ := List.eq_nil_or_concat attributes |>.resolve_left some
  have ends : writeTag name (others ++ [pair]) = name.toList ++ others.flatMap writeAttribute ++
      (' ' :: pair.1.toList ++ '=' :: '"' :: escape pair.2.toList) ++ ['"'] := by
    simp [writeTag, writeAttribute]
  rw [List.concat_eq_append, ends, List.getLast?_concat]

/-- A tag with a plain name does not end in a slash. -/
theorem getLast?_writeTag_of_isPlain {name : String} (plain : isPlain name = true)
    (attributes : List (String × String)) : (writeTag name attributes).getLast? ≠ some '/' := by
  by_cases bare : attributes = []
  · rw [bare, writeTag, List.flatMap_nil, List.append_nil]
    intro last
    have plainSlash := plain_of_mem plain (List.mem_of_getLast? last)
    contradiction
  · rw [getLast?_writeTag name bare]
    simp

theorem writeTag_ne_nil {name : String} (plain : isPlain name = true)
    (attributes : List (String × String)) : writeTag name attributes ≠ [] := by
  obtain ⟨c, cs, chars, -⟩ := exists_of_isPlain plain
  simp [writeTag, chars]

end DocPipeline.Markup

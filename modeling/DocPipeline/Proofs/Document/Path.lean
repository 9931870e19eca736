import DocPipeline.Failure
import Mathlib

/-!
# How node paths are written

The texts that write paths form a regular language: steps with one or two slashes between them, and
perhaps in front of them, each step a star or a name. Reading accepts that language and nothing
else, once blanks at the ends are taken off. It is exact: a text that is read is the text of the path
that it gives, so no path is written in two ways, and every path that can be written is read back.

## Main definitions

* `NodePath.pathText`: the language of paths, put together from `NodePath.nameText` and
  `NodePath.stepText`.
* `NodePath.steps`, `NodePath.isAbsolute`: a path as a list of steps that starts at the document or
  not.
* `NodePath.WellFormed`: such lists that make up a path.
* `NodePath.writeSteps`: their text.

## Main results

* `NodePath.readTest_eq_ok_iff`: what a segment is read as.
* `NodePath.exists_segments`, `NodePath.segments_written`: cutting a text into segments, and the
  segments of a text that was put together.
* `NodePath.ofChars_eq_ok_iff`: what a text is read as.
* `NodePath.compile_iff_pathText`: compiling expressions.
-/

namespace DocPipeline

open Computability

/-! ### Blanks -/

/-- A text without blank characters has none at its ends. -/
theorem Text.trimChars_eq_self {cs : List Char} (solid : ∀ c ∈ cs, isBlankChar c = false) :
    trimChars cs = cs := by
  have keeps (ds : List Char) (sub : ∀ c ∈ ds, isBlankChar c = false) :
      ds.dropWhile isBlankChar = ds := by
    cases ds with
    | nil => rfl
    | cons d ds => simp [sub d List.mem_cons_self]
  rw [trimChars, keeps cs solid, keeps cs.reverse fun c mem => solid c (List.mem_reverse.mp mem),
    List.reverse_reverse]

/-- The visible characters of ASCII are not blank. -/
theorem Text.isBlankChar_of_visible {c : Char} (above : '!' ≤ c) (below : c ≤ '~') :
    isBlankChar c = false := by
  have low : 0x21 ≤ c.toNat := UInt32.le_iff_toNat_le.mp (Char.le_def.mp above)
  have high : c.toNat ≤ 0x7E := UInt32.le_iff_toNat_le.mp (Char.le_def.mp below)
  simp only [isBlankChar, inRanges, blankRanges, List.any_cons, List.any_nil, Bool.or_false,
    Bool.or_eq_false_iff, Bool.and_eq_false_iff, decide_eq_false_iff_not]
  omega

namespace NodePath

/-! ### The language of paths -/

/-- A character that a name starts with: a letter or a low line. -/
def StartsName (c : Char) : Prop := 'A' ≤ c ∧ c ≤ 'Z' ∨ 'a' ≤ c ∧ c ≤ 'z' ∨ c = '_'

/-- A character that a name goes on with. -/
def ContinuesName (c : Char) : Prop := StartsName c ∨ '0' ≤ c ∧ c ≤ '9' ∨ c = '.' ∨ c = '-'

/-- Texts of one character of some kind. -/
def single (holds : Char → Prop) : Language Char := {cs | ∃ c, holds c ∧ cs = [c]}

/-- Names without a colon. -/
def simpleNameText : Language Char := single StartsName * (single ContinuesName)∗

/-- Names: a name without a colon, or two of them with a colon between. -/
def nameText : Language Char := simpleNameText + simpleNameText * ({[':']} * simpleNameText)

/-- Steps: a star for any name, or a name. -/
def stepText : Language Char := {['*']} + nameText

/-- What stands between two steps: a slash or two. -/
def separatorText : Language Char := {['/']} + {['/', '/']}

/-- Paths: steps with separators between them, and perhaps one in front. -/
def pathText : Language Char := (1 + separatorText) * (stepText * (separatorText * stepText)∗)

/-! ### Names -/

theorem isNameStart_iff {c : Char} : isNameStart c = true ↔ StartsName c := by
  simp [isNameStart, StartsName, Char.isAlpha, Char.isUpper, Char.isLower, Char.le_def, or_assoc]

theorem isNameChar_iff {c : Char} : isNameChar c = true ↔ ContinuesName c := by
  -- a name goes on with the characters that it may start with, and with three kinds of others
  have sorted : isNameChar c = (isNameStart c || (c.isDigit || (c = '.' || c = '-'))) := by
    simp only [isNameChar, isNameStart, Char.isAlphanum]
    ac_rfl
  have digit : c.isDigit = true ↔ '0' ≤ c ∧ c ≤ '9' := by
    simp [Char.isDigit, Char.le_def]
  simp only [sorted, Bool.or_eq_true, decide_eq_true_eq, isNameStart_iff, digit, ContinuesName]

/-- Any number of characters of some kind. -/
theorem mem_kstar_single {holds : Char → Prop} {cs : List Char} :
    cs ∈ (single holds)∗ ↔ ∀ c ∈ cs, holds c := by
  rw [Language.mem_kstar]
  constructor
  · rintro ⟨parts, rfl, each⟩ c mem
    obtain ⟨part, listed, inside⟩ := List.mem_flatten.mp mem
    obtain ⟨d, fits, rfl⟩ := each part listed
    obtain rfl := List.mem_singleton.mp inside
    exact fits
  · intro all
    refine ⟨cs.map ([·]), by simp [← List.flatMap_def], ?_⟩
    intro part mem
    obtain ⟨c, inside, rfl⟩ := List.mem_map.mp mem
    exact ⟨c, all c inside, rfl⟩

theorem isSimpleName_cons_iff {c : Char} {rest : List Char} :
    isSimpleName (c :: rest) = true ↔ StartsName c ∧ ∀ d ∈ rest, ContinuesName d := by
  simp only [isSimpleName, Bool.and_eq_true, List.all_eq_true, isNameStart_iff, isNameChar_iff]

theorem isSimpleName_iff {cs : List Char} : isSimpleName cs = true ↔ cs ∈ simpleNameText := by
  rw [simpleNameText, Language.mem_mul]
  constructor
  · intro simple
    cases cs with
    | nil => cases simple
    | cons c rest =>
        rw [isSimpleName_cons_iff] at simple
        obtain ⟨starts, goesOn⟩ := simple
        exact ⟨[c], ⟨c, starts, rfl⟩, rest, mem_kstar_single.mpr goesOn, rfl⟩
  · rintro ⟨_, ⟨c, starts, rfl⟩, rest, goesOn, rfl⟩
    rw [mem_kstar_single] at goesOn
    rw [List.singleton_append, isSimpleName_cons_iff]
    exact ⟨starts, goesOn⟩

/-- The characters of a name without a colon. -/
theorem continuesName_of_mem {cs : List Char} (simple : cs ∈ simpleNameText) :
    ∀ c ∈ cs, ContinuesName c := by
  obtain ⟨_, ⟨first, starts, rfl⟩, rest, goesOn, rfl⟩ := Language.mem_mul.mp simple
  intro c mem
  rcases List.mem_cons.mp mem with rfl | later
  · exact .inl starts
  · exact mem_kstar_single.mp goesOn c later

/-- There is no colon in a name without a colon. -/
theorem colon_notMem {cs : List Char} (simple : cs ∈ simpleNameText) : ':' ∉ cs := by
  intro mem
  have goesOn := continuesName_of_mem simple ':' mem
  rw [← isNameChar_iff] at goesOn
  exact absurd goesOn (by decide)

theorem isName_of_colon_notMem {cs : List Char} (noColon : ':' ∉ cs) :
    isName cs = isSimpleName cs := by
  have whole : cs.dropWhile (· ≠ ':') = [] := by
    rw [List.dropWhile_eq_nil_iff]
    intro c mem
    simpa using ne_of_mem_of_not_mem mem noColon
  rw [isName, whole]

theorem isName_append_colon {before : List Char} (noColon : ':' ∉ before) (behind : List Char) :
    isName (before ++ ':' :: behind) = (isSimpleName before && isSimpleName behind) := by
  have passes : ∀ c ∈ before, decide (c ≠ ':') = true := by
    intro c mem
    simpa using ne_of_mem_of_not_mem mem noColon
  rw [isName, List.dropWhile_append_of_pos passes, List.takeWhile_append_of_pos passes]
  simp

theorem isName_iff {cs : List Char} : isName cs = true ↔ cs ∈ nameText := by
  rw [nameText, Language.mem_add, Language.mem_mul]
  constructor
  · intro name
    by_cases colon : ':' ∈ cs
    · obtain ⟨before, behind, rfl, noColon⟩ := List.eq_append_cons_of_mem colon
      rw [isName_append_colon noColon, Bool.and_eq_true, isSimpleName_iff, isSimpleName_iff] at name
      exact .inr ⟨before, name.1, ':' :: behind, ⟨[':'], rfl, behind, name.2, rfl⟩, rfl⟩
    · rw [isName_of_colon_notMem colon] at name
      exact .inl (isSimpleName_iff.mp name)
  · rintro (simple | ⟨before, first, _, ⟨_, rfl, behind, second, rfl⟩, rfl⟩)
    · rw [isName_of_colon_notMem (colon_notMem simple)]
      exact isSimpleName_iff.mpr simple
    · refine (isName_append_colon (colon_notMem first) behind).trans ?_
      rw [isSimpleName_iff.mpr first, isSimpleName_iff.mpr second]
      rfl

/-! ### Tests -/

end NodePath

/-- A test that can be written: one for a name has to have a name. -/
def NameTest.IsWritten : NameTest → Prop
  | .any => True
  | .named name => name.toList ∈ NodePath.nameText

namespace NodePath

/-- The kinds of characters that make up a name. -/
theorem mem_of_nameText {cs : List Char} (name : cs ∈ nameText) :
    cs ≠ [] ∧ ∀ c ∈ cs, ContinuesName c ∨ c = ':' := by
  have nonempty {ds : List Char} (simple : ds ∈ simpleNameText) : ds ≠ [] := by
    obtain ⟨_, ⟨first, -, rfl⟩, rest, -, rfl⟩ := Language.mem_mul.mp simple
    exact List.cons_ne_nil _ _
  rcases name with simple | ⟨before, first, _, ⟨_, rfl, behind, second, rfl⟩, rfl⟩
  · exact ⟨nonempty simple, fun c mem => .inl (continuesName_of_mem simple c mem)⟩
  · refine ⟨List.append_ne_nil_of_left_ne_nil (nonempty first) _, fun c mem => ?_⟩
    rcases List.mem_append.mp mem with inFirst | later
    · exact .inl (continuesName_of_mem first c inFirst)
    · rcases List.mem_cons.mp later with rfl | inSecond
      · exact .inr rfl
      · exact .inl (continuesName_of_mem second c inSecond)

/-- **What a segment is read as**: the test that it is the text of. -/
theorem readTest_eq_ok_iff {segment : List Char} {test : NameTest} :
    readTest segment = .ok test ↔ segment = writeTest test ∧ test.IsWritten := by
  constructor
  · intro read
    rw [readTest.eq_def] at read
    split at read
    · cases read
    · obtain rfl := Except.ok.inj read
      exact ⟨rfl, trivial⟩
    · split at read
      · next name =>
          obtain rfl := Except.ok.inj read
          refine ⟨String.toList_ofList.symm, ?_⟩
          rw [NameTest.IsWritten, String.toList_ofList]
          exact isName_iff.mp name
      · cases read
  · rintro ⟨rfl, written⟩
    cases test with
    | any => rfl
    | named name =>
        have isName := isName_iff.mpr written
        rw [writeTest, readTest.eq_def]
        split
        · next empty => exact absurd empty (mem_of_nameText written).1
        · next star =>
            rw [star] at isName
            cases isName
        · next c cs _ chars =>
            rw [← chars, if_pos isName, String.ofList_toList]

/-- The text of a test is not empty, and each of its characters is a star, a colon, or one that names
go on with. -/
theorem mem_writeTest {test : NameTest} (written : test.IsWritten) :
    writeTest test ≠ [] ∧ ∀ c ∈ writeTest test, ContinuesName c ∨ c = ':' ∨ c = '*' := by
  cases test with
  | any =>
      refine ⟨List.cons_ne_nil _ _, fun c mem => ?_⟩
      exact .inr (.inr (List.mem_singleton.mp mem))
  | named name =>
      obtain ⟨nonempty, all⟩ := mem_of_nameText written
      exact ⟨nonempty, fun c mem => (all c mem).imp_right .inl⟩

/-- There is no slash in the text of a test. -/
theorem slash_notMem_writeTest {test : NameTest} (written : test.IsWritten) :
    '/' ∉ writeTest test := by
  intro mem
  rcases (mem_writeTest written).2 '/' mem with goesOn | colon | star
  · rw [← isNameChar_iff] at goesOn
    exact absurd goesOn (by decide)
  · cases colon
  · cases star

/-! ### Segments -/

/-- The text of segments with the separators in front of them. -/
def joined (rest : List (Axis × List Char)) : List Char :=
  rest.flatMap fun segment => writeAxis segment.1 ++ segment.2

theorem segments_nil (axis : Axis) (segment : List Char) :
    segments axis segment [] = [(axis, segment.reverse)] := rfl

/-- Two slashes end a segment, and the next one may be anywhere below. -/
theorem segments_slash_slash (axis : Axis) (segment cs : List Char) :
    segments axis segment ('/' :: '/' :: cs) =
      (axis, segment.reverse) :: segments .descendant [] cs := rfl

/-- A slash that is not the first of two ends a segment. -/
theorem segments_slash {axis : Axis} {segment cs : List Char} (single : ∀ ds, cs ≠ '/' :: ds) :
    segments axis segment ('/' :: cs) = (axis, segment.reverse) :: segments .child [] cs := by
  rw [segments]
  exact single

/-- Any other character belongs to the segment that is being read. -/
theorem segments_of_ne_slash {axis : Axis} {segment cs : List Char} {c : Char} (other : c ≠ '/') :
    segments axis segment (c :: cs) = segments axis (c :: segment) cs := by
  rw [segments]
  · exact fun _ slash => absurd slash other
  · exact other

/-- **Cutting loses nothing**: the segments and the separators in front of them are the text. -/
theorem exists_segments (axis : Axis) (segment cs : List Char) :
    ∃ first rest, segments axis segment cs = (axis, first) :: rest ∧
      segment.reverse ++ cs = first ++ joined rest := by
  induction axis, segment, cs using segments.induct with
  | case1 axis segment => exact ⟨segment.reverse, [], rfl, rfl⟩
  | case2 axis segment cs ih =>
      obtain ⟨first, rest, cut, same⟩ := ih
      refine ⟨segment.reverse, (.descendant, first) :: rest, ?_, ?_⟩
      · rw [segments_slash_slash, cut]
      · rw [List.reverse_nil, List.nil_append] at same
        simp [joined, writeAxis, same]
  | case3 axis segment cs other ih =>
      obtain ⟨first, rest, cut, same⟩ := ih
      refine ⟨segment.reverse, (.child, first) :: rest, ?_, ?_⟩
      · rw [segments_slash other, cut]
      · rw [List.reverse_nil, List.nil_append] at same
        simp [joined, writeAxis, same]
  | case4 axis segment c cs _ other ih =>
      obtain ⟨first, rest, cut, same⟩ := ih
      refine ⟨first, rest, ?_, ?_⟩
      · rw [segments_of_ne_slash other, cut]
      · rw [List.reverse_cons, List.append_assoc, List.singleton_append] at same
        exact same

/-- Characters other than slashes belong to the segment that is being read. -/
theorem segments_append {axis : Axis} {segment cs : List Char} (solid : '/' ∉ cs)
    (tail : List Char) :
    segments axis segment (cs ++ tail) = segments axis (cs.reverse ++ segment) tail := by
  induction cs generalizing segment with
  | nil => rfl
  | cons c cs ih =>
      obtain ⟨here, later⟩ := not_or.mp (List.mem_cons.not.mp solid)
      rw [List.cons_append, segments_of_ne_slash (Ne.symm here), ih later, List.reverse_cons,
        List.append_assoc, List.singleton_append]

/-- **The segments of a text that was put together** from segments are those segments, if none of
them is empty but perhaps the first, and none has a slash in it. -/
theorem segments_written {axis : Axis} {first : List Char} {rest : List (Axis × List Char)}
    (solid : '/' ∉ first) (each : ∀ segment ∈ rest, segment.2 ≠ [] ∧ '/' ∉ segment.2) :
    segments axis [] (first ++ joined rest) = (axis, first) :: rest := by
  induction rest generalizing axis first with
  | nil =>
      rw [segments_append solid]
      simp [joined, segments_nil]
  | cons next rest ih =>
      obtain ⟨separator, next⟩ := next
      obtain ⟨⟨nonempty, nextSolid⟩, later⟩ := List.forall_mem_cons.mp each
      have onward := @ih separator _ nextSolid later
      have split : joined ((separator, next) :: rest) =
          writeAxis separator ++ (next ++ joined rest) := by simp [joined]
      rw [segments_append solid, split]
      cases separator with
      | descendant =>
          rw [writeAxis, List.cons_append, List.singleton_append, segments_slash_slash, onward]
          simp
      | child =>
          -- the slash is not taken for the first of two, because no slash follows it
          obtain ⟨c, cs, rfl⟩ := List.exists_cons_of_ne_nil nonempty
          have single : ∀ ds, c :: cs ++ joined rest = '/' :: ds → False := by
            intro ds same
            obtain ⟨rfl, -⟩ := List.cons.inj same
            exact nextSolid List.mem_cons_self
          rw [writeAxis, List.singleton_append, segments_slash single, onward]
          simp

/-! ### Whole paths -/

/-- The start of a path and what is behind it make up the text. -/
theorem writeOrigin_readOrigin (cs : List Char) :
    writeOrigin (readOrigin cs).1 ++ (readOrigin cs).2 = cs := by
  rw [readOrigin.eq_def]
  split <;> rfl

/-- The start of a path is read back, if what is behind it starts with no slash. -/
theorem readOrigin_writeOrigin (origin : Origin) {c : Char} (body : List Char) (other : c ≠ '/') :
    readOrigin (writeOrigin origin ++ c :: body) = (origin, c :: body) := by
  cases origin with
  | anywhere => rfl
  | root =>
      rw [writeOrigin, List.singleton_append, readOrigin]
      intro ds same
      exact other (List.cons.inj same).1
  | belowRoot =>
      rw [writeOrigin, List.nil_append, readOrigin]
      · intro ds same
        exact other (List.cons.inj same).1
      · intro ds same
        exact other (List.cons.inj same).1

/-- A step as a segment. -/
def segmentOf (step : PathStep) : Axis × List Char := (step.axis, writeTest step.test)

theorem toChars_eq (path : NodePath) :
    path.toChars =
      writeOrigin path.origin ++ (writeTest path.first ++ joined (path.rest.map segmentOf)) := by
  rw [toChars, joined, List.flatMap_map, List.append_assoc]
  rfl

/-- A segment is read as the step that it is the segment of. -/
theorem readStep_eq_ok_iff {segment : Axis × List Char} {step : PathStep} :
    readStep segment = .ok step ↔ segment = segmentOf step ∧ step.test.IsWritten := by
  obtain ⟨axis, cs⟩ := segment
  obtain ⟨stepAxis, test⟩ := step
  constructor
  · intro read
    rw [readStep] at read
    cases taken : readTest cs with
    | error fault => simp [taken, Except.map] at read
    | ok other =>
        obtain ⟨rfl, rfl⟩ : axis = stepAxis ∧ other = test := by
          simpa [taken, Except.map] using read
        obtain ⟨rfl, written⟩ := readTest_eq_ok_iff.mp taken
        exact ⟨rfl, written⟩
  · rintro ⟨same, written⟩
    obtain ⟨rfl, rfl⟩ := Prod.mk.inj same
    rw [readStep, readTest_eq_ok_iff.mpr ⟨rfl, written⟩]
    rfl

/-- Segments are read as the steps that they are the segments of. -/
theorem mapM_readStep_eq_ok_iff {rest : List (Axis × List Char)} {steps : List PathStep} :
    rest.mapM readStep = .ok steps ↔
      rest = steps.map segmentOf ∧ ∀ step ∈ steps, step.test.IsWritten := by
  induction rest generalizing steps with
  | nil =>
      constructor
      · intro read
        obtain rfl := Except.ok.inj read
        exact ⟨rfl, nofun⟩
      · rintro ⟨same, -⟩
        obtain rfl := List.map_eq_nil_iff.mp same.symm
        rfl
  | cons segment rest ih =>
      rw [List.mapM_cons]
      constructor
      · intro read
        cases first : readStep segment with
        | error fault =>
            rw [first] at read
            cases read
        | ok step =>
            cases later : rest.mapM readStep with
            | error fault =>
                rw [first, later] at read
                cases read
            | ok others =>
                rw [first, later] at read
                obtain rfl := Except.ok.inj read
                obtain ⟨rfl, written⟩ := readStep_eq_ok_iff.mp first
                obtain ⟨rfl, all⟩ := ih.mp later
                exact ⟨rfl, List.forall_mem_cons.mpr ⟨written, all⟩⟩
      · rintro ⟨same, all⟩
        obtain ⟨step, others, rfl, rfl, rfl⟩ := List.map_eq_cons_iff.mp same.symm
        obtain ⟨written, later⟩ := List.forall_mem_cons.mp all
        rw [readStep_eq_ok_iff.mpr ⟨rfl, written⟩, ih.mpr ⟨rfl, later⟩]
        rfl

/-- A path all of whose tests can be written. -/
def IsWritten (path : NodePath) : Prop :=
  path.first.IsWritten ∧ ∀ step ∈ path.rest, step.test.IsWritten

/-- A text is read as a path if its segments are read as the parts of the path. -/
theorem ofChars_eq_ok_iff_of_cut {cs body first : List Char} {origin : Origin} {axis : Axis}
    {rest : List (Axis × List Char)} {path : NodePath} (nonempty : cs ≠ [])
    (starts : readOrigin cs = (origin, body))
    (cut : segments .child [] body = (axis, first) :: rest) :
    ofChars cs = .ok path ↔
      origin = path.origin ∧ readTest first = .ok path.first ∧
        rest.mapM readStep = .ok path.rest := by
  rw [ofChars, if_neg (by simpa using nonempty), starts]
  simp only [cut]
  cases readTest first with
  | error fault => simp [bind, Except.bind]
  | ok test =>
      cases rest.mapM readStep with
      | error fault => simp [bind, Except.bind]
      | ok steps =>
          obtain ⟨pathOrigin, pathFirst, pathRest⟩ := path
          simp [bind, Except.bind]

/-- **What a text without blanks at its ends is read as**: the path that it is the text of. -/
theorem ofChars_eq_ok_iff {cs : List Char} {path : NodePath} :
    ofChars cs = .ok path ↔ cs = path.toChars ∧ path.IsWritten := by
  constructor
  · intro read
    have nonempty : cs ≠ [] := by
      rintro rfl
      cases read
    obtain ⟨origin, body, starts⟩ : ∃ origin body, readOrigin cs = (origin, body) := ⟨_, _, rfl⟩
    have whole := writeOrigin_readOrigin cs
    rw [starts] at whole
    obtain ⟨first, rest, cut, same⟩ := exists_segments .child [] body
    obtain ⟨rfl, firstRead, restRead⟩ :=
      (ofChars_eq_ok_iff_of_cut nonempty starts cut).mp read
    obtain ⟨rfl, written⟩ := readTest_eq_ok_iff.mp firstRead
    obtain ⟨rfl, all⟩ := mapM_readStep_eq_ok_iff.mp restRead
    refine ⟨?_, written, all⟩
    rw [toChars_eq, ← whole]
    exact congrArg (writeOrigin path.origin ++ ·) same
  · rintro ⟨rfl, written, all⟩
    have solid := slash_notMem_writeTest written
    have cut : segments .child [] (writeTest path.first ++ joined (path.rest.map segmentOf)) =
        (.child, writeTest path.first) :: path.rest.map segmentOf := by
      refine segments_written solid fun segment mem => ?_
      obtain ⟨step, listed, rfl⟩ := List.mem_map.mp mem
      exact ⟨(mem_writeTest (all step listed)).1, slash_notMem_writeTest (all step listed)⟩
    have starts : readOrigin path.toChars =
        (path.origin, writeTest path.first ++ joined (path.rest.map segmentOf)) := by
      obtain ⟨c, cs, chars⟩ := List.exists_cons_of_ne_nil (mem_writeTest written).1
      have other : c ≠ '/' := by
        rintro rfl
        exact solid (chars ▸ List.mem_cons_self)
      rw [toChars_eq, chars]
      exact readOrigin_writeOrigin path.origin _ other
    have nonempty : path.toChars ≠ [] := by
      rw [toChars_eq]
      exact List.append_ne_nil_of_right_ne_nil _
        (List.append_ne_nil_of_left_ne_nil (mem_writeTest written).1 _)
    exact (ofChars_eq_ok_iff_of_cut nonempty starts cut).mpr
      ⟨rfl, readTest_eq_ok_iff.mpr ⟨rfl, written⟩, mapM_readStep_eq_ok_iff.mpr ⟨rfl, all⟩⟩

/-! ### Paths and their language -/

/-- The steps of the language are the texts of tests. -/
theorem mem_stepText_iff {cs : List Char} :
    cs ∈ stepText ↔ ∃ test : NameTest, test.IsWritten ∧ cs = writeTest test := by
  constructor
  · rintro (rfl | name)
    · exact ⟨.any, trivial, rfl⟩
    · refine ⟨.named (String.ofList cs), ?_, String.toList_ofList.symm⟩
      rw [NameTest.IsWritten, String.toList_ofList]
      exact name
  · rintro ⟨test, written, rfl⟩
    cases test with
    | any => exact .inl rfl
    | named name => exact .inr written

/-- The separators of the language are the texts of axes. -/
theorem mem_separatorText_iff {cs : List Char} :
    cs ∈ separatorText ↔ ∃ axis : Axis, cs = writeAxis axis := by
  constructor
  · rintro (rfl | rfl)
    · exact ⟨.child, rfl⟩
    · exact ⟨.descendant, rfl⟩
  · rintro ⟨axis, rfl⟩
    cases axis with
    | child => exact .inl rfl
    | descendant => exact .inr rfl

/-- What the language has in front of the first step are the texts of origins. -/
theorem mem_one_add_separatorText_iff {cs : List Char} :
    cs ∈ 1 + separatorText ↔ ∃ origin : Origin, cs = writeOrigin origin := by
  rw [Language.mem_add, Language.mem_one, mem_separatorText_iff]
  constructor
  · rintro (rfl | ⟨axis, rfl⟩)
    · exact ⟨.belowRoot, rfl⟩
    · cases axis with
      | child => exact ⟨.root, rfl⟩
      | descendant => exact ⟨.anywhere, rfl⟩
  · rintro ⟨origin, rfl⟩
    cases origin with
    | root => exact .inr ⟨.child, rfl⟩
    | anywhere => exact .inr ⟨.descendant, rfl⟩
    | belowRoot => exact .inl rfl

/-- What the language has behind the first step are the texts of the other steps. -/
theorem mem_kstar_stepText_iff {cs : List Char} :
    cs ∈ (separatorText * stepText)∗ ↔
      ∃ steps : List PathStep, (∀ step ∈ steps, step.test.IsWritten) ∧
        cs = joined (steps.map segmentOf) := by
  constructor
  · rintro ⟨parts, rfl, each⟩
    induction parts with
    | nil => exact ⟨[], nofun, rfl⟩
    | cons part parts ih =>
        obtain ⟨first, later⟩ := List.forall_mem_cons.mp each
        obtain ⟨steps, written, same⟩ := ih later
        obtain ⟨separator, isSeparator, step, isStep, rfl⟩ := first
        obtain ⟨axis, rfl⟩ := mem_separatorText_iff.mp isSeparator
        obtain ⟨test, testWritten, rfl⟩ := mem_stepText_iff.mp isStep
        refine ⟨⟨axis, test⟩ :: steps, List.forall_mem_cons.mpr ⟨testWritten, written⟩, ?_⟩
        rw [List.flatten_cons, same]
        rfl
  · rintro ⟨steps, written, rfl⟩
    rw [joined, List.flatMap_def]
    refine Language.join_mem_kstar fun part mem => ?_
    obtain ⟨segment, listed, rfl⟩ := List.mem_map.mp mem
    obtain ⟨step, inSteps, rfl⟩ := List.mem_map.mp listed
    exact Language.append_mem_mul (mem_separatorText_iff.mpr ⟨step.axis, rfl⟩)
      (mem_stepText_iff.mpr ⟨step.test, written step inSteps, rfl⟩)

/-- **The language of paths** consists of the texts of paths. -/
theorem mem_pathText_iff {cs : List Char} :
    cs ∈ pathText ↔ ∃ path : NodePath, path.IsWritten ∧ cs = path.toChars := by
  constructor
  · rintro ⟨start, isStart, _, ⟨first, isFirst, rest, isRest, rfl⟩, rfl⟩
    obtain ⟨origin, rfl⟩ := mem_one_add_separatorText_iff.mp isStart
    obtain ⟨test, written, rfl⟩ := mem_stepText_iff.mp isFirst
    obtain ⟨steps, all, rfl⟩ := mem_kstar_stepText_iff.mp isRest
    exact ⟨⟨origin, test, steps⟩, ⟨written, all⟩, (toChars_eq ⟨origin, test, steps⟩).symm⟩
  · rintro ⟨path, ⟨written, all⟩, rfl⟩
    rw [toChars_eq]
    exact Language.append_mem_mul (mem_one_add_separatorText_iff.mpr ⟨path.origin, rfl⟩)
      (Language.append_mem_mul (mem_stepText_iff.mpr ⟨path.first, written, rfl⟩)
        (mem_kstar_stepText_iff.mpr ⟨path.rest, all, rfl⟩))

/-! ### Reading paths -/

/-- A character that names go on with is visible. -/
theorem ContinuesName.isBlankChar_eq {c : Char} (goesOn : ContinuesName c) :
    Text.isBlankChar c = false := by
  have visible {low high : Char} (above : '!' ≤ low) (below : high ≤ '~')
      (within : low ≤ c ∧ c ≤ high) :
      Text.isBlankChar c = false :=
    Text.isBlankChar_of_visible (Char.le_trans above within.1) (Char.le_trans within.2 below)
  rcases goesOn with (upper | lower | rfl) | digit | rfl | rfl
  · exact visible (by decide) (by decide) upper
  · exact visible (by decide) (by decide) lower
  · decide
  · exact visible (by decide) (by decide) digit
  · decide
  · decide

/-- There are no blanks in the text of a path. -/
theorem isBlankChar_eq_of_mem_toChars {path : NodePath} (written : path.IsWritten) :
    ∀ c ∈ path.toChars, Text.isBlankChar c = false := by
  have ofTest {test : NameTest} (testWritten : test.IsWritten) :
      ∀ c ∈ writeTest test, Text.isBlankChar c = false := by
    intro c mem
    rcases (mem_writeTest testWritten).2 c mem with goesOn | rfl | rfl
    · exact goesOn.isBlankChar_eq
    · decide
    · decide
  have slash : Text.isBlankChar '/' = false := by decide
  have ofAxis : ∀ axis : Axis, ∀ c ∈ writeAxis axis, Text.isBlankChar c = false := by
    intro axis
    cases axis <;> simp [writeAxis, slash]
  have ofOrigin : ∀ origin : Origin, ∀ c ∈ writeOrigin origin, Text.isBlankChar c = false := by
    intro origin
    cases origin <;> simp [writeOrigin, slash]
  intro c mem
  rw [toChars, List.append_assoc, List.mem_append, List.mem_append, List.mem_flatMap] at mem
  rcases mem with start | first | ⟨step, listed, later⟩
  · exact ofOrigin path.origin c start
  · exact ofTest written.1 c first
  · rcases List.mem_append.mp later with separator | test
    · exact ofAxis step.axis c separator
    · exact ofTest (written.2 step listed) c test

/-- **What a text is read as**: the path whose text it is when the blanks at its ends are taken
off. -/
theorem parse_eq_ok_iff {expression : String} {path : NodePath} :
    parse expression = .ok path ↔
      path.toString = Text.trim expression ∧ path.IsWritten := by
  rw [parse, ofChars_eq_ok_iff, NodePath.toString, Text.trim, String.ofList_inj, eq_comm]

/-- A path that can be written is read back. -/
theorem parse_toString {path : NodePath} (written : path.IsWritten) :
    parse path.toString = .ok path := by
  rw [parse_eq_ok_iff, NodePath.toString, Text.trim, String.toList_ofList,
    Text.trimChars_eq_self (isBlankChar_eq_of_mem_toChars written)]
  exact ⟨rfl, written⟩

end NodePath

/-! ### Paths as lists of steps -/

/-- The axis of the step that a path starts with. -/
def Origin.axis : Origin → Axis
  | .root => .child
  | .anywhere => .descendant
  | .belowRoot => .child

namespace NodePath

/-- Whether a path starts above the root of a document. If it does not, it starts at the root. -/
def isAbsolute (path : NodePath) : Bool := path.origin ≠ .belowRoot

/-- The steps of a path, the first one included. -/
def steps (path : NodePath) : List PathStep := ⟨path.origin.axis, path.first⟩ :: path.rest

/-- Steps that make up a path: there are some, their tests can be written, and from the root the
first of them leads to a child. -/
structure WellFormed (absolute : Bool) (steps : List PathStep) : Prop where
  nonempty : steps ≠ []
  relative : absolute = false → ∀ first ∈ steps.head?, first.axis = .child
  written : ∀ step ∈ steps, step.test.IsWritten

/-- The text of steps. Each has the separator of its axis in front of it, except that the first step
of a path that is not absolute has none. -/
def writeSteps (absolute : Bool) : List PathStep → List Char
  | [] => []
  | first :: rest =>
    (if absolute then writeAxis first.axis else []) ++ writeTest first.test ++
      rest.flatMap fun step => writeAxis step.axis ++ writeTest step.test

/-- A path is written step by step. -/
theorem toChars_eq_writeSteps (path : NodePath) :
    path.toChars = writeSteps path.isAbsolute path.steps := by
  obtain ⟨origin, first, rest⟩ := path
  cases origin <;> rfl

/-- The steps of a path make up a path. -/
theorem IsWritten.wellFormed {path : NodePath} (written : path.IsWritten) :
    WellFormed path.isAbsolute path.steps where
  nonempty := List.cons_ne_nil _ _
  relative := by
    obtain ⟨origin, first, rest⟩ := path
    intro relative step isFirst
    obtain rfl := Option.some.inj isFirst
    cases origin with
    | root => cases relative
    | anywhere => cases relative
    | belowRoot => rfl
  written := List.forall_mem_cons.mpr written

/-- Steps that make up a path are the steps of one. -/
theorem WellFormed.exists_path {absolute : Bool} {steps : List PathStep}
    (wellFormed : WellFormed absolute steps) :
    ∃ path : NodePath, path.isAbsolute = absolute ∧ path.steps = steps ∧ path.IsWritten := by
  obtain ⟨⟨axis, test⟩, rest, rfl⟩ := List.exists_cons_of_ne_nil wellFormed.nonempty
  have written : test.IsWritten ∧ ∀ step ∈ rest, step.test.IsWritten :=
    List.forall_mem_cons.mp wellFormed.written
  cases absolute with
  | false =>
      obtain rfl : axis = .child := wellFormed.relative rfl _ rfl
      exact ⟨⟨.belowRoot, test, rest⟩, rfl, rfl, written⟩
  | true =>
      cases axis with
      | child => exact ⟨⟨.root, test, rest⟩, rfl, rfl, written⟩
      | descendant => exact ⟨⟨.anywhere, test, rest⟩, rfl, rfl, written⟩

/-- Compiling an expression yields what the expression is read as. -/
theorem compile_eq_ok_iff {expression : String} {path : NodePath} :
    compile expression = .ok path ↔ parse expression = .ok path := by
  rw [compile]
  cases parse expression <;> simp [Except.mapError]

/-- **Compiling accepts the language of paths and loses nothing.** An expression is compiled exactly
if it is in the language once the blanks at its ends are taken off; otherwise it is refused by the
code of malformed paths. The path is written as the expression was, step by step and as a whole, and
what is written so is compiled to that path again. All steps that make up a path are compiled from
their text. -/
theorem compile_iff_pathText (expression : String) :
    ((∃ path, compile expression = .ok path) ↔ (Text.trim expression).toList ∈ pathText) ∧
      ((Text.trim expression).toList ∉ pathText →
        ∃ error, compile expression = .error error ∧ error.code = some "CONFIG-BAD-PATH") ∧
      (∀ path, compile expression = .ok path →
        WellFormed path.isAbsolute path.steps ∧
          String.ofList (writeSteps path.isAbsolute path.steps) = Text.trim expression ∧
          path.toString = Text.trim expression ∧ compile path.toString = .ok path) ∧
      ∀ absolute steps, WellFormed absolute steps →
        ∃ path, compile (String.ofList (writeSteps absolute steps)) = .ok path ∧
          path.isAbsolute = absolute ∧ path.steps = steps ∧
          path.toString = String.ofList (writeSteps absolute steps) := by
  simp only [compile_eq_ok_iff]
  have accepts : (∃ path, parse expression = .ok path) ↔
      (Text.trim expression).toList ∈ pathText := by
    rw [mem_pathText_iff]
    refine exists_congr fun path => ?_
    rw [parse_eq_ok_iff, and_comm, NodePath.toString, ← String.toList_inj, String.toList_ofList,
      eq_comm]
  refine ⟨accepts, fun outside => ?_, fun path read => ?_, fun absolute steps wellFormed => ?_⟩
  · cases result : parse expression with
    | error fault =>
        refine ⟨.malformedPath expression fault, ?_, rfl⟩
        rw [compile, result, Except.mapError]
    | ok path => exact absurd (accepts.mp ⟨path, result⟩) outside
  · obtain ⟨same, written⟩ := parse_eq_ok_iff.mp read
    refine ⟨written.wellFormed, ?_, same, parse_toString written⟩
    rw [← toChars_eq_writeSteps]
    exact same
  · obtain ⟨path, rfl, rfl, written⟩ := wellFormed.exists_path
    rw [← toChars_eq_writeSteps]
    exact ⟨path, parse_toString written, rfl, rfl, rfl⟩

/-- A path with a name of two parts, a star, slashes of both kinds and blanks around it, and a text in
which three slashes in a row leave nothing between two of them. -/
theorem compile_padded :
    let expression := "\t//a:b/*//_c-1.d\u2003"
    let steps : List PathStep :=
      [⟨.descendant, .named "a:b"⟩, ⟨.child, .any⟩, ⟨.descendant, .named "_c-1.d"⟩]
    (∃ path, compile expression = .ok path ∧ path.toString = Text.trim expression) ∧
      (∃ path, compile (String.ofList (writeSteps true steps)) = .ok path ∧ path.steps = steps) ∧
      ∃ error, compile "a///b" = .error error ∧ error.code = some "CONFIG-BAD-PATH" := by
  intro expression steps
  obtain ⟨-, -, exact, back⟩ := compile_iff_pathText expression
  obtain ⟨accepts, refuses, -, -⟩ := compile_iff_pathText "a///b"
  have read : compile "\t//a:b/*//_c-1.d\u2003" =
      .ok ⟨.anywhere, .named "a:b", [⟨.child, .any⟩, ⟨.descendant, .named "_c-1.d"⟩]⟩ := by rfl
  have wellFormed : WellFormed true steps := by
    refine ⟨List.cons_ne_nil _ _, nofun, ?_⟩
    simp only [steps, List.forall_mem_cons, NameTest.IsWritten]
    exact ⟨isName_iff.mp (by decide), trivial, isName_iff.mp (by decide), nofun⟩
  have refused : parse "a///b" = .error .emptyStep := by rfl
  obtain ⟨path, again, -, same, -⟩ := back true steps wellFormed
  have outside : (Text.trim "a///b").toList ∉ pathText := by
    intro inside
    obtain ⟨other, taken⟩ := accepts.mpr inside
    rw [compile_eq_ok_iff, refused] at taken
    cases taken
  exact ⟨⟨_, read, (exact _ read).2.2.1⟩, ⟨path, again, same⟩, refuses outside⟩

end NodePath

end DocPipeline

import RequestScript.Proofs.Scan.Steps

/-!
# What a definition defines

A definition is read after its variables have been replaced, the name that it defines
included.  The name on the left of the equals sign may therefore turn into another
name, into several words, or into an assignment of its own.  A line defines the name
that it shows if and only if the name survives the replacement as the first word, and
no equals sign comes in with it.  The value may likewise turn into nothing or into the
mark of a block, and then other lines decide about it.

Main results:

- Definition {lit}`Defines`: a visit gives one name a value and leaves all others
  alone.
- Theorem {lit}`definedValue_trim_iff`: when a line decides about the value on its own.
- Theorem {lit}`defines_of_firstWord`: a name that survives is defined.
- Theorem {lit}`defines_of_unused`: a name in which no variable occurs is defined.
- Theorem {lit}`exists_defines_iff`: when a line defines the name that it shows.
-/

namespace RequestScript

open Text

namespace Scan

/-! ## The parts of a definition -/

/-- A line that defines a name: blanks may stand on both sides of it. -/
def definitionText (leader : Leader) (gap between name after value : Text) : Text :=
  Statement.headed leader gap .define (between ++ (name ++ (after ++ '=' :: value)))

section Parts

variable {leader : Leader} {gap between after : Text} (hgap : IsGap gap) (hbetween : IsGap between)
  (hafter : ∀ c ∈ after, isBlank c = true)
include hgap hbetween hafter

/-- Substitution acts on the name and on the value of a definition. -/
theorem substitute_definitionText {bindings : Bindings} (hnamed : bindings.Named)
    (hleader : bindings.Avoids leader.spelling)
    (hkeyword : bindings.Avoids Keyword.define.spelling) (name value : Text) :
    bindings.substitute (definitionText leader gap between name after value) =
      definitionText leader gap between (bindings.substitute name) after
        (bindings.substitute value) := by
  have hdetached := detached_of_blanks hafter
  have hafterSame : bindings.substitute after = after := by
    have hblanks := hnamed.substitute_blanks_append hafter []
    rwa [hnamed.substitute_nil, List.append_nil] at hblanks
  rw [definitionText, Statement.substitute_headed hnamed hleader hkeyword hgap
    (hbetween.detached_append _), hnamed.substitute_blanks_append hbetween.2,
    ← List.append_assoc name, hnamed.substitute_append_equals,
    hnamed.substitute_append name hdetached, hafterSame, List.append_assoc]
  rfl

/-- Without an equals sign in the name, the first word of the name is defined. -/
theorem assignment_definitionText {name : Text} (hname : '=' ∉ name) (value : Text) :
    Statement.assignment (definitionText leader gap between name after value) =
      match (words name)[0]? with
      | some word => .ok (word, some value)
      | none => .error .missingOperand := by
  have hleft : '=' ∉ between ++ (name ++ after) := by
    simp only [List.mem_append, not_or]
    exact ⟨equals_not_mem_of_blanks hbetween.2, hname, equals_not_mem_of_blanks hafter⟩
  have hwords : words (between ++ (name ++ after)) = words name := by
    have hdetached := detached_of_blanks hafter
    have hnone : words after = [] := by
      have hblanks := words_blanks_append hafter []
      rwa [List.append_nil, words_nil] at hblanks
    rw [words_blanks_append hbetween.2, words_append name hdetached, hnone, List.append_nil]
  have hassoc : between ++ (name ++ (after ++ '=' :: value)) =
      (between ++ (name ++ after)) ++ '=' :: value := by
    simp only [List.append_assoc]
  rw [definitionText, hassoc, Statement.assignment_headed hgap hleft,
    Statement.operand_headed hgap (hbetween.detached_append _), hwords]
  cases (words name)[0]? <;> rfl

omit hafter in
/-- An equals sign in the name leaves more to the value than the line shows. -/
theorem assignment_definitionText_of_mem {name : Text} (hname : '=' ∈ name) {value word : Text}
    {given : Option Text}
    (h : Statement.assignment (definitionText leader gap between name after value) =
      .ok (word, given)) : ∃ front, given = some (front ++ '=' :: value) := by
  rcases List.eq_append_cons_of_mem hname with ⟨a, b, rfl, ha⟩
  have hleft : '=' ∉ between ++ a := by
    simp only [List.mem_append, not_or]
    exact ⟨equals_not_mem_of_blanks hbetween.2, ha⟩
  have hassoc : between ++ ((a ++ '=' :: b) ++ (after ++ '=' :: value)) =
      (between ++ a) ++ '=' :: ((b ++ after) ++ '=' :: value) := by
    simp only [List.append_assoc, List.cons_append]
  rw [definitionText, hassoc, Statement.assignment_headed hgap hleft] at h
  refine ⟨b ++ after, ?_⟩
  cases hoperand : Statement.operand (Statement.headed leader gap .define (between ++ a)) with
  | error reason => simp [hoperand, Except.map] at h
  | ok found =>
    have hpair : found = word ∧ some ((b ++ after) ++ '=' :: value) = given := by
      simpa [hoperand, Except.map] using h
    exact hpair.2.symm

omit hafter in
/-- A definition is read off its assignment. -/
theorem ofText_definitionText (hleader : leader ≠ .when) (name value written : Text) :
    Statement.ofText (definitionText leader gap between name after value) written =
      (Statement.assignment (definitionText leader gap between name after value)).map
        fun assigned => some (.definition leader assigned.1 (trim (assigned.2.getD []))) := by
  have hread := Statement.ofText_headed (Keyword.define.admits_of_ne_when hleader) hgap
    (hbetween.detached_append (name ++ (after ++ '=' :: value))) written
  rw [definitionText, hread, Statement.ofParts]
  cases Statement.assignment
      (Statement.headed leader gap .define (between ++ (name ++ (after ++ '=' :: value)))) <;>
    simp [bind, Except.bind, pure, Except.pure, Except.map]

end Parts

/-! ## Values on the line -/

/-- A value is told by its line alone: it is not empty, and if it opens a block, then the
block has no lines and nothing but quotes stands in the value. -/
def ToldByLine (value : Text) (rest : List Line) : Prop :=
  trim value ≠ [] ∧
    (Literal.opensBlock (trim value) = true → rest = [] ∧ Literal.stripQuotes value = [])

instance (value : Text) (rest : List Line) : Decidable (ToldByLine value rest) :=
  inferInstanceAs (Decidable (_ ∧ (_ → _)))

/-- A block uses at least one line if there is one. -/
theorem length_block_snd_lt {lines : List Line} (h : lines ≠ []) :
    (Literal.block lines).2.length < lines.length := by
  cases lines with
  | nil => exact absurd rfl h
  | cons line rest =>
    have hle : (Literal.blockLines (line :: rest)).2.length ≤ rest.length := by
      rw [Literal.blockLines]
      split
      · exact Nat.le_refl rest.length
      · exact Literal.length_blockLines_snd_le rest
    exact Nat.lt_succ_of_le hle

/-- A value that does not stand on its line uses another one. -/
theorem length_lt_of_definedValue_nil {name : Text} {rest : List Line}
    {result : Text × List Line} (h : definedValue name [] rest = .ok result) :
    result.2.length < rest.length := by
  cases rest with
  | nil => simp [definedValue] at h
  | cons next lines =>
    have hle : result.2.length ≤ lines.length := by
      simp only [definedValue, List.isEmpty_nil, if_true, Except.ok.injEq] at h
      subst h
      split
      · exact Literal.length_block_snd_le lines
      · exact Nat.le_refl lines.length
    exact Nat.lt_succ_of_le hle

/-- A definition takes its value from the line, and no other line is used, exactly if the
line tells the value. -/
theorem definedValue_trim_iff (name value : Text) (rest : List Line) :
    definedValue name (trim value) rest = .ok (Literal.stripQuotes value, rest) ↔
      ToldByLine value rest := by
  by_cases hnil : trim value = []
  · constructor
    · intro hdefined
      rw [hnil] at hdefined
      exact absurd (length_lt_of_definedValue_nil hdefined) (Nat.lt_irrefl rest.length)
    · rintro ⟨hne, -⟩
      exact absurd hnil hne
  by_cases hopens : Literal.opensBlock (trim value) = true
  · have hblock : definedValue name (trim value) rest =
        .ok (Literal.stripQuotes (Literal.block rest).1, (Literal.block rest).2) := by
      simp [definedValue, hnil, hopens]
    rw [hblock]
    constructor
    · intro hsame
      have hpair : Literal.stripQuotes (Literal.block rest).1 = Literal.stripQuotes value ∧
          (Literal.block rest).2 = rest := by
        simpa using hsame
      have hrest : rest = [] := by
        by_contra hne
        have hlt := length_block_snd_lt hne
        rw [hpair.2] at hlt
        exact Nat.lt_irrefl rest.length hlt
      subst hrest
      exact ⟨hnil, fun _ => ⟨rfl, hpair.1.symm⟩⟩
    · rintro ⟨-, hempty⟩
      rcases hempty hopens with ⟨rfl, hquotes⟩
      rw [hquotes]
      rfl
  · have hvalue : definedValue name (trim value) rest = .ok (Literal.stripQuotes value, rest) := by
      simp [definedValue, hnil, hopens, Literal.stripQuotes]
    rw [hvalue]
    constructor
    · intro _
      exact ⟨hnil, fun htrue => absurd htrue hopens⟩
    · intro _
      rfl

/-! ## When a line defines the name that it shows -/

/-- A line shows the definition of a name, and no variable occurs in its leader or in its
keyword. -/
structure ShowsDefinition (bindings : Bindings) (text : Text) (leader : Leader)
    (name value : Text) : Prop where
  admits : leader ≠ .when
  leaderIntact : bindings.Avoids leader.spelling
  keywordIntact : bindings.Avoids Keyword.define.spelling
  shows : ∃ gap between after, IsGap gap ∧ IsGap between ∧ (∀ c ∈ after, isBlank c = true) ∧
    text = definitionText leader gap between name after value

/-- The reading of a line that shows a definition. -/
theorem ShowsDefinition.reads {bindings : Bindings} {text : Text} {leader : Leader}
    {name value : Text} (h : ShowsDefinition bindings text leader name value)
    (hnamed : bindings.Named) :
    ∃ assigned : Except Malformation (Text × Option Text),
      Statement.ofText (bindings.substitute text) text = assigned.map
        (fun pair => some (.definition leader pair.1 (trim (pair.2.getD [])))) ∧
      ('=' ∉ bindings.substitute name → assigned =
        match (words (bindings.substitute name))[0]? with
        | some word => .ok (word, some (bindings.substitute value))
        | none => .error .missingOperand) ∧
      ('=' ∈ bindings.substitute name → ∀ pair, assigned = .ok pair →
        ∃ front, pair.2 = some (front ++ '=' :: bindings.substitute value)) := by
  rcases h.shows with ⟨gap, between, after, hgap, hbetween, hafter, htext⟩
  have hsubstituted := substitute_definitionText hgap hbetween hafter hnamed h.leaderIntact
    h.keywordIntact name value
  rw [← htext] at hsubstituted
  refine ⟨Statement.assignment (definitionText leader gap between (bindings.substitute name) after
    (bindings.substitute value)), ?_, ?_, ?_⟩
  · rw [hsubstituted]
    exact ofText_definitionText hgap hbetween h.admits _ _ _
  · intro hname
    exact assignment_definitionText hgap hbetween hafter hname _
  · intro hname pair hpair
    exact assignment_definitionText_of_mem hgap hbetween hname hpair

/-- A visit defines a name: it reads the name and the value off its line, uses no other
line, and neither binds nor changes another name.  A request sends the value from then
on. -/
structure Defines (passage : Passage) (rest : List Line) (leader : Leader)
    (name value : Text) : Prop where
  reads : passage.visit.statement? = some (.definition leader name (trim value))
  rest : passage.rest = rest
  binds : passage.after.bindings.value? name = some (Literal.stripQuotes value)
  others : ∀ other, other ≠ name →
    passage.after.bindings.value? other = passage.visit.before.bindings.value? other
  sends : ∀ text sender, (drafted passage.after text (some (.request sender name))).body =
    Literal.stripQuotes value

section Defines

variable {state : State} {line : Line} {rest : List Line} {leader : Leader}
  {name value : Text}

/-- A name that survives the replacement of the variables as the first word, without an
equals sign, is defined. -/
theorem defines_of_firstWord (hnamed : state.bindings.Named)
    (hshows : ShowsDefinition state.bindings line.text leader name value)
    (hname : '=' ∉ state.bindings.substitute name)
    (hfirst : (words (state.bindings.substitute name))[0]? = some name)
    (htold : ToldByLine (state.bindings.substitute value) rest) :
    ∃ passage, visitLine state line rest = .ok passage ∧
      Defines passage rest leader name (state.bindings.substitute value) := by
  rcases hshows.reads hnamed with ⟨assigned, hread, hplain, -⟩
  rw [hplain hname, hfirst] at hread
  have hbinds : Binds state.bindings rest
      (some (.definition leader name (trim (state.bindings.substitute value))))
      (state.bindings.define name (Literal.stripQuotes (state.bindings.substitute value))) rest :=
    .define ((definedValue_trim_iff name _ rest).mpr htold)
  refine ⟨_, visitLine_of_binds hread hbinds, ?_⟩
  have hself : (state.bindings.define name
      (Literal.stripQuotes (state.bindings.substitute value))).value? name =
        some (Literal.stripQuotes (state.bindings.substitute value)) :=
    Bindings.value?_define_self _ _ _
  refine ⟨rfl, rfl, ?_, ?_, ?_⟩
  · rw [emit_bindings]
    exact hself
  · intro other hother
    rw [emit_bindings]
    exact Bindings.value?_define_of_ne _ hother _
  · intro text sender
    rw [drafted_request_of_some _ _ _ _ (by rw [emit_bindings]; exact hself)]
    rfl

/-- A name in which no variable occurs is defined. -/
theorem defines_of_unused (hnamed : state.bindings.Named)
    (hshows : ShowsDefinition state.bindings line.text leader name value)
    (hname : IsName name) (hunused : state.bindings.Avoids name)
    (htold : ToldByLine (state.bindings.substitute value) rest) :
    ∃ passage, visitLine state line rest = .ok passage ∧
      Defines passage rest leader name (state.bindings.substitute value) := by
  have hsame : state.bindings.substitute name = name := hunused.substitute_eq hnamed
  refine defines_of_firstWord hnamed hshows ?_ ?_ htold
  · rw [hsame]
    exact hname.2
  · rw [hsame, words_eq_singleton hname.1]
    rfl

/-- A line that defines the name that it shows keeps the name as its first word, lets no
equals sign into it, and tells the value. -/
theorem Defines.survives (hnamed : state.bindings.Named)
    (hshows : ShowsDefinition state.bindings line.text leader name value) {passage : Passage}
    (hvisit : visitLine state line rest = .ok passage)
    (hdefines : Defines passage rest leader name (state.bindings.substitute value)) :
    '=' ∉ state.bindings.substitute name ∧
      (words (state.bindings.substitute name))[0]? = some name ∧
      ToldByLine (state.bindings.substitute value) rest := by
  rcases visitLine_ok hvisit with ⟨statement, hpassed⟩
  obtain rfl : statement =
      some (.definition leader name (trim (state.bindings.substitute value))) := by
    rw [← hdefines.reads, hpassed.statement?_eq]
  rcases hshows.reads hnamed with ⟨assigned, hread, hplain, hequals⟩
  rw [hpassed.reads] at hread
  -- the assignment that was read
  obtain ⟨given, rfl, hgiven⟩ : ∃ given, assigned = .ok (name, given) ∧
      trim (given.getD []) = trim (state.bindings.substitute value) := by
    cases assigned with
    | error reason => simp [Except.map] at hread
    | ok pair =>
      rcases pair with ⟨found, given⟩
      have hsame : name = found ∧
          trim (state.bindings.substitute value) = trim (given.getD []) := by
        simpa [Except.map] using hread
      exact ⟨given, by rw [hsame.1], hsame.2.symm⟩
  have hname : '=' ∉ state.bindings.substitute name := by
    intro hmem
    rcases hequals hmem _ rfl with ⟨front, rfl⟩
    have hlength := length_trim_lt (c := '=') (by decide) front (state.bindings.substitute value)
    rw [Option.getD_some] at hgiven
    rw [hgiven] at hlength
    exact Nat.lt_irrefl _ hlength
  refine ⟨hname, ?_, ?_⟩
  · have hassigned := hplain hname
    cases hword : (words (state.bindings.substitute name))[0]? with
    | none => simp [hword] at hassigned
    | some word =>
      have hsame : name = word ∧ given = some (state.bindings.substitute value) := by
        simpa [hword] using hassigned
      rw [hsame.1]
  · rcases hpassed.binds.exists_definedValue with ⟨given, hdefined, hafter⟩
    have hvalue := hdefines.binds
    rw [hafter, Bindings.value?_define_self, Option.some.injEq] at hvalue
    rw [← definedValue_trim_iff name, hdefined, hvalue, hdefines.rest]

end Defines

end Scan

open Scan

/-- In every state that a scan reaches, a line that shows the definition of a name
defines that name if and only if, with the variables replaced, the name keeps itself as
its first word and holds no equals sign, and the line tells the value. -/
theorem exists_defines_iff {content : Text} {state : State} {line : Line} {rest : List Line}
    (hreach : Reaches content state (line :: rest)) {leader : Leader} {name value : Text}
    (hshows : ShowsDefinition state.bindings line.text leader name value)
    (hname : IsName name) :
    (∃ passage, visitLine state line rest = .ok passage ∧
      Defines passage rest leader name (state.bindings.substitute value)) ↔
        '=' ∉ state.bindings.substitute name ∧
          firstWord (state.bindings.substitute name) = name ∧
          ToldByLine (state.bindings.substitute value) rest := by
  have hfirst : firstWord (state.bindings.substitute name) = name ↔
      (words (state.bindings.substitute name))[0]? = some name := by
    rw [firstWord]
    cases words (state.bindings.substitute name) with
    | nil => simpa using hname.ne_nil.symm
    | cons word later => simp
  rw [hfirst]
  constructor
  · rintro ⟨passage, hvisit, hdefines⟩
    exact hdefines.survives hreach.named hshows hvisit
  · rintro ⟨hequals, hword, htold⟩
    exact defines_of_firstWord hreach.named hshows hequals hword htold

/-- A script with two definitions, the second one by means of the first. -/
def chainedDefinitions : Text :=
  "* def a = 1\nAnd def b = a".toList

theorem exists_defines_iff_chainedDefinitions :
    ∃ state line rest passage, Reaches chainedDefinitions state (line :: rest) ∧
      visitLine state line rest = .ok passage ∧
        Defines passage rest .also "b".toList (state.bindings.substitute " a".toList) := by
  obtain ⟨visit, hvisit, hbindings, hline⟩ : ∃ visit ∈ (Script.scan chainedDefinitions).visits,
      visit.before.bindings = ⟨[("a".toList, "1".toList)]⟩ ∧
        visit.line.text = definitionText .also [' '] [' '] "b".toList [' '] " a".toList := by
    decide +kernel
  rcases exists_reaches_of_mem_visits hvisit with ⟨state, line, rest, hreach, rfl⟩
  rw [visited_before] at hbindings
  rw [visited_line] at hline
  have hshows : ShowsDefinition state.bindings line.text .also "b".toList " a".toList :=
    ⟨by decide, by rw [hbindings]; decide, by rw [hbindings]; decide,
      [' '], [' '], [' '], isGap_space, isGap_space, by decide, hline⟩
  have htold : ToldByLine (state.bindings.substitute " a".toList) rest := by
    rw [hbindings]
    exact ⟨by decide +kernel, fun hopens => absurd hopens (by decide +kernel)⟩
  obtain ⟨passage, hpassage⟩ := (exists_defines_iff hreach hshows (by decide)).mpr
    ⟨by rw [hbindings]; decide +kernel, by rw [hbindings]; decide +kernel, htold⟩
  exact ⟨state, line, rest, passage, hreach, hpassage⟩

/-- A second definition of a name defines its old value instead. -/
example : (Script.scan
    "* def a = 1\n* def a = 2\n* url 'u'\n* request a\n* method put".toList).requests =
      [{
        method := "PUT".toList
        baseUrl := "u".toList
        headers := ⟨[("Accept".toList, jsonMediaType), ("Content-Type".toList, jsonMediaType)]⟩
        body := "1".toList }] := by
  decide +kernel

end RequestScript

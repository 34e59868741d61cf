import RequestScript.Proofs.Scan.Emission

/-!
# What texts issue

A scan of texts that stand one after another passes through the states between them.
What a text issues depends on the state before it only, not on its place in the script
and, unless it is a definition, not on what comes after it.

Main results:

- Definition {lit}`Issues`: texts lead from a state to another and issue requests.
- Theorem {lit}`Issues.append`: texts that follow each other.
- Theorem {lit}`Issues.of_headed`: one line with a leader and a keyword.
- Theorem {lit}`Issues.of_block`: a definition with the lines of its block.
-/

namespace RequestScript

open Text

/-- Trimming a line with a head trims its end. -/
theorem Statement.trim_headed (leader : Leader) (gap : Text) (keyword : Keyword) (rest : Text) :
    trim (headed leader gap keyword rest) = headed leader gap keyword (stripEnd isBlank rest) := by
  rcases keyword.isWord_spelling.exists_getLast? with ⟨c, hlast, hc⟩
  have hfront : (gap ++ keyword.spelling).getLast? = some c := by
    rw [List.getLast?_append, hlast]
    rfl
  rw [headed, leader.isWord_spelling.trim_append, ← List.append_assoc,
    Text.stripEnd_append hfront hc, List.append_assoc]
  rfl

namespace Scan

/-- A line that does not go on with a scenario drops nothing. -/
theorem beforeEffect_of_firstWord_ne (draft : Draft) {text : Text}
    (h : firstWord text ≠ Leader.also.spelling) : beforeEffect draft text = draft := by
  apply beforeEffect_of_not_continuesPending
  rw [Bool.eq_false_iff]
  intro hdrop
  exact h ((continuesPending_iff draft text).mp hdrop).2.1

/-! ## Texts one after another -/

/-- Texts lead from a state to another and issue requests, wherever they stand in a
script and whatever comes after them. -/
def Issues (state : State) (texts : List Text) (requests : List Request) (after : State) : Prop :=
  ∀ index more, ∃ visits last,
    Steps state (Script.linesFrom index (texts ++ more)) visits after
      (Script.linesFrom last more) ∧
      visits.filterMap Visit.emitted = requests

namespace Issues

variable {state middle after : State} {texts following : List Text}
  {requests later : List Request}

theorem nil (state : State) : Issues state [] [] state :=
  fun index more => ⟨[], index, .refl state (Script.linesFrom index more), rfl⟩

theorem append (first : Issues state texts requests middle)
    (second : Issues middle following later after) :
    Issues state (texts ++ following) (requests ++ later) after := by
  intro index more
  rcases first index (following ++ more) with ⟨visits, between, hsteps, hrequests⟩
  rcases second between more with ⟨others, last, hothers, hlater⟩
  refine ⟨visits ++ others, last, ?_, ?_⟩
  · rw [List.append_assoc]
    exact hsteps.append hothers
  · rw [List.filterMap_append, hrequests, hlater]

/-- Texts of one shape, each of which adds its item to what the items before it have made
of the state and issues nothing. -/
theorem map {α β : Type} (stateOf : β → State) (text : α → Text) (add : β → α → β)
    (items : List α) (start : β)
    (hstep : ∀ item ∈ items, ∀ made,
      Issues (stateOf made) [text item] [] (stateOf (add made item))) :
    Issues (stateOf start) (items.map text) [] (stateOf (items.foldl add start)) := by
  induction items generalizing start with
  | nil => exact nil _
  | cons item items ih =>
    have hissues := hstep item List.mem_cons_self start
    have hlater := ih (add start item) fun other hother =>
      hstep other (List.mem_cons_of_mem item hother)
    exact hissues.append hlater

section Printed

variable {bindings : Bindings} {draft next : Draft}

/-! ## One line -/

/-- A line that is not a definition does what its statement drafts. -/
theorem of_line {text : Text} {statement : Option Statement}
    (hread : Statement.ofText (bindings.substitute (trim text)) (trim text) = .ok statement)
    (hkeep : ∀ leader name value, statement ≠ some (.definition leader name value))
    (hnext : drafted ⟨bindings, draft⟩ (bindings.substitute (trim text)) statement = next) :
    Issues ⟨bindings, draft⟩ [text] (emit ⟨bindings, next⟩).2.toList
      (emit ⟨bindings, next⟩).1 := by
  intro index more
  have hbinds : Binds bindings (Script.linesFrom (index + 1) more) statement bindings
      (Script.linesFrom (index + 1) more) := .keep hkeep
  have hvisit : visitLine ⟨bindings, draft⟩ ⟨index, trim text⟩ (Script.linesFrom (index + 1) more) =
      .ok ⟨⟨⟨bindings, draft⟩, ⟨index, trim text⟩, bindings.substitute (trim text), .ok statement,
        (emit ⟨bindings, next⟩).2⟩, (emit ⟨bindings, next⟩).1,
        Script.linesFrom (index + 1) more⟩ := by
    rw [← hnext]
    exact visitLine_of_binds hread hbinds
  refine ⟨_, index + 1, .single hvisit, ?_⟩
  cases (emit ⟨bindings, next⟩).2 <;> rfl

/-- A scenario line starts a scenario, whatever its title. -/
theorem of_scenario (draft : Draft) (hnamed : bindings.Named)
    (hmark : bindings.Avoids "Scenario:".toList) {title : Text} (htitle : Detached title) :
    Issues ⟨bindings, draft⟩ ["Scenario:".toList ++ title] []
      ⟨bindings, draft.startScenario⟩ := by
  have hword : IsWord "Scenario:".toList := by decide
  have htext : bindings.substitute (trim ("Scenario:".toList ++ title)) =
      "Scenario:".toList ++ bindings.substitute (stripEnd isBlank title) := by
    rw [hword.trim_append, hnamed.substitute_append _ htitle.stripEnd, hmark.substitute_eq hnamed]
  have hboundary : Statement.isBoundary
      (bindings.substitute (trim ("Scenario:".toList ++ title))) = true := by
    rw [htext, Statement.isBoundary, Statement.boundaryMarks, List.any_cons, Bool.or_eq_true]
    exact Or.inl (List.isPrefixOf_iff_prefix.mpr (List.prefix_append _ _))
  exact of_line (Statement.ofText_boundary hboundary _) (by simp) rfl

section Headed

variable {keyword : Keyword} {rest : Text} (statement : Statement)

/-- The reading of a printed line with a head, and its first word. -/
theorem ofText_of_headed (hnamed : bindings.Named)
    (hstar : bindings.Avoids Leader.star.spelling)
    (hkeyword : bindings.Avoids keyword.spelling) (hrest : Detached rest)
    (hread : Statement.ofParts .star keyword
      (Statement.headed .star [' '] keyword (bindings.substitute (stripEnd isBlank rest)))
      (Statement.headed .star [' '] keyword (stripEnd isBlank rest)) = .ok statement) :
    Statement.ofText (bindings.substitute (trim (Statement.headed .star [' '] keyword rest)))
        (trim (Statement.headed .star [' '] keyword rest)) = .ok (some statement) ∧
      firstWord (bindings.substitute (trim (Statement.headed .star [' '] keyword rest))) ≠
        Leader.also.spelling := by
  have hadmits : keyword.admits .star = true := by
    cases keyword <;> rfl
  rw [Statement.trim_headed, Statement.substitute_headed hnamed hstar hkeyword isGap_space
    hrest.stripEnd]
  constructor
  · rw [Statement.ofText_headed hadmits isGap_space (hnamed.detached_substitute hrest.stripEnd),
      hread]
    rfl
  · rw [Statement.firstWord_headed isGap_space]
    decide

/-- A line with a head that is not a definition does what its statement makes of the
request in progress. -/
theorem of_headed (hnamed : bindings.Named)
    (hstar : bindings.Avoids Leader.star.spelling)
    (hkeyword : bindings.Avoids keyword.spelling) (hrest : Detached rest)
    (hread : Statement.ofParts .star keyword
      (Statement.headed .star [' '] keyword (bindings.substitute (stripEnd isBlank rest)))
      (Statement.headed .star [' '] keyword (stripEnd isBlank rest)) = .ok statement)
    (hkeep : ∀ leader name value, statement ≠ .definition leader name value)
    (hmark : ∀ mark, statement ≠ .boundary mark)
    (hnext : applyStatement bindings draft statement = next) :
    Issues ⟨bindings, draft⟩ [Statement.headed .star [' '] keyword rest]
      (emit ⟨bindings, next⟩).2.toList (emit ⟨bindings, next⟩).1 := by
  rcases ofText_of_headed statement hnamed hstar hkeyword hrest hread with ⟨hline, hfirst⟩
  apply of_line hline (by simpa using hkeep)
  rw [drafted_of_ne_boundary _ _ hmark, beforeEffect_of_firstWord_ne draft hfirst, hnext]

omit statement in
/-- Substitution leaves the end of a line alone in which no variable occurs. -/
theorem substitute_stripEnd_of_avoids (hnamed : bindings.Named)
    (havoids : bindings.Avoids (Statement.headed .star [' '] keyword rest)) :
    bindings.substitute (stripEnd isBlank rest) = stripEnd isBlank rest := by
  rcases Statement.avoids_of_headed havoids with ⟨-, -, hrest⟩
  exact (hrest.of_isInfix (stripEnd_isPrefix isBlank rest).isInfix).substitute_eq hnamed

/-- A line with a head in which no variable occurs is read as it is printed. -/
theorem of_avoids (hnamed : bindings.Named)
    (havoids : bindings.Avoids (Statement.headed .star [' '] keyword rest))
    (hrest : Detached rest)
    (hread : Statement.ofParts .star keyword
      (Statement.headed .star [' '] keyword (stripEnd isBlank rest))
      (Statement.headed .star [' '] keyword (stripEnd isBlank rest)) = .ok statement)
    (hkeep : ∀ leader name value, statement ≠ .definition leader name value)
    (hmark : ∀ mark, statement ≠ .boundary mark)
    (hnext : applyStatement bindings draft statement = next) :
    Issues ⟨bindings, draft⟩ [Statement.headed .star [' '] keyword rest]
      (emit ⟨bindings, next⟩).2.toList (emit ⟨bindings, next⟩).1 := by
  rcases Statement.avoids_of_headed havoids with ⟨hstar, hkeyword, -⟩
  have hsame := substitute_stripEnd_of_avoids hnamed havoids
  exact of_headed statement hnamed hstar hkeyword hrest (by rw [hsame]; exact hread) hkeep hmark
    hnext

/-- A line with a head in which no variable occurs and which completes nothing. -/
theorem silent (hnamed : bindings.Named)
    (havoids : bindings.Avoids (Statement.headed .star [' '] keyword rest))
    (hrest : Detached rest)
    (hread : Statement.ofParts .star keyword
      (Statement.headed .star [' '] keyword (stripEnd isBlank rest))
      (Statement.headed .star [' '] keyword (stripEnd isBlank rest)) = .ok statement)
    (hkeep : ∀ leader name value, statement ≠ .definition leader name value)
    (hmark : ∀ mark, statement ≠ .boundary mark)
    (hnext : applyStatement bindings draft statement = next)
    (hcomplete : next.isComplete = false) :
    Issues ⟨bindings, draft⟩ [Statement.headed .star [' '] keyword rest] []
      ⟨bindings, next⟩ := by
  have hissues := of_avoids statement hnamed havoids hrest hread hkeep hmark hnext
  rw [emit_of_not_isComplete hcomplete] at hissues
  exact hissues

end Headed

/-! ## One definition with its block -/

theorem blockLines_linesFrom {texts : List Text} {closing : Text}
    (htexts : ∀ text ∈ texts, Literal.closesBlock (trim text) = false)
    (hclosing : Literal.closesBlock (trim closing) = true) (index : Nat) (more : List Text) :
    Literal.blockLines (Script.linesFrom index (texts ++ closing :: more)) =
      (texts.map trim, Script.linesFrom (index + texts.length + 1) more) := by
  induction texts generalizing index with
  | nil => simp [Script.linesFrom, Literal.blockLines, hclosing]
  | cons text texts ih =>
    have htext := htexts text List.mem_cons_self
    have hrest := ih (fun other hother => htexts other (List.mem_cons_of_mem text hother))
      (index + 1)
    simp only [List.cons_append, Script.linesFrom, Literal.blockLines, htext, hrest]
    simp [Nat.add_right_comm, Nat.add_assoc]

/-- A definition with its block binds its variable and completes nothing. -/
theorem of_block {keyword : Keyword} {rest name value : Text} {texts : List Text} {closing : Text}
    (hnamed : bindings.Named)
    (havoids : bindings.Avoids (Statement.headed .star [' '] keyword rest))
    (hrest : Detached rest)
    (hread : Statement.ofParts .star keyword
      (Statement.headed .star [' '] keyword (stripEnd isBlank rest))
      (Statement.headed .star [' '] keyword (stripEnd isBlank rest)) =
        .ok (.definition .star name value))
    (hvalue : value ≠ []) (hopens : Literal.opensBlock value = true)
    (htexts : ∀ text ∈ texts, Literal.closesBlock (trim text) = false)
    (hclosing : Literal.closesBlock (trim closing) = true)
    (hcomplete : draft.isComplete = false) :
    Issues ⟨bindings, draft⟩ (Statement.headed .star [' '] keyword rest :: (texts ++ [closing])) []
      ⟨bindings.define name
        (Literal.stripQuotes (trim (unlines (texts.map trim)))), draft⟩ := by
  intro index more
  rcases Statement.avoids_of_headed havoids with ⟨hstar, hkeyword, -⟩
  have hsame := substitute_stripEnd_of_avoids hnamed havoids
  obtain ⟨hline, hfirst⟩ := ofText_of_headed (.definition .star name value) hnamed hstar hkeyword
    hrest (by rw [hsame]; exact hread)
  have hlines := blockLines_linesFrom htexts hclosing (index + 1) more
  have hdefined : definedValue name value
      (Script.linesFrom (index + 1) (texts ++ closing :: more)) =
        .ok (Literal.stripQuotes (trim (unlines (texts.map trim))),
          Script.linesFrom (index + 1 + texts.length + 1) more) := by
    unfold definedValue
    simp [hvalue, hopens, Literal.block, hlines]
  have hvisit : visitLine ⟨bindings, draft⟩
      ⟨index, trim (Statement.headed .star [' '] keyword rest)⟩
      (Script.linesFrom (index + 1) (texts ++ closing :: more)) = .ok ⟨⟨⟨bindings, draft⟩,
        ⟨index, trim (Statement.headed .star [' '] keyword rest)⟩,
        bindings.substitute (trim (Statement.headed .star [' '] keyword rest)),
        .ok (some (.definition .star name value)), none⟩,
        ⟨bindings.define name
          (Literal.stripQuotes (trim (unlines (texts.map trim)))), draft⟩,
        Script.linesFrom (index + 1 + texts.length + 1) more⟩ := by
    rw [visitLine_of_binds hline (.define hdefined), drafted_definition,
      beforeEffect_of_firstWord_ne draft hfirst, emit_of_not_isComplete hcomplete]
  rw [List.cons_append, List.append_assoc, List.singleton_append]
  exact ⟨_, index + 1 + texts.length + 1, .single hvisit, rfl⟩

end Printed

end Issues
end Scan
end RequestScript

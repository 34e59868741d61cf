import RequestScript.Proofs.Scan.Definition
import RequestScript.Proofs.Scan.Places

/-!
# Where scripts fail

A script that fails does so at its first line that can not be processed.  The lines before
it get through on their own, whatever stands after them, and so any script that begins
with the same lines fails in the same way.  There is one exception: a definition whose
value should stand on the next line fails only when there is no next line.

The argument is about what stands behind the lines that a scan has used.  A visit looks at
its own line and at the lines that its definition takes up; when these have come to an end
before the last lines begin, the last lines can be replaced by any others.

Main results:

- Theorem {lit}`Steps.replace`: a scan up to a line does not depend on that line or on the
  lines after it.
- Theorem {lit}`exists_steps_of_failure`: a scan that fails has got through up to the line
  where it fails.
- Theorem {lit}`visitLine_error_reason`: why a visit fails.
- Theorem {lit}`locates_of_requests_eq_error`: where a script fails and what it tells.
-/

namespace RequestScript

open Text

/-! ## Why a line can not be read -/

namespace Statement

variable {text written : Text} {reason : Malformation}

/-- A line without an operand is at fault for that only. -/
theorem operand_error (h : operand text = .error reason) : reason = .missingOperand := by
  unfold operand at h
  split at h
  · simp at h
  · exact (Except.error.inj h).symm

/-- What is made of an operand is missing only with the operand. -/
theorem operand_map_error {α : Type} {made : Text → α}
    (h : (do return made (← operand text)) = .error reason) : reason = .missingOperand := by
  cases hname : operand text with
  | error found =>
    rw [hname] at h
    obtain rfl := Except.error.inj h
    exact operand_error hname
  | ok name =>
    rw [hname] at h
    cases h

/-- An assignment is at fault for its operand only. -/
theorem assignment_error (h : assignment text = .error reason) : reason = .missingOperand := by
  unfold assignment at h
  split at h
  exact operand_map_error h

/-- A full assignment is at fault for its operand or for its value. -/
theorem fullAssignment_error (h : fullAssignment text = .error reason) :
    reason = .missingOperand ∨ reason = .missingAssignment := by
  unfold fullAssignment at h
  split at h
  · exact Or.inr (Except.error.inj h).symm
  · exact Or.inl (operand_map_error h)

/-- Reading a line that begins like a statement fails where its operands are read. -/
theorem ofParts_error {leader : Leader} {keyword : Keyword}
    (h : ofParts leader keyword text written = .error reason) :
    assignment text = .error reason ∨ fullAssignment text = .error reason ∨
      operand text = .error reason ∨ operand written = .error reason := by
  cases keyword with
  | define =>
    cases hread : assignment text with
    | error found => simp_all [ofParts, bind, Except.bind]
    | ok pair => simp [ofParts, hread, bind, Except.bind, pure, Except.pure] at h
  | url => simp [ofParts] at h
  | path => simp [ofParts] at h
  | header | param =>
    cases hread : fullAssignment text with
    | error found => simp_all [ofParts, bind, Except.bind]
    | ok pair => simp [ofParts, hread, bind, Except.bind, pure, Except.pure] at h
  | method =>
    cases hread : operand text with
    | error found => simp_all [ofParts, bind, Except.bind]
    | ok word => simp [ofParts, hread, bind, Except.bind, pure, Except.pure] at h
  | request =>
    cases hread : operand written with
    | error found => simp_all [ofParts, bind, Except.bind]
    | ok word => simp [ofParts, hread, bind, Except.bind, pure, Except.pure] at h

/-- A line that can not be read lacks an operand or an equals sign. -/
theorem ofText_error (h : ofText text written = .error reason) :
    reason = .missingOperand ∨ reason = .missingAssignment := by
  unfold ofText at h
  split at h
  · simp at h
  · split at h
    · simp at h
    · rename_i leader keyword _
      cases hparts : ofParts leader keyword text written with
      | ok statement => simp [hparts, Except.map] at h
      | error found =>
        obtain rfl : found = reason := by simpa [hparts, Except.map] using h
        rcases ofParts_error hparts with hread | hread | hread | hread
        · exact Or.inl (assignment_error hread)
        · exact fullAssignment_error hread
        · exact Or.inl (operand_error hread)
        · exact Or.inl (operand_error hread)

end Statement

namespace Scan

/-! ## Replacing the lines behind -/

/-- A block that is closed before the last lines begin is the same before other lines. -/
theorem blockLines_replace {front rest left : List Line} (hleft : left ≠ [])
    (h : (Literal.blockLines (front ++ left)).2 = rest ++ left) (other : List Line) :
    Literal.blockLines (front ++ other) =
      ((Literal.blockLines (front ++ left)).1, rest ++ other) := by
  induction front with
  | nil =>
    -- a block that begins in the last lines does not leave all of them
    exfalso
    have hlt : (Literal.blockLines left).2.length < left.length := length_block_snd_lt hleft
    have hlength := congrArg List.length h
    simp only [List.nil_append, List.length_append] at hlength
    omega
  | cons line front ih =>
    simp only [List.cons_append, Literal.blockLines] at h ⊢
    by_cases hcloses : Literal.closesBlock line.text = true
    · rw [if_pos hcloses] at h
      have hfront : front = rest := List.append_cancel_right h
      simp [hcloses, hfront]
    · rw [if_neg hcloses] at h
      simp [hcloses, ih h]

/-- A value is read alike whatever lines stand behind the last one that it uses. -/
theorem valueFrom_replace {text : Text} {front rest left : List Line} (hleft : left ≠ [])
    (h : (valueFrom text (front ++ left)).2 = rest ++ left) (other : List Line) :
    valueFrom text (front ++ other) = ((valueFrom text (front ++ left)).1, rest ++ other) := by
  unfold valueFrom at h ⊢
  by_cases hopens : Literal.opensBlock text = true
  · simp only [hopens, if_true, Literal.block] at h ⊢
    rw [blockLines_replace hleft h other]
  · simp only [hopens] at h ⊢
    have hfront : front = rest := List.append_cancel_right h
    simp [hfront]

/-- A value that is found before the last lines begin is found before other lines. -/
theorem definedValue_replace {name value given : Text} {front rest left : List Line}
    (hleft : left ≠ []) (h : definedValue name value (front ++ left) = .ok (given, rest ++ left))
    (other : List Line) :
    definedValue name value (front ++ other) = .ok (given, rest ++ other) := by
  by_cases hvalue : value = []
  · subst hvalue
    cases front with
    | nil =>
      exfalso
      have hlt := length_lt_of_definedValue_nil h
      simp only [List.nil_append, List.length_append] at hlt
      omega
    | cons next front =>
      rw [List.cons_append, definedValue_nil_cons, Except.ok.injEq] at h
      rw [List.cons_append, definedValue_nil_cons,
        valueFrom_replace hleft (congrArg Prod.snd h) other, h]
  · rw [definedValue_of_ne_nil hvalue, Except.ok.injEq] at h
    rw [definedValue_of_ne_nil hvalue, valueFrom_replace hleft (congrArg Prod.snd h) other, h]

/-- A statement binds alike whatever lines stand behind the last one that it uses. -/
theorem Binds.replace {bindings after : Bindings} {front rest left : List Line}
    {statement : Option Statement} (hleft : left ≠ [])
    (h : Binds bindings (front ++ left) statement after (rest ++ left)) (other : List Line) :
    Binds bindings (front ++ other) statement after (rest ++ other) := by
  generalize hremaining : rest ++ left = remaining at h
  cases h with
  | define hdefined =>
    rw [← hremaining] at hdefined
    exact .define (definedValue_replace hleft hdefined other)
  | keep hother =>
    rw [List.append_cancel_right hremaining]
    exact .keep hother

/-- A visit that uses none of the last lines goes the same way before other lines. -/
theorem visitLine_replace {state : State} {line : Line} {front rest left : List Line}
    {passage : Passage} (hleft : left ≠ [])
    (h : visitLine state line (front ++ left) = .ok passage)
    (hrest : passage.rest = rest ++ left) (other : List Line) :
    visitLine state line (front ++ other) = .ok { passage with rest := rest ++ other } := by
  rcases visitLine_ok h with ⟨statement, hpassed⟩
  have hbinds := hpassed.binds
  rw [hrest] at hbinds
  have hhere := visitLine_of_binds hpassed.reads hbinds
  rw [h, Except.ok.injEq] at hhere
  have hvisit := congrArg Passage.visit hhere
  have hafter := congrArg Passage.after hhere
  rw [visitLine_of_binds hpassed.reads (hbinds.replace hleft other), Except.ok.injEq,
    Passage.mk.injEq]
  exact ⟨hvisit.symm, hafter.symm, rfl⟩

/-- A scan up to a line does not depend on that line or on the lines after it. -/
theorem Steps.replace {state after : State} {front left : List Line} {visits : List Visit}
    (hleft : left ≠ []) (h : Steps state (front ++ left) visits after left)
    (other : List Line) : Steps state (front ++ other) visits after other := by
  generalize hlines : front ++ left = lines at h
  induction h generalizing front with
  | refl state lines =>
    have hfront : front = [] := List.append_left_eq_self.mp hlines
    rw [hfront]
    exact .refl state other
  | @cons state after line rest left visits passage hvisit hlater ih =>
    cases front with
    | nil =>
      exfalso
      have hsuffix : left <:+ rest := hlater.suffix.trans (rest_suffix hvisit)
      have hle := hsuffix.length_le
      have hlength := congrArg List.length hlines
      simp only [List.nil_append, List.length_cons] at hlength
      omega
    | cons first front =>
      rcases List.cons.inj hlines with ⟨rfl, rfl⟩
      rcases hlater.suffix with ⟨between, hbetween⟩
      have hother := visitLine_replace hleft hvisit hbetween.symm other
      have hsteps := Steps.cons hother (ih hleft hbetween)
      exact hsteps

/-! ## Why a visit fails -/

/-- A value is missing only where no line is left. -/
theorem definedValue_error {name value : Text} {rest : List Line} {reason : Malformation}
    (h : definedValue name value rest = .error reason) :
    rest = [] ∧ reason = .missingValue name := by
  by_cases hvalue : value = []
  · subst hvalue
    cases rest with
    | nil => exact ⟨rfl, (Except.error.inj h).symm⟩
    | cons next lines => simp at h
  · rw [definedValue_of_ne_nil hvalue] at h
    simp at h

/-- A visit fails because its line can not be read, or because the value of its definition
is missing at the end of the script. -/
theorem visitLine_error_reason {state : State} {line : Line} {rest : List Line} {visit : Visit}
    {reason : Malformation} (h : visitLine state line rest = .error (visit, reason)) :
    Statement.ofText (state.bindings.substitute line.text) line.text = .error reason ∨
      rest = [] ∧ ∃ name, reason = .missingValue name := by
  unfold visitLine at h
  dsimp only at h
  split at h
  · rename_i found hread
    obtain rfl : found = reason := by simpa using (congrArg Prod.snd (Except.error.inj h))
    exact Or.inl hread
  · split at h
    · rename_i found heffect
      obtain rfl : found = reason := by simpa using (congrArg Prod.snd (Except.error.inj h))
      rcases effect_error heffect with ⟨leader, name, value, -, hdefined⟩
      rcases definedValue_error hdefined with ⟨hrest, hreason⟩
      exact Or.inr ⟨hrest, name, hreason⟩
    · simp at h

/-- A line that can not be read fails whatever stands after it. -/
theorem visitLine_of_ofText_error {state : State} {line : Line} {reason : Malformation}
    (h : Statement.ofText (state.bindings.substitute line.text) line.text = .error reason)
    (rest : List Line) : ∃ visit, visitLine state line rest = .error (visit, reason) := by
  simp [visitLine, h]

/-- A scan that fails has got through up to the line where it fails. -/
theorem exists_steps_of_failure {state : State} {lines : List Line} {failure : Failure}
    (h : (run state lines).failure = some failure) :
    ∃ visits here line rest visit, Steps state lines visits here (line :: rest) ∧
      visitLine here line rest = .error (visit, failure.reason) ∧
      failure.lineNumber = line.number ∧ failure.line = line.text := by
  induction state, lines using run.induct with
  | case1 state => simp at h
  | case2 state line rest visit reason hvisit =>
    rw [run_cons_of_error hvisit] at h
    obtain rfl := Option.some.inj h
    exact ⟨[], state, line, rest, visit, .refl state (line :: rest), hvisit, rfl, rfl⟩
  | case3 state line rest passage hvisit _ ih =>
    rw [run_cons_of_ok hvisit] at h
    rcases ih h with ⟨visits, here, last, left, visit, hsteps, hfails, hplace⟩
    exact ⟨passage.visit :: visits, here, last, left, visit, .cons hvisit hsteps, hfails, hplace⟩

end Scan

/-! ## The lines before a failure -/

namespace Script

/-- The first lines are those of the first texts. -/
theorem take_linesFrom (index count : Nat) (texts : List Text) :
    (linesFrom index texts).take count = linesFrom index (texts.take count) := by
  induction count generalizing index texts with
  | zero => rfl
  | succ count ih =>
    cases texts with
    | nil => rfl
    | cons raw texts => simp [linesFrom, ih]

/-- A line has its place and is trimmed. -/
theorem getElem?_linesFrom (index place : Nat) (texts : List Text) :
    (linesFrom index texts)[place]? = texts[place]?.map fun raw => ⟨index + place, trim raw⟩ := by
  induction place generalizing index texts with
  | zero => cases texts <;> simp [linesFrom]
  | succ place ih =>
    cases texts with
    | nil => simp
    | cons raw texts =>
      have hplace : index + 1 + place = index + (place + 1) := by omega
      simp [linesFrom, ih, hplace]

/-- Scripts with the same first lines have the same first lines when these are trimmed. -/
theorem lines_eq_of_take_eq {content other : Text} {count : Nat}
    (h : (Text.lines other).take count = (Text.lines content).take count) :
    lines other = (lines content).take count ++ (lines other).drop count := by
  have htake : (lines other).take count = (lines content).take count := by
    rw [lines, lines, take_linesFrom, take_linesFrom, h]
  rw [← htake, List.take_append_drop]

theorem requests_nil : requests [] = .ok [] := by decide +kernel

/-- No line of a text holds a newline. -/
theorem newline_not_mem_of_mem_textLines {content raw : Text} (h : raw ∈ Text.lines content) :
    '\n' ∉ raw := by
  intro hnewline
  have hother := (mem_of_mem_splitOnP h '\n' hnewline).2
  simp at hother

/-- The first lines of a script, as a script: its lines are these lines. -/
theorem lines_unlines_take {content : Text} {count : Nat} (h : count ≠ 0) :
    lines (unlines ((Text.lines content).take count)) = (lines content).take count := by
  have hne : (Text.lines content).take count ≠ [] := by
    have hlines : Text.lines content ≠ [] := List.splitOn_ne_nil _ _
    simp [h, hlines]
  have hfree : ∀ text ∈ (Text.lines content).take count, '\n' ∉ text :=
    fun text htext => newline_not_mem_of_mem_textLines (List.mem_of_mem_take htext)
  have hcut : Text.lines (unlines ((Text.lines content).take count)) =
      (Text.lines content).take count := List.splitOn_intercalate '\n' hfree hne
  rw [lines, hcut, lines, take_linesFrom]

end Script

open Scan

section Front

variable {content : Text} {front rest : List Line} {line : Line} {visits : List Visit}
  {here : State}

/-- The line behind the first lines of a script stands at the place after them. -/
theorem line_of_lines_eq (hlines : Script.lines content = front ++ line :: rest) :
    ∃ raw, (Text.lines content)[front.length]? = some raw ∧ line = ⟨front.length, trim raw⟩ := by
  have hline : (Script.lines content)[front.length]? = some line := by simp [hlines]
  rw [Script.lines, Script.getElem?_linesFrom, Nat.zero_add] at hline
  rcases Option.map_eq_some_iff.mp hline with ⟨raw, hraw, hplace⟩
  exact ⟨raw, hraw, hplace.symm⟩

/-- The lines that a scan has got through, as a script: it issues what has been issued on
them. -/
theorem requests_unlines_front (hlines : Script.lines content = front ++ line :: rest)
    (hsteps : Steps {} (front ++ line :: rest) visits here (line :: rest)) :
    Script.requests (unlines ((Text.lines content).take front.length)) =
      .ok (visits.filterMap Visit.emitted) := by
  have hfront := hsteps.replace (List.cons_ne_nil line rest) []
  by_cases hempty : front = []
  · subst hempty
    cases hfront with
    | refl => exact Script.requests_nil
  · have hcount : front.length ≠ 0 := by simpa using hempty
    have htake : (Script.lines content).take front.length = front := by simp [hlines]
    rw [List.append_nil, ← htake, ← Script.lines_unlines_take hcount] at hfront
    rw [Script.requests_eq_ok, Script.scan, hfront.run_eq, run_nil]
    simp [Run.requests]

/-- A script that begins with the same lines, the last of which can not be read, fails
there. -/
theorem requests_of_take_eq (hlines : Script.lines content = front ++ line :: rest)
    (hsteps : Steps {} (front ++ line :: rest) visits here (line :: rest)) {reason : Malformation}
    (hread : Statement.ofText (here.bindings.substitute line.text) line.text = .error reason)
    {other : Text}
    (hsame : (Text.lines other).take (front.length + 1) =
      (Text.lines content).take (front.length + 1)) :
    Script.requests other = .error ⟨line.number, line.text, reason⟩ := by
  have hother : Script.lines other =
      front ++ line :: (Script.lines other).drop (front.length + 1) := by
    have hcut := Script.lines_eq_of_take_eq hsame
    have htake : (Script.lines content).take (front.length + 1) = front ++ [line] := by
      simp [hlines, List.take_append]
    rw [htake, List.append_assoc] at hcut
    exact hcut
  have hagain := hsteps.replace (List.cons_ne_nil line rest)
    (line :: (Script.lines other).drop (front.length + 1))
  rw [← hother] at hagain
  rcases visitLine_of_ofText_error hread ((Script.lines other).drop (front.length + 1)) with
    ⟨visit, hfails⟩
  rw [Script.requests_eq_error, Script.scan, hagain.run_eq, run_cons_of_error hfails]

end Front

/-! ## What a failure tells -/

/-- A count is written as a natural number. -/
theorem Text.ofInt_natCast (n : Nat) : Text.ofInt n = Text.ofNat n := by
  simp only [Text.ofInt]

/-- A failure is reported in one form: the number of the line, the reason and the quoted
line. -/
theorem Scan.Failure.message_eq (failure : Failure) :
    failure.message = "line ".toList ++ Text.ofNat failure.lineNumber ++ ": ".toList ++
      failure.reason.message ++ ": ".toList ++ Text.quoted failure.line := by
  unfold message locatedMessage
  rw [Text.ofInt_natCast]

/-- No reason begins like the report of a failure. -/
theorem Malformation.not_line_prefix_message (reason : Malformation) :
    ¬ "line ".toList <+: reason.message := by
  cases reason with
  | missingOperand => decide
  | missingAssignment => decide
  | missingValue name =>
    intro h
    have hhead : 'l' = 'n' := (List.cons_prefix_cons.mp h).1
    revert hhead
    decide

/-- A failure is reported at the first line of a script that can not be processed. -/
structure Scan.Failure.Locates (failure : Failure) (content : Text) : Prop where
  one_le : 1 ≤ failure.lineNumber
  le_length : failure.lineNumber ≤ (Text.lines content).length
  /-- The line is told as it is written, without the blanks at its ends. -/
  line : (Text.lines content)[failure.lineNumber - 1]?.map trim = some failure.line
  message : failure.message = "line ".toList ++ Text.ofNat failure.lineNumber ++ ": ".toList ++
    failure.reason.message ++ ": ".toList ++ Text.quoted failure.line
  reason : failure.reason.message = "missing operand".toList ∨
    failure.reason.message = "missing '=' in assignment".toList ∨
    ∃ name, failure.reason = .missingValue name ∧
      failure.reason.message = "no value for variable ".toList ++ Text.quoted name
  once : ¬ "line ".toList <+: failure.reason.message
  /-- The lines before get through on their own and issue what the script has issued. -/
  before : Script.requests (unlines ((Text.lines content).take (failure.lineNumber - 1))) =
    .ok (Script.scan content).requests
  /-- The lines up to the failure fail in the same way whatever stands after them. -/
  after : (∀ name, failure.reason ≠ .missingValue name) → ∀ other,
    (Text.lines other).take failure.lineNumber = (Text.lines content).take failure.lineNumber →
      Script.requests other = .error failure
  /-- A value is missing only at the end. -/
  atEnd : ∀ name, failure.reason = .missingValue name →
    failure.lineNumber = (Text.lines content).length

/-- A script that fails does so at its first line that can not be processed, and tells which
line this is and what is wrong with it. -/
theorem locates_of_requests_eq_error (content : Text) {failure : Failure}
    (h : Script.requests content = .error failure) : failure.Locates content := by
  rcases exists_steps_of_failure (Script.requests_eq_error.mp h) with
    ⟨visits, here, line, rest, visit, hsteps, hfails, hnumber, htext⟩
  rcases hsteps.suffix with ⟨front, hfront⟩
  rcases line_of_lines_eq hfront.symm with ⟨raw, hraw, rfl⟩
  rw [← hfront] at hsteps
  have hnumber : failure.lineNumber = front.length + 1 := hnumber
  have hlength : (Text.lines content).length = front.length + (rest.length + 1) := by
    rw [← Script.length_linesFrom 0, ← Script.lines, ← hfront, List.length_append,
      List.length_cons]
  have hissued : (Script.scan content).requests = visits.filterMap Visit.emitted := by
    -- the visit that fails emits nothing
    have hsilent := (visitLine_error hfails).2.2.1
    rw [Script.scan, ← hfront, hsteps.run_eq, run_cons_of_error hfails]
    simp [Run.requests, hsilent]
  have hwhy := visitLine_error_reason hfails
  constructor
  case one_le => omega
  case le_length => omega
  case line => rw [hnumber, Nat.add_sub_cancel, hraw, htext, Option.map_some]
  case message => exact failure.message_eq
  case reason =>
    rcases hwhy with hread | ⟨-, name, hname⟩
    · rcases Statement.ofText_error hread with hreason | hreason
      · exact Or.inl (by rw [hreason]; rfl)
      · exact Or.inr (Or.inl (by rw [hreason]; rfl))
    · exact Or.inr (Or.inr ⟨name, hname, by rw [hname]; rfl⟩)
  case once => exact failure.reason.not_line_prefix_message
  case before =>
    rw [hnumber, Nat.add_sub_cancel, hissued]
    exact requests_unlines_front hfront.symm hsteps
  case after =>
    intro hreason other hsame
    rcases hwhy with hread | ⟨-, name, hname⟩
    · rw [hnumber] at hsame
      rw [requests_of_take_eq hfront.symm hsteps hread hsame, Except.error.injEq,
        Failure.mk.injEq]
      exact ⟨hnumber.symm, htext.symm, rfl⟩
    · exact absurd hname (hreason name)
  case atEnd =>
    intro name hname
    rcases hwhy with hread | ⟨hrest, -⟩
    · rcases Statement.ofText_error hread with hreason | hreason <;> simp [hname] at hreason
    · rw [hrest, List.length_nil] at hlength
      omega

/-- A script with a block and a variable before a line that fails; the variable occurs in that
line. -/
def faulty : Text :=
  "* def A = \"\"\"\n* header\n\"\"\"\n* def b = 1\n  * param b 2 \n* method".toList

theorem locates_of_requests_eq_error_faulty :
    Script.requests faulty = .error ⟨5, "* param b 2".toList, .missingAssignment⟩ ∧
      Failure.Locates ⟨5, "* param b 2".toList, .missingAssignment⟩ faulty := by
  have hfails : Script.requests faulty = .error ⟨5, "* param b 2".toList, .missingAssignment⟩ := by
    decide +kernel
  exact ⟨hfails, locates_of_requests_eq_error faulty hfails⟩

end RequestScript

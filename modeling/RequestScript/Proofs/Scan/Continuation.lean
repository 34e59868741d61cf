import RequestScript.Proofs.Printing
import RequestScript.Proofs.Scan.Emission
import RequestScript.Proofs.Scan.Failures

/-!
# Values that go on behind their line

The value of a definition may stand behind the line of the definition: an empty value on the
next line, and a value that opens a block on the lines up to the one that closes it.  A block
that no line closes goes on to the end of the script.  These lines are taken as they are
written.  The scan visits none of them, whatever they say, and goes on behind them.

Main results:

- Theorem {lit}`blockLines_cases`: the lines of a block and the lines behind it.
- Definition {lit}`Takes`: the value that begins with a text, told by the places of the lines.
- Theorem {lit}`exists_takes`: every text begins a value.
- Theorem {lit}`Takes.eq_body`: a body that fits into a block is the value of the block.
- Theorem {lit}`goesOn_of_definition`: what a definition does, wherever its value stands.
-/

namespace RequestScript

open Text

/-! ## Lines by their places -/

namespace Script

/-- The texts of the lines of a script. -/
def texts (content : Text) : List Text :=
  (Text.lines content).map trim

theorem map_text_lines (content : Text) : (lines content).map Line.text = texts content := by
  have hfrom : ∀ (index : Nat) (raws : List Text),
      (linesFrom index raws).map Line.text = raws.map trim := by
    intro index raws
    induction raws generalizing index with
    | nil => rfl
    | cons raw raws ih => rw [linesFrom, List.map_cons, List.map_cons, ih]
  exact hfrom 0 (Text.lines content)

theorem length_lines (content : Text) : (lines content).length = (texts content).length := by
  rw [← map_text_lines, List.length_map]

/-- The first lines of a script stand at the first places. -/
theorem index_lt_of_mem_front {content : Text} {front left : List Line} {line : Line}
    (hlines : lines content = front ++ left) (h : line ∈ front) : line.index < front.length := by
  rcases List.getElem_of_mem h with ⟨place, hplace, rfl⟩
  have hhere : (lines content)[place]? = some front[place] := by
    rw [hlines, List.getElem?_append_left hplace, List.getElem?_eq_getElem hplace]
  rw [lines, getElem?_linesFrom, Nat.zero_add] at hhere
  rcases Option.map_eq_some_iff.mp hhere with ⟨raw, -, hline⟩
  rw [← hline]
  exact hplace

theorem le_index_of_mem_drop {content : Text} {place : Nat} {line : Line}
    (h : line ∈ (lines content).drop place) : place ≤ line.index := by
  rw [lines, drop_linesFrom, Nat.zero_add] at h
  exact le_index_of_mem_linesFrom h

end Script

namespace Scan

/-- A scan visits lines that stand before those it has left. -/
theorem Steps.exists_front {state after : State} {lines left : List Line} {visits : List Visit}
    (h : Steps state lines visits after left) :
    ∃ front, lines = front ++ left ∧ ∀ visit ∈ visits, visit.line ∈ front := by
  induction h with
  | refl => exact ⟨[], rfl, by simp⟩
  | @cons state after line rest left visits passage hvisit _ ih =>
    rcases ih with ⟨front, hfront, hvisits⟩
    rcases rest_suffix hvisit with ⟨used, hused⟩
    have hline : passage.visit.line = line := by
      rw [← visited_of_ok hvisit, visited_line]
    refine ⟨line :: (used ++ front), ?_, ?_⟩
    · rw [← hused, hfront, List.cons_append, List.append_assoc]
    · intro visit hmem
      rcases List.mem_cons.mp hmem with rfl | hmem
      · rw [hline]
        exact List.mem_cons_self
      · exact List.mem_cons_of_mem line (List.mem_append_right used (hvisits visit hmem))

/-- A scan visits its lines only. -/
theorem line_mem_of_mem_visits {state : State} {lines : List Line} {visit : Visit}
    (h : visit ∈ (run state lines).visits) : visit.line ∈ lines := by
  rcases List.append_of_mem h with ⟨earlier, later, hvisits⟩
  rcases exists_steps_of_visits hvisits with ⟨here, line, rest, hsteps, rfl⟩
  rw [visited_line]
  exact hsteps.suffix.subset List.mem_cons_self

/-- A scan visits its first line first. -/
theorem head?_visits (state : State) (lines : List Line) :
    (run state lines).visits.head?.map Visit.line = lines.head? := by
  cases lines with
  | nil => rw [run_nil]; rfl
  | cons line rest =>
    have hline := visited_line state line rest
    cases hvisit : visitLine state line rest with
    | ok passage =>
      rw [visited_of_ok hvisit] at hline
      rw [run_cons_of_ok hvisit, List.head?_cons, Option.map_some, hline, List.head?_cons]
    | error failed =>
      rw [visited_of_error hvisit] at hline
      rw [run_cons_of_error hvisit, List.head?_cons, Option.map_some, hline, List.head?_cons]

/-! ## Blocks -/

/-- A block ends at the first line that closes it, or it takes all lines. -/
theorem blockLines_cases (lines : List Line) :
    (∃ body closing after, lines = body ++ closing :: after ∧
        (∀ line ∈ body, Literal.closesBlock line.text = false) ∧
        Literal.closesBlock closing.text = true ∧
        Literal.blockLines lines = (body.map Line.text, after)) ∨
      (∀ line ∈ lines, Literal.closesBlock line.text = false) ∧
        Literal.blockLines lines = (lines.map Line.text, []) := by
  induction lines with
  | nil => exact Or.inr ⟨by simp, rfl⟩
  | cons line lines ih =>
    rw [Literal.blockLines]
    by_cases hcloses : Literal.closesBlock line.text = true
    · rw [if_pos hcloses]
      exact Or.inl ⟨[], line, lines, rfl, by simp, hcloses, rfl⟩
    · rw [if_neg hcloses]
      rw [Bool.not_eq_true] at hcloses
      rcases ih with ⟨body, closing, after, hlines, hbody, hclosing, hblock⟩ | ⟨hnone, hblock⟩
      · rw [hblock, hlines]
        exact Or.inl ⟨line :: body, closing, after, rfl, List.forall_mem_cons.mpr ⟨hcloses, hbody⟩,
          hclosing, rfl⟩
      · rw [hblock]
        exact Or.inr ⟨List.forall_mem_cons.mpr ⟨hcloses, hnone⟩, rfl⟩

/-- The texts that stand strictly between two places. -/
def between (texts : List Text) (opening closing : Nat) : List Text :=
  (texts.take closing).drop (opening + 1)

/-- A block that opens at one place is closed at another: there stands the first text behind
the opening that closes a block. -/
structure Closes (texts : List Text) (opening closing : Nat) : Prop where
  behind : opening < closing
  closes : ∃ text ∈ texts[closing]?, Literal.closesBlock text = true
  first : ∀ text ∈ between texts opening closing, Literal.closesBlock text = false

/-- The text at a place between two others. -/
theorem mem_between {texts : List Text} {opening closing place : Nat} {text : Text}
    (h : texts[place]? = some text) (hopening : opening < place) (hclosing : place < closing) :
    text ∈ between texts opening closing := by
  have hplace : opening + 1 + (place - (opening + 1)) = place := by omega
  have hhere : (between texts opening closing)[place - (opening + 1)]? = some text := by
    rw [between, List.getElem?_drop, hplace, List.getElem?_take_of_lt hclosing, h]
  exact List.mem_of_getElem? hhere

/-- A block is closed at one place only. -/
theorem Closes.unique {texts : List Text} {opening closing other : Nat}
    (h : Closes texts opening closing) (hother : Closes texts opening other) :
    closing = other := by
  have hle : ∀ {here there : Nat}, Closes texts opening here → Closes texts opening there →
      there ≤ here := by
    intro here there hhere hthere
    by_contra hlt
    rcases hhere.closes with ⟨text, htext, hcloses⟩
    have hopen := hthere.first text (mem_between htext hhere.behind (Nat.lt_of_not_le hlt))
    simp [hopen] at hcloses
  exact Nat.le_antisymm (hle hother h) (hle h hother)

/-! ## Values -/

/-- The place where the value of a definition begins, and the text there: its own line, or the
next one when it shows no value. -/
inductive Begins (texts : List Text) (place : Nat) : Text → Nat → Text → Prop where
  | here {value : Text} (h : value ≠ []) : Begins texts place value place value
  | next {text : Text} (h : texts[place + 1]? = some text) : Begins texts place [] (place + 1) text

/-- The value that begins with a text at a place, and the place behind the value. -/
inductive Takes (texts : List Text) (place : Nat) (text : Text) : Text → Nat → Prop where
  | bare (h : Literal.opensBlock text = false) :
      Takes texts place text (Literal.stripQuotes text) (place + 1)
  | block {closing : Nat} (h : Literal.opensBlock text = true)
      (hcloses : Closes texts place closing) :
      Takes texts place text
        (Literal.stripQuotes (trim (unlines (between texts place closing)))) (closing + 1)
  | unclosed (h : Literal.opensBlock text = true) (hopen : ∀ closing, ¬ Closes texts place closing) :
      Takes texts place text
        (Literal.stripQuotes (trim (unlines (texts.drop (place + 1))))) texts.length

/-- A value that opens a block has the body of the block as its value, and the lines behind the
block are left. -/
theorem exists_takes_of_opensBlock (lines : List Line) (place : Nat) {text : Text}
    (h : Literal.opensBlock text = true) :
    ∃ next, Takes (lines.map Line.text) place text
        (Literal.stripQuotes (Literal.block (lines.drop (place + 1))).1) next ∧
      (Literal.block (lines.drop (place + 1))).2 = lines.drop next := by
  rcases blockLines_cases (lines.drop (place + 1)) with
    ⟨body, closing, after, hlines, hbody, hcloses, hblock⟩ | ⟨hnone, hblock⟩
  · -- the closing line stands behind the opening and all lines of the body
    have hbetween : between (lines.map Line.text) place (place + 1 + body.length) =
        body.map Line.text := by
      rw [between, ← List.map_take, ← List.map_drop, List.drop_take, hlines,
        Nat.add_sub_cancel_left, List.take_left]
    have hplace : (lines.map Line.text)[place + 1 + body.length]? = some closing.text := by
      rw [List.getElem?_map, ← List.getElem?_drop, hlines]
      simp
    have hclosed : Closes (lines.map Line.text) place (place + 1 + body.length) := by
      refine ⟨by omega, ⟨closing.text, hplace, hcloses⟩, ?_⟩
      rw [hbetween]
      simpa using hbody
    refine ⟨place + 1 + body.length + 1, ?_, ?_⟩
    · have htakes := Takes.block h hclosed
      rw [hbetween] at htakes
      rw [Literal.block, hblock]
      exact htakes
    · rw [Literal.block, hblock, Nat.add_assoc, ← List.drop_drop, hlines, ← List.drop_drop,
        List.drop_left]
      rfl
  · -- no line closes the block, so no place behind the opening does
    refine ⟨(lines.map Line.text).length, ?_, ?_⟩
    · have hopen : ∀ closing, ¬ Closes (lines.map Line.text) place closing := by
        intro closing hclosed
        rcases hclosed.closes with ⟨other, hother, hcloses⟩
        have hbehind := hclosed.behind
        have hplace : place + 1 + (closing - (place + 1)) = closing := by omega
        rw [Option.mem_def, ← hplace, ← List.getElem?_drop, ← List.map_drop] at hother
        rcases List.mem_map.mp (List.mem_of_getElem? hother) with ⟨line, hline, rfl⟩
        simp [hnone line hline] at hcloses
      have htakes := Takes.unclosed h hopen
      rw [← List.map_drop] at htakes
      rw [Literal.block, hblock]
      exact htakes
    · rw [Literal.block, hblock, List.length_map, List.drop_length]

/-- Every text begins a value, and the lines behind the value are left. -/
theorem exists_takes (lines : List Line) (place : Nat) (text : Text) :
    ∃ next, Takes (lines.map Line.text) place text (valueFrom text (lines.drop (place + 1))).1
        next ∧
      (valueFrom text (lines.drop (place + 1))).2 = lines.drop next := by
  unfold valueFrom
  by_cases hopens : Literal.opensBlock text = true
  · rw [if_pos hopens]
    dsimp only
    exact exists_takes_of_opensBlock lines place hopens
  · rw [if_neg hopens]
    exact ⟨place + 1, .bare (by simpa using hopens), rfl⟩

/-- A body that fits into a block is the value of the block. -/
theorem Takes.eq_body {texts : List Text} {place next closing : Nat} {text given mark body : Text}
    (h : Takes texts place text given next) (hopens : Literal.opensBlock text = true)
    (hbody : Blockable body) (hbehind : place < closing) (hmark : texts[closing]? = some mark)
    (hcloses : Literal.closesBlock mark = true)
    (hbetween : between texts place closing = Text.lines body) :
    given = body ∧ next = closing + 1 := by
  have hclosed : Closes texts place closing := by
    refine ⟨hbehind, ⟨mark, hmark, hcloses⟩, ?_⟩
    rw [hbetween]
    exact hbody.unclosed
  cases h with
  | bare hbare => simp [hbare] at hopens
  | block _ hother =>
    rw [hother.unique hclosed, hbetween]
    exact ⟨hbody.stripQuotes_unlines, rfl⟩
  | unclosed _ hopen => exact absurd hclosed (hopen closing)

/-! ## Definitions -/

/-- The state behind a definition. -/
def Visit.defining (visit : Visit) (name given : Text) : State :=
  ⟨visit.before.bindings.define name given, beforeEffect visit.before.draft visit.text⟩

/-- A scan goes on behind a definition: the variable has its value, and the scan goes on at a
place.  It visits no line between the definition and this place. -/
structure GoesOn (content : Text) (visit : Visit) (later : List Visit) (name given : Text)
    (next : Nat) : Prop where
  silent : visit.emitted = none
  binds : (visit.defining name given).bindings.value? name = some given
  keeps : ∀ other, other ≠ name → (visit.defining name given).bindings.value? other =
    visit.before.bindings.value? other
  visits : later = (run (visit.defining name given) ((Script.lines content).drop next)).visits
  failure : (Script.scan content).failure =
    (run (visit.defining name given) ((Script.lines content).drop next)).failure
  follows : later.head?.map Visit.line = (Script.lines content)[next]?
  skips : ∀ other ∈ (Script.scan content).visits,
    other.line.index ≤ visit.line.index ∨ next ≤ other.line.index

/-- The value of a definition stands at its place, or there is no line for it. -/
theorem definedValue_takes (content : Text) (place : Nat) (name value : Text) :
    (∃ start text given next, Begins (Script.texts content) place value start text ∧
        Takes (Script.texts content) start text given next ∧
        definedValue name value ((Script.lines content).drop (place + 1)) =
          .ok (given, (Script.lines content).drop next)) ∨
      value = [] ∧ (Script.lines content).drop (place + 1) = [] := by
  rw [← Script.map_text_lines]
  by_cases hvalue : value = []
  · cases hrest : (Script.lines content).drop (place + 1) with
    | nil => exact Or.inr ⟨hvalue, rfl⟩
    | cons line rest =>
      have hline : ((Script.lines content).map Line.text)[place + 1]? = some line.text := by
        rw [List.getElem?_map, ← List.head?_drop, hrest]
        rfl
      have hafter : rest = (Script.lines content).drop (place + 1 + 1) := by
        rw [← List.tail_drop, hrest, List.tail_cons]
      rcases exists_takes (Script.lines content) (place + 1) line.text with ⟨next, htakes, hleft⟩
      refine Or.inl ⟨place + 1, line.text, _, next, ?_, htakes, ?_⟩
      · rw [hvalue]
        exact .next hline
      · rw [hvalue, definedValue_nil_cons, hafter, ← hleft]
  · rcases exists_takes (Script.lines content) place value with ⟨next, htakes, hleft⟩
    refine Or.inl ⟨place, value, _, next, .here hvalue, htakes, ?_⟩
    rw [definedValue_of_ne_nil hvalue, ← hleft]

section Definition

variable {content : Text} {state : State} {line : Line} {rest : List Line}
  {earlier later : List Visit} {leader : Leader} {name value : Text}
  (hvisits : (Script.scan content).visits = earlier ++ visited state line rest :: later)
  (hsteps : Steps {} (Script.lines content) earlier state (line :: rest))
  (hread : Statement.ofText (state.bindings.substitute line.text) line.text =
    .ok (some (.definition leader name value)))
include hvisits hsteps

/-- If every line that a scan visits later stands at a place or behind it, then the scan visits no
line between its line and the place. -/
theorem index_le_or_le_index {next : Nat}
    (hlater : ∀ visit ∈ later, visit.line ∈ (Script.lines content).drop next) :
    ∀ visit ∈ (Script.scan content).visits,
      visit.line.index ≤ (visited state line rest).line.index ∨ next ≤ visit.line.index := by
  rcases hsteps.exists_front with ⟨front, hfront, hbefore⟩
  rcases line_of_lines_eq hfront with ⟨raw, -, hline⟩
  have hplace : line.index = front.length := by rw [hline]
  intro visit hmem
  rw [hvisits] at hmem
  rcases List.mem_append.mp hmem with hearlier | hmem
  · left
    have hindex := Script.index_lt_of_mem_front hfront (hbefore visit hearlier)
    rw [visited_line, hplace]
    exact Nat.le_of_lt hindex
  · rcases List.mem_cons.mp hmem with rfl | hmem
    · exact Or.inl (Nat.le_refl _)
    · exact Or.inr (Script.le_index_of_mem_drop (hlater visit hmem))

include hread

/-- A definition that finds its value goes on behind it. -/
theorem goesOn_of_definedValue {given : Text} {next : Nat}
    (hdefined : definedValue name value rest = .ok (given, (Script.lines content).drop next)) :
    GoesOn content (visited state line rest) later name given next := by
  have hcomplete := Reaches.isComplete ⟨earlier, hsteps⟩
  have hvisit : visitLine state line rest = .ok
      ⟨⟨state, line, state.bindings.substitute line.text,
          .ok (some (.definition leader name value)), none⟩,
        ⟨state.bindings.define name given,
          beforeEffect state.draft (state.bindings.substitute line.text)⟩,
        (Script.lines content).drop next⟩ := by
    rw [visitLine_of_binds hread (.define hdefined), drafted_definition,
      emit_of_not_isComplete (isComplete_beforeEffect hcomplete _)]
  have hdefining : (visited state line rest).defining name given =
      ⟨state.bindings.define name given,
        beforeEffect state.draft (state.bindings.substitute line.text)⟩ := by
    rw [visited_of_ok hvisit]
    rfl
  have hrun := hsteps.run_eq
  rw [run_cons_of_ok hvisit, ← visited_of_ok hvisit, ← hdefining] at hrun
  have hlater : later = (run ((visited state line rest).defining name given)
      ((Script.lines content).drop next)).visits := by
    have hsame := hvisits.symm.trans (congrArg Run.visits hrun)
    exact (List.cons.inj (List.append_cancel_left hsame)).2
  constructor
  case silent => rw [visited_of_ok hvisit]
  case binds =>
    rw [hdefining]
    exact Bindings.value?_define_self state.bindings name given
  case keeps =>
    intro other hother
    rw [hdefining, visited_before]
    exact Bindings.value?_define_of_ne state.bindings hother given
  case visits => exact hlater
  case failure => rw [Script.scan, hrun]
  case follows => rw [hlater, head?_visits, List.head?_drop]
  case skips =>
    apply index_le_or_le_index hvisits hsteps
    intro visit hmem
    rw [hlater] at hmem
    exact line_mem_of_mem_visits hmem

/-- A definition without a line for its value ends the scan. -/
theorem ends_of_missing (hvalue : value = []) (hrest : rest = []) :
    line.index + 1 = (Script.texts content).length ∧ later = [] ∧
      (Script.scan content).failure = some ⟨line.number, line.text, .missingValue name⟩ := by
  subst hvalue hrest
  have hvisit : visitLine state line [] = .error
      (⟨state, line, state.bindings.substitute line.text, .ok (some (.definition leader name [])),
        none⟩, .missingValue name) := by
    simp [visitLine, hread, effect, bind, Except.bind]
  have hrun := hsteps.run_eq
  rw [run_cons_of_error hvisit] at hrun
  refine ⟨?_, ?_, congrArg Run.failure hrun⟩
  · rcases hsteps.exists_front with ⟨front, hfront, -⟩
    rcases line_of_lines_eq hfront with ⟨raw, -, hline⟩
    rw [← Script.length_lines, hfront, hline, List.length_append]
    rfl
  · have hsame := hvisits.symm.trans (congrArg Run.visits hrun)
    exact (List.cons.inj (List.append_cancel_left hsame)).2

end Definition

end Scan

open Scan

/-- A definition takes its value from its own line or from the next one, and from the block
that the value opens, if it opens one.  The scan goes on behind the value and visits no line of
it.  It fails only if the value should stand on a line that is not there. -/
theorem goesOn_of_definition {content : Text} {earlier later : List Visit} {visit : Visit}
    {leader : Leader} {name value : Text}
    (hvisits : (Script.scan content).visits = earlier ++ visit :: later)
    (hstates : visit.statement? = some (.definition leader name value)) :
    (∃ start text given next,
        Begins (Script.texts content) visit.line.index value start text ∧
        Takes (Script.texts content) start text given next ∧
        GoesOn content visit later name given next ∧
        ∀ body closing mark, Blockable body → Literal.opensBlock text = true → start < closing →
          (Script.texts content)[closing]? = some mark → Literal.closesBlock mark = true →
            between (Script.texts content) start closing = Text.lines body →
              given = body ∧ next = closing + 1) ∨
      value = [] ∧ visit.line.index + 1 = (Script.texts content).length ∧ later = [] ∧
        (Script.scan content).failure =
          some ⟨visit.line.number, visit.line.text, .missingValue name⟩ := by
  rcases exists_steps_of_visits hvisits with ⟨state, line, rest, hsteps, rfl⟩
  have hread := reads_of_statement? hstates
  have hrest : rest = (Script.lines content).drop (line.index + 1) := by
    rw [← List.tail_drop, ← Reaches.lines_eq ⟨earlier, hsteps⟩, List.tail_cons]
  rw [visited_line]
  rcases definedValue_takes content line.index name value with
    ⟨start, text, given, next, hbegins, htakes, hdefined⟩ | ⟨hvalue, hnone⟩
  · rw [← hrest] at hdefined
    refine Or.inl ⟨start, text, given, next, hbegins, htakes,
      goesOn_of_definedValue hvisits hsteps hread hdefined, ?_⟩
    intro body closing mark hbody hopens hbehind hmark hcloses hbetween
    exact htakes.eq_body hopens hbody hbehind hmark hcloses hbetween
  · rw [← hrest] at hnone
    exact Or.inr ⟨hvalue, ends_of_missing hvisits hsteps hread hvalue hnone⟩

/-- A script with a block on the line behind its definition; the lines of the block look like
statements. -/
def disguised : Text :=
  "* url 'u'\n* def b =\n  \"\"\"\nScenario: x\n  * method get\n* header\n'''\n* request b\n* method put".toList

/-- The body of that block. -/
def disguise : Text :=
  "Scenario: x\n* method get\n* header".toList

theorem goesOn_of_definition_disguised :
    ∃ earlier visit later, (Script.scan disguised).visits = earlier ++ visit :: later ∧
      visit.line = ⟨1, "* def b =".toList⟩ ∧ GoesOn disguised visit later "b".toList disguise 7 := by
  obtain ⟨visit, hvisit, hstates, hline, hopening, hclosing, hbetween⟩ :
      ∃ visit ∈ (Script.scan disguised).visits,
        visit.statement? = some (.definition .star "b".toList []) ∧
          visit.line = ⟨1, "* def b =".toList⟩ ∧
          (Script.texts disguised)[2]? = some "\"\"\"".toList ∧
          (Script.texts disguised)[6]? = some "'''".toList ∧
          between (Script.texts disguised) 2 6 = Text.lines disguise := by
    decide +kernel
  rcases List.append_of_mem hvisit with ⟨earlier, later, hvisits⟩
  refine ⟨earlier, visit, later, hvisits, hline, ?_⟩
  rcases goesOn_of_definition hvisits hstates with
    ⟨start, text, given, next, hbegins, htakes, hgoesOn, hbody⟩ | ⟨-, hlast, -⟩
  · rw [hline] at hbegins
    cases hbegins with
    | here hvalue => exact absurd rfl hvalue
    | next htext =>
      rw [hopening] at htext
      obtain rfl := Option.some.inj htext
      rcases hbody disguise 6 "'''".toList (by decide +kernel) (by decide) (by decide) hclosing
        (by decide) hbetween with ⟨rfl, rfl⟩
      exact hgoesOn
  · rw [hline] at hlast
    exact absurd hlast (by decide +kernel)

end RequestScript

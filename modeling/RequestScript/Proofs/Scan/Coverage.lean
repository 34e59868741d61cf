import RequestScript.Proofs.Scan.Continuation

/-!
# What becomes of every line

A scan may be told with a cursor, the place of the line that it is at.  While a line is
processed the cursor moves on over the lines that a definition uses: to the next line when the
value stands there, and to the line that closes a block.  After every line it moves one place
further, until it is behind the last line.

So a scan deals with every line of a script once and in order.  It visits the line, or a
definition before it uses the line: for its value, as a line of the body of a block, or as the
line that closes the block.

Main results:

- Definition {lit}`Scan.stops`: where the cursor stands while a line is processed.
- Definition {lit}`Scan.account`: the lines that a visit deals with.
- Theorem {lit}`Scan.rest_eq_drop`: a visit leaves the lines behind the last stop.
- Theorem {lit}`Scan.runWithin_eq_run`: with a turn for every line the cursor gets through.
- Theorem {lit}`Scan.map_fst_accounts`: the accounts of the visits list all places in order.
- Theorem {lit}`scan_goes_over_lines`: a scan ends, and goes over every line once.
-/

namespace RequestScript

open Text

namespace Scan

/-! ## The cursor -/

/-- The last line of the value that begins with a text at a place. -/
def valueEnd (lines : List Line) (place : Nat) (text : Text) : Nat :=
  if Literal.opensBlock text then (Literal.blockAt lines place).2.toNat else place

/-- Where the cursor stands while the line at a place is processed, one place after another.  A
definition without a value moves it to the next line, also when there is none, and a block moves
it to its last line. -/
def stops (lines : List Line) (place : Nat) : Option Statement → List Nat
  | some (.definition _ _ value) =>
    place ::
      (if value.isEmpty then
        match lines[place + 1]? with
        | none => [place + 1]
        | some next => [place + 1, valueEnd lines (place + 1) next.text]
      else [valueEnd lines place value])
  | _ => [place]

/-- Where the cursor stands when the line at a place has been processed. -/
def lastStop (lines : List Line) (place : Nat) (statement : Option Statement) : Nat :=
  (stops lines place statement).getLastD place

/-- Scan lines with a cursor and a number of turns.  Nothing is told when the turns are used up
before the lines. -/
def runWithin (lines : List Line) : Nat → State → Nat → Option Run
  | 0, _, place => if lines.length ≤ place then some ⟨[], none⟩ else none
  | turns + 1, state, place =>
    match lines[place]? with
    | none => some ⟨[], none⟩
    | some line =>
      match visitLine state line (lines.drop (place + 1)) with
      | .error (visit, reason) => some ⟨[visit], some ⟨line.number, line.text, reason⟩⟩
      | .ok passage =>
        (runWithin lines turns passage.after
          (lastStop lines place passage.visit.statement? + 1)).map fun later =>
            ⟨passage.visit :: later.visits, later.failure⟩

/-! ## Accounts -/

/-- What a line is to the visit that deals with it. -/
inductive Role where
  /-- It is the line that is visited. -/
  | visited
  /-- The value of a definition stands on it, or begins there. -/
  | value
  /-- It belongs to the body of a block. -/
  | body
  /-- It closes a block. -/
  | closing
deriving DecidableEq, Repr

/-- The lines of a block and the line that closes it, among the lines from a place on. -/
def blockRoles (place : Nat) : List Line → List (Nat × Role)
  | [] => []
  | line :: rest =>
    if Literal.closesBlock line.text then [(place, .closing)]
    else (place, .body) :: blockRoles (place + 1) rest

/-- The lines behind a place that the value uses which begins there with a text. -/
def valueRoles (lines : List Line) (place : Nat) (text : Text) : List (Nat × Role) :=
  if Literal.opensBlock text then blockRoles (place + 1) (lines.drop (place + 1)) else []

/-- The lines that the visit of the line at a place deals with, and what they are to it. -/
def account (lines : List Line) (place : Nat) : Option Statement → List (Nat × Role)
  | some (.definition _ _ value) =>
    (place, .visited) ::
      (if value.isEmpty then
        match lines[place + 1]? with
        | none => []
        | some next => (place + 1, .value) :: valueRoles lines (place + 1) next.text
      else valueRoles lines place value)
  | _ => [(place, .visited)]

/-- Where the cursor stands during a visit. -/
def Visit.stops (lines : List Line) (visit : Visit) : List Nat :=
  Scan.stops lines visit.line.index visit.statement?

/-- The lines that a visit deals with. -/
def Visit.account (lines : List Line) (visit : Visit) : List (Nat × Role) :=
  Scan.account lines visit.line.index visit.statement?

/-! ## Values -/

section Value

variable {lines : List Line} {place : Nat} {text : Text}

/-- The block that opens at a place ends there or further on, at a line of the script, and what
it leaves are the lines behind its end. -/
theorem blockAt_snd (h : place < lines.length) :
    ∃ last : Nat, (Literal.blockAt lines place).2 = last ∧ place ≤ last ∧ last < lines.length ∧
      (Literal.block (lines.drop (place + 1))).2 = lines.drop (last + 1) := by
  have hopening : ((place : Int) + 1).toNat = place + 1 := by omega
  rw [Literal.blockAt, hopening]
  dsimp only
  rcases blockLines_cases (lines.drop (place + 1)) with
    ⟨body, closing, after, hlines, -, hcloses, hblock⟩ | ⟨hnone, hblock⟩
  · have hany : (lines.drop (place + 1)).any (Literal.closesBlock ·.text) = true := by
      rw [List.any_eq_true]
      exact ⟨closing, by simp [hlines], hcloses⟩
    have hlength : lines.length = place + 1 + (body.length + (after.length + 1)) := by
      have hdrop := congrArg List.length hlines
      rw [List.length_drop, List.length_append, List.length_cons] at hdrop
      omega
    have hafter : lines.drop (place + 1 + body.length + 1) = after := by
      rw [Nat.add_assoc (place + 1), ← List.drop_drop, hlines, ← List.drop_drop, List.drop_left]
      rfl
    refine ⟨place + 1 + body.length, ?_, by omega, by omega, ?_⟩
    · rw [hany, Literal.block, hblock]
      simp only [Bool.not_true, Bool.false_eq_true, if_false]
      omega
    · rw [Literal.block, hblock, hafter]
  · have hany : (lines.drop (place + 1)).any (Literal.closesBlock ·.text) = false := by
      rw [List.any_eq_false]
      intro line hline
      simp [hnone line hline]
    refine ⟨lines.length - 1, ?_, by omega, by omega, ?_⟩
    · rw [hany]
      simp only [Bool.not_false, if_true]
      omega
    · have hlast : lines.length - 1 + 1 = lines.length := by omega
      rw [Literal.block, hblock, hlast, List.drop_length]

/-- A value does not end before it begins. -/
theorem le_valueEnd (h : place < lines.length) (text : Text) :
    place ≤ valueEnd lines place text := by
  rw [valueEnd]
  split
  · rcases blockAt_snd h with ⟨last, hlast, hle, -, -⟩
    rw [hlast]
    exact hle
  · exact Nat.le_refl place

/-- A value ends inside the script. -/
theorem valueEnd_lt (h : place < lines.length) (text : Text) :
    valueEnd lines place text < lines.length := by
  rw [valueEnd]
  split
  · rcases blockAt_snd h with ⟨last, hlast, -, hlt, -⟩
    rw [hlast]
    exact hlt
  · exact h

/-- A value leaves the lines behind its end. -/
theorem valueFrom_snd (h : place < lines.length) (text : Text) :
    (valueFrom text (lines.drop (place + 1))).2 = lines.drop (valueEnd lines place text + 1) := by
  rw [valueFrom, valueEnd]
  split
  · rcases blockAt_snd h with ⟨last, hlast, -, -, hleft⟩
    rw [hlast]
    exact hleft
  · rfl

/-- The lines of a block are accounted for in order, each once. -/
theorem map_fst_blockRoles (place : Nat) (lines : List Line) :
    (blockRoles place lines).map Prod.fst =
      List.range' place (lines.length - (Literal.blockLines lines).2.length) := by
  induction lines generalizing place with
  | nil => rfl
  | cons line rest ih =>
    rw [blockRoles, Literal.blockLines]
    split
    · have hone : (line :: rest).length - rest.length = 1 := by
        rw [List.length_cons]
        omega
      rw [hone]
      rfl
    · have hle := Literal.length_blockLines_snd_le rest
      have hmore : (line :: rest).length - (Literal.blockLines rest).2.length =
          rest.length - (Literal.blockLines rest).2.length + 1 := by
        rw [List.length_cons]
        omega
      rw [List.map_cons, ih, hmore, List.range'_succ]

/-- A value uses the lines behind its place up to its end. -/
theorem map_fst_valueRoles (h : place < lines.length) (text : Text) :
    (valueRoles lines place text).map Prod.fst =
      List.range' (place + 1) (valueEnd lines place text - place) := by
  have hleft := congrArg List.length (valueFrom_snd h text)
  have hle := le_valueEnd h text
  have hlt := valueEnd_lt h text
  rw [valueRoles]
  rw [valueFrom] at hleft
  split
  · rename_i hopens
    rw [if_pos hopens, List.length_drop] at hleft
    have hused : (lines.drop (place + 1)).length -
        (Literal.blockLines (lines.drop (place + 1))).2.length =
          valueEnd lines place text - place := by
      change (Literal.blockLines (lines.drop (place + 1))).2.length = _ at hleft
      rw [hleft, List.length_drop]
      omega
    rw [map_fst_blockRoles, hused]
  · rename_i hopens
    rw [valueEnd, if_neg hopens, Nat.sub_self]
    rfl

end Value

/-! ## Statements -/

section Statement

variable {lines : List Line} {place : Nat} {leader : Leader} {name value : Text}

/-- A definition with a value stops where it stands and where its value ends. -/
theorem stops_of_ne_nil (h : value ≠ []) :
    stops lines place (some (.definition leader name value)) =
      [place, valueEnd lines place value] := by
  simp [stops, h]

/-- A definition without a value stops at the next line as well. -/
theorem stops_of_next {next : Line} (h : lines[place + 1]? = some next) :
    stops lines place (some (.definition leader name [])) =
      [place, place + 1, valueEnd lines (place + 1) next.text] := by
  simp [stops, h]

/-- Every other statement stops where it stands. -/
theorem stops_of_other {statement : Option Statement}
    (h : ∀ leader name value, statement ≠ some (.definition leader name value)) :
    stops lines place statement = [place] := by
  unfold stops
  split
  · exact absurd rfl (h _ _ _)
  · rfl

/-- A definition with a value accounts for its line and for the lines of its value. -/
theorem account_of_ne_nil (h : value ≠ []) :
    account lines place (some (.definition leader name value)) =
      (place, .visited) :: valueRoles lines place value := by
  simp [account, h]

/-- A definition without a value accounts for the next line as well. -/
theorem account_of_next {next : Line} (h : lines[place + 1]? = some next) :
    account lines place (some (.definition leader name [])) =
      (place, .visited) :: (place + 1, .value) :: valueRoles lines (place + 1) next.text := by
  simp [account, h]

/-- A definition without a value on the last line accounts for that line only. -/
theorem account_of_missing (h : lines[place + 1]? = none) :
    account lines place (some (.definition leader name [])) = [(place, .visited)] := by
  simp [account, h]

/-- Every other statement accounts for its line only. -/
theorem account_of_other {statement : Option Statement}
    (h : ∀ leader name value, statement ≠ some (.definition leader name value)) :
    account lines place statement = [(place, .visited)] := by
  unfold account
  split
  · exact absurd rfl (h _ _ _)
  · rfl

/-- The cursor never moves backwards while a line is processed. -/
theorem pairwise_stops (h : place < lines.length) (statement : Option Statement) :
    (stops lines place statement).Pairwise (· ≤ ·) := by
  unfold stops
  split
  · split
    · split
      · simp
      · rename_i next hnext
        have hle := le_valueEnd (List.getElem?_eq_some_iff.mp hnext).1 next.text
        grind
    · rename_i leader name value hvalue
      have hle := le_valueEnd h value
      grind
  · simp

/-- What a statement makes of the cursor when it takes effect: the lines behind the last stop are
left, and the lines up to it are those that the statement accounts for. -/
structure Advances (lines : List Line) (place : Nat) (statement : Option Statement)
    (left : List Line) : Prop where
  left_eq : left = lines.drop (lastStop lines place statement + 1)
  le_lastStop : place ≤ lastStop lines place statement
  lastStop_lt : lastStop lines place statement < lines.length
  inside : ∀ stop ∈ stops lines place statement, stop < lines.length
  places : (account lines place statement).map Prod.fst =
    List.range' place (lastStop lines place statement + 1 - place)

/-- A value on the line of its definition. -/
theorem advances_of_ne_nil (h : place < lines.length) (hvalue : value ≠ []) :
    Advances lines place (some (.definition leader name value))
      (valueFrom value (lines.drop (place + 1))).2 := by
  have hstops : stops lines place (some (.definition leader name value)) =
      [place, valueEnd lines place value] := stops_of_ne_nil hvalue
  have hlast : lastStop lines place (some (.definition leader name value)) =
      valueEnd lines place value := by
    rw [lastStop, hstops]
    rfl
  have hle := le_valueEnd h value
  have hlt := valueEnd_lt h value
  constructor
  case left_eq => rw [hlast, valueFrom_snd h]
  case le_lastStop => rwa [hlast]
  case lastStop_lt => rwa [hlast]
  case inside =>
    rw [hstops]
    simpa using ⟨h, hlt⟩
  case places =>
    have hcount : valueEnd lines place value + 1 - place =
        valueEnd lines place value - place + 1 := by omega
    rw [account_of_ne_nil hvalue, List.map_cons, map_fst_valueRoles h, hlast, hcount,
      List.range'_succ]

/-- A value on the line behind its definition. -/
theorem advances_of_next {next : Line} (h : lines[place + 1]? = some next) :
    Advances lines place (some (.definition leader name []))
      (valueFrom next.text (lines.drop (place + 1 + 1))).2 := by
  have hstops : stops lines place (some (.definition leader name [])) =
      [place, place + 1, valueEnd lines (place + 1) next.text] := stops_of_next h
  have hlast : lastStop lines place (some (.definition leader name [])) =
      valueEnd lines (place + 1) next.text := by
    rw [lastStop, hstops]
    rfl
  have hnext : place + 1 < lines.length := (List.getElem?_eq_some_iff.mp h).1
  have hle := le_valueEnd hnext next.text
  have hlt := valueEnd_lt hnext next.text
  constructor
  case left_eq => rw [hlast, valueFrom_snd hnext]
  case le_lastStop =>
    rw [hlast]
    omega
  case lastStop_lt => rwa [hlast]
  case inside =>
    rw [hstops]
    grind
  case places =>
    have hcount : valueEnd lines (place + 1) next.text + 1 - place =
        valueEnd lines (place + 1) next.text - (place + 1) + 1 + 1 := by omega
    rw [account_of_next h, List.map_cons, List.map_cons, map_fst_valueRoles hnext, hlast, hcount,
      List.range'_succ, List.range'_succ]

/-- A statement that is no definition advances by one line. -/
theorem advances_of_other {statement : Option Statement} (h : place < lines.length)
    (hother : ∀ leader name value, statement ≠ some (.definition leader name value)) :
    Advances lines place statement (lines.drop (place + 1)) := by
  have hstops : stops lines place statement = [place] := stops_of_other hother
  have hlast : lastStop lines place statement = place := by
    rw [lastStop, hstops]
    rfl
  constructor
  case left_eq => rw [hlast]
  case le_lastStop => rw [hlast]
  case lastStop_lt => rwa [hlast]
  case inside =>
    rw [hstops]
    simpa using h
  case places =>
    rw [account_of_other hother, hlast, Nat.add_sub_cancel_left]
    rfl

/-- Whatever a statement binds, it advances behind the last line that it uses. -/
theorem Binds.advances {bindings after : Bindings} {left : List Line}
    {statement : Option Statement} (h : place < lines.length)
    (hbinds : Binds bindings (lines.drop (place + 1)) statement after left) :
    Advances lines place statement left := by
  cases hbinds with
  | keep hother => exact advances_of_other h hother
  | define hdefined =>
    rcases definedValue_cases hdefined with ⟨hvalue, heq⟩ | ⟨rfl, next, rest, hlines, heq⟩
    · obtain rfl := congrArg Prod.snd heq
      exact advances_of_ne_nil h hvalue
    · obtain rfl := congrArg Prod.snd heq
      have hnext : lines[place + 1]? = some next := by
        rw [← List.head?_drop, hlines, List.head?_cons]
      have hrest : rest = lines.drop (place + 1 + 1) := by
        rw [← List.tail_drop, hlines, List.tail_cons]
      rw [hrest]
      exact advances_of_next hnext

end Statement

/-! ## Scans -/

section Run

variable {lines : List Line} {state : State} {place : Nat}

/-- A visit leaves the lines behind the last stop of the cursor. -/
theorem rest_eq_drop {line : Line} {passage : Passage} (h : lines[place]? = some line)
    (hvisit : visitLine state line (lines.drop (place + 1)) = .ok passage) :
    Advances lines place passage.visit.statement? passage.rest := by
  rcases visitLine_ok hvisit with ⟨statement, hpassed⟩
  rw [hpassed.statement?_eq]
  exact hpassed.binds.advances (List.getElem?_eq_some_iff.mp h).1

/-- What holds behind the last line, where a visit fails, and wherever it holds behind the last
stop of a visit, holds at every place that a scan can start from. -/
theorem run_induction {motive : State → Nat → Prop} (done : ∀ state, motive state lines.length)
    (fails : ∀ {state : State} {place : Nat} {line : Line} {visit : Visit} {reason : Malformation},
      lines[place]? = some line →
        visitLine state line (lines.drop (place + 1)) = .error (visit, reason) → motive state place)
    (goes : ∀ {state : State} {place : Nat} {line : Line} {passage : Passage},
      lines[place]? = some line → visitLine state line (lines.drop (place + 1)) = .ok passage →
        motive passage.after (lastStop lines place passage.visit.statement? + 1) →
          motive state place)
    (h : place ≤ lines.length) : motive state place := by
  induction hleft : lines.length - place using Nat.strongRecOn generalizing state place with
  | ind left ih =>
    by_cases hplace : place = lines.length
    · rw [hplace]
      exact done state
    · have hlt : place < lines.length := Nat.lt_of_le_of_ne h hplace
      have hline : lines[place]? = some lines[place] := List.getElem?_eq_getElem hlt
      cases hvisit : visitLine state lines[place] (lines.drop (place + 1)) with
      | error failed => exact fails hline hvisit
      | ok passage =>
        have hadvances := rest_eq_drop hline hvisit
        have hle := hadvances.le_lastStop
        have hbehind := hadvances.lastStop_lt
        exact goes hline hvisit (ih _ (by omega) hbehind rfl)

/-- What is left from a place on begins with the line there. -/
theorem drop_of_getElem? {line : Line} (h : lines[place]? = some line) :
    lines.drop place = line :: lines.drop (place + 1) := by
  rcases List.getElem?_eq_some_iff.mp h with ⟨hlt, rfl⟩
  exact List.drop_eq_getElem_cons hlt

/-- A visit that succeeds is followed by the run from behind its last stop. -/
theorem run_drop_of_ok {line : Line} {passage : Passage} (h : lines[place]? = some line)
    (hvisit : visitLine state line (lines.drop (place + 1)) = .ok passage) :
    run state (lines.drop place) =
      ⟨passage.visit ::
          (run passage.after
            (lines.drop (lastStop lines place passage.visit.statement? + 1))).visits,
        (run passage.after
          (lines.drop (lastStop lines place passage.visit.statement? + 1))).failure⟩ := by
  rw [drop_of_getElem? h, run_cons_of_ok hvisit, ← (rest_eq_drop h hvisit).left_eq]

/-- A visit that fails ends the run at its line. -/
theorem run_drop_of_error {line : Line} {visit : Visit} {reason : Malformation}
    (h : lines[place]? = some line)
    (hvisit : visitLine state line (lines.drop (place + 1)) = .error (visit, reason)) :
    run state (lines.drop place) = ⟨[visit], some ⟨line.number, line.text, reason⟩⟩ := by
  rw [drop_of_getElem? h, run_cons_of_error hvisit]

/-- With a turn for every line that is left, the cursor gets through the lines and does what the
scan of the lines does. -/
theorem runWithin_eq_run {turns : Nat} (h : lines.length ≤ place + turns) :
    runWithin lines turns state place = some (run state (lines.drop place)) := by
  induction turns generalizing state place with
  | zero =>
    rw [Nat.add_zero] at h
    rw [runWithin, if_pos h, List.drop_eq_nil_of_le h, run_nil]
  | succ turns ih =>
    cases hline : lines[place]? with
    | none =>
      have hle := List.getElem?_eq_none_iff.mp hline
      simp [runWithin, hline, List.drop_eq_nil_of_le hle]
    | some line =>
      cases hvisit : visitLine state line (lines.drop (place + 1)) with
      | error failed =>
        rw [run_drop_of_error hline hvisit]
        simp [runWithin, hline, hvisit]
      | ok passage =>
        have hle := (rest_eq_drop hline hvisit).le_lastStop
        rw [run_drop_of_ok hline hvisit]
        simp only [runWithin, hline, hvisit]
        rw [ih (by omega)]
        rfl

/-- A scan visits no more lines than there are. -/
theorem length_visits_le (state : State) (h : place ≤ lines.length) :
    (run state (lines.drop place)).visits.length ≤ lines.length - place := by
  refine run_induction (motive := fun state place =>
    (run state (lines.drop place)).visits.length ≤ lines.length - place) ?done ?fails ?goes h
  case done =>
    intro state
    simp
  case fails =>
    intro state place line visit reason hline hvisit
    have hlt := (List.getElem?_eq_some_iff.mp hline).1
    rw [run_drop_of_error hline hvisit, List.length_singleton]
    omega
  case goes =>
    intro state place line passage hline hvisit ih
    have hadvances := rest_eq_drop hline hvisit
    have hle := hadvances.le_lastStop
    have hlt := hadvances.lastStop_lt
    rw [run_drop_of_ok hline hvisit, List.length_cons]
    omega

end Run

/-- Two stretches of places, one where the other ends, are one. -/
theorem range'_append_range' {first middle last : Nat} (hfirst : first ≤ middle)
    (hlast : middle ≤ last) :
    List.range' first (middle - first) ++ List.range' middle (last - middle) =
      List.range' first (last - first) := by
  obtain ⟨count, rfl⟩ := Nat.exists_eq_add_of_le hfirst
  obtain ⟨more, rfl⟩ := Nat.exists_eq_add_of_le hlast
  rw [Nat.add_sub_cancel_left, Nat.add_sub_cancel_left, Nat.add_assoc, Nat.add_sub_cancel_left,
    ← List.range'_append_1]

/-- How many lines a scan of some lines has begun with: all of them, or those up to the line where
it fails. -/
def Run.reach (run : Run) (lines : List Line) : Nat :=
  run.failure.elim lines.length Failure.lineNumber

section Script

variable {content : Text} {state : State} {place : Nat} {line : Line}

/-- A line knows its place in the script. -/
theorem index_of_getElem? (h : (Script.lines content)[place]? = some line) :
    line.index = place := by
  rw [Script.lines, Script.getElem?_linesFrom, Nat.zero_add] at h
  rcases Option.map_eq_some_iff.mp h with ⟨raw, -, rfl⟩
  rfl

/-- A visit that fails deals with its own line only. -/
theorem account_of_error {lines rest : List Line} {visit : Visit} {reason : Malformation}
    (hrest : rest = lines.drop (place + 1))
    (hvisit : visitLine state line rest = .error (visit, reason)) :
    account lines place visit.statement? = [(place, .visited)] := by
  cases hstatement : visit.statement? with
  | none => exact account_of_other (by simp)
  | some stated =>
    have hvisited := visited_of_error hvisit
    rw [← hvisited] at hstatement
    have hread := reads_of_statement? hstatement
    cases stated with
    | definition leader name value =>
      rcases visitLine_error_reason hvisit with hfault | ⟨hnone, -⟩
      · rw [hread] at hfault
        cases hfault
      · by_cases hvalue : value = []
        · have hmissing : lines[place + 1]? = none := by
            rw [← List.head?_drop, ← hrest, hnone, List.head?_nil]
          rw [hvalue]
          exact account_of_missing hmissing
        · -- a value on the line of its definition is found
          have hbinds : Binds state.bindings rest (some (.definition leader name value)) _ _ :=
            .define (definedValue_of_ne_nil hvalue name rest)
          rw [visitLine_of_binds hread hbinds] at hvisit
          cases hvisit
    | _ => exact account_of_other (by simp)

/-- A scan gets at least as far as it starts, and no further than the last line. -/
theorem reach_between (state : State) (h : place ≤ (Script.lines content).length) :
    place ≤ (run state ((Script.lines content).drop place)).reach (Script.lines content) ∧
      (run state ((Script.lines content).drop place)).reach (Script.lines content) ≤
        (Script.lines content).length := by
  refine run_induction (motive := fun state place =>
    place ≤ (run state ((Script.lines content).drop place)).reach (Script.lines content) ∧
      (run state ((Script.lines content).drop place)).reach (Script.lines content) ≤
        (Script.lines content).length)
    ?done ?fails ?goes h
  case done =>
    intro state
    simp [Run.reach]
  case fails =>
    intro state place line visit reason hline hvisit
    have hindex := index_of_getElem? hline
    have hlt := (List.getElem?_eq_some_iff.mp hline).1
    rw [run_drop_of_error hline hvisit]
    change place ≤ line.index + 1 ∧ line.index + 1 ≤ _
    omega
  case goes =>
    intro state place line passage hline hvisit ih
    have hle := (rest_eq_drop hline hvisit).le_lastStop
    rw [run_drop_of_ok hline hvisit]
    change place ≤ (run _ _).reach _ ∧ (run _ _).reach _ ≤ _
    omega

/-- The accounts of the visits list the places of a script one after another, as far as the scan
gets. -/
theorem map_fst_accounts (state : State) (h : place ≤ (Script.lines content).length) :
    ((run state ((Script.lines content).drop place)).visits.flatMap
        (Visit.account (Script.lines content))).map Prod.fst =
      List.range' place
        ((run state ((Script.lines content).drop place)).reach (Script.lines content) - place) := by
  refine run_induction (motive := fun state place =>
    ((run state ((Script.lines content).drop place)).visits.flatMap
        (Visit.account (Script.lines content))).map Prod.fst =
      List.range' place
        ((run state ((Script.lines content).drop place)).reach (Script.lines content) - place))
    ?done ?fails ?goes h
  case done =>
    intro state
    simp [Run.reach]
  case fails =>
    intro state place line visit reason hline hvisit
    have hindex := index_of_getElem? hline
    have hvisited : visit.line = line := by rw [← visited_of_error hvisit, visited_line]
    rw [run_drop_of_error hline hvisit, List.flatMap_singleton, Visit.account, hvisited, hindex,
      account_of_error rfl hvisit]
    change [place] = List.range' place (line.index + 1 - place)
    rw [hindex, Nat.add_sub_cancel_left]
    rfl
  case goes =>
    intro state place line passage hline hvisit ih
    have hindex := index_of_getElem? hline
    have hvisited : passage.visit.line = line := by rw [← visited_of_ok hvisit, visited_line]
    have hadvances := rest_eq_drop hline hvisit
    have hle := hadvances.le_lastStop
    have hreach := (reach_between passage.after hadvances.lastStop_lt).1
    rw [run_drop_of_ok hline hvisit, List.flatMap_cons, List.map_append, Visit.account, hvisited,
      hindex, hadvances.places, ih]
    exact range'_append_range' (Nat.le_succ_of_le hle) hreach

/-- The cursor of a scan that does not fail never passes the last line while a line is
processed. -/
theorem stop_lt_of_mem_stops (state : State) (h : place ≤ (Script.lines content).length) :
    (run state ((Script.lines content).drop place)).failure = none →
      ∀ visit ∈ (run state ((Script.lines content).drop place)).visits,
        ∀ stop ∈ visit.stops (Script.lines content), stop < (Script.lines content).length := by
  refine run_induction (motive := fun state place =>
    (run state ((Script.lines content).drop place)).failure = none →
      ∀ visit ∈ (run state ((Script.lines content).drop place)).visits,
        ∀ stop ∈ visit.stops (Script.lines content), stop < (Script.lines content).length)
    ?done ?fails ?goes h
  case done =>
    intro state _
    simp
  case fails =>
    intro state place line visit reason hline hvisit hnone
    rw [run_drop_of_error hline hvisit] at hnone
    cases hnone
  case goes =>
    intro state place line passage hline hvisit ih hnone visit hmem
    rw [run_drop_of_ok hline hvisit] at hnone hmem
    rcases List.mem_cons.mp hmem with rfl | hlater
    · have hvisited : passage.visit.line = line := by rw [← visited_of_ok hvisit, visited_line]
      rw [Visit.stops, hvisited, index_of_getElem? hline]
      exact (rest_eq_drop hline hvisit).inside
    · exact ih hnone visit hlater

/-- Every visit of a script stands at a line of the script. -/
theorem index_lt_of_mem_visits {visit : Visit} (h : visit ∈ (Script.scan content).visits) :
    visit.line.index < (Script.lines content).length := by
  rcases List.getElem?_of_mem (line_mem_of_mem_visits h) with ⟨place, hplace⟩
  rw [index_of_getElem? hplace]
  exact (List.getElem?_eq_some_iff.mp hplace).1

end Script

/-- A scan goes over all lines of a script: the accounts of its visits list every place once and
in order, and its cursor stands on lines of the script only. -/
structure GoesOver (content : Text) : Prop where
  places : ((Script.scan content).visits.flatMap
    (Visit.account (Script.lines content))).map Prod.fst =
      List.range (Script.lines content).length
  inside : ∀ visit ∈ (Script.scan content).visits,
    ∀ stop ∈ visit.stops (Script.lines content), stop < (Script.lines content).length

/-- A scan is the run from the first place on. -/
theorem scan_eq_run_drop (content : Text) :
    Script.scan content = run {} ((Script.lines content).drop 0) := rfl

/-- No visit deals with a place that is no line of the script. -/
theorem place_lt_of_mem_account {content : Text} {visit : Visit}
    (h : visit ∈ (Script.scan content).visits) {entry : Nat × Role}
    (hentry : entry ∈ visit.account (Script.lines content)) :
    entry.1 < (Script.lines content).length := by
  have hplaces := map_fst_accounts {} (Nat.zero_le (Script.lines content).length)
  have hreach := (reach_between {} (Nat.zero_le (Script.lines content).length)).2
  have hmem : entry.1 ∈ ((Script.scan content).visits.flatMap
      (Visit.account (Script.lines content))).map Prod.fst :=
    List.mem_map_of_mem (List.mem_flatMap.mpr ⟨visit, h, hentry⟩)
  rw [scan_eq_run_drop, hplaces, List.mem_range'_1] at hmem
  omega

end Scan

open Scan

/-- A scan ends after no more turns than there are lines, on every script.  Its cursor never
moves backwards while a line is processed, and no visit deals with a place that is no line.  If
the scan does not fail, it goes over every line once and in order, and the cursor never passes the
last line. -/
theorem scan_goes_over_lines (content : Text) :
    runWithin (Script.lines content) (Script.lines content).length {} 0 =
        some (Script.scan content) ∧
      (Script.scan content).visits.length ≤ (Script.lines content).length ∧
      (∀ visit ∈ (Script.scan content).visits,
        (visit.stops (Script.lines content)).Pairwise (· ≤ ·) ∧
          ∀ entry ∈ visit.account (Script.lines content),
            entry.1 < (Script.lines content).length) ∧
      ∀ issued, Script.requests content = .ok issued → GoesOver content := by
  refine ⟨?ends, ?turns, ?visits, ?goesOver⟩
  case ends => exact runWithin_eq_run (by omega)
  case turns => exact length_visits_le {} (Nat.zero_le _)
  case visits =>
    intro visit hvisit
    refine ⟨pairwise_stops (index_lt_of_mem_visits hvisit) visit.statement?, ?_⟩
    intro entry hentry
    exact place_lt_of_mem_account hvisit hentry
  case goesOver =>
    intro issued hissued
    have hnone := (Script.requests_eq_ok.mp hissued).1
    have hplaces := map_fst_accounts {} (Nat.zero_le (Script.lines content).length)
    constructor
    case places =>
      rw [scan_eq_run_drop] at hnone ⊢
      rw [hplaces, Run.reach, hnone, List.range_eq_range']
      rfl
    case inside => exact stop_lt_of_mem_stops {} (Nat.zero_le _) hnone

/-- A script with values on the line behind their definitions; the last of them opens a block on
the line before the end. -/
def spreadValues : Text :=
  "* def a =\n\"\"\"\nScenario: x\n'''\n* def b = 1\n* def c =\n'''x\n* method put".toList

theorem scan_goes_over_lines_spreadValues :
    Script.requests spreadValues = .ok [] ∧
      (Script.scan spreadValues).visits.flatMap (Visit.account (Script.lines spreadValues)) =
        [(0, .visited), (1, .value), (2, .body), (3, .closing), (4, .visited), (5, .visited),
          (6, .value), (7, .body)] ∧
      (Script.scan spreadValues).visits.map (Visit.stops (Script.lines spreadValues)) =
        [[0, 1, 3], [4, 4], [5, 6, 7]] ∧
      GoesOver spreadValues := by
  have hissued : Script.requests spreadValues = .ok [] :=
    Script.requests_eq_ok.mpr (by decide +kernel)
  exact ⟨hissued, by decide +kernel, by decide +kernel,
    (scan_goes_over_lines spreadValues).2.2.2 [] hissued⟩

end RequestScript

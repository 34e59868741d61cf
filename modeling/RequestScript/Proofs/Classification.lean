import RequestScript.Statement.Reading
import RequestScript.Proofs.Substitution

/-!
# Reading statements off their heads

A line that begins with a leader, a gap and a keyword is read by that keyword,
whatever follows, and substitution does not touch this head unless a name occurs in
one of its two words.  In the other direction, what has been read is sound: names
are names, header and parameter values hold no quotes, and a method is the
upper-case form of a word.

Main results:

- Definition {lit}`headed`: a line with a leader and a keyword in front.
- Theorem {lit}`ofText_headed`: such a line is read by its keyword.
- Theorem {lit}`substitute_headed`: substitution leaves its head alone.
- Theorem {lit}`parts_of_ofText`: everything that a line can state.
- Theorem {lit}`sound_of_ofText`: every statement that is read is sound.
-/

namespace RequestScript

open Text

/-- A leader is spelled by one word. -/
theorem Leader.isWord_spelling (leader : Leader) : IsWord leader.spelling := by
  cases leader <;> decide

/-- A keyword is spelled by one word. -/
theorem Keyword.isWord_spelling (keyword : Keyword) : IsWord keyword.spelling := by
  cases keyword <;> decide

/-- No leader is spelled with an equals sign. -/
theorem Leader.equals_not_mem_spelling (leader : Leader) : '=' ∉ leader.spelling := by
  cases leader <;> decide

/-- No keyword is spelled with an equals sign. -/
theorem Keyword.equals_not_mem_spelling (keyword : Keyword) : '=' ∉ keyword.spelling := by
  cases keyword <;> decide

/-- Leaders are told by their spelling. -/
theorem Leader.spelling_inj {leader other : Leader} :
    leader.spelling = other.spelling ↔ leader = other := by
  cases leader <;> cases other <;> decide

/-- Every leader but {lit}`When` may stand before every keyword. -/
theorem Keyword.admits_of_ne_when (keyword : Keyword) {leader : Leader} (h : leader ≠ .when) :
    keyword.admits leader = true := by
  simp [Keyword.admits, h]

namespace Statement

/-! ## Heads -/

/-- A line with a leader and a keyword in front. -/
def headed (leader : Leader) (gap : Text) (keyword : Keyword) (rest : Text) : Text :=
  leader.spelling ++ (gap ++ (keyword.spelling ++ rest))

section Heads

variable {leader : Leader} {gap : Text} {keyword : Keyword} {rest : Text}

/-- The first two words of a headed line are its leader and its keyword. -/
theorem words_headed (hgap : IsGap gap) (hrest : Detached rest) :
    words (headed leader gap keyword rest) =
      leader.spelling :: keyword.spelling :: words rest := by
  rw [headed, words_word_append leader.isWord_spelling (hgap.detached_append _),
    words_blanks_append hgap.2, words_word_append keyword.isWord_spelling hrest]

/-- A headed line begins with its leader. -/
theorem firstWord_headed (hgap : IsGap gap) :
    firstWord (headed leader gap keyword rest) = leader.spelling :=
  firstWord_word_append leader.isWord_spelling (hgap.detached_append _)

/-- A headed line is no boundary. -/
theorem isBoundary_headed : isBoundary (headed leader gap keyword rest) = false := by
  cases leader <;>
    simp [isBoundary, boundaryMarks, headed, Leader.spelling, List.isPrefixOf]

/-- A headed line opens with its leader and its keyword, if the one admits the other. -/
theorem opening?_headed (hadmits : keyword.admits leader = true) (hgap : IsGap gap)
    (hrest : Detached rest) :
    opening? (headed leader gap keyword rest) = some (leader, keyword) := by
  simp [opening?, words_headed hgap hrest, hadmits]

/-- A line with a head is read by its keyword. -/
theorem ofText_headed (hadmits : keyword.admits leader = true) (hgap : IsGap gap)
    (hrest : Detached rest) (written : Text) :
    ofText (headed leader gap keyword rest) written =
      (ofParts leader keyword (headed leader gap keyword rest) written).map some := by
  simp [ofText, isBoundary_headed, opening?_headed hadmits hgap hrest]

/-- The operand of a line is the first word after its head. -/
theorem operand_headed (hgap : IsGap gap) (hrest : Detached rest) :
    operand (headed leader gap keyword rest) =
      match (words rest)[0]? with
      | some word => .ok word
      | none => .error .missingOperand := by
  rw [operand, words_headed hgap hrest]
  rfl

/-- The operand stands behind a gap and goes up to the next blank. -/
theorem operand_headed_append {between name tail : Text} (hgap : IsGap gap)
    (hbetween : IsGap between) (hname : IsWord name) (htail : Detached tail) :
    operand (headed leader gap keyword (between ++ (name ++ tail))) = .ok name := by
  rw [operand_headed hgap (hbetween.detached_append _), words_blanks_append hbetween.2,
    words_word_append hname htail]
  rfl

/-- The third word of a headed line is its operand. -/
theorem operand_headed_word {name tail : Text} (hgap : IsGap gap) (hname : IsWord name)
    (htail : Detached tail) :
    operand (headed leader gap keyword (' ' :: (name ++ tail))) = .ok name :=
  operand_headed_append hgap isGap_space hname htail

/-- The head of a line has no equals sign, so the line is split behind it. -/
theorem splitAtFirst_headed (hgap : IsGap gap) :
    splitAtFirst '=' (headed leader gap keyword rest) =
      (headed leader gap keyword (splitAtFirst '=' rest).1, (splitAtFirst '=' rest).2) := by
  have hblank : '=' ∉ gap := equals_not_mem_of_blanks hgap.2
  rw [headed, splitAtFirst_append_left leader.equals_not_mem_spelling,
    splitAtFirst_append_left hblank, splitAtFirst_append_left keyword.equals_not_mem_spelling]
  rfl

/-- The name of an assignment is the operand of what stands before the first equals
sign. -/
theorem assignment_headed {left : Text} (hgap : IsGap gap) (hleft : '=' ∉ left) (right : Text) :
    assignment (headed leader gap keyword (left ++ '=' :: right)) =
      (operand (headed leader gap keyword left)).map fun name => (name, some right) := by
  rw [assignment, splitAtFirst_headed hgap, splitAtFirst_append hleft]
  cases h : operand (headed leader gap keyword left) <;>
    simp [h, bind, Except.bind, pure, Except.pure, Except.map]

/-- A headed line with an equals sign assigns what stands behind it. -/
theorem fullAssignment_headed {left : Text} (hgap : IsGap gap) (hleft : '=' ∉ left)
    (right : Text) :
    fullAssignment (headed leader gap keyword (left ++ '=' :: right)) =
      (operand (headed leader gap keyword left)).map fun name => (name, right) := by
  rw [fullAssignment, splitAtFirst_headed hgap, splitAtFirst_append hleft]
  cases h : operand (headed leader gap keyword left) <;>
    simp [h, bind, Except.bind, pure, Except.pure, Except.map]

end Heads

/-! ## Substitution -/

/-- What occurs in no part of a line occurs nowhere in it; here for the parts of a line
with a head. -/
theorem avoids_of_headed {bindings : Bindings} {leader : Leader} {gap : Text} {keyword : Keyword}
    {rest : Text} (h : bindings.Avoids (headed leader gap keyword rest)) :
    bindings.Avoids leader.spelling ∧ bindings.Avoids keyword.spelling ∧ bindings.Avoids rest := by
  refine ⟨h.of_isInfix ?_, h.of_isInfix ?_, h.of_isInfix ?_⟩
  · exact (List.prefix_append _ _).isInfix
  · exact ⟨leader.spelling ++ gap, rest, by simp [headed]⟩
  · exact ⟨leader.spelling ++ (gap ++ keyword.spelling), [], by simp [headed]⟩

/-- Substitution leaves a head alone in whose words no name occurs. -/
theorem substitute_headed {bindings : Bindings} (hnamed : bindings.Named) {leader : Leader}
    {gap : Text} {keyword : Keyword} {rest : Text} (hleader : bindings.Avoids leader.spelling)
    (hkeyword : bindings.Avoids keyword.spelling) (hgap : IsGap gap) (hrest : Detached rest) :
    bindings.substitute (headed leader gap keyword rest) =
      headed leader gap keyword (bindings.substitute rest) := by
  rw [headed, hnamed.substitute_append _ (hgap.detached_append _), hleader.substitute_eq hnamed,
    hnamed.substitute_blanks_append hgap.2, hnamed.substitute_append _ hrest,
    hkeyword.substitute_eq hnamed]
  rfl

/-! ## Soundness -/

/-- What is known of a statement that has been read. -/
def Sound : Statement → Prop
  | .boundary text => isBoundary text = true
  | .definition _ name _ => IsName name
  | .url .. => True
  | .path .. => True
  | .header _ name value => IsName name ∧ ∀ c ∈ value, Literal.isQuote c = false
  | .method _ given => ∃ word, IsWord word ∧ given = upper word
  | .param _ name value => IsName name ∧ ∀ c ∈ value, Literal.isQuote c = false
  | .request _ name => IsWord name

/-- An operand is a word of its line. -/
theorem isWord_of_operand {text word : Text} (h : operand text = .ok word) :
    IsWord word ∧ ∀ c ∈ word, c ∈ text := by
  unfold operand at h
  split at h
  · rename_i found hfound
    obtain rfl : found = word := by simpa using h
    have hmem : found ∈ words text := List.mem_of_getElem? hfound
    exact ⟨isWord_of_mem_words hmem, fun c hc => mem_of_mem_words hmem hc⟩
  · simp at h

/-- The name before an equals sign is a name. -/
theorem isName_of_operand {text name : Text}
    (h : operand (splitAtFirst '=' text).1 = .ok name) : IsName name := by
  have hword := isWord_of_operand h
  exact ⟨hword.1, fun hmem => not_mem_splitAtFirst_fst '=' text (hword.2 '=' hmem)⟩

/-- What is assigned to has a name. -/
theorem isName_of_assignment {text name : Text} {value : Option Text}
    (h : assignment text = .ok (name, value)) : IsName name := by
  simp only [assignment, bind, Except.bind] at h
  split at h
  · simp at h
  · rename_i found hfound
    have hpair : found = name ∧ (splitAtFirst '=' text).2 = value := by
      simpa [pure, Except.pure] using h
    exact isName_of_operand (hpair.1 ▸ hfound)

/-- A full assignment has an operand in front of the first equals sign, and a value behind it. -/
theorem fullAssignment_eq_ok {text name value : Text} :
    fullAssignment text = .ok (name, value) ↔
      operand (splitAtFirst '=' text).1 = .ok name ∧ (splitAtFirst '=' text).2 = some value := by
  unfold fullAssignment
  rcases splitAtFirst '=' text with ⟨left, _ | right⟩
  · simp
  · cases h : operand left <;> simp [h, bind, Except.bind, pure, Except.pure]

/-- What is fully assigned to has a name. -/
theorem isName_of_fullAssignment {text name value : Text}
    (h : fullAssignment text = .ok (name, value)) : IsName name :=
  isName_of_operand (fullAssignment_eq_ok.mp h).1

/-- No quote is left when quotes are removed. -/
theorem isQuote_of_mem_removeQuotes {value : Text} {c : Char}
    (h : c ∈ Literal.removeQuotes value) : Literal.isQuote c = false := by
  have hc := (List.mem_filter.mp h).2
  simpa using hc

/-- What a keyword makes of the operands of a line. -/
inductive Parts (leader : Leader) (text written : Text) : Keyword → Statement → Prop where
  | define {name : Text} {value : Option Text} (h : assignment text = .ok (name, value)) :
      Parts leader text written .define (.definition leader name (trim (value.getD [])))
  | url : Parts leader text written .url (.url leader (Literal.quotedPart text))
  | path : Parts leader text written .path (.path leader (Literal.quotedPart text))
  | header {name value : Text} (h : fullAssignment text = .ok (name, value)) :
      Parts leader text written .header (.header leader name (Literal.removeQuotes value))
  | method {word : Text} (h : operand text = .ok word) :
      Parts leader text written .method (.method leader (upper word))
  | param {name value : Text} (h : fullAssignment text = .ok (name, value)) :
      Parts leader text written .param (.param leader name (Literal.removeQuotes value))
  | request {name : Text} (h : operand written = .ok name) :
      Parts leader text written .request (.request leader name)

/-- A statement has the parts that it is read from. -/
theorem parts_of_ofParts {leader : Leader} {keyword : Keyword} {text written : Text}
    {statement : Statement} (h : ofParts leader keyword text written = .ok statement) :
    Parts leader text written keyword statement := by
  cases keyword with
  | define =>
    cases hread : assignment text with
    | error reason => simp [ofParts, hread, bind, Except.bind] at h
    | ok pair =>
      simp only [ofParts, hread, bind, Except.bind, pure, Except.pure, Except.ok.injEq] at h
      exact h ▸ .define hread
  | url =>
    rw [ofParts, Except.ok.injEq] at h
    exact h ▸ .url
  | path =>
    rw [ofParts, Except.ok.injEq] at h
    exact h ▸ .path
  | header =>
    cases hread : fullAssignment text with
    | error reason => simp [ofParts, hread, bind, Except.bind] at h
    | ok pair =>
      simp only [ofParts, hread, bind, Except.bind, pure, Except.pure, Except.ok.injEq] at h
      exact h ▸ .header hread
  | method =>
    cases hread : operand text with
    | error reason => simp [ofParts, hread, bind, Except.bind] at h
    | ok word =>
      simp only [ofParts, hread, bind, Except.bind, pure, Except.pure, Except.ok.injEq] at h
      exact h ▸ .method hread
  | param =>
    cases hread : fullAssignment text with
    | error reason => simp [ofParts, hread, bind, Except.bind] at h
    | ok pair =>
      simp only [ofParts, hread, bind, Except.bind, pure, Except.pure, Except.ok.injEq] at h
      exact h ▸ .param hread
  | request =>
    cases hread : operand written with
    | error reason => simp [ofParts, hread, bind, Except.bind] at h
    | ok word =>
      simp only [ofParts, hread, bind, Except.bind, pure, Except.pure, Except.ok.injEq] at h
      exact h ▸ .request hread

/-- A line that states something is a scenario line, or a keyword has been read off its
head. -/
theorem parts_of_ofText {text written : Text} {statement : Statement}
    (h : ofText text written = .ok (some statement)) :
    isBoundary text = true ∧ statement = .boundary text ∨
      ∃ leader keyword, Parts leader text written keyword statement := by
  unfold ofText at h
  split at h
  · rename_i hboundary
    exact Or.inl ⟨hboundary, by simpa using h.symm⟩
  · split at h
    · simp at h
    · rename_i leader keyword _
      cases hparts : ofParts leader keyword text written with
      | error reason => simp [hparts, Except.map] at h
      | ok read =>
        obtain rfl : read = statement := by simpa [hparts, Except.map] using h
        exact Or.inr ⟨leader, keyword, parts_of_ofParts hparts⟩

/-- A statement with these parts is sound: its names are names, and its values have lost their
quotes. -/
theorem Parts.sound {leader : Leader} {keyword : Keyword} {text written : Text}
    {statement : Statement} (h : Parts leader text written keyword statement) :
    statement.Sound := by
  cases h with
  | define hread => exact isName_of_assignment hread
  | url => trivial
  | path => trivial
  | header hread =>
    exact ⟨isName_of_fullAssignment hread, fun c hc => isQuote_of_mem_removeQuotes hc⟩
  | method hread => exact ⟨_, (isWord_of_operand hread).1, rfl⟩
  | param hread =>
    exact ⟨isName_of_fullAssignment hread, fun c hc => isQuote_of_mem_removeQuotes hc⟩
  | request hread => exact (isWord_of_operand hread).1

/-- Every statement that is read is sound. -/
theorem sound_of_ofText {text written : Text} {statement : Statement}
    (h : ofText text written = .ok (some statement)) : statement.Sound := by
  rcases parts_of_ofText h with ⟨hboundary, rfl⟩ | ⟨leader, keyword, hparts⟩
  · exact hboundary
  · exact hparts.sound

/-- Only a scenario line is read as one. -/
theorem isBoundary_of_ofText {text written mark : Text}
    (h : ofText text written = .ok (some (.boundary mark))) : isBoundary text = true := by
  rcases parts_of_ofText h with ⟨hboundary, -⟩ | ⟨leader, keyword, hparts⟩
  · exact hboundary
  · cases hparts

end Statement

end RequestScript
